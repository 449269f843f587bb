import CubeQuery.Graph.Tree
import CubeQuery.Proofs.Graph.ReportedCycle

/-! A graph printed as a tree. A place that is already on its path is not followed, so that the printing ends on
every graph, since a path without repetitions has no more places than the graph. In a graph without cycles no path
has a repetition, and the lines are the paths from the roots, in the order of their places. -/

namespace CubeQuery.Graph

open List Relation

variable {ν : Type}

/-! ### Printing ends -/

/-- What the printing of a place writes below a path, which is in reverse, with nothing to bound it: the line of the
place and, unless the place is on the path already, what is written for its dependencies in turn. -/
inductive Prints (graph : Graph ν) : List Nat → Nat → List (Nat × Nat) → Prop where
  | repeated {path : List Nat} {index : Nat} (known : index ∈ path) : Prints graph path index [(path.length, index)]
  | followed {path : List Nat} {index : Nat} {below : Nat → List (Nat × Nat)} (new : index ∉ path)
      (each : ∀ other ∈ graph.sortedSuccessors index, Prints graph (index :: path) other (below other)) :
      Prints graph path index ((path.length, index) :: (graph.sortedSuccessors index).flatMap below)

theorem Prints.unique {graph : Graph ν} {path : List Nat} {index : Nat} {lines others : List (Nat × Nat)}
    (prints : Prints graph path index lines) (again : Prints graph path index others) : others = lines := by
  induction prints generalizing others with
  | repeated known =>
    cases again with
    | repeated => rfl
    | followed new => exact absurd known new
  | followed new _ ih =>
    cases again with
    | repeated known => exact absurd known new
    | followed _ each =>
      congr 1
      exact flatMap_congr fun other listed => ih other listed (each other listed)

theorem mem_sortedSuccessors {graph : Graph ν} {index other : Nat} :
    other ∈ graph.sortedSuccessors index ↔ graph.Edge index other :=
  mem_mergeSort.trans mem_successors

theorem length_le_size {graph : Graph ν} {path : List Nat} (distinct : path.Nodup)
    (within : ∀ place ∈ path, place < graph.size) : path.length ≤ graph.size := by
  have included : path ⊆ range graph.size := fun place listed => mem_range.mpr (within place listed)
  simpa using (subperm_of_subset distinct included).length_le

/-- The bound on the length of a path is never reached. -/
theorem WellFormed.prints_linesFrom {graph : Graph ν} (wellFormed : graph.WellFormed) {bound index : Nat}
    {path : List Nat} (inside : index < graph.size) (within : ∀ place ∈ path, place < graph.size)
    (distinct : path.Nodup) (enough : graph.size < bound + path.length) :
    Prints graph path index (graph.linesFrom bound path index) := by
  induction bound generalizing path index with
  | zero =>
    have short := length_le_size distinct within
    omega
  | succ bound ih =>
    unfold linesFrom
    by_cases known : index ∈ path
    · rw [if_pos (contains_iff_mem.mpr known)]
      exact .repeated known
    · rw [if_neg fun listed => known (contains_iff_mem.mp listed)]
      refine .followed known fun other listed => ?_
      have edge := mem_sortedSuccessors.mp listed
      refine ih (wellFormed.inside edge).2 ?_ (nodup_cons.mpr ⟨known, distinct⟩) ?_
      · exact forall_mem_cons.mpr ⟨inside, within⟩
      · rw [length_cons]
        omega

/-- A line of the tree: one tab for each step from the root, and the label of the place. -/
def lineText (graph : Graph ν) (label : Nat → ν → String) (line : Nat × Nat) : String :=
  String.ofList (replicate line.1 '\t')
    ++ (match graph.nodes[line.2]? with
      | some node => label line.2 node
      | none => "")
    ++ "\n"

theorem tree_eq_join (graph : Graph ν) (label : Nat → ν → String) :
    graph.tree label = String.join (graph.lines.map (graph.lineText label)) := rfl

theorem mem_rootIndices {graph : Graph ν} {index : Nat} :
    index ∈ graph.rootIndices ↔ index < graph.size ∧ ∀ other, ¬graph.Edge other index := by
  unfold rootIndices indices isRoot
  simp only [mem_filter, mem_range, Bool.not_eq_true', any_eq_false, decide_eq_true_eq]
  refine and_congr_right fun _ => ?_
  constructor
  · exact fun undirected other edge => undirected _ edge rfl
  · rintro rootless ⟨consumer, dependency⟩ edge rfl
    exact rootless consumer edge

/-- What is written for the roots is all that printing them can write. -/
theorem WellFormed.exists_printed {graph : Graph ν} (wellFormed : graph.WellFormed) (label : Nat → ν → String) :
    ∃ below : Nat → List (Nat × Nat),
      (∀ root ∈ graph.rootIndices, Prints graph [] root (below root) ∧
        ∀ lines, Prints graph [] root lines → lines = below root) ∧
      graph.tree label = String.join ((graph.rootIndices.flatMap below).map (graph.lineText label)) := by
  refine ⟨graph.linesFrom (graph.size + 1) [], fun root listed => ?_, rfl⟩
  have prints : Prints graph [] root (graph.linesFrom (graph.size + 1) [] root) :=
    wellFormed.prints_linesFrom (mem_rootIndices.mp listed).1 (forall_mem_nil _) nodup_nil (Nat.lt_succ_self _)
  exact ⟨prints, fun lines again => prints.unique again⟩

/-! ### Paths -/

/-- The paths of at most so many places that start at a place, depth first. -/
def pathsFrom (graph : Graph ν) : Nat → Nat → List (List Nat)
  | 0, _ => []
  | bound + 1, index =>
    [index] :: (graph.sortedSuccessors index).flatMap fun other => (graph.pathsFrom bound other).map (index :: ·)

theorem mem_pathsFrom {graph : Graph ν} {bound index : Nat} {places : List Nat} :
    places ∈ graph.pathsFrom bound index ↔
      places.head? = some index ∧ List.IsChain graph.Edge places ∧ places.length ≤ bound := by
  induction bound generalizing index places with
  | zero =>
    refine iff_of_false not_mem_nil ?_
    rintro ⟨first, -, none⟩
    rw [length_eq_zero_iff.mp (Nat.le_zero.mp none)] at first
    cases first
  | succ bound ih =>
    unfold pathsFrom
    simp only [mem_cons, mem_flatMap, mem_map, mem_sortedSuccessors, ih]
    constructor
    · rintro (rfl | ⟨other, edge, rest, ⟨first, chain, short⟩, rfl⟩)
      · exact ⟨rfl, .singleton index, Nat.succ_le_succ (Nat.zero_le bound)⟩
      · obtain ⟨others, rfl⟩ := head?_eq_some_iff.mp first
        exact ⟨rfl, .cons_cons edge chain, Nat.succ_le_succ short⟩
    · rintro ⟨first, chain, short⟩
      obtain ⟨rest, rfl⟩ := head?_eq_some_iff.mp first
      cases rest with
      | nil => exact .inl rfl
      | cons other others =>
        obtain ⟨edge, later⟩ := isChain_cons_cons.mp chain
        exact .inr ⟨other, edge, other :: others, ⟨rfl, later, Nat.le_of_succ_le_succ short⟩, rfl⟩

theorem sortedSuccessors_pairwise {graph : Graph ν} (once : graph.edges.Nodup) (index : Nat) :
    (graph.sortedSuccessors index).Pairwise (· < ·) := by
  have distinct : (graph.successors index).Nodup := by
    refine (once.filter _).map_on fun first firstListed second secondListed same => ?_
    have firstFrom := of_decide_eq_true (mem_filter.mp firstListed).2
    have secondFrom := of_decide_eq_true (mem_filter.mp secondListed).2
    exact Prod.ext (firstFrom.trans secondFrom.symm) same
  have sorted : (graph.sortedSuccessors index).Pairwise (· ≤ ·) :=
    (sortedLE_mergeSort).pairwise
  exact (sorted.and ((mergeSort_perm _ _).nodup_iff.mpr distinct)).imp fun ⟨most, different⟩ =>
    Nat.lt_of_le_of_ne most different

/-- Depth first is the lexical order of paths. -/
theorem pathsFrom_pairwise {graph : Graph ν} (once : graph.edges.Nodup) (bound index : Nat) :
    (graph.pathsFrom bound index).Pairwise (· < ·) := by
  induction bound generalizing index with
  | zero => exact .nil
  | succ bound ih =>
    unfold pathsFrom
    refine pairwise_cons.mpr ⟨?_, pairwise_flatMap.mpr ⟨?_, ?_⟩⟩
    · intro places listed
      obtain ⟨other, -, below⟩ := mem_flatMap.mp listed
      obtain ⟨rest, found, rfl⟩ := mem_map.mp below
      obtain ⟨others, rfl⟩ := head?_eq_some_iff.mp (mem_pathsFrom.mp found).1
      exact cons_lt_cons_iff.mpr (.inr ⟨rfl, nil_lt_cons _ _⟩)
    · intro other listed
      rw [pairwise_map]
      exact (ih other).imp fun before => cons_lt_cons_iff.mpr (.inr ⟨rfl, before⟩)
    · refine (sortedSuccessors_pairwise once index).imp fun before places listed others otherListed => ?_
      obtain ⟨rest, found, rfl⟩ := mem_map.mp listed
      obtain ⟨otherRest, otherFound, rfl⟩ := mem_map.mp otherListed
      obtain ⟨_, rfl⟩ := head?_eq_some_iff.mp (mem_pathsFrom.mp found).1
      obtain ⟨_, rfl⟩ := head?_eq_some_iff.mp (mem_pathsFrom.mp otherFound).1
      exact cons_lt_cons_iff.mpr (.inr ⟨rfl, cons_lt_cons_iff.mpr (.inl before)⟩)

theorem exists_cons_of_mem_pathsFrom {graph : Graph ν} {bound index : Nat} {places : List Nat}
    (listed : places ∈ graph.pathsFrom bound index) : ∃ rest, places = index :: rest :=
  head?_eq_some_iff.mp (mem_pathsFrom.mp listed).1

theorem Acyclic.nodup {graph : Graph ν} (acyclic : graph.Acyclic) {places : List Nat}
    (chain : List.IsChain graph.Edge places) : places.Nodup := by
  have paths : places.Pairwise (TransGen graph.Edge) := (chain.imp fun _ _ => .single).pairwise
  refine paths.imp fun path same => ?_
  rw [same] at path
  exact acyclic _ path

theorem Acyclic.nodup_reverse {graph : Graph ν} (acyclic : graph.Acyclic) {places : List Nat}
    (chain : List.IsChain (fun consumer dependency => graph.Edge dependency consumer) places) : places.Nodup := by
  rw [← List.nodup_reverse]
  exact acyclic.nodup (isChain_reverse.mpr chain)

/-- Below a path each line is that of a longer path. -/
theorem linesFrom_eq_map {graph : Graph ν} (acyclic : graph.Acyclic) {bound index : Nat} {path : List Nat}
    (chain : List.IsChain (fun consumer dependency => graph.Edge dependency consumer) (index :: path)) :
    graph.linesFrom bound path index =
      (graph.pathsFrom bound index).map fun places => (path.length + (places.length - 1), places.getLastD index) := by
  induction bound generalizing index path with
  | zero => rfl
  | succ bound ih =>
    have new : index ∉ path := (nodup_cons.mp (acyclic.nodup_reverse chain)).1
    unfold linesFrom pathsFrom
    rw [if_neg fun listed => new (contains_iff_mem.mp listed), map_cons, map_flatMap]
    congr 1
    refine flatMap_congr fun other listed => ?_
    rw [ih (.cons_cons (mem_sortedSuccessors.mp listed) chain), List.map_map]
    refine map_congr_left fun places found => ?_
    obtain ⟨rest, rfl⟩ := exists_cons_of_mem_pathsFrom found
    simp only [Function.comp_apply, length_cons, getLastD_cons, Prod.mk.injEq, and_true]
    omega

/-- The paths from all roots. -/
def rootPaths (graph : Graph ν) : List (List Nat) := graph.rootIndices.flatMap (graph.pathsFrom (graph.size + 1))

theorem lines_eq_map {graph : Graph ν} (acyclic : graph.Acyclic) :
    graph.lines = graph.rootPaths.map fun places => (places.length - 1, places.getLastD 0) := by
  unfold lines rootPaths
  rw [map_flatMap]
  refine flatMap_congr fun root _ => ?_
  rw [linesFrom_eq_map acyclic (.singleton root)]
  refine map_congr_left fun places found => ?_
  obtain ⟨rest, rfl⟩ := exists_cons_of_mem_pathsFrom found
  simp only [length_nil, Nat.zero_add, getLastD_cons]

theorem rootPaths_pairwise {graph : Graph ν} (once : graph.edges.Nodup) : graph.rootPaths.Pairwise (· < ·) := by
  refine pairwise_flatMap.mpr ⟨fun root _ => pathsFrom_pairwise once _ root, ?_⟩
  have ordered : graph.rootIndices.Pairwise (· < ·) := pairwise_lt_range.filter _
  refine ordered.imp fun before places listed others otherListed => ?_
  obtain ⟨_, rfl⟩ := exists_cons_of_mem_pathsFrom listed
  obtain ⟨_, rfl⟩ := exists_cons_of_mem_pathsFrom otherListed
  exact cons_lt_cons_iff.mpr (.inl before)

theorem WellFormed.inside_of_chain {graph : Graph ν} (wellFormed : graph.WellFormed) {first : Nat}
    {places : List Nat} (inside : first < graph.size) (chain : List.IsChain graph.Edge (first :: places)) :
    ∀ place ∈ first :: places, place < graph.size := by
  induction places generalizing first with
  | nil => exact fun place listed => mem_singleton.mp listed ▸ inside
  | cons next rest ih =>
    obtain ⟨edge, later⟩ := isChain_cons_cons.mp chain
    exact forall_mem_cons.mpr ⟨inside, ih (wellFormed.inside edge).2 later⟩

theorem mem_rootPaths {graph : Graph ν} (wellFormed : graph.WellFormed) (acyclic : graph.Acyclic)
    {places : List Nat} : places ∈ graph.rootPaths ↔
      List.IsChain graph.Edge places ∧ ∃ root ∈ places.head?, root ∈ graph.rootIndices := by
  unfold rootPaths
  rw [mem_flatMap]
  constructor
  · rintro ⟨root, rootListed, found⟩
    obtain ⟨first, chain, -⟩ := mem_pathsFrom.mp found
    exact ⟨chain, root, first, rootListed⟩
  · rintro ⟨chain, root, first, rootListed⟩
    obtain ⟨rest, rfl⟩ := head?_eq_some_iff.mp first
    have within := wellFormed.inside_of_chain (mem_rootIndices.mp rootListed).1 chain
    have short := length_le_size (acyclic.nodup chain) within
    exact ⟨root, rootListed, mem_pathsFrom.mpr ⟨rfl, chain, Nat.le_succ_of_le short⟩⟩

theorem within_of_mem_rootPaths {graph : Graph ν} (wellFormed : graph.WellFormed) (acyclic : graph.Acyclic)
    {places : List Nat} (listed : places ∈ graph.rootPaths) :
    places ≠ [] ∧ ∀ place ∈ places, place < graph.size := by
  obtain ⟨chain, root, first, rootListed⟩ := (mem_rootPaths wellFormed acyclic).mp listed
  obtain ⟨rest, rfl⟩ := head?_eq_some_iff.mp first
  exact ⟨cons_ne_nil _ _, wellFormed.inside_of_chain (mem_rootIndices.mp rootListed).1 chain⟩

/-- Without cycles the consumers of a place lead up to a root. -/
theorem exists_rootPath {graph : Graph ν} (wellFormed : graph.WellFormed) (acyclic : graph.Acyclic)
    {index : Nat} (inside : index < graph.size) :
    ∃ places, (List.IsChain graph.Edge places ∧ ∃ root ∈ places.head?, root ∈ graph.rootIndices) ∧
      places.getLast? = some index := by
  have founded : WellFounded fun first second : Fin graph.size => TransGen graph.Edge first second :=
    wellFounded_paths (TransGen graph.Edge) .trans acyclic graph.size
  obtain ⟨place, rfl⟩ : ∃ place : Fin graph.size, place.val = index := ⟨⟨index, inside⟩, rfl⟩
  induction place using founded.induction with
  | _ place ih =>
    by_cases needed : ∃ consumer, graph.Edge consumer place
    · obtain ⟨consumer, edge⟩ := needed
      have consumerInside := (wellFormed.inside edge).1
      obtain ⟨places, ⟨chain, root, first, rootListed⟩, last⟩ :=
        ih ⟨consumer, consumerInside⟩ (.single edge) consumerInside
      refine ⟨places ++ [place.val], ⟨isChain_append.mpr ⟨chain, .singleton _, ?_⟩, root, ?_, rootListed⟩,
        getLast?_concat⟩
      · rintro _ lastFound _ ⟨⟩
        obtain rfl := Option.some.inj (last.symm.trans lastFound)
        exact edge
      · obtain ⟨rest, rfl⟩ := head?_eq_some_iff.mp first
        rfl
    · have isRoot := mem_rootIndices.mpr ⟨inside, fun other edge => needed ⟨other, edge⟩⟩
      exact ⟨[place.val], ⟨.singleton _, place.val, rfl, isRoot⟩, rfl⟩

/-! ### Each dependency once -/

theorem nodup_addEdge {graph : Graph ν} (once : graph.edges.Nodup) (consumer dependency : Nat) :
    (graph.addEdge consumer dependency).edges.Nodup := by
  unfold addEdge
  split
  · exact once
  next new =>
    rw [← concat_eq_append]
    exact once.concat new

variable [DecidableEq ν]

theorem edges_addNode (graph : Graph ν) (node : ν) : (graph.addNode node).edges = graph.edges := by
  unfold addNode
  split <;> rfl

theorem Call.nodup_run {graph : Graph ν} (once : graph.edges.Nodup) (call : Call ν) :
    (call.run graph).edges.Nodup := by
  cases call with
  | node added => exact edges_addNode graph added ▸ once
  | dependency consumer needed =>
    have grown : ((graph.addNode consumer).addNode needed).edges.Nodup := by
      rwa [edges_addNode, edges_addNode]
    unfold Call.run addDependency
    dsimp only
    split
    · exact nodup_addEdge grown _ _
    · exact grown

theorem ofCalls_nodup (calls : List (Call ν)) : (ofCalls calls).edges.Nodup := by
  induction calls using List.reverseRecOn with
  | nil => exact nodup_nil
  | append_singleton calls call ih =>
    unfold ofCalls
    rw [foldl_append]
    exact call.nodup_run ih

/-! ### Paths of nodes -/

/-- Nodes that depend on each other in turn, from one that nothing depends on. -/
structure RootPath (calls : List (Call ν)) (path : List ν) : Prop where
  chain : List.IsChain (DependsOn calls) path
  root : ∃ root ∈ path.head?, root ∈ mentioned calls ∧ ∀ consumer, ¬DependsOn calls consumer root

namespace Records

variable {graph : Graph ν} {calls : List (Call ν)}

theorem edge_idxOf (records : graph.Records calls) (consumer dependency : ν) :
    graph.Edge (graph.nodes.idxOf consumer) (graph.nodes.idxOf dependency) ↔ DependsOn calls consumer dependency := by
  constructor
  · intro edge
    obtain ⟨consumerInside, dependencyInside⟩ := records.wellFormed.inside edge
    obtain ⟨first, second, firstStands, secondStands, depends⟩ := (records.edges _ _).mp edge
    rw [getElem?_idxOf (idxOf_lt_length_iff.mp consumerInside)] at firstStands
    rw [getElem?_idxOf (idxOf_lt_length_iff.mp dependencyInside)] at secondStands
    obtain rfl := Option.some.inj firstStands
    obtain rfl := Option.some.inj secondStands
    exact depends
  · intro depends
    obtain ⟨consumerListed, dependencyListed⟩ := records.mem_nodes depends
    exact (records.edges _ _).mpr
      ⟨consumer, dependency, getElem?_idxOf consumerListed, getElem?_idxOf dependencyListed, depends⟩

theorem idxOf_mem_rootIndices (records : graph.Records calls) (node : ν) :
    graph.nodes.idxOf node ∈ graph.rootIndices ↔
      node ∈ mentioned calls ∧ ∀ consumer, ¬DependsOn calls consumer node := by
  rw [mem_rootIndices, ← records.nodes]
  refine and_congr idxOf_lt_length_iff ⟨?_, ?_⟩
  · exact fun rootless consumer depends => rootless _ ((records.edge_idxOf consumer node).mpr depends)
  · intro rootless other edge
    obtain ⟨consumer, -, stands, -⟩ := (records.edges _ _).mp edge
    have other_eq : other = graph.nodes.idxOf consumer :=
      records.wellFormed.index_unique stands (getElem?_idxOf (mem_of_getElem? stands))
    exact rootless consumer ((records.edge_idxOf consumer node).mp (other_eq ▸ edge))

theorem mem_rootPaths_iff (records : graph.Records calls) (acyclic : graph.Acyclic) {path : List ν} :
    path.map graph.nodes.idxOf ∈ graph.rootPaths ↔ RootPath calls path := by
  have chain_iff : List.IsChain graph.Edge (path.map graph.nodes.idxOf) ↔ List.IsChain (DependsOn calls) path := by
    rw [isChain_map]
    simp only [records.edge_idxOf]
  rw [mem_rootPaths records.wellFormed acyclic, chain_iff]
  constructor
  · rintro ⟨chain, root, first, rootListed⟩
    rw [head?_map] at first
    obtain ⟨node, firstNode, rfl⟩ := Option.map_eq_some_iff.mp first
    exact ⟨chain, node, firstNode, (records.idxOf_mem_rootIndices node).mp rootListed⟩
  · rintro ⟨chain, node, firstNode, isRoot⟩
    refine ⟨chain, graph.nodes.idxOf node, ?_, (records.idxOf_mem_rootIndices node).mpr isRoot⟩
    rw [head?_map, Option.mem_def.mp firstNode]
    rfl

end Records

theorem map_idxOf_nodesAt {graph : Graph ν} (wellFormed : graph.WellFormed) {places : List Nat}
    (within : ∀ place ∈ places, place < graph.size) :
    (graph.nodesAt places).map graph.nodes.idxOf = places := by
  unfold nodesAt
  induction places with
  | nil => rfl
  | cons place places ih =>
    obtain ⟨inside, others⟩ := forall_mem_cons.mp within
    have stands : graph.nodes[place]? = some graph.nodes[place] := getElem?_eq_getElem inside
    rw [filterMap_cons_some stands, map_cons, ih others,
      wellFormed.index_unique (getElem?_idxOf (mem_of_getElem? stands)) stands]

theorem nodesAt_map_idxOf {graph : Graph ν} {path : List ν} (listed : ∀ node ∈ path, node ∈ graph.nodes) :
    graph.nodesAt (path.map graph.nodes.idxOf) = path := by
  unfold nodesAt
  induction path with
  | nil => rfl
  | cons node path ih =>
    obtain ⟨here, others⟩ := forall_mem_cons.mp listed
    rw [map_cons, filterMap_cons_some (getElem?_idxOf here), ih others]

/-! ### The text -/

/-- The line of a path of nodes: one tab for each step, and the label of the last node. -/
def pathText (calls : List (Call ν)) (label : Nat → ν → String) (path : List ν) : String :=
  String.ofList (replicate (path.length - 1) '\t')
    ++ (match path.getLast? with
      | some node => label ((mentioned calls).idxOf node) node
      | none => "")
    ++ "\n"

theorem Records.pathText_eq {graph : Graph ν} {calls : List (Call ν)} (records : graph.Records calls)
    (label : Nat → ν → String) {path : List ν} (nonempty : path ≠ [])
    (listed : ∀ node ∈ path, node ∈ graph.nodes) :
    pathText calls label path = graph.lineText label
      ((path.map graph.nodes.idxOf).length - 1, (path.map graph.nodes.idxOf).getLastD 0) := by
  obtain ⟨front, last, rfl⟩ := (eq_nil_or_concat path).resolve_left nonempty
  have stands : graph.nodes[graph.nodes.idxOf last]? = some last := getElem?_idxOf (listed last (by simp))
  rw [records.nodes] at stands
  unfold pathText lineText
  simp [stands, records.nodes]

theorem Records.exists_paths {graph : Graph ν} {calls : List (Call ν)} (records : graph.Records calls)
    (once : graph.edges.Nodup) (acyclic : graph.Acyclic) (label : Nat → ν → String) :
    ∃ paths : List (List ν), (∀ path, path ∈ paths ↔ RootPath calls path) ∧
      (paths.map (map (mentioned calls).idxOf)).Pairwise (· < ·) ∧
      graph.tree label = String.join (paths.map (pathText calls label)) ∧
      ∀ node ∈ mentioned calls, ∃ path ∈ paths, path.getLast? = some node := by
  have wellFormed := records.wellFormed
  have back : ∀ places ∈ graph.rootPaths, (graph.nodesAt places).map graph.nodes.idxOf = places :=
    fun places listed => map_idxOf_nodesAt wellFormed (within_of_mem_rootPaths wellFormed acyclic listed).2
  have mem_iff : ∀ path, path ∈ graph.rootPaths.map graph.nodesAt ↔ RootPath calls path := by
    intro path
    constructor
    · intro listed
      obtain ⟨places, found, rfl⟩ := mem_map.mp listed
      rw [← records.mem_rootPaths_iff acyclic, back places found]
      exact found
    · intro isPath
      have found := (records.mem_rootPaths_iff acyclic).mpr isPath
      refine mem_map.mpr ⟨_, found, nodesAt_map_idxOf fun node listed => idxOf_lt_length_iff.mp ?_⟩
      exact (within_of_mem_rootPaths wellFormed acyclic found).2 _ (mem_map_of_mem listed)
  refine ⟨graph.rootPaths.map graph.nodesAt, mem_iff, ?_, ?_, ?_⟩
  · rw [List.map_map, ← records.nodes]
    have same : graph.rootPaths.map (map graph.nodes.idxOf ∘ graph.nodesAt) = graph.rootPaths :=
      (map_congr_left back).trans (map_id _)
    rw [same]
    exact rootPaths_pairwise once
  · rw [tree_eq_join, lines_eq_map acyclic, List.map_map, List.map_map]
    congr 1
    refine map_congr_left fun places found => ?_
    have nonempty : graph.nodesAt places ≠ [] := by
      intro none
      have places_eq := back places found
      rw [none] at places_eq
      exact (within_of_mem_rootPaths wellFormed acyclic found).1 places_eq.symm
    have listed : ∀ node ∈ graph.nodesAt places, node ∈ graph.nodes := by
      intro node here
      obtain ⟨place, -, stands⟩ := mem_nodesAt.mp here
      exact mem_of_getElem? stands
    rw [Function.comp_apply, Function.comp_apply, records.pathText_eq label nonempty listed, back places found]
  · intro node listed
    rw [← records.nodes] at listed
    obtain ⟨places, isPath, last⟩ := exists_rootPath wellFormed acyclic (idxOf_lt_length_iff.mpr listed)
    have found := (mem_rootPaths wellFormed acyclic).mpr isPath
    refine ⟨_, mem_map_of_mem found, ?_⟩
    rw [← back places found, getLast?_map] at last
    obtain ⟨other, otherLast, same⟩ := Option.map_eq_some_iff.mp last
    rw [otherLast, (idxOf_inj listed).mp same.symm]

/-- A graph is printed to the end, whatever depends on what: the text is what the recursion writes for the roots. In a
graph without cycles the lines are those of the paths from the roots, a line for each in the order of the places on
it, and every node ends one of them. -/
theorem tree_lists_root_paths (calls : List (Call ν)) (label : Nat → ν → String) :
    (∃ below : Nat → List (Nat × Nat),
      (∀ root ∈ (ofCalls calls).rootIndices, Prints (ofCalls calls) [] root (below root) ∧
        ∀ lines, Prints (ofCalls calls) [] root lines → lines = below root) ∧
      (ofCalls calls).tree label =
        String.join (((ofCalls calls).rootIndices.flatMap below).map ((ofCalls calls).lineText label))) ∧
    (¬Cyclic calls → ∃ paths : List (List ν), (∀ path, path ∈ paths ↔ RootPath calls path) ∧
      (paths.map (map (mentioned calls).idxOf)).Pairwise (· < ·) ∧
      (ofCalls calls).tree label = String.join (paths.map (pathText calls label)) ∧
      ∀ node ∈ mentioned calls, ∃ path ∈ paths, path.getLast? = some node) := by
  have records := ofCalls_records calls
  exact ⟨records.wellFormed.exists_printed label, fun acyclic =>
    records.exists_paths (ofCalls_nodup calls) (records.acyclic_iff.mpr acyclic) label⟩

/-- Two ways down to one node. -/
def twoWays : List (Call String) :=
  [.dependency "top" "left", .dependency "top" "right", .dependency "right" "base", .dependency "left" "base"]

theorem twoWays_printed : ¬Cyclic twoWays ∧
    ∃ paths : List (List String), (∀ path, path ∈ paths ↔ RootPath twoWays path) ∧
      (paths.map (map (mentioned twoWays).idxOf)).Pairwise (· < ·) ∧
      "top\n\tleft\n\t\tbase\n\tright\n\t\tbase\n" =
        String.join (paths.map (pathText twoWays fun _ => id)) := by
  have records := ofCalls_records twoWays
  have passed : (ofCalls twoWays).checkAcyclic id = .ok () := by
    cbv
  have acyclic : ¬Cyclic twoWays := records.acyclic_iff.mp (acyclic_of_checkAcyclic records.wellFormed passed)
  have lines_eq : (ofCalls twoWays).lines = [(0, 0), (1, 1), (2, 3), (1, 2), (2, 3)] := by
    cbv
  have printed : (ofCalls twoWays).tree (fun _ => id) =
      "top\n\tleft\n\t\tbase\n\tright\n\t\tbase\n" := by
    rw [tree_eq_join, lines_eq]
    decide +kernel
  obtain ⟨paths, members, ordered, tree_eq, -⟩ := (tree_lists_root_paths twoWays fun _ => id).2 acyclic
  exact ⟨acyclic, paths, members, ordered, printed.symm.trans tree_eq⟩

/-- A node is followed once on each path. -/
example : (ofCalls [.dependency "top" "left", .dependency "left" "right", .dependency "right" "left"]).tree
    (fun _ node => node) = "top\n\tleft\n\t\tright\n\t\t\tleft\n" := by
  cbv

end CubeQuery.Graph
