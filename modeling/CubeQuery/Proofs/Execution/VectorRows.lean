import CubeQuery.Plan.Reference
import CubeQuery.Proofs.Execution.Vectors
import CubeQuery.Proofs.GroupingSets
import CubeQuery.Proofs.Memory.Placements
import CubeQuery.Proofs.Plan.Lowering

/-! Rows that are split along the axis of a vector. The statement of a vector selects one more column. Plain
columns and rollups are then grouped by it in every grouping set, but listed grouping sets stay as they are.
Where every set has the axis, the vector of a row has what the row aggregates, once for each value that its
rows have on the axis, in order. -/

namespace CubeQuery

open Steps

namespace Statement

/-! ### Grouping sets -/

/-- The statement for the same rows with one more column, without filters after grouping. -/
def splitAlong (statement : Statement) (axis : TypedField) (measures : List TypedMeasure) : Statement :=
  { statement.unrestricted with select := statement.select ++ [axis], measures }

/-- How many grouping sets have the same selected columns. -/
def copies (statement : Statement) (set : List TypedField) : Nat :=
  statement.groupingSetList.countP fun other => statement.SameSet other set

variable {statement : Statement} {axis : TypedField} {measures : List TypedMeasure}
  {set : List TypedField}

/-- An axis that is not rolled up is in every set of a rollup. -/
theorem toFinset_rolledSet_splitAlong (unrolled : axis ∉ statement.rollup) (kept : Nat) :
    ((statement.splitAlong axis measures).rolledSet kept).toFinset =
      insert axis (statement.rolledSet kept).toFinset := by
  have alone : ([axis].filter fun field => !statement.rollup.contains field) = [axis] := by
    simpa using unrolled
  have split : (statement.splitAlong axis measures).rolledSet kept =
      (statement.select.filter fun field => !statement.rollup.contains field) ++ [axis] ++
        statement.rollup.take kept := by
    refine congrArg (· ++ statement.rollup.take kept) ((List.filter_append ..).trans ?_)
    exact congrArg _ alone
  rw [split]
  unfold rolledSet
  ext field
  simp only [List.mem_toFinset, Finset.mem_insert, List.mem_append, List.mem_singleton]
  tauto

theorem toFinset_groupingSetList_splitAlong (measures : List TypedMeasure)
    (unrolled : axis ∉ statement.rollup) :
    (statement.splitAlong axis measures).groupingSetList.map List.toFinset =
        statement.groupingSetList.map (fun set => insert axis set.toFinset) ↔
      ∀ set ∈ statement.groupingSets, axis ∈ set := by
  by_cases listed : statement.groupingSets = []
  · rw [groupingSetList_rolled listed, groupingSetList_rolled (show
      (statement.splitAlong axis measures).groupingSets = [] from listed), List.map_map, List.map_map,
      listed]
    refine iff_of_true (List.map_congr_left fun dropped _ => ?_) nofun
    exact toFinset_rolledSet_splitAlong unrolled _
  · rw [groupingSetList_listed listed, groupingSetList_listed (show
      (statement.splitAlong axis measures).groupingSets ≠ [] from listed)]
    refine List.map_inj_left.trans (forall₂_congr fun set _ => ?_)
    rw [eq_comm, Finset.insert_eq_self, List.mem_toFinset]

/-- A rollup of distinct columns has no two sets of the same columns. -/
theorem copies_eq_one (checked : statement.check = .ok ()) (unlisted : statement.groupingSets = [])
    (distinct : statement.rollup.Nodup) (listed : set ∈ statement.groupingSetList) :
    statement.copies set = 1 := by
  rw [groupingSetList_rolled unlisted] at listed
  obtain ⟨dropped, inRange, rfl⟩ := List.mem_map.mp listed
  have same {other : Nat} (below : other ∈ List.range (statement.rollup.length + 1)) :
      statement.SameSet (statement.rolledSet (statement.rollup.length - other))
        (statement.rolledSet (statement.rollup.length - dropped)) ↔ other = dropped := by
    refine ⟨fun same => ?_, fun same => by simp [same, SameSet]⟩
    have kept {field : TypedField} {kept : Nat} (rolled : field ∈ statement.rollup) :
        field ∈ statement.rolledSet kept ↔ field ∈ statement.rollup.take kept := by
      simp [rolledSet, rolled]
    have perm : (statement.rollup.take (statement.rollup.length - other)).Perm
        (statement.rollup.take (statement.rollup.length - dropped)) := by
      rw [List.perm_ext_iff_of_nodup (distinct.sublist (List.take_sublist _ _))
        (distinct.sublist (List.take_sublist _ _))]
      intro field
      by_cases rolled : field ∈ statement.rollup
      · rw [← kept rolled, ← kept rolled]
        exact same field (((check_eq_ok_iff statement).mp checked).1 rolled)
      · exact iff_of_false (mt List.mem_of_mem_take rolled) (mt List.mem_of_mem_take rolled)
    have lengths := perm.length_eq
    rw [List.length_take, List.length_take] at lengths
    rw [List.mem_range] at below inRange
    omega
  unfold copies
  rw [groupingSetList_rolled unlisted, List.countP_map]
  calc (List.range (statement.rollup.length + 1)).countP _
    _ = (List.range (statement.rollup.length + 1)).countP (· == dropped) := by
      refine List.countP_congr fun other below => ?_
      simpa using same below
    _ = 1 := List.count_eq_one_of_mem List.nodup_range inRange

section

variable (new : axis ∉ statement.select) (axial : ∀ set ∈ statement.groupingSets, axis ∈ set)
  (checked : statement.check = .ok ())

include new checked in
theorem not_mem_rollup : axis ∉ statement.rollup := fun rolled =>
  new (((check_eq_ok_iff statement).mp checked).1 rolled)

include new axial checked

theorem axis_mem_of_listed (listed : set ∈ (statement.splitAlong axis measures).groupingSetList) :
    axis ∈ set := by
  have sets := (toFinset_groupingSetList_splitAlong measures (not_mem_rollup new checked)).mpr axial
  have finset := List.mem_map_of_mem (f := List.toFinset) listed
  rw [sets] at finset
  obtain ⟨own, -, same⟩ := List.mem_map.mp finset
  rw [← List.mem_toFinset, ← same]
  exact Finset.mem_insert_self _ _

theorem countP_splitAlong (set : List TypedField) :
    ((statement.splitAlong axis measures).groupingSetList.countP fun other => statement.SameSet other set) =
      statement.copies set := by
  have sets := (toFinset_groupingSetList_splitAlong measures (not_mem_rollup new checked)).mpr axial
  have counted := congrArg (List.countP fun columns : Finset TypedField =>
    ∀ field ∈ statement.select, field ∈ columns ↔ field ∈ set) sets
  rw [List.countP_map, List.countP_map] at counted
  refine Eq.trans ?_ (counted.trans ?_)
  · refine List.countP_congr fun other _ => ?_
    simp only [Function.comp_apply, decide_eq_true_eq, List.mem_toFinset]
    exact .rfl
  · refine List.countP_congr fun other _ => ?_
    simp only [Function.comp_apply, decide_eq_true_eq, Finset.mem_insert, List.mem_toFinset]
    refine forall₂_congr fun field selected => ?_
    rw [or_iff_right (ne_of_mem_of_not_mem selected new)]

end

theorem check_splitAlong (checked : statement.check = .ok ()) :
    (statement.splitAlong axis measures).check = .ok () := by
  rw [check_eq_ok_iff] at checked ⊢
  exact ⟨fun _ rolled => List.mem_append_left _ (checked.1 rolled), checked.2⟩

/-- Splitting rows keeps the totals that there are. -/
theorem totalColumns_subset_splitAlong :
    statement.totalColumns ⊆ (statement.splitAlong axis measures).totalColumns := by
  unfold totalColumns splitAlong unrestricted
  dsimp only
  split
  · exact fun _ listed => listed
  · rw [List.filter_append]
    exact List.subset_append_left _ _

end Statement

namespace MemoryDatabase

/-! ### Elements -/

/-- The value of a measure for rows, null if there is none. -/
def valueIn (rows : List Row) (measure : TypedMeasure) : Value :=
  match measure.aggregate rows with
  | .ok value => value
  | .error _ => .null

/-- What the components of a vector aggregate: the value of the only one, or the list of their values. -/
def elementOf (components : List TypedMeasure) (rows : List Row) : Value :=
  match components with
  | [component] => valueIn rows component
  | components => .list (components.map (valueIn rows))

/-- The values that rows have on an axis, each once, in ascending order. -/
def axisValues (axis : TypedField) (rows : List Row) : List Value :=
  (rows.map fun row => row.read axis).eraseDups.mergeSort fun a b => compare a b != .gt

/-- The vector of a row that aggregates the given rows: an element for each value on the axis, a number of
times. -/
def collected (components : List TypedMeasure) (axis : TypedField) (transformer : Option String)
    (times : Nat) (rows : List Row) : Value :=
  vectorOf transformer (axisValues axis rows) times fun value =>
    elementOf components (rows.filter fun row => row.read axis = value)

variable {statement : Statement} {axis : TypedField} {measures : List TypedMeasure} {rows : List Row}
  {set : List TypedField} {row : Row} {group : List TypedField × List Value}

/-! ### Repeated elements -/

theorem flatMap_ite {α β : Type} (chosen : α → Prop) [DecidablePred chosen] (items : List α)
    (result : List β) : (items.flatMap fun item => if chosen item then result else []) =
      (List.replicate (items.countP fun item => chosen item) result).flatten := by
  induction items with
  | nil => rfl
  | cons item rest ih =>
    rw [List.flatMap_cons, List.countP_cons, ih]
    by_cases here : chosen item <;> simp [here, List.replicate_succ]

theorem flatten_replicate_perm {α : Type} (count : Nat) (items : List α) :
    (List.replicate count items).flatten.Perm (items.flatMap (List.replicate count)) := by
  induction count with
  | zero => simp
  | succ count ih =>
    have one_more : List.replicate (count + 1) = fun item : α => [item] ++ List.replicate count item := rfl
    rw [List.replicate_succ, List.flatten_cons, one_more]
    refine (ih.append_left items).trans ?_
    simpa using List.flatMap_append_perm items (fun item => [item]) (List.replicate count)

/-! ### Groups -/

theorem groupKey_splitAlong (listed : axis ∈ set) (row : Row) :
    (statement.splitAlong axis measures).groupKey set row = statement.groupKey set row ++ [row.read axis] := by
  refine List.map_append.trans (congrArg (statement.groupKey set row ++ ·) ?_)
  simp [listed]

theorem pointIn_splitAlong (listed : axis ∈ set) (row : Row) :
    (statement.splitAlong axis measures).pointIn set row = statement.pointIn set row ++ [row.read axis] := by
  refine List.map_append.trans (congrArg (statement.pointIn set row ++ ·) ?_)
  simp [listed]

/-- The rows of a finer group are those of the group around it with one value on the axis. -/
theorem members_splitAlong (listed : axis ∈ set) (same : statement.SameSet set group.1)
    (key : statement.groupKey group.1 row = group.2) :
    members (statement.splitAlong axis measures) rows
        (set, (statement.splitAlong axis measures).groupKey set row) =
      (members statement rows group).filter fun other => other.read axis = row.read axis := by
  unfold members
  rw [List.filter_filter]
  refine List.filter_congr fun other _ => ?_
  rw [groupKey_splitAlong listed, groupKey_splitAlong listed, same.groupKey_eq, key, ← Bool.decide_and]
  refine decide_eq_decide.mpr ⟨fun equal => ?_, fun ⟨onAxis, inGroup⟩ => by rw [onAxis, inGroup]⟩
  obtain ⟨inGroup, onAxis⟩ := List.append_inj' equal rfl
  exact ⟨(List.cons.inj onAxis).1, inGroup⟩

/-! ### Points along the axis -/

theorem mem_points_splitAlong_iff (axial : axis ∈ set) {point : List Value} :
    point ∈ (((statement.splitAlong axis measures).groupKeys set rows).map fun key =>
        pointOf (statement.splitAlong axis measures) (set, key)) ↔
      ∃ row ∈ rows, statement.pointIn set row ++ [row.read axis] = point := by
  rw [mem_points_of_set_iff (by simp [Statement.splitAlong])]
  exact exists_congr fun row => and_congr_right fun _ => by rw [pointIn_splitAlong axial]

/-- The points of one grouping set that are in the columns of a point have on the axis what its rows have. -/
theorem mem_axis_iff (axial : axis ∈ set) {front : List Value} {value : Value} :
    value ∈ (((((statement.splitAlong axis measures).groupKeys set rows).map fun key =>
        pointOf (statement.splitAlong axis measures) (set, key)).filter fun point =>
          point.dropLast = front).map fun point => point.getLast?.getD .null) ↔
      ∃ row ∈ rows, statement.pointIn set row = front ∧ row.read axis = value := by
  rw [List.mem_map]
  constructor
  · rintro ⟨point, chosen, rfl⟩
    obtain ⟨member, inFront⟩ := List.mem_filter.mp chosen
    obtain ⟨row, source, rfl⟩ := (mem_points_splitAlong_iff axial).mp member
    exact ⟨row, source, by simpa using inFront, by simp⟩
  · rintro ⟨row, source, inFront, rfl⟩
    refine ⟨_, List.mem_filter.mpr ⟨(mem_points_splitAlong_iff axial).mpr ⟨row, source, rfl⟩, ?_⟩, by simp⟩
    simpa using inFront

/-- Each of them once. -/
theorem nodup_axis (axial : axis ∈ set) (front : List Value) :
    (((((statement.splitAlong axis measures).groupKeys set rows).map fun key =>
      pointOf (statement.splitAlong axis measures) (set, key)).filter fun point =>
        point.dropLast = front).map fun point => point.getLast?.getD .null).Nodup := by
  refine List.Nodup.map_on (fun point here other there same => ?_)
    ((nodup_points_of_set (by simp [Statement.splitAlong]) set).filter _)
  obtain ⟨member, inFront⟩ := List.mem_filter.mp here
  obtain ⟨otherMember, otherInFront⟩ := List.mem_filter.mp there
  obtain ⟨row, -, rfl⟩ := (mem_points_splitAlong_iff axial).mp member
  obtain ⟨otherRow, -, rfl⟩ := (mem_points_splitAlong_iff axial).mp otherMember
  simp only [List.dropLast_concat, decide_eq_true_eq, List.getLast?_concat, Option.getD_some] at *
  rw [inFront, otherInFront, same]

section

variable {database : MemoryDatabase}
  (totals : TotalsTell database (statement.splitAlong axis measures) rows)

include totals

theorem tellApart_splitAlong {other : List TypedField} {otherRow : Row}
    (listed : set ∈ (statement.splitAlong axis measures).groupingSetList)
    (otherListed : other ∈ statement.groupingSetList) (source : row ∈ rows) (otherSource : otherRow ∈ rows) :
    TellApart statement set row other otherRow :=
  tellApart_of_plain totals source otherSource fun _ selected plain =>
    ⟨Statement.mem_of_mem_groupingSetList listed (List.mem_append_left _ selected) plain,
      Statement.mem_of_mem_groupingSetList otherListed selected
        fun own => plain (Statement.totalColumns_subset_splitAlong own)⟩

/-- A row of the finer statement is at the point of a group if it is one of its rows, in a grouping set with
the same columns. -/
theorem pointIn_eq_pointOf_iff (shown : group ∈ groups statement rows)
    (listed : set ∈ (statement.splitAlong axis measures).groupingSetList) (source : row ∈ rows) :
    statement.pointIn set row = pointOf statement group ↔
      statement.SameSet set group.1 ∧ statement.groupKey group.1 row = group.2 := by
  by_cases selects : statement.select = []
  · have width := length_key shown
    rw [selects, List.length_nil, List.length_eq_zero_iff] at width
    simp [Statement.pointIn, pointOf, Statement.SameSet, Statement.groupKey, selects, width]
  · obtain ⟨own, key⟩ := group
    obtain ⟨ownListed, ownRow, ownSource, (rfl : key = statement.groupKey own ownRow)⟩ :=
      (mem_groups_iff selects).mp shown
    rw [pointOf_groupKey,
      pointIn_eq_iff (tellApart_splitAlong totals listed ownListed source ownSource)]
    exact and_congr_right fun same => by rw [same.groupKey_eq]

/-- What the points of one grouping set have on the axis, of those in the columns of a group. -/
theorem axis_of_set_perm (shown : group ∈ groups statement rows) (axial : axis ∈ set)
    (listed : set ∈ (statement.splitAlong axis measures).groupingSetList) :
    (((((statement.splitAlong axis measures).groupKeys set rows).map fun key =>
        pointOf (statement.splitAlong axis measures) (set, key)).filter fun point =>
          point.dropLast = pointOf statement group).map fun point => point.getLast?.getD .null).Perm
      (if statement.SameSet set group.1
        then ((members statement rows group).map fun row => row.read axis).eraseDups else []) := by
  rw [List.perm_ext_iff_of_nodup (nodup_axis axial _)]
  · intro value
    rw [mem_axis_iff axial]
    by_cases same : statement.SameSet set group.1
    · rw [if_pos same, List.mem_eraseDups, List.mem_map]
      refine exists_congr fun row => ⟨fun ⟨source, front, read⟩ => ⟨?_, read⟩, fun ⟨inGroup, read⟩ => ?_⟩
      · exact List.mem_filter.mpr
          ⟨source, decide_eq_true ((pointIn_eq_pointOf_iff totals shown listed source).mp front).2⟩
      · obtain ⟨source, key⟩ := List.mem_filter.mp inGroup
        exact ⟨source, (pointIn_eq_pointOf_iff totals shown listed source).mpr
          ⟨same, of_decide_eq_true key⟩, read⟩
    · rw [if_neg same]
      refine iff_of_false (fun ⟨row, source, front, _⟩ => ?_) List.not_mem_nil
      exact same ((pointIn_eq_pointOf_iff totals shown listed source).mp front).1
  · split
    · exact nodup_eraseDups _
    · exact .nil

/-- All that the points of the finer groups have on the axis, of those in the columns of a group. -/
theorem axis_perm (shown : group ∈ groups statement rows) (new : axis ∉ statement.select)
    (axial : ∀ set ∈ statement.groupingSets, axis ∈ set) (checked : statement.check = .ok ()) :
    ((((groups (statement.splitAlong axis measures) rows).map
        (pointOf (statement.splitAlong axis measures))).filter fun point =>
          point.dropLast = pointOf statement group).map fun point => point.getLast?.getD .null).Perm
      ((axisValues axis (members statement rows group)).flatMap
        (List.replicate (statement.copies group.1))) := by
  rw [map_pointOf_groups, List.filter_flatMap, List.map_flatMap]
  refine (List.Perm.flatMap_left _ fun set listed =>
    axis_of_set_perm totals shown (Statement.axis_mem_of_listed new axial checked listed) listed).trans ?_
  rw [flatMap_ite, Statement.countP_splitAlong new axial checked]
  exact (flatten_replicate_perm _ _).trans ((List.mergeSort_perm _ _).symm.flatMap_right _)

end

/-! ### Vectors -/

theorem copies_pos (inRows : group ∈ groups statement rows) : 0 < statement.copies group.1 := by
  obtain ⟨set, listed, keys⟩ := List.mem_flatMap.mp inRows
  obtain ⟨key, -, rfl⟩ := List.mem_map.mp keys
  exact List.countP_pos_iff.mpr ⟨set, listed, decide_eq_true fun _ _ => .rfl⟩

theorem vectorElement_eq (components : List TypedMeasure) {index : Nat}
    (here : index < (shown statement rows).length) :
    vectorElement (components.map (measureColumn statement rows)) index =
      elementOf components (members statement rows (shown statement rows)[index]) := by
  have cells : Table.cells (components.map (measureColumn statement rows)) index =
      components.map (valueIn (members statement rows (shown statement rows)[index])) := by
    unfold Table.cells
    rw [List.map_map]
    exact List.map_congr_left fun component _ => cell_measureColumn component here
  match components with
  | [] | _ :: _ :: _ => exact congrArg Value.list cells
  | [component] => exact (List.cons.inj cells).1

section

variable {database : MemoryDatabase} {vectors : Table} {front : List Column} {last : Column}
  (totals : TotalsTell database (statement.splitAlong axis measures) rows)
  (new : axis ∉ statement.select) (axial : ∀ set ∈ statement.groupingSets, axis ∈ set)
  (checked : statement.check = .ok ())
  (shows : Shows (statement.splitAlong axis measures) rows vectors)
  (columns : vectors.groupingColumns = front ++ [last])

include columns in
theorem point_eq_front (index : Nat) :
    vectors.point index = Table.cells front index ++ [last.cell index] := by
  unfold Table.point Table.cells
  rw [columns, List.map_append]
  rfl

include totals new axial checked shows columns

/-- The rows of a vector have what the rows of their places on the axis aggregate. -/
theorem element_eq (components : List TypedMeasure) (inRows : group ∈ groups statement rows) {index : Nat}
    (inTable : index ∈ vectors.rowIndices) (here : Table.cells front index = pointOf statement group) :
    vectorElement (components.map (measureColumn (statement.splitAlong axis measures) rows)) index =
      elementOf components
        ((members statement rows group).filter fun row => row.read axis = last.cell index) := by
  have below : index < (shown (statement.splitAlong axis measures) rows).length :=
    shows.rowCount_eq ▸ List.mem_range.mp inTable
  have point := shows.point_eq below
  have grouped := mem_groups_of_shown below
  rw [vectorElement_eq components below]
  generalize (shown (statement.splitAlong axis measures) rows)[index] = finer at point grouped ⊢
  obtain ⟨set, key⟩ := finer
  obtain ⟨setListed, row, source, (rfl : key = (statement.splitAlong axis measures).groupKey set row)⟩ :=
    (mem_groups_iff (by simp [Statement.splitAlong])).mp grouped
  have axialSet := Statement.axis_mem_of_listed new axial checked setListed
  rw [pointOf_groupKey, pointIn_splitAlong axialSet, point_eq_front columns] at point
  obtain ⟨around, place⟩ := List.append_inj' point rfl
  obtain ⟨same, inGroup⟩ :=
    (pointIn_eq_pointOf_iff totals inRows setListed source).mp (around.symm.trans here)
  rw [members_splitAlong axialSet same inGroup, (List.cons.inj place).1]

theorem collectsAt (components : List TypedMeasure) (inRows : group ∈ groups statement rows) :
    CollectsAt vectors front last
      (components.map (measureColumn (statement.splitAlong axis measures) rows)) (pointOf statement group)
      (axisValues axis (members statement rows group)) (statement.copies group.1) fun value =>
        elementOf components ((members statement rows group).filter fun row => row.read axis = value) where
  places := by
    have points := shows.points
    rw [show shown (statement.splitAlong axis measures) rows =
      groups (statement.splitAlong axis measures) rows from rfl] at points
    have perm := axis_perm totals inRows new axial checked
    rw [← points, List.filter_map, List.map_map] at perm
    simpa [Function.comp_def, point_eq_front columns] using perm
  elements := fun _ inTable here =>
    element_eq totals new axial checked shows columns components inRows inTable here

end

/-! ### Rows of a scope -/

/-- The columns that the table of a vector is read by. -/
theorem exists_columns {current vectors : Table} {components : List TypedMeasure}
    (shows : Shows statement rows current)
    (vectorShows : Shows (statement.splitAlong axis measures) rows vectors) (wanted : components ⊆ measures) :
    ∃ front last, vectors.groupingColumns = front ++ [last] ∧
      front.map Column.name = statement.select.map TypedField.name ∧
      vectors.columnsNamed current.groupingNames = .ok front ∧ vectors.find? axis.name = some last ∧
      vectors.columnsNamed (components.map TypedMeasure.label) =
        .ok (components.map (measureColumn (statement.splitAlong axis measures) rows)) := by
  have names : vectors.groupingColumns.map Column.name = statement.select.map TypedField.name ++ [axis.name] :=
    vectorShows.groupingNames.trans List.map_append
  obtain ⟨front, behind, columns, frontNames, behindNames⟩ := List.map_eq_append_iff.mp names
  obtain ⟨last, rfl, lastName⟩ := List.map_eq_singleton_iff.mp behindNames
  have among : vectors.groupingColumns ⊆ vectors.columns := List.filter_sublist.subset
  rw [columns] at among
  refine ⟨front, last, columns, frontNames, ?_, ?_, ?_⟩
  · rw [shows.groupingNames, ← frontNames]
    exact vectorShows.formed.columnsNamed_eq fun column listed => among (List.mem_append_left _ listed)
  · rw [← lastName]
    exact vectorShows.formed.find?_eq_some (among (List.mem_append_right _ (List.mem_singleton_self _)))
  · refine Table.columnsNamed_eq_ok.mpr ?_
    rw [List.forall₂_map_left_iff, List.forall₂_map_right_iff, List.forall₂_same]
    exact fun component listed => vectorShows.measured component (wanted listed)

section

variable {database : MemoryDatabase} {current vectors : Table} {components : List TypedMeasure}
  (totals : TotalsTell database (statement.splitAlong axis measures) rows)
  (new : axis ∉ statement.select) (axial : ∀ set ∈ statement.groupingSets, axis ∈ set)
  (checked : statement.check = .ok ())
  (vectorShows : Shows (statement.splitAlong axis measures) rows vectors)

include totals new axial checked vectorShows

theorem vectorAt_withBuckets {front : List Column} {last : Column}
    (columns : vectors.groupingColumns = front ++ [last])
    (frontNames : front.map Column.name = statement.select.map TypedField.name)
    (inRows : group ∈ groups statement rows) {set : BucketSet} {vectorSource : Column}
    (grouped : set.field.name ∈ statement.select.map TypedField.name)
    (found : vectors.find? set.field.name = some vectorSource) {bucket : String}
    (listed : bucket ∈ set.bucketsOf (cellOf statement group set.field.name)) (transformer : Option String) :
    vectorAt (vectors.withBuckets set vectorSource)
        (Table.bucketColumn set vectorSource :: front.map (Table.placed set vectorSource))
        (Table.placed set vectorSource last)
        ((components.map (measureColumn (statement.splitAlong axis measures) rows)).map
          (Table.placed set vectorSource)) transformer (.str bucket :: pointOf statement group) =
      collected components axis transformer (statement.copies group.1 *
        (set.bucketsOf (cellOf statement group set.field.name)).count bucket)
          (members statement rows group) := by
  have names : (statement.splitAlong axis measures).select.map TypedField.name =
      statement.select.map TypedField.name ++ [axis.name] := List.map_append
  have told (row : Nat) (here : Table.cells front row = pointOf statement group) :
      vectorSource.cell row = cellOf statement group set.field.name := by
    rw [vectorShows.cell_eq (names ▸ List.mem_append_left _ grouped) found, names,
      List.idxOf_append_of_mem grouped, point_eq_front columns, List.getElem?_append_left, here]
    · rfl
    · rw [← frontNames] at grouped ⊢
      simpa [Table.cells] using List.idxOf_lt_length_iff.mpr grouped
  have collects := (collectsAt totals new axial checked vectorShows columns components inRows).withBuckets
    set (vectorShows.formed.lengths vectorSource (Table.mem_of_find? found))
    (fun row _ here => told row here) bucket
  exact collects.vectorAt_eq (inOrder_mergeSort _)
    (Nat.mul_pos (copies_pos inRows) (List.count_pos_iff.mpr listed)) transformer

variable (shows : Shows statement rows current) (wanted : components ⊆ measures)

include shows wanted

/-- Every row has a vector of what its rows aggregate along the axis. -/
theorem vectorColumn_eq (transformer : Option String) :
    vectorColumn (components.map TypedMeasure.label) axis.name transformer current vectors =
      .ok ((shown statement rows).map fun group => collected components axis transformer
        (statement.copies group.1) (members statement rows group)) := by
  obtain ⟨front, last, columns, -, grouping, onAxis, measured⟩ := exists_columns shows vectorShows wanted
  refine vectorColumn_eq_ok.mpr ⟨front, last, _, grouping, onAxis, measured, ?_⟩
  rw [shows.points, List.map_map]
  refine List.map_congr_left fun group listed => ?_
  have inRows := (limited_sublist _ _).subset listed
  exact ((collectsAt totals new axial checked vectorShows columns components inRows).vectorAt_eq
    (inOrder_mergeSort _) (copies_pos inRows) transformer).symm

/-- So has every row of a bucket. -/
theorem vectorColumn_withBuckets {set : BucketSet} {source vectorSource : Column}
    (grouped : set.field.name ∈ statement.select.map TypedField.name)
    (found : current.find? set.field.name = some source)
    (vectorFound : vectors.find? set.field.name = some vectorSource)
    (free : set.newColumn.name ∉ vectors.names) (transformer : Option String) :
    vectorColumn (components.map TypedMeasure.label) axis.name transformer
        (current.withBuckets set source) (vectors.withBuckets set vectorSource) =
      .ok ((placedGroups (some set) statement rows).map fun (group, times) =>
        collected components axis transformer (statement.copies group.1 * times)
          (members statement rows group)) := by
  obtain ⟨front, last, columns, frontNames, grouping, onAxis, measured⟩ :=
    exists_columns shows vectorShows wanted
  refine vectorColumn_eq_ok.mpr ⟨Table.bucketColumn set vectorSource ::
    front.map (Table.placed set vectorSource), Table.placed set vectorSource last,
    (components.map (measureColumn (statement.splitAlong axis measures) rows)).map
      (Table.placed set vectorSource), ?_, Table.find?_placed onAxis free,
    Table.columnsNamed_placed measured free, ?_⟩
  · rw [Table.groupingNames_withBuckets]
    exact Table.columnsNamed_withBuckets grouping free
  · rw [shows.points_withBuckets grouped found, List.map_flatMap]
    unfold placedGroups
    rw [List.map_flatMap]
    refine List.flatMap_congr fun group listed => ?_
    rw [List.map_map, List.map_map]
    refine List.map_congr_left fun bucket inBucket => ?_
    exact (vectorAt_withBuckets totals new axial checked vectorShows columns frontNames
      ((limited_sublist _ _).subset listed) grouped vectorFound inBucket transformer).symm

/-- The rows of a scope have such vectors, with the buckets that the scope has. -/
theorem vectorColumn_expanded {scope other : Scope} (sameBuckets : other.bucketSet = scope.bucketSet)
    (grouped : ∀ set, scope.bucketSet = some set →
      set.field.name ∈ statement.select.map TypedField.name)
    {placed placedVectors : Table} (ran : current.expandBuckets scope = .ok placed)
    (vectorRan : vectors.expandBuckets other = .ok placedVectors) (transformer : Option String) :
    vectorColumn (components.map TypedMeasure.label) axis.name transformer placed placedVectors =
      .ok ((placedGroups scope.bucketSet statement rows).map fun (group, times) =>
        collected components axis transformer (statement.copies group.1 * times)
          (members statement rows group)) := by
  rcases Table.expandBuckets_eq_ok.mp ran with ⟨none, rfl⟩ | ⟨set, source, buckets, found, -, rfl⟩
  · rcases Table.expandBuckets_eq_ok.mp vectorRan with ⟨-, rfl⟩ | ⟨set, _, buckets, -, -, -⟩
    · rw [vectorColumn_eq totals new axial checked vectorShows shows wanted transformer, none]
      unfold placedGroups
      rw [List.map_map]
      simp [Function.comp_def]
    · rw [sameBuckets, none] at buckets
      cases buckets
  · rcases Table.expandBuckets_eq_ok.mp vectorRan with
      ⟨none, -⟩ | ⟨other, vectorSource, otherBuckets, vectorFound, free, rfl⟩
    · rw [sameBuckets, buckets] at none
      cases none
    · obtain rfl : set = other := Option.some.inj (buckets.symm.trans (sameBuckets ▸ otherBuckets))
      rw [buckets]
      exact vectorColumn_withBuckets totals new axial checked vectorShows shows wanted
        (grouped set buckets) found vectorFound free transformer

end

end MemoryDatabase

namespace Scope

/-! ### Scopes of vectors -/

variable {datastore : Datastore} {scope : Scope} {measures components : List Measure}
  {statement split : Statement} {axis : Field}

theorem bucketSet_forVector (scope : Scope) (axis : Field) :
    (scope.forVector axis).bucketSet = scope.bucketSet := by
  unfold forVector
  split <;> rfl

/-- The scope of a vector along a column that is not selected has the statement that selects it too. -/
theorem lower_forVector (lowered : scope.lower datastore measures = .ok statement)
    (vectorLowered : (scope.forVector axis).lower datastore components = .ok split)
    (unselected : scope.hasColumn axis = false) :
    ∃ axisField, split = statement.splitAlong axisField split.measures ∧
      (statement.table = none ∨ scope.subQuery = none) ∧ (scope.subQuery = none →
        axisField.name = axis.name ∧ axisField ∉ statement.select ∧
          statement.select.map TypedField.name = scope.columns.map Field.name) := by
  have wider : scope.forVector axis = { scope.prefetch with columns := scope.columns ++ [axis] } := by
    unfold forVector
    exact if_neg (by simpa [hasColumn, prefetch] using unselected)
  obtain ⟨resolver, source, made, tables, parts⟩ := lower_spec lowered
  rw [parts (.refl scope), lowerParts_eq_ok] at lowered
  rw [parts (show scope.SameSource (scope.forVector axis) by rw [wider]; exact ⟨rfl, rfl, rfl⟩),
    lowerParts_eq_ok, wider] at vectorLowered
  obtain ⟨axisField, resolved, columns⟩ : ∃ axisField, resolver.resolve axis = .ok axisField ∧
      (scope.columns ++ [axis]).mapM resolver.resolve = .ok (statement.select ++ [axisField]) := by
    have columns := vectorLowered.select
    rw [List.mapM_append, lowered.select, ok_bind] at columns
    obtain ⟨axes, axes_eq, same⟩ := bind_eq_ok.mp columns
    rw [List.mapM_cons, List.mapM_nil] at axes_eq
    obtain ⟨axisField, resolved, rest⟩ := bind_eq_ok.mp axes_eq
    obtain rfl := Except.ok.inj rest
    exact ⟨axisField, resolved, vectorLowered.select.trans same.symm⟩
  have again : Lowers { scope.prefetch with columns := scope.columns ++ [axis] } resolver source components
      (statement.splitAlong axisField split.measures) :=
    { lowered with
      select := columns
      measures := vectorLowered.measures
      havingCriteria := rfl
      limit := rfl }
  refine ⟨axisField, Except.ok.inj ((lowerParts_eq_ok.mpr vectorLowered).symm.trans
    (lowerParts_eq_ok.mpr again)), ?_, fun noQuery => ?_⟩
  · rcases tables with none | noQuery
    · exact .inl ((Prod.mk.inj lowered.source).1.trans none)
    · exact .inr noQuery
  · have outputs := Resolver.outputs_of_ofScope made noQuery
    have names : statement.select.map TypedField.name = scope.columns.map Field.name :=
      map_eq_of_mapM lowered.select fun column _ field _ read => Resolver.name_of_resolve outputs read
    have name := Resolver.name_of_resolve outputs resolved
    refine ⟨name, fun listed => ?_, names⟩
    have among := List.mem_map_of_mem (f := TypedField.name) listed
    rw [names, name] at among
    obtain ⟨column, member, same⟩ := List.mem_map.mp among
    have has : scope.hasColumn axis = true :=
      List.any_eq_true.mpr ⟨column, member, decide_eq_true same⟩
    rw [unselected] at has
    cases has

/-- The statement of a vector along a column that is not selected selects it too. In each of its grouping
sets, in order, it has the columns of the scope's own set and the axis, if and only if no listed grouping
set lacks the axis; and then every row of the scope has a vector with an element for each value that its rows
have on the axis. A row stands for several rows only where a grouping set is listed more than once, or a
bucket, and without listed sets none is, unless the rollup has a column twice. -/
theorem vector_splits_rows (lowered : scope.lower datastore measures = .ok statement)
    (vectorLowered : (scope.forVector axis).lower datastore components = .ok split)
    (checked : statement.check = .ok ()) (unselected : scope.hasColumn axis = false) :
    ∃ axisField, split.select = statement.select ++ [axisField] ∧
      (scope.subQuery = none → axisField ∉ statement.select) ∧
      (axisField ∉ statement.select →
        (split.groupingSetList.map List.toFinset =
            statement.groupingSetList.map (fun set => insert axisField set.toFinset) ↔
          ∀ set ∈ statement.groupingSets, axisField ∈ set)) ∧
      ((∀ set ∈ statement.groupingSets, axisField ∈ set) →
        ∀ {dialect : Dialect} {tables : List (String × List Row)} {rows : List Row} {number other : Nat}
          {raw rawVectors current vectors : Table},
          Engine.Tells dialect tables statement rows → Engine.Tells dialect tables split rows →
          (Engine.ofRows dialect datastore tables).receive number statement = .ok raw →
          (Engine.ofRows dialect datastore tables).receive other split = .ok rawVectors →
          (∀ set, scope.bucketSet = some set → scope.hasColumn set.field = true) →
          raw.expandBuckets scope = .ok current →
          rawVectors.expandBuckets (scope.forVector axis) = .ok vectors →
          ∀ wanted ⊆ split.measures, ∀ transformer,
            vectorColumn (wanted.map TypedMeasure.label) axis.name transformer current vectors =
              .ok ((MemoryDatabase.placedGroups scope.bucketSet statement rows).map fun (group, times) =>
                MemoryDatabase.collected wanted axisField transformer (statement.copies group.1 * times)
                  (MemoryDatabase.members statement rows group))) ∧
      (statement.groupingSets = [] → statement.rollup.Nodup →
        ∀ set ∈ statement.groupingSetList, statement.copies set = 1) := by
  obtain ⟨axisField, split_eq, tables_eq, named⟩ := lower_forVector lowered vectorLowered unselected
  generalize split.measures = typed at split_eq
  subst split_eq
  refine ⟨axisField, rfl, fun noQuery => (named noQuery).2.1, fun new => ?_, fun axial => ?_,
    fun unlisted distinct set listed => Statement.copies_eq_one checked unlisted distinct listed⟩
  · exact Statement.toFinset_groupingSetList_splitAlong typed (Statement.not_mem_rollup new checked)
  · intro dialect tables rows number other raw rawVectors current vectors tells vectorTells received
      vectorReceived buckets ran vectorRan wanted among transformer
    have noQuery : scope.subQuery = none := by
      refine tables_eq.resolve_left fun none => ?_
      have selected := tells.selected
      unfold MemoryDatabase.selectedRows MemoryDatabase.sourceRows at selected
      rw [none] at selected
      cases selected
    obtain ⟨name, new, names⟩ := named noQuery
    have shows := Engine.shows_of_receive checked tells received
    have vectorShows := Engine.shows_of_receive (Statement.check_splitAlong checked) vectorTells vectorReceived
    rw [← name]
    refine MemoryDatabase.vectorColumn_expanded vectorTells.totals new axial checked vectorShows shows among
      (bucketSet_forVector scope axis) (fun set here => ?_) ran vectorRan transformer
    obtain ⟨column, listed, same⟩ := List.any_eq_true.mp (buckets set here)
    rw [names, ← of_decide_eq_true same]
    exact List.mem_map_of_mem listed

end Scope

/-! ### What was sold by year -/

/-- The scenarios and their total. -/
def soldScope : Scope where
  table := some ⟨"sales", []⟩
  subQuery := none
  columns := [.ofName "scenario"]
  rollup := [.ofName "scenario"]
  groupingSets := []
  bucketSet := none
  whereCriteria := none
  havingCriteria := none
  limit := none
  virtualTables := []

def yearField : TypedField := .column none "year" .long none

def soldStatement : Statement where
  table := some (.ofName "sales")
  subQuery := none
  virtualTables := []
  select := [scenarioField]
  rollup := [scenarioField]
  groupingSets := []
  measures := [soldTyped]
  whereCriteria := none
  havingCriteria := none
  limit := none

def soldRows : List Row :=
  [[("scenario", .str "base"), ("year", .int 2022), ("quantity", .int 3)],
    [("scenario", .str "s1"), ("year", .int 2022), ("quantity", .int 4)],
    [("scenario", .str "s1"), ("year", .int 2023), ("quantity", .int 5)]]

def soldEngine : Engine := .ofRows .generic Sales.datastore [("sales", soldRows)]

theorem soldScope_lowered : soldScope.lower Sales.datastore [soldMeasure] = .ok soldStatement := by
  rfl

theorem soldScope_split : (soldScope.forVector (.ofName "year")).lower Sales.datastore [soldMeasure] =
    .ok (soldStatement.splitAlong yearField [soldTyped]) := by
  rfl

theorem soldStatement_groups : MemoryDatabase.groups soldStatement soldRows =
    [([scenarioField], [.str "base"]), ([scenarioField], [.str "s1"]), ([], [.null])] := by
  have scenarios : soldStatement.groupKeys [scenarioField] soldRows = [[.str "base"], [.str "s1"]] :=
    MemoryDatabase.groupKeys_of_sorted rfl (by decide) (by decide +kernel)
  have all : soldStatement.groupKeys [] soldRows = [[.null]] :=
    MemoryDatabase.groupKeys_of_sorted rfl (by decide) (by decide +kernel)
  have sets : soldStatement.groupingSetList = [[scenarioField], []] := by decide
  unfold MemoryDatabase.groups
  rw [sets, List.flatMap_cons, List.flatMap_singleton, scenarios, all]
  rfl

theorem soldSplit_groups :
    MemoryDatabase.groups (soldStatement.splitAlong yearField [soldTyped]) soldRows =
      [([yearField, scenarioField], [.str "base", .int 2022]),
        ([yearField, scenarioField], [.str "s1", .int 2022]),
        ([yearField, scenarioField], [.str "s1", .int 2023]),
        ([yearField], [.null, .int 2022]), ([yearField], [.null, .int 2023])] := by
  have scenarios : (soldStatement.splitAlong yearField [soldTyped]).groupKeys [yearField, scenarioField]
      soldRows = [[.str "base", .int 2022], [.str "s1", .int 2022], [.str "s1", .int 2023]] :=
    MemoryDatabase.groupKeys_of_sorted rfl (by decide) (by decide +kernel)
  have all : (soldStatement.splitAlong yearField [soldTyped]).groupKeys [yearField] soldRows =
      [[.null, .int 2022], [.null, .int 2023]] :=
    MemoryDatabase.groupKeys_of_sorted rfl (by decide) (by decide +kernel)
  have sets : (soldStatement.splitAlong yearField [soldTyped]).groupingSetList =
      [[yearField, scenarioField], [yearField]] := by decide
  unfold MemoryDatabase.groups
  rw [sets, List.flatMap_cons, List.flatMap_singleton, scenarios, all]
  rfl

theorem soldStatement_received (number : Nat) : soldEngine.receive number soldStatement =
    .ok ⟨[⟨.grouping "scenario" .string, [.str "base", .str "s1", .total]⟩,
      ⟨.measure "sold" .long, [.int 3, .int 9, .int 12]⟩]⟩ := by
  have answered : soldEngine.answer number soldStatement =
      .ok ⟨[⟨.grouping "scenario" .string, [.str "base", .str "s1", .null]⟩,
        ⟨.measure "sold" .long, [.int 3, .int 9, .int 12]⟩]⟩ := by
    refine Engine.ofRows_answer soldRows rfl rfl (fun group listed measure asked => ?_) ?_ rfl number
    · obtain rfl := List.mem_singleton.mp asked
      rw [soldStatement_groups] at listed
      simp only [List.mem_cons, List.not_mem_nil, or_false] at listed
      rcases listed with rfl | rfl | rfl <;> exact ⟨_, rfl⟩
    · unfold MemoryDatabase.frontColumns MemoryDatabase.measureColumn
      rw [soldStatement_groups]
      rfl
  unfold Engine.receive
  rw [answered]
  rfl

theorem soldSplit_received (number : Nat) :
    soldEngine.receive number (soldStatement.splitAlong yearField [soldTyped]) =
      .ok ⟨[⟨.grouping "scenario" .string, [.str "base", .str "s1", .str "s1", .total, .total]⟩,
        ⟨.grouping "year" .long, [.int 2022, .int 2022, .int 2023, .int 2022, .int 2023]⟩,
        ⟨.measure "sold" .long, [.int 3, .int 4, .int 5, .int 7, .int 5]⟩]⟩ := by
  have answered : soldEngine.answer number (soldStatement.splitAlong yearField [soldTyped]) =
      .ok ⟨[⟨.grouping "scenario" .string, [.str "base", .str "s1", .str "s1", .null, .null]⟩,
        ⟨.grouping "year" .long, [.int 2022, .int 2022, .int 2023, .int 2022, .int 2023]⟩,
        ⟨.measure "sold" .long, [.int 3, .int 4, .int 5, .int 7, .int 5]⟩]⟩ := by
    refine Engine.ofRows_answer soldRows rfl rfl (fun group listed measure asked => ?_) ?_ rfl number
    · obtain rfl := List.mem_singleton.mp asked
      rw [soldSplit_groups] at listed
      simp only [List.mem_cons, List.not_mem_nil, or_false] at listed
      rcases listed with rfl | rfl | rfl | rfl | rfl <;> exact ⟨_, rfl⟩
    · unfold MemoryDatabase.frontColumns MemoryDatabase.measureColumn
      rw [show (soldStatement.splitAlong yearField [soldTyped]).limit = none from rfl, soldSplit_groups]
      rfl
  unfold Engine.receive
  rw [answered]
  rfl

theorem sold_collected {group : List TypedField × List Value} (years : List Value)
    (read : ((MemoryDatabase.members soldStatement soldRows group).map fun row =>
      row.read yearField).eraseDups = years)
    (sorted : years.Pairwise fun a b => (compare a b != .gt) = true) (some : years ≠ []) :
    MemoryDatabase.collected [soldTyped] yearField none 1
        (MemoryDatabase.members soldStatement soldRows group) =
      .list (years.map fun year => MemoryDatabase.elementOf [soldTyped]
        ((MemoryDatabase.members soldStatement soldRows group).filter fun row =>
          row.read yearField = year)) := by
  unfold MemoryDatabase.collected MemoryDatabase.axisValues vectorOf
  rw [read, List.mergeSort_of_pairwise sorted]
  cases years with
  | nil => exact absurd rfl some
  | cons year years => exact congrArg Value.list (List.flatMap_pure_eq_map _ _)

/-- What was sold in each scenario, and in all, year by year. -/
theorem Scope.sold_by_year :
    ∃ current vectors, soldEngine.receive 0 soldStatement = .ok current ∧
      soldEngine.receive 1 (soldStatement.splitAlong yearField [soldTyped]) = .ok vectors ∧
      vectorColumn ["sold"] "year" none current vectors =
        .ok [.list [.int 3], .list [.int 4, .int 5], .list [.int 7, .int 5]] := by
  obtain ⟨axisField, select, -, -, collects, once⟩ :=
    vector_splits_rows soldScope_lowered soldScope_split rfl rfl
  obtain rfl : yearField = axisField :=
    (List.cons.inj (List.append_cancel_left (show [scenarioField] ++ [yearField] = _ from select))).1
  have tells {statement : Statement} (asked : statement.measures ≠ [])
      (selected : (MemoryDatabase.ofRows .generic [("sales", soldRows)]).selectedRows statement = .ok soldRows)
      (totals : (MemoryDatabase.ofRows .generic [("sales", soldRows)]).TotalsTell statement soldRows) :
      Engine.Tells .generic [("sales", soldRows)] statement soldRows :=
    ⟨nofun, nofun, asked, selected, totals⟩
  have plain : (MemoryDatabase.ofRows .generic [("sales", soldRows)]).TotalsTell soldStatement soldRows := by
    unfold MemoryDatabase.TotalsTell MemoryDatabase.ReadsAsTotal
    decide
  have splitPlain : (MemoryDatabase.ofRows .generic [("sales", soldRows)]).TotalsTell
      (soldStatement.splitAlong yearField [soldTyped]) soldRows := by
    unfold MemoryDatabase.TotalsTell MemoryDatabase.ReadsAsTotal
    decide
  refine ⟨_, _, soldStatement_received 0, soldSplit_received 1, ?_⟩
  have values := collects nofun (tells (List.cons_ne_nil _ _) rfl plain)
    (tells (List.cons_ne_nil _ _) rfl splitPlain) (soldStatement_received 0) (soldSplit_received 1)
    nofun rfl rfl [soldTyped] (List.Subset.refl _) none
  refine values.trans (congrArg Except.ok ?_)
  have shown : MemoryDatabase.shown soldStatement soldRows =
      [([scenarioField], [.str "base"]), ([scenarioField], [.str "s1"]), ([], [.null])] :=
    soldStatement_groups
  have one {set : List TypedField} (listed : set ∈ soldStatement.groupingSetList) :
      soldStatement.copies set * 1 = 1 := by rw [once rfl (by decide) set listed]
  unfold MemoryDatabase.placedGroups
  rw [show soldScope.bucketSet = none from rfl, shown]
  simp only [List.map_cons, List.map_nil]
  rw [one (by decide), one (by decide),
    sold_collected [.int 2022] (by decide) (by decide +kernel) (by decide),
    sold_collected [.int 2022, .int 2023] (by decide) (by decide +kernel) (by decide),
    sold_collected [.int 2022, .int 2023] (by decide) (by decide +kernel) (by decide)]
  rfl

end CubeQuery
