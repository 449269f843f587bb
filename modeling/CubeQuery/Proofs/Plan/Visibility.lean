import CubeQuery.Proofs.Plan.Lowering
import CubeQuery.Sample.Sales
import Mathlib.Data.List.TakeWhile

/-! Which columns a scope over a table can name. A name without a qualifier stands for the column of
the first table that declares it, the main table first and then depth first along the joins. A
qualified name is looked up in its table alone, which the scope need not read. -/

namespace CubeQuery

open Steps

/-! ### Tables of a statement -/

namespace TableRef

/-- The main table or one that is joined to it, at any depth. -/
inductive Reads : TableRef → String → Prop
  | self (name : String) (joins : List Join) : Reads ⟨name, joins⟩ name
  | joined {name other : String} {joins : List Join} {join : Join} (listed : join ∈ joins)
      (below : Reads join.table other) : Reads ⟨name, joins⟩ other

/-- Depth first, the first table for which something holds. -/
inductive FirstWith (holds : String → Prop) : TableRef → String → Prop
  | self {name : String} (joins : List Join) (here : holds name) : FirstWith holds ⟨name, joins⟩ name
  | joined {name first : String} {before : List Join} {join : Join} (after : List Join)
      (missing : ¬holds name) (earlier : ∀ other ∈ before, ∀ table, other.table.Reads table → ¬holds table)
      (below : FirstWith holds join.table first) : FirstWith holds ⟨name, before ++ join :: after⟩ first

mutual

theorem mem_tableNames {other : String} : ∀ {table : TableRef}, other ∈ table.tableNames ↔ table.Reads other
  | ⟨name, joins⟩ => by
    unfold tableNames
    rw [List.mem_cons, mem_joinedNames]
    constructor
    · rintro (rfl | ⟨join, listed, below⟩)
      · exact .self other joins
      · exact .joined listed below
    · rintro (_ | ⟨listed, below⟩)
      · exact .inl rfl
      · exact .inr ⟨_, listed, below⟩

theorem mem_joinedNames {other : String} : ∀ {joins : List Join},
    other ∈ joinedNames joins ↔ ∃ join ∈ joins, join.table.Reads other
  | [] => by simp [joinedNames]
  | ⟨table, type, criteria⟩ :: rest => by
    unfold joinedNames
    rw [List.mem_append, mem_tableNames, mem_joinedNames, List.exists_mem_cons_iff]

end

theorem FirstWith.reads {holds : String → Prop} {table : TableRef} {first : String}
    (found : table.FirstWith holds first) : table.Reads first ∧ holds first := by
  induction found with
  | self joins here => exact ⟨.self _ joins, here⟩
  | joined after _ _ _ ih => exact ⟨.joined (List.mem_append_right _ List.mem_cons_self) ih.1, ih.2⟩

variable {value : Type} {look : String → Option value}

theorem findSome?_eq_none {table : TableRef} : table.tableNames.findSome? look = none ↔
    ∀ name, table.Reads name → ¬(look name).isSome = true := by
  rw [List.findSome?_eq_none_iff]
  simp only [mem_tableNames, Option.not_isSome_iff_eq_none]

mutual

/-- A search through the tables ends at the first of them at which there is something to find. -/
theorem findSome?_tableNames {found : value} : ∀ {table : TableRef},
    table.tableNames.findSome? look = some found ↔
    ∃ first, table.FirstWith (fun name => (look name).isSome = true) first ∧ look first = some found
  | ⟨name, joins⟩ => by
    unfold tableNames
    rw [List.findSome?_cons]
    cases here : look name with
    | some other =>
      constructor
      · rintro ⟨⟩
        exact ⟨name, .self joins (by rw [here]; rfl), here⟩
      · rintro ⟨first, _ | ⟨after, missing, -, -⟩, first_eq⟩
        · rw [← first_eq, here]
        · rw [here] at missing
          exact absurd rfl missing
    | none =>
      dsimp only
      rw [findSome?_joinedNames]
      have missing : ¬(look name).isSome = true := by rw [here]; exact Bool.false_ne_true
      constructor
      · rintro ⟨before, join, after, first, rfl, earlier, below, first_eq⟩
        exact ⟨first, .joined after missing earlier below, first_eq⟩
      · rintro ⟨first, ⟨_, here⟩ | ⟨after, -, earlier, below⟩, first_eq⟩
        · exact absurd here missing
        · exact ⟨_, _, after, first, rfl, earlier, below, first_eq⟩

theorem findSome?_joinedNames {found : value} : ∀ {joins : List Join},
    (joinedNames joins).findSome? look = some found ↔
    ∃ before join after first, joins = before ++ join :: after ∧
      (∀ other ∈ before, ∀ table, other.table.Reads table → ¬(look table).isSome = true) ∧
      join.table.FirstWith (fun name => (look name).isSome = true) first ∧ look first = some found
  | [] => by simp [joinedNames]
  | ⟨table, type, criteria⟩ :: rest => by
    unfold joinedNames
    rw [List.findSome?_append]
    -- Either the first join has the table, or the search passes over all of its tables.
    cases inTable : table.tableNames.findSome? look with
    | some other =>
      obtain ⟨place, below, place_eq⟩ := findSome?_tableNames.mp inTable
      constructor
      · rintro ⟨⟩
        exact ⟨[], _, rest, place, rfl, nofun, below, place_eq⟩
      · rintro ⟨before, join, after, first, split, earlier, below', first_eq⟩
        rcases List.cons_eq_append_iff.mp split with ⟨rfl, joins_eq⟩ | ⟨others, rfl, -⟩
        · obtain ⟨rfl, -⟩ := List.cons.inj joins_eq
          rw [← inTable, findSome?_tableNames.mpr ⟨first, below', first_eq⟩]
          rfl
        · exact absurd below.reads.2 (earlier _ List.mem_cons_self place below.reads.1)
    | none =>
      have missing := findSome?_eq_none.mp inTable
      rw [Option.none_or, findSome?_joinedNames]
      constructor
      · rintro ⟨before, join, after, first, rfl, earlier, below, first_eq⟩
        exact ⟨_ :: before, join, after, first, rfl, List.forall_mem_cons.mpr ⟨missing, earlier⟩, below, first_eq⟩
      · rintro ⟨before, join, after, first, split, earlier, below, first_eq⟩
        rcases List.cons_eq_append_iff.mp split with ⟨rfl, joins_eq⟩ | ⟨others, rfl, rest_eq⟩
        · obtain ⟨rfl, -⟩ := List.cons.inj joins_eq
          exact absurd below.reads.2 (missing first below.reads.1)
        · exact ⟨others, join, after, first, rest_eq, fun other listed =>
            earlier other (List.mem_cons_of_mem _ listed), below, first_eq⟩

end

end TableRef

/-! ### Declared columns -/

/-- Of columns with one name the first counts. -/
def Store.Declares (store : Store) (column : String) (type : FieldType) : Prop :=
  ∃ before field after, store.fields = before ++ field :: after ∧ field.name = column ∧
    (∀ other ∈ before, other.name ≠ column) ∧ field.type = type

def VirtualTable.Declares (table : VirtualTable) (column : String) (type : FieldType) : Prop :=
  ∃ index, table.fields[index]? = some column ∧ (∀ earlier < index, table.fields[earlier]? ≠ some column) ∧
    table.columnType index = type

/-- A table of a statement declares a column. Virtual tables hide the table of the database that has their
name, and of virtual tables with one name the last counts. -/
inductive Declares (datastore : Datastore) (virtualTables : List VirtualTable) (table column : String)
    (type : FieldType) : Prop
  | virtual {before after : List VirtualTable} {virtual : VirtualTable}
      (listed : virtualTables = before ++ virtual :: after) (named : virtual.name = table)
      (last : ∀ other ∈ after, other.name ≠ table) (declared : virtual.Declares column type)
  | physical {store : Store} (free : ∀ virtual ∈ virtualTables, virtual.name ≠ table)
      (stored : datastore.store? table = some store) (declared : store.Declares column type)

theorem Store.declares_iff {store : Store} {column : String} {type : FieldType} :
    store.Declares column type ↔ (store.field? column).map (·.type) = some type := by
  unfold Store.Declares Store.field?
  simp only [Option.map_eq_some_iff, List.find?_eq_some_iff_append]
  constructor
  · rintro ⟨before, field, after, split, named, earlier, rfl⟩
    exact ⟨field, ⟨by simpa using named, before, after, split, by simpa using earlier⟩, rfl⟩
  · rintro ⟨field, ⟨named, before, after, split, earlier⟩, rfl⟩
    exact ⟨before, field, after, split, by simpa using named, by simpa using earlier, rfl⟩

theorem VirtualTable.declares_iff {table : VirtualTable} {column : String} {type : FieldType} :
    table.Declares column type ↔ typeOf? table.columns column = some type := by
  unfold VirtualTable.Declares typeOf? VirtualTable.columns
  simp only [Option.map_eq_some_iff, List.find?_eq_some_iff_getElem]
  constructor
  · rintro ⟨index, stands, earlier, rfl⟩
    obtain ⟨inside, named⟩ := List.getElem?_eq_some_iff.mp stands
    refine ⟨⟨column, table.columnType index⟩, ⟨by simp, index, by simpa using inside, by simp [named], ?_⟩, rfl⟩
    intro other before
    have differs := earlier other before
    rw [List.getElem?_eq_getElem (by omega)] at differs
    simpa using differs
  · rintro ⟨_, ⟨named, index, inside, rfl, earlier⟩, rfl⟩
    rw [List.length_mapIdx] at inside
    refine ⟨index, ?_, fun other before => ?_, by simp⟩
    · rw [List.getElem?_eq_getElem inside]
      simpa using named
    · rw [List.getElem?_eq_getElem (by omega)]
      simpa using earlier other before

theorem Resolver.virtual?_eq_some {resolver : Resolver} {table : String} {virtual : VirtualTable} :
    resolver.virtual? table = some virtual ↔ ∃ before after, resolver.virtualTables = before ++ virtual :: after ∧
      virtual.name = table ∧ ∀ other ∈ after, other.name ≠ table := by
  unfold Resolver.virtual?
  rw [List.find?_eq_some_iff_append]
  constructor
  · rintro ⟨named, after, before, split, last⟩
    refine ⟨before.reverse, after.reverse, ?_, by simpa using named, by simpa using last⟩
    simpa using congrArg List.reverse split
  · rintro ⟨before, after, split, named, last⟩
    exact ⟨by simpa using named, after.reverse, before.reverse, by simp [split], by simpa using last⟩

theorem Resolver.declares_iff {resolver : Resolver} {table column : String} {type : FieldType} :
    Declares resolver.datastore resolver.virtualTables table column type ↔
      resolver.typeIn? column table = some type := by
  unfold Resolver.typeIn?
  cases found : resolver.virtual? table with
  | some virtual =>
    obtain ⟨before, after, listed, named, last⟩ := Resolver.virtual?_eq_some.mp found
    dsimp only
    rw [← VirtualTable.declares_iff]
    constructor
    · rintro (⟨otherListed, otherNamed, otherLast, declared⟩ | ⟨free, -, -⟩)
      · have again := Resolver.virtual?_eq_some.mpr ⟨_, _, otherListed, otherNamed, otherLast⟩
        exact Option.some.inj (again.symm.trans found) ▸ declared
      · exact absurd named (free virtual (by simp [listed]))
    · exact .virtual listed named last
  | none =>
    have free : ∀ virtual ∈ resolver.virtualTables, virtual.name ≠ table := by
      simpa [Resolver.virtual?] using found
    dsimp only
    constructor
    · rintro (⟨listed, named, -, -⟩ | ⟨-, stored, declared⟩)
      · exact absurd named (free _ (by simp [listed]))
      · rw [stored]
        exact Store.declares_iff.mp declared
    · intro known
      rw [Option.map_bind] at known
      obtain ⟨store, stored, declared⟩ := Option.bind_eq_some_iff.mp known
      exact .physical free stored (Store.declares_iff.mpr declared)

/-! ### Qualified names -/

namespace Field

theorem splitQualified_of_notMem {fullName : String} (unqualified : '.' ∉ fullName.toList) :
    splitQualified fullName = (none, fullName) := by
  unfold splitQualified
  have none : fullName.toList.reverse.dropWhile (· != '.') = [] := by
    rw [List.dropWhile_eq_nil_iff]
    intro letter listed
    have other : letter ≠ '.' := fun same => unqualified (same ▸ List.mem_reverse.mp listed)
    simpa using other
  simp only [none]

theorem splitQualified_append (store : String) {column : String} (bare : '.' ∉ column.toList) :
    splitQualified (store ++ "." ++ column) = (some store, column) := by
  have letters : (store ++ "." ++ column).toList.reverse =
      column.toList.reverse ++ '.' :: store.toList.reverse := by simp
  have others : ∀ letter ∈ column.toList.reverse, (letter != '.') = true := by
    intro letter listed
    have other : letter ≠ '.' := fun same => bare (same ▸ List.mem_reverse.mp listed)
    simpa using other
  unfold splitQualified
  rw [letters]
  simp only [List.dropWhile_append_of_pos others, List.takeWhile_append_of_pos others]
  simp

/-- A name is split in one way, because no column has a point. -/
theorem qualified_inj {store other column otherColumn : String} (bare : '.' ∉ column.toList)
    (otherBare : '.' ∉ otherColumn.toList) (same : store ++ "." ++ column = other ++ "." ++ otherColumn) :
    store = other ∧ column = otherColumn := by
  have split := splitQualified_append store bare
  rw [same, splitQualified_append other otherBare] at split
  obtain ⟨store_eq, column_eq⟩ := Prod.mk.inj split
  exact ⟨(Option.some.inj store_eq).symm, column_eq.symm⟩

/-- A name has no point, or it is split at its last one. -/
theorem unqualified_or_qualified (fullName : String) : '.' ∉ fullName.toList ∨
    ∃ store column, '.' ∉ column.toList ∧ fullName = store ++ "." ++ column := by
  by_cases pointed : '.' ∈ fullName.toList
  · obtain ⟨column, store, letters, bare⟩ := List.eq_append_cons_of_mem (List.mem_reverse.mpr pointed)
    refine .inr ⟨String.ofList store.reverse, String.ofList column.reverse, by simpa using bare, ?_⟩
    apply String.toList_inj.mp
    simpa using congrArg List.reverse letters
  · exact .inl pointed

end Field

/-! ### Visible columns -/

/-- What a scope over a table can name: a column of the first of its tables that declares it, or a column of
one of its tables qualified with that table. -/
inductive Visible (datastore : Datastore) (virtualTables : List VirtualTable) (table : TableRef) :
    String → FieldType → Prop
  | plain {column first : String} {type : FieldType} (unqualified : '.' ∉ column.toList)
      (found : table.FirstWith (fun name => ∃ type, Declares datastore virtualTables name column type) first)
      (declared : Declares datastore virtualTables first column type) :
      Visible datastore virtualTables table column type
  | qualified {store column : String} {type : FieldType} (bare : '.' ∉ column.toList)
      (read : table.Reads store) (declared : Declares datastore virtualTables store column type) :
      Visible datastore virtualTables table (store ++ "." ++ column) type

section

variable {datastore : Datastore} {virtualTables : List VirtualTable} {table : TableRef} {type : FieldType}

theorem visible_plain_iff {column : String} (unqualified : '.' ∉ column.toList) :
    Visible datastore virtualTables table column type ↔
      ∃ first, table.FirstWith (fun name => ∃ type, Declares datastore virtualTables name column type) first ∧
        Declares datastore virtualTables first column type := by
  constructor
  · rintro (⟨-, found, declared⟩ | ⟨-, -, -⟩)
    · exact ⟨_, found, declared⟩
    · simp at unqualified
  · rintro ⟨first, found, declared⟩
    exact .plain unqualified found declared

theorem visible_qualified_iff {store column : String} (bare : '.' ∉ column.toList) :
    Visible datastore virtualTables table (store ++ "." ++ column) type ↔
      table.Reads store ∧ Declares datastore virtualTables store column type := by
  constructor
  · intro visible
    generalize name_eq : store ++ "." ++ column = fullName at visible
    cases visible with
    | plain unqualified => simp [← name_eq] at unqualified
    | qualified otherBare read declared =>
      obtain ⟨rfl, rfl⟩ := Field.qualified_inj bare otherBare name_eq
      exact ⟨read, declared⟩
  · rintro ⟨read, declared⟩
    exact .qualified bare read declared

end

/-- A name qualified with a table that is not read. -/
def TableRef.Foreign (table : TableRef) (fullName : String) : Prop :=
  ∃ store column, '.' ∉ column.toList ∧ fullName = store ++ "." ++ column ∧ ¬table.Reads store

namespace Resolver

variable {resolver : Resolver} {fullName : String} {label : Option String}

/-- Over tables a column resolves to its type, or it is unknown. -/
theorem resolve_table (tables : resolver.outputs = none) {store : Option String} {column : String}
    (split : Field.splitQualified fullName = (store, column)) : resolver.resolve (.table fullName label) =
      match resolver.columnType? store column with
      | some type => .ok (.column store column type label)
      | none => .error (.unknownField fullName) := by
  unfold resolve
  cases known : resolver.columnType? store column <;> simp [tables, split, known]

theorem exists_resolve_iff (tables : resolver.outputs = none) {store : Option String} {column : String}
    (split : Field.splitQualified fullName = (store, column)) {type : FieldType} :
    (∃ typed, resolver.resolve (.table fullName label) = .ok typed ∧ typed.type = type) ↔
      resolver.columnType? store column = some type := by
  rw [resolve_table tables split]
  cases resolver.columnType? store column with
  | none => simp
  | some other => simp [TypedField.type]

theorem resolves_iff (tables : resolver.outputs = none) {store : Option String} {column : String}
    (split : Field.splitQualified fullName = (store, column)) :
    (∃ typed, resolver.resolve (.table fullName label) = .ok typed) ↔
      ∃ type, resolver.columnType? store column = some type := by
  rw [resolve_table tables split]
  cases resolver.columnType? store column <;> simp

theorem error_of_resolve (tables : resolver.outputs = none) {error : QueryError}
    (failed : resolver.resolve (.table fullName label) = .error error) : error = .unknownField fullName := by
  rcases split : Field.splitQualified fullName with ⟨store, column⟩
  rw [resolve_table tables split] at failed
  cases known : resolver.columnType? store column with
  | none =>
    rw [known] at failed
    exact (Except.error.inj failed).symm
  | some type =>
    rw [known] at failed
    cases failed

theorem columnType?_plain {table : TableRef} (reads : resolver.tables = table.tableNames) {column : String}
    {type : FieldType} : resolver.columnType? none column = some type ↔
      ∃ first, table.FirstWith
          (fun name => ∃ type, Declares resolver.datastore resolver.virtualTables name column type) first ∧
        Declares resolver.datastore resolver.virtualTables first column type := by
  simp only [declares_iff, ← Option.isSome_iff_exists]
  unfold columnType?
  rw [reads]
  exact TableRef.findSome?_tableNames

/-- Some table declares a column if the first of them is found. -/
theorem exists_columnType?_plain {table : TableRef} (reads : resolver.tables = table.tableNames) {column : String} :
    (∃ type, resolver.columnType? none column = some type) ↔ ∃ name type, table.Reads name ∧
      Declares resolver.datastore resolver.virtualTables name column type := by
  rw [← Option.isSome_iff_exists]
  unfold columnType?
  rw [reads, List.findSome?_isSome_iff]
  simp only [TableRef.mem_tableNames, Option.isSome_iff_exists, ← declares_iff, exists_and_left]

theorem columnType?_qualified {store column : String} {type : FieldType} :
    resolver.columnType? (some store) column = some type ↔
      Declares resolver.datastore resolver.virtualTables store column type := declares_iff.symm

end Resolver

/-- A column of a scope over a table resolves to a type if it is visible with that type, except where it is
qualified with a table that the scope does not read. Whatever the table, a qualified column resolves if that
table declares it. -/
theorem Scope.resolves_visible_columns (datastore : Datastore) {scope : Scope} {table : TableRef}
    (main : scope.table = some table) (source : scope.subQuery = none) :
    ∃ resolver, Resolver.ofScope datastore scope = .ok resolver ∧ ∀ fullName label,
      (¬table.Foreign fullName → ∀ type,
        (∃ typed, resolver.resolve (.table fullName label) = .ok typed ∧ typed.type = type) ↔
          Visible datastore scope.virtualTables table fullName type) ∧
      ('.' ∉ fullName.toList →
        ((∃ typed, resolver.resolve (.table fullName label) = .ok typed) ↔
          ∃ name type, table.Reads name ∧ Declares datastore scope.virtualTables name fullName type)) ∧
      (∀ store column, '.' ∉ column.toList → fullName = store ++ "." ++ column → ∀ type,
        (∃ typed, resolver.resolve (.table fullName label) = .ok typed ∧ typed.type = type) ↔
          Declares datastore scope.virtualTables store column type) ∧
      ∀ error, resolver.resolve (.table fullName label) = .error error → error = .unknownField fullName := by
  let resolver : Resolver := ⟨datastore, table.tableNames, scope.virtualTables, none⟩
  have made : Resolver.ofScope datastore scope = .ok resolver := by
    unfold Resolver.ofScope
    rw [source, main]
    rfl
  have tables : resolver.outputs = none := rfl
  refine ⟨resolver, made, fun fullName label => ⟨fun own type => ?_, fun unqualified => ?_, ?_, ?_⟩⟩
  · obtain unqualified | ⟨store, column, bare, rfl⟩ := Field.unqualified_or_qualified fullName
    · rw [Resolver.exists_resolve_iff tables (Field.splitQualified_of_notMem unqualified),
        visible_plain_iff unqualified]
      exact Resolver.columnType?_plain rfl
    · have read : table.Reads store := by
        by_contra unread
        exact own ⟨store, column, bare, rfl, unread⟩
      rw [Resolver.exists_resolve_iff tables (Field.splitQualified_append store bare),
        visible_qualified_iff bare, and_iff_right read]
      exact Resolver.columnType?_qualified
  · rw [Resolver.resolves_iff tables (Field.splitQualified_of_notMem unqualified)]
    exact Resolver.exists_columnType?_plain rfl
  · rintro store column bare rfl type
    rw [Resolver.exists_resolve_iff tables (Field.splitQualified_append store bare)]
    exact Resolver.columnType?_qualified
  · exact fun error => Resolver.error_of_resolve tables

def salesAlone : Scope := .ofQuery { Query.empty with table := some (.ofName "sales") }

/-- A column of a table that is not read resolves under its qualified name, and is unknown under its own. -/
theorem salesAlone_resolves_product : salesAlone.table = some (.ofName "sales") ∧ salesAlone.subQuery = none ∧
    ∃ resolver, Resolver.ofScope Sales.datastore salesAlone = .ok resolver ∧
      (∃ typed, resolver.resolve (.ofName "products.label") = .ok typed ∧ typed.type = .string) ∧
      ¬Visible Sales.datastore [] (.ofName "sales") "products.label" .string ∧
      ¬∃ typed, resolver.resolve (.ofName "label") = .ok typed := by
  have main : salesAlone.table = some (.ofName "sales") := rfl
  have source : salesAlone.subQuery = none := rfl
  have onlySales : ∀ name, (TableRef.ofName "sales").Reads name → name = "sales" := by
    intro name reads
    simpa [TableRef.ofName, TableRef.tableNames, TableRef.joinedNames] using TableRef.mem_tableNames.mpr reads
  let known : Resolver := ⟨Sales.datastore, ["sales"], [], none⟩
  have typeOf (table : String) (type : FieldType) :
      Declares Sales.datastore [] table "label" type ↔ known.typeIn? "label" table = some type :=
    @Resolver.declares_iff known table "label" type
  obtain ⟨resolver, made, each⟩ := Scope.resolves_visible_columns Sales.datastore main source
  obtain ⟨-, -, qualified, -⟩ := each "products.label" none
  obtain ⟨-, unqualified, -⟩ := each "label" none
  have resolved := (qualified "products" "label" (by decide) (by decide) .string).mpr
    ((typeOf "products" .string).mpr (by decide))
  refine ⟨main, source, resolver, made, resolved, fun visible => ?_, fun resolved => ?_⟩
  · have asQualified : Visible Sales.datastore [] (.ofName "sales") ("products" ++ "." ++ "label") .string := visible
    have read := ((visible_qualified_iff (by decide)).mp asQualified).1
    exact absurd (onlySales "products" read) (by decide)
  · obtain ⟨name, type, read, declared⟩ := (unqualified (by decide)).mp resolved
    obtain rfl := onlySales name read
    have found := (typeOf "sales" type).mp declared
    rw [show known.typeIn? "label" "sales" = none by decide] at found
    cases found

end CubeQuery
