import CubeQuery.Error

/-!
Tables, column by column. The grouping columns of a row are its coordinates, called its point, and
the other columns are measures. Columns are found by name and the first of a name counts.
-/

namespace CubeQuery

structure Header where
  name : String
  type : FieldType
  isMeasure : Bool
deriving DecidableEq

def Header.grouping (name : String) (type : FieldType) : Header := ⟨name, type, false⟩

def Header.measure (name : String) (type : FieldType) : Header := ⟨name, type, true⟩

structure Column where
  header : Header
  values : List Value
deriving DecidableEq

namespace Column

def name (column : Column) : String := column.header.name

/-- A cell; there is none below the last row. -/
def cell (column : Column) (row : Nat) : Value := column.values[row]?.getD .null

/-- The cells of the given rows, which may repeat. -/
def take (rows : List Nat) (column : Column) : Column :=
  { column with values := rows.map column.cell }

end Column

structure Table where
  columns : List Column
deriving DecidableEq

namespace Table

instance : Inhabited Table := ⟨⟨[]⟩⟩

def headers (table : Table) : List Header := table.columns.map Column.header

def names (table : Table) : List String := table.columns.map Column.name

/-- The length of the first column. -/
def rowCount (table : Table) : Nat :=
  match table.columns with
  | [] => 0
  | column :: _ => column.values.length

/-! ### Construction -/

/-- The first name that stands twice. -/
def repeatedName? : List String → List String → Option String
  | _, [] => none
  | seen, name :: rest => if seen.contains name then some name else repeatedName? (name :: seen) rest

/-- Columns have one length and names of their own. -/
def checkColumns (table : Table) : Except TableError Unit :=
  match table.columns.find? fun column => column.values.length != table.rowCount with
  | some column => .error (.columnLength column.name table.rowCount column.values.length)
  | none =>
    match repeatedName? [] table.names with
    | some name => .error (.duplicateColumn name)
    | none => .ok ()

def ofColumns (headers : List Header) (columns : List (List Value)) : Except TableError Table := do
  if headers.length ≠ columns.length then throw (.headerCount headers.length columns.length)
  let table : Table := ⟨List.zipWith Column.mk headers columns⟩
  table.checkColumns
  return table

/-- A table without rows. -/
def withoutRows (headers : List Header) : Table := ⟨headers.map (⟨·, []⟩)⟩

def ofRows (headers : List Header) (rows : List (List Value)) : Except TableError Table :=
  match rows.find? fun row => row.length != headers.length with
  | some row => .error (.headerCount headers.length row.length)
  | none =>
    ofColumns headers
      ((List.range headers.length).map fun index => rows.map fun row => row[index]?.getD .null)

/-! ### Access -/

def columnIndex? (table : Table) (name : String) : Option Nat :=
  table.columns.findIdx? (·.name = name)

def find? (table : Table) (name : String) : Option Column := table.columns.find? (·.name = name)

def column (table : Table) (name : String) : Except TableError Column :=
  match table.find? name with
  | some column => .ok column
  | none => .error (.unknownColumn name)

def columnsNamed (table : Table) (names : List String) : Except TableError (List Column) :=
  names.mapM table.column

def groupingColumns (table : Table) : List Column :=
  table.columns.filter fun column => !column.header.isMeasure

/-- The places of the grouping columns, or of the measures. -/
def indices (table : Table) (measures : Bool) : List Nat :=
  (List.range table.columns.length).filter fun index =>
    (table.columns[index]?.map (·.header.isMeasure)) == some measures

def groupingNames (table : Table) : List String := table.groupingColumns.map Column.name

/-- The cells of a row in the given columns. -/
def cells (columns : List Column) (row : Nat) : List Value := columns.map (·.cell row)

def row (table : Table) (row : Nat) : List Value := cells table.columns row

def point (table : Table) (row : Nat) : List Value := cells table.groupingColumns row

def rowIndices (table : Table) : List Nat := List.range table.rowCount

def rows (table : Table) : List (List Value) := table.rowIndices.map table.row

/-- The last row whose cells in the given columns are the given ones. -/
def lastRowAt? (table : Table) (columns : List Column) (point : List Value) : Option Nat :=
  table.rowIndices.reverse.find? fun row => cells columns row = point

/-- The points of a table, each once, with the last row of each. -/
def pointIndex (table : Table) : List (List Value × Nat) :=
  (table.rowIndices.map table.point).eraseDups.filterMap fun point =>
    (table.lastRowAt? table.groupingColumns point).map (point, ·)

/-! ### Change -/

/-- Inserts a column before a place. Its name has to be new, and it has to fit the others. -/
def insertColumn (table : Table) (index : Nat) (column : Column) : Except TableError Table :=
  if (table.find? column.name).isSome then .error (.duplicateColumn column.name)
  else if !table.columns.isEmpty && column.values.length != table.rowCount then
    .error (.columnLength column.name table.rowCount column.values.length)
  else .ok ⟨table.columns.insertIdx index column⟩

/-- Inserts a column behind the others. -/
def addColumn (table : Table) (column : Column) : Except TableError Table :=
  table.insertColumn table.columns.length column

def removeColumn (table : Table) (name : String) : Except TableError (Column × Table) := do
  return (← table.column name, ⟨table.columns.eraseP (·.name = name)⟩)

/-- Changes the first column that has the name. -/
def changeFirst (name : String) (change : Column → Column) : List Column → List Column
  | [] => []
  | column :: rest =>
    if column.name = name then change column :: rest else column :: changeFirst name change rest

def mapColumn (table : Table) (name : String) (change : List Value → List Value) :
    Except TableError Table := do
  let _ ← table.column name
  return ⟨changeFirst name (fun column => { column with values := change column.values }) table.columns⟩

/-- The given rows in the given order; a row may repeat. -/
def takeRows (table : Table) (rows : List Nat) : Table := ⟨table.columns.map (Column.take rows)⟩

/-- The named columns in the given order; a column may repeat. -/
def project (table : Table) (names : List String) : Except TableError Table := do
  return ⟨← table.columnsNamed names⟩

end Table

end CubeQuery
