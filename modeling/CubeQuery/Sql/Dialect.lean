import CubeQuery.Sql.Quoting
import CubeQuery.Text.LowerCase

/-!
Dialects of SQL. Statements differ between them in the quoting of names and in two capabilities,
and in nothing else.
-/

namespace CubeQuery

structure Dialect where
  name : String
  quoting : Quoting
  /-- Whether the points of a table name separate identifiers that are quoted each by itself. -/
  splitsTableNames : Bool
  /-- Whether `group by a, rollup(b)` is understood. -/
  partialRollup : Bool
  /-- Whether totals are marked by columns `grouping(...)`; else a null marks them. -/
  groupingMarkers : Bool
deriving DecidableEq

namespace Dialect

def generic : Dialect := ⟨"generic", .bare, false, true, false⟩

def duckdb : Dialect := ⟨"duckdb", .marked '"', false, true, true⟩

def postgres : Dialect := ⟨"postgres", .marked '"', false, true, true⟩

def snowflake : Dialect := ⟨"snowflake", .marked '"', false, true, true⟩

def databricks : Dialect := ⟨"databricks", .marked '\x60', false, true, true⟩

def bigquery : Dialect := ⟨"bigquery", .marked '\x60', true, false, true⟩

def clickhouse : Dialect := ⟨"clickhouse", .marked '\x60', false, false, false⟩

def all : List Dialect :=
  [generic, duckdb, postgres, snowflake, databricks, bigquery, clickhouse]

/-- Quotes nothing and lacks partial rollups, but marks totals; the reference backend speaks it. -/
def marker : Dialect := ⟨"marker", .bare, false, false, true⟩

/-- Names are read without regard to case; a few dialects have a second name. The error is the
name in lower case. -/
def named (name : String) : Except String Dialect :=
  match Text.lowerCase name with
  | "generic" | "ansi" => .ok generic
  | "duckdb" => .ok duckdb
  | "postgres" | "postgresql" => .ok postgres
  | "snowflake" => .ok snowflake
  | "databricks" | "spark" => .ok databricks
  | "bigquery" => .ok bigquery
  | "clickhouse" => .ok clickhouse
  | other => .error other

def unknownMessage (lowerCased : String) : String := "unknown dialect: " ++ lowerCased

def identifier (dialect : Dialect) (name : String) : String := dialect.quoting.quote name

def fieldName (dialect : Dialect) (name : String) : String := dialect.identifier name

def cteName (dialect : Dialect) (name : String) : String := dialect.identifier name

def measureLabel (dialect : Dialect) (label : String) : String := dialect.identifier label

def tableName (dialect : Dialect) (name : String) : String :=
  if dialect.splitsTableNames then
    ".".intercalate
      ((splitAtPoints name.toList).map fun part => String.ofList (dialect.quoting.quoteChars part))
  else dialect.identifier name

end Dialect

end CubeQuery
