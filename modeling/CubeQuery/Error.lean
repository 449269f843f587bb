import CubeQuery.ConditionType
import CubeQuery.ScopeKey
import CubeQuery.Value

/-!
What can go wrong, as causes. The name of a kind of error is its `kind`; the wording of each cause is
in its `message` and nowhere else.
-/

namespace CubeQuery

inductive TableError where
  | columnLength (column : String) (expected actual : Nat)
  | headerCount (headers columns : Nat)
  | unknownColumn (name : String)
  | duplicateColumn (name : String)
deriving DecidableEq

def TableError.kind : TableError → String
  | .columnLength _ _ _ => "ColumnLength"
  | .headerCount _ _ => "HeaderCount"
  | .unknownColumn _ => "UnknownColumn"
  | .duplicateColumn _ => "DuplicateColumn"

def TableError.message : TableError → String
  | .columnLength column expected actual =>
    "Column '" ++ column ++ "' has " ++ toString actual ++ " values, expected " ++ toString expected
  | .headerCount headers columns =>
    toString headers ++ " headers for " ++ toString columns ++ " columns"
  | .unknownColumn name => "Unknown column: " ++ name
  | .duplicateColumn name => "Duplicate column: " ++ name

inductive CacheError where
  | notCached (measure : String) (scope : ScopeKey)
  | disabled
  | table (error : TableError)
deriving DecidableEq

def CacheError.kind : CacheError → String
  | .notCached _ _ => "NotCached"
  | .disabled => "Disabled"
  | .table _ => "Table"

def CacheError.message : CacheError → String
  | .notCached measure scope =>
    "Measure '" ++ measure ++ "' is not cached for scope " ++ scope.short
  | .disabled => "Cache is disabled"
  | .table error => "Table error: " ++ error.message

/-- Something was asked of a field, measure or scope that it cannot give. -/
inductive PathError where
  | columnOfConstant (value : Value)
  | columnOfFunction (expression : String)
  | sqlOfFunction (expression : String)
  | computedInMemory (measure : String)
  | computedByDatabase (measure : String)
  | noComponents (measure : String)
  | scopeNotPlanned (scope : ScopeKey)
  | scopeNotExecuted (scope : ScopeKey)
  | noRootResult (scope : ScopeKey)
deriving DecidableEq

def PathError.message : PathError → String
  | .columnOfConstant value => "constant field " ++ value.text ++ " has no column"
  | .columnOfFunction expression => "function field " ++ expression ++ " has no column"
  | .sqlOfFunction expression => "function field " ++ expression ++ " cannot be rendered as SQL"
  | .computedInMemory measure => "measure '" ++ measure ++ "' is computed in memory, not by the database"
  | .computedByDatabase measure => "'" ++ measure ++ "' is computed by the database"
  | .noComponents measure => "vector '" ++ measure ++ "' has no components"
  | .scopeNotPlanned scope => "scope " ++ scope.short ++ " is not part of the plan"
  | .scopeNotExecuted scope => "scope " ++ scope.short ++ " has not been executed"
  | .noRootResult scope => "no result for root scope " ++ scope.short

/-- A query whose parts do not fit together. -/
inductive Misfit where
  | notOneSource
  | noSource
  | twoSources
  | rollupWithGroupingSets
  | columnSetInSubQuery
  | havingInMemory (measure : String)
  | periodNotSelected (field measure : String)
  | parentWithGroupingSets (measure : String)
  | noBuckets (measure : String)
  | noReference (measure : String)
  | bucketSourceNotSelected (set source : String)
  | invalidPosition (position : String)
  | invalidOffset (position : String)
  | firstInPeriod (measure : String)
  | shiftOutsidePeriod (measure field : String)
deriving DecidableEq

def Misfit.message : Misfit → String
  | .notOneSource => "a query needs exactly one of a table or a sub-query"
  | .noSource => "query has neither table nor sub-query"
  | .twoSources => "query has both a table and a sub-query"
  | .rollupWithGroupingSets => "rollup and grouping sets cannot be used together"
  | .columnSetInSubQuery => "column sets are not supported in sub-queries"
  | .havingInMemory measure =>
    "having criteria on '" ++ measure ++ "' which is not computed by the database"
  | .periodNotSelected field measure =>
    field ++ " is used by the period of '" ++ measure ++ "' but is not selected"
  | .parentWithGroupingSets measure =>
    "parent comparison '" ++ measure ++ "' cannot be used with grouping sets"
  | .noBuckets measure => "'" ++ measure ++ "' compares buckets but the query has no bucket column set"
  | .noReference measure => "comparison '" ++ measure ++ "' needs a period, a column set or ancestors"
  | .bucketSourceNotSelected set source =>
    "column set '" ++ set ++ "' reads " ++ source ++ " which is not selected"
  | .invalidPosition position => "invalid reference position '" ++ position ++ "'"
  | .invalidOffset position => "invalid offset in '" ++ position ++ "'"
  | .firstInPeriod measure => "'first' is not a valid period position in '" ++ measure ++ "'"
  | .shiftOutsidePeriod measure field =>
    "'" ++ measure ++ "' shifts " ++ field ++ " which is not a field of its period"

inductive QueryError where
  | unknownTable (table : String) (known : List String)
  | invalidRollup (rollup select : List String)
  | unsupportedCondition (kind : String) (type : ConditionType)
  | unsupportedLiteralType (type : FieldType)
  | cyclicDependency (path : List String)
  | unknownField (name : String)
  | unknownMeasure (label : String)
  | duplicateMeasureLabel (label : String)
  | incorrectPath (cause : PathError)
  | invalidQuery (cause : Misfit)
  /-- Backends word their own failures. -/
  | backend (text : String)
  | cache (error : CacheError)
  | table (error : TableError)
  | cancelled
deriving DecidableEq

def QueryError.kind : QueryError → String
  | .unknownTable _ _ => "UnknownTable"
  | .invalidRollup _ _ => "InvalidRollup"
  | .unsupportedCondition _ _ => "UnsupportedCondition"
  | .unsupportedLiteralType _ => "UnsupportedLiteralType"
  | .cyclicDependency _ => "CyclicDependency"
  | .unknownField _ => "UnknownField"
  | .unknownMeasure _ => "UnknownMeasure"
  | .duplicateMeasureLabel _ => "DuplicateMeasureAlias"
  | .incorrectPath _ => "IncorrectPath"
  | .invalidQuery _ => "InvalidQuery"
  | .backend _ => "Backend"
  | .cache _ => "Cache"
  | .table _ => "Table"
  | .cancelled => "Cancelled"

def commaSeparated (names : List String) : String := ", ".intercalate names

def QueryError.message : QueryError → String
  | .unknownTable name known =>
    "Cannot find table with name " ++ name ++ ". Available tables: [" ++ commaSeparated known ++ "]"
  | .invalidRollup rollup select =>
    "The columns contained in rollup [" ++ commaSeparated rollup
      ++ "] must be a subset of the columns contained in the select [" ++ commaSeparated select ++ "]"
  | .unsupportedCondition kind type =>
    "Unsupported condition: " ++ kind ++ " cannot be of type " ++ type.title
  | .unsupportedLiteralType type => "Literal quoting is not supported for type " ++ type.name
  | .cyclicDependency path => "Cyclic dependency detected: " ++ " -> ".intercalate path
  | .unknownField name => "Cannot find field with name " ++ name
  | .unknownMeasure label => "Unknown measure: '" ++ label ++ "'"
  | .duplicateMeasureLabel label =>
    "Measure alias '" ++ label ++ "' is used by two different measures"
  | .incorrectPath cause => "Incorrect path of execution: " ++ cause.message
  | .invalidQuery cause => "Invalid query: " ++ cause.message
  | .backend text => "Backend error: " ++ text
  | .cache error => "Cache error: " ++ error.message
  | .table error => "Table error: " ++ error.message
  | .cancelled => "Scope execution was cancelled: query was cancelled"

end CubeQuery
