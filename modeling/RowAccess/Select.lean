import RowAccess.Evaluator
import RowAccess.Filter

/-!
# Restricted queries

A query here is a table, the columns to show and a list of conditions, rendered as SQL
with numbered parameters. Restricting a query checks that the caller may read the table
and adds the conditions of the filter policies; it only ever appends.
-/

namespace RowAccess

/-- One condition of a query. -/
structure QueryCondition where
  column : String
  operator : FilterOperator
  value : Value

/-- A query on one table. -/
structure Query where
  table : String
  /-- The columns to show; all of them when the list is empty. -/
  columns : List String
  conditions : List QueryCondition

namespace Query

/-- All columns of a table, without conditions. -/
def onTable (table : String) : Query := ⟨table, [], []⟩

def andWhere (q : Query) (c : QueryCondition) : Query :=
  { q with conditions := q.conditions ++ [c] }

/-! ## SQL -/

/-- Numbered placeholders, the first one after `used` others. -/
def placeholders (used : Nat) : List Value → List String
  | [] => []
  | _ :: rest => ("$" ++ toString (used + 1)) :: placeholders (used + 1) rest

def conditionParams (c : QueryCondition) : List Value :=
  match c.operator, c.value with
  | .isNull, _ => []
  | .member, .array items => items
  | _, v => [v]

/-- The text of a condition after `used` parameters. No member of an empty list exists. -/
def conditionSql (used : Nat) (c : QueryCondition) : String :=
  match c.operator, c.value with
  | .isNull, _ => c.column ++ " IS NULL"
  | .member, .array [] => "FALSE"
  | .member, .array items =>
    c.column ++ " IN (" ++ String.intercalate ", " (placeholders used items) ++ ")"
  | o, _ => c.column ++ " " ++ o.sql ++ " $" ++ toString (used + 1)

/-- The texts of conditions, each numbered after the parameters of those before it. -/
def conditionTexts (used : Nat) : List QueryCondition → List String
  | [] => []
  | c :: rest =>
    conditionSql used c :: conditionTexts (used + (conditionParams c).length) rest

/-- The WHERE clause; nothing without conditions. -/
def whereClause (cs : List QueryCondition) : String :=
  if cs.isEmpty then "" else " WHERE " ++ String.intercalate " AND " (conditionTexts 0 cs)

def projection (q : Query) : String :=
  if q.columns.isEmpty then "*" else String.intercalate ", " q.columns

def sql (q : Query) : String :=
  "SELECT " ++ q.projection ++ " FROM " ++ q.table ++ whereClause q.conditions

/-- The parameters of the statement, in the order of their numbers. -/
def params (q : Query) : List Value := q.conditions.flatMap conditionParams

end Query

namespace FilterResult

def queryConditions (r : FilterResult) : List QueryCondition :=
  r.conditions.entries.map fun c => ⟨c.1, FilterOperator.forValue c.2, c.2⟩

def invalidColumn? (r : FilterResult) : Option String :=
  r.conditions.keys.find? fun c => !Identifier.isValid c

end FilterResult

namespace Evaluator

/-- The filters of a read as conditions of a query, or why the query may not run. -/
def restricted (q : Query) (table : String) (r : FilterResult) :
    Report (Except AccessError Query) :=
  match r.invalidColumn? with
  | some c => .pure (.error (.invalidColumn table c))
  | none =>
    .noting (.ok (r.queryConditions.foldl Query.andWhere q))
      [{ level := .debug, message := "Applying RLS filters to select"
         fields := [("table", .string table), ("filters", .string (Text.quotedList r.applied)),
           ("conditions", Value.ofNat r.conditions.size)] }]

/-- Checks read access to the table and adds its filters to the query. A read that is denied
is an error, never an empty result. -/
def transform (ev : Evaluator) (q : Query) (table : String) (ctx : Context) :
    Report (Except AccessError Query) :=
  (ev.evaluate table .read ctx).andThen fun d =>
    if d.allowed then
      (ev.filters table .read ctx).andThen fun filters =>
        match filters with
        | .error f => .pure (.error (.filterFailed f))
        | .ok r => restricted q table r
    else .pure (.error (.denied (d.toDenial table .read)))

end Evaluator

end RowAccess
