import RowAccess.Row

/-!
# Filter conditions

A filter condition compares a column with a value. The value picks the operator: an
array asks for membership, null asks for null, anything else for equality. A column that
is missing counts as null. The columns that a filter may name are plain SQL identifiers,
perhaps qualified with dots.
-/

namespace RowAccess

/-- The comparison of a condition. -/
inductive FilterOperator where
  | equal
  | member
  | isNull
  deriving DecidableEq, Repr, Inhabited

namespace FilterOperator

/-- The operator that a value picks. -/
def forValue : Value → FilterOperator
  | .array _ => .member
  | .null => .isNull
  | _ => .equal

def sql : FilterOperator → String
  | .equal => "="
  | .member => "IN"
  | .isNull => "IS NULL"

def name : FilterOperator → String
  | .equal => "Eq"
  | .member => "In"
  | .isNull => "IsNull"

def ofName? : String → Option FilterOperator
  | "Eq" => some .equal
  | "In" => some .member
  | "IsNull" => some .isNull
  | _ => none

@[simp] theorem ofName?_name (o : FilterOperator) : ofName? o.name = some o := by
  cases o <;> rfl

/-- The value of a column, null counting as missing. -/
def present? (actual : Option Value) : Option Value :=
  actual.filter fun v => !v.isNull

def holds (o : FilterOperator) (actual : Option Value) (expected : Value) : Bool :=
  match o, present? actual with
  | .isNull, v => v.isNone
  | .equal, some v => v.same expected
  | .member, some v => (expected.items?.getD []).any v.same
  | _, none => false

end FilterOperator

/-- The row meets every condition, each under the operator that its value picks. -/
def Row.satisfies (row conditions : Row) : Bool :=
  conditions.entries.all fun c =>
    (FilterOperator.forValue c.2).holds (row.get? c.1) c.2

/-! ## Identifiers -/

namespace Identifier

def isStart (c : Char) : Bool := c.isAlpha || c == '_'

/-- An ASCII letter, a digit or an underscore. -/
def isRest (c : Char) : Bool := c.isAlphanum || c == '_'

/-- One part: a start followed by any number of rests. -/
def isPart : List Char → Bool
  | [] => false
  | c :: rest => isStart c && rest.all isRest

/-- The parts between the dots; always at least one. -/
def parts : List Char → List (List Char)
  | [] => [[]]
  | '.' :: rest => [] :: parts rest
  | c :: rest =>
    match parts rest with
    | [] => [[c]]
    | p :: ps => (c :: p) :: ps

/-- The text is an SQL identifier, perhaps with qualifying parts before dots. -/
def isValid (s : String) : Bool := (parts s.toList).all isPart

end Identifier

end RowAccess
