import RowAccess.Entries
import RowAccess.Number

/-!
# Values

The values that rows, payloads, request data and filter conditions hold: documents of
null, truth values, numbers, texts, arrays and objects. An object keeps the order of its
names, but equality (`Value.same`) ignores it. Two more questions are asked of a value:
whether it counts as true, and whether it stands for an identifier.
-/

namespace RowAccess

/-- A document value. -/
inductive Value where
  | null
  | bool (b : Bool)
  | number (n : Number)
  | string (s : String)
  | array (items : List Value)
  | object (fields : List (String × Value))
  deriving Repr, Inhabited

namespace Value

/-! ## Shape -/

def isNull : Value → Bool
  | .null => true
  | _ => false

def items? : Value → Option (List Value)
  | .array xs => some xs
  | _ => none

def text? : Value → Option String
  | .string s => some s
  | _ => none

def bool? : Value → Option Bool
  | .bool b => some b
  | _ => none

/-- The natural number. -/
def natural? : Value → Option Nat
  | .number n => n.natural?
  | _ => none

def fields? : Value → Option (List (String × Value))
  | .object es => some es
  | _ => none

def get? (v : Value) (name : String) : Option Value :=
  match v with
  | .object es => Entries.find? es name
  | _ => none

def walk? : Value → List String → Option Value
  | v, [] => some v
  | v, name :: rest => (v.get? name).bind fun w => w.walk? rest

def ofOption : Option String → Value
  | none => .null
  | some s => .string s

def ofNames (names : List String) : Value := .array (names.map .string)

def ofNat (n : Nat) : Value := .number (.integer n)

/-! ## Equality -/

mutual
/-- Equality of documents: kinds agree, arrays item by item, objects as maps. -/
def same : Value → Value → Bool
  | .null, .null => true
  | .bool a, .bool b => a == b
  | .number a, .number b => a.same b
  | .string a, .string b => a == b
  | .array xs, .array ys => sameItems xs ys
  | .object xs, .object ys => xs.length == ys.length && sameFields xs ys
  | _, _ => false
termination_by structural v => v

def sameItems : List Value → List Value → Bool
  | [], [] => true
  | x :: xs, y :: ys => same x y && sameItems xs ys
  | _, _ => false
termination_by structural xs => xs

/-- Every entry of the first list has an equal one of its name in the second. -/
def sameFields : List (String × Value) → List (String × Value) → Bool
  | [], _ => true
  | (k, v) :: rest, ys =>
    (match Entries.find? ys k with
     | some w => same v w
     | none => false) && sameFields rest ys
termination_by structural xs => xs
end

/-! ## Reading a value as something else -/

/-- Whether a value counts as true: null, false, zero, a NaN and the empty text do not. -/
def isTruthy : Value → Bool
  | .null => false
  | .bool b => b
  | .number n => n.nonzero
  | .string s => s != ""
  | .array _ => true
  | .object _ => true

/-- Whether a value stands for the identifier: as a text, or as the text of a number. -/
def denotes (v : Value) (identifier : String) : Bool :=
  match v with
  | .string s => s == identifier
  | .number n => n.text == identifier
  | _ => false

end Value

end RowAccess
