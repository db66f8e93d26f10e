import RowAccess.Number.Layout

/-!
# Numbers

A number of a document is an integer or a double, and the two never meet: `1` is not
`1.0`. The text of a number is what an identifier is compared with.
-/

namespace RowAccess

/-- A number of a document. -/
inductive Number where
  | integer (value : Int)
  | float (value : Double)
  deriving DecidableEq, Repr, Inhabited

namespace Number

/-- Decimal digits for integers, the document layout for doubles. -/
def text : Number → String
  | .integer n => toString n
  | .float d => Layout.document.write d

/-- Equality of numbers: the kinds have to agree, doubles are compared by value. -/
def same : Number → Number → Bool
  | .integer a, .integer b => a == b
  | .float a, .float b => a.same b
  | _, _ => false

/-- Neither zero nor a NaN. -/
def nonzero : Number → Bool
  | .integer n => n != 0
  | .float d => !d.isZero && !d.isNaN

/-- The largest natural number a document holds exactly. -/
def maxNatural : Nat := Nat.pow 2 64 - 1

/-- The natural number a document holds, if it is one. -/
def natural? : Number → Option Nat
  | .integer n => if 0 ≤ n then some n.toNat else none
  | .float _ => none

end Number

end RowAccess
