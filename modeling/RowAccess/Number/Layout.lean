import RowAccess.Number.Shortest

/-!
# Written numbers

Where the decimal point of a number stands, and when a power of ten is written instead.
A layout is one record; the two that are used are `Layout.document`, for numbers inside
documents, and `Layout.plain`, for numbers that become text.
-/

namespace RowAccess

/-- The decisions of a number format. -/
structure Layout where
  /-- Smallest power of ten of the first digit that is written positionally. -/
  lowest : Int
  /-- Largest power of ten of the first digit that is written positionally. -/
  highest : Int
  /-- A whole number keeps one zero behind the point. -/
  pointedWholes : Bool
  /-- A positive power of ten has a sign. -/
  signedPowers : Bool
  deriving DecidableEq, Repr

namespace Layout

/-- Numbers in documents: positional from `1e-5` up to below `1e16`, always with a point,
else a signed power of ten. -/
def document : Layout := ⟨-5, 15, true, true⟩

/-- Numbers as text: always positional, a point only where a fraction follows. -/
def plain : Layout := ⟨-400, 400, false, false⟩

def digitChar (n : Nat) : Char := Char.ofNat ('0'.toNat + n)

/-- The digits with the point behind the first `whole` of them, zeros filled in. -/
def positional (l : Layout) (x : Decimal) : String :=
  let ds := x.digits.map digitChar
  if x.exponent < 0 then
    "0." ++ String.ofList (List.replicate (x.exponent.natAbs - 1) '0' ++ ds)
  else
    let whole := x.exponent.toNat + 1
    let front := ds.take whole ++ List.replicate (whole - ds.length) '0'
    let back := ds.drop whole
    if back.isEmpty then String.ofList front ++ (if l.pointedWholes then ".0" else "")
    else String.ofList front ++ "." ++ String.ofList back

/-- One digit, the point, the others, and the power of ten. -/
def scientific (l : Layout) (x : Decimal) : String :=
  let ds := x.digits.map digitChar
  let front := String.ofList (ds.take 1)
  let back := if (ds.drop 1).isEmpty then "" else "." ++ String.ofList (ds.drop 1)
  let sign := if x.exponent < 0 then "-" else if l.signedPowers then "+" else ""
  front ++ back ++ "e" ++ sign ++ toString x.exponent.natAbs

def write (l : Layout) (d : Double) : String :=
  let sign := if d.negative then "-" else ""
  if d.isNaN then "NaN"
  else if d.isInfinite then sign ++ "inf"
  else
    let x := d.shortest
    sign ++ if l.lowest ≤ x.exponent ∧ x.exponent ≤ l.highest then l.positional x
      else l.scientific x

end Layout

end RowAccess
