/-!
# Binary floating point

Doubles are 64-bit words read by the IEEE 754 binary64 rules: a sign, a significand and
a power of two. Everything here is exact arithmetic on natural numbers; rounding happens
in one place, `Double.ofRatio`, and always goes to the nearest double, a tie to the one
whose last bit is zero.
-/

namespace RowAccess

/-- A binary64 number, by its bits. -/
structure Double where
  bits : UInt64
  deriving DecidableEq, Repr, Inhabited

namespace Double

/-! ## Fields of the word -/

/-- The bits below the sign, as a number. -/
def magnitude (d : Double) : Nat := d.bits.toNat % Nat.pow 2 63

def negative (d : Double) : Bool := Nat.pow 2 63 ≤ d.bits.toNat

/-- The magnitude word of infinity: every exponent bit set, no fraction bit. -/
def infinityBits : Nat := 0x7FF * Nat.pow 2 52

def isNaN (d : Double) : Bool := infinityBits < d.magnitude

def isInfinite (d : Double) : Bool := d.magnitude == infinityBits

def isFinite (d : Double) : Bool := d.magnitude < infinityBits

theorem isFinite_iff {d : Double} :
    d.isFinite = true ↔ d.isNaN = false ∧ d.isInfinite = false := by
  simp only [isFinite, isNaN, isInfinite, decide_eq_true_eq, decide_eq_false_iff_not,
    beq_eq_false_iff_ne]
  omega

theorem isNaN_of_isInfinite {d : Double} (h : d.isInfinite = true) : d.isNaN = false := by
  simp only [isInfinite, isNaN, beq_iff_eq] at *
  simp [h]

/-- Both zeros. -/
def isZero (d : Double) : Bool := d.magnitude == 0

/-- A finite double is `significand * 2 ^ (exponent - 1074)`, up to its sign. -/
def significand (d : Double) : Nat :=
  let fraction := d.magnitude % Nat.pow 2 52
  if d.magnitude / Nat.pow 2 52 = 0 then fraction else Nat.pow 2 52 + fraction

/-- The power of two, counted from the smallest one a double can have. -/
def exponent (d : Double) : Nat := d.magnitude / Nat.pow 2 52 - 1

def ofParts (negative : Bool) (magnitude : Nat) : Double :=
  ⟨UInt64.ofNat (if negative then Nat.pow 2 63 + magnitude else magnitude)⟩

/-- Equality of values: the two zeros are equal, and nothing equals a NaN. -/
def same (a b : Double) : Bool :=
  !a.isNaN && !b.isNaN && (a.bits == b.bits || (a.isZero && b.isZero))

def neg (d : Double) : Double := ofParts (!d.negative) d.magnitude

/-! ## Rounding -/

/-- The whole number nearest to `num / den`; a tie goes to the even one. -/
def roundRatio (num den : Nat) : Nat :=
  let low := num / den
  let rest := 2 * (num % den)
  if rest < den then low
  else if den < rest then low + 1
  else low + low % 2

/-- The unit of the double nearest to `num / den`, as a power of two counted from `2 ^ -1074`:
the largest one that leaves at least fifty-three bits before rounding, or the smallest there is. -/
def unitOf (num den : Nat) : Nat :=
  let scaled := num * Nat.pow 2 1074 / den
  scaled.log2 - 52

/-- The magnitude word of the double nearest to `num / den`. A carry out of the significand
moves into the exponent by itself; what is too large becomes infinity. -/
def wordOfRatio (num den : Nat) : Nat :=
  let unit := unitOf num den
  let word := unit * Nat.pow 2 52 + roundRatio (num * Nat.pow 2 1074) (den * Nat.pow 2 unit)
  min word infinityBits

/-- The double nearest to `num / den`, with a sign. -/
def ofRatio (negative : Bool) (num den : Nat) : Double :=
  ofParts negative (wordOfRatio num den)

def ofNat (n : Nat) : Double := ofRatio false n 1

/-- The double nearest to `digits * 10 ^ exponent`. -/
def ofDecimal (negative : Bool) (digits : Nat) (exponent : Int) : Double :=
  if digits = 0 then ofParts negative 0
  else if 400 < exponent then ofParts negative infinityBits
  else if exponent < -(digits.log2 + 400 : Int) then ofParts negative 0
  else if 0 ≤ exponent then ofRatio negative (digits * Nat.pow 10 exponent.toNat) 1
  else ofRatio negative digits (Nat.pow 10 exponent.natAbs)

/-! ## Arithmetic -/

/-- The product of two finite doubles, rounded. -/
def mul (a b : Double) : Double :=
  ofRatio (a.negative != b.negative)
    (a.significand * b.significand * Nat.pow 2 (a.exponent + b.exponent)) (Nat.pow 2 2148)

/-- The quotient of two finite doubles, the second not zero, rounded. -/
def div (a b : Double) : Double :=
  ofRatio (a.negative != b.negative)
    (a.significand * Nat.pow 2 a.exponent) (b.significand * Nat.pow 2 b.exponent)

/-- The whole number nearest to a finite double; a half goes away from zero. -/
def roundAbs (d : Double) : Nat :=
  let num := d.significand * Nat.pow 2 d.exponent
  (2 * num + Nat.pow 2 1074) / (2 * Nat.pow 2 1074)

end Double

end RowAccess
