import RowAccess.Number.Double

/-!
# Shortest decimal digits

The decimal digits that stand for a double: the fewest that read back as the same
double, and among those the ones nearest to it. For one digit, then two, and so on, the
two points of that decimal grid around the double are tested against the interval of
reals that round to it; the first grid with a hit gives the answer.
-/

namespace RowAccess

/-- Significant digits and the power of ten of the first one: `d.ddd * 10 ^ exponent`. -/
structure Decimal where
  digits : List Nat
  exponent : Int
  deriving DecidableEq, Repr

namespace Double

/-- Four times the double and the ends of its rounding interval, over a common denominator.
The lower neighbour of a power of two is half as far away as the upper one. -/
structure Interval where
  low : Nat
  value : Nat
  high : Nat
  denominator : Nat
  /-- The ends belong to the interval. -/
  closed : Bool

/-- The reals that round to a finite double other than zero. -/
def interval (d : Double) : Interval :=
  let m := d.significand
  let unit := Nat.pow 2 d.exponent
  let below := if m = Nat.pow 2 52 ∧ 0 < d.exponent then 1 else 2
  { low := (4 * m - below) * unit
    value := 4 * m * unit
    high := (4 * m + 2) * unit
    denominator := 4 * Nat.pow 2 1074
    closed := m % 2 == 0 }

/-- Whether `num / den` rounds to the double of the interval. -/
def Interval.contains (i : Interval) (num den : Nat) : Bool :=
  let n := num * i.denominator
  if i.closed then i.low * den ≤ n && n ≤ i.high * den
  else i.low * den < n && n < i.high * den

/-- The power of ten of the first digit of `num / den`, searched upwards from `from10`. -/
def leadingExponent (num den : Nat) : Nat → Int → Int
  | 0, e => e
  | fuel + 1, e =>
    let next := e + 1
    let reached :=
      if 0 ≤ next then den * Nat.pow 10 next.toNat ≤ num
      else den ≤ num * Nat.pow 10 next.natAbs
    if reached then leadingExponent num den fuel next else e

/-- The grid point of `count` digits nearest to the value that lies in the interval. -/
def gridPoint? (i : Interval) (lead : Int) (count : Nat) : Option Nat :=
  let step := lead - (count : Int) + 1
  let up := if 0 ≤ step then Nat.pow 10 step.toNat else 1
  let down := if 0 ≤ step then 1 else Nat.pow 10 step.natAbs
  let below := i.value * down / (i.denominator * up)
  let belowFits := i.contains (below * up) down
  let aboveFits := i.contains ((below + 1) * up) down
  let rest := 2 * (i.value * down % (i.denominator * up))
  let nearBelow := rest < i.denominator * up || (rest == i.denominator * up && below % 2 == 0)
  if belowFits && (nearBelow || !aboveFits) then some below
  else if aboveFits then some (below + 1)
  else none

/-- The digits of a grid point, without the zeros at its end. -/
def significantDigits (n : Nat) : List Nat :=
  let ds := (Nat.toDigits 10 n).map fun c => c.toNat - '0'.toNat
  (ds.reverse.dropWhile (· == 0)).reverse

/-- The first grid with a hit, from `count` digits on. -/
def shortestFrom (i : Interval) (lead : Int) : Nat → Nat → Decimal
  | 0, _ => ⟨[0], 0⟩
  | fuel + 1, count =>
    match gridPoint? i lead count with
    | some n =>
      let width := (Nat.toDigits 10 n).length
      ⟨significantDigits n, lead + (width : Int) - count⟩
    | none => shortestFrom i lead fuel (count + 1)

/-- The shortest digits of a finite double, without its sign. -/
def shortest (d : Double) : Decimal :=
  if d.isZero then ⟨[0], 0⟩
  else
    let i := d.interval
    shortestFrom i (leadingExponent i.value i.denominator 640 (-325)) 18 1

end Double

end RowAccess
