import RowAccess.Number

/-!
# Number literals

Reading the number at the start of a text, by the grammar of documents: an optional
minus, digits without a leading zero, an optional fraction, an optional power of ten.

A literal without fraction and power that fits sixty-four bits is an integer; only `-0`
is not. Everything else is a double. Its significand is made of the leading digits as
long as they fit sixty-four bits; it is rounded to a double, then multiplied or divided
by a power of ten that is itself rounded. A literal too large for a double is no number.
-/

namespace RowAccess.Number

def digit? (c : Char) : Option Nat :=
  if '0' ≤ c ∧ c ≤ '9' then some (c.toNat - '0'.toNat) else none

/-- The digits at the start of a text, and what follows them. -/
def spanDigits (cs : List Char) : List Nat × List Char :=
  (cs.takeWhile Char.isDigit |>.filterMap digit?, cs.dropWhile Char.isDigit)

def ofDigits (ds : List Nat) : Nat := ds.foldl (fun n d => n * 10 + d) 0

def ofDecimal (cs : List Char) : Nat := ofDigits (cs.filterMap digit?)

/-- A significand and the power of ten that goes with it. -/
structure Scaled where
  significand : Nat
  power : Int
  /-- A digit did not fit any more. -/
  full : Bool

namespace Scaled

/-- One more digit of the whole part: dropped digits raise the power. -/
def pushWhole (x : Scaled) (d : Nat) : Scaled :=
  let next := x.significand * 10 + d
  if x.full || maxNatural < next then ⟨x.significand, x.power + 1, true⟩
  else ⟨next, x.power, false⟩

/-- One more digit of the fraction: kept digits lower the power, dropped ones do nothing. -/
def pushFraction (x : Scaled) (d : Nat) : Scaled :=
  let next := x.significand * 10 + d
  if x.full || maxNatural < next then { x with full := true }
  else ⟨next, x.power - 1, false⟩

/-- The double that a significand and a power of ten stand for; none if it is too large. -/
def toDouble? (x : Scaled) : Option Double :=
  let f := Double.ofNat x.significand
  let tenTo (k : Nat) := Double.ofNat (Nat.pow 10 k)
  if 0 ≤ x.power then
    if x.significand = 0 then some f
    else if 308 < x.power then none
    else
      let r := f.mul (tenTo x.power.toNat)
      if r.isInfinite then none else some r
  else
    let k := x.power.natAbs
    if k ≤ 308 then some (f.div (tenTo k))
    else if k ≤ 616 then some ((f.div (tenTo 308)).div (tenTo (k - 308)))
    else some (Double.ofNat 0)

end Scaled

/-- The whole part of a literal: a lone zero, or digits that do not start with one. -/
def readWhole? (cs : List Char) : Option (List Nat × List Char) :=
  match spanDigits cs with
  | ([], _) => none
  | (0 :: _ :: _, _) => none
  | r => some r

/-- The fraction of a literal, if a point stands there; a point needs a digit behind it. -/
def readFraction? : List Char → Option (Option (List Nat) × List Char)
  | '.' :: cs =>
    match spanDigits cs with
    | ([], _) => none
    | (ds, rest) => some (some ds, rest)
  | cs => some (none, cs)

/-- The power of ten of a literal, if an `e` stands there; it needs a digit. -/
def readPower? (cs : List Char) : Option (Option Int × List Char) :=
  let signed (negative : Bool) (cs : List Char) :=
    match spanDigits cs with
    | ([], _) => none
    | (ds, rest) =>
      let n : Int := ofDigits ds
      some (some (if negative then -n else n), rest)
  match cs with
  | e :: rest =>
    if e = 'e' ∨ e = 'E' then
      match rest with
      | '+' :: more => signed false more
      | '-' :: more => signed true more
      | _ => signed false rest
    else some (none, cs)
  | [] => some (none, [])

def ofLiteral? (negative : Bool) (whole : List Nat) (fraction : Option (List Nat))
    (power : Option Int) : Option Number :=
  let x := whole.foldl Scaled.pushWhole ⟨0, 0, false⟩
  let asDouble (x : Scaled) : Option Number :=
    x.toDouble?.map fun d => .float (if negative then d.neg else d)
  match fraction, power with
  | none, none =>
    if x.full then asDouble x
    else if !negative then some (.integer x.significand)
    else if x.significand = 0 ∨ Nat.pow 2 63 < x.significand then asDouble x
    else some (.integer (-(x.significand : Int)))
  | _, _ =>
    let y := (fraction.getD []).foldl Scaled.pushFraction { x with full := false }
    asDouble { y with power := y.power + power.getD 0 }

/-- The number whose parts are at the start of a text, behind its sign. -/
def readParts? (negative : Bool) (cs : List Char) : Option (Number × List Char) := do
  let (whole, cs) ← readWhole? cs
  let (fraction, cs) ← readFraction? cs
  let (power, cs) ← readPower? cs
  let n ← ofLiteral? negative whole fraction power
  return (n, cs)

/-- The number at the start of a text, and what follows it. -/
def read? : List Char → Option (Number × List Char)
  | '-' :: cs => readParts? true cs
  | cs => readParts? false cs

end RowAccess.Number
