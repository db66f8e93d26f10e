import RowAccess.Text.Blank

/-!
# Instants

Points in time in UTC, to the nanosecond, with their RFC 3339 text. The reader takes an
offset and moves the time to UTC; around the parts of a date and a time it is generous
with blanks and with missing leading zeros. A leap second is a second of its own: it is
kept as a fraction of one second or more.
-/

namespace RowAccess

/-- A point in time: the day counted from 1970-01-01, the second of the day, and the
nanosecond, which reaches past one second in a leap second. -/
structure Instant where
  day : Int
  second : Nat
  nano : Nat
  deriving DecidableEq, Repr, Inhabited

namespace Instant

/-! ## Calendar -/

def isLeapYear (year : Int) : Bool :=
  year % 4 == 0 && (year % 100 != 0 || year % 400 == 0)

def daysInMonth (year : Int) (month : Nat) : Nat :=
  match month with
  | 2 => if isLeapYear year then 29 else 28
  | 4 | 6 | 9 | 11 => 30
  | _ => 31

/-- The day number of a date. Years are counted from March, so that the leap day is the last. -/
def dayNumber (year : Int) (month day : Nat) : Int :=
  let y := if month ≤ 2 then year - 1 else year
  let m : Int := if month ≤ 2 then month + 9 else (month : Int) - 3
  365 * y + y / 4 - y / 100 + y / 400 + (153 * m + 2) / 5 + day - 1 - 719468

/-- The date of a day number: year, month and day. -/
def date (dayNumber : Int) : Int × Nat × Nat :=
  let z := dayNumber + 719468
  let era := z / 146097
  let ofEra := z % 146097
  let yearOfEra := (ofEra - ofEra / 1460 + ofEra / 36524 - ofEra / 146096) / 365
  let ofYear := ofEra - (365 * yearOfEra + yearOfEra / 4 - yearOfEra / 100)
  let m := (5 * ofYear + 2) / 153
  let day := ofYear - (153 * m + 2) / 5 + 1
  let month := if m < 10 then m + 3 else m - 9
  let year := yearOfEra + era * 400 + if month ≤ 2 then 1 else 0
  (year, month.toNat, day.toNat)

def hour (t : Instant) : Nat := t.second / 3600

/-! ## Text -/

def padded (width n : Nat) : String :=
  let ds := Nat.toDigits 10 n
  String.ofList (List.replicate (width - ds.length) '0' ++ ds)

/-- A year: four digits, and a sign where those do not suffice. -/
def yearText (year : Int) : String :=
  if 0 ≤ year ∧ year ≤ 9999 then padded 4 year.toNat
  else (if year < 0 then "-" else "+") ++ padded 4 year.natAbs

/-- A fraction of a second in three, six or nine digits; nothing if it is zero. -/
def fractionText (nano : Nat) : String :=
  if nano = 0 then ""
  else if nano % 1000000 = 0 then "." ++ padded 3 (nano / 1000000)
  else if nano % 1000 = 0 then "." ++ padded 6 (nano / 1000)
  else "." ++ padded 9 nano

def text (t : Instant) : String :=
  let (year, month, day) := date t.day
  let leap := t.nano / 1000000000
  yearText year ++ "-" ++ padded 2 month ++ "-" ++ padded 2 day ++ "T" ++
    padded 2 (t.second / 3600) ++ ":" ++ padded 2 (t.second / 60 % 60) ++ ":" ++
    padded 2 (t.second % 60 + leap) ++ fractionText (t.nano % 1000000000) ++ "Z"

/-! ## Reading -/

/-- At most `width` digits, at least one. -/
def readNumber? (width : Nat) (cs : List Char) : Option (Nat × List Char) :=
  let ds := (cs.take width).takeWhile Char.isDigit
  if ds.isEmpty then none
  else some (ds.foldl (fun n d => n * 10 + (d.toNat - '0'.toNat)) 0, cs.drop ds.length)

/-- A number behind blanks. -/
def readPart? (width : Nat) (cs : List Char) : Option (Nat × List Char) :=
  readNumber? width (Text.trimStart cs)

/-- A year behind blanks: four digits, or any number of them behind a sign. -/
def readYear? (cs : List Char) : Option (Int × List Char) :=
  match Text.trimStart cs with
  | '-' :: rest => (readNumber? rest.length rest).map fun r => (-(r.1 : Int), r.2)
  | '+' :: rest => (readNumber? rest.length rest).map fun r => ((r.1 : Int), r.2)
  | rest => (readNumber? 4 rest).map fun r => ((r.1 : Int), r.2)

/-- A mark that has to stand behind blanks. -/
def readMark? (mark : Char) (cs : List Char) : Option (List Char) :=
  match Text.trimStart cs with
  | c :: rest => if c = mark then some rest else none
  | [] => none

/-- The nanoseconds of a fraction, if a point stands there; digits past the ninth are dropped. -/
def readFraction? : List Char → Option (Nat × List Char)
  | '.' :: cs => do
    let (n, rest) ← readNumber? 9 cs
    let width := cs.length - rest.length
    return (n * Nat.pow 10 (9 - width), rest.dropWhile Char.isDigit)
  | cs => some (0, cs)

def readPair? : List Char → Option (Nat × List Char)
  | a :: b :: rest =>
    if a.isDigit && b.isDigit then
      some ((a.toNat - '0'.toNat) * 10 + (b.toNat - '0'.toNat), rest)
    else none
  | _ => none

/-- The seconds that an offset from UTC adds. -/
def readOffset? (cs : List Char) : Option (Int × List Char) :=
  let signed (sign : Int) (cs : List Char) : Option (Int × List Char) := do
    let (hours, rest) ← readPair? cs
    let (minutes, rest) ← readPair? (rest.dropWhile fun c => c == ':' || Text.isBlank c)
    if 59 < minutes ∨ 86400 ≤ hours * 3600 + minutes * 60 then none
    else some (sign * ((hours * 3600 + minutes * 60 : Nat) : Int), rest)
  match cs with
  | 'Z' :: rest => some (0, rest)
  | 'z' :: rest => some (0, rest)
  | '+' :: rest => signed 1 rest
  | '-' :: rest => signed (-1) rest
  | '\u2212' :: rest => signed (-1) rest
  | a :: b :: c :: rest =>
    if a.toUpper = 'U' ∧ b.toUpper = 'T' ∧ c.toUpper = 'C' then some (0, rest) else none
  | _ => none

/-- The years that dates are kept for. -/
def yearInRange (year : Int) : Bool := -262143 ≤ year && year ≤ 262142

def ofText? (s : String) : Option Instant := do
  let (year, cs) ← readYear? s.toList
  let cs ← readMark? '-' cs
  let (month, cs) ← readPart? 2 cs
  let cs ← readMark? '-' cs
  let (day, cs) ← readPart? 2 cs
  let cs ← match cs with
    | c :: rest => if c = 'T' ∨ c = 't' ∨ c = ' ' then some rest else none
    | [] => none
  let (hour, cs) ← readPart? 2 cs
  let cs ← readMark? ':' cs
  let (minute, cs) ← readPart? 2 cs
  let cs ← readMark? ':' cs
  let (second, cs) ← readPart? 2 cs
  let (nano, cs) ← readFraction? cs
  let (offset, cs) ← readOffset? (Text.trimStart cs)
  if !(Text.trimStart cs).isEmpty then none
  else if !yearInRange year then none
  else if month < 1 ∨ 12 < month ∨ day < 1 ∨ daysInMonth year month < day then none
  else if 23 < hour ∨ 59 < minute ∨ 60 < second then none
  else
    let leap := if second = 60 then 1 else 0
    let total : Int :=
      dayNumber year month day * 86400 + ((hour * 3600 + minute * 60 + (second - leap) : Nat) : Int)
        - offset
    let t : Instant := ⟨total / 86400, (total % 86400).toNat, leap * 1000000000 + nano⟩
    if yearInRange (date t.day).1 then some t else none

end Instant

end RowAccess
