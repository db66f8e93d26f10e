import RowAccess.Number.Literal
import RowAccess.Toml

/-!
# Reading TOML

The reader of TOML documents. Scalars are taken apart in full: numbers in four bases with
separators, infinities and NaN, dates and times with their ranges, strings of four kinds.
Only whether a document is well formed matters to its callers, so a faulty one has no
message. Arrays and inline tables nest, and keys are dotted, up to a fixed depth.

Recursion through nested values is on a number of steps that the text cannot exceed.
-/

namespace RowAccess.Toml

abbrev Text := List Char

/-- How deep arrays and inline tables may nest, and how many parts a key may have. -/
def maxDepth : Nat := 80

/-! ## Blanks and comments -/

def isSpace (c : Char) : Bool := c == ' ' || c == '\t'

def skipSpace (cs : Text) : Text := cs.dropWhile isSpace

/-- Control characters that may not stand in a document, the tab excepted. -/
def isForbidden (c : Char) : Bool := (c.toNat < 0x20 && c != '\t') || c.toNat == 0x7F

def readNewline? : Text → Option Text
  | '\n' :: rest => some rest
  | '\r' :: '\n' :: rest => some rest
  | _ => none

/-- Drops a comment up to the line end, if one stands there. -/
def skipComment? (cs : Text) : Option Text :=
  match cs with
  | '#' :: rest =>
    let after := rest.dropWhile fun c => !isForbidden c
    if after.isEmpty || (readNewline? after).isSome then some after else none
  | _ => some cs

/-- Drops blanks, comments and line ends. -/
def skipLines? : Nat → Text → Option Text
  | 0, cs => some cs
  | fuel + 1, cs =>
    match skipComment? (skipSpace cs) with
    | none => none
    | some cs =>
      match readNewline? cs with
      | some rest => skipLines? fuel rest
      | none => some cs

/-! ## Strings -/

def hexDigit? (c : Char) : Option Nat :=
  if '0' ≤ c ∧ c ≤ '9' then some (c.toNat - '0'.toNat)
  else if 'a' ≤ c ∧ c ≤ 'f' then some (c.toNat - 'a'.toNat + 10)
  else if 'A' ≤ c ∧ c ≤ 'F' then some (c.toNat - 'A'.toNat + 10)
  else none

def readCodePoint? (width : Nat) (cs : Text) : Option (Char × Text) := do
  let ds ← (cs.take width).mapM hexDigit?
  if ds.length < width then none
  else
    let n := ds.foldl (fun n d => n * 16 + d) 0
    if n.isValidChar then some (Char.ofNat n, cs.drop width) else none

def readEscape? : Text → Option (Char × Text)
  | 'b' :: rest => some ('\x08', rest)
  | 't' :: rest => some ('\t', rest)
  | 'n' :: rest => some ('\n', rest)
  | 'f' :: rest => some ('\x0c', rest)
  | 'r' :: rest => some ('\r', rest)
  | 'e' :: rest => some ('\x1b', rest)
  | '"' :: rest => some ('"', rest)
  | '\\' :: rest => some ('\\', rest)
  | 'x' :: rest => readCodePoint? 2 rest
  | 'u' :: rest => readCodePoint? 4 rest
  | 'U' :: rest => readCodePoint? 8 rest
  | _ => none

def readBasic? : Nat → List Char → Text → Option (String × Text)
  | 0, _, _ => none
  | fuel + 1, read, cs =>
    match cs with
    | '"' :: rest => some (String.ofList read.reverse, rest)
    | '\\' :: rest =>
      match readEscape? rest with
      | some (c, rest) => readBasic? fuel (c :: read) rest
      | none => none
    | c :: rest => if isForbidden c then none else readBasic? fuel (c :: read) rest
    | [] => none

def readLiteral? (cs : Text) : Option (String × Text) :=
  let body := cs.takeWhile fun c => c != '\'' && !isForbidden c
  match cs.drop body.length with
  | '\'' :: rest => some (String.ofList body, rest)
  | _ => none

/-- Blanks and line ends after a backslash at the end of a line. -/
def skipFolded : Text → Text
  | ' ' :: rest => skipFolded rest
  | '\t' :: rest => skipFolded rest
  | '\n' :: rest => skipFolded rest
  | '\r' :: '\n' :: rest => skipFolded rest
  | cs => cs

/-- A backslash here folds the line: only blanks stand between it and the line end. -/
def foldsLine (cs : Text) : Bool := (readNewline? (skipSpace cs)).isSome

/-- The rest of a string over several lines, basic or literal; up to two quotes may stand
directly before the three that close it. Its line ends are kept as they are. -/
def readLong? (quote : Char) (basic : Bool) : Nat → List Char → Text → Option (String × Text)
  | 0, _, _ => none
  | fuel + 1, read, cs =>
    match cs with
    | [] => none
    | c :: rest =>
      if c = quote then
        let quotes := (cs.takeWhile (· == quote)).take 5
        if 3 ≤ quotes.length then
          some (String.ofList (quotes.drop 3 ++ read).reverse, cs.drop quotes.length)
        else readLong? quote basic fuel (c :: read) rest
      else if c = '\\' ∧ basic then
        if foldsLine rest then readLong? quote basic fuel read (skipFolded rest)
        else
          match readEscape? rest with
          | some (c, rest) => readLong? quote basic fuel (c :: read) rest
          | none => none
      else
        match cs with
        | '\r' :: '\n' :: rest => readLong? quote basic fuel ('\n' :: '\r' :: read) rest
        | _ =>
          if isForbidden c && c != '\n' then none
          else readLong? quote basic fuel (c :: read) rest

/-- A line end directly after the opening quotes does not belong to the string. -/
def dropFirstNewline (cs : Text) : Text := (readNewline? cs).getD cs

def readString? (cs : Text) : Option (String × Text) :=
  match cs with
  | '"' :: '"' :: '"' :: rest => readLong? '"' true (rest.length + 1) [] (dropFirstNewline rest)
  | '\'' :: '\'' :: '\'' :: rest =>
    readLong? '\'' false (rest.length + 1) [] (dropFirstNewline rest)
  | '"' :: rest => readBasic? (rest.length + 1) [] rest
  | '\'' :: rest => readLiteral? rest
  | _ => none

/-! ## Keys -/

def isBareKeyChar (c : Char) : Bool := c.isAlphanum || c == '_' || c == '-'

def readKeyPart? (cs : Text) : Option (String × Text) :=
  match cs with
  | '"' :: rest => readBasic? (rest.length + 1) [] rest
  | '\'' :: rest => readLiteral? rest
  | _ =>
    let part := cs.takeWhile isBareKeyChar
    if part.isEmpty then none else some (String.ofList part, cs.drop part.length)

/-- The parts of a dotted key, no more than the given number. -/
def readKeyParts? : Nat → Text → Option (List String × Text)
  | 0, _ => none
  | room + 1, cs =>
    match readKeyPart? (skipSpace cs) with
    | none => none
    | some (part, rest) =>
      match skipSpace rest with
      | '.' :: rest => (readKeyParts? room rest).map fun r => (part :: r.1, r.2)
      | rest => some ([part], rest)

def readKey? (cs : Text) : Option (List String × Text) := readKeyParts? maxDepth cs

/-! ## Numbers -/

/-- The digits of a number whose separators stand between digits. -/
def ungroup? (isDigit : Char → Bool) : Text → Option Text
  | [] => none
  | [c] => if isDigit c then some [c] else none
  | c :: '_' :: d :: rest =>
    if isDigit c && isDigit d then (ungroup? isDigit (d :: rest)).map (c :: ·) else none
  | c :: rest => if isDigit c then (ungroup? isDigit rest).map (c :: ·) else none

def ofDigits (base : Nat) (ds : Text) : Nat :=
  ds.foldl (fun n c => n * base + (hexDigit? c).getD 0) 0

/-- An integer, if one of 128 bits, signed or not, can be it. -/
def ofInt (n : Int) : Toml :=
  if -Int.pow 2 127 ≤ n ∧ n < Int.pow 2 128 then .integer n else .tooLarge

/-- A float, if it is finite. -/
def ofFinite (d : Double) : Toml := if d.isFinite then .float d else .tooLarge

def basedInteger? (base : Nat) (cs : Text) : Option Toml :=
  (ungroup? (fun c => (hexDigit? c).any (· < base)) cs).map fun ds => ofInt (ofDigits base ds)

/-- Decimal digits without a leading zero. -/
def wholeDigits? (cs : Text) : Option Text :=
  match ungroup? Char.isDigit cs with
  | some ('0' :: _ :: _) => none
  | r => r

/-- A decimal number after its sign: an integer, or a float with a fraction or a power. -/
def unsignedNumber? (negative : Bool) (cs : Text) : Option Toml :=
  let isMark (c : Char) := c == '.' || c == 'e' || c == 'E'
  let whole := cs.takeWhile (!isMark ·)
  match wholeDigits? whole with
  | none => none
  | some ds =>
    let afterWhole := cs.drop whole.length
    if afterWhole.isEmpty then
      some (ofInt (if negative then -(ofDigits 10 ds : Int) else ofDigits 10 ds))
    else
      let isPower (c : Char) := c == 'e' || c == 'E'
      let fraction? : Option (Text × Text) :=
        match afterWhole with
        | '.' :: rest =>
          let f := rest.takeWhile (!isPower ·)
          (ungroup? Char.isDigit f).map fun fs => (fs, rest.drop f.length)
        | rest => some ([], rest)
      let power? (cs : Text) : Option Int :=
        match cs with
        | [] => some 0
        | _ :: '-' :: ds => (ungroup? Char.isDigit ds).map fun ds => -(ofDigits 10 ds : Int)
        | _ :: '+' :: ds => (ungroup? Char.isDigit ds).map fun ds => (ofDigits 10 ds : Int)
        | _ :: ds => (ungroup? Char.isDigit ds).map fun ds => (ofDigits 10 ds : Int)
      match fraction? with
      | none => none
      | some (fs, rest) =>
        (power? rest).map fun p =>
          ofFinite (Double.ofDecimal negative (ofDigits 10 (ds ++ fs)) (p - fs.length))

/-- The magnitude word of the quiet NaN. -/
def nanBits : Nat := Double.infinityBits + Nat.pow 2 51

/-- A number: based integers, infinities, NaN, decimal integers and floats. -/
def number? (cs : Text) : Option Toml :=
  let signed (negative : Bool) (cs : Text) : Option Toml :=
    if cs = "inf".toList then some (.float (Double.ofParts negative Double.infinityBits))
    else if cs = "nan".toList then some (.float (Double.ofParts negative nanBits))
    else unsignedNumber? negative cs
  match cs with
  | '0' :: 'x' :: ds => basedInteger? 16 ds
  | '0' :: 'o' :: ds => basedInteger? 8 ds
  | '0' :: 'b' :: ds => basedInteger? 2 ds
  | '-' :: cs => signed true cs
  | '+' :: cs => signed false cs
  | cs => signed false cs

/-! ## Dates and times -/

def fixedDigits? (width : Nat) (cs : Text) : Option (Nat × Text) :=
  let ds := cs.take width
  if ds.length = width ∧ ds.all Char.isDigit then some (ofDigits 10 ds, cs.drop width) else none

def isLeapYear (year : Nat) : Bool := year % 4 == 0 && (year % 100 != 0 || year % 400 == 0)

def daysInMonth (year month : Nat) : Nat :=
  match month with
  | 2 => if isLeapYear year then 29 else 28
  | 4 | 6 | 9 | 11 => 30
  | _ => 31

/-- A date; its text is what was read. -/
def readDate? (cs : Text) : Option (Text × Text) := do
  let (year, rest) ← fixedDigits? 4 cs
  let rest ← match rest with | '-' :: rest => some rest | _ => none
  let (month, rest) ← fixedDigits? 2 rest
  let rest ← match rest with | '-' :: rest => some rest | _ => none
  let (day, rest) ← fixedDigits? 2 rest
  if 1 ≤ month ∧ month ≤ 12 ∧ 1 ≤ day ∧ day ≤ daysInMonth year month then
    some (cs.take 10, rest)
  else none

/-- The fraction of a second, nine digits at most, without the zeros at its end; of zeros alone
one stays. -/
def fractionText (ds : Text) : Text :=
  let kept := ((ds.take 9).reverse.dropWhile (· == '0')).reverse
  if kept.isEmpty then ['.', '0'] else '.' :: kept

/-- A time of day; the seconds may be missing. -/
def readTime? (cs : Text) : Option (Text × Text) := do
  let (hour, rest) ← fixedDigits? 2 cs
  let rest ← match rest with | ':' :: rest => some rest | _ => none
  let (minute, rest) ← fixedDigits? 2 rest
  if 23 < hour ∨ 59 < minute then none
  else
    match rest with
    | ':' :: rest =>
      let (second, rest) ← fixedDigits? 2 rest
      if 60 < second then none
      else
        match rest with
        | '.' :: rest =>
          let ds := rest.takeWhile Char.isDigit
          if ds.isEmpty then none
          else some (cs.take 8 ++ fractionText ds, rest.drop ds.length)
        | rest => some (cs.take 8, rest)
    | rest => some (cs.take 5, rest)

/-- The offset of a time from UTC. No offset at all counts as ahead. -/
def readOffset? (cs : Text) : Option (Text × Text) :=
  match cs with
  | 'Z' :: rest => some (['Z'], rest)
  | 'z' :: rest => some (['Z'], rest)
  | sign :: rest =>
    if sign = '+' ∨ sign = '-' then do
      let (hours, rest') ← fixedDigits? 2 rest
      let rest' ← match rest' with | ':' :: r => some r | _ => none
      let (minutes, rest') ← fixedDigits? 2 rest'
      if 23 < hours ∨ 59 < minutes then none
      else
        let shown := if hours = 0 ∧ minutes = 0 then '+' else sign
        some (shown :: rest.take 5, rest')
    else none
  | [] => none

/-- A date with or without a time and an offset, or a time alone, and nothing else. -/
def datetime? (cs : Text) : Option Toml :=
  match readDate? cs with
  | some (date, []) => some (.datetime (String.ofList date))
  | some (date, mark :: rest) =>
    if mark = 'T' ∨ mark = 't' ∨ mark = ' ' then
      match readTime? rest with
      | some (time, []) => some (.datetime (String.ofList (date ++ 'T' :: time)))
      | some (time, rest) =>
        match readOffset? rest with
        | some (offset, []) => some (.datetime (String.ofList (date ++ 'T' :: time ++ offset)))
        | _ => none
      | none => none
    else none
  | none =>
    match readTime? cs with
    | some (time, []) => some (.datetime (String.ofList time))
    | _ => none

/-! ## Values -/

def isScalarChar (c : Char) : Bool :=
  c.isAlphanum || c == '+' || c == '-' || c == '_' || c == '.' || c == ':'

/-- The characters of a scalar that is no string. A blank belongs to it between a date and a
time. -/
def scalarToken (cs : Text) : Text :=
  let first := cs.takeWhile isScalarChar
  if (readDate? first).any fun r => r.2.isEmpty then
    match cs.drop first.length with
    | ' ' :: rest =>
      let second := rest.takeWhile isScalarChar
      if (readTime? second).isSome then first ++ ' ' :: second else first
    | _ => first
  else first

def scalar? (token : Text) : Option Toml :=
  if token = "true".toList then some (.boolean true)
  else if token = "false".toList then some (.boolean false)
  else
    match datetime? token with
    | some v => some v
    | none => number? token

mutual
/-- A value without blanks in front; `room` levels of arrays and inline tables may still open. -/
def readValue? : Nat → Nat → Text → Option (Toml × Text)
  | 0, _, _ => none
  | fuel + 1, room, cs =>
    match cs with
    | '"' :: _ => (readString? cs).map fun r => (.string r.1, r.2)
    | '\'' :: _ => (readString? cs).map fun r => (.string r.1, r.2)
    | '[' :: rest => if room = 0 then none else readItems? fuel (room - 1) [] rest
    | '\x7b' :: rest => if room = 0 then none else readInline? fuel (room - 1) [] rest
    | _ =>
      let token := scalarToken cs
      (scalar? token).map fun v => (v, cs.drop token.length)

/-- The items of an array up to its bracket; `read` holds those before, backwards. -/
def readItems? : Nat → Nat → List Toml → Text → Option (Toml × Text)
  | 0, _, _, _ => none
  | fuel + 1, room, read, cs =>
    match skipLines? cs.length cs with
    | none => none
    | some (']' :: rest) => some (.array read.reverse, rest)
    | some cs =>
      match readValue? fuel room cs with
      | none => none
      | some (v, rest) =>
        match skipLines? rest.length rest with
        | some (',' :: rest) => readItems? fuel room (v :: read) rest
        | some (']' :: rest) => some (.array (v :: read).reverse, rest)
        | _ => none

/-- The entries of an inline table up to its brace. Lines may end between all its parts but
inside a key. No header leads through such a table, so the dialect makes no difference. -/
def readInline? : Nat → Nat → Entries → Text → Option (Toml × Text)
  | 0, _, _, _ => none
  | fuel + 1, room, read, cs =>
    match skipLines? cs.length cs with
    | none => none
    | some ('\x7d' :: rest) => some (.table .inline read, rest)
    | some cs =>
      match readKey? cs with
      | none => none
      | some (key, rest) =>
        match skipLines? rest.length rest with
        | some ('=' :: rest) =>
          match (skipLines? rest.length rest).bind (readValue? fuel room) with
          | none => none
          | some (v, rest) =>
            match assign? .strict v key read with
            | none => none
            | some read =>
              match skipLines? rest.length rest with
              | some (',' :: rest) => readInline? fuel room read rest
              | some ('\x7d' :: rest) => some (.table .inline read, rest)
              | _ => none
        | _ => none
end

/-! ## Documents -/

/-- What a line of a document does. -/
inductive Line where
  | empty
  | header (path : List String)
  | repeatedHeader (path : List String)
  | assignment (key : List String) (v : Toml)

/-- One line without its blanks, its comment and its end. -/
def readLine? (cs : Text) : Option (Line × Text) :=
  match cs with
  | '[' :: '[' :: rest =>
    match readKey? rest with
    | some (path, ']' :: ']' :: rest) => some (.repeatedHeader path, rest)
    | _ => none
  | '[' :: rest =>
    match readKey? rest with
    | some (path, ']' :: rest) => some (.header path, rest)
    | _ => none
  | [] => some (.empty, [])
  | '#' :: _ => some (.empty, cs)
  | '\n' :: _ => some (.empty, cs)
  | '\r' :: _ => some (.empty, cs)
  | _ =>
    match readKey? cs with
    | some (key, '=' :: rest) =>
      (readValue? (2 * cs.length + 2) maxDepth (skipSpace rest)).map fun r =>
        (.assignment key r.1, r.2)
    | _ => none

/-- Carries out a line under the current header. -/
def attempt (dialect : Dialect) (current : List String) (es : Entries) :
    Line → Option (List String × Entries)
  | .empty => some (current, es)
  | .header path =>
    (within? (openTable? (path.getLastD "")) path.dropLast es).map fun es => (path, es)
  | .repeatedHeader path =>
    (within? (appendTable? (path.getLastD "")) path.dropLast es).map fun es => (path, es)
  | .assignment key v =>
    (within? (assign? dialect v key) current es).map fun es => (current, es)

/-- The lines of a document, one after the other. -/
def readLines? (dialect : Dialect) : Nat → List String → Entries → Text → Option Entries
  | 0, _, _, _ => none
  | fuel + 1, current, es, cs =>
    match readLine? (skipSpace cs) with
    | none => none
    | some (line, rest) =>
      match attempt dialect current es line, skipComment? (skipSpace rest) with
      | some (_, es), some [] => some es
      | some (current, es), some rest =>
        match readNewline? rest with
        | some rest => readLines? dialect fuel current es rest
        | none => none
      | _, _ => none

/-- The entries of the document that a text holds, if it is well formed. -/
def read? (dialect : Dialect) (s : String) : Option Entries :=
  let cs := match s.toList with
    | '\ufeff' :: rest => rest
    | cs => cs
  readLines? dialect (cs.length + 1) [] [] cs

end RowAccess.Toml
