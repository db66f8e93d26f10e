import RowAccess.Number.Literal
import RowAccess.Value

/-!
# Reading values

The reader of documents. It takes the standard grammar and nothing else: no comments, no
comma at the end of a list, no blank but space, tab and line ends, no lone half of a
surrogate pair. A name that an object repeats keeps its first place and takes its last
value. Lists and objects nest at most `maxDepth` deep.

Each function returns the value and the characters after it. Recursion is on a number of
steps that the text cannot exceed; `read?` supplies it.
-/

namespace RowAccess.Value

def maxDepth : Nat := 127

def isSpace (c : Char) : Bool := c == ' ' || c == '\t' || c == '\n' || c == '\r'

def skipSpace (cs : List Char) : List Char := cs.dropWhile isSpace

def hexDigit? (c : Char) : Option Nat :=
  if '0' ≤ c ∧ c ≤ '9' then some (c.toNat - '0'.toNat)
  else if 'a' ≤ c ∧ c ≤ 'f' then some (c.toNat - 'a'.toNat + 10)
  else if 'A' ≤ c ∧ c ≤ 'F' then some (c.toNat - 'A'.toNat + 10)
  else none

def readUnit? : List Char → Option (Nat × List Char)
  | a :: b :: c :: d :: rest => do
    let a ← hexDigit? a
    let b ← hexDigit? b
    let c ← hexDigit? c
    let d ← hexDigit? d
    return (((a * 16 + b) * 16 + c) * 16 + d, rest)
  | _ => none

/-- The character that a numeric escape stands for; a high surrogate needs a low one behind it. -/
def readNumericEscape? (cs : List Char) : Option (Char × List Char) := do
  let (unit, rest) ← readUnit? cs
  if 0xDC00 ≤ unit ∧ unit ≤ 0xDFFF then none
  else if 0xD800 ≤ unit ∧ unit ≤ 0xDBFF then
    match rest with
    | '\\' :: 'u' :: more =>
      let (low, rest) ← readUnit? more
      if 0xDC00 ≤ low ∧ low ≤ 0xDFFF then
        some (Char.ofNat (0x10000 + (unit - 0xD800) * 0x400 + (low - 0xDC00)), rest)
      else none
    | _ => none
  else some (Char.ofNat unit, rest)

/-- The character that an escape of one letter stands for. -/
def plainEscape? : Char → Option Char
  | '"' => some '"'
  | '\\' => some '\\'
  | '/' => some '/'
  | 'b' => some '\x08'
  | 'f' => some '\x0c'
  | 'n' => some '\n'
  | 'r' => some '\r'
  | 't' => some '\t'
  | _ => none

/-- The rest of a string after its opening quote; `read` holds what came before, backwards. -/
def readStringBody? : Nat → List Char → List Char → Option (String × List Char)
  | 0, _, _ => none
  | fuel + 1, read, cs =>
    match cs with
    | '"' :: rest => some (String.ofList read.reverse, rest)
    | '\\' :: 'u' :: rest =>
      match readNumericEscape? rest with
      | some (c, rest) => readStringBody? fuel (c :: read) rest
      | none => none
    | '\\' :: e :: rest =>
      match plainEscape? e with
      | some c => readStringBody? fuel (c :: read) rest
      | none => none
    | c :: rest => if c.toNat < 0x20 then none else readStringBody? fuel (c :: read) rest
    | [] => none

mutual
/-- A value at the start of a text without blanks in front; `depth` levels may still open. -/
def readValue? : Nat → Nat → List Char → Option (Value × List Char)
  | 0, _, _ => none
  | fuel + 1, depth, cs =>
    match cs with
    | 'n' :: 'u' :: 'l' :: 'l' :: rest => some (.null, rest)
    | 't' :: 'r' :: 'u' :: 'e' :: rest => some (.bool true, rest)
    | 'f' :: 'a' :: 'l' :: 's' :: 'e' :: rest => some (.bool false, rest)
    | '"' :: rest => (readStringBody? (rest.length + 1) [] rest).map fun r => (.string r.1, r.2)
    | '[' :: rest =>
      if depth = 0 then none
      else
        match skipSpace rest with
        | ']' :: rest => some (.array [], rest)
        | rest => readItems? fuel (depth - 1) [] rest
    | '\x7b' :: rest =>
      if depth = 0 then none
      else
        match skipSpace rest with
        | '\x7d' :: rest => some (.object [], rest)
        | rest => readFields? fuel (depth - 1) [] rest
    | cs => (Number.read? cs).map fun r => (.number r.1, r.2)

/-- The items of an array up to its bracket; `read` holds those before, backwards. -/
def readItems? : Nat → Nat → List Value → List Char → Option (Value × List Char)
  | 0, _, _, _ => none
  | fuel + 1, depth, read, cs =>
    match readValue? fuel depth (skipSpace cs) with
    | none => none
    | some (v, rest) =>
      match skipSpace rest with
      | ',' :: rest => readItems? fuel depth (v :: read) rest
      | ']' :: rest => some (.array (v :: read).reverse, rest)
      | _ => none

/-- The entries of an object up to its brace; `read` holds those before, backwards. -/
def readFields? : Nat → Nat → List (String × Value) → List Char → Option (Value × List Char)
  | 0, _, _, _ => none
  | fuel + 1, depth, read, cs =>
    match skipSpace cs with
    | '"' :: rest =>
      match readStringBody? (rest.length + 1) [] rest with
      | none => none
      | some (name, rest) =>
        match skipSpace rest with
        | ':' :: rest =>
          match readValue? fuel depth (skipSpace rest) with
          | none => none
          | some (v, rest) =>
            match skipSpace rest with
            | ',' :: rest => readFields? fuel depth ((name, v) :: read) rest
            | '\x7d' :: rest =>
              some (.object (Entries.ofList ((name, v) :: read).reverse), rest)
            | _ => none
        | _ => none
    | _ => none
end

/-- The document that a text holds, if it holds one and nothing else. -/
def read? (s : String) : Option Value :=
  let cs := s.toList
  match readValue? (2 * cs.length + 2) maxDepth (skipSpace cs) with
  | some (v, rest) => if (skipSpace rest).isEmpty then some v else none
  | none => none

end RowAccess.Value
