import RowAccess.Text.Quoted
import RowAccess.Value

/-!
# Printed values

The text of a document on one line without blanks, and the shown form that log lines and
diagnostics use, in which the kind of every value is named.
-/

namespace RowAccess.Value

/-! ## Documents -/

/-- A control character inside a document string: four hexadecimal digits. -/
def controlEscape (c : Char) : String :=
  let ds := Nat.toDigits 16 c.toNat
  "\\u" ++ String.ofList (List.replicate (4 - ds.length) '0' ++ ds)

def escapeChar (c : Char) : String :=
  if c = '"' then "\\\""
  else if c = '\\' then "\\\\"
  else if c = '\n' then "\\n"
  else if c = '\r' then "\\r"
  else if c = '\t' then "\\t"
  else if c = '\x08' then "\\b"
  else if c = '\x0c' then "\\f"
  else if c.toNat < 0x20 then controlEscape c
  else String.singleton c

def printString (s : String) : String :=
  "\"" ++ String.join (s.toList.map escapeChar) ++ "\""

mutual
def print : Value → String
  | .null => "null"
  | .bool b => Text.boolText b
  | .number n => n.text
  | .string s => printString s
  | .array xs => "[" ++ String.intercalate "," (printItems xs) ++ "]"
  | .object es => "\x7b" ++ String.intercalate "," (printFields es) ++ "\x7d"
termination_by structural v => v

def printItems : List Value → List String
  | [] => []
  | x :: xs => print x :: printItems xs
termination_by structural xs => xs

def printFields : List (String × Value) → List String
  | [] => []
  | (k, v) :: rest => (printString k ++ ":" ++ print v) :: printFields rest
termination_by structural es => es
end

/-! ## Shown values -/

mutual
/-- The shown form of a value, in which its kind is named. -/
def shown : Value → String
  | .null => "Null"
  | .bool b => "Bool(" ++ Text.boolText b ++ ")"
  | .number n => "Number(" ++ n.text ++ ")"
  | .string s => "String(" ++ Text.quoted s ++ ")"
  | .array xs => "Array [" ++ Text.commaSeparated (shownItems xs) ++ "]"
  | .object es => "Object " ++ Text.quotedEntries (shownFields es)
termination_by structural v => v

def shownItems : List Value → List String
  | [] => []
  | x :: xs => shown x :: shownItems xs
termination_by structural xs => xs

/-- The shown forms of the entries of an object, with their names. -/
def shownFields : List (String × Value) → List (String × String)
  | [] => []
  | (k, v) :: rest => (k, shown v) :: shownFields rest
termination_by structural es => es
end

end RowAccess.Value
