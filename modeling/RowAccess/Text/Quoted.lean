import RowAccess.Text.Invisible

/-!
# Quoted text

How a text, an optional text or a collection of texts is shown inside a message: in
double quotes, with the quote, the backslash, the usual control characters and every
invisible character escaped.
-/

namespace RowAccess.Text

/-- The lower-case hexadecimal digit of a number below sixteen. -/
def hexDigit (n : Nat) : Char := "0123456789abcdef".toList.getD n '0'

/-- A number in lower-case hexadecimal, without leading zeros. -/
def hexText (n : Nat) : String := String.ofList (Nat.toDigits 16 n)

def escape (c : Char) : String :=
  if c = '"' then "\\\""
  else if c = '\\' then "\\\\"
  else if c = '\n' then "\\n"
  else if c = '\r' then "\\r"
  else if c = '\t' then "\\t"
  else if c = '\x00' then "\\0"
  else if isInvisible c.toNat then "\\u\x7b" ++ hexText c.toNat ++ "\x7d"
  else String.singleton c

def quoted (s : String) : String := "\"" ++ String.join (s.toList.map escape) ++ "\""

/-- An optional text: `Some("x")` or `None`. -/
def quotedOption : Option String → String
  | none => "None"
  | some s => "Some(" ++ quoted s ++ ")"

def commaSeparated (parts : List String) : String := String.intercalate ", " parts

def quotedList (items : List String) : String :=
  "[" ++ commaSeparated (items.map quoted) ++ "]"

def quotedSet (items : List String) : String :=
  "\x7b" ++ commaSeparated (items.map quoted) ++ "\x7d"

/-- Named entries in braces, each name quoted and followed by the shown value. -/
def quotedEntries (entries : List (String × String)) : String :=
  "\x7b" ++ commaSeparated (entries.map fun e => quoted e.1 ++ ": " ++ e.2) ++ "\x7d"

/-- A record: its name, then its fields in braces. With `hidden` the fields shown are not all. -/
def shownRecord (name : String) (fields : List (String × String)) (hidden : Bool) : String :=
  let shown := fields.map (fun f => f.1 ++ ": " ++ f.2) ++ if hidden then [".."] else []
  name ++ " \x7b " ++ commaSeparated shown ++ " \x7d"

def boolText (b : Bool) : String := if b then "true" else "false"

end RowAccess.Text
