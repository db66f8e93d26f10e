import RowAccess.Entries
import RowAccess.Number.Double

/-!
# TOML values

The values of a TOML document. Tables remember how they came about, because that decides
what a later line of the document may still add to them.
-/

namespace RowAccess

/-- How a table came about. -/
inductive TableOrigin where
  /-- By a header of its own: complete but for what stands under the header. -/
  | header
  /-- On the way to the table of a header. -/
  | onTheWay
  /-- By a dotted key. -/
  | dotted
  /-- Written as a value: complete. -/
  | inline
  deriving DecidableEq, Repr

/-- A TOML value. -/
inductive Toml where
  | string (s : String)
  | integer (n : Int)
  | float (d : Double)
  /-- A number that no integer of 128 bits and no finite float can be. -/
  | tooLarge
  | boolean (b : Bool)
  /-- A date, a time or both, as normalized text. -/
  | datetime (text : String)
  | array (items : List Toml)
  /-- The tables of repeated headers, in order. -/
  | tables (items : List (List (String × Toml)))
  | table (origin : TableOrigin) (entries : List (String × Toml))
  deriving Repr, Inhabited

namespace Toml

/-- The entries of a table. -/
abbrev Entries := List (String × Toml)

/-! ## Additions to a document -/

/-- Applies a change to the table that a path of headers leads to. Tables that are missing on
the way are added; of repeated tables the last one is meant. -/
def within? (change : Entries → Option Entries) : List String → Entries → Option Entries
  | [], es => change es
  | key :: rest, es =>
    match Entries.find? es key with
    | none => (within? change rest []).map fun sub => Entries.put es key (.table .onTheWay sub)
    | some (.table .inline _) => none
    | some (.table origin sub) =>
      (within? change rest sub).map fun sub => Entries.put es key (.table origin sub)
    | some (.tables items) =>
      match items.getLast? with
      | none => none
      | some sub =>
        (within? change rest sub).map fun sub =>
          Entries.put es key (.tables (items.dropLast ++ [sub]))
    | some _ => none

/-- What a dotted key may do with a table on the way to the table of a header. -/
inductive Dialect where
  /-- It may lead through the table, but gives it no value. -/
  | strict
  /-- It may lead through the table and give it a value; either way the table counts as made by
  dotted keys from then on. -/
  | joining
  deriving DecidableEq, Repr

/-- Gives a key of a table a value. The parts of a dotted key before the last one lead through
tables that dotted keys or longer headers made, and through the last of repeated tables, never
through a table with its own header. The value itself goes only into a table that dotted keys
made, or that the dialect counts as such. -/
def assign? (dialect : Dialect) (v : Toml) : List String → Entries → Option Entries
  | [], _ => none
  | [key], es => if (Entries.find? es key).isSome then none else some (es ++ [(key, v)])
  | key :: rest, es =>
    match Entries.find? es key with
    | none => (assign? dialect v rest []).map fun sub => es ++ [(key, .table .dotted sub)]
    | some (.table .dotted sub) =>
      (assign? dialect v rest sub).map fun sub => Entries.put es key (.table .dotted sub)
    | some (.table .onTheWay sub) =>
      match dialect with
      | .joining =>
        (assign? dialect v rest sub).map fun sub => Entries.put es key (.table .dotted sub)
      | .strict =>
        if rest.length = 1 then none
        else (assign? dialect v rest sub).map fun sub =>
          Entries.put es key (.table .onTheWay sub)
    | some (.tables items) =>
      match items.getLast? with
      | none => none
      | some sub =>
        if rest.length = 1 then none
        else (assign? dialect v rest sub).map fun sub =>
          Entries.put es key (.tables (items.dropLast ++ [sub]))
    | some _ => none

/-- Opens the table of a header. It may be new, or have been passed on the way to another. -/
def openTable? (key : String) (es : Entries) : Option Entries :=
  match Entries.find? es key with
  | none => some (es ++ [(key, .table .header [])])
  | some (.table .onTheWay sub) => some (Entries.put es key (.table .header sub))
  | some _ => none

def appendTable? (key : String) (es : Entries) : Option Entries :=
  match Entries.find? es key with
  | none => some (es ++ [(key, .tables [[]])])
  | some (.tables items) => some (Entries.put es key (.tables (items ++ [[]])))
  | some _ => none

end Toml

end RowAccess
