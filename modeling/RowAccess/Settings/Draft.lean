import RowAccess.Entries
import RowAccess.Number.Literal

/-!
# Settings before they have their kinds

A source of settings is a table of drafts: values of which it is not known yet which
settings they are for. Sources are put over one another key by key. A key at the top of a
source may be a path into tables and lists; what stands in the way of a path gives way.
-/

namespace RowAccess

/-- A value of a source. -/
inductive Draft where
  /-- Nothing: it fills a list up to a place that a path names. -/
  | gap
  | text (s : String)
  | truth (b : Bool)
  | integer (n : Int)
  | float (d : Double)
  | list (items : List Draft)
  | table (entries : List (String × Draft))
  deriving Repr, Inhabited

namespace Draft

/-- The entries of a source or of a table in it. -/
abbrev Entries := List (String × Draft)

/-- The entries of a table; whatever else there is has none. -/
def entries : Option Draft → Entries
  | some (.table es) => es
  | _ => []

/-- The items of a list; whatever else there is has none. -/
def items : Option Draft → List Draft
  | some (.list ds) => ds
  | _ => []

/-! ## Merging -/

mutual
/-- Puts one value of a later source over what earlier ones left. Tables are merged, anything
else replaces. -/
def overlayValue (below : Option Draft) : Draft → Draft
  | .table es => .table (overlay (entries below) es)
  | d => d
termination_by structural d => d

/-- Puts the entries of a later table over those of an earlier one. -/
def overlay (below : Entries) : List (String × Draft) → Entries
  | [] => below
  | (key, d) :: rest =>
    overlay (Entries.put below key (overlayValue (Entries.find? below key) d)) rest
termination_by structural es => es
end

/-! ## Paths -/

/-- A step of a path: to a key of a table, or to a place of a list. -/
inductive Step where
  | key (name : String)
  /-- Places count from zero; negative ones from behind. -/
  | place (n : Int)
  deriving DecidableEq, Repr

/-- A path into a source: a key at its top, and the steps from there. -/
structure Path where
  head : String
  steps : List Step
  deriving DecidableEq, Repr

def maxItems : Nat := Nat.pow 2 32

/-- How many items a list has at least once a step is taken in it. -/
def Step.reach : Step → Nat
  | .key _ => 0
  | .place n => if 0 ≤ n then n.toNat + 1 else n.natAbs

/-- Whether no step of a path asks for a longer list than there may be. -/
def Path.isWithinReach (p : Path) : Bool := p.steps.all fun s => s.reach ≤ maxItems

/-- Changes the item at a place of a list. A place past the end is reached over gaps; one before
the start is made the first, with gaps behind it. -/
def changeAt (change : Draft → Draft) (n : Int) (ds : List Draft) : List Draft :=
  if 0 ≤ n then
    let gaps := List.replicate (n.toNat + 1 - ds.length) .gap
    (ds ++ gaps).modify n.toNat change
  else
    let gaps := List.replicate (n.natAbs - ds.length) .gap
    (gaps ++ ds).modify (ds.length - n.natAbs) change

/-- Changes what steps lead to, and makes the tables and lists on the way. -/
def changeIn (change : Option Draft → Draft) : List Step → Option Draft → Draft
  | [], below => change below
  | .key name :: rest, below =>
    let es := entries below
    .table (Entries.put es name (changeIn change rest (Entries.find? es name)))
  | .place n :: rest, below =>
    .list (changeAt (fun d => changeIn change rest (some d)) n (items below))

/-- Puts a value at the end of a path over what is there. -/
def overlayAt (below : Entries) (path : Path) (d : Draft) : Entries :=
  Entries.put below path.head
    (changeIn (overlayValue · d) path.steps (Entries.find? below path.head))

/-! ## Written paths -/

/-- A letter, digit, underscore or hyphen. -/
def isPathChar (c : Char) : Bool := c.isAlphanum || c == '_' || c == '-'

/-- A place in decimal digits, perhaps negative, of sixty-four bits. -/
def place? (cs : List Char) : Option Int :=
  let (negative, ds) := match cs with
    | '-' :: ds => (true, ds)
    | ds => (false, ds)
  let n : Int := if negative then -(Number.ofDecimal ds : Int) else Number.ofDecimal ds
  if ds.isEmpty || !ds.all Char.isDigit then none
  else if -Int.pow 2 63 ≤ n ∧ n < Int.pow 2 63 then some n else none

def trim (cs : List Char) : List Char :=
  let isSpace (c : Char) : Bool := c == ' ' || c == '\t'
  ((cs.dropWhile isSpace).reverse.dropWhile isSpace).reverse

/-- The steps that a text spells: a point before each key, brackets around each place. -/
def steps? (cs : List Char) : Option (List Step) :=
  match cs with
  | [] => some []
  | '.' :: rest =>
    let name := rest.takeWhile isPathChar
    if name.isEmpty then none
    else (steps? (rest.dropWhile isPathChar)).map (.key (String.ofList name) :: ·)
  | '[' :: rest =>
    let closing := rest.dropWhile (· != ']')
    match place? (trim (rest.takeWhile (· != ']'))) with
    | some n => if closing.isEmpty then none else (steps? closing.tail).map (.place n :: ·)
    | none => none
  | _ => none
termination_by cs.length
decreasing_by
  · have := (List.dropWhile_sublist isPathChar (l := rest)).length_le
    simp only [List.length_cons]
    omega
  · have := (List.dropWhile_sublist (· != ']') (l := rest)).length_le
    simp only [List.length_cons, List.length_tail]
    omega

/-- The path that a key means, or the key as it is when it spells none. -/
def pathOf (key : String) : Path :=
  let cs := key.toList
  let head := cs.takeWhile isPathChar
  match steps? (cs.dropWhile isPathChar) with
  | some steps => if head.isEmpty then ⟨key, []⟩ else ⟨String.ofList head, steps⟩
  | none => ⟨key, []⟩

/-- Puts a source over what earlier ones left. -/
def overlaySource (below source : Entries) : Entries :=
  source.foldl (fun es e => overlayAt es (pathOf e.1) e.2) below

/-- The merged table of sources, the last one on top. -/
def mergeSources (sources : List Entries) : Entries := sources.foldl overlaySource []

end Draft

end RowAccess
