import RowAccess.Number.Layout
import RowAccess.Settings
import RowAccess.Settings.Draft
import RowAccess.Text.Lowercase

/-!
# Generous conversion of settings

Settings from a merged table. The conversion takes a number or a word for a truth value, a
numeric text for a number, and the text of a number or truth value for a text. A section is
a table with its settings by name, or a list with them by place. Keys that mean nothing, and
items past the last setting of a section, are passed over.
-/

namespace RowAccess.Settings

/-! ## Single values -/

def wordTruth? (s : String) : Option Bool :=
  let word := String.ofList (RowAccess.Text.lowercase s)
  if ["1", "true", "on", "yes"].contains word then some true
  else if ["0", "false", "off", "no"].contains word then some false
  else none

def toTruth? : Draft → Option Bool
  | .truth b => some b
  | .integer n => some (n != 0)
  | .float d => some (!d.isZero)
  | .text s => wordTruth? s
  | _ => none

/-- A float as a natural number: rounded, and brought into the range. -/
def floatNatural (d : Double) : Nat :=
  if d.isNaN || d.negative then 0
  else if d.isInfinite then Number.maxNatural
  else min d.roundAbs Number.maxNatural

/-- What is behind a plus, or all of a text. -/
def unsigned : List Char → List Char
  | '+' :: rest => rest
  | cs => cs

/-- A text as a natural number: a word for a truth value, or digits. -/
def textNatural? (s : String) : Option Nat :=
  let word := String.ofList (RowAccess.Text.lowercase s)
  if ["true", "on", "yes"].contains word then some 1
  else if ["false", "off", "no"].contains word then some 0
  else
    let ds := unsigned s.toList
    if ds.isEmpty || !ds.all Char.isDigit then none
    else some (Number.ofDecimal ds) |>.filter (· ≤ Number.maxNatural)

def toNatural? : Draft → Option Nat
  | .integer n => if 0 ≤ n then some n.toNat else none
  | .truth b => some (if b then 1 else 0)
  | .float d => some (floatNatural d)
  | .text s => textNatural? s
  | _ => none

def toText? : Draft → Option String
  | .text s => some s
  | .truth b => some (RowAccess.Text.boolText b)
  | .integer n => some (toString n)
  | .float d => some (Layout.plain.write d)
  | _ => none

/-! ## Sections -/

/-- What a section holds for a setting: under its name, or at its place. -/
def part? (d : Draft) (name : String) (place : Nat) : Option Draft :=
  match d with
  | .table es => Entries.find? es name
  | .list ds => ds[place]?
  | _ => none

/-- A setting of a section, or what it is when the section does not mention it. -/
def setting? {α : Type} (d : Draft) (name : String) (place : Nat) (convert : Draft → Option α)
    (otherwise : α) : Option α :=
  match part? d name place with
  | none => some otherwise
  | some v => convert v

/-- A section of the settings; an absent one is empty. -/
def section? (es : Draft.Entries) (name : String) : Option Draft :=
  match Entries.find? es name with
  | none => some (.table [])
  | some (.table sub) => some (.table sub)
  | some (.list ds) => some (.list ds)
  | some _ => none

/-- The features; a list is none. -/
def features? (es : Draft.Entries) : Option (KeyMap Bool) :=
  match Entries.find? es "features" with
  | none => some KeyMap.empty
  | some (.table flags) =>
    (flags.mapM fun e => (toTruth? e.2).map fun b => (e.1, b)).map KeyMap.ofList
  | some _ => none

/-- Settings from a merged table; none if a value cannot be converted. -/
def ofDraft? (es : Draft.Entries) : Option Settings := do
  let d := default
  let engine ← section? es "engine"
  let environment ← setting? engine "environment" 0 toText? d.engine.environment
  let deny ← setting? engine "deny_unregistered_tables" 1 toTruth? d.engine.denyUnregistered
  let require ← setting? engine "require_context" 2 toTruth? d.engine.requireContext
  let features ← features? es
  let audit ← section? es "audit"
  let enabled ← setting? audit "enabled" 0 toTruth? d.audit.enabled
  let logAllows ← setting? audit "log_allows" 1 toTruth? d.audit.logAllows
  let resolver ← section? es "resolver"
  let ttl ← setting? resolver "cache_ttl_secs" 0 toNatural? d.resolver.cacheTtlSecs
  return { engine := ⟨environment, deny, require⟩, features
           audit := ⟨enabled, logAllows⟩, resolver := ⟨ttl⟩ }

end RowAccess.Settings
