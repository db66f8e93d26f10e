import RowAccess.Record
import RowAccess.Settings
import RowAccess.Toml.Reader

/-!
# Settings in documents

The strict reading of settings: every setting has its kind, and what is not mentioned is
as built in. A settings file by itself is read like this too.
-/

namespace RowAccess

/-! ## TOML as a document -/

namespace Toml

/-- An integer of a document: past sixty-four bits there are only doubles. -/
def documentNumber (n : Int) : Number :=
  if -Int.pow 2 63 ≤ n ∧ n ≤ Number.maxNatural then .integer n
  else .float (Double.ofDecimal (n < 0) n.natAbs 0)

mutual
/-- A TOML value as a document, if its numbers fit. A date has no counterpart: it is an object
that says so. -/
def toValue? : Toml → Option Value
  | .string s => some (.string s)
  | .integer n => some (.number (documentNumber n))
  | .float d => some (.number (.float d))
  | .tooLarge => none
  | .boolean b => some (.bool b)
  | .datetime text => some (.object [("datetime", .string text)])
  | .array xs => (itemValues? xs).map .array
  | .tables ts => (tableValues? ts).map .array
  | .table _ es => (entryValues? es).map .object
termination_by structural v => v

def itemValues? : List Toml → Option (List Value)
  | [] => some []
  | x :: xs => (toValue? x).bind fun v => (itemValues? xs).map (v :: ·)
termination_by structural xs => xs

def tableValues? : List (List (String × Toml)) → Option (List Value)
  | [] => some []
  | t :: ts => (entryValues? t).bind fun es => (tableValues? ts).map (.object es :: ·)
termination_by structural ts => ts

def entryValues? : List (String × Toml) → Option (List (String × Value))
  | [] => some []
  | (key, v) :: rest => (toValue? v).bind fun w => (entryValues? rest).map ((key, w) :: ·)
termination_by structural es => es
end

end Toml

/-! ## Settings -/

namespace Settings

/-- The settings of a document, each of its kind. -/
def fields : RecordReader Settings := do
  let engine ← .orElse "engine" (RecordReader.read? do
    let environment ← .orElse "environment" Value.text? default.engine.environment
    let denyUnregistered ←
      .orElse "deny_unregistered_tables" Value.bool? default.engine.denyUnregistered
    let requireContext ← .orElse "require_context" Value.bool? default.engine.requireContext
    return { environment, denyUnregistered, requireContext }) default.engine
  let features ← .orElse "features" (Value.map? Value.bool?) default.features
  let audit ← .orElse "audit" (RecordReader.read? do
    let enabled ← .orElse "enabled" Value.bool? default.audit.enabled
    let logAllows ← .orElse "log_allows" Value.bool? default.audit.logAllows
    return { enabled, logAllows }) default.audit
  let resolver ← .orElse "resolver" (RecordReader.read? do
    let cacheTtlSecs ← .orElse "cache_ttl_secs" Value.natural? default.resolver.cacheTtlSecs
    return { cacheTtlSecs }) default.resolver
  return { engine, features, audit, resolver }

def ofValue? : Value → Option Settings := fields.read?

def toValue (s : Settings) : Value :=
  .object
    [("engine", .object
       [("environment", .string s.engine.environment),
        ("deny_unregistered_tables", .bool s.engine.denyUnregistered),
        ("require_context", .bool s.engine.requireContext)]),
     ("features", .ofMap .bool s.features),
     ("audit", .object
       [("enabled", .bool s.audit.enabled), ("log_allows", .bool s.audit.logAllows)]),
     ("resolver", .object [("cache_ttl_secs", .ofNat s.resolver.cacheTtlSecs)])]

/-! ## Files -/

/-- Why a settings file was refused. -/
inductive FileError where
  /-- There is no such file. -/
  | missing
  /-- It is no TOML document, or a setting is not of its kind. -/
  | malformed
  | invalid (fault : Fault)
  deriving DecidableEq, Repr

/-- How many settings a section has. -/
def sectionSize? : String → Option Nat
  | "engine" => some 3
  | "audit" => some 2
  | "resolver" => some 1
  | _ => none

/-- An entry of a file without the items of a section that no setting takes. -/
def withoutRest : String × Toml → String × Toml
  | (name, .array xs) => (name, .array (xs.take ((sectionSize? name).getD xs.length)))
  | e => e

/-- The settings of a TOML document. Items past the last setting of a section are passed over,
whatever they are. -/
def ofToml? (es : Toml.Entries) : Option Settings :=
  (Toml.entryValues? (es.map withoutRest)).bind fun es => ofValue? (.object es)

/-- The settings of the text of a file, if there is one. -/
def ofFile (text : Option String) : Except FileError Settings :=
  match text with
  | none => .error .missing
  | some text =>
    match (Toml.read? .strict text).bind ofToml? with
    | none => .error .malformed
    | some s =>
      match s.fault? with
      | some f => .error (.invalid f)
      | none => .ok s

end Settings

end RowAccess
