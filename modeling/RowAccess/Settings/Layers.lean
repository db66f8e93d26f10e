import RowAccess.Outcome
import RowAccess.Settings.Conversion
import RowAccess.Text.Lowercase
import RowAccess.Toml.Reader

/-!
# Settings from layers

Settings come from several sources at once: the file of the user, that of the project, that
of the machine, and the environment. Each is a table; they are put over one another, the
environment on top, and the merged table is converted to settings.
-/

namespace RowAccess.Settings

/-! ## The environment -/

def afterLead? (lead cs : List Char) : Option (List Char) :=
  if lead.isPrefixOf cs then some (cs.drop lead.length) else none

/-- Pairs of underscores become dots, from the left. -/
def dotted : List Char → List Char
  | '_' :: '_' :: rest => '.' :: dotted rest
  | c :: rest => c :: dotted rest
  | [] => []

/-- An integer in decimal digits, perhaps signed, of sixty-four bits. -/
def integer? (cs : List Char) : Option Int :=
  let digits? (ds : List Char) : Option Nat :=
    if ds.isEmpty || !ds.all Char.isDigit then none else some (Number.ofDecimal ds)
  let n? : Option Int :=
    match cs with
    | '-' :: ds => (digits? ds).map fun n => -(n : Int)
    | '+' :: ds => (digits? ds).map fun n => (n : Int)
    | ds => (digits? ds).map fun n => (n : Int)
  n?.filter fun n => -Int.pow 2 63 ≤ n && n < Int.pow 2 63

def floatDigits? (cs : List Char) : Option (List Char × List Char × List Char) :=
  let whole := cs.takeWhile Char.isDigit
  let (fraction, rest) := match cs.drop whole.length with
    | '.' :: rest => (rest.takeWhile Char.isDigit, rest.dropWhile Char.isDigit)
    | rest => ([], rest)
  if whole.isEmpty && fraction.isEmpty then none else some (whole, fraction, rest)

/-- A float in decimal digits, perhaps signed, perhaps with a power of ten. -/
def float? (cs : List Char) : Option Double :=
  let (negative, cs) := match cs with
    | '-' :: rest => (true, rest)
    | '+' :: rest => (false, rest)
    | _ => (false, cs)
  let word := cs.map Char.toLower
  if word = "inf".toList ∨ word = "infinity".toList then
    some (Double.ofParts negative Double.infinityBits)
  else if word = "nan".toList then some (Double.ofParts negative Toml.nanBits)
  else
    match floatDigits? cs with
    | none => none
    | some (whole, fraction, rest) =>
      let n := Number.ofDecimal (whole ++ fraction)
      let double (p : Int) := Double.ofDecimal negative n (p - fraction.length)
      let power (negative : Bool) (ds : List Char) : Option Double :=
        if ds.isEmpty || !ds.all Char.isDigit then none
        else
          let p : Int := Number.ofDecimal ds
          some (double (if negative then -p else p))
      match rest with
      | [] => some (double 0)
      | e :: rest =>
        if e = 'e' ∨ e = 'E' then
          match rest with
          | '-' :: ds => power true ds
          | '+' :: ds => power false ds
          | ds => power false ds
        else none

/-- The value of an environment variable: a truth value, a number, else a text. -/
def variableValue (text : String) : Draft :=
  let cs := text.toList
  let word := cs.map Char.toLower
  if word = "true".toList then .truth true
  else if word = "false".toList then .truth false
  else
    match integer? cs with
    | some n => .integer n
    | none =>
      match float? cs with
      | some d => .float d
      | none => .text text

/-- The settings that environment variables make: those whose names start with the given stem
and an underscore, in any case; two underscores part a section from its setting. -/
def environmentLayer (stem : String) (environment : List (String × String)) :
    Draft.Entries :=
  let lead := RowAccess.Text.lowercase stem ++ ['_']
  environment.filterMap fun v =>
    (afterLead? lead (RowAccess.Text.lowercase v.1)).map fun rest =>
      (String.ofList (dotted rest), variableValue v.2)

/-! ## Files -/

/-- An integer of sixty-four bits, as a settings file demands. -/
def integerDraft? (n : Int) : Option Draft :=
  if -Int.pow 2 63 ≤ n ∧ n < Int.pow 2 63 then some (.integer n) else none

mutual
/-- The draft of a TOML value. A date counts as its text. -/
def draft? : Toml → Option Draft
  | .string s => some (.text s)
  | .integer n => integerDraft? n
  | .float d => some (.float d)
  | .tooLarge => none
  | .boolean b => some (.truth b)
  | .datetime s => some (.text s)
  | .array xs => (itemDrafts? xs).map .list
  | .tables ts => (tableDrafts? ts).map .list
  | .table _ es => (entryDrafts? es).map .table
termination_by structural v => v

def itemDrafts? : List Toml → Option (List Draft)
  | [] => some []
  | x :: xs => (draft? x).bind fun d => (itemDrafts? xs).map (d :: ·)
termination_by structural xs => xs

def tableDrafts? : List (List (String × Toml)) → Option (List Draft)
  | [] => some []
  | t :: ts => (entryDrafts? t).bind fun es => (tableDrafts? ts).map (.table es :: ·)
termination_by structural ts => ts

def entryDrafts? : List (String × Toml) → Option (List (String × Draft))
  | [] => some []
  | (key, v) :: rest => (draft? v).bind fun d => (entryDrafts? rest).map ((key, d) :: ·)
termination_by structural es => es
end

/-- The text of a file without a byte order mark at its start. -/
def withoutMark (text : String) : String :=
  match text.toList with
  | '\ufeff' :: rest => String.ofList rest
  | _ => text

/-! ## Loading -/

/-- What settings are loaded from. A file that does not exist is absent. -/
structure Sources where
  user : Option String
  project : Option String
  overrides : Option String
  /-- The variables of the environment. -/
  environment : List (String × String)
  /-- What the names of the variables start with. -/
  stem : String

def Sources.withoutUser (s : Sources) : Sources := { s with user := none }

/-- Why loading failed. -/
inductive LoadError where
  /-- A file is no TOML document. -/
  | build
  /-- A name at the top of a source leads out of reach. -/
  | outOfReach
  /-- A value cannot be converted. -/
  | convert
  | invalid (fault : Fault)
  deriving DecidableEq, Repr

namespace LoadError

def message : LoadError → String
  | .build => "Failed to build configuration"
  | .outOfReach => "capacity overflow"
  | .convert => "Failed to deserialize configuration"
  | .invalid _ => "Configuration failed validation"

/-- What is below the message, if anything is. -/
def cause? : LoadError → Option String
  | .invalid f => some f.message
  | _ => none

/-- The crash that a place out of reach makes; every other failure is a plain one. -/
def crash? : LoadError → Option Crash
  | .outOfReach => some ⟨some (message .outOfReach)⟩
  | _ => none

end LoadError

/-- What the names of the variables start with unless another stem is given. -/
def defaultStem : String := "ROWGUARD"

/-- A layer that can be merged. -/
def mergeable (layer : Draft.Entries) : Except LoadError Draft.Entries :=
  if layer.all fun e => (Draft.pathOf e.1).isWithinReach then .ok layer else .error .outOfReach

def fileLayer : Option String → Except LoadError Draft.Entries
  | none => .ok []
  | some text =>
    match (Toml.read? .joining (withoutMark text)).bind entryDrafts? with
    | none => .error .build
    | some layer => mergeable layer

/-- The layers, the weakest first: user, project, overrides, environment. The first fault on
the way counts. -/
def layers (s : Sources) : Except LoadError (List Draft.Entries) := do
  let user ← fileLayer s.user
  let project ← fileLayer s.project
  let overrides ← fileLayer s.overrides
  let environment ← mergeable (environmentLayer s.stem s.environment)
  return [user, project, overrides, environment]

/-- The settings of layers, the weakest first; what no layer mentions is as built in. -/
def ofLayers (layers : List Draft.Entries) : Except LoadError Settings :=
  match ofDraft? (Draft.mergeSources layers) with
  | none => .error .convert
  | some settings =>
    match settings.fault? with
    | some f => .error (.invalid f)
    | none => .ok settings

def load (s : Sources) : Except LoadError Settings := (layers s).bind ofLayers

/-- Loads settings, or takes the built-in ones if that fails. A crash stays a crash. -/
def loadOrDefault (s : Sources) : Attempt Settings :=
  match load s with
  | .ok settings => .ok settings
  | .error e =>
    match e.crash? with
    | some crash => .error crash
    | none => .ok default

end RowAccess.Settings
