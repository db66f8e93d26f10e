import RowAccess.KeyMap
import RowAccess.Value

/-!
# Records in documents

How a value with fixed fields is found in a document. A record is an object with the
fields by name, or an array with the fields in their order. Fields that the record does
not know are passed over in an object. A field may be required; or optional, and then
null or absent in an object; or have a value that stands in when it is absent.

Simple values are read strictly: a text is no number, a float is no integer.
-/

namespace RowAccess

namespace Value

variable {α : Type}

/-! ## Simple values -/

def optional? (read : Value → Option α) : Value → Option (Option α)
  | .null => some none
  | v => (read v).map some

/-- The items of an array, each of the same kind. -/
def list? (read : Value → Option α) (v : Value) : Option (List α) := v.items?.bind (·.mapM read)

def names? (v : Value) : Option NameSet := (v.list? text?).map NameSet.ofList

def map? (read : Value → Option α) (v : Value) : Option (KeyMap α) :=
  v.fields?.bind fun es =>
    (es.mapM fun e => (read e.2).map fun a => (e.1, a)).map KeyMap.ofList

/-- One of several names: the name itself, or an object that gives the name and null. -/
def choice? (ofName? : String → Option α) : Value → Option α
  | .string s => ofName? s
  | .object [(s, .null)] => ofName? s
  | _ => none

/-! ## Written values -/

/-- An optional value, null if it is absent. -/
def ofOptional (write : α → Value) : Option α → Value
  | none => .null
  | some a => write a

def ofMap (write : α → Value) (m : KeyMap α) : Value :=
  .object (m.entries.map fun e => (e.1, write e.2))

/-- A set of texts as an array, ascending. -/
def ofNameSet (s : NameSet) : Value := ofNames s.toList

/-! ## Reading what was written -/

theorem mapM_map {β : Type} (read : β → Option α) (write : α → β)
    (h : ∀ a, read (write a) = some a) (as : List α) : (as.map write).mapM read = some as := by
  induction as with
  | nil => rfl
  | cons a rest ih => simp [h, ih]

@[simp] theorem list?_ofNames (names : List String) : (ofNames names).list? text? = some names :=
  mapM_map text? string (fun _ => rfl) names

@[simp] theorem names?_ofNameSet (s : NameSet) : (ofNameSet s).names? = some s := by
  rw [names?, ofNameSet, list?_ofNames, Option.map_some, NameSet.ofList_toList]

theorem map?_ofMap {read : Value → Option α} {write : α → Value}
    (h : ∀ a, read (write a) = some a) (m : KeyMap α) : (ofMap write m).map? read = some m := by
  have hentries := mapM_map (fun e : String × Value => (read e.2).map fun a => (e.1, a))
    (fun e : String × α => (e.1, write e.2)) (fun e => by simp [h]) m.entries
  rw [map?, ofMap, fields?, Option.bind_some, hentries, Option.map_some, KeyMap.ofList_entries]

/-- Null is what an absent value is written as, so no value may be written as null. -/
theorem optional?_ofOptional {read : Value → Option α} {write : α → Value}
    (h : ∀ a, read (write a) = some a) (hnull : ∀ a, write a ≠ .null) (o : Option α) :
    (ofOptional write o).optional? read = some o := by
  cases o with
  | none => rfl
  | some a =>
    have hv := hnull a
    rw [ofOptional]
    cases hw : write a with
    | null => exact absurd hw hv
    | _ => rw [optional?, ← hw, h, Option.map_some]; simp

end Value

/-! ## Records -/

/-- Where the fields of a record are found. -/
inductive Parts where
  | named (fields : List (String × Value))
  /-- The items that no field has taken yet. -/
  | placed (items : List Value)

/-- Reads the fields of a record one after the other. -/
abbrev RecordReader (α : Type) := StateT Parts Option α

namespace RecordReader

variable {α : Type}

/-- The part of a field, where there is one; it counts as taken. -/
def take (name : String) : RecordReader (Option Value) := fun parts =>
  match parts with
  | .named fields => some (Entries.find? fields name, parts)
  | .placed [] => some (none, parts)
  | .placed (v :: rest) => some (some v, .placed rest)

def required (name : String) (read : Value → Option α) : RecordReader α := do
  match ← take name with
  | some v => (read v : Option α)
  | none => failure

/-- A field with a value that stands in when it is absent. -/
def orElse (name : String) (read : Value → Option α) (otherwise : α) : RecordReader α := do
  match ← take name with
  | some v => (read v : Option α)
  | none => pure otherwise

/-- A field that may be null. By name it may be absent too; by place it may not. -/
def optional (name : String) (read : Value → Option α) : RecordReader (Option α) := fun parts =>
  match parts with
  | .named _ => orElse name (Value.optional? read) none parts
  | .placed _ => required name (Value.optional? read) parts

/-- Reads a record from a document. Items that no field took are refused. -/
def read? (r : RecordReader α) (v : Value) : Option α :=
  match v with
  | .object es => (r (.named es)).map Prod.fst
  | .array xs =>
    match r (.placed xs) with
    | some (a, .placed []) => some a
    | _ => none
  | _ => none

end RecordReader

end RowAccess
