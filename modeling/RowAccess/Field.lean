import RowAccess.Masking
import RowAccess.Registry

/-!
# Column rules

Rules for single columns of a table: who may read one, who may write one, and what the
others see instead. The rules of a table are declared in order and compiled with an
index from column names to places.
-/

namespace RowAccess

/-- A check on one column. It has no failure of its own; a crash counts as a refusal. -/
abbrev FieldPredicate := Context → Attempt Bool

/-- What stands in for a hidden value. -/
abbrev MaskFunction := Value → Attempt Value

/-- What holds for columns without a rule of their own. -/
inductive FieldDefault where
  | allow
  | deny
  deriving DecidableEq, Repr, Inhabited

namespace FieldDefault

def name : FieldDefault → String
  | .allow => "allow"
  | .deny => "deny"

def ofName? : String → Option FieldDefault
  | "allow" => some .allow
  | "deny" => some .deny
  | _ => none

def shown : FieldDefault → String
  | .allow => "Allow"
  | .deny => "Deny"

def allows (d : FieldDefault) : Bool := d == .allow

@[simp] theorem ofName?_name (d : FieldDefault) : ofName? d.name = some d := by
  cases d <;> rfl

end FieldDefault

/-- The rule of one column. A check that is missing falls back to the default of the table. -/
structure FieldRule where
  read : Option FieldPredicate
  write : Option FieldPredicate
  /-- Without one, hidden values become null. -/
  mask : Option MaskFunction
  /-- Drop the column where it is hidden, instead of masking it. -/
  omitWhenHidden : Bool

namespace FieldRule

def empty : FieldRule := ⟨none, none, none, false⟩

instance : Inhabited FieldRule := ⟨empty⟩

def shown (r : FieldRule) : String :=
  Text.shownRecord "FieldAccessConfig"
    [("read", Text.boolText r.read.isSome), ("write", Text.boolText r.write.isSome),
     ("mask_fn", Text.boolText r.mask.isSome),
     ("omit_when_hidden", Text.boolText r.omitWhenHidden)] false

/-! ## Common rules -/

def constantly (b : Bool) : FieldPredicate := fun _ => .ok b

def holdsOneOf (roles : List String) : FieldPredicate := fun ctx =>
  .ok (ctx.caller.holdsOneOf (NameSet.ofList roles))

def neverAccessible : FieldRule :=
  { empty with read := some (constantly false), write := some (constantly false) }

/-- Open for reading, closed for writing. -/
def readOnly : FieldRule :=
  { empty with read := some (constantly true), write := some (constantly false) }

/-- Open to the user whose id is in the column. -/
def ownerOnly (column : String) : FieldRule :=
  let check : FieldPredicate := fun ctx => .ok (ctx.isOwner column)
  { empty with read := some check, write := some check }

/-- Open to the owner and to callers with one of the roles. -/
def ownerOrRoles (roles : List String) (column : String) : FieldRule :=
  let check : FieldPredicate := fun ctx =>
    .ok (ctx.isOwner column || ctx.caller.holdsOneOf (NameSet.ofList roles))
  { empty with read := some check, write := some check }

def rolesOnly (roles : List String) : FieldRule :=
  { empty with read := some (holdsOneOf roles), write := some (holdsOneOf roles) }

/-- Open for reading; written by callers with one of the roles. -/
def publicRead (roles : List String) : FieldRule :=
  { empty with read := some (constantly true), write := some (holdsOneOf roles) }

def maskedUnless (mask : MaskFunction) (roles : List String) : FieldRule :=
  { empty with read := some (holdsOneOf roles), mask := some mask }

end FieldRule

def MaskStrategy.toFunction (s : MaskStrategy) : MaskFunction := fun v => .ok (s.apply v)

/-! ## Tables -/

/-- The column rules of one table as they are declared. -/
structure FieldTableRules where
  default : FieldDefault
  /-- Callers with one of these roles see and write every column. -/
  exempt : NameSet
  fields : List (String × FieldRule)

/-- Column rules of tables, in declaration order. -/
abbrev FieldSchema := List (String × FieldTableRules)

/-- The registered column rules of a table. -/
structure FieldTable where
  name : String
  default : FieldDefault
  exempt : NameSet
  fields : List (String × FieldRule)
  /-- The place of each column among the fields. -/
  index : KeyMap Nat

namespace FieldTable

/-- Indexes columns from a place on; the first one that the index has already is an error. -/
def indexFrom (table : String) :
    Nat → KeyMap Nat → List (String × FieldRule) → Except SchemaError (KeyMap Nat)
  | _, index, [] => .ok index
  | place, index, f :: rest =>
    if index.contains f.1 then .error (.duplicateField table f.1)
    else indexFrom table (place + 1) (index.insert f.1 place) rest

/-- Checks the declaration of a table and indexes its columns. -/
def compile (name : String) (rules : FieldTableRules) : Except SchemaError FieldTable :=
  if name = "" then .error .emptyTableName
  else
    match indexFrom name 0 KeyMap.empty rules.fields with
    | .error e => .error e
    | .ok index =>
      .ok { name, default := rules.default, exempt := rules.exempt, fields := rules.fields
            index }

/-- The columns with rules, in declaration order. -/
def fieldNames (t : FieldTable) : List String := Entries.names t.fields

def field? (t : FieldTable) (name : String) : Option FieldRule :=
  (t.index.find? name).bind fun place => (t.fields[place]?).map Prod.snd

/-- The caller sees and writes every column of the table. -/
def exempts (t : FieldTable) (c : Caller) : Bool := c.holdsOneOf t.exempt

end FieldTable

/-! ## Registries -/

/-- The registered column rules, by table. -/
abbrev FieldRegistry := KeyMap FieldTable

namespace FieldRegistry

/-- Registers a table; a refused one leaves the registry as it is. -/
def register (r : FieldRegistry) (name : String) (rules : FieldTableRules) :
    Except SchemaError FieldRegistry :=
  if r.contains name then .error (.duplicateTable name)
  else
    match FieldTable.compile name rules with
    | .error e => .error e
    | .ok t => .ok (r.insert name t)

/-- Registers tables in declaration order up to the first one that is refused. -/
def load (r : FieldRegistry) : FieldSchema → FieldRegistry × Option SchemaError
  | [] => (r, none)
  | (name, rules) :: rest =>
    match register r name rules with
    | .error e => (r, some e)
    | .ok r' => load r' rest

def ofSchema (s : FieldSchema) : Except SchemaError FieldRegistry :=
  match load KeyMap.empty s with
  | (r, none) => .ok r
  | (_, some e) => .error e

def registered (name : String) (rules : FieldTableRules) : LogEvent :=
  { level := .debug, message := "Registered field access table"
    fields := [("table", .string name), ("fields", Value.ofNat rules.fields.length),
      ("default", .string rules.default.shown)] }

/-- The log lines of loading a schema: one for every table up to the first refused one. -/
def loadEvents (r : FieldRegistry) : FieldSchema → List LogEvent
  | [] => []
  | (name, rules) :: rest =>
    match register r name rules with
    | .error _ => []
    | .ok r' => registered name rules :: loadEvents r' rest

end FieldRegistry

end RowAccess
