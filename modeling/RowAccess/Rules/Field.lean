import RowAccess.Record.Masks
import RowAccess.Rules.Policy

/-!
# Written column rules

Column rules of tables, read from documents: one of the common rules to start from, with
checks and masks that take the place of its own.
-/

namespace RowAccess

namespace MaskStrategy

def ofShortName? : String → Option MaskStrategy
  | "email" => some (.redact .email)
  | "ssn" => some (.redact .ssn)
  | "phone" => some (.redact .phone)
  | "credit_card" => some (.redact .creditCard)
  | "hash" => some .hash
  | "token" => some .tokenize
  | _ => none

/-- The strategy that a rule names, a parameter with it. -/
def ofRule? : Value → Option MaskStrategy
  | .string name => ofShortName? name
  | .array [.string "truncate", n] => n.natural?.map truncate
  | .array [.string "constant", text] => some (.constant text.textOrEmpty)
  | _ => none

/-- The strategy that a rule names, or the fault. -/
def ofRule (v : Value) : Except RuleFault MaskStrategy :=
  match ofRule? v with
  | some s => .ok s
  | none => .error .malformed

end MaskStrategy

namespace MaskFunction

/-- Shows a value, with the note that it was there. -/
def wrapping : MaskFunction := fun v => .ok (.object [("was", v)])

/-- The mask that a document describes; any other document means the wrapping one. -/
def ofValue (v : Value) : Except RuleFault MaskFunction :=
  match v with
  | .object [("fn", name)] => (MaskStrategy.ofRule name).map MaskStrategy.toFunction
  | .object [("strategy", s)] =>
    match MaskStrategy.ofValue? s with
    | some s => .ok s.toFunction
    | none => .error .unreadable
  | v =>
    match Crash.ofValue? v with
    | some crash => .ok fun _ => .error crash
    | none => .ok wrapping

end MaskFunction

namespace FieldRule

/-- The common rule that a document starts from; no rule at all if it names none. -/
def starting (v : Value) : Except RuleFault FieldRule :=
  let roles := (v.argument "roles").texts
  let column := (v.argument "column").textOrEmpty
  match v.get? "helper" with
  | none => .ok empty
  | some helper =>
    match helper.textOrEmpty with
    | "never_accessible" => .ok neverAccessible
    | "read_only" => .ok readOnly
    | "owner_only" => .ok (ownerOnly column)
    | "owner_or_roles" => .ok (ownerOrRoles roles column)
    | "roles_only" => .ok (rolesOnly roles)
    | "public_read_restricted_write" => .ok (publicRead roles)
    | "masked_field" =>
      (MaskStrategy.ofRule (v.argument "with")).map fun s => maskedUnless s.toFunction roles
    | _ => .error .malformed

def ofValue (v : Value) : Except RuleFault FieldRule := do
  let rule ← starting v
  let check (name : String) := (v.get? name).map fun c => (Check.ofValue c).fieldPredicate
  let mask ← match v.get? "mask" with
    | some m => (MaskFunction.ofValue m).map some
    | none => Except.ok none
  return { read := check "read" <|> rule.read
           write := check "write" <|> rule.write
           mask := mask <|> rule.mask
           omitWhenHidden := (v.argument "omit").bool?.getD rule.omitWhenHidden }

end FieldRule

namespace FieldTableRules

/-- The column rules of a table that a document describes. -/
def ofValue (v : Value) : Except RuleFault FieldTableRules := do
  let default ← match v.get? "default" with
    | none => Except.ok FieldDefault.allow
    | some d =>
      match FieldDefault.ofValue? d with
      | some d => Except.ok d
      | none => Except.error .unreadable
  let fields ← ((v.argument "fields").items?.getD []).mapM fun e =>
    (FieldRule.ofValue (e.argumentAt 1)).map fun rule => ((e.argumentAt 0).textOrEmpty, rule)
  return { default, exempt := NameSet.ofList (v.argument "skip_for").texts, fields }

end FieldTableRules

namespace FieldSchema

/-- The column rules that a document lists, as pairs of a table and its rules. -/
def ofValue (v : Value) : Except RuleFault FieldSchema :=
  (v.items?.getD []).mapM fun e =>
    (FieldTableRules.ofValue (e.argumentAt 1)).map fun rules =>
      ((e.argumentAt 0).textOrEmpty, rules)

end FieldSchema

end RowAccess
