import RowAccess.Context

/-!
# References

Rules can be written down as documents instead of functions. What such a rule says about a
context it says through references: to a column of the row or of the payload, to data
attached to the request, to an attribute of the caller. A template is a document with
references in it, which are filled in from a context.

An argument that is missing or of the wrong kind reads as the empty text.
-/

namespace RowAccess

/-! ## Arguments -/

namespace Value

def textOrEmpty (v : Value) : String := v.text?.getD ""

def texts (v : Value) : List String := (v.items?.getD []).map textOrEmpty

/-- The argument of a name; null if there is none. -/
def argument (v : Value) (name : String) : Value := (v.get? name).getD .null

/-- The argument at a place; null if there is none. -/
def argumentAt (v : Value) (place : Nat) : Value := ((v.items?.getD [])[place]?).getD .null

end Value

/-! ## References -/

/-- A place in a context that may hold a value. -/
inductive Reference where
  | row (column : String)
  | data (column : String)
  /-- Attached data: a name, then names inside the object found there. -/
  | attached (name : String) (path : List String)
  | attribute (name : String)
  /-- A place that never holds anything. -/
  | nowhere
  deriving DecidableEq, Repr

namespace Reference

def ofParts? (kind : String) (argument : Value) : Option Reference :=
  match kind with
  | "row" => some (.row argument.textOrEmpty)
  | "data" => some (.data argument.textOrEmpty)
  | "meta" =>
    match argument with
    | .array _ => some (.attached ((argument.texts.head?).getD "") argument.texts.tail)
    | _ => some (.attached argument.textOrEmpty [])
  | "attr" => some (.attribute argument.textOrEmpty)
  | _ => none

def ofValue : Value → Reference
  | .object [(kind, argument)] => (ofParts? kind argument).getD .nowhere
  | _ => .nowhere

def resolve? (r : Reference) (ctx : Context) : Option Value :=
  match r with
  | .row column => ctx.rowValue? column
  | .data column => ctx.dataValue? column
  | .attached name path => (ctx.attachedValue? name).bind fun v => v.walk? path
  | .attribute name => ctx.caller.attributes.find? name
  | .nowhere => none

end Reference

/-! ## Templates -/

namespace Template

/-- A property of the caller by its name; null if it is absent. -/
def callerProperty (c : Caller) (name : String) : Value :=
  match name with
  | "user_id" => .string c.userId
  | "tenant_id" => .ofOption c.tenantId
  | "roles" => .ofNames c.roles.toList
  | "permissions" => .ofNames c.permissions.toList
  | "organization_ids" =>
    match c.organizations with
    | some ids => .ofNames ids
    | none => .null
  | _ => .null

/-- What a placeholder stands for, if the entry of an object is one. -/
def placeholder? (ctx : Context) (kind : String) (argument : Value) : Option Value :=
  match kind with
  | "$auth" => some (callerProperty ctx.caller argument.textOrEmpty)
  | "$row" => some (((Reference.row argument.textOrEmpty).resolve? ctx).getD .null)
  | "$data" => some (((Reference.data argument.textOrEmpty).resolve? ctx).getD .null)
  | "$meta" =>
    (Reference.ofParts? "meta" argument).map fun r => (r.resolve? ctx).getD .null
  | "$attr" => some (((Reference.attribute argument.textOrEmpty).resolve? ctx).getD .null)
  | _ => none

/-- The object that filled entries make: what they stand for, if they are one placeholder. -/
def settle (ctx : Context) (raw filled : List (String × Value)) : Value :=
  match raw with
  | [(kind, argument)] => (placeholder? ctx kind argument).getD (.object filled)
  | _ => .object filled

mutual
def fill (ctx : Context) : Value → Value
  | .array xs => .array (fillItems ctx xs)
  | .object es => settle ctx es (fillFields ctx es)
  | v => v
termination_by structural v => v

def fillItems (ctx : Context) : List Value → List Value
  | [] => []
  | x :: xs => fill ctx x :: fillItems ctx xs
termination_by structural xs => xs

def fillFields (ctx : Context) : List (String × Value) → List (String × Value)
  | [] => []
  | (k, v) :: rest => (k, fill ctx v) :: fillFields ctx rest
termination_by structural es => es
end

end Template

end RowAccess
