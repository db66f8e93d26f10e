import RowAccess.Activation
import RowAccess.Context
import RowAccess.Value.Printer

/-!
# Policies

A policy is a named rule of a table. It is declared for some operations, has a priority,
and is of one of four kinds: allow and deny policies decide about an operation, filter
policies add conditions to reads, validate policies look at the payload of a write. The
functions come from the host and see a context.
-/

namespace RowAccess

/-! ## Kinds -/

/-- What a policy contributes to. -/
inductive PolicyKind where
  | allow
  | deny
  | filter
  | validate
  deriving DecidableEq, Repr, Inhabited

namespace PolicyKind

def name : PolicyKind → String
  | .allow => "allow"
  | .deny => "deny"
  | .filter => "filter"
  | .validate => "validate"

def ofName? : String → Option PolicyKind
  | "allow" => some .allow
  | "deny" => some .deny
  | "filter" => some .filter
  | "validate" => some .validate
  | _ => none

def shown : PolicyKind → String
  | .allow => "Allow"
  | .deny => "Deny"
  | .filter => "Filter"
  | .validate => "Validate"

@[simp] theorem ofName?_name (k : PolicyKind) : ofName? k.name = some k := by
  cases k <;> rfl

end PolicyKind

/-! ## Functions of a policy -/

/-- The function of an allow, deny or validate policy. -/
abbrev Predicate := Context → Outcome Bool

/-- The function of a filter policy: columns with the values they have to have. -/
abbrev FilterFunction := Context → Outcome Row

/-- The conditions that a document stands for: an object its entries, null none at all. -/
def conditionsOfValue : Value → Outcome Row
  | .object es => .value (Row.ofEntries es)
  | .null => .value Row.empty
  | v => .failed ("filter must return an object, got " ++ v.print)

/-- The kind of a policy with its function. -/
inductive PolicyBody where
  | allow (predicate : Predicate)
  | deny (predicate : Predicate)
  | filter (function : FilterFunction)
  | validate (predicate : Predicate)

namespace PolicyBody

def kind : PolicyBody → PolicyKind
  | .allow _ => .allow
  | .deny _ => .deny
  | .filter _ => .filter
  | .validate _ => .validate

/-- How diagnostics show a body: by its kind. -/
def shown (b : PolicyBody) : String := "PolicyKind::" ++ b.kind.name

/-- The predicate of a policy that decides about operations. -/
def decider? : PolicyBody → Option Predicate
  | .allow p => some p
  | .deny p => some p
  | _ => none

def filter? : PolicyBody → Option FilterFunction
  | .filter f => some f
  | _ => none

def validator? : PolicyBody → Option Predicate
  | .validate p => some p
  | _ => none

end PolicyBody

/-! ## Policies -/

/-- A rule of a table. -/
structure Policy where
  /-- Distinct within a table; the empty name is refused there. -/
  name : String
  operations : List Operation
  /-- Policies of higher priority come first. -/
  priority : Int
  body : PolicyBody
  /-- The policy takes part only while the condition holds. -/
  activation : Option Condition
  /-- Data for tools; it changes nothing. -/
  hints : Option Value

namespace Policy

def kind (p : Policy) : PolicyKind := p.body.kind

def appliesTo (p : Policy) (op : Operation) : Bool := p.operations.any fun d => d.covers op

def isConditional (p : Policy) : Bool := p.activation.isSome

def restrict (p : Policy) (r : Restriction) : Policy :=
  { p with activation := some (Condition.after p.activation r.holds) }

/-- The policy under restrictions, applied from the front of the list. -/
def restrictAll (p : Policy) (rs : List Restriction) : Policy := rs.foldl restrict p

/-- Whether the policy takes part. A condition that crashes leaves an allow policy out and
every other policy in, so that it never widens access. -/
def isActive (p : Policy) (m : Moment) : Bool :=
  match p.activation with
  | none => true
  | some c =>
    match c m with
    | .ok b => b
    | .error _ => p.kind != .allow

def shown (p : Policy) : String :=
  Text.shownRecord "PolicyDefinition"
    [("name", Text.quoted p.name),
     ("decision_type", p.kind.shown),
     ("operations", "[" ++ Text.commaSeparated (p.operations.map Operation.shown) ++ "]"),
     ("priority", toString p.priority),
     ("conditional", Text.boolText p.isConditional)] true

end Policy

end RowAccess
