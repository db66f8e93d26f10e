import RowAccess.Policy

/-!
# Decisions

The answer to "may this caller do that", with the trace of the policies that were asked,
and the errors in which a refusal reaches the caller.
-/

namespace RowAccess

/-- The part of one policy in a decision. -/
structure TraceEntry where
  name : String
  kind : PolicyKind
  /-- The policy took part. -/
  active : Bool
  /-- The predicate held; never for a policy that took no part or failed. -/
  matched : Bool
  /-- What a failed predicate reported. -/
  error : Option String
  deriving DecidableEq, Repr

/-- The decision about an operation. -/
structure Decision where
  allowed : Bool
  kind : PolicyKind
  reason : Option String
  /-- The policy that decided, if one did. -/
  policy : Option String
  /-- The allow and deny policies that were asked, in order. -/
  trace : List TraceEntry
  deriving DecidableEq, Repr

/-! ## Errors -/

/-- A refusal of a row or of a column. -/
structure AccessDenied where
  table : String
  operation : Operation
  /-- The deny policy that decided. -/
  policy : Option String
  /-- The column that may not be written. -/
  field : Option String
  reason : String
  trace : List TraceEntry
  deriving DecidableEq, Repr

/-- A validate policy turned a payload down. -/
structure ValidationFailure where
  table : String
  operation : Operation
  policy : String
  reason : String
  deriving DecidableEq, Repr

/-- The function of a filter policy failed. -/
structure FilterFailure where
  policy : String
  reason : String
  deriving DecidableEq, Repr

/-- Why an operation did not go ahead. -/
inductive AccessError where
  | denied (d : AccessDenied)
  | invalid (v : ValidationFailure)
  | filterFailed (f : FilterFailure)
  | invalidColumn (table column : String)
  | noContext
  deriving DecidableEq, Repr

namespace AccessDenied

/-- What the message names besides the table: the column, else the policy. -/
def target (d : AccessDenied) : String :=
  match d.field, d.policy with
  | some f, _ => " (field '" ++ f ++ "')"
  | none, some p => " (policy '" ++ p ++ "')"
  | none, none => ""

def message (d : AccessDenied) : String :=
  "Access denied: " ++ d.operation.name ++ " on '" ++ d.table ++ "'" ++ d.target ++ ": " ++ d.reason

end AccessDenied

def ValidationFailure.message (v : ValidationFailure) : String :=
  "Validation failed: " ++ v.operation.name ++ " on '" ++ v.table ++ "' rejected by policy '" ++
    v.policy ++ "': " ++ v.reason

def FilterFailure.message (f : FilterFailure) : String :=
  "Policy '" ++ f.policy ++ "' failed: " ++ f.reason

namespace AccessError

def message : AccessError → String
  | .denied d => d.message
  | .invalid v => v.message
  | .filterFailed f => f.message
  | .invalidColumn table column =>
    "Filter policy produced invalid column name '" ++ column ++ "' for table '" ++ table ++ "'"
  | .noContext => "No RLS context is active for this operation"

def isDenial : AccessError → Bool
  | .denied _ => true
  | _ => false

/-- No error goes away by asking again. -/
def isRetryable (_ : AccessError) : Bool := false

end AccessError

/-! ## Kinds of decision -/

namespace Decision

def systemReason : String := "System user bypass"

/-- The reason given to a caller with one of the exempt roles of a table. -/
def exemptReason : String := "skipFor role"

def defaultReason : String := "default"

/-- Allowed without asking any policy. -/
def bypass (reason : String) : Decision :=
  { allowed := true, kind := .allow, reason := some reason, policy := none, trace := [] }

/-- No policy decided. -/
def byDefault (deny : Bool) (trace : List TraceEntry) : Decision :=
  { allowed := !deny, kind := if deny then .deny else .allow
    reason := some defaultReason, policy := none, trace }

def matchedReason (p : Policy) : String :=
  "Matched " ++ p.kind.name ++ " policy '" ++ p.name ++ "' (priority " ++ toString p.priority ++ ")"

def byPolicy (p : Policy) (trace : List TraceEntry) : Decision :=
  { allowed := p.kind == .allow, kind := p.kind
    reason := some (matchedReason p), policy := some p.name, trace }

def isBypass (d : Decision) : Bool :=
  d.reason == some systemReason || d.reason == some exemptReason

def denialReason (d : Decision) : String :=
  match d.policy, d.reason with
  | some _, _ => "denied by policy"
  | none, some r => if r = defaultReason then "no policy allowed the operation" else r
  | none, none => "denied"

/-- The error that a refusal becomes. -/
def toDenial (d : Decision) (table : String) (operation : Operation) : AccessDenied :=
  { table, operation, policy := d.policy, field := none, reason := d.denialReason
    trace := d.trace }

end Decision

end RowAccess
