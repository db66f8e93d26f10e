import RowAccess.Registry

/-!
# Evaluation of a table

What the policies of one table say about one context. The allow and deny policies that
are declared for the operation are asked in order, and the first one that takes part and
holds decides (`Table.decide`). Filter policies are merged so that an earlier policy wins
over a later one (`Table.filters`). Validate policies all have to hold (`Table.rejection?`).

Policies that crash or fail are contained: they never decide, a failing filter fails the
merge, a failing validation rejects.
-/

namespace RowAccess

/-- The items up to the first one that the test accepts, that one included. -/
def upTo {α : Type} (test : α → Bool) : List α → List α
  | [] => []
  | x :: rest => if test x then [x] else x :: upTo test rest

/-! ## Single policies -/

namespace Policy

/-- Allow and deny policies. -/
def isDecider (p : Policy) : Bool := p.body.decider?.isSome

/-- What the predicate of an allow or deny policy says. -/
def verdict (p : Policy) (ctx : Context) : Except String Bool :=
  match p.body.decider? with
  | some f => (f ctx).contain
  | none => .ok false

def entry (p : Policy) (ctx : Context) (m : Moment) : TraceEntry :=
  if p.isActive m then
    match p.verdict ctx with
    | .ok b => { name := p.name, kind := p.kind, active := true, matched := b, error := none }
    | .error e =>
      { name := p.name, kind := p.kind, active := true, matched := false, error := some e }
  else { name := p.name, kind := p.kind, active := false, matched := false, error := none }

/-- The policy decides when it is asked. -/
def decides (p : Policy) (ctx : Context) (m : Moment) : Bool := (p.entry ctx m).matched

/-- Why an active validate policy turns a payload down, if it does. -/
def objection? (p : Policy) (ctx : Context) : Option String :=
  match p.body.validator? with
  | none => none
  | some f =>
    match (f ctx).contain with
    | .ok true => none
    | .ok false => some "validation returned false"
    | .error e => some ("validation failed: " ++ e)

/-- The policy turns the payload of the context down. -/
def rejects (p : Policy) (ctx : Context) (m : Moment) : Bool :=
  p.isActive m && (p.objection? ctx).isSome

end Policy

/-! ## Filters -/

/-- Conditions that a read is under, and the policies they came from. -/
structure FilterResult where
  conditions : Row
  /-- In the order in which the conditions were merged. -/
  applied : List String

namespace FilterResult

def empty : FilterResult := ⟨Row.empty, []⟩

instance : Inhabited FilterResult := ⟨empty⟩

def isEmpty (r : FilterResult) : Bool := r.conditions.isEmpty

/-- Merges the conditions of filter policies from the front of the list: a column that is
there already keeps its place and takes the later value. -/
def merge (ctx : Context) :
    FilterResult → List (Policy × FilterFunction) → Except FilterFailure FilterResult
  | r, [] => .ok r
  | r, (p, f) :: rest =>
    match (f ctx).contain with
    | .error e => .error ⟨p.name, e⟩
    | .ok row => merge ctx ⟨r.conditions.extend row, r.applied ++ [p.name]⟩ rest

end FilterResult

/-! ## Tables -/

namespace Table

/-- The allow and deny policies that are asked about an operation, in order. -/
def deciders (t : Table) (op : Operation) : List Policy :=
  (t.policiesFor op).filter Policy.isDecider

/-- The policies that were asked before the decision stood. -/
def asked (t : Table) (ctx : Context) (m : Moment) : List Policy :=
  upTo (fun p => p.decides ctx m) (t.deciders ctx.operation)

def decide (t : Table) (ctx : Context) (m : Moment) : Decision :=
  let trace := (t.asked ctx m).map fun p => p.entry ctx m
  match (t.deciders ctx.operation).find? fun p => p.decides ctx m with
  | some p => Decision.byPolicy p trace
  | none => Decision.byDefault t.defaultDeny trace

/-- The filter policies for an operation, in order. -/
def filterPolicies (t : Table) (op : Operation) : List (Policy × FilterFunction) :=
  (t.policiesFor op).filterMap fun p => p.body.filter?.map fun f => (p, f)

/-- The filter policies that take part. -/
def activeFilters (t : Table) (op : Operation) (m : Moment) : List (Policy × FilterFunction) :=
  (t.filterPolicies op).filter fun pf => pf.1.isActive m

/-- The merged conditions of the active filters, the last policy merged first, so that
earlier policies win. -/
def filters (t : Table) (ctx : Context) (m : Moment) : Except FilterFailure FilterResult :=
  FilterResult.merge ctx FilterResult.empty (t.activeFilters ctx.operation m).reverse

/-- The validate policies for an operation, in order. -/
def validators (t : Table) (op : Operation) : List Policy :=
  (t.policiesFor op).filter fun p => p.body.validator?.isSome

/-- The first validate policy that turns the payload down. -/
def rejection? (t : Table) (ctx : Context) (m : Moment) : Option ValidationFailure :=
  (t.validators ctx.operation).findSome? fun p =>
    if p.isActive m then
      (p.objection? ctx).map fun reason =>
        { table := ctx.table, operation := ctx.operation, policy := p.name, reason }
    else none

end Table

/-! ## Log lines -/

namespace Policy

def activationEvents (p : Policy) (m : Moment) : List LogEvent :=
  match p.activation with
  | none => []
  | some c =>
    match c m with
    | .ok _ => []
    | .error crash =>
      [{ level := .warn, message := "Activation condition failed"
         fields := [("policy", .string p.name), ("error", .string crash.report),
           ("active", .bool (p.isActive m))] }]

def entryEvents (p : Policy) (ctx : Context) (m : Moment) : List LogEvent :=
  p.activationEvents m ++
    match (p.entry ctx m).error with
    | none => []
    | some e =>
      [{ level := .debug, message := "Policy predicate failed; treating as non-match"
         fields := [("table", .string ctx.table), ("policy", .string p.name),
           ("error", .string e)] }]

end Policy

namespace Table

def decideEvents (t : Table) (ctx : Context) (m : Moment) : List LogEvent :=
  (t.asked ctx m).flatMap fun p => p.entryEvents ctx m

def filterEvents (t : Table) (op : Operation) (m : Moment) : List LogEvent :=
  (t.filterPolicies op).flatMap fun pf => pf.1.activationEvents m

def rejectionEvents (t : Table) (ctx : Context) (m : Moment) : List LogEvent :=
  (upTo (fun p => p.rejects ctx m) (t.validators ctx.operation)).flatMap fun p =>
    p.activationEvents m

end Table

end RowAccess
