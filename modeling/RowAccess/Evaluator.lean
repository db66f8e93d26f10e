import RowAccess.Evaluation

/-!
# The evaluator

Decisions, filters and validation over all registered tables. Here the callers that pass
without being asked are told apart from the others: system callers everywhere, callers
with an exempt role on the tables that name it, and everyone on a table without rules,
unless such tables are to be refused. Every decision is handed to the audit logger.
-/

namespace RowAccess

def defaultEnvironment : String := "development"

/-- Registered rules with the setting in which they are applied. -/
structure Evaluator where
  registry : Registry
  environment : String
  features : Features
  clock : Clock
  audit : Option AuditLogger
  /-- Refuse every operation on a table without rules. -/
  denyUnregistered : Bool

/-- What running one policy by itself gave. -/
inductive PolicyRun where
  | decision (holds : Bool)
  | conditions (row : Row)
  | failed (reason : String)

namespace Evaluator

/-- The moment of a decision that is made now. -/
def moment (ev : Evaluator) : Moment :=
  { environment := ev.environment, features := ev.features, time := ev.clock.now }

/-- The table whose filters and validation apply to the context, if any do. -/
def enforced? (ev : Evaluator) (ctx : Context) : Option Table :=
  if ctx.caller.isSystem then none
  else
    match ev.registry.find? ctx.table with
    | some t => if t.exempts ctx.caller then none else some t
    | none => none

/-! ## Decisions -/

/-- The decision about the table and operation of the context. -/
def decide (ev : Evaluator) (ctx : Context) (m : Moment) : Decision :=
  if ctx.caller.isSystem then Decision.bypass Decision.systemReason
  else
    match ev.registry.find? ctx.table with
    | none => Decision.byDefault ev.denyUnregistered []
    | some t =>
      if t.exempts ctx.caller then Decision.bypass Decision.exemptReason else t.decide ctx m

def decideEvents (ev : Evaluator) (ctx : Context) (m : Moment) : List LogEvent :=
  if ctx.caller.isSystem then []
  else
    match ev.registry.find? ctx.table with
    | none =>
      if ev.denyUnregistered then
        [⟨.debug, "No RLS schema registered; denying", [("table", .string ctx.table)]⟩]
      else []
    | some t => if t.exempts ctx.caller then [] else t.decideEvents ctx m

def auditRecord (ctx : Context) (d : Decision) : AuditRecord :=
  { allowed := d.allowed, operation := ctx.operation, table := ctx.table, policy := d.policy
    userId := ctx.caller.userId, tenantId := ctx.caller.tenantId, kind := d.kind
    reason := d.reason }

/-- What the audit logger, if there is one, leaves behind. -/
def auditNotes (ev : Evaluator) (r : AuditRecord) : List LogEvent × List AuditRecord :=
  match ev.audit with
  | some l => l.note r
  | none => ([], [])

/-- Decides whether the operation on the table is allowed. The table and operation that the
context came with do not matter. -/
def evaluateAt (ev : Evaluator) (table : String) (op : Operation) (ctx : Context) (m : Moment) :
    Report Decision :=
  let ctx := ctx.about table op
  let d := ev.decide ctx m
  let notes := ev.auditNotes (auditRecord ctx d)
  { result := d, events := ev.decideEvents ctx m ++ notes.1, records := notes.2 }

def evaluate (ev : Evaluator) (table : String) (op : Operation) (ctx : Context) :
    Report Decision :=
  ev.evaluateAt table op ctx ev.moment

/-! ## Filters -/

/-- The conditions under which the caller may read. One failing filter fails them all: a
query must not run without its conditions. -/
def filtersAt (ev : Evaluator) (table : String) (op : Operation) (ctx : Context) (m : Moment) :
    Report (Except FilterFailure FilterResult) :=
  let ctx := ctx.about table op
  match ev.enforced? ctx with
  | none => .pure (.ok FilterResult.empty)
  | some t => .noting (t.filters ctx m) (t.filterEvents op m)

def filters (ev : Evaluator) (table : String) (op : Operation) (ctx : Context) :
    Report (Except FilterFailure FilterResult) :=
  ev.filtersAt table op ctx ev.moment

/-! ## Validation -/

/-- Checks the payload of a create or an update; other operations pass. -/
def validateAt (ev : Evaluator) (table : String) (op : Operation) (ctx : Context) (m : Moment) :
    Report (Except ValidationFailure Unit) :=
  if op.carriesPayload then
    let ctx := ctx.about table op
    match ev.enforced? ctx with
    | none => .pure (.ok ())
    | some t =>
      match t.rejection? ctx m with
      | some v => .noting (.error v) (t.rejectionEvents ctx m)
      | none => .noting (.ok ()) (t.rejectionEvents ctx m)
  else .pure (.ok ())

def validate (ev : Evaluator) (table : String) (op : Operation) (ctx : Context) :
    Report (Except ValidationFailure Unit) :=
  ev.validateAt table op ctx ev.moment

/-! ## Single policies -/

def runBody (b : PolicyBody) (ctx : Context) : PolicyRun :=
  let decided (p : Predicate) : PolicyRun :=
    match (p ctx).contain with
    | .ok b => .decision b
    | .error e => .failed e
  match b with
  | .allow p => decided p
  | .deny p => decided p
  | .validate p => decided p
  | .filter f =>
    match (f ctx).contain with
    | .ok row => .conditions row
    | .error e => .failed e

/-- Runs one policy of a table by itself, whoever asks and whether or not it is active; nothing
if there is no such policy. The operation of the context stays as it is. -/
def testPolicy? (ev : Evaluator) (table name : String) (ctx : Context) : Option PolicyRun :=
  (ev.registry.find? table).bind fun t =>
    (t.policy? name).map fun p => runBody p.body { ctx with table }

end Evaluator

end RowAccess
