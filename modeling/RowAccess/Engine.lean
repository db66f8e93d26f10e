import RowAccess.FieldAccess
import RowAccess.Mutation
import RowAccess.Select
import RowAccess.Settings

/-!
# The engine

Row rules, column rules, queries and writes behind one value, assembled from settings
and declarations that have been checked. Rows that were fetched without a restricted
query are filtered here by the same conditions, decided one by one, and masked.
-/

namespace RowAccess

/-- The assembled rules. -/
structure Engine where
  settings : Settings
  evaluator : Evaluator
  fields : FieldRegistry

/-! ## Building -/

/-- What an engine is built from. -/
structure EngineParts where
  settings : Settings
  schema : Schema
  fieldSchema : FieldSchema
  clock : Clock
  /-- Takes the place of the logger that writes to the log. -/
  audit : Option AuditLogger

/-- Why an engine could not be built. -/
inductive BuildError where
  | settings (fault : Settings.Fault)
  | schema (e : SchemaError)
  deriving DecidableEq, Repr

def BuildError.message : BuildError → String
  | .settings f => f.message
  | .schema e => e.message

namespace EngineParts

/-- The logger that decisions go to; none if the audit is switched off. -/
def logger? (p : EngineParts) : Option AuditLogger :=
  if p.settings.audit.enabled then
    some (p.audit.getD (AuditLogger.logging p.settings.audit.logAllows))
  else none

def assemble (p : EngineParts) (registry : Registry) (fields : FieldRegistry) : Engine :=
  { settings := p.settings
    evaluator :=
      { registry
        environment := p.settings.engine.environment
        features := KeyMap.ofList (p.settings.features.entries.map fun e => (e.1, Value.bool e.2))
        clock := p.clock
        audit := p.logger?
        denyUnregistered := p.settings.engine.denyUnregistered }
    fields }

/-- Checks settings and declarations, in this order, and assembles the engine. -/
def build (p : EngineParts) : Except BuildError Engine :=
  match p.settings.fault? with
  | some f => .error (.settings f)
  | none =>
    match Registry.ofSchema p.schema with
    | .error e => .error (.schema e)
    | .ok registry =>
      match FieldRegistry.ofSchema p.fieldSchema with
      | .error e => .error (.schema e)
      | .ok fields => .ok (p.assemble registry fields)

/-- The log lines of building: the registrations, and one line when the engine stands. -/
def buildEvents (p : EngineParts) : List LogEvent :=
  match p.settings.fault? with
  | some _ => []
  | none =>
    Registry.loadEvents KeyMap.empty p.schema ++
      match Registry.ofSchema p.schema with
      | .error _ => []
      | .ok registry =>
        FieldRegistry.loadEvents KeyMap.empty p.fieldSchema ++
          match FieldRegistry.ofSchema p.fieldSchema with
          | .error _ => []
          | .ok fields =>
            [{ level := .info, message := "RLS engine ready"
               fields := [("environment", .string p.settings.engine.environment),
                 ("tables", Value.ofNat registry.size),
                 ("field_tables", Value.ofNat fields.size),
                 ("audit", .bool p.settings.audit.enabled)] }]

end EngineParts

namespace Engine

/-! ## Writes -/

/-- The guard of the rows, then the check of the columns of the payload given with the write. -/
def guardWrite (e : Engine) (table : String) (op : Operation) (existing data : Option Row)
    (ctx : Context) : Report (Except AccessError Decision) :=
  (e.evaluator.guard table op existing data ctx).andThen fun guarded =>
    match guarded, data with
    | .ok d, some payload =>
      if op.carriesPayload then
        (e.fields.validate table payload { ctx with operation := op } existing).map fun r =>
          match r with
          | .error denied => .error (.denied denied)
          | .ok () => .ok d
      else .pure (.ok d)
    | r, _ => .pure r

/-- Runs a mutation behind the guard and the check of the columns. -/
def runGuarded {σ τ : Type} (e : Engine) (table : String) (op : Operation)
    (existing data : Option Row) (ctx : Context) (mutation : σ → τ × σ) (state : σ) :
    Report (Except AccessError τ × σ) :=
  runIfPassed mutation state (e.guardWrite table op existing data ctx)

/-! ## Reads -/

/-- A row that meets the filters, decided and masked; nothing if it may not be read. -/
def readRow (e : Engine) (table : String) (ctx : Context) (o : MaskOptions) (row : Row) :
    Report (Option MaskedRow) :=
  (e.evaluator.evaluate table .read (ctx.withRow row)).andThen fun d =>
    if d.allowed then (e.fields.maskRow table row ctx o).map some else .pure none

/-- Drops the rows that the caller may not read and masks the others, in order. If a filter
fails, no row is returned. -/
def readRows (e : Engine) (table : String) (rows : List Row) (ctx : Context) (o : MaskOptions) :
    Report (Except AccessError (List MaskedRow)) :=
  (e.evaluator.filters table .read ctx).andThen fun filters =>
    match filters with
    | .error f => .pure (.error (.filterFailed f))
    | .ok r =>
      let candidates := rows.filter fun row => row.satisfies r.conditions
      (Report.forEach (e.readRow table ctx o) candidates).andThen fun read =>
        let visible := read.filterMap id
        let withheld : List LogEvent :=
          if visible.length < rows.length then
            [{ level := .debug, message := "Rows withheld by RLS"
               fields := [("table", .string table), ("user_id", .string ctx.caller.userId),
                 ("total", Value.ofNat rows.length), ("visible", Value.ofNat visible.length),
                 ("filters", .string (Text.quotedList r.applied))] }]
          else []
        .noting (.ok visible) withheld

/-! ## Installed requests -/

/-- The request of a call that is not handed one: the installed one, else that of the anonymous
caller, unless a request is required. -/
def installed? (e : Engine) (slot : Option Request) : Except AccessError Request :=
  match slot with
  | some r => .ok r
  | none =>
    if e.settings.engine.requireContext then .error .noContext
    else .ok (Request.ofCaller Caller.anonymous)

def evaluateInstalled (e : Engine) (slot : Option Request) (table : String) (op : Operation)
    (row : Option Row) : Report (Except AccessError Decision) :=
  match e.installed? slot with
  | .error err => .pure (.error err)
  | .ok r =>
    (e.evaluator.evaluate table op { Context.ofRequest r table op with row }).map Except.ok

def maskRowInstalled (e : Engine) (slot : Option Request) (table : String) (row : Row)
    (o : MaskOptions) : Report (Except AccessError MaskedRow) :=
  match e.installed? slot with
  | .error err => .pure (.error err)
  | .ok r => (e.fields.maskRow table row (Context.ofRequest r table .read) o).map Except.ok

end Engine

end RowAccess
