import RowAccess.Decision
import RowAccess.Value.Printer

/-!
# The journal

What a call leaves behind besides its answer: events for the log of the host, and the
audit records that an audit logger keeps. A `Report` is an answer together with both;
reports are strung together with `andThen`, and the answer of the whole depends on the
answers of the parts alone (`result_andThen`).
-/

namespace RowAccess

/-! ## Log events -/

/-- How severe an event is. -/
inductive Level where
  | error
  | warn
  | info
  | debug
  | trace
  deriving DecidableEq, Repr

namespace Level

/-- The more severe, the smaller. -/
def rank : Level → Nat
  | .error => 0
  | .warn => 1
  | .info => 2
  | .debug => 3
  | .trace => 4

def name : Level → String
  | .error => "ERROR"
  | .warn => "WARN"
  | .info => "INFO"
  | .debug => "DEBUG"
  | .trace => "TRACE"

def ofName? : String → Option Level
  | "error" => some .error
  | "warn" => some .warn
  | "info" => some .info
  | "debug" => some .debug
  | "trace" => some .trace
  | _ => none

end Level

/-- A line of the log: a fixed message with named values. -/
structure LogEvent where
  level : Level
  message : String
  fields : List (String × Value)

/-! ## Audit records -/

/-- One decision as the audit sees it. -/
structure AuditRecord where
  allowed : Bool
  operation : Operation
  table : String
  policy : Option String
  userId : String
  tenantId : Option String
  kind : PolicyKind
  reason : Option String
  deriving DecidableEq, Repr

/-! ## Reports -/

/-- An answer, and what was noted on the way to it. -/
structure Report (α : Type) where
  result : α
  events : List LogEvent
  records : List AuditRecord

namespace Report

variable {α β γ : Type}

def pure (a : α) : Report α := ⟨a, [], []⟩

/-- An answer with events for the log. -/
def noting (a : α) (events : List LogEvent) : Report α := ⟨a, events, []⟩

/-- Goes on with the answer; the notes of both parts stay, in order. -/
def andThen (r : Report α) (f : α → Report β) : Report β :=
  let s := f r.result
  ⟨s.result, r.events ++ s.events, r.records ++ s.records⟩

def map (f : α → β) (r : Report α) : Report β := ⟨f r.result, r.events, r.records⟩

/-- One report for every item, in order. -/
def forEach (f : α → Report β) : List α → Report (List β)
  | [] => pure []
  | x :: xs => (f x).andThen fun y => (forEach f xs).map (y :: ·)

@[simp] theorem result_pure (a : α) : (pure a).result = a := rfl

@[simp] theorem records_pure (a : α) : (pure a).records = [] := rfl

@[simp] theorem result_noting (a : α) (es : List LogEvent) : (noting a es).result = a := rfl

@[simp] theorem records_noting (a : α) (es : List LogEvent) : (noting a es).records = [] := rfl

@[simp] theorem result_andThen (r : Report α) (f : α → Report β) :
    (r.andThen f).result = (f r.result).result := rfl

@[simp] theorem records_andThen (r : Report α) (f : α → Report β) :
    (r.andThen f).records = r.records ++ (f r.result).records := rfl

@[simp] theorem result_map (f : α → β) (r : Report α) : (r.map f).result = f r.result := rfl

@[simp] theorem records_map (f : α → β) (r : Report α) : (r.map f).records = r.records := rfl

@[simp] theorem result_forEach (f : α → Report β) (xs : List α) :
    (forEach f xs).result = xs.map fun x => (f x).result := by
  induction xs with
  | nil => rfl
  | cons x rest ih => simp [forEach, ih]

@[simp] theorem records_forEach (f : α → Report β) (xs : List α) :
    (forEach f xs).records = xs.flatMap fun x => (f x).records := by
  induction xs with
  | nil => rfl
  | cons x rest ih => simp [forEach, ih]

end Report

/-! ## Audit loggers -/

/-- What becomes of an audit record: lines for the log and records that are kept; or the
logger crashes. -/
structure AuditLogger where
  accept : AuditRecord → Attempt (List LogEvent × List AuditRecord)

namespace AuditLogger

def recording : AuditLogger := ⟨fun r => .ok ([], [r])⟩

def recordFields (r : AuditRecord) : List (String × Value) :=
  [("operation", .string r.operation.name),
   ("table", .string r.table),
   ("policy", .string (Text.quotedOption r.policy)),
   ("user_id", .string r.userId),
   ("tenant_id", .string (Text.quotedOption r.tenantId)),
   ("reason", .string (Text.quotedOption r.reason))]

/-- Writes refusals to the log as warnings and, if asked to, permissions as information. -/
def logging (permissions : Bool) : AuditLogger :=
  ⟨fun r =>
    if r.allowed then
      .ok (if permissions then [⟨.info, "RLS access granted", recordFields r⟩] else [], [])
    else .ok ([⟨.warn, "RLS access denied", recordFields r⟩], [])⟩

/-- Crashes on every record. -/
def crashing : AuditLogger :=
  ⟨fun r => .error ⟨if r.allowed then some ("audit allow " ++ r.table) else none⟩⟩

/-- What is noted about a record. A crash of the logger is noted as a warning. -/
def note (l : AuditLogger) (r : AuditRecord) : List LogEvent × List AuditRecord :=
  match l.accept r with
  | .ok notes => notes
  | .error crash =>
    ([⟨.warn, "Audit logger failed; decision unchanged",
       [("table", .string r.table), ("operation", .string r.operation.name),
        ("error", .string crash.report)]⟩], [])

end AuditLogger

end RowAccess
