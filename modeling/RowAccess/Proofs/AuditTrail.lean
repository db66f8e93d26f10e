import RowAccess.Proofs.Registration
import RowAccess.Proofs.Validation

/-!
# The audit trail of a run

A run is a list of calls on one engine, each at its own time and each in
the state that the call before it left the host in. `Call.questions`
says which operations a call puts to the decision: none, one, or one for
every row that a read considers. `Call.records_perform` is the step: a
call audits the decisions about its questions, in order, whatever else
goes wrong in it. `audit_of_run` is the whole run, from the parts that
the engine was built from.

The answers do not depend on the logger, and neither does the state that
is left behind (`Engine.run_withLogger`).
-/

namespace RowAccess

variable {σ τ : Type}

/-! ## Runs of calls -/

/-- A call on an engine. A mutation acts on the state `σ` of the host and brings back a `τ`. -/
inductive Call (σ τ : Type) where
  | evaluate (table : String) (op : Operation) (ctx : Context)
  | evaluateInstalled (slot : Option Request) (table : String) (op : Operation)
      (row : Option Row)
  | filters (table : String) (op : Operation) (ctx : Context)
  | transform (query : Query) (table : String) (ctx : Context)
  | guardWrite (table : String) (op : Operation) (existing data : Option Row) (ctx : Context)
  | runGuarded (table : String) (op : Operation) (existing data : Option Row) (ctx : Context)
      (mutation : σ → τ × σ)
  | readRows (table : String) (rows : List Row) (ctx : Context) (options : MaskOptions)
  | maskRow (table : String) (row : Row) (ctx : Context) (options : MaskOptions)
  | maskRowInstalled (slot : Option Request) (table : String) (row : Row) (options : MaskOptions)

/-- What a call brings back. -/
inductive Answer (τ : Type) where
  | decision (r : Except AccessError Decision)
  | filters (r : Except FilterFailure FilterResult)
  | query (r : Except AccessError Query)
  | ran (r : Except AccessError τ)
  | rows (r : Except AccessError (List MaskedRow))
  | masked (r : Except AccessError MaskedRow)

/-- The call with its answer and the state it leaves behind. -/
def Call.perform (e : Engine) (state : σ) : Call σ τ → Report (Answer τ × σ)
  | .evaluate table op ctx =>
    (e.evaluator.evaluate table op ctx).map fun d => (.decision (.ok d), state)
  | .evaluateInstalled slot table op row =>
    (e.evaluateInstalled slot table op row).map fun r => (.decision r, state)
  | .filters table op ctx => (e.evaluator.filters table op ctx).map fun r => (.filters r, state)
  | .transform query table ctx =>
    (e.evaluator.transform query table ctx).map fun r => (.query r, state)
  | .guardWrite table op existing data ctx =>
    (e.guardWrite table op existing data ctx).map fun r => (.decision r, state)
  | .runGuarded table op existing data ctx mutation =>
    (e.runGuarded table op existing data ctx mutation state).map fun r => (.ran r.1, r.2)
  | .readRows table rows ctx options =>
    (e.readRows table rows ctx options).map fun r => (.rows r, state)
  | .maskRow table row ctx options =>
    (e.fields.maskRow table row ctx options).map fun r => (.masked (.ok r), state)
  | .maskRowInstalled slot table row options =>
    (e.maskRowInstalled slot table row options).map fun r => (.masked r, state)

/-- A fixed clock stays; the clock of the host shows the time that it is. -/
def Clock.showing : Clock → Instant → Clock
  | .fixed t, _ => .fixed t
  | .host _, now => .host now

namespace Engine

/-- The engine at some time. -/
def showing (e : Engine) (now : Instant) : Engine :=
  { e with evaluator := { e.evaluator with clock := e.evaluator.clock.showing now } }

/-- The calls one after the other, each at its own time. -/
def run (e : Engine) : List (Instant × Call σ τ) → σ → Report (List (Answer τ) × σ)
  | [], state => .pure ([], state)
  | (now, call) :: rest, state =>
    (call.perform (e.showing now) state).andThen fun r =>
      (e.run rest r.2).map fun rs => (r.1 :: rs.1, rs.2)

end Engine

/-! ## What is decided in a call -/

/-- An operation that is put to the decision. -/
structure Question where
  table : String
  operation : Operation
  ctx : Context

namespace Question

def put (q : Question) (e : Engine) : Report Decision :=
  e.evaluator.evaluate q.table q.operation q.ctx

/-- The audit record about the question when it is decided like this. -/
def record (q : Question) (d : Decision) : AuditRecord :=
  { allowed := d.allowed, operation := q.operation, table := q.table, policy := d.policy
    userId := q.ctx.caller.userId, tenantId := q.ctx.caller.tenantId, kind := d.kind
    reason := d.reason }

end Question

/-- The questions that a call puts, in order. -/
def Call.questions (e : Engine) : Call σ τ → List Question
  | .evaluate table op ctx => [⟨table, op, ctx⟩]
  | .evaluateInstalled slot table op row =>
    match e.installed? slot with
    | .ok r => [⟨table, op, { Context.ofRequest r table op with row }⟩]
    | .error _ => []
  | .transform _ table ctx => [⟨table, .read, ctx⟩]
  | .guardWrite table op existing data ctx =>
    [⟨table, op, Evaluator.writeContext ctx existing data⟩]
  | .runGuarded table op existing data ctx _ =>
    [⟨table, op, Evaluator.writeContext ctx existing data⟩]
  | .readRows table rows ctx _ =>
    match (e.evaluator.filters table .read ctx).result with
    | .ok r =>
      (rows.filter fun row => row.satisfies r.conditions).map fun row =>
        ⟨table, .read, ctx.withRow row⟩
    | .error _ => []
  | .filters .. => []
  | .maskRow .. => []
  | .maskRowInstalled .. => []

/-! ## Records of the parts -/

namespace FieldRegistry

variable (r : FieldRegistry) (table : String) (row : Row) (ctx : Context)

theorem records_maskRow (o : MaskOptions) : (r.maskRow table row ctx o).records = [] := rfl

theorem records_validate (existing : Option Row) :
    (r.validate table row ctx existing).records = [] := by
  unfold validate
  dsimp only
  split <;> rfl

end FieldRegistry

namespace Evaluator

variable (ev : Evaluator) (table : String) (op : Operation) (ctx : Context)

theorem records_filters : (ev.filters table op ctx).records = [] := by
  unfold filters filtersAt
  dsimp only
  split <;> rfl

theorem records_validate : (ev.validate table op ctx).records = [] := by
  unfold validate validateAt
  split
  · dsimp only
    split
    · rfl
    · split <;> rfl
  · rfl

theorem records_restricted (q : Query) (r : FilterResult) :
    (restricted q table r).records = [] := by
  unfold restricted
  split <;> rfl

/-- What happens after the decision about the read is not audited. -/
theorem records_transform (q : Query) :
    (ev.transform q table ctx).records = (ev.evaluate table .read ctx).records := by
  unfold transform
  rw [Report.records_andThen]
  split
  · rw [Report.records_andThen, records_filters]
    split
    · rw [Report.records_pure, List.append_nil, List.append_nil]
    · rw [records_restricted, List.append_nil, List.append_nil]
  · rw [Report.records_pure, List.append_nil]

theorem records_guard (existing data : Option Row) :
    (ev.guard table op existing data ctx).records =
      (ev.evaluate table op (writeContext ctx existing data)).records := by
  unfold guard
  rw [Report.records_andThen]
  split
  · rw [Report.records_map, records_validate, List.append_nil]
  · rw [Report.records_noting, List.append_nil]

end Evaluator

namespace Engine

variable (e : Engine) (table : String) (op : Operation) (ctx : Context)

theorem records_guardWrite (existing data : Option Row) :
    (e.guardWrite table op existing data ctx).records =
      (e.evaluator.evaluate table op (Evaluator.writeContext ctx existing data)).records := by
  unfold guardWrite
  rw [Report.records_andThen, Evaluator.records_guard]
  split
  · split
    · rw [Report.records_map, FieldRegistry.records_validate, List.append_nil]
    · rw [Report.records_pure, List.append_nil]
  · rw [Report.records_pure, List.append_nil]

theorem records_readRow (o : MaskOptions) (row : Row) :
    (e.readRow table ctx o row).records =
      (e.evaluator.evaluate table .read (ctx.withRow row)).records := by
  unfold readRow
  rw [Report.records_andThen]
  split
  · rw [Report.records_map, FieldRegistry.records_maskRow, List.append_nil]
  · rw [Report.records_pure, List.append_nil]

end Engine

/-! ## One call -/

theorem Call.records_perform (e : Engine) (state : σ) (c : Call σ τ) :
    (c.perform e state).records = (c.questions e).flatMap fun q => (q.put e).records := by
  cases c with
  | evaluate table op ctx => simp [perform, questions, Question.put]
  | evaluateInstalled slot table op row =>
      rw [perform, questions, Engine.evaluateInstalled]
      cases e.installed? slot with
      | error err => rfl
      | ok r => simp [Question.put]
  | filters table op ctx => exact Evaluator.records_filters _ table op ctx
  | transform query table ctx =>
      simp [perform, questions, Question.put, Evaluator.records_transform]
  | guardWrite table op existing data ctx =>
      simp [perform, questions, Question.put, Engine.records_guardWrite]
  | runGuarded table op existing data ctx mutation =>
      simp [perform, questions, Question.put, Engine.runGuarded, runIfPassed,
        Engine.records_guardWrite]
  | readRows table rows ctx options =>
      rw [perform, questions, Engine.readRows, Report.records_map, Report.records_andThen,
        Evaluator.records_filters, List.nil_append]
      cases (e.evaluator.filters table .read ctx).result with
      | error failure => rfl
      | ok r =>
          simp [Question.put, Engine.records_readRow, List.flatMap_map]
  | maskRow table row ctx options => rfl
  | maskRowInstalled slot table row options =>
      rw [perform, questions, Engine.maskRowInstalled]
      cases e.installed? slot <;> rfl

/-! ## Answered decisions -/

/-- A write passes with the decision that was made about it. -/
theorem Engine.evaluate_of_guardWrite {e : Engine} {table : String} {op : Operation}
    {existing data : Option Row} {ctx : Context} {d : Decision}
    (h : (e.guardWrite table op existing data ctx).result = .ok d) :
    (e.evaluator.evaluate table op (Evaluator.writeContext ctx existing data)).result = d := by
  unfold guardWrite at h
  rw [Report.result_andThen] at h
  cases hguard : (e.evaluator.guard table op existing data ctx).result with
  | error err =>
      rw [hguard] at h
      cases h
  | ok d' =>
      have hd' := (Evaluator.guard_ok_iff.mp hguard).1
      rw [hguard] at h
      cases data with
      | none => exact hd'.trans (Except.ok.inj h)
      | some payload =>
          dsimp only at h
          split at h
          · rw [Report.result_map] at h
            split at h
            · cases h
            · exact hd'.trans (Except.ok.inj h)
          · exact hd'.trans (Except.ok.inj h)

/-- A decision that a call answers is about its one question. -/
theorem Call.questions_of_decision {e : Engine} {state : σ} {c : Call σ τ} {d : Decision}
    (h : (c.perform e state).result.1 = .decision (.ok d)) :
    ∃ q, c.questions e = [q] ∧ (q.put e).result = d := by
  cases c with
  | evaluate table op ctx => exact ⟨_, rfl, Except.ok.inj (Answer.decision.inj h)⟩
  | evaluateInstalled slot table op row =>
      rw [perform, Engine.evaluateInstalled] at h
      rw [questions]
      cases hinstalled : e.installed? slot with
      | error err =>
          rw [hinstalled] at h
          cases h
      | ok r =>
          rw [hinstalled] at h
          exact ⟨_, rfl, Except.ok.inj (Answer.decision.inj h)⟩
  | guardWrite table op existing data ctx =>
      exact ⟨_, rfl, Engine.evaluate_of_guardWrite (Answer.decision.inj h)⟩
  | filters table op ctx => cases h
  | transform query table ctx => cases h
  | runGuarded table op existing data ctx mutation => cases h
  | readRows table rows ctx options => cases h
  | maskRow table row ctx options => cases h
  | maskRowInstalled slot table row options => cases h

/-! ## Loggers -/

namespace Question

variable (q : Question) {e : Engine}

theorem records_put_of_recording (h : e.evaluator.audit = some .recording) :
    (q.put e).records = [q.record (q.put e).result] := by
  unfold put Evaluator.evaluate Evaluator.evaluateAt Evaluator.auditNotes
  rw [h]
  rfl

theorem records_put_of_none (h : e.evaluator.audit = none) : (q.put e).records = [] := by
  unfold put Evaluator.evaluate Evaluator.evaluateAt Evaluator.auditNotes
  rw [h]

end Question

/-- The engine with another logger, or without one. -/
def Engine.withLogger (e : Engine) (logger : Option AuditLogger) : Engine :=
  { e with evaluator := { e.evaluator with audit := logger } }

theorem Call.result_perform_withLogger (e : Engine) (logger : Option AuditLogger) (state : σ)
    (c : Call σ τ) :
    (c.perform (e.withLogger logger) state).result = (c.perform e state).result := by
  cases c with
  | evaluate table op ctx => rfl
  | evaluateInstalled slot table op row =>
      have hinstalled : (e.withLogger logger).installed? slot = e.installed? slot := rfl
      rw [perform, perform, Engine.evaluateInstalled, Engine.evaluateInstalled, hinstalled]
      cases e.installed? slot <;> rfl
  | filters table op ctx => rfl
  | transform query table ctx => rfl
  | guardWrite table op existing data ctx => rfl
  | runGuarded table op existing data ctx mutation => rfl
  | readRows table rows ctx options =>
      have hfilters : (e.withLogger logger).evaluator.filters table .read ctx =
          e.evaluator.filters table .read ctx := rfl
      have hread : ∀ row, ((e.withLogger logger).readRow table ctx options row).result =
          (e.readRow table ctx options row).result := fun row => rfl
      rw [perform, perform, Engine.readRows, Engine.readRows, hfilters]
      simp only [Report.result_map, Report.result_andThen]
      cases (e.evaluator.filters table .read ctx).result with
      | error failure => rfl
      | ok r => simp only [Report.result_andThen, Report.result_forEach, hread]
  | maskRow table row ctx options => rfl
  | maskRowInstalled slot table row options => rfl

/-! ## Runs -/

namespace Engine

/-- The records of a run, call by call and question by question. -/
theorem records_run (e : Engine) (calls : List (Instant × Call σ τ)) (state : σ) :
    (e.run calls state).records = calls.flatMap fun c =>
      (c.2.questions (e.showing c.1)).flatMap fun q => (q.put (e.showing c.1)).records := by
  induction calls generalizing state with
  | nil => rfl
  | cons c rest ih =>
      rw [run, Report.records_andThen, Report.records_map, Call.records_perform, ih,
        List.flatMap_cons]

theorem records_run_of_recording {e : Engine} (h : e.evaluator.audit = some .recording)
    (calls : List (Instant × Call σ τ)) (state : σ) :
    (e.run calls state).records = calls.flatMap fun c =>
      (c.2.questions (e.showing c.1)).map fun q =>
        q.record (q.put (e.showing c.1)).result := by
  rw [records_run]
  refine List.flatMap_congr fun c _ => ?_
  have haudit : (e.showing c.1).evaluator.audit = some .recording := h
  simp only [Question.records_put_of_recording _ haudit, List.map_eq_flatMap]

theorem records_run_of_none {e : Engine} (h : e.evaluator.audit = none)
    (calls : List (Instant × Call σ τ)) (state : σ) : (e.run calls state).records = [] := by
  rw [records_run, List.flatMap_eq_nil_iff]
  intro c _
  have haudit : (e.showing c.1).evaluator.audit = none := h
  exact List.flatMap_eq_nil_iff.mpr fun q _ => q.records_put_of_none haudit

theorem result_run_withLogger (e : Engine) (logger : Option AuditLogger)
    (calls : List (Instant × Call σ τ)) (state : σ) :
    ((e.withLogger logger).run calls state).result = (e.run calls state).result := by
  induction calls generalizing state with
  | nil => rfl
  | cons c rest ih =>
      have hcall := Call.result_perform_withLogger (e.showing c.1) logger state c.2
      have hshowing : (e.withLogger logger).showing c.1 = (e.showing c.1).withLogger logger := rfl
      rw [run, run, Report.result_andThen, Report.result_andThen, Report.result_map,
        Report.result_map, hshowing, hcall, ih]

/-- The audit trail of a run on an engine that was built with a recording logger: for every call
in order, and for every question of the call in order, the record of what was asked, for whom, and
how it was decided. A call that answers a decision has put one question, and that is how it was
decided. If the audit is switched off, nothing is recorded. Another logger in its place, also one
that crashes on every record, makes an engine on which the run gives the same answers and leaves
the same state. -/
theorem audit_of_run {p : EngineParts} {e : Engine} (hbuilt : p.build = .ok e)
    (calls : List (Instant × Call σ τ)) (state : σ) :
    (p.settings.audit.enabled = true → p.audit = some .recording →
      (e.run calls state).records = calls.flatMap fun c =>
        (c.2.questions (e.showing c.1)).map fun q =>
          q.record (q.put (e.showing c.1)).result) ∧
    (∀ c ∈ calls, ∀ state d,
      (c.2.perform (e.showing c.1) state).result.1 = .decision (.ok d) →
        ∃ q, c.2.questions (e.showing c.1) = [q] ∧ (q.put (e.showing c.1)).result = d) ∧
    (p.settings.audit.enabled = false → (e.run calls state).records = []) ∧
    ∀ logger, ∃ e', EngineParts.build { p with audit := logger } = .ok e' ∧
      (e'.run calls state).result = (e.run calls state).result := by
  obtain ⟨hfault, registry, fields, hrows, hcolumns, rfl⟩ := EngineParts.build_ok_iff.mp hbuilt
  refine ⟨fun henabled hrecording => ?_, fun c _ state d => Call.questions_of_decision,
    fun hdisabled => ?_, fun logger => ?_⟩
  · have haudit : p.logger? = some .recording := by
      unfold EngineParts.logger?
      rw [henabled, hrecording]
      rfl
    exact records_run_of_recording haudit calls state
  · have haudit : p.logger? = none := by
      unfold EngineParts.logger?
      rw [hdisabled]
      rfl
    exact records_run_of_none haudit calls state
  · have hbuilt' : EngineParts.build { p with audit := logger } =
        .ok (EngineParts.assemble { p with audit := logger } registry fields) :=
      EngineParts.build_ok_iff.mpr ⟨hfault, registry, fields, hrows, hcolumns, rfl⟩
    exact ⟨_, hbuilt', result_run_withLogger (p.assemble registry fields) _ calls state⟩

/-! ### A day at the office -/

def officePolicy (name : String) (operations : List Operation) (body : PolicyBody) : Policy :=
  { name, operations, priority := 0, body, activation := none, hints := none }

/-- Closed from six; tenants see their own documents, and updates need a title. -/
def officeRules : TableRules :=
  { policies :=
      [{ officePolicy "open" [.all] (.allow fun _ => .value true) with
         activation := some fun m => .ok (m.hour < 18) },
       officePolicy "tenant" [.read] (.filter fun _ =>
        .value (Row.ofEntries [("tenant", .string "a")])),
       officePolicy "titled" [.update] (.validate fun ctx =>
        .value (ctx.dataValue? "title").isSome)]
    defaultDeny := true, exempt := KeyMap.empty }

def officeParts : EngineParts :=
  { settings := Settings.default, schema := [("docs", officeRules)], fieldSchema := []
    clock := .host default, audit := some .recording }

def officeEngine : Engine :=
  officeParts.assemble (KeyMap.empty.insert "docs" (officeRules.compiled "docs")) KeyMap.empty

def officeRows : List Row :=
  [Row.ofEntries [("tenant", .string "a")], Row.ofEntries [("tenant", .string "b")],
   Row.ofEntries [("tenant", .string "a")]]

/-- Four calls at nine and two at eight in the evening. -/
def officeCalls : List (Instant × Call Nat Unit) :=
  let morning : Instant := ⟨0, 32400, 0⟩
  let evening : Instant := ⟨0, 72000, 0⟩
  [(morning, .filters "docs" .read default),
   (morning, .readRows "docs" officeRows default .keepAll),
   (morning, .evaluateInstalled none "docs" .read none),
   (morning, .runGuarded "docs" .update none (some Row.empty) default fun n => ((), n + 1)),
   (evening, .runGuarded "docs" .delete none none default fun n => ((), n + 1)),
   (evening, .evaluate "logs" .read default)]

/-- The read of three rows leaves two records, the call without a request none, and the update
that fails validation is recorded as allowed. -/
theorem audit_of_run_office :
    officeParts.build = .ok officeEngine ∧
    (officeEngine.run officeCalls 0).records.map (fun r => (r.operation, r.allowed, r.policy)) =
      [(.read, true, some "open"), (.read, true, some "open"), (.update, true, some "open"),
       (.delete, false, none), (.read, true, none)] ∧
    ∃ e', EngineParts.build { officeParts with audit := some .crashing } = .ok e' ∧
      (e'.run officeCalls 0).result = (officeEngine.run officeCalls 0).result := by
  have hbuilt : officeParts.build = .ok officeEngine := rfl
  obtain ⟨hrecords, -, -, hlogger⟩ := audit_of_run hbuilt officeCalls 0
  refine ⟨hbuilt, ?_, hlogger (some .crashing)⟩
  rw [hrecords rfl rfl]
  rfl

end Engine

end RowAccess
