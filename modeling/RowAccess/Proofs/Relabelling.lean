import RowAccess.Proofs.AuditTrail

/-!
# What a context says about its call

A context names a table and an operation, and so does every call that it
is handed to. The call has the last word: each entry point puts its own
table and operation in place of those of the context before a policy, a
filter or the check of a column gets to see them. Nobody steers a policy
by what the context pretends to be about.

`Context.Relabelled` relates contexts that differ in these two fields at
most. `answers_relabelled` takes the entry points one by one, and
`run_relabelled` a run of calls each of which may pretend something else.
Only the check of a single column to be written looks at the operation
that a context came with; the guard of a write fills it in first
(`guardWrite_relabelled`).
-/

namespace RowAccess

/-- The same request, row and payload, perhaps under another table and operation. -/
structure Context.Relabelled (ctx ctx' : Context) : Prop where
  caller : ctx.caller = ctx'.caller
  row : ctx.row = ctx'.row
  data : ctx.data = ctx'.data
  attached : ctx.attached = ctx'.attached

namespace Context.Relabelled

variable {ctx ctx' : Context} (h : ctx.Relabelled ctx')

include h

theorem about_eq (table : String) (op : Operation) : ctx.about table op = ctx'.about table op := by
  unfold about
  rw [h.caller, h.row, h.data, h.attached]

theorem withRow (row : Row) : (ctx.withRow row).Relabelled (ctx'.withRow row) :=
  ⟨h.caller, rfl, h.data, h.attached⟩

theorem writeContext (existing data : Option Row) :
    (Evaluator.writeContext ctx existing data).Relabelled
      (Evaluator.writeContext ctx' existing data) where
  caller := h.caller
  row := congrArg (existing <|> ·) h.row
  data := congrArg (data <|> ·) h.data
  attached := h.attached

theorem readContext_eq (table : String) (row : Option Row) :
    FieldRegistry.readContext table ctx row = FieldRegistry.readContext table ctx' row := by
  unfold FieldRegistry.readContext
  rw [h.caller, h.row, h.data, h.attached]

/-- A check of a column to be written sees the operation of the context, so here it counts. -/
theorem writeContext_eq (hop : ctx.operation = ctx'.operation) (table : String)
    (row data : Option Row) :
    FieldRegistry.writeContext table ctx row data =
      FieldRegistry.writeContext table ctx' row data := by
  unfold FieldRegistry.writeContext
  rw [h.caller, h.row, h.attached, hop]

end Context.Relabelled

/-! ## Entry points -/

namespace Evaluator

variable {ev : Evaluator} {ctx ctx' : Context} (h : ctx.Relabelled ctx') (table : String)
  (op : Operation)

include h

theorem evaluateAt_relabelled (m : Moment) :
    ev.evaluateAt table op ctx m = ev.evaluateAt table op ctx' m := by
  unfold evaluateAt
  rw [h.about_eq]

theorem filtersAt_relabelled (m : Moment) :
    ev.filtersAt table op ctx m = ev.filtersAt table op ctx' m := by
  unfold filtersAt
  rw [h.about_eq]

theorem validateAt_relabelled (m : Moment) :
    ev.validateAt table op ctx m = ev.validateAt table op ctx' m := by
  unfold validateAt
  rw [h.about_eq]

theorem transform_relabelled (q : Query) :
    ev.transform q table ctx = ev.transform q table ctx' := by
  unfold transform evaluate filters
  rw [evaluateAt_relabelled h, filtersAt_relabelled h]

theorem guard_relabelled (existing data : Option Row) :
    ev.guard table op existing data ctx = ev.guard table op existing data ctx' := by
  have hseen := h.writeContext existing data
  unfold guard evaluate validate
  simp only [evaluateAt_relabelled hseen, validateAt_relabelled hseen]

end Evaluator

namespace FieldRegistry

variable {r : FieldRegistry} {ctx ctx' : Context} (h : ctx.Relabelled ctx') (table : String)

include h

theorem canRead_relabelled (name : String) (row : Option Row) :
    r.canRead table name ctx row = r.canRead table name ctx' row := by
  unfold canRead
  rw [h.caller, h.readContext_eq]

theorem maskRow_relabelled (row : Row) (o : MaskOptions) :
    r.maskRow table row ctx o = r.maskRow table row ctx' o := by
  unfold maskRow
  rw [h.caller, h.readContext_eq]

theorem validate_relabelled (hop : ctx.operation = ctx'.operation) (data : Row)
    (existing : Option Row) :
    r.validate table data ctx existing = r.validate table data ctx' existing := by
  unfold validate
  rw [h.caller, h.writeContext_eq hop]

end FieldRegistry

namespace Engine

variable {e : Engine} {ctx ctx' : Context} (h : ctx.Relabelled ctx') (table : String)

include h

theorem guardWrite_relabelled (op : Operation) (existing data : Option Row) :
    e.guardWrite table op existing data ctx = e.guardWrite table op existing data ctx' := by
  have hop : Context.Relabelled { ctx with operation := op } { ctx' with operation := op } :=
    ⟨h.caller, h.row, h.data, h.attached⟩
  unfold guardWrite
  simp only [Evaluator.guard_relabelled h, FieldRegistry.validate_relabelled hop table rfl]

theorem readRows_relabelled (rows : List Row) (o : MaskOptions) :
    e.readRows table rows ctx o = e.readRows table rows ctx' o := by
  have hrow : e.readRow table ctx o = e.readRow table ctx' o := by
    funext row
    unfold readRow Evaluator.evaluate
    rw [Evaluator.evaluateAt_relabelled (h.withRow row), FieldRegistry.maskRow_relabelled h]
  unfold readRows Evaluator.filters
  rw [Evaluator.filtersAt_relabelled h, hrow, h.caller]

end Engine

/-! ## Runs -/

variable {σ τ : Type}

namespace Call

/-- The call with its context changed, if it is handed one. -/
def relabel (f : Context → Context) : Call σ τ → Call σ τ
  | .evaluate table op ctx => .evaluate table op (f ctx)
  | .evaluateInstalled slot table op row => .evaluateInstalled slot table op row
  | .filters table op ctx => .filters table op (f ctx)
  | .transform query table ctx => .transform query table (f ctx)
  | .guardWrite table op existing data ctx => .guardWrite table op existing data (f ctx)
  | .runGuarded table op existing data ctx mutation =>
    .runGuarded table op existing data (f ctx) mutation
  | .readRows table rows ctx options => .readRows table rows (f ctx) options
  | .maskRow table row ctx options => .maskRow table row (f ctx) options
  | .maskRowInstalled slot table row options => .maskRowInstalled slot table row options

/-- The same call, perhaps with another table and operation in its context. -/
def Relabelled (c c' : Call σ τ) : Prop :=
  ∃ f : Context → Context, (∀ ctx : Context, ctx.Relabelled (f ctx)) ∧ c' = c.relabel f

theorem perform_relabelled {c c' : Call σ τ} (h : c.Relabelled c') (e : Engine) (state : σ) :
    c.perform e state = c'.perform e state := by
  obtain ⟨f, hf, rfl⟩ := h
  cases c with
  | evaluate table op ctx =>
      rw [relabel, perform, perform, Evaluator.evaluate, Evaluator.evaluate,
        Evaluator.evaluateAt_relabelled (hf ctx)]
  | evaluateInstalled slot table op row => rfl
  | filters table op ctx =>
      rw [relabel, perform, perform, Evaluator.filters, Evaluator.filters,
        Evaluator.filtersAt_relabelled (hf ctx)]
  | transform query table ctx =>
      rw [relabel, perform, perform, Evaluator.transform_relabelled (hf ctx)]
  | guardWrite table op existing data ctx =>
      rw [relabel, perform, perform, Engine.guardWrite_relabelled (hf ctx)]
  | runGuarded table op existing data ctx mutation =>
      rw [relabel, perform, perform, Engine.runGuarded, Engine.runGuarded,
        Engine.guardWrite_relabelled (hf ctx)]
  | readRows table rows ctx options =>
      rw [relabel, perform, perform, Engine.readRows_relabelled (hf ctx)]
  | maskRow table row ctx options =>
      rw [relabel, perform, perform, FieldRegistry.maskRow_relabelled (hf ctx)]
  | maskRowInstalled slot table row options => rfl

end Call

namespace Engine

/-- What the contexts of a run pretend to be about leaves no trace, neither in an answer nor in
the state, the log or the audit. -/
theorem run_relabelled {calls calls' : List (Instant × Call σ τ)}
    (h : List.Forall₂ (fun c c' => c.1 = c'.1 ∧ c.2.Relabelled c'.2) calls calls') (e : Engine)
    (state : σ) : e.run calls state = e.run calls' state := by
  induction h generalizing state with
  | nil => rfl
  | @cons c c' rest rest' hcall hrest ih =>
      obtain ⟨now, call⟩ := c
      obtain ⟨now', call'⟩ := c'
      obtain ⟨rfl, hsame⟩ := hcall
      rw [run, run, Call.perform_relabelled hsame]
      simp only [ih]

/-- Two contexts with the same caller, row, payload and attached data, whatever table and
operation each of them names, make no difference to any entry point that is told a table, at
whatever moment: the whole report is the same, that is the answer, the lines of the log and the
audit records. -/
theorem answers_relabelled (e : Engine) (table : String) (op : Operation) {ctx ctx' : Context}
    (h : ctx.Relabelled ctx') :
    let ev := e.evaluator
    (∀ m, ev.evaluateAt table op ctx m = ev.evaluateAt table op ctx' m) ∧
    (∀ m, ev.filtersAt table op ctx m = ev.filtersAt table op ctx' m) ∧
    (∀ m, ev.validateAt table op ctx m = ev.validateAt table op ctx' m) ∧
    (∀ q, ev.transform q table ctx = ev.transform q table ctx') ∧
    (∀ existing data,
      e.guardWrite table op existing data ctx = e.guardWrite table op existing data ctx') ∧
    (∀ rows o, e.readRows table rows ctx o = e.readRows table rows ctx' o) ∧
    (∀ row o, e.fields.maskRow table row ctx o = e.fields.maskRow table row ctx' o) ∧
    ∀ name row, e.fields.canRead table name ctx row = e.fields.canRead table name ctx' row :=
  ⟨Evaluator.evaluateAt_relabelled h table op, Evaluator.filtersAt_relabelled h table op,
    Evaluator.validateAt_relabelled h table op, Evaluator.transform_relabelled h table,
    guardWrite_relabelled h table op, readRows_relabelled h table,
    FieldRegistry.maskRow_relabelled h table, FieldRegistry.canRead_relabelled h table⟩

/-! ### A context that asks for the lobby -/

/-- Only reads of `docs` are let in, and only rows that are filed under the table asked for. -/
def deskRules : TableRules :=
  let policy (name : String) (body : PolicyBody) : Policy :=
    { name, operations := [.all], priority := 0, body, activation := none, hints := none }
  { policies :=
      [policy "readers" (.allow fun ctx =>
        .value (ctx.table == "docs" && ctx.operation == .read)),
       policy "filed" (.filter fun ctx =>
        .value (Row.ofEntries [("file", .string ctx.table)]))]
    defaultDeny := true, exempt := KeyMap.empty }

/-- The note is shown to readers and set in updates. -/
def deskColumns : FieldTableRules :=
  { default := .deny, exempt := KeyMap.empty
    fields :=
      [("file", .readOnly),
       ("note",
        { FieldRule.empty with
          read := some fun ctx => .ok (ctx.table == "docs" && ctx.operation == .read)
          write := some fun ctx => .ok (ctx.operation == .update) })] }

def deskParts : EngineParts :=
  { settings := Settings.default, schema := [("docs", deskRules)]
    fieldSchema := [("docs", deskColumns)], clock := .fixed default, audit := none }

def deskEngine : Engine :=
  deskParts.assemble (KeyMap.empty.insert "docs" (deskRules.compiled "docs"))
    (KeyMap.empty.insert "docs"
      { name := "docs", default := .deny, exempt := KeyMap.empty, fields := deskColumns.fields
        index := (KeyMap.empty.insert "file" 0).insert "note" 1 })

def deskRows : List Row :=
  [Row.ofEntries [("file", .string "docs"), ("note", .string "n")],
   Row.ofEntries [("file", .string "lobby")]]

/-- Asked about `docs`, the engine reads the rows of `docs` and refuses an update, though the
context is about updates of the lobby and every function of the rules would see the difference. -/
theorem answers_relabelled_desk :
    let ctx : Context := default
    let ctx' := ctx.about "lobby" .update
    deskParts.build = .ok deskEngine ∧ ctx.Relabelled ctx' ∧
    (deskEngine.readRows "docs" deskRows ctx' .keepAll).result =
      .ok [⟨Row.ofEntries [("file", .string "docs"), ("note", .string "n")], [], []⟩] ∧
    deskEngine.guardWrite "docs" .update none none ctx' =
      deskEngine.guardWrite "docs" .update none none ctx ∧
    (deskEngine.fields.canRead "docs" "note" ctx' none).result = true := by
  intro ctx ctx'
  have hsame : ctx.Relabelled ctx' := ⟨rfl, rfl, rfl, rfl⟩
  obtain ⟨-, -, -, -, hguard, hread, -, hcolumn⟩ :=
    answers_relabelled deskEngine "docs" .update hsame
  refine ⟨rfl, hsame, ?_, (hguard none none).symm, ?_⟩
  · rw [← hread]
    rfl
  · rw [← hcolumn]
    rfl

end Engine

end RowAccess
