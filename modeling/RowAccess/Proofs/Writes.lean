import Mathlib.Logic.Basic
import RowAccess.Engine

/-!
# Which writes pass their checks

A write passes the guard of the rows, then the check of its columns. The
guard looks at the row and the payload given with the write and, where
one is missing, at the one the context holds. The check of the columns
falls back on the context for the row as well, but not for the payload:
it runs only if a payload is given.

`guardWrite_ok_iff` is the condition under which a write passes, and
`guardWrite_escapes_iff` says which of the passing writes carry a column
that the caller may not set.
-/

namespace RowAccess

namespace FieldRegistry

variable {r : FieldRegistry} {table : String} {payload : Row} {ctx : Context}
  {existing : Option Row}

/-! ## The columns of a payload -/

/-- The caller may set every column of a payload, beside the existing row. -/
def Opens (r : FieldRegistry) (table : String) (payload : Row) (ctx : Context)
    (existing : Option Row) : Prop :=
  ∀ name ∈ payload.keys,
    (r.canWrite table name { ctx with data := some payload } existing).result = true

def closed? (r : FieldRegistry) (table : String) (payload : Row) (ctx : Context)
    (existing : Option Row) : Option String :=
  payload.keys.find? fun name =>
    !(r.canWrite table name { ctx with data := some payload } existing).result

theorem closed?_eq_none_iff :
    r.closed? table payload ctx existing = none ↔ r.Opens table payload ctx existing := by
  simp [closed?, Opens]

def refusal (table name : String) (op : Operation) : AccessDenied :=
  { table, operation := op, policy := none, field := some name
    reason := "field '" ++ name ++ "' is not writable", trace := [] }

theorem result_validate :
    (r.validate table payload ctx existing).result =
      match r.closed? table payload ctx existing with
      | none => .ok ()
      | some name =>
        .error (refusal table name (writeContext table ctx existing (some payload)).operation) := by
  unfold validate
  change Report.result (match r.closed? table payload ctx existing with
    | none => _
    | some name => _) = _
  cases r.closed? table payload ctx existing with
  | none => rfl
  | some name => rfl

/-- It makes no difference whether the row of the context stands in for a missing one before
the check or in it. -/
theorem canWrite_row_or (ctx : Context) (name : String) :
    (r.canWrite table name ctx (existing <|> ctx.row)).result =
      (r.canWrite table name ctx existing).result := by
  have hctx : writeContext table ctx (existing <|> ctx.row) ctx.data =
      writeContext table ctx existing ctx.data := by
    unfold writeContext
    cases existing <;> cases ctx.row <;> rfl
  unfold canWrite
  rw [hctx]

theorem opens_row_or (ctx : Context) :
    r.Opens table payload ctx (existing <|> ctx.row) ↔ r.Opens table payload ctx existing := by
  refine forall₂_congr fun name _ => iff_of_eq (congrArg (· = true) ?_)
  exact canWrite_row_or { ctx with data := some payload } name

end FieldRegistry

namespace Engine

variable {e : Engine} {table : String} {op : Operation} {existing data : Option Row}
  {ctx : Context} {d : Decision}

/-! ## Writes -/

/-- The caller may set every column of the payload that the guard sees, beside the row that it
sees. -/
def OpensWrite (e : Engine) (table : String) (op : Operation) (existing data : Option Row)
    (ctx : Context) : Prop :=
  let seen := Evaluator.writeContext ctx existing data
  ∀ payload, seen.data = some payload →
    e.fields.Opens table payload { ctx with operation := op } seen.row

theorem opensWrite_some {payload : Row} :
    e.OpensWrite table op existing (some payload) ctx ↔
      e.fields.Opens table payload { ctx with operation := op } existing := by
  rw [← FieldRegistry.opens_row_or { ctx with operation := op }]
  constructor
  · intro h
    exact h payload rfl
  · rintro h _ ⟨⟩
    exact h

theorem opensWrite_none :
    e.OpensWrite table op existing none ctx ↔
      ∀ payload, ctx.data = some payload →
        e.fields.Opens table payload { ctx with operation := op } existing :=
  forall₂_congr fun _ _ => FieldRegistry.opens_row_or { ctx with operation := op }

theorem guardWrite_error {err : AccessError}
    (h : (e.evaluator.guard table op existing data ctx).result = .error err) :
    (e.guardWrite table op existing data ctx).result = .error err := by
  unfold guardWrite
  rw [Report.result_andThen, h]
  rfl

/-- Without a payload of its own, a write passes as the guard says. -/
theorem guardWrite_none :
    (e.guardWrite table op existing none ctx).result =
      (e.evaluator.guard table op existing none ctx).result := by
  unfold guardWrite
  rw [Report.result_andThen]
  cases (e.evaluator.guard table op existing none ctx).result with
  | error err => rfl
  | ok d => rfl

/-- Behind the guard, a write with a payload passes, or is refused for the first column that
the caller may not set. -/
theorem guardWrite_some {payload : Row} (hop : op.carriesPayload = true)
    (h : (e.evaluator.guard table op existing (some payload) ctx).result = .ok d) :
    (e.guardWrite table op existing (some payload) ctx).result =
      match e.fields.closed? table payload { ctx with operation := op } existing with
      | none => .ok d
      | some name => .error (.denied (FieldRegistry.refusal table name op)) := by
  have hwrite : op.isWrite = true := by cases op <;> first | rfl | cases hop
  unfold guardWrite
  rw [Report.result_andThen, h]
  simp only [hop, if_true, Report.result_map, FieldRegistry.result_validate,
    FieldRegistry.writeContext, hwrite]
  cases e.fields.closed? table payload { ctx with operation := op } existing with
  | none => rfl
  | some name => rfl

theorem guardWrite_ok_iff (hop : op.carriesPayload = true) :
    (e.guardWrite table op existing data ctx).result = .ok d ↔
      (e.evaluator.guard table op existing data ctx).result = .ok d ∧
        (data = none ∨ e.OpensWrite table op existing data ctx) := by
  cases data with
  | none => simp [guardWrite_none]
  | some payload =>
      rw [opensWrite_some, ← FieldRegistry.closed?_eq_none_iff]
      cases hguard : (e.evaluator.guard table op existing (some payload) ctx).result with
      | error err => simp [guardWrite_error hguard]
      | ok d' =>
          rw [guardWrite_some hop hguard]
          cases e.fields.closed? table payload { ctx with operation := op } existing with
          | none => simp
          | some name => simp

theorem guardWrite_escapes_iff (hop : op.carriesPayload = true) :
    (∃ d, (e.guardWrite table op existing data ctx).result = .ok d) ∧
        ¬ e.OpensWrite table op existing data ctx ↔
      data = none ∧ (∃ d, (e.evaluator.guard table op existing none ctx).result = .ok d) ∧
        ∃ payload, ctx.data = some payload ∧ ∃ name ∈ payload.keys,
          (e.fields.canWrite table name { ctx with operation := op, data := some payload }
            existing).result = false := by
  constructor
  · rintro ⟨⟨d, hd⟩, hclosed⟩
    obtain ⟨hguard, rfl | hopen⟩ := (guardWrite_ok_iff hop).mp hd
    · rw [opensWrite_none] at hclosed
      simp only [FieldRegistry.Opens, not_forall, Bool.not_eq_true] at hclosed
      obtain ⟨payload, hpayload, name, hname, hset⟩ := hclosed
      exact ⟨rfl, ⟨d, hguard⟩, payload, hpayload, name, hname, hset⟩
    · exact absurd hopen hclosed
  · rintro ⟨rfl, ⟨d, hguard⟩, payload, hpayload, name, hname, hset⟩
    refine ⟨⟨d, guardWrite_none.trans hguard⟩, fun hopen => ?_⟩
    have hopens := opensWrite_none.mp hopen payload hpayload name hname
    rw [hset] at hopens
    cases hopens

/-- A create or update against the payload that the guard sees. It passes if the guard lets it
pass and, where it brings a payload, the caller may set every column of that one. What the
caller may not set passes exactly where the payload is left to the context. -/
theorem guardWrite_columns (e : Engine) (table : String) {op : Operation}
    (hop : op.carriesPayload = true) (existing data : Option Row) (ctx : Context) :
    let written := (e.guardWrite table op existing data ctx).result
    (∀ d, written = .ok d ↔
      (e.evaluator.guard table op existing data ctx).result = .ok d ∧
        (data = none ∨ e.OpensWrite table op existing data ctx)) ∧
    ((∃ d, written = .ok d) ∧ ¬ e.OpensWrite table op existing data ctx ↔
      data = none ∧ (∃ d, (e.evaluator.guard table op existing none ctx).result = .ok d) ∧
        ∃ payload, ctx.data = some payload ∧ ∃ name ∈ payload.keys,
          (e.fields.canWrite table name { ctx with operation := op, data := some payload }
            existing).result = false) :=
  ⟨fun _ => guardWrite_ok_iff hop, guardWrite_escapes_iff hop⟩

/-! ### A closed column -/

/-- Anyone may write documents, but not their secrets. -/
def secretRules : FieldTableRules :=
  { default := .allow, exempt := KeyMap.empty, fields := [("secret", .neverAccessible)] }

def secretParts : EngineParts :=
  { settings := Settings.default, schema := [], fieldSchema := [("docs", secretRules)]
    clock := .fixed default, audit := none }

def secretEngine : Engine :=
  secretParts.assemble KeyMap.empty (KeyMap.empty.insert "docs"
    { name := "docs", default := secretRules.default, exempt := secretRules.exempt
      fields := secretRules.fields, index := KeyMap.empty.insert "secret" 0 })

def titleRow : Row := Row.ofEntries [("title", .string "t")]

def secretRow : Row := Row.ofEntries [("secret", .string "s")]

/-- The secret is refused as the payload of an update, but passes as that of the context. -/
theorem guardWrite_secret_escapes :
    let ctx : Context := { (default : Context) with data := some secretRow }
    secretParts.build = .ok secretEngine ∧
    (secretEngine.guardWrite "docs" .update none (some secretRow) ctx).result =
      .error (.denied (FieldRegistry.refusal "docs" "secret" .update)) ∧
    (∃ d, (secretEngine.guardWrite "docs" .update none none ctx).result = .ok d) ∧
    ¬ secretEngine.OpensWrite "docs" .update none none ctx := by
  refine ⟨rfl, rfl, ⟨_, rfl⟩, fun hopens => ?_⟩
  have hset := hopens secretRow rfl "secret" (by decide)
  cases hset

/-- An update of the title passes, and sets only what it may. -/
theorem guardWrite_columns_title :
    secretParts.build = .ok secretEngine ∧ Operation.update.carriesPayload = true ∧
    (∃ d, (secretEngine.guardWrite "docs" .update none (some titleRow) default).result = .ok d) ∧
    secretEngine.OpensWrite "docs" .update none (some titleRow) default := by
  have hop : Operation.update.carriesPayload = true := rfl
  obtain ⟨d, hd⟩ : ∃ d, (secretEngine.guardWrite "docs" .update none (some titleRow)
    default).result = .ok d := ⟨_, rfl⟩
  obtain ⟨hpasses, -⟩ := guardWrite_columns secretEngine "docs" hop none (some titleRow) default
  refine ⟨rfl, hop, ⟨d, hd⟩, ?_⟩
  rcases ((hpasses d).mp hd).2 with hnone | hopens
  · cases hnone
  · exact hopens

end Engine

end RowAccess
