import RowAccess.Proofs.Reads
import RowAccess.Proofs.Validation

/-!
# What the guard of a write answers

A guarded write is decided first and validated second, both on the row
and the payload that the write and its context bring together. Stated on
the policies that the caller faces, in the order they were declared in:
the guard lets pass what is allowed and refused by no validate policy
(`validateAt_error_iff` says which policy is named otherwise), and a
refused operation is a denial whatever validation would say.

A mutation behind a guard is applied once or not at all (`GatedBy`).
`guard_declared` puts the two together.
-/

namespace RowAccess

/-! ## Runs behind a check -/

/-- If the check passed, the mutation was applied to the state, once; else the run handed on the
error and left the state as it was. -/
structure GatedBy {α σ τ : Type} (check : Except AccessError α) (mutation : σ → τ × σ) (state : σ)
    (run : Except AccessError τ × σ) : Prop where
  passed : ∀ {a}, check = .ok a → run = (.ok (mutation state).1, (mutation state).2)
  stopped : ∀ {err}, check = .error err → run = (.error err, state)

theorem runIfPassed_gatedBy {α σ τ : Type} (mutation : σ → τ × σ) (state : σ)
    (check : Report (Except AccessError α)) :
    GatedBy check.result mutation state (runIfPassed mutation state check).result := by
  unfold runIfPassed
  rw [Report.result_map]
  constructor
  · intro a ha
    rw [ha]
  · intro err herr
    rw [herr]

namespace Evaluator

variable {ev : Evaluator} {s : Schema} {table : String} {op : Operation} {ctx : Context}
  {existing data : Option Row} {m : Moment}

/-! ## Validation of a schema -/

/-- A payload is turned down by the policy that comes first among those that the caller faces
and that refuse it, and the failure is the one this policy reports. -/
theorem validateAt_error_iff (hreg : Registry.ofSchema s = .ok ev.registry)
    {v : ValidationFailure} :
    (ev.validateAt table op ctx m).result = .error v ↔
      op.carriesPayload = true ∧
        ∃ i q, Policy.FirstAt (s.facing table ctx.caller) (·.Refuses (ctx.about table op) m) i q ∧
          q.failure? (ctx.about table op) m = some v := by
  cases hop : op.carriesPayload with
  | false => simp [validateAt, hop]
  | true =>
      rw [and_iff_right rfl]
      rcases enforced?_cases hreg (ctx.about table op) with
        ⟨hnone, hfacing⟩ | ⟨rules, hsome, hfacing⟩
      · have hnobody : s.facing table ctx.caller = [] := hfacing
        rw [validateAt_of_unenforced hnone, hnobody]
        constructor
        · intro h
          cases h
        · rintro ⟨_, _, hq, -⟩
          exact absurd hq.mem List.not_mem_nil
      · have hrules : s.facing table ctx.caller = rules.policies := hfacing
        have hcompiled : ev.enforced? (ctx.about table op) = some (rules.compiled table) := hsome
        rw [validateAt_of_enforced hop hcompiled, hrules, ← Table.rejection?_eq_some_iff table]
        cases (rules.compiled table).rejection? (ctx.about table op) m <;> simp

theorem validateAt_ok_iff_facing (hreg : Registry.ofSchema s = .ok ev.registry) :
    (ev.validateAt table op ctx m).result = .ok () ↔
      (op.carriesPayload = true →
        ∀ q ∈ s.facing table ctx.caller, ¬ q.Refuses (ctx.about table op) m) := by
  constructor
  · intro hok hop q hq hrefuses
    obtain ⟨i, r, hr⟩ : ∃ i r, Policy.FirstAt (s.facing table ctx.caller)
        (·.Refuses (ctx.about table op) m) i r :=
      Policy.exists_firstAt.mpr ⟨q, hq, hrefuses⟩
    obtain ⟨v, hv⟩ := Option.isSome_iff_exists.mp (Policy.failure?_isSome_iff.mpr hr.passes)
    rw [(validateAt_error_iff hreg).mpr ⟨hop, i, r, hr, hv⟩] at hok
    cases hok
  · intro hnone
    cases hresult : (ev.validateAt table op ctx m).result with
    | ok u => rfl
    | error v =>
        obtain ⟨hop, i, q, hq, -⟩ := (validateAt_error_iff hreg).mp hresult
        exact absurd hq.passes (hnone hop q hq.mem)

/-! ## The guard -/

theorem guard_of_denied
    (h : (ev.evaluate table op (writeContext ctx existing data)).result.allowed = false) :
    (ev.guard table op existing data ctx).result =
      .error (.denied
        ((ev.evaluate table op (writeContext ctx existing data)).result.toDenial table op)) := by
  unfold guard
  rw [Report.result_andThen, h, if_neg Bool.false_ne_true, Report.result_noting]

theorem guard_of_invalid {v : ValidationFailure}
    (h : (ev.evaluate table op (writeContext ctx existing data)).result.allowed = true)
    (hv : (ev.validate table op (writeContext ctx existing data)).result = .error v) :
    (ev.guard table op existing data ctx).result = .error (.invalid v) := by
  unfold guard
  rw [Report.result_andThen, h, if_pos rfl, Report.result_map, hv]

/-- The guard of a write against the declared policies that the caller faces, on the row and
payload that write and context bring together. It passes if the operation is allowed and, where
a payload is carried, no policy refuses it; a caller who is spared faces none. If the operation
is not allowed, the answer is the denial. If it is allowed and some policy refuses the payload,
the answer is the failure of the first in rank of these. A mutation behind the guard, of an
evaluator or of an engine, is applied once if the guard passes, and else not at all. -/
theorem guard_declared (hreg : Registry.ofSchema s = .ok ev.registry) (table : String)
    (op : Operation) (existing data : Option Row) (ctx : Context) :
    let seen := writeContext ctx existing data
    let d := (ev.evaluate table op seen).result
    let ps := s.facing table ctx.caller
    let Refuses := fun q : Policy => q.Refuses (seen.about table op) ev.moment
    let answer := (ev.guard table op existing data ctx).result
    (∀ d', answer = .ok d' ↔
      d' = d ∧ d.allowed = true ∧ (op.carriesPayload = true → ∀ q ∈ ps, ¬ Refuses q)) ∧
    (s.Spares table ctx.caller → ps = []) ∧
    (d.allowed = false → answer = .error (.denied (d.toDenial table op))) ∧
    (d.allowed = true → op.carriesPayload = true → (∃ q ∈ ps, Refuses q) →
      ∃ i q, Policy.FirstAt ps Refuses i q ∧ ∃ reason,
        q.objection? (seen.about table op) = some reason ∧
          answer = .error (.invalid { table, operation := op, policy := q.name, reason })) ∧
    (∀ {σ τ : Type} (mutation : σ → τ × σ) (state : σ),
      GatedBy answer mutation state
          (ev.runGuarded table op existing data ctx mutation state).result ∧
        ∀ e : Engine, GatedBy (e.guardWrite table op existing data ctx).result mutation state
          (e.runGuarded table op existing data ctx mutation state).result) := by
  intro seen d ps Refuses answer
  have hvalid : (ev.validate table op seen).result = .ok () ↔
      (op.carriesPayload = true → ∀ q ∈ ps, ¬ Refuses q) :=
    validateAt_ok_iff_facing hreg
  refine ⟨fun d' => ?_, fun hspares => ?_, guard_of_denied, fun hallowed hop hrefused => ?_,
    fun mutation state => ⟨runIfPassed_gatedBy _ _ _, fun e => runIfPassed_gatedBy _ _ _⟩⟩
  · show answer = .ok d' ↔ _
    rw [guard_ok_iff]
    constructor
    · rintro ⟨rfl, hallowed, hok⟩
      exact ⟨rfl, hallowed, hvalid.mp hok⟩
    · rintro ⟨rfl, hallowed, hnone⟩
      exact ⟨rfl, hallowed, hvalid.mpr hnone⟩
  · exact Schema.facing_of_spares (Registry.ofSchema_ok_iff.mp ⟨_, hreg⟩) hspares
  · obtain ⟨i, q, hq⟩ := Policy.exists_firstAt.mpr hrefused
    obtain ⟨v, hv⟩ := Option.isSome_iff_exists.mp (Policy.failure?_isSome_iff.mpr hq.passes)
    obtain ⟨htable, hoperation, hname, hreason⟩ := Policy.failure?_eq_some hv
    have hfails : (ev.validate table op seen).result = .error v :=
      (validateAt_error_iff hreg).mpr ⟨hop, i, q, hq, hv⟩
    refine ⟨i, q, hq, v.reason, hreason, ?_⟩
    show (ev.guard table op existing data ctx).result = _
    rw [guard_of_invalid hallowed hfails, ← hname]
    obtain ⟨vtable, voperation, vpolicy, vreason⟩ := v
    obtain rfl : vtable = table := htable
    obtain rfl : voperation = op := hoperation
    rfl

/-! ### A payload that two policies refuse -/

/-- Editors may update. A title has to be given, and above that a reason, whose check crashes. -/
def reasonedRules : TableRules :=
  let policy (name : String) (priority : Int) (body : PolicyBody) : Policy :=
    { name, operations := [.all], priority, body, activation := none, hints := none }
  { policies :=
      [policy "titled" 0 (.validate fun ctx => .value (ctx.dataValue? "title").isSome),
       policy "editors" 0 (.allow fun ctx => .value (ctx.caller.hasRole "editor")),
       policy "reasoned" 5 (.validate fun _ => .crashed ⟨some "no reason"⟩)]
    defaultDeny := true, exempt := KeyMap.empty }

def reasonedEvaluator : Evaluator :=
  { registry := KeyMap.empty.insert "docs" (reasonedRules.compiled "docs")
    environment := defaultEnvironment, features := KeyMap.empty, clock := .fixed default
    audit := none, denyUnregistered := false }

def reasonedContext : Context :=
  { (default : Context) with
    caller := (Caller.user "u1").withRoles ["editor"], data := some Row.empty }

/-- The payload of the context lacks both. The check of the reason is named, though it was
declared last, and a counter behind the guard stays where it is. -/
theorem guard_declared_reasoned :
    Registry.ofSchema [("docs", reasonedRules)] = .ok reasonedEvaluator.registry ∧
    (∃ i q, Policy.FirstAt (Schema.facing [("docs", reasonedRules)] "docs" reasonedContext.caller)
        (fun q => q.Refuses ((writeContext reasonedContext none none).about "docs" .update)
          reasonedEvaluator.moment) i q ∧
      q.name = "reasoned") ∧
    (reasonedEvaluator.guard "docs" .update none none reasonedContext).result =
      .error (.invalid ⟨"docs", .update, "reasoned", "validation failed: panicked: no reason"⟩) ∧
    (reasonedEvaluator.runGuarded "docs" .update none none reasonedContext
        (fun n : Nat => ((), n + 1)) 7).result.2 = 7 := by
  have hreg : Registry.ofSchema [("docs", reasonedRules)] = .ok reasonedEvaluator.registry := rfl
  obtain ⟨-, -, -, hinvalid, hruns⟩ :=
    guard_declared hreg "docs" .update none none reasonedContext
  have hrefused : ∃ q ∈ reasonedRules.policies,
      q.Refuses ((writeContext reasonedContext none none).about "docs" .update)
        reasonedEvaluator.moment :=
    ⟨_, List.mem_cons_self, rfl, rfl, _, rfl, nofun⟩
  obtain ⟨i, q, hq, reason, -, hanswer⟩ := hinvalid rfl rfl hrefused
  have hfailure : (reasonedEvaluator.guard "docs" .update none none reasonedContext).result =
      .error (.invalid
        ⟨"docs", .update, "reasoned", "validation failed: panicked: no reason"⟩) := rfl
  have hname : q.name = "reasoned" := congrArg ValidationFailure.policy
    (AccessError.invalid.inj (Except.error.inj (hanswer.symm.trans hfailure)))
  refine ⟨hreg, ⟨i, q, hq, hname⟩, hfailure, ?_⟩
  exact congrArg Prod.snd ((hruns (fun n : Nat => ((), n + 1)) 7).1.stopped hfailure)

end Evaluator

end RowAccess
