import RowAccess.Mutation
import RowAccess.Proofs.Decisions

/-!
# Which payloads pass validation

A create or an update passes validation when no validate policy of the
table refuses its payload; `Refuses` says on the declaration what it
takes to refuse. The guard of a write lets pass what is allowed and
passes validation, both on the row and payload that the write and its
context bring together (`guard_ok_iff`).
-/

namespace RowAccess

namespace Policy

variable {p : Policy} {ctx : Context} {m : Moment}

/-- A validate policy that is declared for the operation of the context and takes part, and
whose predicate does not hold. -/
structure Refuses (p : Policy) (ctx : Context) (m : Moment) : Prop where
  declared : p.appliesTo ctx.operation = true
  active : p.isActive m = true
  fails : ∃ f, p.body = .validate f ∧ f ctx ≠ .value true

theorem objection?_eq_none_iff :
    p.objection? ctx = none ↔ ∀ f, p.body = .validate f → f ctx = .value true := by
  unfold objection? PolicyBody.validator?
  cases p.body with
  | allow f => simp
  | deny f => simp
  | filter f => simp
  | validate f =>
      cases hf : f ctx with
      | value b => cases b <;> simp [Outcome.contain, hf]
      | failed message => simp [Outcome.contain, hf]
      | crashed crash => simp [Outcome.contain, hf]

/-- What the policy reports of the payload of the context, if it refuses it. -/
def failure? (p : Policy) (ctx : Context) (m : Moment) : Option ValidationFailure :=
  if p.appliesTo ctx.operation && p.isActive m then
    (p.objection? ctx).map fun reason =>
      { table := ctx.table, operation := ctx.operation, policy := p.name, reason }
  else none

theorem failure?_isSome_iff : (p.failure? ctx m).isSome = true ↔ p.Refuses ctx m := by
  have hobjects : (p.objection? ctx).isSome = true ↔
      ∃ f, p.body = .validate f ∧ f ctx ≠ .value true := by
    rw [← Option.ne_none_iff_isSome, ne_eq, objection?_eq_none_iff]
    simp only [not_forall, exists_prop, ne_eq]
  unfold failure?
  constructor
  · intro h
    split at h
    · next hasked =>
        obtain ⟨hop, hactive⟩ := Bool.and_eq_true_iff.mp hasked
        rw [Option.isSome_map] at h
        exact ⟨hop, hactive, hobjects.mp h⟩
    · cases h
  · rintro ⟨hop, hactive, hfails⟩
    rw [hop, hactive, Bool.and_self, if_pos rfl, Option.isSome_map]
    exact hobjects.mpr hfails

theorem failure?_eq_some {v : ValidationFailure} (h : p.failure? ctx m = some v) :
    v.table = ctx.table ∧ v.operation = ctx.operation ∧ v.policy = p.name ∧
      p.objection? ctx = some v.reason := by
  unfold failure? at h
  split at h
  · obtain ⟨reason, hreason, rfl⟩ := Option.map_eq_some_iff.mp h
    exact ⟨rfl, rfl, rfl, hreason⟩
  · cases h

end Policy

/-- No validate policy refuses the payload of the context. -/
def TableRules.Accepts (rules : TableRules) (ctx : Context) (m : Moment) : Prop :=
  ∀ p ∈ rules.policies, ¬ p.Refuses ctx m

theorem Table.rejection?_eq_none_iff {rules : TableRules} (table : String) {ctx : Context}
    {m : Moment} :
    (rules.compiled table).rejection? ctx m = none ↔ rules.Accepts ctx m := by
  unfold rejection? validators policiesFor TableRules.Accepts
  simp only [List.findSome?_eq_none_iff, List.mem_filter, and_imp, ite_eq_right_iff,
    Option.map_eq_none_iff, Policy.objection?_eq_none_iff]
  constructor
  · intro h p hp hrefuses
    obtain ⟨f, hbody, hf⟩ := hrefuses.fails
    have hvalidates : p.body.validator?.isSome = true := by rw [hbody]; rfl
    exact hf (h p (Policy.mem_ranked.mpr hp) hrefuses.declared hvalidates hrefuses.active f hbody)
  · intro h p hp hop _ hactive f hbody
    by_contra hf
    exact h p (Policy.mem_ranked.mp hp) ⟨hop, hactive, f, hbody, hf⟩

namespace Table

variable {ctx : Context} {m : Moment}

theorem rejection?_eq (t : Table) :
    t.rejection? ctx m = t.policies.findSome? fun p => p.failure? ctx m := by
  unfold rejection? validators policiesFor
  induction t.policies with
  | nil => rfl
  | cons p rest ih =>
      rw [List.findSome?_cons, Policy.failure?, ← ih]
      cases hop : p.appliesTo ctx.operation with
      | false => simp [hop]
      | true =>
          cases hbody : p.body.validator? with
          | none => simp [hop, hbody, Policy.objection?]
          | some f =>
              cases hactive : p.isActive m with
              | false => simp [hop, hbody, hactive]
              | true => simp [hop, hbody, hactive, List.findSome?_cons]

/-- The failure that is reported is that of the policy which comes first among those that
refuse. -/
theorem rejection?_eq_some_iff {rules : TableRules} (table : String) {v : ValidationFailure} :
    (rules.compiled table).rejection? ctx m = some v ↔
      ∃ i p, Policy.FirstAt rules.policies (·.Refuses ctx m) i p ∧ p.failure? ctx m = some v := by
  rw [rejection?_eq]
  show (Policy.ranked rules.policies).findSome? _ = some v ↔ _
  rw [Policy.findSome?_ranked]
  simp only [Policy.failure?_isSome_iff]

end Table

namespace Evaluator

variable {ev : Evaluator} {table : String} {op : Operation} {ctx : Context}

theorem enforced?_of_registered {t : Table} (h : ev.registry.find? ctx.table = some t) :
    ev.enforced? ctx =
      if ctx.caller.isSystem = true ∨ t.exempts ctx.caller = true then none else some t := by
  unfold enforced?
  rw [h]
  cases ctx.caller.isSystem <;> cases hexempt : t.exempts ctx.caller <;> simp [hexempt]

theorem validateAt_of_unenforced {m : Moment} (h : ev.enforced? (ctx.about table op) = none) :
    (ev.validateAt table op ctx m).result = .ok () := by
  unfold validateAt
  split
  · simp [h]
  · rfl

theorem validateAt_of_enforced {t : Table} {m : Moment} (hop : op.carriesPayload = true)
    (h : ev.enforced? (ctx.about table op) = some t) :
    (ev.validateAt table op ctx m).result =
      match t.rejection? (ctx.about table op) m with
      | some v => .error v
      | none => .ok () := by
  unfold validateAt
  simp only [hop, if_true, h]
  cases t.rejection? (ctx.about table op) m <;> rfl

theorem validateAt_ok_iff {rules : TableRules} {m : Moment}
    (h : ev.registry.find? table = some (rules.compiled table)) :
    (ev.validateAt table op ctx m).result = .ok () ↔
      op.carriesPayload = true → ctx.caller.isSystem = true ∨
        ctx.caller.holdsOneOf rules.exempt = true ∨ rules.Accepts (ctx.about table op) m := by
  cases hop : op.carriesPayload with
  | false => simp [validateAt, hop]
  | true =>
      have hfind : ev.registry.find? (ctx.about table op).table = some (rules.compiled table) := h
      have henforced := enforced?_of_registered hfind
      rw [forall_prop_of_true rfl, ← or_assoc]
      by_cases hspared : ctx.caller.isSystem = true ∨ ctx.caller.holdsOneOf rules.exempt = true
      · have hnone : ev.enforced? (ctx.about table op) = none := henforced.trans (if_pos hspared)
        exact iff_of_true (validateAt_of_unenforced hnone) (Or.inl hspared)
      · have hsome : ev.enforced? (ctx.about table op) = some (rules.compiled table) :=
          henforced.trans (if_neg hspared)
        rw [validateAt_of_enforced hop hsome, ← Table.rejection?_eq_none_iff table,
          or_iff_right hspared]
        cases (rules.compiled table).rejection? (ctx.about table op) m <;> simp

theorem guard_ok_iff {existing data : Option Row} {d : Decision} :
    (ev.guard table op existing data ctx).result = .ok d ↔
      (ev.evaluate table op (writeContext ctx existing data)).result = d ∧ d.allowed = true ∧
        (ev.validate table op (writeContext ctx existing data)).result = .ok () := by
  unfold guard
  rw [Report.result_andThen]
  cases hallowed : (ev.evaluate table op (writeContext ctx existing data)).result.allowed with
  | false =>
      simp only [Bool.false_eq_true, if_false, Report.result_noting, reduceCtorEq,
        false_iff, not_and]
      rintro rfl htrue
      rw [hallowed] at htrue
      cases htrue
  | true =>
      simp only [if_true, Report.result_map]
      cases hvalid : (ev.validate table op (writeContext ctx existing data)).result with
      | error f => simp
      | ok u =>
          rw [Except.ok.injEq]
          exact ⟨fun h => ⟨h, h ▸ hallowed, rfl⟩, fun h => h.1⟩

end Evaluator

end RowAccess
