import RowAccess.Proofs.Ranking
import RowAccess.Proofs.Registration

/-!
# Decisions against the declaration

A decision walks the ranked allow and deny policies and stops at the
first one that takes part and holds. Here the walk is compared with the
declaration as it was written, in any order: `Matches` says what it
takes for a policy to decide, and `evaluateAt_declared` that the policy
that comes first among those that match is the one that decides, and
that without one the default of the table stands.
-/

namespace RowAccess

namespace Outcome

theorem contain_eq_ok_iff {α : Type} {x : Outcome α} {a : α} :
    x.contain = .ok a ↔ x = .value a := by
  cases x <;> simp [contain]

end Outcome

namespace Policy

/-! ## Policies that match -/

/-- An allow or deny policy that is declared for the operation of the context, takes part,
and whose predicate holds. -/
structure Matches (p : Policy) (ctx : Context) (m : Moment) : Prop where
  declared : p.appliesTo ctx.operation = true
  active : p.isActive m = true
  holds : ∃ f, (p.body = .allow f ∨ p.body = .deny f) ∧ f ctx = .value true

theorem isDecider_iff {p : Policy} :
    p.isDecider = true ↔ p.kind = .allow ∨ p.kind = .deny := by
  unfold isDecider PolicyBody.decider? kind PolicyBody.kind
  cases p.body <;> simp

theorem decides_iff {p : Policy} {ctx : Context} {m : Moment} :
    p.decides ctx m = true ↔ p.isActive m = true ∧ p.verdict ctx = .ok true := by
  unfold decides entry
  cases p.isActive m <;> cases hv : p.verdict ctx <;> simp

theorem verdict_eq_true_iff {p : Policy} {ctx : Context} :
    p.verdict ctx = .ok true ↔
      ∃ f, (p.body = .allow f ∨ p.body = .deny f) ∧ f ctx = .value true := by
  unfold verdict PolicyBody.decider?
  cases p.body <;> simp [Outcome.contain_eq_ok_iff]

theorem matches_iff {p : Policy} {ctx : Context} {m : Moment} :
    p.Matches ctx m ↔
      p.appliesTo ctx.operation = true ∧ p.isDecider = true ∧ p.decides ctx m = true := by
  rw [decides_iff, verdict_eq_true_iff]
  constructor
  · rintro ⟨hop, hactive, f, hbody, hf⟩
    refine ⟨hop, ?_, hactive, f, hbody, hf⟩
    rcases hbody with hbody | hbody <;> simp [isDecider, PolicyBody.decider?, hbody]
  · rintro ⟨hop, -, hactive, hholds⟩
    exact ⟨hop, hactive, hholds⟩

end Policy

/-! ## The walk of a table -/

namespace Table

variable {rules : TableRules} (table : String) {ctx : Context} {m : Moment}

/-- The walk stops at the policy that comes first among those that match. -/
theorem find?_deciders {p : Policy} :
    ((rules.compiled table).deciders ctx.operation).find? (fun q => q.decides ctx m) = some p ↔
      ∃ i, Policy.FirstAt rules.policies (·.Matches ctx m) i p := by
  show (((Policy.ranked rules.policies).filter _).filter _).find? _ = some p ↔ _
  rw [List.find?_filter, List.find?_filter, Policy.find?_ranked]
  simp only [decide_eq_true_iff, ← Policy.matches_iff]

theorem decide_of_firstAt {i : Nat} {p : Policy}
    (h : Policy.FirstAt rules.policies (·.Matches ctx m) i p) :
    ∃ trace, (rules.compiled table).decide ctx m = Decision.byPolicy p trace := by
  have hfind := (find?_deciders table).mpr ⟨i, h⟩
  unfold decide
  rw [hfind]
  exact ⟨_, rfl⟩

theorem decide_of_forall_not (h : ∀ p ∈ rules.policies, ¬ p.Matches ctx m) :
    ∃ trace, (rules.compiled table).decide ctx m =
      Decision.byDefault rules.defaultDeny trace := by
  have hfind : ((rules.compiled table).deciders ctx.operation).find?
      (fun q => q.decides ctx m) = none := by
    rw [← Option.not_isSome_iff_eq_none, Option.isSome_iff_exists]
    rintro ⟨p, hp⟩
    obtain ⟨i, hi⟩ := (find?_deciders table).mp hp
    exact h p hi.mem hi.passes
  unfold decide
  rw [hfind]
  exact ⟨_, rfl⟩

end Table

/-! ## Permission -/

/-- The policy that comes first among those that match allows, and without one the default
does. -/
structure TableRules.Permits (rules : TableRules) (ctx : Context) (m : Moment) : Prop where
  decider : ∀ {i p}, Policy.FirstAt rules.policies (·.Matches ctx m) i p → p.kind = .allow
  undecided : (∀ p ∈ rules.policies, ¬ p.Matches ctx m) → rules.defaultDeny = false

theorem Table.decide_allowed_iff {rules : TableRules} (table : String) {ctx : Context}
    {m : Moment} :
    ((rules.compiled table).decide ctx m).allowed = true ↔ rules.Permits ctx m := by
  by_cases hmatch : ∃ p ∈ rules.policies, p.Matches ctx m
  · obtain ⟨i, p, hp⟩ := Policy.exists_firstAt.mpr hmatch
    obtain ⟨trace, htrace⟩ := Table.decide_of_firstAt table hp
    have hallowed : ((rules.compiled table).decide ctx m).allowed = true ↔ p.kind = .allow := by
      simp [htrace, Decision.byPolicy]
    rw [hallowed]
    refine ⟨fun h => ⟨fun hq => hq.unique hp ▸ h, fun hnone => ?_⟩, fun h => h.decider hp⟩
    exact absurd hp.passes (hnone p hp.mem)
  · have hnone : ∀ p ∈ rules.policies, ¬ p.Matches ctx m := fun p hp hm => hmatch ⟨p, hp, hm⟩
    obtain ⟨trace, htrace⟩ := Table.decide_of_forall_not table hnone
    have hallowed : ((rules.compiled table).decide ctx m).allowed = true ↔
        rules.defaultDeny = false := by
      simp [htrace, Decision.byDefault]
    rw [hallowed]
    exact ⟨fun h => ⟨fun hp => absurd hp.passes (hnone _ hp.mem), fun _ => h⟩,
      fun h => h.undecided hnone⟩

/-! ## The evaluator -/

namespace Evaluator

theorem decide_of_registered {ev : Evaluator} {ctx : Context} {t : Table} (m : Moment)
    (hsystem : ctx.caller.isSystem = false) (ht : ev.registry.find? ctx.table = some t)
    (hexempt : t.exempts ctx.caller = false) : ev.decide ctx m = t.decide ctx m := by
  simp [decide, hsystem, ht, hexempt]

/-- Whatever two tables are registered under one name for the same exempt roles: either the
caller is asked at neither of them, or each decides for itself. -/
theorem decide_cases {ev : Evaluator} {registry : Registry} {ctx : Context} {t t' : Table}
    (m : Moment) (h : ev.registry.find? ctx.table = some t)
    (h' : registry.find? ctx.table = some t') (hexempt : t'.exempt = t.exempt) :
    (∃ reason, ev.decide ctx m = Decision.bypass reason ∧
      decide { ev with registry } ctx m = Decision.bypass reason) ∨
    ev.decide ctx m = t.decide ctx m ∧ decide { ev with registry } ctx m = t'.decide ctx m := by
  have hexempts : t'.exempts ctx.caller = t.exempts ctx.caller := by
    unfold Table.exempts
    rw [hexempt]
  unfold decide
  rw [h, h']
  cases ctx.caller.isSystem with
  | true => exact Or.inl ⟨_, rfl, rfl⟩
  | false =>
      simp only [Bool.false_eq_true, if_false, hexempts]
      cases t.exempts ctx.caller with
      | true => exact Or.inl ⟨_, rfl, rfl⟩
      | false => exact Or.inr ⟨rfl, rfl⟩

/-- An operation on a registered table is allowed: the caller is spared, or the rules permit. -/
theorem decide_allowed_iff {ev : Evaluator} {ctx : Context} {table : String} {rules : TableRules}
    {m : Moment} (h : ev.registry.find? ctx.table = some (rules.compiled table)) :
    (ev.decide ctx m).allowed = true ↔
      ctx.caller.isSystem = true ∨ ctx.caller.holdsOneOf rules.exempt = true ∨
        rules.Permits ctx m := by
  cases hsystem : ctx.caller.isSystem with
  | true => simp [decide, hsystem, Decision.bypass]
  | false =>
      cases hexempt : ctx.caller.holdsOneOf rules.exempt with
      | true =>
          have hexempts : (rules.compiled table).exempts ctx.caller = true := hexempt
          simp [decide, hsystem, h, hexempts, Decision.bypass]
      | false =>
          rw [decide_of_registered m hsystem h hexempt, Table.decide_allowed_iff]
          simp

theorem evaluateAt_allowed_iff {ev : Evaluator} {table : String} {rules : TableRules}
    {op : Operation} {ctx : Context} {m : Moment}
    (h : ev.registry.find? table = some (rules.compiled table)) :
    (ev.evaluateAt table op ctx m).result.allowed = true ↔
      ctx.caller.isSystem = true ∨ ctx.caller.holdsOneOf rules.exempt = true ∨
        rules.Permits (ctx.about table op) m := by
  have hfind : ev.registry.find? (ctx.about table op).table = some (rules.compiled table) := h
  exact decide_allowed_iff hfind

/-- The decision about an operation, read off the declaration of the table: of the policies
that match, the one that comes first decides, and if none matches, the default does. -/
theorem evaluateAt_declared {ev : Evaluator} {r r' : Registry} {table : String}
    {rules : TableRules} (haccepted : Registry.register r table rules = .ok r')
    (hlater : Registry.Extends r' ev.registry) {ctx : Context}
    (hsystem : ctx.caller.isSystem = false)
    (hexempt : ctx.caller.holdsOneOf rules.exempt = false) (op : Operation) (m : Moment) :
    let d := (ev.evaluateAt table op ctx m).result
    let Deciding := Policy.FirstAt rules.policies (·.Matches (ctx.about table op) m)
    (∃ i p, Deciding i p ∧ (∀ j q, Deciding j q → j = i ∧ q = p) ∧
      (d.allowed = true ↔ p.kind = .allow) ∧ d.kind = p.kind ∧ d.policy = some p.name ∧
      d.reason = some (Decision.matchedReason p)) ∨
    ((∀ p ∈ rules.policies, ¬ p.Matches (ctx.about table op) m) ∧
      d.allowed = !rules.defaultDeny ∧ d.policy = none ∧ d.reason = some "default") := by
  have hd : (ev.evaluateAt table op ctx m).result =
      (rules.compiled table).decide (ctx.about table op) m :=
    decide_of_registered m hsystem (Registry.find?_of_accepted haccepted hlater) hexempt
  intro d Deciding
  show (_ : Prop) ∨ _
  by_cases hmatch : ∃ p ∈ rules.policies, p.Matches (ctx.about table op) m
  · obtain ⟨i, p, hp⟩ := Policy.exists_firstAt.mpr hmatch
    obtain ⟨trace, htrace⟩ := Table.decide_of_firstAt table hp
    refine Or.inl ⟨i, p, hp, fun j q hq => ⟨hq.place_unique hp, hq.unique hp⟩, ?_⟩
    simp only [d, hd, htrace, Decision.byPolicy, beq_iff_eq, and_self]
  · have hnone : ∀ p ∈ rules.policies, ¬ p.Matches (ctx.about table op) m :=
      fun p hp hm => hmatch ⟨p, hp, hm⟩
    obtain ⟨trace, htrace⟩ := Table.decide_of_forall_not table hnone
    refine Or.inr ⟨hnone, ?_⟩
    simp only [d, hd, htrace, Decision.byDefault, Decision.defaultReason, and_self]

/-! ### Ties, extreme priorities, a failure and a policy that is off -/

/-- Five policies for reading. The two that rank highest fail and take no part; of the two
behind them the one declared earlier counts, and the lowest is never reached. -/
def tiedRules : TableRules :=
  let policy (name : String) (priority : Int) (body : PolicyBody) : Policy :=
    { name, operations := [.read], priority, body, activation := none, hints := none }
  { policies :=
      [policy "closed" (-2147483648) (.deny fun _ => .value true),
       policy "broken" 2147483647 (.allow fun _ => .failed "lookup failed"),
       { policy "frozen" 7 (.deny fun _ => .value true) with
         activation := some fun _ => .ok false },
       policy "reader" 0 (.allow fun _ => .value true),
       policy "late" 0 (.deny fun _ => .value true)]
    defaultDeny := true, exempt := KeyMap.empty }

def tiedEvaluator : Evaluator :=
  { registry := KeyMap.empty.insert "docs" (tiedRules.compiled "docs")
    environment := defaultEnvironment, features := KeyMap.empty, clock := .fixed default
    audit := none, denyUnregistered := false }

/-- The hypotheses hold for the tied rules, and the decision is that of `reader`. -/
theorem evaluateAt_declared_tied :
    Registry.register KeyMap.empty "docs" tiedRules = .ok tiedEvaluator.registry ∧
      (default : Context).caller.isSystem = false ∧
      (default : Context).caller.holdsOneOf tiedRules.exempt = false ∧
      ∃ i p, Policy.FirstAt tiedRules.policies
          (·.Matches ((default : Context).about "docs" .read) tiedEvaluator.moment) i p ∧
        p.name = "reader" ∧
        (tiedEvaluator.evaluateAt "docs" .read default tiedEvaluator.moment).result.allowed =
          true := by
  refine ⟨rfl, rfl, rfl, ?_⟩
  rcases @evaluateAt_declared tiedEvaluator KeyMap.empty tiedEvaluator.registry "docs"
    tiedRules rfl .refl default rfl rfl .read tiedEvaluator.moment with
    ⟨i, p, hp, -, -, -, hname, -⟩ | ⟨-, -, hnone, -⟩
  · have hreader : some "reader" = some p.name := hname
    exact ⟨i, p, hp, (Option.some.inj hreader).symm, rfl⟩
  · cases hnone

end Evaluator

end RowAccess
