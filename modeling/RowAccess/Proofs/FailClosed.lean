import RowAccess.Proofs.Outages
import RowAccess.Proofs.Validation

/-!
# What a crashed condition cannot open

Decisions and validation are not widened by conditions that crash: what
passes while they crash passes under every choice of answers. Reads do
not have this property (`Engine.readRows_outage_widens`), because a
filter that stays in overrides others; an allow policy that is left out
and a deny or validate policy that stays in can only refuse more.

Policy by policy, an answer switches an allow policy on but never off
and any other policy off but never on (`settled_isActive_of_allow`,
`isActive_of_settled`). `Permits.settled` carries this through the walk
in order of rank, where dropping one policy exposes another one.
-/

namespace RowAccess

/-! ## One policy -/

namespace Policy

variable {p : Policy} {answer : Option Bool} {ctx : Context} {m : Moment}

theorem not_crashes_of_allow (hkind : p.kind = .allow) (h : p.isActive m = true) :
    ¬ p.crashes m = true := by
  intro hcrash
  rw [isActive_of_crashes hcrash, hkind] at h
  cases h

theorem settled_isActive_of_allow (hkind : p.kind = .allow) (h : p.isActive m = true) :
    (p.settled answer m).isActive m = true := by
  rw [settled_isActive, if_neg (not_crashes_of_allow hkind h), h]

theorem isActive_of_settled (hkind : p.kind ≠ .allow)
    (h : (p.settled answer m).isActive m = true) : p.isActive m = true := by
  rw [settled_isActive] at h
  by_cases hcrash : p.crashes m = true
  · rw [isActive_of_crashes hcrash]
    exact bne_iff_ne.mpr hkind
  · rwa [if_neg hcrash] at h

theorem Matches.settled (h : p.Matches ctx m) (hkind : p.kind = .allow) :
    (p.settled answer m).Matches ctx m where
  declared := (settled_appliesTo _).trans h.declared
  active := settled_isActive_of_allow hkind h.active
  holds := by rw [settled_body]; exact h.holds

theorem Matches.of_settled (h : (p.settled answer m).Matches ctx m) (hkind : p.kind ≠ .allow) :
    p.Matches ctx m where
  declared := (settled_appliesTo _).symm.trans h.declared
  active := isActive_of_settled hkind h.active
  holds := by simpa only [settled_body] using h.holds

theorem Refuses.of_settled (h : (p.settled answer m).Refuses ctx m) : p.Refuses ctx m where
  declared := (settled_appliesTo _).symm.trans h.declared
  active := by
    obtain ⟨f, hbody, -⟩ := h.fails
    rw [settled_body] at hbody
    refine isActive_of_settled (fun hkind => ?_) h.active
    rw [kind, hbody] at hkind
    cases hkind
  fails := by simpa only [settled_body] using h.fails

end Policy

/-! ## The policies of a table -/

namespace TableRules

variable {rules : TableRules} {ctx : Context} {m : Moment}

theorem Permits.settled (h : rules.Permits ctx m) (answer : String → Option Bool) :
    (rules.settled answer m).Permits ctx m where
  decider {i p'} hp' := by
    obtain ⟨q, hq, rfl⟩ : ∃ q, rules.policies[i]? = some q ∧ q.settled (answer q.name) m = p' := by
      simpa [TableRules.settled, List.getElem?_map, Option.map_eq_some_iff] using hp'.declared
    rw [Policy.settled_kind]
    by_contra hkind
    -- `q` matched before the answers too, so one of the first rank did, which allows
    have hmatch : q.Matches ctx m := hp'.passes.of_settled hkind
    obtain ⟨j, r, hr⟩ : ∃ j r, Policy.FirstAt rules.policies (·.Matches ctx m) j r :=
      Policy.exists_firstAt.mpr ⟨q, List.mem_of_getElem? hq, hmatch⟩
    have hallow : r.kind = .allow := h.decider hr
    -- the answers leave that one in, so each of the two ranks no later than the other
    have hqr := hr.first hq hmatch
    have hrq := hp'.first (j := j) (q := r.settled (answer r.name) m)
      (by simp [TableRules.settled, hr.declared]) (hr.passes.settled hallow)
    rw [Policy.settled_priority, Policy.settled_priority] at hrq
    obtain rfl : i = j := by omega
    obtain rfl := Option.some.inj (hq.symm.trans hr.declared)
    exact hkind hallow
  undecided hnone := by
    refine h.undecided fun p hp hmatch => ?_
    obtain ⟨i, r, hr⟩ : ∃ i r, Policy.FirstAt rules.policies (·.Matches ctx m) i r :=
      Policy.exists_firstAt.mpr ⟨p, hp, hmatch⟩
    exact hnone _ (List.mem_map_of_mem hr.mem) (hr.passes.settled (h.decider hr))

theorem Accepts.settled (h : rules.Accepts ctx m) (answer : String → Option Bool) :
    (rules.settled answer m).Accepts ctx m := by
  intro p' hp' hrefuses
  obtain ⟨p, hp, rfl⟩ := List.mem_map.mp hp'
  exact h p hp hrefuses.of_settled

end TableRules

theorem Registry.register_settled {r r' : Registry} {table : String} {rules : TableRules}
    (h : register r table rules = .ok r') (answer : String → Option Bool) (m : Moment) :
    ∃ r'', register r table (rules.settled answer m) = .ok r'' := by
  obtain ⟨hfree, hnamed, -⟩ := register_ok_iff.mp h
  exact ⟨_, register_ok_iff.mpr ⟨hfree, TableRules.settled_wellNamed hnamed answer m, rfl⟩⟩

/-! ## Decisions, validation and guarded writes -/

namespace Evaluator

variable {ev : Evaluator} {registry : Registry} {table : String} {rules : TableRules}
  {answer : String → Option Bool} {op : Operation} {ctx : Context} {m : Moment}

theorem evaluateAt_allowed_settled (h : ev.registry.find? table = some (rules.compiled table))
    (h' : registry.find? table = some ((rules.settled answer m).compiled table))
    (hallowed : (ev.evaluateAt table op ctx m).result.allowed = true) :
    (evaluateAt { ev with registry } table op ctx m).result.allowed = true := by
  rw [evaluateAt_allowed_iff h] at hallowed
  rw [evaluateAt_allowed_iff h']
  exact hallowed.imp_right (Or.imp_right fun hpermits => hpermits.settled answer)

theorem validateAt_ok_settled (h : ev.registry.find? table = some (rules.compiled table))
    (h' : registry.find? table = some ((rules.settled answer m).compiled table))
    (hvalid : (ev.validateAt table op ctx m).result = .ok ()) :
    (validateAt { ev with registry } table op ctx m).result = .ok () := by
  rw [validateAt_ok_iff h] at hvalid
  rw [validateAt_ok_iff h']
  intro hop
  exact (hvalid hop).imp_right (Or.imp_right fun haccepts => haccepts.settled answer)

/-- What passes while conditions of a table crash passes under the answers: the table with the
answers is accepted as well, and in its place an operation stays allowed, a payload stays valid
and a guarded write stays let through, whoever asks and whatever was answered. -/
theorem passes_settled {r r' : Registry} (haccepted : Registry.register r table rules = .ok r')
    (hlater : Registry.Extends r' ev.registry) (answer : String → Option Bool) (m : Moment) :
    ∃ r'', Registry.register r table (rules.settled answer m) = .ok r'' ∧
      ∀ registry, Registry.Extends r'' registry →
        let ev' : Evaluator := { ev with registry }
        ∀ op ctx,
          ((ev.evaluateAt table op ctx m).result.allowed = true →
            (ev'.evaluateAt table op ctx m).result.allowed = true) ∧
          ((ev.validateAt table op ctx m).result = .ok () →
            (ev'.validateAt table op ctx m).result = .ok ()) ∧
          (ev.moment = m → ∀ existing data d,
            (ev.guard table op existing data ctx).result = .ok d →
              ∃ d', (ev'.guard table op existing data ctx).result = .ok d') := by
  obtain ⟨r'', hr''⟩ := Registry.register_settled haccepted answer m
  refine ⟨r'', hr'', fun registry hextends => ?_⟩
  intro ev' op ctx
  have h := Registry.find?_of_accepted haccepted hlater
  have h' : ev'.registry.find? table = some ((rules.settled answer m).compiled table) :=
    Registry.find?_of_accepted hr'' hextends
  refine ⟨evaluateAt_allowed_settled h h', validateAt_ok_settled h h', ?_⟩
  rintro rfl existing data d hguard
  obtain ⟨rfl, hallowed, hvalid⟩ := guard_ok_iff.mp hguard
  exact ⟨_, guard_ok_iff.mpr ⟨rfl, evaluateAt_allowed_settled h h' hallowed,
    validateAt_ok_settled h h' hvalid⟩⟩

/-! ### Three conditions that ask the same service -/

/-- Editors may create documents. A beta policy lets everyone, a freeze stops everyone, and a
check of titles is being tried out; all three ask a service that is down. -/
def outageRules : TableRules :=
  let policy (name : String) (priority : Int) (body : PolicyBody) : Policy :=
    { name, operations := [.create], priority, body, activation := none, hints := none }
  let asking (p : Policy) : Policy :=
    { p with activation := some fun _ => .error ⟨some "flag service down"⟩ }
  { policies :=
      [asking (policy "freeze" 1 (.deny fun _ => .value true)),
       policy "editors" 5 (.allow fun ctx => .value (ctx.caller.hasRole "editor")),
       asking (policy "beta" 9 (.allow fun _ => .value true)),
       asking (policy "titled" 0 (.validate fun ctx => .value (ctx.dataValue? "title").isSome))]
    defaultDeny := true, exempt := KeyMap.empty }

def outageEvaluator : Evaluator :=
  { registry := KeyMap.empty.insert "docs" (outageRules.compiled "docs")
    environment := defaultEnvironment, features := KeyMap.empty, clock := .fixed default
    audit := none, denyUnregistered := false }

/-- The service is back: beta is on, the freeze and the check are off. -/
def outageAnswer (name : String) : Option Bool :=
  if name = "beta" then some true else some false

def editorContext : Context :=
  { (default : Context) with
    caller := (Caller.user "u1").withRoles ["editor"]
    data := some (Row.ofEntries [("title", .string "t")]) }

/-- An editor creates a document during the outage, past three crashed conditions; afterwards
it is the beta policy that lets the document pass. -/
theorem passes_settled_outage :
    (outageRules.policies.filter fun p => p.crashes outageEvaluator.moment).map Policy.name =
        ["freeze", "beta", "titled"] ∧
      (outageEvaluator.evaluate "docs" .create editorContext).result.policy = some "editors" ∧
      (∃ d, (outageEvaluator.guard "docs" .create none none editorContext).result = .ok d) ∧
      ∃ registry, Registry.register KeyMap.empty "docs"
          (outageRules.settled outageAnswer outageEvaluator.moment) = .ok registry ∧
        ∃ d', (guard { outageEvaluator with registry } "docs" .create none none
          editorContext).result = .ok d' ∧ d'.policy = some "beta" := by
  have haccepted : Registry.register KeyMap.empty "docs" outageRules =
      .ok outageEvaluator.registry := rfl
  obtain ⟨d, hd⟩ : ∃ d, (outageEvaluator.guard "docs" .create none none
    editorContext).result = .ok d := ⟨_, rfl⟩
  refine ⟨rfl, rfl, ⟨d, hd⟩, ?_⟩
  obtain ⟨registry, hregistry, hpasses⟩ := passes_settled haccepted .refl outageAnswer
    outageEvaluator.moment
  obtain ⟨-, -, hguard⟩ := hpasses registry .refl .create editorContext
  obtain ⟨d', hd'⟩ := hguard rfl none none d hd
  refine ⟨registry, hregistry, d', hd', ?_⟩
  obtain rfl := Except.ok.inj hregistry
  obtain rfl := Except.ok.inj hd'
  rfl

end Evaluator

end RowAccess
