import RowAccess.Proofs.Irrelevance

/-!
# One more policy

Decisions go by the first match, so a policy that is added to a table
may hide those that rank below it and may itself be hidden by those
above. It changes a decision in one way only: by making it. Unless the
new policy decides, the decision is the old one, with at most an entry
for the new policy in its trace (`decide_inserted`).

So a table with one more deny policy allows nothing more, a table with
one more allow policy nothing less, and with one more validate policy no
more writes pass (`answers_inserted`), wherever the policy is declared
and whatever its priority, its condition and its neighbours are.
-/

namespace RowAccess

/-- The rules with one more policy, declared at place `i`. -/
def TableRules.inserted (rules : TableRules) (i : Nat) (p : Policy) : TableRules :=
  { rules with policies := rules.policies.insertIdx i p }

/-! ## The longer declaration -/

theorem filter_insertIdx_of_dropped {α : Type} {keep : α → Bool} {x : α} (h : keep x = false)
    (l : List α) (i : Nat) : (l.insertIdx i x).filter keep = l.filter keep := by
  induction l generalizing i with
  | nil => cases i <;> simp [h]
  | cons y rest ih =>
      cases i with
      | zero => rw [List.insertIdx_zero, List.filter_cons, h, if_neg Bool.false_ne_true]
      | succ i => rw [List.insertIdx_succ_cons, List.filter_cons, List.filter_cons, ih]

section

variable {rules : TableRules} {table : String} {p : Policy} {i : Nat} {ctx : Context} {m : Moment}

theorem TableRules.mem_inserted (hplace : i ≤ rules.policies.length) {q : Policy} :
    q ∈ (rules.inserted i p).policies ↔ q = p ∨ q ∈ rules.policies :=
  List.mem_insertIdx hplace

theorem TableRules.WellNamed.inserted (h : rules.WellNamed table)
    (hplace : i ≤ rules.policies.length) (hnamed : p.name ≠ "")
    (hfresh : ∀ q ∈ rules.policies, q.name ≠ p.name) : (rules.inserted i p).WellNamed table where
  table := h.table
  named := by
    intro q hq
    rcases (mem_inserted hplace).mp hq with rfl | hq
    · exact hnamed
    · exact h.named q hq
  distinct := by
    have hperm : (rules.inserted i p).policies.Perm (p :: rules.policies) :=
      List.perm_insertIdx p rules.policies hplace
    rw [(hperm.map Policy.name).nodup_iff, List.map_cons, List.nodup_cons]
    refine ⟨fun hmem => ?_, h.distinct⟩
    obtain ⟨q, hq, hname⟩ := List.mem_map.mp hmem
    exact hfresh q hq hname

/-- Left out by its name, the new policy leaves the old rules behind. -/
theorem TableRules.inserted_without (hfresh : ∀ q ∈ rules.policies, q.name ≠ p.name) (i : Nat) :
    (rules.inserted i p).without (· == p.name) = rules := by
  have hkept : (rules.policies.filter fun q => !(q.name == p.name)) = rules.policies :=
    List.filter_eq_self.mpr fun q hq => by simpa using hfresh q hq
  unfold TableRules.without TableRules.inserted
  rw [filter_insertIdx_of_dropped (by simp), hkept]

/-- Fewer payloads pass with more policies. -/
theorem TableRules.Accepts.of_inserted (hplace : i ≤ rules.policies.length)
    (h : (rules.inserted i p).Accepts ctx m) : rules.Accepts ctx m :=
  fun q hq => h q ((mem_inserted hplace).mpr (Or.inr hq))

/-! ## The decision of the table -/

/-- The new policy decides, or the decision is the old one but for the entry of the new policy
in its trace. -/
theorem Table.decide_inserted (hfresh : ∀ q ∈ rules.policies, q.name ≠ p.name)
    (hplace : i ≤ rules.policies.length) :
    (p.Matches ctx m ∧ ∃ trace,
        ((rules.inserted i p).compiled table).decide ctx m = Decision.byPolicy p trace) ∨
      (rules.compiled table).decide ctx m =
        (((rules.inserted i p).compiled table).decide ctx m).without (· == p.name) := by
  by_cases hdecides : ∃ j, Policy.FirstAt (rules.inserted i p).policies (·.Matches ctx m) j p
  · obtain ⟨j, hj⟩ := hdecides
    exact Or.inl ⟨hj.passes, Table.decide_of_firstAt table hj⟩
  · right
    have hkept : ∀ q, (((rules.inserted i p).compiled table).deciders ctx.operation).find?
        (fun q => q.decides ctx m) = some q → (!(q.name == p.name)) = true := by
      intro q hfind
      obtain ⟨j, hj⟩ := (Table.find?_deciders table).mp hfind
      rcases (TableRules.mem_inserted hplace).mp hj.mem with rfl | hq
      · exact absurd ⟨j, hj⟩ hdecides
      · simpa using hfresh q hq
    have hwithout : (((rules.inserted i p).without (· == p.name)).compiled table).decide ctx m =
        (((rules.inserted i p).compiled table).decide ctx m).without (· == p.name) :=
      decide_without_of_kept hkept
    rw [TableRules.inserted_without hfresh] at hwithout
    exact hwithout

theorem Table.deciders_compiled (rules : TableRules) (table : String) (op : Operation) :
    (rules.compiled table).deciders op =
      (Policy.ranked (rules.policies.filter Policy.isDecider)).filter (·.appliesTo op) := by
  rw [Policy.ranked_filter, List.filter_comm]
  rfl

theorem Table.deciders_inserted (hp : p.isDecider = false) (op : Operation) :
    ((rules.inserted i p).compiled table).deciders op = (rules.compiled table).deciders op := by
  have hdropped : (rules.inserted i p).policies.filter Policy.isDecider =
      rules.policies.filter Policy.isDecider := filter_insertIdx_of_dropped hp _ i
  rw [deciders_compiled, deciders_compiled, hdropped]

/-- A policy that is never asked for a decision leaves every decision as it is. -/
theorem Table.decide_inserted_of_not_decider (hp : p.isDecider = false) :
    ((rules.inserted i p).compiled table).decide ctx m = (rules.compiled table).decide ctx m := by
  unfold decide asked
  rw [deciders_inserted hp]
  rfl

end

/-! ## The answers of an evaluator -/

namespace Evaluator

variable {ev : Evaluator} {registry : Registry} {table : String} {rules : TableRules} {p : Policy}
  {i : Nat} {ctx : Context} {op : Operation} {m : Moment}

theorem decide_inserted (h : ev.registry.find? ctx.table = some (rules.compiled table))
    (h' : registry.find? ctx.table = some ((rules.inserted i p).compiled table))
    (hfresh : ∀ q ∈ rules.policies, q.name ≠ p.name) (hplace : i ≤ rules.policies.length) :
    (p.Matches ctx m ∧ ∃ trace, decide { ev with registry } ctx m = Decision.byPolicy p trace) ∨
      ev.decide ctx m = (decide { ev with registry } ctx m).without (· == p.name) := by
  rcases decide_cases m h h' rfl with ⟨reason, hbefore, hafter⟩ | ⟨hbefore, hafter⟩
  · right
    rw [hbefore, hafter]
    rfl
  · rw [hbefore, hafter]
    exact Table.decide_inserted hfresh hplace

theorem decide_inserted_of_not_decider
    (h : ev.registry.find? ctx.table = some (rules.compiled table))
    (h' : registry.find? ctx.table = some ((rules.inserted i p).compiled table))
    (hp : p.isDecider = false) : decide { ev with registry } ctx m = ev.decide ctx m := by
  rcases decide_cases m h h' rfl with ⟨reason, hbefore, hafter⟩ | ⟨hbefore, hafter⟩
  · rw [hbefore, hafter]
  · rw [hbefore, hafter]
    exact Table.decide_inserted_of_not_decider hp

theorem validateAt_of_inserted (h : ev.registry.find? table = some (rules.compiled table))
    (h' : registry.find? table = some ((rules.inserted i p).compiled table))
    (hplace : i ≤ rules.policies.length)
    (hok : (validateAt { ev with registry } table op ctx m).result = .ok ()) :
    (ev.validateAt table op ctx m).result = .ok () := by
  have hlonger : ({ ev with registry } : Evaluator).registry.find? table =
      some ((rules.inserted i p).compiled table) := h'
  rw [validateAt_ok_iff hlonger] at hok
  refine (validateAt_ok_iff h).mpr fun hop => ?_
  rcases hok hop with hsystem | hexempt | haccepts
  · exact Or.inl hsystem
  · exact Or.inr (Or.inl hexempt)
  · exact Or.inr (Or.inr (haccepts.of_inserted hplace))

/-- A new deny policy allows nothing, and a new allow policy denies nothing. -/
theorem allowed_inserted {d d' : Decision}
    (hd : (∃ trace, d' = Decision.byPolicy p trace) ∨ d = d'.without (· == p.name)) :
    (p.kind = .deny → d'.allowed = true → d.allowed = true) ∧
      (p.kind = .allow → d.allowed = true → d'.allowed = true) := by
  rcases hd with ⟨trace, rfl⟩ | rfl
  · have hallowed : (Decision.byPolicy p trace).allowed = (p.kind == .allow) := rfl
    rw [hallowed]
    constructor
    · intro hdeny hpass
      rw [hdeny] at hpass
      cases hpass
    · intro hallow _
      rw [hallow]
      rfl
  · have hallowed : (d'.without (· == p.name)).allowed = d'.allowed := rfl
    rw [hallowed]
    exact ⟨fun _ hpass => hpass, fun _ hpass => hpass⟩

theorem guard_of_inserted (h : ev.registry.find? table = some (rules.compiled table))
    (h' : registry.find? table = some ((rules.inserted i p).compiled table))
    (hplace : i ≤ rules.policies.length) (hp : p.isDecider = false) {existing data : Option Row}
    {d : Decision}
    (hpass : (guard { ev with registry } table op existing data ctx).result = .ok d) :
    (ev.guard table op existing data ctx).result = .ok d := by
  obtain ⟨hd, hallowed, hvalid⟩ := guard_ok_iff.mp hpass
  refine guard_ok_iff.mpr ⟨?_, hallowed, validateAt_of_inserted h h' hplace hvalid⟩
  rw [← hd]
  exact (decide_inserted_of_not_decider h h' hp).symm

/-- A policy with a new name may be declared at any place, and the longer declaration is
accepted. What it then changes about an operation: it is the policy that decides, or else the
decision is the one made without it, its own entry in the trace apart. So nothing is allowed
because of a deny policy, nothing is denied because of an allow policy, and no write passes the
guard because of a validate policy: one that passes passes without it, with the same decision. -/
theorem answers_inserted {r r' : Registry} (haccepted : Registry.register r table rules = .ok r')
    (hlater : Registry.Extends r' ev.registry) (hplace : i ≤ rules.policies.length)
    (hnamed : p.name ≠ "") (hfresh : ∀ q ∈ rules.policies, q.name ≠ p.name) :
    ∃ r'', Registry.register r table (rules.inserted i p) = .ok r'' ∧
      ∀ registry, Registry.Extends r'' registry → ∀ op ctx,
        let ev' : Evaluator := { ev with registry }
        (∀ m,
          let d := (ev.evaluateAt table op ctx m).result
          let d' := (ev'.evaluateAt table op ctx m).result
          (p.Matches (ctx.about table op) m ∧ d'.policy = some p.name ∨
            d = d'.without (· == p.name)) ∧
          (p.kind = .deny → d'.allowed = true → d.allowed = true) ∧
          (p.kind = .allow → d.allowed = true → d'.allowed = true)) ∧
        (p.kind = .validate → ∀ existing data d,
          (ev'.guard table op existing data ctx).result = .ok d →
            (ev.guard table op existing data ctx).result = .ok d) := by
  obtain ⟨hfree, hwellNamed, -⟩ := Registry.register_ok_iff.mp haccepted
  have haccepted' := Registry.register_ok_iff.mpr
    ⟨hfree, hwellNamed.inserted hplace hnamed hfresh, rfl⟩
  refine ⟨_, haccepted', fun registry hextends op ctx => ?_⟩
  intro ev'
  have h := Registry.find?_of_accepted haccepted hlater
  have h' : registry.find? table = some ((rules.inserted i p).compiled table) :=
    Registry.find?_of_accepted haccepted' hextends
  constructor
  · intro m d d'
    have hdecide : (p.Matches (ctx.about table op) m ∧ ∃ trace, d' = Decision.byPolicy p trace) ∨
        d = d'.without (· == p.name) := decide_inserted h h' hfresh hplace
    refine ⟨hdecide.imp_left ?_, allowed_inserted (hdecide.imp_left fun hp => hp.2)⟩
    rintro ⟨hmatches, trace, hd'⟩
    exact ⟨hmatches, by rw [hd']; rfl⟩
  · intro hvalidate existing data d hpass
    have hp : p.isDecider = false := by
      rw [Bool.eq_false_iff, ne_eq, Policy.isDecider_iff, hvalidate]
      simp
    exact guard_of_inserted h h' hplace hp hpass

/-! ### Three insertions among equals and failures -/

def wardPolicy (name : String) (priority : Int) (body : PolicyBody) : Policy :=
  { name, operations := [.all], priority, body, activation := none, hints := none }

/-- Staff may do anything, also while the directory is down, as long as payloads are signed. -/
def wardRules : TableRules :=
  { policies :=
      [wardPolicy "directory" 9 (.deny fun _ => .failed "lookup failed"),
       wardPolicy "staff" 0 (.allow fun ctx => .value (ctx.caller.hasRole "staff")),
       wardPolicy "signed" 0 (.validate fun ctx => .value (ctx.dataValue? "signature").isSome)]
    defaultDeny := true, exempt := KeyMap.empty }

def wardEvaluator : Evaluator :=
  { registry := KeyMap.empty.insert "charts" (wardRules.compiled "charts")
    environment := defaultEnvironment, features := KeyMap.empty, clock := .fixed default
    audit := none, denyUnregistered := false }

def wardContext : Context :=
  { (default : Context) with
    caller := (Caller.user "n1").withRoles ["staff"]
    data := some (Row.ofEntries [("dose", Value.ofNat 2), ("signature", .string "n1")]) }

/-- Hidden by the tie with `staff`, which is declared before it. -/
def wardFreeze : Policy := wardPolicy "freeze" 0 (.deny fun _ => .value true)

/-- Ranks first and crashes. -/
def wardOnCall : Policy := wardPolicy "on call" 20 (.allow fun _ => .crashed ⟨some "no roster"⟩)

def wardDosed : Policy :=
  wardPolicy "dosed" 5 (.validate fun ctx => .value (ctx.dataValue? "dose").isSome)

/-- The table takes each of the three. Updates stay allowed behind the deny policy and behind
the allow policy that crashes, and what passes with the validate policy passes without it. -/
theorem answers_inserted_ward :
    (∃ registry, Registry.register KeyMap.empty "charts" (wardRules.inserted 2 wardFreeze) =
        .ok registry ∧
      let ev : Evaluator := { wardEvaluator with registry }
      (ev.evaluate "charts" .update wardContext).result.allowed = true ∧
        (wardEvaluator.evaluate "charts" .update wardContext).result.allowed = true) ∧
    (∃ registry, Registry.register KeyMap.empty "charts" (wardRules.inserted 0 wardOnCall) =
        .ok registry ∧
      let ev : Evaluator := { wardEvaluator with registry }
      (ev.evaluate "charts" .update wardContext).result.allowed = true) ∧
    (∃ registry, Registry.register KeyMap.empty "charts" (wardRules.inserted 3 wardDosed) =
        .ok registry ∧
      let ev : Evaluator := { wardEvaluator with registry }
      ∃ d, (ev.guard "charts" .update none none wardContext).result = .ok d ∧
        (wardEvaluator.guard "charts" .update none none wardContext).result = .ok d) := by
  have haccepted : Registry.register KeyMap.empty "charts" wardRules =
      .ok wardEvaluator.registry := rfl
  refine ⟨?_, ?_, ?_⟩
  · obtain ⟨registry, hregistry, hanswers⟩ := answers_inserted haccepted .refl
      (p := wardFreeze) (i := 2) (by decide) (by decide) (by decide)
    obtain ⟨hdecisions, -⟩ := hanswers registry .refl .update wardContext
    obtain rfl := Except.ok.inj hregistry
    exact ⟨_, rfl, rfl, (hdecisions wardEvaluator.moment).2.1 rfl rfl⟩
  · obtain ⟨registry, hregistry, hanswers⟩ := answers_inserted haccepted .refl
      (p := wardOnCall) (i := 0) (by decide) (by decide) (by decide)
    obtain ⟨hdecisions, -⟩ := hanswers registry .refl .update wardContext
    exact ⟨registry, hregistry, (hdecisions wardEvaluator.moment).2.2 rfl rfl⟩
  · obtain ⟨registry, hregistry, hanswers⟩ := answers_inserted haccepted .refl
      (p := wardDosed) (i := 3) (by decide) (by decide) (by decide)
    obtain ⟨-, hguard⟩ := hanswers registry .refl .update wardContext
    obtain rfl := Except.ok.inj hregistry
    exact ⟨_, rfl, _, rfl, hguard rfl none none _ rfl⟩

end Evaluator

end RowAccess
