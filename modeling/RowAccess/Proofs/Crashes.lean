import RowAccess.Proofs.Revision
import RowAccess.Proofs.Validation

/-!
# Policies without crashes

The function of a policy and its condition come from the host and may
crash. `Policy.contained` writes down what a crash counts as: a policy
function that crashes has failed, and a condition that crashes says no for
an allow policy and yes for any other. A table of contained policies
decides, filters and validates like the table itself, and an evaluator
over such tables gives the same answers and hands the same records to the
audit (`Report.Agrees`).

Only the log tells the two apart: a crash of a condition is noted there.
-/

namespace RowAccess

/-! ## Outcomes -/

namespace Outcome

variable {α : Type}

/-- The outcome with a crash turned into the failure that reports it. -/
def contained : Outcome α → Outcome α
  | .crashed c => .failed c.report
  | x => x

@[simp] theorem contain_contained (x : Outcome α) : x.contained.contain = x.contain := by
  cases x <;> rfl

theorem contained_ne_crashed (x : Outcome α) (c : Crash) : x.contained ≠ .crashed c := by
  cases x <;> nofun

end Outcome

/-- What was attempted, with a value in place of a crash. -/
def Attempt.orValue {α : Type} (x : Attempt α) (a : α) : Attempt α :=
  match x with
  | .ok b => .ok b
  | .error _ => .ok a

theorem Attempt.map_orValue_ne_error {α β : Type} {g? : Option (β → Attempt α)} {a : α}
    (f : β → Attempt α) (hf : (g?.map fun g x => Attempt.orValue (g x) a) = some f) (x : β)
    (c : Crash) : f x ≠ .error c := by
  obtain ⟨g, -, rfl⟩ := Option.map_eq_some_iff.mp hf
  show Attempt.orValue (g x) a ≠ .error c
  cases g x <;> nofun

/-! ## Declarations -/

def PolicyBody.contained : PolicyBody → PolicyBody
  | .allow f => .allow fun ctx => (f ctx).contained
  | .deny f => .deny fun ctx => (f ctx).contained
  | .filter f => .filter fun ctx => (f ctx).contained
  | .validate f => .validate fun ctx => (f ctx).contained

/-- The policy with failures in place of crashes of its function. A crash of its condition,
restrictions and all, counts as no for an allow policy and as yes for any other. -/
def Policy.contained (p : Policy) : Policy :=
  { p with
    body := p.body.contained
    activation := p.activation.map fun c m => Attempt.orValue (c m) (p.kind != .allow) }

def PolicyBody.CrashFree : PolicyBody → Prop
  | .allow f => ∀ ctx c, f ctx ≠ .crashed c
  | .deny f => ∀ ctx c, f ctx ≠ .crashed c
  | .filter f => ∀ ctx c, f ctx ≠ .crashed c
  | .validate f => ∀ ctx c, f ctx ≠ .crashed c

/-- Neither the function nor the condition of the policy ever crashes. -/
structure Policy.CrashFree (p : Policy) : Prop where
  body : p.body.CrashFree
  activation : ∀ f, p.activation = some f → ∀ m c, f m ≠ .error c

theorem Policy.crashFree_contained (p : Policy) : p.contained.CrashFree where
  body := by
    show p.body.contained.CrashFree
    cases p.body <;> exact fun ctx c => Outcome.contained_ne_crashed _ c
  activation := Attempt.map_orValue_ne_error

/-! ## Single policies -/

namespace Policy

variable {p : Policy} {ctx : Context} {m : Moment} {op : Operation}

@[simp] theorem contained_kind : p.contained.kind = p.kind := by
  show p.body.contained.kind = p.body.kind
  cases p.body <;> rfl

@[simp] theorem contained_isActive : p.contained.isActive m = p.isActive m := by
  have hactivation : p.contained.activation =
      p.activation.map fun c m => Attempt.orValue (c m) (p.kind != .allow) := rfl
  unfold isActive
  rw [contained_kind, hactivation]
  cases p.activation with
  | none => rfl
  | some c =>
      simp only [Option.map_some]
      cases c m <;> rfl

@[simp] theorem contained_verdict : p.contained.verdict ctx = p.verdict ctx := by
  have hdecider : p.contained.body.decider? =
      p.body.decider?.map fun f ctx => (f ctx).contained := by
    show p.body.contained.decider? = _
    cases p.body <;> rfl
  unfold verdict
  rw [hdecider]
  cases p.body.decider? with
  | none => rfl
  | some f => exact Outcome.contain_contained (f ctx)

@[simp] theorem contained_entry : p.contained.entry ctx m = p.entry ctx m := by
  unfold entry
  rw [contained_isActive, contained_verdict, contained_kind]
  rfl

@[simp] theorem contained_decides : p.contained.decides ctx m = p.decides ctx m :=
  congrArg TraceEntry.matched contained_entry

theorem contained_failure? : p.contained.failure? ctx m = p.failure? ctx m := by
  have hvalidator : p.contained.body.validator? =
      p.body.validator?.map fun f ctx => (f ctx).contained := by
    show p.body.contained.validator? = _
    cases p.body <;> rfl
  have hobjection : p.contained.objection? ctx = p.objection? ctx := by
    unfold objection?
    rw [hvalidator]
    cases p.body.validator? with
    | none => rfl
    | some f => simp only [Option.map_some, Outcome.contain_contained]
  unfold failure?
  rw [contained_isActive, hobjection]
  rfl

/-- The filter of a contained policy, as the filters of a table are listed. -/
def containedFilter (pf : Policy × FilterFunction) : Policy × FilterFunction :=
  (pf.1.contained, fun ctx => (pf.2 ctx).contained)

theorem contained_restriction? :
    p.contained.restriction? op m = (p.restriction? op m).map containedFilter := by
  have hbody : (p.contained.body.filter?.map fun f => (p.contained, f)) =
      (p.body.filter?.map fun f => (p, f)).map containedFilter := by
    obtain ⟨name, operations, priority, body, activation, hints⟩ := p
    cases body <;> rfl
  exact restriction?_mapped rfl contained_isActive hbody

theorem runBody_contained (b : PolicyBody) :
    Evaluator.runBody b.contained ctx = Evaluator.runBody b ctx := by
  cases b <;> simp only [PolicyBody.contained, Evaluator.runBody, Outcome.contain_contained]

theorem byPolicy_contained (p : Policy) (trace : List TraceEntry) :
    Decision.byPolicy p.contained trace = Decision.byPolicy p trace := by
  unfold Decision.byPolicy Decision.matchedReason
  rw [contained_kind]
  rfl

end Policy

theorem FilterResult.merge_contained (ctx : Context) (r : FilterResult)
    (fs : List (Policy × FilterFunction)) :
    merge ctx r (fs.map Policy.containedFilter) = merge ctx r fs := by
  induction fs generalizing r with
  | nil => rfl
  | cons pf rest ih =>
      obtain ⟨p, f⟩ := pf
      rw [List.map_cons, Policy.containedFilter, merge, merge, Outcome.contain_contained]
      cases (f ctx).contain with
      | error e => rfl
      | ok row => exact ih _

/-! ## Tables -/

theorem upTo_map {α β : Type} (test : β → Bool) (f : α → β) (l : List α) :
    upTo test (l.map f) = (upTo (fun a => test (f a)) l).map f := by
  induction l with
  | nil => rfl
  | cons a rest ih =>
      rw [List.map_cons, upTo, upTo, ih]
      split <;> rfl

namespace Table

variable {ctx : Context} {m : Moment}

def contained (t : Table) : Table := { t with policies := t.policies.map Policy.contained }

theorem compiled_contained (rules : TableRules) (table : String) :
    (rules.revised Policy.contained).compiled table = (rules.compiled table).contained := by
  have hpolicies : ((rules.revised Policy.contained).compiled table).policies =
      (rules.compiled table).policies.map Policy.contained :=
    policies_revised (f := Policy.contained) (fun _ => rfl) table
  unfold contained
  rw [← hpolicies]
  rfl

theorem decide_contained (t : Table) : t.contained.decide ctx m = t.decide ctx m := by
  have hdeciders : t.contained.deciders ctx.operation =
      (t.deciders ctx.operation).map Policy.contained :=
    deciders_mapped rfl (fun _ => rfl) fun _ => Policy.contained_kind
  have htrace : (t.contained.asked ctx m).map (·.entry ctx m) =
      (t.asked ctx m).map (·.entry ctx m) := by
    unfold asked
    rw [hdeciders, upTo_map, List.map_map]
    simp only [Function.comp_def, Policy.contained_entry, Policy.contained_decides]
  unfold decide
  rw [htrace, hdeciders, List.find?_map]
  simp only [Function.comp_def, Policy.contained_decides]
  cases (t.deciders ctx.operation).find? fun p => p.decides ctx m with
  | none => rfl
  | some p => exact Policy.byPolicy_contained p _

theorem filters_contained (t : Table) : t.contained.filters ctx m = t.filters ctx m := by
  have hactive : t.contained.activeFilters ctx.operation m =
      (t.activeFilters ctx.operation m).map Policy.containedFilter :=
    activeFilters_mapped rfl fun _ => Policy.contained_restriction?
  unfold filters
  rw [hactive, ← List.map_reverse]
  exact FilterResult.merge_contained ctx _ _

theorem rejection?_contained (t : Table) : t.contained.rejection? ctx m = t.rejection? ctx m := by
  rw [rejection?_eq, rejection?_eq]
  show (t.policies.map Policy.contained).findSome? _ = _
  rw [List.findSome?_map]
  exact congrArg (fun give => List.findSome? give _) (funext fun _ => Policy.contained_failure?)

end Table

/-! ## Reports that agree -/

/-- The answers are the same and so is what the audit keeps; the lines of the log may differ. -/
structure Report.Agrees {α : Type} (r s : Report α) : Prop where
  result : r.result = s.result
  records : r.records = s.records

namespace Report.Agrees

variable {α β : Type} {r s : Report α}

theorem refl (r : Report α) : r.Agrees r := ⟨rfl, rfl⟩

theorem noting (a : α) (es es' : List LogEvent) :
    (Report.noting a es).Agrees (Report.noting a es') :=
  ⟨rfl, rfl⟩

theorem map (h : r.Agrees s) (f : α → β) : (r.map f).Agrees (s.map f) where
  result := congrArg f h.result
  records := h.records

theorem andThen {f g : α → Report β} (h : r.Agrees s) (hfg : ∀ a, (f a).Agrees (g a)) :
    (r.andThen f).Agrees (s.andThen g) where
  result := by
    rw [result_andThen, result_andThen, h.result]
    exact (hfg _).result
  records := by
    rw [records_andThen, records_andThen, h.result, h.records, (hfg _).records]

theorem forEach {f g : α → Report β} (hfg : ∀ a, (f a).Agrees (g a)) (xs : List α) :
    (Report.forEach f xs).Agrees (Report.forEach g xs) := by
  induction xs with
  | nil => exact refl _
  | cons x rest ih => exact (hfg x).andThen fun y => ih.map (y :: ·)

end Report.Agrees

/-! ## Evaluators -/

theorem Registry.find?_contained {s : Schema} {r r' : Registry} (hreg : ofSchema s = .ok r)
    (hreg' : ofSchema (s.revised fun _ => Policy.contained) = .ok r') (table : String) :
    r'.find? table = (r.find? table).map Table.contained := by
  rw [find?_ofSchema hreg, find?_ofSchema hreg', Schema.find?_revised, Option.map_map,
    Option.map_map]
  exact congrArg (fun f => Option.map f _)
    (funext fun rules => Table.compiled_contained rules table)

namespace Evaluator

section

variable {ev : Evaluator} {registry : Registry} {ctx : Context} {m : Moment}
  (hfind : ∀ table, registry.find? table = (ev.registry.find? table).map Table.contained)

include hfind

theorem decide_contained : decide { ev with registry } ctx m = ev.decide ctx m := by
  unfold decide
  rw [hfind]
  cases ev.registry.find? ctx.table with
  | none => rfl
  | some t =>
      rw [Option.map_some]
      simp only [Table.decide_contained]
      rfl

theorem enforced?_contained :
    enforced? { ev with registry } ctx = (ev.enforced? ctx).map Table.contained := by
  unfold enforced?
  rw [hfind]
  cases ctx.caller.isSystem with
  | true => rfl
  | false =>
      cases ev.registry.find? ctx.table with
      | none => rfl
      | some t =>
          show (if t.exempts ctx.caller then none else some t.contained) =
            (if t.exempts ctx.caller then none else some t).map Table.contained
          split <;> rfl

theorem evaluateAt_agrees (table : String) (op : Operation) :
    (ev.evaluateAt table op ctx m).Agrees (evaluateAt { ev with registry } table op ctx m) where
  result := (decide_contained hfind).symm
  records := by
    show (ev.auditNotes _).2 = (auditNotes { ev with registry } _).2
    rw [decide_contained hfind]
    rfl

theorem filtersAt_agrees (table : String) (op : Operation) :
    (ev.filtersAt table op ctx m).Agrees (filtersAt { ev with registry } table op ctx m) := by
  unfold filtersAt
  simp only [enforced?_contained hfind]
  cases ev.enforced? (ctx.about table op) with
  | none => exact .refl _
  | some t =>
      simp only [Option.map_some, Table.filters_contained]
      exact .noting _ _ _

theorem validateAt_agrees (table : String) (op : Operation) :
    (ev.validateAt table op ctx m).Agrees (validateAt { ev with registry } table op ctx m) := by
  unfold validateAt
  simp only [enforced?_contained hfind]
  split
  · cases ev.enforced? (ctx.about table op) with
    | none => exact .refl _
    | some t =>
        simp only [Option.map_some, Table.rejection?_contained]
        cases t.rejection? (ctx.about table op) m with
        | none => exact .noting _ _ _
        | some v => exact .noting _ _ _
  · exact .refl _

theorem testPolicy?_contained (table name : String) :
    testPolicy? { ev with registry } table name ctx = ev.testPolicy? table name ctx := by
  unfold testPolicy?
  rw [hfind]
  cases ev.registry.find? table with
  | none => rfl
  | some t =>
      have hpolicy : t.contained.policy? name = (t.policy? name).map Policy.contained := by
        show (t.policies.map Policy.contained).find? _ = _
        rw [List.find?_map]
        rfl
      show (t.contained.policy? name).map _ = (t.policy? name).map _
      rw [hpolicy, Option.map_map]
      exact congrArg (fun f => Option.map f _) (funext fun p => Policy.runBody_contained p.body)

theorem transform_agrees (q : Query) (table : String) :
    (ev.transform q table ctx).Agrees (transform { ev with registry } q table ctx) := by
  refine (evaluateAt_agrees hfind table .read).andThen fun d => ?_
  split
  · exact (filtersAt_agrees hfind table .read).andThen fun r => .refl _
  · exact .refl _

theorem guard_agrees (table : String) (op : Operation) (existing data : Option Row) :
    (ev.guard table op existing data ctx).Agrees
      (guard { ev with registry } table op existing data ctx) := by
  unfold guard
  refine .andThen (evaluateAt_agrees hfind table op) fun d => ?_
  split
  · exact .map (validateAt_agrees hfind table op) _
  · exact .refl _

end

end Evaluator

end RowAccess
