import RowAccess.Proofs.Validation
import RowAccess.Proofs.Filters

/-!
# Policies that make no difference

About one context at one moment, many policies of a table have nothing
to say: they are declared for other operations, take no part, or decide
and do not hold. Such policies are `Idle`. A table declared without some
of its idle policies gives the same answers (`answers_without`): the same
decision up to the entries of the dropped policies in its trace, the same
filters and the same validation.

Dropping happens before the policies are ranked. `Policy.ranked_filter`
moves it behind the ranking; from there each of the three walks is looked
at by itself, as a walk through a filtered list.
-/

namespace RowAccess

/-- Nothing comes of asking the policy about this context at this moment. -/
inductive Policy.Idle (p : Policy) (ctx : Context) (m : Moment) : Prop
  | undeclared (h : p.appliesTo ctx.operation = false)
  | inactive (h : p.isActive m = false)
  | silent (f : Predicate) (hbody : p.body = .allow f ∨ p.body = .deny f)
      (h : f ctx ≠ .value true)

/-- The rules without the policies of some names. -/
def TableRules.without (rules : TableRules) (gone : String → Bool) : TableRules :=
  { rules with policies := rules.policies.filter fun p => !gone p.name }

/-- The decision, with some policies left out of its trace. -/
def Decision.without (d : Decision) (gone : String → Bool) : Decision :=
  { d with trace := d.trace.filter fun t => !gone t.name }

/-! ## Walks through a filtered list -/

section Walks

variable {α β : Type} {keep test : α → Bool} {l : List α}

theorem find?_filter_of_kept (h : ∀ x, l.find? test = some x → keep x = true) :
    (l.filter keep).find? test = l.find? test := by
  induction l with
  | nil => rfl
  | cons x rest ih =>
      rw [List.find?_cons] at h ⊢
      rw [List.filter_cons]
      cases htest : test x with
      | true =>
          rw [htest] at h
          rw [if_pos (h x rfl), List.find?_cons, htest]
      | false =>
          rw [htest] at h
          cases keep x with
          | false => exact ih h
          | true => rw [if_pos rfl, List.find?_cons, htest]; exact ih h

theorem upTo_filter (h : ∀ x, l.find? test = some x → keep x = true) :
    upTo test (l.filter keep) = (upTo test l).filter keep := by
  induction l with
  | nil => rfl
  | cons x rest ih =>
      rw [List.find?_cons] at h
      rw [upTo]
      cases htest : test x with
      | true =>
          rw [htest] at h
          have hkeep := h x rfl
          rw [List.filter_cons_of_pos hkeep, upTo, if_pos htest, if_pos rfl,
            List.filter_cons_of_pos hkeep, List.filter_nil]
      | false =>
          rw [htest] at h
          have hstop : ¬ test x = true := by simp [htest]
          rw [if_neg Bool.false_ne_true, List.filter_cons, List.filter_cons]
          cases hkeep : keep x with
          | false => exact ih h
          | true => rw [if_pos rfl, if_pos rfl, upTo, if_neg hstop, ih h]

theorem filterMap_filter_of_none {give : α → Option β}
    (h : ∀ x ∈ l, keep x = false → give x = none) :
    (l.filter keep).filterMap give = l.filterMap give := by
  rw [List.filterMap_filter]
  refine List.filterMap_congr fun x hx => ?_
  cases hkeep : keep x with
  | false => rw [h x hx hkeep, if_neg Bool.false_ne_true]
  | true => rw [if_pos rfl]

theorem findSome?_filter_of_none {give : α → Option β}
    (h : ∀ x ∈ l, keep x = false → give x = none) :
    (l.filter keep).findSome? give = l.findSome? give := by
  rw [← List.head?_filterMap, ← List.head?_filterMap, filterMap_filter_of_none h]

end Walks

/-! ## What an idle policy gives -/

namespace Policy

variable {p : Policy} {ctx : Context} {m : Moment}

@[simp] theorem entry_name : (p.entry ctx m).name = p.name := by
  unfold entry
  split
  · cases p.verdict ctx <;> rfl
  · rfl

theorem Idle.decides_eq_false (h : p.Idle ctx m) (hop : p.appliesTo ctx.operation = true) :
    p.decides ctx m = false := by
  rw [Bool.eq_false_iff]
  intro hdecides
  obtain ⟨hactive, hverdict⟩ := decides_iff.mp hdecides
  cases h with
  | undeclared hno => exact absurd hop (by simp [hno])
  | inactive hno => exact absurd hactive (by simp [hno])
  | silent f hbody hno =>
      obtain ⟨g, hbody', hg⟩ := verdict_eq_true_iff.mp hverdict
      have hfg : f = g := by
        rcases hbody with hb | hb <;> rcases hbody' with hb' | hb' <;> rw [hb] at hb' <;>
          cases hb' <;> rfl
      exact hno (hfg ▸ hg)

theorem Idle.restriction?_eq_none (h : p.Idle ctx m) : p.restriction? ctx.operation m = none := by
  unfold restriction?
  cases h with
  | undeclared hno => simp [hno]
  | inactive hno => simp [hno]
  | silent f hbody _ =>
      have hfilter : p.body.filter? = none := by rcases hbody with hb | hb <;> rw [hb] <;> rfl
      simp [hfilter]

theorem Idle.failure?_eq_none (h : p.Idle ctx m) : p.failure? ctx m = none := by
  rw [← Option.not_isSome_iff_eq_none, failure?_isSome_iff]
  intro hrefuses
  cases h with
  | undeclared hno => exact absurd hrefuses.declared (by simp [hno])
  | inactive hno => exact absurd hrefuses.active (by simp [hno])
  | silent f hbody _ =>
      obtain ⟨g, hg, -⟩ := hrefuses.fails
      rcases hbody with hb | hb <;> rw [hb] at hg <;> cases hg

end Policy

/-! ## The three walks of a table -/

namespace Table

variable {rules : TableRules} {table : String} {gone : String → Bool} {ctx : Context} {m : Moment}

theorem policies_without (rules : TableRules) (table : String) (gone : String → Bool) :
    ((rules.without gone).compiled table).policies =
      (rules.compiled table).policies.filter fun p => !gone p.name :=
  Policy.ranked_filter _ _

theorem deciders_without (op : Operation) :
    ((rules.without gone).compiled table).deciders op =
      ((rules.compiled table).deciders op).filter fun p => !gone p.name := by
  unfold deciders policiesFor
  rw [policies_without, List.filter_comm (fun p : Policy => p.appliesTo op),
    List.filter_comm Policy.isDecider]

/-- Unless one of the dropped policies decides, the decision is as before. -/
theorem decide_without_of_kept
    (h : ∀ p, ((rules.compiled table).deciders ctx.operation).find? (fun q => q.decides ctx m) =
      some p → (!gone p.name) = true) :
    ((rules.without gone).compiled table).decide ctx m =
      ((rules.compiled table).decide ctx m).without gone := by
  have htrace : (((rules.without gone).compiled table).asked ctx m).map (·.entry ctx m) =
      ((((rules.compiled table).asked ctx m).map (·.entry ctx m)).filter
        fun t => !gone t.name) := by
    unfold asked
    rw [deciders_without, upTo_filter h, List.filter_map]
    simp only [Function.comp_def, Policy.entry_name]
  unfold decide
  rw [htrace, deciders_without, find?_filter_of_kept h]
  cases ((rules.compiled table).deciders ctx.operation).find? fun p => p.decides ctx m <;> rfl

section Dropping

variable (hidle : ∀ p ∈ rules.policies, gone p.name = true → p.Idle ctx m)
include hidle

theorem idle_of_dropped {p : Policy} (hp : p ∈ (rules.compiled table).policies)
    (hgone : (!gone p.name) = false) : p.Idle ctx m :=
  hidle p (Policy.mem_ranked.mp hp) (by simpa using hgone)

theorem decide_without :
    ((rules.without gone).compiled table).decide ctx m =
      ((rules.compiled table).decide ctx m).without gone := by
  refine decide_without_of_kept fun p hfind => ?_
  by_contra hgone
  obtain ⟨hmem, hop⟩ := List.mem_filter.mp
    (List.mem_filter.mp (List.mem_of_find?_eq_some hfind)).1
  have hno := (idle_of_dropped hidle hmem (Bool.eq_false_iff.mpr hgone)).decides_eq_false hop
  have hdecides := List.find?_some hfind
  rw [hno] at hdecides
  cases hdecides

theorem filters_without :
    ((rules.without gone).compiled table).filters ctx m =
      (rules.compiled table).filters ctx m := by
  have hactive : ((rules.without gone).compiled table).activeFilters ctx.operation m =
      (rules.compiled table).activeFilters ctx.operation m := by
    rw [activeFilters_eq, activeFilters_eq, policies_without]
    exact filterMap_filter_of_none fun p hp hgone =>
      (idle_of_dropped hidle hp hgone).restriction?_eq_none
  unfold filters
  rw [hactive]

theorem rejection?_without :
    ((rules.without gone).compiled table).rejection? ctx m =
      (rules.compiled table).rejection? ctx m := by
  rw [rejection?_eq, rejection?_eq, policies_without]
  exact findSome?_filter_of_none fun p hp hgone =>
    (idle_of_dropped hidle hp hgone).failure?_eq_none

end Dropping

end Table

theorem TableRules.WellNamed.without {rules : TableRules} {table : String}
    (h : rules.WellNamed table) (gone : String → Bool) : (rules.without gone).WellNamed table where
  table := h.table
  named := fun p hp => h.named p (List.mem_filter.mp hp).1
  distinct := h.distinct.sublist (List.filter_sublist.map Policy.name)

/-! ## The answers of an evaluator -/

namespace Evaluator

variable {ev : Evaluator} {registry : Registry} {table : String} {rules : TableRules}
  {gone : String → Bool} {ctx : Context} {op : Operation} {m : Moment}

theorem decide_without (ctx : Context)
    (h : ev.registry.find? ctx.table = some (rules.compiled ctx.table))
    (h' : registry.find? ctx.table = some ((rules.without gone).compiled ctx.table))
    (hidle : ∀ p ∈ rules.policies, gone p.name = true → p.Idle ctx m) :
    decide { ev with registry } ctx m = (ev.decide ctx m).without gone := by
  rcases decide_cases m h h' rfl with ⟨reason, hbefore, hafter⟩ | ⟨hbefore, hafter⟩
  · rw [hbefore, hafter]
    rfl
  · rw [hbefore, hafter]
    exact Table.decide_without hidle

/-- Either nothing is enforced, with and without the dropped policies, or both tables are. -/
theorem enforced?_without (ctx : Context)
    (h : ev.registry.find? ctx.table = some (rules.compiled ctx.table))
    (h' : registry.find? ctx.table = some ((rules.without gone).compiled ctx.table)) :
    ev.enforced? ctx = none ∧ enforced? { ev with registry } ctx = none ∨
      ev.enforced? ctx = some (rules.compiled ctx.table) ∧
        enforced? { ev with registry } ctx =
          some ((rules.without gone).compiled ctx.table) := by
  have hreduced : ({ ev with registry } : Evaluator).registry.find? ctx.table =
      some ((rules.without gone).compiled ctx.table) := h'
  rw [enforced?_of_registered h, enforced?_of_registered hreduced]
  by_cases hspared : ctx.caller.isSystem = true ∨
      (rules.compiled ctx.table).exempts ctx.caller = true
  · exact Or.inl ⟨if_pos hspared, if_pos hspared⟩
  · exact Or.inr ⟨if_neg hspared, if_neg hspared⟩

theorem filtersAt_without
    (h : ev.registry.find? table = some (rules.compiled table))
    (h' : registry.find? table = some ((rules.without gone).compiled table))
    (hidle : ∀ p ∈ rules.policies, gone p.name = true → p.Idle (ctx.about table op) m) :
    (filtersAt { ev with registry } table op ctx m).result =
      (ev.filtersAt table op ctx m).result := by
  rcases enforced?_without (ctx.about table op) h h' with ⟨hnone, hnone'⟩ | ⟨hsome, hsome'⟩
  · rw [filtersAt_of_unenforced hnone, filtersAt_of_unenforced hnone']
  · rw [filtersAt_of_enforced hsome, filtersAt_of_enforced hsome']
    exact Table.filters_without hidle

theorem validateAt_without
    (h : ev.registry.find? table = some (rules.compiled table))
    (h' : registry.find? table = some ((rules.without gone).compiled table))
    (hidle : ∀ p ∈ rules.policies, gone p.name = true → p.Idle (ctx.about table op) m) :
    (validateAt { ev with registry } table op ctx m).result =
      (ev.validateAt table op ctx m).result := by
  cases hop : op.carriesPayload with
  | false => simp [validateAt, hop]
  | true =>
      rcases enforced?_without (ctx.about table op) h h' with
        ⟨hnone, hnone'⟩ | ⟨hsome, hsome'⟩
      · rw [validateAt_of_unenforced hnone, validateAt_of_unenforced hnone']
      · rw [validateAt_of_enforced hop hsome, validateAt_of_enforced hop hsome',
          Table.rejection?_without hidle]

/-- Policies that are idle about a call are as good as not declared. The table without any
choice of them is accepted as well, and in its place the call is decided alike, with the dropped
policies missing in the trace, and it meets the same filters and the same validation. -/
theorem answers_without {r r' : Registry}
    (haccepted : Registry.register r table rules = .ok r')
    (hlater : Registry.Extends r' ev.registry) (op : Operation) (ctx : Context) (m : Moment)
    (hidle : ∀ p ∈ rules.policies, gone p.name = true → p.Idle (ctx.about table op) m) :
    ∃ r'', Registry.register r table (rules.without gone) = .ok r'' ∧
      ∀ registry, Registry.Extends r'' registry →
        let ev' : Evaluator := { ev with registry }
        (ev'.evaluateAt table op ctx m).result =
            (ev.evaluateAt table op ctx m).result.without gone ∧
          (ev'.filtersAt table op ctx m).result = (ev.filtersAt table op ctx m).result ∧
          (ev'.validateAt table op ctx m).result = (ev.validateAt table op ctx m).result := by
  obtain ⟨hfree, hnamed, -⟩ := Registry.register_ok_iff.mp haccepted
  have haccepted' := Registry.register_ok_iff.mpr ⟨hfree, hnamed.without gone, rfl⟩
  refine ⟨_, haccepted', fun registry hextends => ?_⟩
  intro ev'
  have h := Registry.find?_of_accepted haccepted hlater
  have h' : ev'.registry.find? table = some ((rules.without gone).compiled table) :=
    Registry.find?_of_accepted haccepted' hextends
  exact ⟨decide_without (ctx.about table op) h h' hidle, filtersAt_without h h' hidle,
    validateAt_without h h' hidle⟩

/-! ### Four idle policies of seven -/

/-- Editors may update their own documents and have to give them a title. A failed look-up, a
freeze that is off, a filter of reads and a check of office hours have no say at midnight. -/
def quietRules : TableRules :=
  let policy (name : String) (priority : Int) (body : PolicyBody) : Policy :=
    { name, operations := [.update], priority, body, activation := none, hints := none }
  { policies :=
      [policy "titled" 0 (.validate fun ctx => .value (ctx.dataValue? "title").isSome),
       policy "broken" 9 (.allow fun _ => .failed "lookup failed"),
       { policy "listed" 3 (.filter fun _ => .value (Row.ofEntries [("open", .bool true)])) with
         operations := [.read] },
       { policy "frozen" 7 (.deny fun _ => .value true) with
         activation := some fun _ => .ok false },
       policy "editors" 0 (.allow fun ctx => .value (ctx.caller.hasRole "editor")),
       { policy "signed" 2 (.validate fun _ => .value false) with
         activation := some (Restriction.hours 8 18).holds },
       policy "own" 1 (.filter fun ctx =>
        .value (Row.ofEntries [("owner", .string ctx.caller.userId)]))]
    defaultDeny := true, exempt := KeyMap.empty }

def quietEvaluator : Evaluator :=
  { registry := KeyMap.empty.insert "docs" (quietRules.compiled "docs")
    environment := defaultEnvironment, features := KeyMap.empty, clock := .fixed default
    audit := none, denyUnregistered := false }

def quietContext : Context :=
  { (default : Context) with caller := (Caller.user "u1").withRoles ["editor"] }

def quietNames (name : String) : Bool := ["broken", "frozen", "listed", "signed"].contains name

/-- Without the four, the editor is still let through and the missing title still noticed. -/
theorem answers_without_quiet :
    (∀ p ∈ quietRules.policies, quietNames p.name = true →
      p.Idle (quietContext.about "docs" .update) quietEvaluator.moment) ∧
    (quietEvaluator.evaluate "docs" .update quietContext).result.trace.map TraceEntry.name =
      ["broken", "frozen", "editors"] ∧
    ∃ registry, Registry.register KeyMap.empty "docs" (quietRules.without quietNames) =
        .ok registry ∧
      let ev : Evaluator := { quietEvaluator with registry }
      (ev.evaluate "docs" .update quietContext).result.policy = some "editors" ∧
        (ev.evaluate "docs" .update quietContext).result.trace.map TraceEntry.name =
          ["editors"] ∧
        (ev.filters "docs" .update quietContext).result =
          .ok ⟨Row.ofEntries [("owner", .string "u1")], ["own"]⟩ ∧
        (ev.validate "docs" .update quietContext).result =
          .error ⟨"docs", .update, "titled", "validation returned false"⟩ := by
  have hidle : ∀ p ∈ quietRules.policies, quietNames p.name = true →
      p.Idle (quietContext.about "docs" .update) quietEvaluator.moment := by
    intro p hp hname
    simp only [quietRules, List.mem_cons, List.not_mem_nil, or_false] at hp
    rcases hp with rfl | rfl | rfl | rfl | rfl | rfl | rfl
    · cases hname
    · exact .silent _ (Or.inl rfl) nofun
    · exact .undeclared rfl
    · exact .inactive rfl
    · cases hname
    · exact .inactive rfl
    · cases hname
  have haccepted : Registry.register KeyMap.empty "docs" quietRules =
      .ok quietEvaluator.registry := rfl
  obtain ⟨registry, hregistry, hanswers⟩ := answers_without haccepted .refl .update quietContext
    quietEvaluator.moment hidle
  obtain ⟨hdecision, hfilters, hvalid⟩ := hanswers registry .refl
  exact ⟨hidle, rfl, registry, hregistry, congrArg Decision.policy hdecision,
    congrArg (fun d : Decision => d.trace.map TraceEntry.name) hdecision, hfilters, hvalid⟩

end Evaluator

end RowAccess
