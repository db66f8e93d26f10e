import RowAccess.Proofs.Decisions
import RowAccess.Proofs.Filters

/-!
# Schemas revised policy by policy

The same schema with something in its policies changed: `revised`
applies a function to every policy and keeps the rest of each table. As
long as the function keeps names the revised schema is accepted if the
schema is, and as long as it keeps priorities the policies keep their
ranks; what a caller faces is what was faced before, policy by policy.

A revision of filters alone changes no decision (`decide_revised`).
-/

namespace RowAccess

def TableRules.revised (rules : TableRules) (f : Policy → Policy) : TableRules :=
  { rules with policies := rules.policies.map f }

/-- The function may depend on the table. -/
def Schema.revised (s : Schema) (f : String → Policy → Policy) : Schema :=
  s.map fun e => (e.1, TableRules.revised e.2 (f e.1))

def EngineParts.revised (p : EngineParts) (f : String → Policy → Policy) : EngineParts :=
  { p with schema := p.schema.revised f }

/-! ## Acceptance -/

theorem TableRules.WellNamed.revised {rules : TableRules} {table : String}
    (h : rules.WellNamed table) {f : Policy → Policy} (hf : ∀ q, (f q).name = q.name) :
    (rules.revised f).WellNamed table where
  table := h.table
  named := by
    intro p hp
    obtain ⟨q, hq, rfl⟩ := List.mem_map.mp hp
    rw [hf]
    exact h.named q hq
  distinct := by
    have hnames : (rules.revised f).policies.map Policy.name = rules.policies.map Policy.name := by
      simp [TableRules.revised, Function.comp_def, hf]
    rw [hnames]
    exact h.distinct

namespace Schema

variable {s : Schema} {f : String → Policy → Policy}

theorem find?_revised (table : String) :
    Entries.find? (s.revised f) table =
      (Entries.find? s table).map fun rules => rules.revised (f table) := by
  unfold revised
  induction s with
  | nil => rfl
  | cons e rest ih =>
      rw [List.map_cons, Entries.find?, Entries.find?, ih]
      by_cases h : e.1 = table
      · rw [if_pos h, if_pos h, h]; rfl
      · rw [if_neg h, if_neg h]

theorem Accepted.revised (h : s.Accepted) (hf : ∀ table q, (f table q).name = q.name) :
    (s.revised f).Accepted where
  distinct := by
    have hnames : Entries.names (s.revised f) = Entries.names s := by
      simp [Schema.revised, Entries.names, Function.comp_def]
    rw [hnames]
    exact h.distinct
  wellNamed := by
    intro e he
    obtain ⟨d, hd, rfl⟩ := List.mem_map.mp he
    exact (h.wellNamed d hd).revised (hf d.1)

theorem facing_revised (table : String) (c : Caller) :
    (s.revised f).facing table c = (s.facing table c).map (f table) := by
  unfold facing
  rw [find?_revised]
  cases c.isSystem with
  | true => rfl
  | false =>
      cases Entries.find? s table with
      | none => rfl
      | some rules =>
          cases h : c.holdsOneOf rules.exempt with
          | true => simp [TableRules.revised, h]
          | false => simp [TableRules.revised, h]

end Schema

/-! ## Tables -/

theorem Policy.restriction?_mapped {p p' : Policy} {op : Operation} {m : Moment}
    {g : Policy × FilterFunction → Policy × FilterFunction}
    (hop : p'.appliesTo op = p.appliesTo op) (hactive : p'.isActive m = p.isActive m)
    (hbody : (p'.body.filter?.map fun f => (p', f)) =
      (p.body.filter?.map fun f => (p, f)).map g) :
    p'.restriction? op m = (p.restriction? op m).map g := by
  unfold restriction?
  rw [hop, hactive, hbody]
  split <;> rfl

namespace Table

variable {t t' : Table} {rules : TableRules} {f : Policy → Policy} {op : Operation} {m : Moment}

theorem policies_revised (hf : ∀ q, (f q).priority = q.priority) (table : String) :
    ((rules.revised f).compiled table).policies = (rules.compiled table).policies.map f :=
  Policy.ranked_map hf rules.policies

theorem deciders_mapped (hpolicies : t'.policies = t.policies.map f)
    (hop : ∀ q, (f q).appliesTo op = q.appliesTo op) (hkind : ∀ q, (f q).kind = q.kind) :
    t'.deciders op = (t.deciders op).map f := by
  have happlies : (fun q => Policy.appliesTo q op) ∘ f = fun q => Policy.appliesTo q op :=
    funext hop
  have hdecider : Policy.isDecider ∘ f = Policy.isDecider := by
    funext q
    rw [Function.comp_apply, Bool.eq_iff_iff, Policy.isDecider_iff, Policy.isDecider_iff, hkind]
  unfold deciders policiesFor
  rw [hpolicies, List.filter_map, List.filter_map, happlies, hdecider]

theorem activeFilters_mapped {g : Policy × FilterFunction → Policy × FilterFunction}
    (hpolicies : t'.policies = t.policies.map f)
    (hg : ∀ q, (f q).restriction? op m = (q.restriction? op m).map g) :
    t'.activeFilters op m = (t.activeFilters op m).map g := by
  rw [activeFilters_eq, activeFilters_eq, hpolicies, List.filterMap_map, List.map_filterMap]
  exact congrArg (fun give => List.filterMap give _) (funext hg)

end Table

/-! ## Engines and evaluators -/

theorem EngineParts.build_revised {p : EngineParts} {e : Engine} (h : p.build = .ok e)
    {f : String → Policy → Policy} (hf : ∀ table q, (f table q).name = q.name) :
    ∃ registry, Registry.ofSchema (p.schema.revised f) = .ok registry ∧
      (p.revised f).build = .ok { e with evaluator := { e.evaluator with registry } } := by
  obtain ⟨hfault, registry, fields, hrows, hcolumns, rfl⟩ := EngineParts.build_ok_iff.mp h
  have haccepted := Registry.ofSchema_ok_iff.mp ⟨registry, hrows⟩
  obtain ⟨registry', hrows'⟩ := Registry.ofSchema_ok_iff.mpr (haccepted.revised hf)
  exact ⟨registry', hrows',
    EngineParts.build_ok_iff.mpr ⟨hfault, registry', fields, hrows', hcolumns, rfl⟩⟩

/-- The revised rules are enforced where those of before are. -/
theorem Evaluator.enforced?_revised {ev : Evaluator} {s : Schema} {f : String → Policy → Policy}
    {registry : Registry} (hreg : Registry.ofSchema s = .ok ev.registry)
    (hreg' : Registry.ofSchema (s.revised f) = .ok registry) (ctx : Context) :
    ev.enforced? ctx = none ∧ enforced? { ev with registry } ctx = none ∨
      ∃ rules : TableRules, ev.enforced? ctx = some (rules.compiled ctx.table) ∧
        enforced? { ev with registry } ctx =
          some ((rules.revised (f ctx.table)).compiled ctx.table) := by
  rw [enforced?_ofSchema hreg, enforced?_ofSchema hreg', Schema.find?_revised]
  cases ctx.caller.isSystem with
  | true => exact Or.inl ⟨rfl, rfl⟩
  | false =>
      cases Entries.find? s ctx.table with
      | none => exact Or.inl ⟨rfl, rfl⟩
      | some rules =>
          cases hexempt : ctx.caller.holdsOneOf rules.exempt with
          | true => exact Or.inl (by simp [TableRules.revised, hexempt])
          | false => exact Or.inr ⟨rules, by simp [TableRules.revised, hexempt]⟩

/-! ## Revised filters -/

/-- The function keeps what ranks a policy and says when it applies, and touches filters only. -/
structure Policy.RevisesFilters (ps : List Policy) (f : Policy → Policy) : Prop where
  priority : ∀ q, (f q).priority = q.priority
  kind : ∀ q, (f q).kind = q.kind
  operations : ∀ q op, (f q).appliesTo op = q.appliesTo op
  others : ∀ q ∈ ps, q.kind ≠ .filter → f q = q

theorem Table.deciders_revised {rules : TableRules} {f : Policy → Policy}
    (hf : Policy.RevisesFilters rules.policies f) (table : String) (op : Operation) :
    ((rules.revised f).compiled table).deciders op = (rules.compiled table).deciders op := by
  rw [deciders_mapped (policies_revised hf.priority table) (fun q => hf.operations q op) hf.kind]
  refine (List.map_congr_left fun q hq => ?_).trans (List.map_id _)
  obtain ⟨hmem, hdecides⟩ := List.mem_filter.mp hq
  refine hf.others q (Policy.mem_ranked.mp (List.mem_filter.mp hmem).1) fun hkind => ?_
  rcases Policy.isDecider_iff.mp hdecides with h | h <;> rw [hkind] at h <;> cases h

theorem Evaluator.decide_revised {ev : Evaluator} {s : Schema} {f : String → Policy → Policy}
    {registry : Registry} (hreg : Registry.ofSchema s = .ok ev.registry)
    (hreg' : Registry.ofSchema (s.revised f) = .ok registry) {ctx : Context}
    (hf : ∀ rules, (ctx.table, rules) ∈ s → Policy.RevisesFilters rules.policies (f ctx.table))
    (m : Moment) :
    Evaluator.decide { ev with registry } ctx m = ev.decide ctx m := by
  unfold Evaluator.decide
  rw [Registry.find?_ofSchema hreg, Registry.find?_ofSchema hreg', Schema.find?_revised]
  cases hfind : Entries.find? s ctx.table with
  | none => rfl
  | some rules =>
      have hs := Registry.ofSchema_ok_iff.mp ⟨_, hreg⟩
      have hdeciders := Table.deciders_revised
        (hf rules ((Entries.find?_eq_some_iff hs.distinct).mp hfind)) ctx.table
      have hdecide : ((rules.revised (f ctx.table)).compiled ctx.table).decide ctx m =
          (rules.compiled ctx.table).decide ctx m := by
        unfold Table.decide Table.asked
        rw [hdeciders]
        rfl
      simp only [Option.map_some, hdecide]
      rfl

end RowAccess
