import Mathlib.Data.List.Nodup
import RowAccess.Filter
import RowAccess.Proofs.Ranking
import RowAccess.Proofs.Registration

/-!
# Merged filters, column by column

The conditions of a read are merged from the back of the ranked filters,
later ones overwriting earlier ones. What comes out is described here
column by column and on the declaration: `Binds` says which value a
column has to meet, namely the one that the first filter in rank asks
for among those that name the column at all.

`get?_filters` is the description of one table, `get?_filtersAt` that of
a registered schema as one caller meets it (`Schema.facing`).
-/

namespace RowAccess

/-! ## Rows as finite maps -/

namespace Entries

variable {α : Type} {es : List (String × α)} {name : String} {v : α}

theorem find?_reverse (h : (names es).Nodup) : find? es.reverse name = find? es name := by
  have hreverse : (names es.reverse).Nodup := by
    rw [names, List.map_reverse]
    exact List.nodup_reverse.mpr h
  ext v
  rw [find?_eq_some_iff h, find?_eq_some_iff hreverse, List.mem_reverse]

end Entries

namespace Row

/-- The columns of the second row win. -/
theorem get?_extend (r s : Row) (k : String) :
    (r.extend s).get? k = (s.get? k).or (r.get? k) := by
  show Entries.find? (Entries.putAll r.entries s.entries) k = _
  rw [Entries.find?_putAll, Entries.find?_reverse s.distinct]
  rfl

theorem satisfies_iff {row conditions : Row} :
    row.satisfies conditions = true ↔ ∀ k v, conditions.get? k = some v →
      (FilterOperator.forValue v).holds (row.get? k) v = true := by
  simp only [satisfies, List.all_eq_true, get?, Entries.find?_eq_some_iff conditions.distinct,
    Prod.forall]

end Row

/-! ## What a filter asks for -/

namespace Policy

/-- A filter that is declared for the operation of the context and takes part. -/
structure Restricts (p : Policy) (ctx : Context) (m : Moment) (f : FilterFunction) : Prop where
  filter : p.body = .filter f
  declared : p.appliesTo ctx.operation = true
  active : p.isActive m = true

/-- The policy wants column `k` to meet `v`. -/
def Asks (p : Policy) (ctx : Context) (m : Moment) (k : String) (v : Value) : Prop :=
  ∃ f row, p.Restricts ctx m f ∧ f ctx = .value row ∧ row.get? k = some v

/-- The policy would restrict, but its function fails or crashes. -/
def FailsToRestrict (p : Policy) (ctx : Context) (m : Moment) : Prop :=
  ∃ f, p.Restricts ctx m f ∧ ∀ row, f ctx ≠ .value row

/-- Column `k` has to meet `v`: that is what the first policy in rank asks for, of those that
name the column. -/
def Binds (ps : List Policy) (ctx : Context) (m : Moment) (k : String) (v : Value) : Prop :=
  ∃ i p, FirstAt ps (fun q => ∃ w, q.Asks ctx m k w) i p ∧ p.Asks ctx m k v

/-- The row meets all that the policies bind. -/
def Admits (ps : List Policy) (ctx : Context) (m : Moment) (row : Row) : Prop :=
  ∀ k v, Binds ps ctx m k v → (FilterOperator.forValue v).holds (row.get? k) v = true

variable {ps : List Policy} {p : Policy} {ctx : Context} {m : Moment} {k : String} {v w : Value}

theorem Restricts.unique {f g : FilterFunction} (hf : p.Restricts ctx m f)
    (hg : p.Restricts ctx m g) : f = g :=
  PolicyBody.filter.inj (hf.filter.symm.trans hg.filter)

theorem Asks.unique (hv : p.Asks ctx m k v) (hw : p.Asks ctx m k w) : v = w := by
  obtain ⟨f, row, hf, hrow, hk⟩ := hv
  obtain ⟨g, row', hg, hrow', hk'⟩ := hw
  obtain rfl := hf.unique hg
  obtain rfl := Outcome.value.inj (hrow.symm.trans hrow')
  exact Option.some.inj (hk.symm.trans hk')

theorem Binds.unique (hv : Binds ps ctx m k v) (hw : Binds ps ctx m k w) : v = w := by
  obtain ⟨i, p, hp, hpv⟩ := hv
  obtain ⟨j, q, hq, hqw⟩ := hw
  obtain rfl := hp.unique hq
  exact hpv.unique hqw

theorem exists_binds :
    (∃ v, Binds ps ctx m k v) ↔ ∃ p ∈ ps, ∃ v, p.Asks ctx m k v := by
  rw [← exists_firstAt]
  constructor
  · rintro ⟨_, i, p, hp, -⟩
    exact ⟨i, p, hp⟩
  · rintro ⟨i, p, hp⟩
    obtain ⟨v, hv⟩ := hp.passes
    exact ⟨v, i, p, hp, hv⟩

/-- `Admits` without a gap: a column that some policy names is bound, and the row meets what
it is bound to. -/
theorem admits_iff {row : Row} :
    Admits ps ctx m row ↔ ∀ k, (∃ p ∈ ps, ∃ w, p.Asks ctx m k w) →
      ∃ v, Binds ps ctx m k v ∧ (FilterOperator.forValue v).holds (row.get? k) v = true := by
  constructor
  · intro h k hnamed
    obtain ⟨v, hv⟩ := exists_binds.mpr hnamed
    exact ⟨v, hv, h k v hv⟩
  · intro h k v hv
    obtain ⟨w, hw, hholds⟩ := h k (exists_binds.mp ⟨v, hv⟩)
    rw [hv.unique hw]
    exact hholds

def given? (f : FilterFunction) (ctx : Context) (k : String) : Option Value :=
  match f ctx with
  | .value row => row.get? k
  | _ => none

/-- The policy with its function, if it is a filter that takes part in the operation. -/
def restriction? (p : Policy) (op : Operation) (m : Moment) : Option (Policy × FilterFunction) :=
  if p.appliesTo op && p.isActive m then p.body.filter?.map fun f => (p, f) else none

/-- `Asks` as a search can use it. -/
def asked? (p : Policy) (ctx : Context) (m : Moment) (k : String) : Option Value :=
  if p.appliesTo ctx.operation && p.isActive m then p.body.filter?.bind fun f => given? f ctx k
  else none

theorem given?_eq_some_iff {f : FilterFunction} :
    given? f ctx k = some v ↔ ∃ row, f ctx = .value row ∧ row.get? k = some v := by
  unfold given?
  cases f ctx <;> simp

theorem asked?_eq_some_iff : p.asked? ctx m k = some v ↔ p.Asks ctx m k v := by
  unfold asked?
  rw [Option.ite_none_right_eq_some, Bool.and_eq_true, Option.bind_eq_some_iff]
  constructor
  · rintro ⟨⟨hop, hactive⟩, f, hbody, hgiven⟩
    obtain ⟨row, hrow, hk⟩ := given?_eq_some_iff.mp hgiven
    refine ⟨f, row, ⟨?_, hop, hactive⟩, hrow, hk⟩
    cases hb : p.body <;> rw [hb] at hbody <;> cases hbody
    rfl
  · rintro ⟨f, row, hf, hrow, hk⟩
    exact ⟨⟨hf.declared, hf.active⟩, f, by rw [hf.filter]; rfl,
      given?_eq_some_iff.mpr ⟨row, hrow, hk⟩⟩

end Policy

/-! ## The merge -/

namespace FilterResult

variable {ctx : Context} {r r' : FilterResult} {fs : List (Policy × FilterFunction)}

theorem merge_ok_iff :
    (∃ r', merge ctx r fs = .ok r') ↔ ∀ pf ∈ fs, ∃ row, pf.2 ctx = .value row := by
  induction fs generalizing r with
  | nil => simp [merge]
  | cons pf rest ih =>
      rw [merge, List.forall_mem_cons]
      cases hf : pf.2 ctx with
      | value row => simpa [Outcome.contain] using ih
      | failed message => simp [Outcome.contain]
      | crashed crash => simp [Outcome.contain]

/-- One more filter in front of a merge. -/
theorem merge_cons_ok {p : Policy} {f : FilterFunction}
    (h : merge ctx r ((p, f) :: fs) = .ok r') :
    ∃ row, f ctx = .value row ∧
      merge ctx ⟨r.conditions.extend row, r.applied ++ [p.name]⟩ fs = .ok r' := by
  rw [merge] at h
  cases hf : f ctx with
  | value row =>
      rw [hf] at h
      exact ⟨row, rfl, h⟩
  | failed message => rw [hf] at h; cases h
  | crashed crash => rw [hf] at h; cases h

/-- A merge fails where its first failing filter does. -/
theorem merge_error_iff {failure : FilterFailure} :
    merge ctx r fs = .error failure ↔
      ∃ before pf after, fs = before ++ pf :: after ∧ failure.policy = pf.1.name ∧
        (pf.2 ctx).contain = .error failure.reason ∧
        ∀ earlier ∈ before, ∃ row, earlier.2 ctx = .value row := by
  induction fs generalizing r with
  | nil => simp [merge]
  | cons pf rest ih =>
      rw [merge]
      constructor
      · intro h
        cases hf : pf.2 ctx with
        | value row =>
            rw [hf] at h
            obtain ⟨before, qg, after, rfl, hname, hreason, hbefore⟩ := ih.mp h
            exact ⟨pf :: before, qg, after, rfl, hname, hreason,
              List.forall_mem_cons.mpr ⟨⟨row, hf⟩, hbefore⟩⟩
        | failed message =>
            rw [hf] at h
            obtain rfl := Except.error.inj h
            exact ⟨[], pf, rest, rfl, rfl, by rw [hf]; rfl, nofun⟩
        | crashed crash =>
            rw [hf] at h
            obtain rfl := Except.error.inj h
            exact ⟨[], pf, rest, rfl, rfl, by rw [hf]; rfl, nofun⟩
      · rintro ⟨before, qg, after, hsplit, hname, hreason, hbefore⟩
        cases before with
        | nil =>
            obtain ⟨rfl, rfl⟩ := List.cons.inj hsplit
            rw [hreason, ← hname]
        | cons first before =>
            obtain ⟨rfl, rfl⟩ := List.cons.inj hsplit
            obtain ⟨⟨row, hrow⟩, hbefore⟩ := List.forall_mem_cons.mp hbefore
            rw [hrow]
            exact ih.mpr ⟨before, qg, after, rfl, hname, hreason, hbefore⟩

/-- A failed merge names a policy whose function gave no conditions. -/
theorem merge_error {failure : FilterFailure} (h : merge ctx r fs = .error failure) :
    ∃ pf ∈ fs, (∀ row, pf.2 ctx ≠ .value row) ∧ failure.policy = pf.1.name := by
  obtain ⟨before, pf, after, rfl, hname, hreason, -⟩ := merge_error_iff.mp h
  refine ⟨pf, List.mem_append_right _ List.mem_cons_self, fun row hrow => ?_, hname⟩
  rw [hrow] at hreason
  cases hreason

/-- The last function that gives a column something has the say about it. -/
theorem get?_merge (h : merge ctx r fs = .ok r') (k : String) :
    r'.conditions.get? k =
      (fs.reverse.findSome? fun pf => Policy.given? pf.2 ctx k).or (r.conditions.get? k) := by
  induction fs generalizing r with
  | nil =>
      obtain rfl := Except.ok.inj h
      rfl
  | cons pf rest ih =>
      obtain ⟨row, hrow, hrest⟩ := merge_cons_ok h
      have hgiven : Policy.given? pf.2 ctx k = row.get? k := by rw [Policy.given?, hrow]
      rw [ih hrest, Row.get?_extend, List.reverse_cons, List.findSome?_append,
        List.findSome?_singleton, hgiven, Option.or_assoc]

end FilterResult

/-! ## The filters of a table -/

namespace Table

variable {rules : TableRules} {table : String} {ctx : Context} {m : Moment}

theorem mem_activeFilters {t : Table} {p : Policy} {f : FilterFunction} :
    (p, f) ∈ t.activeFilters ctx.operation m ↔ p ∈ t.policies ∧ p.Restricts ctx m f := by
  simp only [activeFilters, filterPolicies, policiesFor, List.mem_filter, List.mem_filterMap,
    Option.map_eq_some_iff, Prod.mk.injEq]
  constructor
  · rintro ⟨⟨q, ⟨hmem, hop⟩, g, hbody, rfl, rfl⟩, hactive⟩
    refine ⟨hmem, ?_, hop, hactive⟩
    cases hb : q.body <;> rw [hb] at hbody <;> cases hbody
    rfl
  · rintro ⟨hmem, hf⟩
    exact ⟨⟨p, ⟨hmem, hf.declared⟩, f, by rw [hf.filter]; rfl, rfl, rfl⟩, hf.active⟩

theorem activeFilters_eq (t : Table) (op : Operation) :
    t.activeFilters op m = t.policies.filterMap fun p => p.restriction? op m := by
  unfold activeFilters filterPolicies policiesFor
  induction t.policies with
  | nil => rfl
  | cons p rest ih =>
      rw [List.filterMap_cons, Policy.restriction?, ← ih]
      cases hop : p.appliesTo op with
      | false => simp [hop]
      | true =>
          cases hbody : p.body.filter? with
          | none => simp [hop, hbody]
          | some f => cases hactive : p.isActive m <;> simp [hop, hbody, hactive]

theorem findSome?_activeFilters {t : Table} (k : String) :
    ((t.activeFilters ctx.operation m).findSome? fun pf => Policy.given? pf.2 ctx k) =
      t.policies.findSome? fun p => p.asked? ctx m k := by
  have hasked : ∀ p : Policy, ((p.restriction? ctx.operation m).bind fun pf =>
      Policy.given? pf.2 ctx k) = p.asked? ctx m k := by
    intro p
    unfold Policy.restriction? Policy.asked?
    split
    · exact Option.bind_map
    · rfl
  rw [← List.head?_filterMap, ← List.head?_filterMap, activeFilters_eq, List.filterMap_filterMap]
  simp only [hasked]

theorem filters_ok_iff :
    (∃ r, (rules.compiled table).filters ctx m = .ok r) ↔
      ∀ p ∈ rules.policies, ¬ p.FailsToRestrict ctx m := by
  show (∃ r, FilterResult.merge ctx _ _ = .ok r) ↔ _
  rw [FilterResult.merge_ok_iff]
  simp only [List.mem_reverse, Prod.forall, mem_activeFilters]
  constructor
  · rintro h p hp ⟨f, hf, hfail⟩
    obtain ⟨row, hrow⟩ := h p f ⟨Policy.mem_ranked.mpr hp, hf⟩
    exact hfail row hrow
  · rintro h p f ⟨hp, hf⟩
    by_contra hnone
    exact h p (Policy.mem_ranked.mp hp) ⟨f, hf, fun row hrow => hnone ⟨row, hrow⟩⟩

theorem filters_error {failure : FilterFailure}
    (h : (rules.compiled table).filters ctx m = .error failure) :
    ∃ p ∈ rules.policies, p.FailsToRestrict ctx m ∧ failure.policy = p.name := by
  obtain ⟨⟨p, f⟩, hmem, hfail, hname⟩ := FilterResult.merge_error h
  obtain ⟨hp, hf⟩ := mem_activeFilters.mp (List.mem_reverse.mp hmem)
  exact ⟨p, Policy.mem_ranked.mp hp, ⟨f, hf, hfail⟩, hname⟩

theorem get?_filters {r : FilterResult} (h : (rules.compiled table).filters ctx m = .ok r)
    (k : String) (v : Value) :
    r.conditions.get? k = some v ↔ Policy.Binds rules.policies ctx m k v := by
  have hmerge : FilterResult.merge ctx FilterResult.empty
      ((rules.compiled table).activeFilters ctx.operation m).reverse = .ok r := h
  rw [FilterResult.get?_merge hmerge, List.reverse_reverse, findSome?_activeFilters]
  show ((Policy.ranked rules.policies).findSome? _).or none = some v ↔ _
  rw [Option.or_none, Policy.findSome?_ranked]
  simp only [Policy.Binds, Option.isSome_iff_exists, Policy.asked?_eq_some_iff]

end Table

/-! ## The filters of a schema, as one caller meets them -/

/-- The declared policies that the caller is subject to: those of the table, unless nothing is
asked of the caller there. -/
def Schema.facing (s : Schema) (table : String) (c : Caller) : List Policy :=
  if c.isSystem then []
  else
    match Entries.find? s table with
    | none => []
    | some rules => if c.holdsOneOf rules.exempt then [] else rules.policies

theorem Schema.facing_of_mem {s : Schema} {table : String} {c : Caller} {p : Policy}
    (hp : p ∈ s.facing table c) :
    ∃ rules : TableRules, Entries.find? s table = some rules ∧
      s.facing table c = rules.policies := by
  unfold Schema.facing at hp ⊢
  split at hp
  · cases hp
  · next hsystem =>
      rw [if_neg hsystem]
      split at hp
      · cases hp
      · next rules hrules =>
          split at hp
          · cases hp
          · next hexempt => exact ⟨rules, hrules, if_neg hexempt⟩

/-- No two policies that a caller faces share a name. -/
theorem Schema.Accepted.names_facing {s : Schema} (hs : s.Accepted) (table : String)
    (c : Caller) : ((s.facing table c).map Policy.name).Nodup := by
  unfold Schema.facing
  split
  · exact List.nodup_nil
  · split
    · exact List.nodup_nil
    · next rules hrules =>
        split
        · exact List.nodup_nil
        · exact (hs.wellNamed _ ((Entries.find?_eq_some_iff hs.distinct).mp hrules)).distinct

namespace Evaluator

variable {ev : Evaluator} {s : Schema} {table : String} {op : Operation} {ctx : Context}
  {m : Moment}

theorem enforced?_ofSchema (hreg : Registry.ofSchema s = .ok ev.registry) (ctx : Context) :
    ev.enforced? ctx =
      if ctx.caller.isSystem then none
      else (Entries.find? s ctx.table).bind fun rules : TableRules =>
        if ctx.caller.holdsOneOf rules.exempt then none else some (rules.compiled ctx.table) := by
  unfold enforced?
  rw [Registry.find?_ofSchema hreg]
  cases Entries.find? s ctx.table <;> rfl

/-- Either nothing is enforced and the caller faces no policy, or the compiled rules are and
the caller faces theirs. -/
theorem enforced?_cases (hreg : Registry.ofSchema s = .ok ev.registry) (ctx : Context) :
    ev.enforced? ctx = none ∧ s.facing ctx.table ctx.caller = [] ∨
      ∃ rules : TableRules, ev.enforced? ctx = some (rules.compiled ctx.table) ∧
        s.facing ctx.table ctx.caller = rules.policies := by
  rw [enforced?_ofSchema hreg]
  unfold Schema.facing
  cases ctx.caller.isSystem with
  | true => exact Or.inl ⟨rfl, rfl⟩
  | false =>
      cases Entries.find? s ctx.table with
      | none => exact Or.inl ⟨rfl, rfl⟩
      | some rules =>
          cases hexempt : ctx.caller.holdsOneOf rules.exempt with
          | true => exact Or.inl (by simp [hexempt])
          | false => exact Or.inr ⟨rules, by simp [hexempt]⟩

theorem filtersAt_of_unenforced (h : ev.enforced? (ctx.about table op) = none) :
    (ev.filtersAt table op ctx m).result = .ok FilterResult.empty := by
  simp [filtersAt, h]

theorem filtersAt_of_enforced {t : Table} (h : ev.enforced? (ctx.about table op) = some t) :
    (ev.filtersAt table op ctx m).result = t.filters (ctx.about table op) m := by
  simp [filtersAt, h]

theorem filtersAt_ok_iff (hreg : Registry.ofSchema s = .ok ev.registry) :
    (∃ r, (ev.filtersAt table op ctx m).result = .ok r) ↔
      ∀ p ∈ s.facing table ctx.caller, ¬ p.FailsToRestrict (ctx.about table op) m := by
  rcases enforced?_cases hreg (ctx.about table op) with ⟨hnone, hfacing⟩ | ⟨rules, hsome, hfacing⟩
  · rw [show s.facing table ctx.caller = [] from hfacing, filtersAt_of_unenforced hnone]
    simp
  · rw [show s.facing table ctx.caller = rules.policies from hfacing,
      filtersAt_of_enforced hsome]
    exact Table.filters_ok_iff

theorem filtersAt_error (hreg : Registry.ofSchema s = .ok ev.registry) {failure : FilterFailure}
    (h : (ev.filtersAt table op ctx m).result = .error failure) :
    ∃ p ∈ s.facing table ctx.caller, p.FailsToRestrict (ctx.about table op) m ∧
      failure.policy = p.name := by
  rcases enforced?_cases hreg (ctx.about table op) with ⟨hnone, -⟩ | ⟨rules, hsome, hfacing⟩
  · rw [filtersAt_of_unenforced hnone] at h
    cases h
  · rw [filtersAt_of_enforced hsome] at h
    rw [show s.facing table ctx.caller = rules.policies from hfacing]
    exact Table.filters_error h

theorem get?_filtersAt (hreg : Registry.ofSchema s = .ok ev.registry) {r : FilterResult}
    (h : (ev.filtersAt table op ctx m).result = .ok r) (k : String) (v : Value) :
    r.conditions.get? k = some v ↔
      Policy.Binds (s.facing table ctx.caller) (ctx.about table op) m k v := by
  rcases enforced?_cases hreg (ctx.about table op) with ⟨hnone, hfacing⟩ | ⟨rules, hsome, hfacing⟩
  · rw [filtersAt_of_unenforced hnone] at h
    obtain rfl := Except.ok.inj h
    rw [show s.facing table ctx.caller = [] from hfacing]
    refine ⟨fun hget => (by cases hget), fun ⟨_, p, hp, _⟩ => absurd hp.mem List.not_mem_nil⟩
  · rw [filtersAt_of_enforced hsome] at h
    rw [show s.facing table ctx.caller = rules.policies from hfacing]
    exact Table.get?_filters h k v

/-- The rows that pass the merged conditions are those that the declared policies admit. -/
theorem satisfies_filtersAt_iff (hreg : Registry.ofSchema s = .ok ev.registry)
    {r : FilterResult} (h : (ev.filtersAt table op ctx m).result = .ok r) (row : Row) :
    row.satisfies r.conditions = true ↔
      Policy.Admits (s.facing table ctx.caller) (ctx.about table op) m row := by
  rw [Row.satisfies_iff]
  exact forall₂_congr fun k v => by rw [get?_filtersAt hreg h]

end Evaluator

end RowAccess
