import Mathlib.Data.List.Nodup
import RowAccess.Proofs.Filters

/-!
# The order of declarations

How a schema is written down matters in one place only: policies of
equal priority are asked in the order of their declaration. Apart from
that the policies of a table may be declared in any order
(`ranked_eq_of_perm`: ranked, two such declarations are the same list),
and so may the tables, since nothing that is said about one table looks
at another one (`evaluateAt_congr` and its like).

`answers_reordered` puts both together: two schemas that agree on a
table up to such an order give the same reports about it, to the last
trace entry, log line and audit record.
-/

namespace RowAccess

/-! ## Orders of a list without doubles -/

/-- Without doubles, two members cannot each stand before the other. -/
theorem not_pair_sublist_swap {α : Type} {l : List α} (hl : l.Nodup) {a b : α}
    (hab : [a, b].Sublist l) : ¬ [b, a].Sublist l := by
  intro hba
  induction l with
  | nil => cases hab
  | cons x rest ih =>
      obtain ⟨hx, hrest⟩ := List.nodup_cons.mp hl
      cases hab with
      | cons _ hab =>
          cases hba with
          | cons _ hba => exact ih hrest hab hba
          | cons_cons _ _ => exact hx (hab.subset (by simp))
      | cons_cons _ hb =>
          cases hba with
          | cons _ hba => exact hx (hba.subset (by simp))
          | cons_cons _ _ => exact hx (List.singleton_sublist.mp hb)

namespace Policy

/-- Of two ranked policies the first one has the higher priority, or the same and an earlier
place in the declaration. -/
theorem ranked_pairwise (ps : List Policy) :
    (ranked ps).Pairwise fun p q =>
      q.priority < p.priority ∨ q.priority = p.priority ∧ [p, q].Sublist ps := by
  rw [List.pairwise_iff_forall_sublist]
  intro p q hpq
  have hle : q.priority ≤ p.priority :=
    List.pairwise_iff_forall_sublist.mp (ranked_sorted ps) hpq
  rcases Int.lt_or_eq_of_le hle with hlt | heq
  · exact Or.inl hlt
  · exact Or.inr ⟨heq, (pair_sublist_ranked_iff heq.symm).mp hpq⟩

/-- Two policies cannot each rank before the other. -/
theorem rank_asymm {ps : List Policy} (hps : ps.Nodup) {p q : Policy}
    (hpq : q.priority < p.priority ∨ q.priority = p.priority ∧ [p, q].Sublist ps) :
    ¬ (p.priority < q.priority ∨ p.priority = q.priority ∧ [q, p].Sublist ps) := by
  intro hqp
  rcases hpq with hlt | ⟨heq, hpq⟩ <;> rcases hqp with hlt' | ⟨heq', hqp⟩
  · omega
  · omega
  · omega
  · exact absurd hqp (not_pair_sublist_swap hps hpq)

/-- Ranking forgets the order of a declaration, except among equal priorities. -/
theorem ranked_eq_of_perm {ps qs : List Policy} (hqs : qs.Nodup) (hperm : ps.Perm qs)
    (hties : ∀ {p q : Policy}, p.priority = q.priority → [p, q].Sublist ps → [p, q].Sublist qs) :
    ranked ps = ranked qs := by
  have hps : (ranked ps).Pairwise fun p q =>
      q.priority < p.priority ∨ q.priority = p.priority ∧ [p, q].Sublist qs :=
    (ranked_pairwise ps).imp fun h => h.imp_right fun ⟨heq, hpq⟩ => ⟨heq, hties heq.symm hpq⟩
  exact List.Perm.eq_of_pairwise (fun p q _ _ hpq hqp => absurd hqp (rank_asymm hqs hpq)) hps
    (ranked_pairwise qs) ((ranked_perm ps).trans (hperm.trans (ranked_perm qs).symm))

end Policy

/-! ## One table, declared twice -/

/-- The second declaration has the policies of the first in another order, which is the same
among policies of equal priority, and the rest is the same. -/
structure TableRules.Reordered (rules rules' : TableRules) : Prop where
  policies : rules.policies.Perm rules'.policies
  ties : ∀ {p q : Policy}, p.priority = q.priority →
    [p, q].Sublist rules.policies → [p, q].Sublist rules'.policies
  defaultDeny : rules.defaultDeny = rules'.defaultDeny
  exempt : rules.exempt = rules'.exempt

theorem TableRules.Reordered.compiled_eq {rules rules' : TableRules} {table : String}
    (h : rules.Reordered rules') (hnamed : rules'.WellNamed table) :
    rules.compiled table = rules'.compiled table := by
  have hranked : Policy.ranked rules.policies = Policy.ranked rules'.policies :=
    Policy.ranked_eq_of_perm hnamed.distinct.of_map h.policies h.ties
  unfold TableRules.compiled
  rw [hranked, h.defaultDeny, h.exempt]

/-! ## One table among others -/

namespace Evaluator

variable {ev : Evaluator} {table : String}

section

variable {registry : Registry} (h : registry.find? table = ev.registry.find? table)
  (op : Operation) (ctx : Context) (m : Moment)

include h

theorem enforced?_congr :
    enforced? { ev with registry } (ctx.about table op) = ev.enforced? (ctx.about table op) := by
  have hfind : registry.find? (ctx.about table op).table =
      ev.registry.find? (ctx.about table op).table := h
  unfold enforced?
  rw [hfind]

theorem evaluateAt_congr :
    evaluateAt { ev with registry } table op ctx m = ev.evaluateAt table op ctx m := by
  have hfind : registry.find? (ctx.about table op).table =
      ev.registry.find? (ctx.about table op).table := h
  have hdecide : decide { ev with registry } (ctx.about table op) m =
      ev.decide (ctx.about table op) m := by
    unfold decide
    rw [hfind]
  have hevents : decideEvents { ev with registry } (ctx.about table op) m =
      ev.decideEvents (ctx.about table op) m := by
    unfold decideEvents
    rw [hfind]
  unfold evaluateAt
  simp only [hdecide, hevents]
  rfl

theorem filtersAt_congr :
    filtersAt { ev with registry } table op ctx m = ev.filtersAt table op ctx m := by
  have henforced := enforced?_congr h op ctx
  unfold filtersAt
  simp only [henforced]

theorem validateAt_congr :
    validateAt { ev with registry } table op ctx m = ev.validateAt table op ctx m := by
  have henforced := enforced?_congr h op ctx
  unfold validateAt
  simp only [henforced]

theorem testPolicy?_congr (name : String) :
    testPolicy? { ev with registry } table name ctx = ev.testPolicy? table name ctx := by
  unfold testPolicy?
  rw [h]

end

/-- Two accepted schemas whose declarations of one table differ in the order of its policies
alone, equal priorities kept in order, give the same reports about this table: the decision with
its trace, the merged conditions in their order with the filters they come from, the validation
and the run of a single policy. Where the table stands in its schema, and which other tables are
declared there, makes no difference. -/
theorem answers_reordered {s s' : Schema} {registry : Registry} {rules rules' : TableRules}
    (hreg : Registry.ofSchema s = .ok ev.registry) (hreg' : Registry.ofSchema s' = .ok registry)
    (hrules : (table, rules) ∈ s) (hrules' : (table, rules') ∈ s')
    (hsame : rules.Reordered rules') (op : Operation) (ctx : Context) (m : Moment) :
    let ev' : Evaluator := { ev with registry }
    ev'.evaluateAt table op ctx m = ev.evaluateAt table op ctx m ∧
      ev'.filtersAt table op ctx m = ev.filtersAt table op ctx m ∧
      ev'.validateAt table op ctx m = ev.validateAt table op ctx m ∧
      ∀ name, ev'.testPolicy? table name ctx = ev.testPolicy? table name ctx := by
  intro ev'
  have hs := Registry.ofSchema_ok_iff.mp ⟨_, hreg⟩
  have hs' := Registry.ofSchema_ok_iff.mp ⟨_, hreg'⟩
  have hfind : registry.find? table = ev.registry.find? table := by
    rw [Registry.find?_ofSchema hreg, Registry.find?_ofSchema hreg',
      (Entries.find?_eq_some_iff hs.distinct).mpr hrules,
      (Entries.find?_eq_some_iff hs'.distinct).mpr hrules', Option.map_some, Option.map_some,
      hsame.compiled_eq (hs'.wellNamed _ hrules')]
  exact ⟨evaluateAt_congr hfind op ctx m, filtersAt_congr hfind op ctx m,
    validateAt_congr hfind op ctx m, testPolicy?_congr hfind ctx⟩

/-! ### A filter that changes its place -/

def shelfPolicy (name : String) (priority : Int) (body : PolicyBody) : Policy :=
  { name, operations := [.read], priority, body, activation := none, hints := none }

def shelfTenant : Policy :=
  shelfPolicy "tenant" 5 (.filter fun _ => .value (Row.ofEntries [("tenant", .string "a")]))

def shelfOpen : Policy :=
  shelfPolicy "open" 0 (.filter fun _ =>
    .value (Row.ofEntries [("status", .string "open"), ("tenant", .null)]))

def shelfReaders : Policy := shelfPolicy "readers" 0 (.allow fun _ => .failed "no directory")

def shelfFrozen : Policy := shelfPolicy "frozen" 0 (.deny fun _ => .value true)

def shelfRules (policies : List Policy) : TableRules :=
  { policies, defaultDeny := false, exempt := KeyMap.empty }

/-- The filter of the tenant is declared first here and third in the other schema. -/
def shelfSchema : Schema :=
  [("docs", shelfRules [shelfTenant, shelfOpen, shelfReaders, shelfFrozen]),
   ("logs", shelfRules [shelfFrozen])]

def shelfSchemaMoved : Schema :=
  [("notes", shelfRules []),
   ("docs", shelfRules [shelfOpen, shelfReaders, shelfTenant, shelfFrozen])]

def shelfEvaluator : Evaluator :=
  { registry :=
      (KeyMap.empty.insert "docs"
        ((shelfRules [shelfTenant, shelfOpen, shelfReaders, shelfFrozen]).compiled "docs")).insert
        "logs" ((shelfRules [shelfFrozen]).compiled "logs")
    environment := defaultEnvironment, features := KeyMap.empty, clock := .fixed default
    audit := none, denyUnregistered := false }

theorem shelf_reordered :
    (shelfRules [shelfTenant, shelfOpen, shelfReaders, shelfFrozen]).Reordered
      (shelfRules [shelfOpen, shelfReaders, shelfTenant, shelfFrozen]) where
  policies :=
    (List.Perm.swap shelfOpen shelfTenant _).trans
      ((List.Perm.swap shelfReaders shelfTenant _).cons _)
  ties := by
    intro p q hpq hsub
    cases hsub with
    | cons _ h =>
        have hmoved : [shelfOpen, shelfReaders, shelfFrozen].Sublist
            [shelfOpen, shelfReaders, shelfTenant, shelfFrozen] := by simp
        exact h.trans hmoved
    | cons_cons _ h =>
        -- nothing behind the filter of the tenant has its priority
        have hq : q ∈ [shelfOpen, shelfReaders, shelfFrozen] := List.singleton_sublist.mp h
        simp only [List.mem_cons, List.not_mem_nil, or_false] at hq
        rcases hq with rfl | rfl | rfl <;> exact absurd hpq (by decide)
  defaultDeny := rfl
  exempt := rfl

/-- Both schemas deny for the same reason, after the same two questions, and merge the two
filters in the same order. -/
theorem answers_reordered_shelf :
    Registry.ofSchema shelfSchema = .ok shelfEvaluator.registry ∧
    ∃ registry, Registry.ofSchema shelfSchemaMoved = .ok registry ∧
      let ev' : Evaluator := { shelfEvaluator with registry }
      (ev'.evaluate "docs" .read default).result.trace.map TraceEntry.name =
          ["readers", "frozen"] ∧
        (ev'.evaluate "docs" .read default).result.policy = some "frozen" ∧
        (ev'.filters "docs" .read default).result =
          .ok ⟨Row.ofEntries [("status", .string "open"), ("tenant", .string "a")],
            ["open", "tenant"]⟩ := by
  have hreg : Registry.ofSchema shelfSchema = .ok shelfEvaluator.registry := rfl
  obtain ⟨registry, hreg'⟩ : ∃ registry, Registry.ofSchema shelfSchemaMoved = .ok registry :=
    ⟨_, rfl⟩
  obtain ⟨hdecision, hfilters, -, -⟩ := answers_reordered hreg hreg' List.mem_cons_self
    (List.mem_cons_of_mem _ List.mem_cons_self) shelf_reordered .read default
    shelfEvaluator.moment
  refine ⟨hreg, registry, hreg', ?_, ?_, ?_⟩
  · exact congrArg (fun r : Report Decision => r.result.trace.map TraceEntry.name) hdecision
  · exact congrArg (fun r : Report Decision => r.result.policy) hdecision
  · exact congrArg Report.result hfilters

end Evaluator

end RowAccess
