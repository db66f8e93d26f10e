import RowAccess.Proofs.Construction
import RowAccess.Proofs.Intake
import RowAccess.Proofs.Reordering

/-!
# Runs of registrations

What a registry of row rules holds after any run of calls, whichever of
them were refused: under each name the table that was declared for it in
the one registration that went through, its policies in rank
(`Table.Renders`). `run_invariant` is what runs of calls come to in
general, for tables that are compiled from row rules.
-/

namespace RowAccess

/-! ## Tables as declared -/

/-- The table stands under its name with the policies of the rules and no others, the highest
priority first and equal priorities as declared. Every name is given, and those of the policies
are distinct. -/
structure Table.Renders (t : Table) (table : String) (rules : TableRules) : Prop where
  key : table ≠ ""
  name : t.name = table
  named : ∀ p ∈ t.policies, p.name ≠ ""
  distinct : (t.policies.map Policy.name).Nodup
  perm : t.policies.Perm rules.policies
  ordered : t.policies.Pairwise fun p q =>
    q.priority < p.priority ∨ q.priority = p.priority ∧ [p, q].Sublist rules.policies

theorem TableRules.WellNamed.renders {rules : TableRules} {table : String}
    (h : rules.WellNamed table) : (rules.compiled table).Renders table rules where
  key := h.table
  name := rfl
  named := fun p hp => h.named p (Policy.mem_ranked.mp hp)
  distinct := ((Policy.ranked_perm rules.policies).map Policy.name).nodup_iff.mpr h.distinct
  perm := Policy.ranked_perm rules.policies
  ordered := Policy.ranked_pairwise rules.policies

namespace Registry

/-- After every run of calls on an empty registry, whatever was refused on the way: a stored table
renders the one declaration of its name that went through; a further registration that is refused
leaves the registry as it is; a schema that is refused half way adds the tables in front of the
first offending one, each as it is compiled; and no further calls change what is stored. -/
theorem run_invariant (calls : List (Registration TableRules)) :
    let r := intake.run KeyMap.empty calls
    (∀ table t, (table, t) ∈ r.entries →
      ∃ rules, ((intake.history KeyMap.empty calls).filter fun e => e.1 == table) =
          [(table, rules)] ∧ t.Renders table rules) ∧
    (∀ table rules, (intake.perform r (.register table rules)).2 ≠ none →
      (intake.perform r (.register table rules)).1 = r) ∧
    (∀ s fault, (intake.perform r (.load s)).2 = some fault →
      ∃ before offending after r', s = before ++ offending :: after ∧
        intake.perform r (.load s) = (r', some fault) ∧
        intake.StopsAt (fun t table rules => t = rules.compiled table) r r' before offending
          fault) ∧
    ∀ later table t, (table, t) ∈ r.entries →
      (table, t) ∈ (intake.run KeyMap.empty (calls ++ later)).entries := by
  have hrenders : ∀ {table rules t}, intake.compile table rules = .ok t →
      t.Renders table rules := by
    intro table rules t h
    obtain ⟨hnamed, rfl⟩ := Table.compile_ok_iff.mp h
    exact hnamed.renders
  have hcompiled : ∀ {table rules t}, intake.compile table rules = .ok t →
      t = rules.compiled table := fun h => (Table.compile_ok_iff.mp h).2
  intro r
  refine ⟨fun table t => Intake.renders_of_stored hrenders,
    fun table rules => Intake.perform_register_refused,
    fun s fault => Intake.load_stopsAt hcompiled, fun later table t hstored => ?_⟩
  rw [Intake.run_append, KeyMap.mem_entries_iff]
  exact Intake.find?_run (KeyMap.mem_entries_iff.mp hstored) later

/-! ### A clerk who files too much -/

def clerkRules (ranks : List (String × Int)) : TableRules :=
  { policies := ranks.map fun rank =>
      { name := rank.1, operations := [.read], priority := rank.2
        body := .allow fun _ => .value true, activation := none, hints := none }
    defaultDeny := true, exempt := KeyMap.empty }

/-- The second table names a policy twice, so the third one is not reached. -/
def clerkSchema : Schema :=
  [("notes", clerkRules [("any", 0)]), ("mail", clerkRules [("x", 0), ("x", 1)]),
   ("maps", clerkRules [])]

/-- `docs` is filed twice, and once something without a name. -/
def clerkCalls : List (Registration TableRules) :=
  [.register "docs" (clerkRules
    [("last", -2147483648), ("one", 0), ("first", 2147483647), ("two", 0)]),
   .register "docs" (clerkRules []), .register "" (clerkRules []), .load clerkSchema]

/-- Two tables are stored, `docs` as it was filed first, its policies in rank. Without `notes`,
which is there by now, the load is refused at its first table. -/
theorem run_invariant_clerk :
    let r := intake.run KeyMap.empty clerkCalls
    r.names = ["docs", "notes"] ∧
    (r.find? "docs").map (fun t => t.policies.map Policy.name) =
      some ["first", "one", "two", "last"] ∧
    (∃ t rules, r.find? "docs" = some t ∧
      (intake.history KeyMap.empty clerkCalls).filter (fun e => e.1 == "docs") = [("docs", rules)] ∧
      t.Renders "docs" rules) ∧
    (intake.perform r (.register "docs" (clerkRules []))).1 = r ∧
    (∃ before offending after r', clerkSchema.tail = before ++ offending :: after ∧
      intake.perform r (.load clerkSchema.tail) = (r', some (.duplicatePolicy "mail" "x")) ∧
      intake.StopsAt (fun t table rules => t = rules.compiled table) r r' before offending
        (.duplicatePolicy "mail" "x")) := by
  intro r
  obtain ⟨hstored, hrefused, hstops, -⟩ := run_invariant clerkCalls
  obtain ⟨rules, hpast, hrenders⟩ := hstored "docs" _ (KeyMap.mem_entries_iff.mpr rfl)
  exact ⟨rfl, rfl, ⟨_, rules, rfl, hpast, hrenders⟩, hrefused "docs" (clerkRules []) nofun,
    hstops clerkSchema.tail (.duplicatePolicy "mail" "x") rfl⟩

end Registry

end RowAccess
