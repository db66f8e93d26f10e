import Mathlib.Data.List.Basic
import RowAccess.Engine

/-!
# What registration accepts and keeps

Registering a table fails for its name or for the names of its policies,
and for nothing else; `compile_ok_iff` and `register_ok_iff` say so, and
say what is stored. Over a whole schema this gives `ofSchema_ok_iff` and
`find?_ofSchema`: the stored tables are the declared ones, each compiled
from its own rules.

A registry only ever grows (`Extends`): what is stored under a name stays.
-/

namespace RowAccess

/-! ## Accepted names -/

/-- The names in the rules of a table are such that the table can be registered. -/
structure TableRules.WellNamed (rules : TableRules) (table : String) : Prop where
  table : table ≠ ""
  named : ∀ p ∈ rules.policies, p.name ≠ ""
  distinct : (rules.policies.map Policy.name).Nodup

def TableRules.compiled (rules : TableRules) (table : String) : Table :=
  { name := table, policies := Policy.ranked rules.policies
    defaultDeny := rules.defaultDeny, exempt := rules.exempt }

/-- Table names are distinct, and each table is well named. -/
structure Schema.Accepted (s : Schema) : Prop where
  distinct : (Entries.names s).Nodup
  wellNamed : ∀ e ∈ s, TableRules.WellNamed e.2 e.1

namespace Table

theorem nameFault?_eq_none_iff {table : String} {index : Nat} {seen : List String}
    {ps : List Policy} :
    nameFault? table index seen ps = none ↔
      (∀ p ∈ ps, p.name ≠ "") ∧ (ps.map Policy.name).Nodup ∧ ∀ p ∈ ps, p.name ∉ seen := by
  induction ps generalizing index seen with
  | nil => simp [nameFault?]
  | cons p rest ih =>
      rw [nameFault?]
      split
      · next hempty => simp [hempty]
      · next hname =>
          split
          · next hseen =>
              have hmem : p.name ∈ seen := List.contains_iff_mem.mp hseen
              simp [hmem]
          · next hseen =>
              have hmem : p.name ∉ seen := fun h => hseen (List.contains_iff_mem.mpr h)
              rw [ih]
              simp only [List.mem_cons, List.map_cons, List.nodup_cons, List.mem_map,
                forall_eq_or_imp, not_or]
              constructor
              · rintro ⟨hn, hd, hs⟩
                exact ⟨⟨hname, hn⟩, ⟨fun ⟨q, hq, heq⟩ => (hs q hq).1 heq, hd⟩, hmem,
                  fun q hq => (hs q hq).2⟩
              · rintro ⟨⟨-, hn⟩, ⟨hp, hd⟩, -, hs⟩
                exact ⟨hn, hd, fun q hq => ⟨fun heq => hp ⟨q, hq, heq⟩, hs q hq⟩⟩

theorem compile_ok_iff {table : String} {rules : TableRules} {t : Table} :
    compile table rules = .ok t ↔ rules.WellNamed table ∧ t = rules.compiled table := by
  unfold compile
  split
  · next hempty =>
      exact ⟨fun h => (by cases h), fun ⟨h, _⟩ => absurd hempty h.table⟩
  · next hne =>
      split
      · next fault hfault =>
          refine ⟨fun h => (by cases h), fun ⟨h, _⟩ => ?_⟩
          have hnone : nameFault? table 0 [] rules.policies = none :=
            nameFault?_eq_none_iff.mpr ⟨h.named, h.distinct, fun _ _ => List.not_mem_nil⟩
          rw [hnone] at hfault
          cases hfault
      · next hfault =>
          obtain ⟨hnamed, hdistinct, -⟩ := nameFault?_eq_none_iff.mp hfault
          refine ⟨fun h => ⟨⟨hne, hnamed, hdistinct⟩, ?_⟩, fun ⟨_, h⟩ => ?_⟩
          · exact (Except.ok.inj h).symm
          · rw [h]; rfl

end Table

namespace Registry

/-! ## One registration -/

theorem register_ok_iff {r r' : Registry} {table : String} {rules : TableRules} :
    register r table rules = .ok r' ↔
      r.contains table = false ∧ rules.WellNamed table ∧
        r' = r.insert table (rules.compiled table) := by
  unfold register
  split
  · next hthere =>
      exact ⟨fun h => (by cases h), fun ⟨h, _⟩ => absurd hthere (by simp [h])⟩
  · next hnew =>
      have hfree : r.contains table = false := by simpa using hnew
      cases hcompile : Table.compile table rules with
      | error fault =>
          refine ⟨fun h => (by cases h), fun ⟨_, hnamed, _⟩ => ?_⟩
          rw [Table.compile_ok_iff.mpr ⟨hnamed, rfl⟩] at hcompile
          cases hcompile
      | ok t =>
          obtain ⟨hnamed, rfl⟩ := Table.compile_ok_iff.mp hcompile
          exact ⟨fun h => ⟨hfree, hnamed, (Except.ok.inj h).symm⟩, fun ⟨_, _, h⟩ => by rw [h]⟩

theorem find?_register {r r' : Registry} {table : String} {rules : TableRules}
    (h : register r table rules = .ok r') (name : String) :
    r'.find? name = if table = name then some (rules.compiled table) else r.find? name := by
  obtain ⟨-, -, rfl⟩ := register_ok_iff.mp h
  exact KeyMap.find?_insert r table name _

/-! ## Histories of registrations -/

/-- The registries that come from `r` by further registrations. A refused registration yields
no registry, so it leaves no trace here. -/
inductive Extends (r : Registry) : Registry → Prop
  | refl : Extends r r
  | step {r' r'' : Registry} {table : String} {rules : TableRules}
      (earlier : Extends r r') (accepted : register r' table rules = .ok r'') : Extends r r''

/-- A stored table stays as it is. -/
theorem Extends.find? {r r' : Registry} (h : Extends r r') {table : String} {t : Table}
    (ht : r.find? table = some t) : r'.find? table = some t := by
  induction h with
  | refl => exact ht
  | @step r' r'' other rules _ accepted ih =>
      have hne : ¬ other = table := by
        rintro rfl
        have hfree := (register_ok_iff.mp accepted).1
        simp [KeyMap.contains, ih] at hfree
      rw [find?_register accepted, if_neg hne, ih]

theorem find?_of_accepted {r r' r'' : Registry} {table : String} {rules : TableRules}
    (haccepted : register r table rules = .ok r') (hlater : Extends r' r'') :
    r''.find? table = some (rules.compiled table) :=
  hlater.find? (by rw [find?_register haccepted, if_pos rfl])

/-! ## Whole schemas -/

theorem load_ok_iff {r : Registry} {s : Schema} :
    (∃ r', load r s = (r', none)) ↔
      s.Accepted ∧ ∀ table ∈ Entries.names s, r.contains table = false := by
  induction s generalizing r with
  | nil => exact ⟨fun _ => ⟨⟨List.nodup_nil, by simp⟩, by simp⟩, fun _ => ⟨r, rfl⟩⟩
  | cons e rest ih =>
      obtain ⟨table, rules⟩ := e
      rw [load]
      cases hreg : register r table rules with
      | error fault =>
          refine ⟨fun ⟨_, h⟩ => (by cases h), fun ⟨hs, hfree⟩ => ?_⟩
          rw [register_ok_iff.mpr ⟨hfree table List.mem_cons_self,
            hs.wellNamed _ List.mem_cons_self, rfl⟩] at hreg
          cases hreg
      | ok r' =>
          obtain ⟨hfree, hnamed, rfl⟩ := register_ok_iff.mp hreg
          have hcontains : ∀ name, (r.insert table (rules.compiled table)).contains name = false ↔
              table ≠ name ∧ r.contains name = false := by
            intro name
            by_cases h : table = name <;> simp [KeyMap.contains, h]
          simp only [ih, hcontains, Entries.names_cons, List.mem_cons, forall_eq_or_imp]
          constructor
          · rintro ⟨hs, hrest⟩
            refine ⟨⟨List.nodup_cons.mpr ⟨fun hmem => (hrest table hmem).1 rfl, hs.distinct⟩, ?_⟩,
              hfree, fun name hmem => (hrest name hmem).2⟩
            intro e he
            rcases List.mem_cons.mp he with rfl | he
            · exact hnamed
            · exact hs.wellNamed e he
          · rintro ⟨hs, -, hrest⟩
            obtain ⟨hnew, hdistinct⟩ := List.nodup_cons.mp hs.distinct
            exact ⟨⟨hdistinct, fun e he => hs.wellNamed e (List.mem_cons_of_mem _ he)⟩,
              fun name hmem => ⟨fun heq => hnew (heq ▸ hmem), hrest name hmem⟩⟩

theorem find?_load {r r' : Registry} {s : Schema} (h : load r s = (r', none)) (table : String) :
    r'.find? table =
      (r.find? table).or ((Entries.find? s table).map fun rules => rules.compiled table) := by
  induction s generalizing r with
  | nil =>
      obtain rfl : r = r' := congrArg Prod.fst h
      simp [Entries.find?]
  | cons e rest ih =>
      obtain ⟨name, rules⟩ := e
      rw [load] at h
      cases hreg : register r name rules with
      | error fault => rw [hreg] at h; cases h
      | ok r₁ =>
          rw [hreg] at h
          rw [ih h, find?_register hreg, Entries.find?]
          by_cases hname : name = table
          · have hfree := (register_ok_iff.mp hreg).1
            have hnone : r.find? table = none := by simpa [KeyMap.contains, hname] using hfree
            simp [hname, hnone]
          · simp [hname]

theorem ofSchema_eq_ok_iff {s : Schema} {r : Registry} :
    ofSchema s = .ok r ↔ load KeyMap.empty s = (r, none) := by
  unfold ofSchema
  obtain ⟨r', fault⟩ := load KeyMap.empty s
  cases fault <;> simp

/-- A schema makes a registry exactly when its names are in order. -/
theorem ofSchema_ok_iff {s : Schema} : (∃ r, ofSchema s = .ok r) ↔ s.Accepted := by
  simp only [ofSchema_eq_ok_iff, load_ok_iff, KeyMap.contains, KeyMap.find?_empty,
    Option.isSome_none, implies_true, and_true]

/-- The registry of a schema holds the declared tables and no others. -/
theorem find?_ofSchema {s : Schema} {r : Registry} (h : ofSchema s = .ok r) (table : String) :
    r.find? table = (Entries.find? s table).map fun rules => rules.compiled table := by
  rw [find?_load (ofSchema_eq_ok_iff.mp h), KeyMap.find?_empty, Option.none_or]

end Registry

/-! ## Engines -/

namespace EngineParts

theorem build_ok_iff {p : EngineParts} {e : Engine} :
    p.build = .ok e ↔ p.settings.fault? = none ∧
      ∃ registry fields, Registry.ofSchema p.schema = .ok registry ∧
        FieldRegistry.ofSchema p.fieldSchema = .ok fields ∧ e = p.assemble registry fields := by
  unfold build
  cases hfault : p.settings.fault? with
  | some fault => simp
  | none =>
      cases hrows : Registry.ofSchema p.schema with
      | error fault => simp
      | ok registry =>
          cases hcolumns : FieldRegistry.ofSchema p.fieldSchema with
          | error fault => simp
          | ok fields =>
              simp only [Except.ok.injEq, true_and]
              exact ⟨fun h => ⟨registry, fields, rfl, rfl, h.symm⟩,
                fun ⟨_, _, hr, hf, h⟩ => by rw [h, ← hr, ← hf]⟩

end EngineParts

end RowAccess
