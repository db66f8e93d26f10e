import RowAccess.Proofs.FieldRegistration
import RowAccess.Proofs.Intake

/-!
# Column rules and their index

The column rules of a table are kept twice: as they were declared, and as
an index from names to places among them. A column is looked up in the
index, and what stands at its place is its rule; nothing but the index
says that the place exists. `FieldTable.Points` says that it does, and
that the rule is the one of that name: a step of the indexing keeps it
(`Points.insert`), so that it holds of every table that is compiled
(`compile_renders`).

So it holds of the tables of a registry after any run of calls:
`run_indexed` is what runs of calls come to in general, for tables that
are compiled from column rules.
-/

namespace RowAccess

/-! ## Places -/

theorem getElem?_concat_eq_some_iff {α : Type} {xs : List α} {x y : α} {i : Nat} :
    (xs ++ [x])[i]? = some y ↔ xs[i]? = some y ∨ i = xs.length ∧ x = y := by
  rcases Nat.lt_trichotomy i xs.length with hlt | rfl | hgt
  · rw [List.getElem?_append_left hlt]
    exact ⟨Or.inl, fun h => h.resolve_right fun hlast => by omega⟩
  · simp
  · have hend : (xs ++ [x])[i]? = none := List.getElem?_eq_none (by simp; omega)
    have hnone : xs[i]? = none := List.getElem?_eq_none (by omega)
    rw [hend, hnone]
    simp only [reduceCtorEq, false_or, false_iff, not_and]
    omega

namespace FieldTable

variable {table : String} {front rest : List (String × FieldRule)} {index : KeyMap Nat}
  {t : FieldTable} {rules : FieldTableRules}

/-- The index leads from the names of the columns, and from no others, to their places. -/
def Points (fields : List (String × FieldRule)) (index : KeyMap Nat) : Prop :=
  ∀ field place, index.find? field = some place ↔ ∃ rule, fields[place]? = some (field, rule)

theorem points_empty : Points [] KeyMap.empty := by
  intro field place
  simp

theorem Points.insert {field : String} (h : Points front index)
    (hnew : index.contains field = false) (rule : FieldRule) :
    Points (front ++ [(field, rule)]) (index.insert field front.length) := by
  have hnone : index.find? field = none := by simpa [KeyMap.contains] using hnew
  intro other place
  simp only [KeyMap.find?_insert, getElem?_concat_eq_some_iff]
  split
  · next heq =>
      subst heq
      constructor
      · intro hplace
        exact ⟨rule, .inr ⟨(Option.some.inj hplace).symm, rfl⟩⟩
      · rintro ⟨rule', hfront | ⟨rfl, -⟩⟩
        · -- the name is new, so nothing in front has it
          have hplace := (h field place).mpr ⟨rule', hfront⟩
          rw [hnone] at hplace
          cases hplace
        · rfl
  · next hne =>
      rw [h other place]
      refine exists_congr fun rule' => (or_iff_left ?_).symm
      rintro ⟨-, hlast⟩
      exact hne (congrArg Prod.fst hlast)

theorem points_indexFrom {index' : KeyMap Nat} (h : Points front index)
    (hindex : indexFrom table front.length index rest = .ok index') :
    Points (front ++ rest) index' := by
  induction rest generalizing front index with
  | nil =>
      obtain rfl : index = index' := Except.ok.inj hindex
      rwa [List.append_nil]
  | cons f rest ih =>
      obtain ⟨field, rule⟩ := f
      rw [indexFrom] at hindex
      split at hindex
      · cases hindex
      · next hnew =>
          have hnext := ih (h.insert (Bool.eq_false_iff.mpr hnew) rule)
          rw [List.append_assoc, List.singleton_append, List.length_append] at hnext
          exact hnext hindex

theorem Points.field?_iff (h : Points t.fields t.index) {field : String} {rule : FieldRule} :
    t.field? field = some rule ↔ (field, rule) ∈ t.fields := by
  rw [field?, Option.bind_eq_some_iff]
  constructor
  · rintro ⟨place, hplace, hrule⟩
    obtain ⟨rule', hfield⟩ := (h field place).mp hplace
    rw [hfield] at hrule
    obtain rfl : rule' = rule := Option.some.inj hrule
    exact List.mem_of_getElem? hfield
  · intro hmem
    obtain ⟨place, hfield⟩ := List.mem_iff_getElem?.mp hmem
    exact ⟨place, (h field place).mpr ⟨rule, hfield⟩, by rw [hfield]; rfl⟩

/-! ## Tables as declared -/

/-- The table stands under its name with what was declared, each column once and in the order of
the declaration. Every entry of the index is the place of a column, the one with the name of the
entry, and every column has an entry; looking a name up gives the rule that was declared for it,
and none for a name without one. -/
structure Renders (t : FieldTable) (table : String) (rules : FieldTableRules) : Prop where
  key : table ≠ ""
  name : t.name = table
  default : t.default = rules.default
  exempt : t.exempt = rules.exempt
  fields : t.fields = rules.fields
  distinct : (Entries.names rules.fields).Nodup
  inRange : ∀ field place, (field, place) ∈ t.index.entries →
    ∃ h : place < t.fields.length, (t.fields.get ⟨place, h⟩).1 = field
  complete : ∀ field ∈ Entries.names rules.fields, ∃ place, (field, place) ∈ t.index.entries
  lookUp : ∀ field rule, t.field? field = some rule ↔ (field, rule) ∈ rules.fields
  absent : ∀ field, t.field? field = none ↔ field ∉ Entries.names rules.fields
  fieldNames : t.fieldNames = Entries.names rules.fields

theorem Points.inRange (h : Points t.fields t.index) {field : String} {place : Nat}
    (hplace : (field, place) ∈ t.index.entries) :
    ∃ h : place < t.fields.length, (t.fields.get ⟨place, h⟩).1 = field := by
  obtain ⟨rule, hfield⟩ := (h field place).mp (KeyMap.mem_entries_iff.mp hplace)
  obtain ⟨hlt, hget⟩ := List.getElem?_eq_some_iff.mp hfield
  exact ⟨hlt, congrArg Prod.fst hget⟩

theorem Points.complete (h : Points t.fields t.index) {field : String}
    (hfield : field ∈ Entries.names t.fields) : ∃ place, (field, place) ∈ t.index.entries := by
  obtain ⟨⟨_, rule⟩, hmem, rfl⟩ := List.mem_map.mp hfield
  obtain ⟨place, hplace⟩ := List.mem_iff_getElem?.mp hmem
  exact ⟨place, KeyMap.mem_entries_iff.mpr ((h _ place).mpr ⟨rule, hplace⟩)⟩

theorem Points.absent_iff (h : Points t.fields t.index) {field : String} :
    t.field? field = none ↔ field ∉ Entries.names t.fields := by
  rw [Option.eq_none_iff_forall_ne_some]
  simp only [ne_eq, h.field?_iff, Entries.names, List.mem_map, Prod.exists, exists_and_right,
    exists_eq_right, not_exists]

theorem compile_renders (h : compile table rules = .ok t) : t.Renders table rules := by
  obtain ⟨hnamed, hdistinct⟩ := compile_ok_iff.mp ⟨t, h⟩
  unfold compile at h
  rw [if_neg hnamed] at h
  cases hindex : indexFrom table 0 KeyMap.empty rules.fields with
  | error fault =>
      rw [hindex] at h
      cases h
  | ok index =>
      rw [hindex] at h
      have ht : t = ⟨table, rules.default, rules.exempt, rules.fields, index⟩ :=
        (Except.ok.inj h).symm
      have hfields : t.fields = rules.fields := congrArg FieldTable.fields ht
      have hpoints : Points t.fields t.index := by
        rw [ht]
        exact points_indexFrom points_empty hindex
      refine {
        key := hnamed
        name := congrArg FieldTable.name ht
        default := congrArg FieldTable.default ht
        exempt := congrArg FieldTable.exempt ht
        fields := hfields
        distinct := hdistinct
        inRange := fun _ _ => hpoints.inRange
        complete := ?_
        lookUp := ?_
        absent := ?_
        fieldNames := congrArg Entries.names hfields }
      all_goals rw [← hfields]
      · exact fun _ => hpoints.complete
      · exact fun _ _ => hpoints.field?_iff
      · exact fun _ => hpoints.absent_iff

end FieldTable

namespace FieldRegistry

/-- After every run of calls on an empty registry, whatever was refused on the way: a stored table
renders the one declaration of its name that went through, so that its index and its columns
agree; a further registration that is refused leaves the registry as it is; and a schema that is
refused half way adds the tables in front of the first offending one. -/
theorem run_indexed (calls : List (Registration FieldTableRules)) :
    let r := intake.run KeyMap.empty calls
    (∀ table t, (table, t) ∈ r.entries →
      ∃ rules, ((intake.history KeyMap.empty calls).filter fun e => e.1 == table) =
          [(table, rules)] ∧ t.Renders table rules) ∧
    (∀ table rules, (intake.perform r (.register table rules)).2 ≠ none →
      (intake.perform r (.register table rules)).1 = r) ∧
    (∀ s fault, (intake.perform r (.load s)).2 = some fault →
      ∃ before offending after r', s = before ++ offending :: after ∧
        intake.perform r (.load s) = (r', some fault) ∧
        intake.StopsAt FieldTable.Renders r r' before offending fault) := by
  intro r
  exact ⟨fun table t => Intake.renders_of_stored FieldTable.compile_renders,
    fun table rules => Intake.perform_register_refused,
    fun s fault => Intake.load_stopsAt FieldTable.compile_renders⟩

/-! ### A shelf that is labelled twice -/

def shelfRules (fields : List String) : FieldTableRules :=
  { default := .deny, exempt := KeyMap.empty
    fields := fields.map fun field => (field, FieldRule.readOnly) }

/-- The books have two titles, so the prints are not reached. -/
def shelfSchema (first : String) : FieldSchema :=
  [(first, shelfRules ["scale"]), ("books", shelfRules ["title", "isbn", "title"]),
   ("prints", shelfRules [])]

def shelfCalls : List (Registration FieldTableRules) :=
  [.register "users" (shelfRules ["id", "email"]), .register "users" (shelfRules []),
   .register "" (shelfRules []), .load (shelfSchema "maps")]

/-- The second column of the users has the second place. The shelf is labelled up to the books,
and another one with maps in front as well. -/
theorem run_indexed_shelf :
    let r := intake.run KeyMap.empty shelfCalls
    r.names = ["maps", "users"] ∧
    (∃ t rules, r.find? "users" = some t ∧
      (intake.history KeyMap.empty shelfCalls).filter (fun e => e.1 == "users") =
        [("users", rules)] ∧
      t.Renders "users" rules ∧ ("email", 1) ∈ t.index.entries ∧
      t.field? "email" = some FieldRule.readOnly ∧ t.field? "name" = none) ∧
    (intake.perform r (.register "logs" (shelfRules ["line", "line"]))).1 = r ∧
    (∃ before offending after r', shelfSchema "atlases" = before ++ offending :: after ∧
      intake.perform r (.load (shelfSchema "atlases")) =
        (r', some (.duplicateField "books" "title")) ∧
      intake.StopsAt FieldTable.Renders r r' before offending
        (.duplicateField "books" "title")) := by
  intro r
  obtain ⟨hstored, hrefused, hstops⟩ := run_indexed shelfCalls
  obtain ⟨rules, hpast, hrenders⟩ := hstored "users" _ (KeyMap.mem_entries_iff.mpr rfl)
  exact ⟨rfl, ⟨_, rules, rfl, hpast, hrenders, KeyMap.mem_entries_iff.mpr rfl, rfl, rfl⟩,
    hrefused "logs" (shelfRules ["line", "line"]) nofun,
    hstops (shelfSchema "atlases") (.duplicateField "books" "title") rfl⟩

end FieldRegistry

end RowAccess
