import RowAccess.Proofs.Loading

/-!
# What registration of column rules accepts

The columns of a table are indexed one by one, and the tables of a schema
are registered one by one, so both are loads: `FieldTable.indexOne` and
`FieldRegistry.register` are registrations in the sense of `Registers`.
From this come the two theorems about a whole schema, `ofSchema_ok_iff`
and `ofSchema_error_iff`.
-/

namespace RowAccess

/-! ## Faults -/

/-- The fault in the column rules of a table: the first column that is declared again. -/
inductive FieldTableRules.Faulty (table : String) (rules : FieldTableRules) : SchemaError → Prop
  | unnamed (hempty : table = "") : Faulty table rules .emptyTableName
  | duplicateField {before : List (String × FieldRule)} {field : String} {rule : FieldRule}
      {after : List (String × FieldRule)} (hnamed : table ≠ "")
      (hfields : rules.fields = before ++ (field, rule) :: after)
      (hbefore : (Entries.names before).Nodup) (hrepeated : field ∈ Entries.names before) :
      Faulty table rules (.duplicateField table field)

/-- The table has a name, and its columns have distinct ones. -/
structure FieldTableRules.WellNamed (rules : FieldTableRules) (table : String) : Prop where
  table : table ≠ ""
  distinct : (Entries.names rules.fields).Nodup

/-- Table names are distinct, and each table is well named. -/
structure FieldSchema.Accepted (s : FieldSchema) : Prop where
  distinct : (Entries.names s).Nodup
  wellNamed : ∀ e ∈ s, FieldTableRules.WellNamed e.2 e.1

/-- The fault of the first table that is refused. -/
def FieldSchema.FirstFault (s : FieldSchema) (fault : SchemaError) : Prop :=
  ∃ before table rules after, s = before ++ (table, rules) :: after ∧ FieldSchema.Accepted before ∧
    Refused (table ∈ Entries.names before) table (rules.Faulty table) fault

/-! ## One table -/

namespace FieldTable

variable {table : String} {place : Nat} {index : KeyMap Nat} {fault : SchemaError}

/-- Indexing one column: the state is the place it gets and the index so far. -/
def indexOne (table : String) (state : Nat × KeyMap Nat) (field : String) (_rule : FieldRule) :
    Except SchemaError (Nat × KeyMap Nat) :=
  if state.2.contains field then .error (.duplicateField table field)
  else .ok (state.1 + 1, state.2.insert field state.1)

theorem registers_indexOne (table : String) :
    Registers (indexOne table) (fun state field => state.2.contains field) fun _ _ => True where
  ok_iff := by
    intro state field rule
    unfold indexOne
    split
    · next hthere => simp [hthere]
    · next hnew => simp [Bool.eq_false_iff.mpr hnew]
  holds_ok := by
    intro state state' field rule h other
    unfold indexOne at h
    split at h
    · cases h
    · obtain rfl := Except.ok.inj h
      by_cases heq : field = other
      · simp [KeyMap.contains, heq]
      · simp [KeyMap.contains, heq, Ne.symm heq]

theorem indexFrom_eq_outcome (fields : List (String × FieldRule)) :
    indexFrom table place index fields =
      outcome Prod.snd (loadWith (indexOne table) (place, index) fields) := by
  induction fields generalizing place index with
  | nil => rfl
  | cons f rest ih =>
      obtain ⟨field, rule⟩ := f
      rw [indexFrom, loadWith, indexOne]
      split
      · rfl
      · exact ih

theorem indexFrom_ok_iff {fields : List (String × FieldRule)} :
    (∃ index, indexFrom table 0 KeyMap.empty fields = .ok index) ↔
      (Entries.names fields).Nodup := by
  simp only [indexFrom_eq_outcome, outcome_ok_iff, (registers_indexOne table).loadWith_ok_iff,
    KeyMap.contains, KeyMap.find?_empty, Option.isSome_none, implies_true, and_true]

theorem indexOne_error_iff {state : Nat × KeyMap Nat} {field : String} {rule : FieldRule} :
    indexOne table state field rule = .error fault ↔
      state.2.contains field = true ∧ fault = .duplicateField table field := by
  unfold indexOne
  split
  · next hthere =>
      exact ⟨fun h => ⟨hthere, (Except.error.inj h).symm⟩, fun h => by rw [h.2]⟩
  · next hnew => exact ⟨fun h => (by cases h), fun h => absurd h.1 hnew⟩

theorem indexFrom_error_iff {fields : List (String × FieldRule)} :
    indexFrom table 0 KeyMap.empty fields = .error fault ↔
      ∃ before field rule after, fields = before ++ (field, rule) :: after ∧
        (Entries.names before).Nodup ∧ field ∈ Entries.names before ∧
          fault = .duplicateField table field := by
  rw [indexFrom_eq_outcome, outcome_error_iff, (registers_indexOne table).loadWith_error_iff
    (fun repeated field _ e => repeated ∧ e = .duplicateField table field)
    (fun _ _ _ _ => indexOne_error_iff) fun _ => rfl]
  simp only [implies_true, and_true]

theorem compile_ok_iff {rules : FieldTableRules} :
    (∃ t, compile table rules = .ok t) ↔ rules.WellNamed table := by
  unfold compile
  split
  · next hempty => exact ⟨fun ⟨_, h⟩ => (by cases h), fun h => absurd hempty h.table⟩
  · next hnamed =>
      have hindex := @indexFrom_ok_iff table rules.fields
      cases hfields : indexFrom table 0 KeyMap.empty rules.fields with
      | error e =>
          refine ⟨fun ⟨_, h⟩ => (by cases h), fun h => ?_⟩
          obtain ⟨index, hok⟩ := hindex.mpr h.distinct
          rw [hfields] at hok
          cases hok
      | ok index => exact ⟨fun _ => ⟨hnamed, hindex.mp ⟨index, hfields⟩⟩, fun _ => ⟨_, rfl⟩⟩

theorem compile_error_iff {rules : FieldTableRules} :
    compile table rules = .error fault ↔ rules.Faulty table fault := by
  unfold compile
  split
  · next hempty =>
      constructor
      · intro h
        obtain rfl := Except.error.inj h
        exact .unnamed hempty
      · rintro (_ | ⟨hnamed, -⟩)
        · rfl
        · exact absurd hempty hnamed
  · next hnamed =>
      have hfields := @indexFrom_error_iff table fault rules.fields
      constructor
      · intro h
        have herror : indexFrom table 0 KeyMap.empty rules.fields = .error fault := by
          cases hindex : indexFrom table 0 KeyMap.empty rules.fields with
          | error e =>
              rw [hindex] at h
              rw [Except.error.inj h]
          | ok index =>
              rw [hindex] at h
              cases h
        obtain ⟨before, field, rule, after, heq, hbefore, hrepeated, rfl⟩ := hfields.mp herror
        exact .duplicateField hnamed heq hbefore hrepeated
      · rintro (hempty | ⟨-, heq, hbefore, hrepeated⟩)
        · exact absurd hempty hnamed
        · rw [hfields.mpr ⟨_, _, _, _, heq, hbefore, hrepeated, rfl⟩]

end FieldTable

/-! ## Whole schemas -/

namespace FieldRegistry

variable {r r' : FieldRegistry} {table : String} {rules : FieldTableRules} {s : FieldSchema}
  {fault : SchemaError}

theorem register_eq (r : FieldRegistry) (table : String) (rules : FieldTableRules) :
    register r table rules =
      if r.contains table then .error (.duplicateTable table)
      else (FieldTable.compile table rules).map (r.insert table) := by
  unfold register
  cases FieldTable.compile table rules <;> rfl

theorem register_error_iff :
    register r table rules = .error fault ↔
      Refused (r.contains table = true) table (rules.Faulty table) fault := by
  rw [register_eq]
  exact refused_iff fun _ => FieldTable.compile_error_iff

theorem load_eq_loadWith (r : FieldRegistry) (s : FieldSchema) :
    load r s = loadWith register r s := by
  induction s generalizing r with
  | nil => rfl
  | cons e rest ih =>
      obtain ⟨table, rules⟩ := e
      rw [load, loadWith]
      cases register r table rules with
      | error fault => rfl
      | ok r' => exact ih r'

def intake : Intake FieldTable FieldTableRules where
  compile := FieldTable.compile
  register := register
  load := load
  register_eq := register_eq
  load_eq := load_eq_loadWith

theorem registers_register :
    Registers register (fun r name => r.contains name) fun table rules =>
      FieldTableRules.WellNamed rules table :=
  intake.registers fun _ _ => FieldTable.compile_ok_iff

theorem ofSchema_eq_outcome (s : FieldSchema) :
    ofSchema s = outcome id (loadWith register KeyMap.empty s) := by
  rw [ofSchema, load_eq_loadWith]
  obtain ⟨r, stop⟩ := loadWith register KeyMap.empty s
  cases stop <;> rfl

theorem ofSchema_ok_iff : (∃ r, ofSchema s = .ok r) ↔ s.Accepted := by
  rw [ofSchema_eq_outcome, outcome_ok_iff, registers_register.loadWith_ok_iff]
  constructor
  · rintro ⟨hdistinct, hnamed, -⟩
    exact ⟨hdistinct, hnamed⟩
  · rintro ⟨hdistinct, hnamed⟩
    exact ⟨hdistinct, hnamed, fun _ _ => rfl⟩

theorem ofSchema_error_iff : ofSchema s = .error fault ↔ s.FirstFault fault := by
  rw [ofSchema_eq_outcome, outcome_error_iff, registers_register.loadWith_error_iff
    (fun taken table rules => Refused taken table (rules.Faulty table))
    (fun _ _ _ _ => register_error_iff) fun _ => rfl]
  constructor
  · rintro ⟨before, table, rules, after, hs, ⟨hdistinct, hnamed⟩, hfault⟩
    exact ⟨before, table, rules, after, hs, ⟨hdistinct, hnamed⟩, hfault⟩
  · rintro ⟨before, table, rules, after, hs, hbefore, hfault⟩
    exact ⟨before, table, rules, after, hs, ⟨hbefore.distinct, hbefore.wellNamed⟩, hfault⟩

end FieldRegistry

end RowAccess
