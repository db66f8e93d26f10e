import RowAccess.Proofs.FieldRegistration

/-!
# What an engine is built from

An engine is built from settings, row rules and column rules, checked in
this order. `EngineParts.WellFormed` says when all of them are in order,
and `EngineParts.FirstFault` which fault comes first when they are not.
Both are about the declarations as they stand; the checks walk through
them with counters, sets of seen names and half-filled registries, and
`build_wellFormed_or_faulty` is the theorem that the two agree.

- settings: `Settings.fault?_eq_some_iff`;
- the policies of one table: `Table.nameFault?_eq_some_iff`, and those of
  all tables: `Registry.ofSchema_error_iff`;
- column rules: `FieldRegistry.ofSchema_error_iff`.
-/

namespace RowAccess

/-! ## Trimmed text -/

/-- The text without the white space around it. -/
def Text.trim (s : String) : String :=
  String.ofList (trimStart (trimStart s.toList).reverse).reverse

theorem Text.trim_eq_empty_iff {s : String} : trim s = "" ↔ blank s = true := by
  have hempty : ∀ cs : List Char, String.ofList cs = "" ↔ cs = [] := fun cs =>
    String.ofList_eq_empty_iff
  rw [trim, hempty, List.reverse_eq_nil_iff, trimStart_eq_nil_iff, List.all_reverse, blank]
  constructor
  · intro h
    -- what is left in front of the first visible character is visible, so nothing is left
    refine trimStart_eq_nil_iff.mp ?_
    cases hleft : trimStart s.toList with
    | nil => rfl
    | cons c rest =>
        have hvisible := List.head?_dropWhile_not isBlank s.toList
        rw [show s.toList.dropWhile isBlank = c :: rest from hleft] at hvisible
        rw [hleft, List.all_cons, Bool.and_eq_true] at h
        simp [h.1] at hvisible
  · intro h
    rw [trimStart_eq_nil_iff.mpr h]
    rfl

/-! ## Settings -/

/-- The first hit in an ascending list is the smallest one. -/
theorem find?_eq_some_iff_of_ascending {names : List String} (h : names.Pairwise (· < ·))
    {test : String → Bool} {name : String} :
    names.find? test = some name ↔
      test name = true ∧ name ∈ names ∧ ∀ other ∈ names, other < name → test other = false := by
  rw [List.find?_eq_some_iff_append]
  constructor
  · rintro ⟨htest, before, after, rfl, hbefore⟩
    obtain ⟨-, hafter, -⟩ := List.pairwise_append.mp h
    refine ⟨htest, List.mem_append_right _ List.mem_cons_self, fun other hother hlt => ?_⟩
    rcases List.mem_append.mp hother with hother | hother
    · simpa using hbefore other hother
    · rcases List.mem_cons.mp hother with rfl | hother
      · exact absurd hlt (String.lt_irrefl _)
      · have hgt := (List.pairwise_cons.mp hafter).1 other hother
        exact absurd (String.lt_trans hlt hgt) (String.lt_irrefl _)
  · rintro ⟨htest, hname, hbefore⟩
    obtain ⟨before, after, rfl⟩ := List.append_of_mem hname
    refine ⟨htest, before, after, rfl, fun other hother => ?_⟩
    have hlt := (List.pairwise_append.mp h).2.2 other hother name List.mem_cons_self
    simpa using hbefore other (List.mem_append_left _ hother) hlt

namespace Settings

variable {s : Settings}

/-- The environment and the names of the features have a visible character. -/
structure Valid (s : Settings) : Prop where
  environment : Text.trim s.engine.environment ≠ ""
  features : ∀ name ∈ s.features.names, Text.trim name ≠ ""

/-- The first fault: the environment, then the features in the order of their names. -/
inductive FirstFault (s : Settings) : Fault → Prop
  | environment (hblank : Text.trim s.engine.environment = "") : FirstFault s .blankEnvironment
  | feature {name : String} (hvalid : Text.trim s.engine.environment ≠ "")
      (hname : name ∈ s.features.names) (hblank : Text.trim name = "")
      (hbefore : ∀ other ∈ s.features.names, other < name → Text.trim other ≠ "") :
      FirstFault s (.blankFeature name)

theorem fault?_eq_none_iff : s.fault? = none ↔ s.Valid := by
  unfold fault?
  split
  · next hblank =>
      refine ⟨fun h => (by cases h), fun h => ?_⟩
      exact absurd (Text.trim_eq_empty_iff.mpr hblank) h.environment
  · next hvisible =>
      have henvironment : Text.trim s.engine.environment ≠ "" := fun h =>
        hvisible (Text.trim_eq_empty_iff.mp h)
      rw [Option.map_eq_none_iff, List.find?_eq_none]
      constructor
      · intro h
        exact ⟨henvironment, fun name hname hblank =>
          h name hname (Text.trim_eq_empty_iff.mp hblank)⟩
      · intro h name hname hblank
        exact h.features name hname (Text.trim_eq_empty_iff.mpr hblank)

theorem fault?_eq_some_iff {fault : Fault} : s.fault? = some fault ↔ s.FirstFault fault := by
  have hascending : s.features.names.Pairwise (· < ·) :=
    List.pairwise_map.mpr s.features.sorted
  unfold fault?
  split
  · next hblank =>
      have htrim := Text.trim_eq_empty_iff.mpr hblank
      constructor
      · rintro h
        obtain rfl := Option.some.inj h
        exact .environment htrim
      · rintro (_ | ⟨hvalid, -, -, -⟩)
        · rfl
        · exact absurd htrim hvalid
  · next hvisible =>
      have htrim : Text.trim s.engine.environment ≠ "" := fun h =>
        hvisible (Text.trim_eq_empty_iff.mp h)
      simp only [Option.map_eq_some_iff, find?_eq_some_iff_of_ascending hascending]
      constructor
      · rintro ⟨name, ⟨hblank, hname, hbefore⟩, rfl⟩
        refine .feature htrim hname (Text.trim_eq_empty_iff.mpr hblank) fun other hother hlt h => ?_
        have hvisible := hbefore other hother hlt
        rw [Text.trim_eq_empty_iff.mp h] at hvisible
        cases hvisible
      · rintro (hblank | ⟨-, hname, hblank, hbefore⟩)
        · exact absurd hblank htrim
        · refine ⟨_, ⟨Text.trim_eq_empty_iff.mp hblank, hname, fun other hother hlt => ?_⟩, rfl⟩
          exact Bool.eq_false_iff.mpr fun h =>
            hbefore other hother hlt (Text.trim_eq_empty_iff.mpr h)

end Settings

/-! ## Row rules -/

/-- Every policy has a name of its own. -/
structure Policy.WellNamed (ps : List Policy) : Prop where
  named : ∀ p ∈ ps, p.name ≠ ""
  distinct : (ps.map Policy.name).Nodup

/-- The fault in the rules of a table. Of its policies the first one counts that has no name or the
name of one before it, and a missing name is reported with the place of the policy. -/
inductive TableRules.Faulty (table : String) (rules : TableRules) : SchemaError → Prop
  | unnamed (hempty : table = "") : Faulty table rules .emptyTableName
  | unnamedPolicy {before : List Policy} {p : Policy} {after : List Policy} (hnamed : table ≠ "")
      (hpolicies : rules.policies = before ++ p :: after) (hbefore : Policy.WellNamed before)
      (hempty : p.name = "") : Faulty table rules (.unnamedPolicy table before.length)
  | duplicatePolicy {before : List Policy} {p : Policy} {after : List Policy}
      (hnamed : table ≠ "") (hpolicies : rules.policies = before ++ p :: after)
      (hbefore : Policy.WellNamed before) (hname : p.name ≠ "")
      (hrepeated : p.name ∈ before.map Policy.name) :
      Faulty table rules (.duplicatePolicy table p.name)

/-- The fault of the first table that is refused. -/
def Schema.FirstFault (s : Schema) (fault : SchemaError) : Prop :=
  ∃ before table rules after, s = before ++ (table, rules) :: after ∧ Schema.Accepted before ∧
    Refused (table ∈ Entries.names before) table (rules.Faulty table) fault

namespace Table

variable {table : String} {index : Nat} {seen : List String} {fault : SchemaError}

/-- Policies with names of their own only move the place and the names that are seen. -/
theorem nameFault?_append {before : List Policy} (hbefore : Policy.WellNamed before)
    (hunseen : ∀ p ∈ before, p.name ∉ seen) (rest : List Policy) :
    nameFault? table index seen (before ++ rest) =
      nameFault? table (index + before.length) ((before.map Policy.name).reverse ++ seen) rest := by
  induction before generalizing index seen with
  | nil => rfl
  | cons p before ih =>
      obtain ⟨hfresh, hdistinct⟩ := List.nodup_cons.mp hbefore.distinct
      have hp : ¬ p.name = "" := hbefore.named p List.mem_cons_self
      have hseen : seen.contains p.name = false := by
        simpa using hunseen p List.mem_cons_self
      have hrest : ∀ q ∈ before, q.name ∉ p.name :: seen := by
        intro q hq hmem
        rcases List.mem_cons.mp hmem with heq | hmem
        · exact hfresh (List.mem_map.mpr ⟨q, hq, heq⟩)
        · exact hunseen q (List.mem_cons_of_mem _ hq) hmem
      have hfront : Policy.WellNamed before :=
        ⟨fun q hq => hbefore.named q (List.mem_cons_of_mem _ hq), hdistinct⟩
      rw [List.cons_append, nameFault?, if_neg hp, hseen, if_neg Bool.false_ne_true,
        ih hfront hrest, List.length_cons, List.map_cons, List.reverse_cons, List.append_assoc,
        Nat.add_assoc, Nat.add_comm 1]
      rfl

/-- A fault is at the first policy that has no name, or one that was seen before. -/
theorem exists_of_nameFault? {ps : List Policy} (h : nameFault? table index seen ps = some fault) :
    ∃ before p after, ps = before ++ p :: after ∧ Policy.WellNamed before ∧
      (∀ q ∈ before, q.name ∉ seen) ∧
      (p.name = "" ∨ p.name ∈ (before.map Policy.name).reverse ++ seen) := by
  induction ps generalizing index seen with
  | nil => cases h
  | cons p rest ih =>
      have hnil : Policy.WellNamed [] := ⟨by simp, List.nodup_nil⟩
      rw [nameFault?] at h
      split at h
      · next hempty => exact ⟨[], p, rest, rfl, hnil, by simp, .inl hempty⟩
      · next hname =>
          split at h
          · next hseen =>
              exact ⟨[], p, rest, rfl, hnil, by simp, .inr (List.contains_iff_mem.mp hseen)⟩
          · next hunseen =>
              obtain ⟨before, q, after, hrest, hbefore, hapart, hq⟩ := ih h
              have hfresh : p.name ∉ before.map Policy.name := by
                rintro hmem
                obtain ⟨r, hr, heq⟩ := List.mem_map.mp hmem
                exact hapart r hr (heq ▸ List.mem_cons_self)
              refine ⟨p :: before, q, after, congrArg (p :: ·) hrest,
                ⟨List.forall_mem_cons.mpr ⟨hname, hbefore.named⟩,
                  List.nodup_cons.mpr ⟨hfresh, hbefore.distinct⟩⟩,
                List.forall_mem_cons.mpr ⟨fun hmem => hunseen (List.contains_iff_mem.mpr hmem),
                  fun r hr hmem => hapart r hr (List.mem_cons_of_mem _ hmem)⟩, ?_⟩
              refine hq.imp id fun hmem => ?_
              simpa [or_assoc, or_comm, or_left_comm] using hmem

theorem nameFault?_eq_some_iff {ps : List Policy} :
    nameFault? table 0 [] ps = some fault ↔
      ∃ before p after, ps = before ++ p :: after ∧ Policy.WellNamed before ∧
        (p.name = "" ∧ fault = .unnamedPolicy table before.length ∨
          p.name ≠ "" ∧ p.name ∈ before.map Policy.name ∧
            fault = .duplicatePolicy table p.name) := by
  -- at the policy in question the walk stops, and says what is wrong with it
  have hstop : ∀ {before p after}, Policy.WellNamed before →
      nameFault? table 0 [] (before ++ p :: after) =
        if p.name = "" then some (.unnamedPolicy table before.length)
        else if p.name ∈ before.map Policy.name then some (.duplicatePolicy table p.name)
        else nameFault? table (before.length + 1)
          (p.name :: (before.map Policy.name).reverse) after := by
    intro before p after hbefore
    rw [nameFault?_append hbefore fun _ _ => List.not_mem_nil, List.append_nil, Nat.zero_add,
      nameFault?]
    simp only [List.contains_iff_mem, List.mem_reverse]
  constructor
  · intro h
    obtain ⟨before, p, after, rfl, hbefore, -, hp⟩ := exists_of_nameFault? h
    refine ⟨before, p, after, rfl, hbefore, ?_⟩
    rw [hstop hbefore] at h
    split at h
    · next hempty => exact .inl ⟨hempty, (Option.some.inj h).symm⟩
    · next hname =>
        have hrepeated : p.name ∈ before.map Policy.name := by simpa [hname] using hp
        rw [if_pos hrepeated] at h
        exact .inr ⟨hname, hrepeated, (Option.some.inj h).symm⟩
  · rintro ⟨before, p, after, rfl, hbefore, ⟨hempty, rfl⟩ | ⟨hname, hrepeated, rfl⟩⟩
    · rw [hstop hbefore, if_pos hempty]
    · rw [hstop hbefore, if_neg hname, if_pos hrepeated]

theorem compile_error_iff {rules : TableRules} :
    compile table rules = .error fault ↔ rules.Faulty table fault := by
  have hpolicies := @nameFault?_eq_some_iff table fault rules.policies
  unfold compile
  split
  · next hempty =>
      constructor
      · intro h
        obtain rfl := Except.error.inj h
        exact .unnamed hempty
      · rintro (_ | ⟨hnamed, -⟩ | ⟨hnamed, -⟩)
        · rfl
        · exact absurd hempty hnamed
        · exact absurd hempty hnamed
  · next hnamed =>
      constructor
      · intro h
        have hsome : nameFault? table 0 [] rules.policies = some fault := by
          cases hname : nameFault? table 0 [] rules.policies with
          | none =>
              rw [hname] at h
              cases h
          | some other =>
              rw [hname] at h
              rw [Except.error.inj h]
        obtain ⟨before, p, after, hps, hbefore, ⟨hempty, rfl⟩ | ⟨hname, hrepeated, rfl⟩⟩ :=
          hpolicies.mp hsome
        · exact .unnamedPolicy hnamed hps hbefore hempty
        · exact .duplicatePolicy hnamed hps hbefore hname hrepeated
      · rintro (hempty | ⟨-, hps, hbefore, hempty⟩ | ⟨-, hps, hbefore, hname, hrepeated⟩)
        · exact absurd hempty hnamed
        · rw [hpolicies.mpr ⟨_, _, _, hps, hbefore, .inl ⟨hempty, rfl⟩⟩]
        · rw [hpolicies.mpr ⟨_, _, _, hps, hbefore, .inr ⟨hname, hrepeated, rfl⟩⟩]

end Table

namespace Registry

theorem register_eq (r : Registry) (table : String) (rules : TableRules) :
    register r table rules =
      if r.contains table then .error (.duplicateTable table)
      else (Table.compile table rules).map (r.insert table) := by
  unfold register
  cases Table.compile table rules <;> rfl

theorem register_error_iff {r : Registry} {table : String} {rules : TableRules}
    {fault : SchemaError} :
    register r table rules = .error fault ↔
      Refused (r.contains table = true) table (rules.Faulty table) fault := by
  rw [register_eq]
  exact refused_iff fun _ => Table.compile_error_iff

theorem load_eq_loadWith (r : Registry) (s : Schema) : load r s = loadWith register r s := by
  induction s generalizing r with
  | nil => rfl
  | cons e rest ih =>
      obtain ⟨table, rules⟩ := e
      rw [load, loadWith]
      cases register r table rules with
      | error fault => rfl
      | ok r' => exact ih r'

def intake : Intake Table TableRules where
  compile := Table.compile
  register := register
  load := load
  register_eq := register_eq
  load_eq := load_eq_loadWith

theorem registers_register :
    Registers register (fun r name => r.contains name) fun table rules =>
      TableRules.WellNamed rules table := by
  refine intake.registers fun table rules => ?_
  show (∃ t, Table.compile table rules = .ok t) ↔ _
  simp [Table.compile_ok_iff]

theorem ofSchema_eq_outcome (s : Schema) :
    ofSchema s = outcome id (loadWith register KeyMap.empty s) := by
  rw [ofSchema, load_eq_loadWith]
  obtain ⟨r, stop⟩ := loadWith register KeyMap.empty s
  cases stop <;> rfl

theorem ofSchema_error_iff {s : Schema} {fault : SchemaError} :
    ofSchema s = .error fault ↔ s.FirstFault fault := by
  rw [ofSchema_eq_outcome, outcome_error_iff, registers_register.loadWith_error_iff
    (fun taken table rules => Refused taken table (rules.Faulty table))
    (fun _ _ _ _ => register_error_iff) fun _ => rfl]
  constructor
  · rintro ⟨before, table, rules, after, hs, ⟨hdistinct, hnamed⟩, hfault⟩
    exact ⟨before, table, rules, after, hs, ⟨hdistinct, hnamed⟩, hfault⟩
  · rintro ⟨before, table, rules, after, hs, hbefore, hfault⟩
    exact ⟨before, table, rules, after, hs, ⟨hbefore.distinct, hbefore.wellNamed⟩, hfault⟩

end Registry

/-! ## Engines -/

namespace EngineParts

variable {p : EngineParts}

/-- Settings, row rules and column rules are in order. -/
structure WellFormed (p : EngineParts) : Prop where
  settings : p.settings.Valid
  rows : p.schema.Accepted
  columns : p.fieldSchema.Accepted

/-- The first fault: of the settings, then of the row rules, then of the column rules. -/
inductive FirstFault (p : EngineParts) : BuildError → Prop
  | settings {fault : Settings.Fault} (hfault : p.settings.FirstFault fault) :
      FirstFault p (.settings fault)
  | rows {fault : SchemaError} (hsettings : p.settings.Valid)
      (hfault : p.schema.FirstFault fault) : FirstFault p (.schema fault)
  | columns {fault : SchemaError} (hsettings : p.settings.Valid) (hrows : p.schema.Accepted)
      (hfault : p.fieldSchema.FirstFault fault) : FirstFault p (.schema fault)

theorem build_isOk_iff : (∃ e, p.build = .ok e) ↔ p.WellFormed := by
  simp only [build_ok_iff]
  constructor
  · rintro ⟨e, hfault, registry, fields, hrows, hcolumns, -⟩
    exact ⟨Settings.fault?_eq_none_iff.mp hfault, Registry.ofSchema_ok_iff.mp ⟨_, hrows⟩,
      FieldRegistry.ofSchema_ok_iff.mp ⟨_, hcolumns⟩⟩
  · rintro ⟨hsettings, hrows, hcolumns⟩
    obtain ⟨registry, hregistry⟩ := Registry.ofSchema_ok_iff.mpr hrows
    obtain ⟨fields, hfields⟩ := FieldRegistry.ofSchema_ok_iff.mpr hcolumns
    exact ⟨_, Settings.fault?_eq_none_iff.mpr hsettings, registry, fields, hregistry, hfields, rfl⟩

theorem build_error_iff {fault : BuildError} : p.build = .error fault ↔ p.FirstFault fault := by
  constructor
  · intro h
    unfold build at h
    cases hfault : p.settings.fault? with
    | some f =>
        rw [hfault] at h
        obtain rfl := Except.error.inj h
        exact .settings (Settings.fault?_eq_some_iff.mp hfault)
    | none =>
        have hsettings := Settings.fault?_eq_none_iff.mp hfault
        rw [hfault] at h
        cases hrows : Registry.ofSchema p.schema with
        | error f =>
            rw [hrows] at h
            obtain rfl := Except.error.inj h
            exact .rows hsettings (Registry.ofSchema_error_iff.mp hrows)
        | ok registry =>
            have haccepted := Registry.ofSchema_ok_iff.mp ⟨registry, hrows⟩
            rw [hrows] at h
            cases hcolumns : FieldRegistry.ofSchema p.fieldSchema with
            | error f =>
                rw [hcolumns] at h
                obtain rfl := Except.error.inj h
                exact .columns hsettings haccepted (FieldRegistry.ofSchema_error_iff.mp hcolumns)
            | ok fields =>
                rw [hcolumns] at h
                cases h
  · unfold build
    rintro (hfault | ⟨hsettings, hfault⟩ | ⟨hsettings, hrows, hfault⟩)
    · rw [Settings.fault?_eq_some_iff.mpr hfault]
    · rw [Settings.fault?_eq_none_iff.mpr hsettings, Registry.ofSchema_error_iff.mpr hfault]
    · obtain ⟨registry, hregistry⟩ := Registry.ofSchema_ok_iff.mpr hrows
      rw [Settings.fault?_eq_none_iff.mpr hsettings, hregistry,
        FieldRegistry.ofSchema_error_iff.mpr hfault]

/-- An engine can be built exactly from well-formed parts; from any others building fails, with the
fault that comes first. -/
theorem build_wellFormed_or_faulty (p : EngineParts) :
    ((∃ e, p.build = .ok e) ↔ p.WellFormed) ∧
      ∀ fault, p.build = .error fault ↔ p.FirstFault fault :=
  ⟨build_isOk_iff, fun _ => build_error_iff⟩

/-- The second policy has no name, the third repeats the first, and a table with column rules has no
name either. -/
example (settings : Settings) (hsettings : settings.fault? = none) (clock : Clock)
    (audit : Option AuditLogger) :
    let policy (name : String) : Policy :=
      { name, operations := [.read], priority := 0, body := .allow fun _ => .value true
        activation := none, hints := none }
    let rules : TableRules :=
      { policies := [policy "own", policy "", policy "own"], defaultDeny := true
        exempt := KeyMap.empty }
    EngineParts.build { settings, schema := [("docs", rules)]
                        fieldSchema := [("", ⟨.deny, KeyMap.empty, []⟩)], clock, audit } =
      .error (.schema (.unnamedPolicy "docs" 1)) := by
  intro policy rules
  rw [build, hsettings]
  rfl

end EngineParts

end RowAccess
