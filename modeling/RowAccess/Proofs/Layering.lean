import RowAccess.Proofs.Construction
import RowAccess.Proofs.Conversion
import RowAccess.Proofs.Filters
import RowAccess.Proofs.Variables

/-!
# Which layer a setting comes from

A setting is what the value of the strongest layer says that mentions it,
and as built in where no layer does; the features are those of all layers
together. `Reflects` says this of settings, for layers that are known by
the value that each of them gives to a setting. Only one settings record
reflects given layers (`Reflects.unique`).

Well-typed sources lead to the settings that reflect them. The merge is
known section by section (`Draft.holds_mergeSources`), the value that a
variable is for by its name (`value?_environmentLayer`), and what a value
says by `SaysTruth`, `SaysNatural` and `SaysText`; conversion reads each
setting from its section (`exists_ofDraft?`).
-/

namespace RowAccess

theorem KeyMap.ext_find? {α : Type} {m n : KeyMap α} (h : ∀ name, m.find? name = n.find? name) :
    m = n := by
  have hmem : ∀ e, e ∈ m.entries ↔ e ∈ n.entries := by
    rintro ⟨name, v⟩
    rw [mem_entries_iff, mem_entries_iff, h]
  have hperm := (List.perm_ext_iff_of_nodup (List.Nodup.of_map _ m.nodup_names)
    (List.Nodup.of_map _ n.nodup_names)).mpr hmem
  refine KeyMap.ext (hperm.eq_of_pairwise ?_ m.sorted n.sorted)
  intro a b _ _ hab hba
  exact absurd (String.lt_trans hab hba) (String.lt_irrefl _)

namespace Settings

open Draft (value? said)

/-! ## Well-typed sources -/

/-- The kind of value that a setting has. -/
inductive Kind where
  | truth
  | natural
  | text

/-- A value that says something of the kind. -/
def Kind.Accepts : Kind → Draft → Prop
  | .truth, d => ∃ b, SaysTruth d b
  | .natural, d => ∃ n, SaysNatural d n
  | .text, d => ∃ s, SaysText d s

instance (kind : Kind) (d : Draft) : Decidable (kind.Accepts d) :=
  match kind with
  | .truth => decidable_of_iff ((toTruth? d).isSome = true)
      (by simp only [Option.isSome_iff_exists, Kind.Accepts, saysTruth_iff])
  | .natural => decidable_of_iff ((toNatural? d).isSome = true)
      (by simp only [Option.isSome_iff_exists, Kind.Accepts, saysNatural_iff])
  | .text => decidable_of_iff ((toText? d).isSome = true)
      (by simp only [Option.isSome_iff_exists, Kind.Accepts, saysText_iff])

/-- The kind of a setting in a section. Whatever the section of the features holds is one. -/
def kind? : String → String → Option Kind
  | "engine", "environment" => some .text
  | "engine", "deny_unregistered_tables" => some .truth
  | "engine", "require_context" => some .truth
  | "features", _ => some .truth
  | "audit", "enabled" => some .truth
  | "audit", "log_allows" => some .truth
  | "resolver", "cache_ttl_secs" => some .natural
  | _, _ => none

/-- A value that a setting can have. What is no setting has no kind, but is no section either. -/
def fits (sect name : String) (d : Draft) : Bool :=
  match kind? sect name with
  | some kind => decide (kind.Accepts d)
  | none => !d.isTable

/-- All that a source gives to the sections fits. What leads elsewhere is not looked at. -/
def isTyped (source : Draft.Entries) : Bool :=
  source.all fun e =>
    let path := Draft.pathOf e.1
    !sections.contains path.head ||
      match Draft.settingsAt? path.steps e.2 with
      | some es => es.all fun v => fits path.head v.1 v.2
      | none => false

variable {source : Draft.Entries} {sources : List Draft.Entries} {sect name : String}

theorem Kind.not_table_of_accepts {kind : Kind} {d : Draft} (h : kind.Accepts d) :
    d.isTable = false := by
  cases d with
  | table es => cases kind <;> obtain ⟨_, h⟩ := h <;> cases h
  | _ => rfl

theorem not_table_of_fits {d : Draft} (h : fits sect name d = true) : d.isTable = false := by
  unfold fits at h
  split at h
  · exact Kind.not_table_of_accepts (of_decide_eq_true h)
  · simpa using h

theorem accepts_of_fits {kind : Kind} {d : Draft} (hkind : kind? sect name = some kind)
    (h : fits sect name d = true) : kind.Accepts d := by
  rw [fits, hkind] at h
  exact of_decide_eq_true h

theorem settingsAt?_of_isTyped (h : isTyped source = true) {e : String × Draft} (he : e ∈ source)
    (hsect : (Draft.pathOf e.1).head ∈ sections) :
    ∃ es, Draft.settingsAt? (Draft.pathOf e.1).steps e.2 = some es ∧
      ∀ v ∈ es, fits (Draft.pathOf e.1).head v.1 v.2 = true := by
  have hentry := List.all_eq_true.mp h e he
  simp only [List.contains_iff_mem.mpr hsect, Bool.not_true, Bool.false_or] at hentry
  split at hentry
  · next es hes => exact ⟨es, hes, List.all_eq_true.mp hentry⟩
  · cases hentry

theorem plain_of_isTyped (h : isTyped source = true) (hsect : sect ∈ sections) :
    ∀ e ∈ source, Draft.IsPlain sect e := by
  intro e he hhead
  obtain ⟨es, hes, hfits⟩ := settingsAt?_of_isTyped h he (hhead ▸ hsect)
  exact ⟨es, hes, fun v hv => not_table_of_fits (hfits v hv)⟩

theorem fits_of_mem_said (h : isTyped source = true) (hsect : sect ∈ sections) :
    ∀ v ∈ said sect source, fits sect v.1 v.2 = true := by
  intro v hv
  obtain ⟨e, he, hv⟩ := List.mem_flatMap.mp hv
  unfold Draft.given at hv
  split at hv
  · next hhead =>
      obtain ⟨es, hes, hfits⟩ := settingsAt?_of_isTyped h he (hhead ▸ hsect)
      rw [hes] at hv
      exact hhead ▸ hfits v hv
  · cases hv

theorem fits_of_value? (h : isTyped source = true) (hsect : sect ∈ sections) {d : Draft}
    (hd : value? sect name source = some d) : fits sect name d = true :=
  fits_of_mem_said h hsect _ (List.mem_reverse.mp (Entries.mem_of_find? hd))

/-! ## Layers -/

/-- The values that a layer gives to the settings, by section and name. -/
abbrev Layer := String → String → Option Draft

namespace Layer

def ofSource (source : Draft.Entries) : Layer := fun sect name => value? sect name source

/-- A file that is absent, or that could not be read, gives no values. -/
def ofFile (text : Option String) : Layer :=
  match fileLayer text with
  | .ok source => ofSource source
  | .error _ => fun _ _ => none

/-- The environment gives a setting the value of the last variable that is named for it. -/
def ofEnvironment (stem : String) (environment : List (String × String)) : Layer :=
  fun sect name => (lastNamed? stem environment sect name).map fun v => variableValue v.2

end Layer

/-- The value that the strongest layer gives to a setting that mentions it. The layers are given
from the strongest on. -/
def strongest (layers : List Layer) (sect name : String) : Option Draft :=
  layers.findSome? fun layer => layer sect name

/-- A setting is what a value says, if there is one, and else as built in. -/
inductive Chosen {α : Type} (Says : Draft → α → Prop) (builtIn : α) : Option Draft → α → Prop
  | silent : Chosen Says builtIn none builtIn
  | said {d : Draft} {a : α} (h : Says d a) : Chosen Says builtIn (some d) a

/-- The settings are what the strongest layers say, each by itself, and the features are those of
all layers, each as the strongest layer has it that mentions it. -/
structure Reflects (settings : Settings) (layers : List Layer) : Prop where
  environment : Chosen SaysText default.engine.environment
    (strongest layers "engine" "environment") settings.engine.environment
  denyUnregistered : Chosen SaysTruth default.engine.denyUnregistered
    (strongest layers "engine" "deny_unregistered_tables") settings.engine.denyUnregistered
  requireContext : Chosen SaysTruth default.engine.requireContext
    (strongest layers "engine" "require_context") settings.engine.requireContext
  enabled : Chosen SaysTruth default.audit.enabled
    (strongest layers "audit" "enabled") settings.audit.enabled
  logAllows : Chosen SaysTruth default.audit.logAllows
    (strongest layers "audit" "log_allows") settings.audit.logAllows
  cacheTtlSecs : Chosen SaysNatural default.resolver.cacheTtlSecs
    (strongest layers "resolver" "cache_ttl_secs") settings.resolver.cacheTtlSecs
  features : ∀ name b, settings.features.find? name = some b ↔
    ∃ d, strongest layers "features" name = some d ∧ SaysTruth d b

variable {settings : Settings} {ranked : List Layer}

/-- Layers that give the settings the same values are reflected by the same settings. -/
theorem Reflects.congr {others : List Layer} (h : settings.Reflects ranked)
    (hsame : ∀ sect ∈ sections, strongest others sect = strongest ranked sect) :
    settings.Reflects others := by
  have hengine := hsame "engine" (by decide)
  have hfeatures := hsame "features" (by decide)
  have haudit := hsame "audit" (by decide)
  have hresolver := hsame "resolver" (by decide)
  exact
    { environment := hengine ▸ h.environment
      denyUnregistered := hengine ▸ h.denyUnregistered
      requireContext := hengine ▸ h.requireContext
      enabled := haudit ▸ h.enabled
      logAllows := haudit ▸ h.logAllows
      cacheTtlSecs := hresolver ▸ h.cacheTtlSecs
      features := hfeatures ▸ h.features }

theorem Chosen.unique {α : Type} {Says : Draft → α → Prop} {convert : Draft → Option α}
    (hmeans : ∀ d a, Says d a ↔ convert d = some a) {builtIn a b : α} {o : Option Draft}
    (ha : Chosen Says builtIn o a) (hb : Chosen Says builtIn o b) : a = b := by
  cases ha with
  | silent =>
      cases hb
      rfl
  | said ha =>
      cases hb with
      | said hb => exact Option.some.inj (((hmeans _ _).mp ha).symm.trans ((hmeans _ _).mp hb))

/-- No other settings reflect the same layers. -/
theorem Reflects.unique {other : Settings} (h : settings.Reflects ranked)
    (hother : other.Reflects ranked) : settings = other := by
  have hfeatures : settings.features = other.features := KeyMap.ext_find? fun name =>
    Option.ext fun b => (h.features name b).trans (hother.features name b).symm
  have henvironment := h.environment.unique saysText_iff hother.environment
  have hdeny := h.denyUnregistered.unique saysTruth_iff hother.denyUnregistered
  have hrequire := h.requireContext.unique saysTruth_iff hother.requireContext
  have henabled := h.enabled.unique saysTruth_iff hother.enabled
  have hlogAllows := h.logAllows.unique saysTruth_iff hother.logAllows
  have httl := h.cacheTtlSecs.unique saysNatural_iff hother.cacheTtlSecs
  obtain ⟨⟨_, _, _⟩, _, ⟨_, _⟩, ⟨_⟩⟩ := settings
  obtain ⟨⟨_, _, _⟩, _, ⟨_, _⟩, ⟨_⟩⟩ := other
  simp only [mk.injEq, EngineSettings.mk.injEq, AuditSettings.mk.injEq, ResolverSettings.mk.injEq]
  exact ⟨⟨henvironment, hdeny, hrequire⟩, hfeatures, ⟨henabled, hlogAllows⟩, httl⟩

/-! ## Conversion -/

theorem section?_of_holds {es settings : Draft.Entries}
    (h : Draft.Holds es sect settings) : section? es sect = some (.table settings) := by
  unfold section?
  cases h with
  | absent h => rw [h]
  | table h => rw [h]

theorem strongest_of_sources (sources : List Draft.Entries) (sect name : String) :
    Entries.find? (Entries.ofList (sources.flatMap (said sect))) name =
      strongest (sources.reverse.map Layer.ofSource) sect name := by
  rw [Draft.find?_said, strongest, List.findSome?_map]
  rfl

theorem fits_of_strongest (h : ∀ source ∈ sources, isTyped source = true) (hsect : sect ∈ sections)
    {d : Draft} (hd : strongest (sources.reverse.map Layer.ofSource) sect name = some d) :
    fits sect name d = true := by
  rw [strongest, List.findSome?_map] at hd
  obtain ⟨source, hsource, hd⟩ := List.exists_of_findSome?_eq_some hd
  exact fits_of_value? (h source (List.mem_reverse.mp hsource)) hsect hd

/-- A setting of a merged section is read as what its value says. -/
theorem exists_setting? {α : Type} {Says : Draft → α → Prop} {convert : Draft → Option α}
    (hmeans : ∀ d a, Says d a ↔ convert d = some a)
    (h : ∀ source ∈ sources, isTyped source = true) (hsect : sect ∈ sections) (name : String)
    {kind : Kind} (hkind : kind? sect name = some kind)
    (haccepts : ∀ d, kind.Accepts d → ∃ a, Says d a) (place : Nat) (builtIn : α) :
    ∃ a, setting? (.table (Entries.ofList (sources.flatMap (said sect)))) name place convert
        builtIn = some a ∧
      Chosen Says builtIn (strongest (sources.reverse.map Layer.ofSource) sect name) a := by
  rw [setting?, part?, strongest_of_sources]
  cases hfound : strongest (sources.reverse.map Layer.ofSource) sect name with
  | none => exact ⟨builtIn, rfl, .silent⟩
  | some d =>
      obtain ⟨a, ha⟩ := haccepts d (accepts_of_fits hkind (fits_of_strongest h hsect hfound))
      exact ⟨a, (hmeans d a).mp ha, .said ha⟩

/-- Flags that are all truth values keep their names when they are converted. -/
theorem exists_flags {flags : Draft.Entries}
    (h : ∀ e ∈ flags, (toTruth? e.2).isSome = true) :
    ∃ bs : List (String × Bool),
      (flags.mapM fun e => (toTruth? e.2).map fun b => (e.1, b)) = some bs ∧
        Entries.names bs = Entries.names flags ∧
        ∀ name, Entries.find? bs name = (Entries.find? flags name).bind toTruth? := by
  induction flags with
  | nil => exact ⟨[], rfl, rfl, fun _ => rfl⟩
  | cons e rest ih =>
      obtain ⟨he, hrest⟩ := List.forall_mem_cons.mp h
      obtain ⟨b, hb⟩ := Option.isSome_iff_exists.mp he
      obtain ⟨bs, hbs, hnames, hfind⟩ := ih hrest
      refine ⟨(e.1, b) :: bs, by simp [hb, hbs], congrArg (e.1 :: ·) hnames, fun name => ?_⟩
      rw [Entries.find?, Entries.find?, hfind]
      split
      · exact hb.symm
      · rfl

theorem exists_features? {es flags : Draft.Entries} (hes : Draft.Holds es "features" flags)
    (hflags : ∀ e ∈ flags, (toTruth? e.2).isSome = true) (hnames : (Entries.names flags).Nodup) :
    ∃ features, features? es = some features ∧
      ∀ name, features.find? name = (Entries.find? flags name).bind toTruth? := by
  obtain ⟨bs, hbs, hkeep, hfind⟩ := exists_flags hflags
  refine ⟨KeyMap.ofList bs, ?_, fun name => ?_⟩
  · unfold features?
    cases hes with
    | absent hnone =>
        obtain rfl := Option.some.inj hbs
        rw [hnone]
        rfl
    | table hsome =>
        rw [hsome]
        exact congrArg (Option.map KeyMap.ofList) hbs
  · rw [KeyMap.ofList, KeyMap.find?_insertAll, Entries.find?_reverse (hkeep ▸ hnames), hfind,
      KeyMap.find?_empty, Option.or_none]

/-- Well-typed sources, the weakest first, can be converted to settings. -/
theorem exists_ofDraft? (h : ∀ source ∈ sources, isTyped source = true) :
    ∃ settings, ofDraft? (Draft.mergeSources sources) = some settings ∧
      settings.Reflects (sources.reverse.map Layer.ofSource) := by
  have hholds : ∀ sect ∈ sections, Draft.Holds (Draft.mergeSources sources) sect
      (Entries.ofList (sources.flatMap (said sect))) := fun sect hsect =>
    Draft.holds_mergeSources fun source hsource => plain_of_isTyped (h source hsource) hsect
  have hsection : ∀ sect ∈ sections, section? (Draft.mergeSources sources) sect =
      some (.table (Entries.ofList (sources.flatMap (said sect)))) :=
    fun sect hsect => section?_of_holds (hholds sect hsect)
  have hflags : ∀ e ∈ Entries.ofList (sources.flatMap (said "features")),
      (toTruth? e.2).isSome = true := by
    intro e he
    have hfind := (Entries.find?_eq_some_iff (Entries.nodup_ofList _)).mpr he
    rw [strongest_of_sources] at hfind
    obtain ⟨b, hb⟩ := accepts_of_fits rfl (fits_of_strongest h (by decide) hfind)
    exact Option.isSome_iff_exists.mpr ⟨b, (saysTruth_iff _ b).mp hb⟩
  obtain ⟨features, hfeatures, hfind⟩ :=
    exists_features? (hholds "features" (by decide)) hflags (Entries.nodup_ofList _)
  have hengine : "engine" ∈ sections := by decide
  have haudit : "audit" ∈ sections := by decide
  have hresolver : "resolver" ∈ sections := by decide
  obtain ⟨environment, henvironment, henvironmentChosen⟩ :=
    exists_setting? saysText_iff h hengine "environment" rfl (fun _ => id) 0
      default.engine.environment
  obtain ⟨deny, hdeny, hdenyChosen⟩ :=
    exists_setting? saysTruth_iff h hengine "deny_unregistered_tables" rfl
      (fun _ => id) 1 default.engine.denyUnregistered
  obtain ⟨require, hrequire, hrequireChosen⟩ :=
    exists_setting? saysTruth_iff h hengine "require_context" rfl (fun _ => id) 2
      default.engine.requireContext
  obtain ⟨enabled, henabled, henabledChosen⟩ :=
    exists_setting? saysTruth_iff h haudit "enabled" rfl (fun _ => id) 0
      default.audit.enabled
  obtain ⟨logAllows, hlogAllows, hlogAllowsChosen⟩ :=
    exists_setting? saysTruth_iff h haudit "log_allows" rfl (fun _ => id) 1
      default.audit.logAllows
  obtain ⟨ttl, httl, httlChosen⟩ :=
    exists_setting? saysNatural_iff h hresolver "cache_ttl_secs" rfl (fun _ => id) 0
      default.resolver.cacheTtlSecs
  refine ⟨⟨⟨environment, deny, require⟩, features, ⟨enabled, logAllows⟩, ⟨ttl⟩⟩, ?_,
    henvironmentChosen, hdenyChosen, hrequireChosen, henabledChosen, hlogAllowsChosen, httlChosen,
    fun name b => ?_⟩
  · simp only [ofDraft?, hsection _ hengine, hsection _ haudit, hsection _ hresolver, hfeatures,
      henvironment, hdeny, hrequire, henabled, hlogAllows, httl, Option.bind_eq_bind,
      Option.bind_some, Option.pure_def]
  · rw [hfind, strongest_of_sources, Option.bind_eq_some_iff]
    simp only [saysTruth_iff]

/-! ## Loading -/

theorem not_valid_iff {settings : Settings} : ¬ settings.Valid ↔
    Text.trim settings.engine.environment = "" ∨
      ∃ name ∈ settings.features.names, Text.trim name = "" := by
  constructor
  · intro h
    by_contra hvisible
    obtain ⟨henvironment, hfeatures⟩ := not_or.mp hvisible
    exact h ⟨henvironment, fun name hname hblank => hfeatures ⟨name, hname, hblank⟩⟩
  · rintro (hblank | ⟨name, hname, hblank⟩) hvalid
    · exact hvalid.environment hblank
    · exact hvalid.features name hname hblank

theorem loadOrDefault_of_ok {s : Sources} {settings : Settings} (h : load s = .ok settings) :
    loadOrDefault s = .ok settings := by
  rw [loadOrDefault, h]

theorem loadOrDefault_of_invalid {s : Sources} {fault : Fault}
    (h : load s = .error (.invalid fault)) : loadOrDefault s = .ok default := by
  rw [loadOrDefault, h]
  rfl

/-- What loading makes of sources that lead to these settings. -/
structure Loads (settings : Settings) (s : Sources) : Prop where
  ok_iff : ∀ loaded, load s = .ok loaded ↔ settings.Valid ∧ loaded = settings
  error_iff : ∀ e, load s = .error e ↔ ∃ fault, settings.FirstFault fault ∧ e = .invalid fault
  blank_iff : (∃ e, load s = .error e) ↔
    Text.trim settings.engine.environment = "" ∨
      ∃ name ∈ settings.features.names, Text.trim name = ""
  orDefault_of_ok : ∀ loaded, load s = .ok loaded → loadOrDefault s = .ok loaded
  orDefault_of_error : ∀ e, load s = .error e → loadOrDefault s = .ok default

theorem loads_of_ofDraft? {s : Sources} {settings : Settings} (hlayers : layers s = .ok sources)
    (h : ofDraft? (Draft.mergeSources sources) = some settings) : settings.Loads s := by
  have hload : load s =
      settings.fault?.elim (.ok settings) fun fault => .error (.invalid fault) := by
    rw [load, hlayers, show (Except.ok sources).bind ofLayers = ofLayers sources from rfl,
      ofLayers, h]
    cases hfault : settings.fault? <;> simp [hfault]
  have herror : ∀ e, load s = .error e ↔
      ∃ fault, settings.FirstFault fault ∧ e = .invalid fault := by
    intro e
    simp only [hload, ← fault?_eq_some_iff]
    cases settings.fault? <;> simp [eq_comm]
  refine ⟨fun loaded => ?_, herror, ?_, fun _ => loadOrDefault_of_ok, fun e he => ?_⟩
  · rw [hload, ← fault?_eq_none_iff]
    cases settings.fault? <;> simp [eq_comm]
  · rw [← not_valid_iff, ← fault?_eq_none_iff, hload]
    cases settings.fault? <;> simp
  · obtain ⟨fault, -, rfl⟩ := (herror e).mp he
    exact loadOrDefault_of_invalid he

/-- A layer that could be read and is well typed. -/
def isLegible : Except LoadError Draft.Entries → Bool
  | .ok source => isTyped source
  | .error _ => false

/-- Every source can be read, and what it gives to the sections has the kinds of the settings. -/
structure Sources.WellTyped (s : Sources) : Prop where
  user : isLegible (fileLayer s.user) = true
  project : isLegible (fileLayer s.project) = true
  overrides : isLegible (fileLayer s.overrides) = true
  environment : isLegible (mergeable (environmentLayer s.stem s.environment)) = true

/-- The layers above that of the user, the strongest first. -/
def Sources.shared (s : Sources) : List Layer :=
  [Layer.ofEnvironment s.stem s.environment, Layer.ofFile s.overrides, Layer.ofFile s.project]

theorem exists_of_isLegible {layer : Except LoadError Draft.Entries} (h : isLegible layer = true) :
    ∃ source, layer = .ok source ∧ isTyped source = true := by
  cases layer with
  | ok source => exact ⟨source, rfl, h⟩
  | error e => cases h

theorem exists_loads {s : Sources} (h : s.WellTyped) :
    ∃ settings : Settings, settings.Reflects (s.shared ++ [Layer.ofFile s.user]) ∧
      settings.Loads s := by
  obtain ⟨user, huser, huserTyped⟩ := exists_of_isLegible h.user
  obtain ⟨project, hproject, hprojectTyped⟩ := exists_of_isLegible h.project
  obtain ⟨overrides, hoverrides, hoverridesTyped⟩ := exists_of_isLegible h.overrides
  obtain ⟨environment, henvironment, henvironmentTyped⟩ := exists_of_isLegible h.environment
  have hlayers : layers s = .ok [user, project, overrides, environment] := by
    rw [layers, huser, hproject, hoverrides, henvironment]
    rfl
  have htyped : ∀ source ∈ [user, project, overrides, environment], isTyped source = true := by
    simp [huserTyped, hprojectTyped, hoverridesTyped, henvironmentTyped]
  have hmerged : environmentLayer s.stem s.environment = environment := by
    unfold mergeable at henvironment
    split at henvironment
    · exact Except.ok.inj henvironment
    · cases henvironment
  obtain ⟨settings, hsettings, hreflects⟩ := exists_ofDraft? htyped
  refine ⟨settings, hreflects.congr fun sect hsect => funext fun name => ?_,
    loads_of_ofDraft? hlayers hsettings⟩
  have hvariables : Layer.ofEnvironment s.stem s.environment sect name =
      Layer.ofSource environment sect name := by
    rw [Layer.ofSource, ← hmerged, value?_environmentLayer hsect]
    rfl
  simp only [Sources.shared, Layer.ofFile, huser, hproject, hoverrides]
  simp only [strongest, List.cons_append, List.nil_append, List.reverse_cons, List.reverse_nil,
    List.map_cons, List.map_nil, List.findSome?_cons, hvariables]

/-- Each source overrides one below it, and values are spelled in several ways. The environment of
the project is blank, but not the one that the machine puts over it. -/
def stagingSources : Sources where
  user := some
    "[features]\nbeta = true\nui = true\n[audit]\nenabled = false\nlog_allows = 0\n"
  project := some
    "[engine]\nenvironment = \"\"\nrequire_context = false\n[resolver]\ncache_ttl_secs = 90\n"
  overrides := some
    "[engine]\nenvironment = \"staging\"\ndeny_unregistered_tables = \"yes\"\n"
  environment :=
    [("ROWGUARD_FEATURES__BETA", "false"), ("ROWGUARD_RESOLVER__CACHE_TTL_SECS", "1.5e2")]
  stem := defaultStem

theorem stagingSources_wellTyped : stagingSources.WellTyped where
  user := by decide +kernel
  project := by decide +kernel
  overrides := by decide +kernel
  environment := by decide +kernel

end Settings

end RowAccess
