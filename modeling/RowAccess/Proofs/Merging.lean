import RowAccess.Settings.Draft

/-!
# What sources give to a section

Sources are merged key by key, and the keys at their tops can be paths.
Where no value of a section is a table, a section of the merged table holds
what all sources give to it, and the last value counts of each setting.

The merge is followed one section at a time. `Draft.Holds` says what a
section of a merged table holds; an entry of a source adds to it what it
gives to the section (`Holds.overlayAt`), and so does a run of sources
(`holds_mergeSources`).
-/

namespace RowAccess

namespace Draft

def isTable : Draft → Bool
  | .table _ => true
  | _ => false

/-- The settings that a value makes in the section where some steps to it start: those of a table
at the section itself, or the one that a single step leads to. -/
def settingsAt? : List Step → Draft → Option Entries
  | [], .table es => some es
  | [.key name], d => some [(name, d)]
  | _, _ => none

/-- The settings that an entry of a source gives to a section. -/
def given (sect : String) (e : String × Draft) : Entries :=
  if (pathOf e.1).head = sect then (settingsAt? (pathOf e.1).steps e.2).getD [] else []

/-- The settings that a source gives to a section. -/
def said (sect : String) (source : Entries) : Entries := source.flatMap (given sect)

/-- The value that a source gives to a setting of a section: the last one. -/
def value? (sect name : String) (source : Entries) : Option Draft :=
  Entries.find? (said sect source).reverse name

/-- An entry that leads into the section makes settings there, none of which is a table. -/
def IsPlain (sect : String) (e : String × Draft) : Prop :=
  (pathOf e.1).head = sect →
    ∃ es, settingsAt? (pathOf e.1).steps e.2 = some es ∧ ∀ v ∈ es, v.2.isTable = false

/-- What a section holds. An absent one holds nothing. -/
inductive Holds (es : Entries) (sect : String) : Entries → Prop
  | absent (h : Entries.find? es sect = none) : Holds es sect []
  | table {settings : Entries} (h : Entries.find? es sect = some (.table settings)) :
      Holds es sect settings

variable {es settings source : Entries} {sect name : String}

theorem value?_cons (e : String × Draft) :
    value? sect name (e :: source) =
      (value? sect name source).or (Entries.find? (given sect e).reverse name) := by
  rw [value?, said, List.flatMap_cons, List.reverse_append, Entries.find?_append]
  rfl

/-- An entry without a table gives a value to one setting at most: that at the end of its path. -/
theorem find?_given {e : String × Draft} (h : e.2.isTable = false) :
    Entries.find? (given sect e).reverse name =
      if pathOf e.1 = ⟨sect, [.key name]⟩ then some e.2 else none := by
  unfold given
  generalize pathOf e.1 = path
  obtain ⟨head, steps⟩ := path
  obtain ⟨key, d⟩ := e
  have hroot : settingsAt? [] d = none := by
    cases d with
    | table es => cases h
    | _ => rfl
  match steps with
  | [] => simp [hroot, Entries.find?]
  | [.key more] =>
      by_cases hhead : head = sect
      · simp only [hhead, settingsAt?, Option.getD_some, List.reverse_singleton, if_true]
        by_cases hname : more = name <;> simp [Entries.find?, hname]
      · simp [hhead, Entries.find?]
  | .place n :: rest => simp [settingsAt?, Entries.find?]
  | .key more :: step :: rest => simp [settingsAt?, Entries.find?]

theorem overlayValue_of_not_table (below : Option Draft) {d : Draft} (h : d.isTable = false) :
    overlayValue below d = d := by
  cases d with
  | table es => cases h
  | _ => rfl

theorem overlay_of_not_table (below : Entries) (h : ∀ v ∈ es, v.2.isTable = false) :
    overlay below es = Entries.putAll below es := by
  induction es generalizing below with
  | nil => rfl
  | cons e rest ih =>
      obtain ⟨he, hrest⟩ := List.forall_mem_cons.mp h
      rw [overlay, overlayValue_of_not_table _ he, ih _ hrest]
      rfl

theorem changeIn_of_settingsAt? {steps : List Step} {d : Draft} (below : Option Draft)
    (hes : settingsAt? steps d = some es) (h : ∀ v ∈ es, v.2.isTable = false) :
    changeIn (overlayValue · d) steps below = .table (Entries.putAll (entries below) es) := by
  match steps, d with
  | [], .table ds =>
      obtain rfl := Option.some.inj hes
      rw [changeIn, overlayValue, overlay_of_not_table _ h]
  | [.key name], d =>
      obtain rfl := Option.some.inj hes
      rw [changeIn, changeIn, overlayValue_of_not_table _ (h _ List.mem_cons_self)]
      rfl

theorem Holds.entries_eq (h : Holds es sect settings) :
    entries (Entries.find? es sect) = settings := by
  cases h with
  | absent h => rw [h]; rfl
  | table h => rw [h]; rfl

/-- One entry of a source adds what it gives to the section. -/
theorem Holds.overlayAt {e : String × Draft} (h : Holds es sect settings) (he : IsPlain sect e) :
    Holds (overlayAt es (pathOf e.1) e.2) sect (Entries.putAll settings (given sect e)) := by
  by_cases hhead : (pathOf e.1).head = sect
  · obtain ⟨more, hmore, hplain⟩ := he hhead
    refine .table ?_
    rw [Draft.overlayAt, Entries.find?_put, if_pos hhead, hhead,
      changeIn_of_settingsAt? _ hmore hplain, h.entries_eq, given, if_pos hhead, hmore]
    rfl
  · have hkept : Entries.find? (Draft.overlayAt es (pathOf e.1) e.2) sect =
        Entries.find? es sect := by
      rw [Draft.overlayAt, Entries.find?_put, if_neg hhead]
    rw [given, if_neg hhead]
    cases h with
    | absent h => exact .absent (hkept.trans h)
    | table h => exact .table (hkept.trans h)

theorem Holds.overlaySource (h : Holds es sect settings)
    (hsource : ∀ e ∈ source, IsPlain sect e) :
    Holds (overlaySource es source) sect (Entries.putAll settings (said sect source)) := by
  induction source generalizing es settings with
  | nil => exact h
  | cons e rest ih =>
      obtain ⟨he, hrest⟩ := List.forall_mem_cons.mp hsource
      rw [said, List.flatMap_cons, Entries.putAll, List.foldl_append]
      exact ih (h.overlayAt he) hrest

/-- A section of merged sources holds what they give to it, with the last value of each setting. -/
theorem holds_mergeSources {sources : List Entries}
    (h : ∀ source ∈ sources, ∀ e ∈ source, IsPlain sect e) :
    Holds (mergeSources sources) sect (Entries.ofList (sources.flatMap (said sect))) := by
  have hrun : ∀ {es settings}, Holds es sect settings →
      Holds (sources.foldl Draft.overlaySource es) sect
        (Entries.putAll settings (sources.flatMap (said sect))) := by
    induction sources with
    | nil => exact id
    | cons source rest ih =>
        intro es settings hes
        obtain ⟨hsource, hrest⟩ := List.forall_mem_cons.mp h
        rw [List.flatMap_cons, Entries.putAll, List.foldl_append]
        exact ih hrest (hes.overlaySource hsource)
  exact hrun (.absent rfl)

/-- Of all sources, the last one that gives a value to a setting counts. -/
theorem find?_said (sources : List Entries) (sect name : String) :
    Entries.find? (Entries.ofList (sources.flatMap (said sect))) name =
      sources.reverse.findSome? (value? sect name) := by
  rw [Entries.ofList, Entries.find?_putAll, show Entries.find? ([] : Entries) name = none from rfl,
    Option.or_none]
  induction sources with
  | nil => rfl
  | cons source rest ih =>
      rw [List.flatMap_cons, List.reverse_append, Entries.find?_append, ih, List.reverse_cons,
        List.findSome?_append, List.findSome?_singleton, value?]

end Draft

end RowAccess
