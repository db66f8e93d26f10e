import RowAccess.Entries

/-!
# Sorted maps and sets of names

Maps from names to values whose entries stand in ascending order of the names, compared
by code point, each name once. The order is part of the type, so two maps with the same
content are equal and a listing needs no sorting. A set of names is a map to nothing.
-/

namespace RowAccess

/-- A map from names, in ascending order. -/
structure KeyMap (α : Type) where
  entries : List (String × α)
  sorted : entries.Pairwise fun a b => a.1 < b.1

namespace KeyMap

variable {α : Type}

def place (es : List (String × α)) (name : String) (v : α) : List (String × α) :=
  match es with
  | [] => [(name, v)]
  | e :: rest =>
    if name < e.1 then (name, v) :: e :: rest
    else if name = e.1 then (name, v) :: rest
    else e :: place rest name v

theorem mem_place {es : List (String × α)} {name : String} {v : α} {x : String × α}
    (h : x ∈ place es name v) : x = (name, v) ∨ x ∈ es := by
  induction es with
  | nil => simpa [place] using h
  | cons e rest ih =>
    simp only [place] at h
    split at h
    · simpa using h
    · split at h
      · rcases List.mem_cons.mp h with h | h
        · exact Or.inl h
        · exact Or.inr (List.mem_cons_of_mem _ h)
      · rcases List.mem_cons.mp h with h | h
        · exact Or.inr (h ▸ List.mem_cons_self)
        · exact (ih h).imp_right (List.mem_cons_of_mem _)

theorem sorted_place {es : List (String × α)} (h : es.Pairwise fun a b => a.1 < b.1)
    (name : String) (v : α) : (place es name v).Pairwise fun a b => a.1 < b.1 := by
  induction es with
  | nil => simp [place]
  | cons e rest ih =>
    obtain ⟨he, hrest⟩ := List.pairwise_cons.mp h
    simp only [place]
    split
    · next hlt =>
      refine List.pairwise_cons.mpr ⟨fun x hx => ?_, h⟩
      rcases List.mem_cons.mp hx with rfl | hx
      · exact hlt
      · exact String.lt_trans hlt (he x hx)
    · split
      · next heq =>
        exact List.pairwise_cons.mpr ⟨fun x hx => heq ▸ he x hx, hrest⟩
      · next hge hne =>
        refine List.pairwise_cons.mpr ⟨fun x hx => ?_, ih hrest⟩
        rcases mem_place hx with rfl | hx
        · exact Std.lt_of_le_of_ne (Std.not_lt.mp hge) (Ne.symm hne)
        · exact he x hx

/-- A name behind all others is placed at the end. -/
theorem place_of_forall_lt {es : List (String × α)} {name : String} (h : ∀ e ∈ es, e.1 < name)
    (v : α) : place es name v = es ++ [(name, v)] := by
  induction es with
  | nil => rfl
  | cons e rest ih =>
    have he := h e List.mem_cons_self
    have hlt : ¬ name < e.1 := Std.not_lt.mpr (Std.le_of_lt he)
    have hne : ¬ name = e.1 := fun heq => String.lt_irrefl _ (heq ▸ he)
    rw [place, if_neg hlt, if_neg hne, ih fun x hx => h x (List.mem_cons_of_mem _ hx),
      List.cons_append]

/-- Sorted entries are placed one after the other as they stand. -/
theorem foldl_place {es more : List (String × α)}
    (h : (es ++ more).Pairwise fun a b => a.1 < b.1) :
    more.foldl (fun acc e => place acc e.1 e.2) es = es ++ more := by
  induction more generalizing es with
  | nil => simp
  | cons e rest ih =>
    have hlast : ∀ x ∈ es, x.1 < e.1 := fun x hx =>
      (List.pairwise_append.mp h).2.2 x hx e List.mem_cons_self
    rw [List.foldl_cons, place_of_forall_lt hlast]
    exact (ih (by simpa using h)).trans (by simp)

def empty : KeyMap α := ⟨[], List.Pairwise.nil⟩

instance : EmptyCollection (KeyMap α) := ⟨empty⟩

instance : Inhabited (KeyMap α) := ⟨empty⟩

def insert (m : KeyMap α) (name : String) (v : α) : KeyMap α :=
  ⟨place m.entries name v, sorted_place m.sorted name v⟩

/-- Inserts the entries one after the other: the last value of a name stays. -/
def insertAll (m : KeyMap α) (es : List (String × α)) : KeyMap α :=
  es.foldl (fun acc e => acc.insert e.1 e.2) m

def ofList (es : List (String × α)) : KeyMap α := empty.insertAll es

def find? (m : KeyMap α) (name : String) : Option α := Entries.find? m.entries name

def contains (m : KeyMap α) (name : String) : Bool := (m.find? name).isSome

/-- The names, ascending. -/
def names (m : KeyMap α) : List String := Entries.names m.entries

def size (m : KeyMap α) : Nat := m.entries.length

def isEmpty (m : KeyMap α) : Bool := m.entries.isEmpty

instance [DecidableEq α] : DecidableEq (KeyMap α) := fun a b =>
  if h : a.entries = b.entries then isTrue (by cases a; cases b; simp_all)
  else isFalse fun hab => h (hab ▸ rfl)

theorem ext {a b : KeyMap α} (h : a.entries = b.entries) : a = b := by
  cases a; cases b; simp_all

theorem nodup_names (m : KeyMap α) : m.names.Nodup := by
  refine List.pairwise_map.mpr (m.sorted.imp ?_)
  intro e f hlt heq
  exact String.lt_irrefl _ (heq ▸ hlt)

theorem mem_entries_iff {m : KeyMap α} {name : String} {v : α} :
    (name, v) ∈ m.entries ↔ m.find? name = some v :=
  (Entries.find?_eq_some_iff m.nodup_names).symm

theorem entries_insertAll (m : KeyMap α) (es : List (String × α)) :
    (m.insertAll es).entries = es.foldl (fun acc e => place acc e.1 e.2) m.entries := by
  induction es generalizing m with
  | nil => rfl
  | cons e rest ih => exact ih (m.insert e.1 e.2)

@[simp] theorem ofList_entries (m : KeyMap α) : ofList m.entries = m :=
  ext ((entries_insertAll empty m.entries).trans (foldl_place m.sorted))

theorem find?_place (es : List (String × α)) (name : String) (v : α) (k : String) :
    Entries.find? (place es name v) k = if name = k then some v else Entries.find? es k := by
  induction es with
  | nil => simp [place, Entries.find?]
  | cons e rest ih =>
    simp only [place]
    split
    · rfl
    · split
      · next heq => by_cases h : name = k <;> simp [Entries.find?, h, ← heq]
      · next hne =>
        by_cases hk : e.1 = k
        · have : ¬ name = k := fun hn => hne (hn.trans hk.symm)
          simp [Entries.find?, hk, this]
        · simp [Entries.find?, hk, ih]

@[simp] theorem find?_insert (m : KeyMap α) (name k : String) (v : α) :
    (m.insert name v).find? k = if name = k then some v else m.find? k :=
  find?_place m.entries name v k

@[simp] theorem find?_empty (k : String) : (empty : KeyMap α).find? k = none := rfl

/-- Of what was inserted last, the later entry counts. -/
theorem find?_insertAll (m : KeyMap α) (es : List (String × α)) (k : String) :
    (m.insertAll es).find? k = (Entries.find? es.reverse k).or (m.find? k) := by
  induction es generalizing m with
  | nil => rfl
  | cons e rest ih =>
    refine (ih (m.insert e.1 e.2)).trans ?_
    rw [find?_insert, List.reverse_cons, Entries.find?_append]
    cases Entries.find? rest.reverse k <;> by_cases hk : e.1 = k <;> simp [Entries.find?, hk]

end KeyMap

/-- A set of names, in ascending order. -/
abbrev NameSet := KeyMap Unit

namespace NameSet

def add (s : NameSet) (name : String) : NameSet := KeyMap.insert s name ()

def addAll (s : NameSet) (names : List String) : NameSet := names.foldl add s

def ofList (names : List String) : NameSet := addAll KeyMap.empty names

/-- The names, ascending. -/
def toList (s : NameSet) : List String := KeyMap.names s

/-- Whether the two sets share a name. -/
def meets (s t : NameSet) : Bool := (toList s).any fun n => KeyMap.contains t n

theorem ofList_eq (names : List String) : ofList names = KeyMap.ofList (names.map (·, ())) := by
  rw [ofList, addAll, KeyMap.ofList, KeyMap.insertAll, List.foldl_map]
  rfl

@[simp] theorem ofList_toList (s : NameSet) : ofList (toList s) = s := by
  rw [ofList_eq, toList, KeyMap.names, Entries.names, List.map_map]
  exact (congrArg KeyMap.ofList (List.map_id _)).trans (KeyMap.ofList_entries s)

theorem meets_iff {s t : NameSet} :
    meets s t = true ↔ ∃ name, KeyMap.contains s name = true ∧ KeyMap.contains t name = true := by
  have hmem : ∀ name, name ∈ toList s ↔ KeyMap.contains s name = true := fun name =>
    Entries.find?_isSome.symm
  unfold meets
  simp only [List.any_eq_true, hmem]

end NameSet

end RowAccess
