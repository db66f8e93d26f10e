/-!
# Entry lists

Named values in an order that matters, as a list of pairs. `put` gives a name a value:
a name that is there keeps its place, a new one goes to the end. Names stay distinct
(`nodup_put`), and looking a name up after `put` sees that value and otherwise what was
there before (`find?_put`).
-/

namespace RowAccess.Entries

variable {α : Type}

/-- The names, in order. -/
def names (es : List (String × α)) : List String := es.map Prod.fst

/-- The value of a name: that of its first entry. -/
def find? (es : List (String × α)) (name : String) : Option α :=
  match es with
  | [] => none
  | e :: rest => if e.1 = name then some e.2 else find? rest name

/-- Gives a name a value, in its place or at the end. -/
def put (es : List (String × α)) (name : String) (v : α) : List (String × α) :=
  match es with
  | [] => [(name, v)]
  | e :: rest => if e.1 = name then (name, v) :: rest else e :: put rest name v

/-- Puts every entry of the second list, from its front. -/
def putAll (es more : List (String × α)) : List (String × α) :=
  more.foldl (fun acc e => put acc e.1 e.2) es

/-- The entries with each name once: its first place, its last value. -/
def ofList (es : List (String × α)) : List (String × α) := putAll [] es

@[simp] theorem names_nil : names ([] : List (String × α)) = [] := rfl

@[simp] theorem names_cons (e : String × α) (es : List (String × α)) :
    names (e :: es) = e.1 :: names es := rfl

@[simp] theorem names_append (es fs : List (String × α)) :
    names (es ++ fs) = names es ++ names fs := List.map_append

theorem names_put (es : List (String × α)) (name : String) (v : α) :
    names (put es name v) = if name ∈ names es then names es else names es ++ [name] := by
  induction es with
  | nil => simp [put]
  | cons e rest ih =>
    by_cases h : e.1 = name
    · simp [put, h]
    · have h' : ¬ name = e.1 := fun hn => h hn.symm
      simp only [put, h, if_false, names_cons, ih, List.mem_cons, h', false_or]
      split <;> simp

theorem nodup_put {es : List (String × α)} (h : (names es).Nodup) (name : String) (v : α) :
    (names (put es name v)).Nodup := by
  rw [names_put]
  split
  · exact h
  · next hn =>
    rw [List.nodup_append]
    exact ⟨h, by simp, fun a ha b hb hab => hn (by simp_all)⟩

theorem nodup_putAll {es : List (String × α)} (h : (names es).Nodup) (more : List (String × α)) :
    (names (putAll es more)).Nodup := by
  induction more generalizing es with
  | nil => exact h
  | cons e rest ih => exact ih (nodup_put h e.1 e.2)

theorem nodup_ofList (es : List (String × α)) : (names (ofList es)).Nodup :=
  nodup_putAll (show (names ([] : List (String × α))).Nodup from List.nodup_nil) es

theorem find?_put (es : List (String × α)) (name : String) (v : α) (k : String) :
    find? (put es name v) k = if name = k then some v else find? es k := by
  induction es with
  | nil => simp [put, find?]
  | cons e rest ih =>
    by_cases h : e.1 = name
    · by_cases hk : name = k <;> simp [put, find?, h, hk]
    · rw [put, if_neg h, find?, find?, ih]
      by_cases hk : e.1 = k
      · have hne : ¬ name = k := fun hn => h (hk.trans hn.symm)
        simp [hk, hne]
      · simp [hk]

theorem put_of_not_mem {es : List (String × α)} {name : String} (h : name ∉ names es) (v : α) :
    put es name v = es ++ [(name, v)] := by
  induction es with
  | nil => rfl
  | cons e rest ih =>
    simp only [names_cons, List.mem_cons, not_or] at h
    rw [put, if_neg (Ne.symm h.1), ih h.2, List.cons_append]

/-- Entries whose names are new are put at the end, in their order. -/
theorem putAll_eq_append {es more : List (String × α)} (h : (names (es ++ more)).Nodup) :
    putAll es more = es ++ more := by
  induction more generalizing es with
  | nil => simp [putAll]
  | cons e rest ih =>
    have hnew : e.1 ∉ names es := by
      rw [names_append, names_cons, List.nodup_append] at h
      exact fun he => h.2.2 e.1 he e.1 List.mem_cons_self rfl
    rw [putAll, List.foldl_cons, put_of_not_mem hnew]
    exact (ih (by simpa using h)).trans (by simp)

theorem ofList_of_nodup {es : List (String × α)} (h : (names es).Nodup) : ofList es = es :=
  putAll_eq_append (by simpa using h)

theorem find?_append (es fs : List (String × α)) (k : String) :
    find? (es ++ fs) k = (find? es k).or (find? fs k) := by
  induction es with
  | nil => rfl
  | cons e rest ih => by_cases h : e.1 = k <;> simp [find?, h, ih]

/-- Of what was put last, the later entry counts. -/
theorem find?_putAll (es more : List (String × α)) (k : String) :
    find? (putAll es more) k = (find? more.reverse k).or (find? es k) := by
  induction more generalizing es with
  | nil => simp [putAll, find?]
  | cons e rest ih =>
    rw [putAll, List.foldl_cons]
    refine (ih _).trans ?_
    rw [find?_put, List.reverse_cons, find?_append]
    cases find? rest.reverse k <;> by_cases hk : e.1 = k <;> simp [find?, hk]

theorem find?_isSome {es : List (String × α)} {k : String} :
    (find? es k).isSome = true ↔ k ∈ names es := by
  induction es with
  | nil => simp [find?]
  | cons e rest ih =>
    by_cases h : e.1 = k
    · simp [find?, h]
    · have h' : ¬ k = e.1 := fun hk => h hk.symm
      simp [find?, h, h', ih]

theorem mem_of_find? {es : List (String × α)} {k : String} {v : α} (h : find? es k = some v) :
    (k, v) ∈ es := by
  induction es with
  | nil => cases h
  | cons e rest ih =>
    rw [find?] at h
    split at h
    · next hk =>
      obtain rfl := Option.some.inj h
      exact hk ▸ List.mem_cons_self
    · exact List.mem_cons_of_mem _ (ih h)

theorem find?_eq_some_iff {es : List (String × α)} {name : String} {v : α}
    (h : (names es).Nodup) : find? es name = some v ↔ (name, v) ∈ es := by
  induction es with
  | nil => simp [find?]
  | cons e rest ih =>
    obtain ⟨k, w⟩ := e
    obtain ⟨hnew, hrest⟩ := List.nodup_cons.mp h
    rw [find?, List.mem_cons, Prod.mk.injEq]
    by_cases hk : k = name
    · subst hk
      have hmem : (k, v) ∉ rest := fun hv => hnew (List.mem_map.mpr ⟨_, hv, rfl⟩)
      simp [hmem, eq_comm]
    · simp [hk, ih hrest, Ne.symm hk]

/-! ## Entries by their names -/

variable {β : Type}

theorem names_filter (keep : String → Bool) (es : List (String × α)) :
    names (es.filter fun e => keep e.1) = (names es).filter keep :=
  List.filter_map.symm

theorem names_filterMap {give? : String → α → Option β} {keep : String → Bool}
    (h : ∀ k v, (give? k v).isSome = keep k) (es : List (String × α)) :
    names (es.filterMap fun e => (give? e.1 e.2).map fun w => (e.1, w)) =
      (names es).filter keep := by
  induction es with
  | nil => rfl
  | cons e rest ih =>
    rw [names_cons, List.filter_cons, ← h e.1 e.2, List.filterMap_cons]
    cases give? e.1 e.2 with
    | none => exact ih
    | some w => exact congrArg (e.1 :: ·) ih

theorem filter_name {es : List (String × α)} (h : (names es).Nodup) {name : String} {v : α}
    (hv : (name, v) ∈ es) : (es.filter fun e => e.1 == name) = [(name, v)] := by
  induction es with
  | nil => cases hv
  | cons e rest ih =>
    obtain ⟨hnew, hrest⟩ := List.nodup_cons.mp h
    rcases List.mem_cons.mp hv with rfl | hv
    · have hnone : (rest.filter fun e => e.1 == name) = [] := by
        refine List.filter_eq_nil_iff.mpr fun e he heq => hnew ?_
        exact List.mem_map.mpr ⟨e, he, beq_iff_eq.mp heq⟩
      rw [List.filter_cons, beq_self_eq_true, if_pos rfl, hnone]
    · have hne : (e.1 == name) = false :=
        beq_false_of_ne fun heq => hnew (List.mem_map.mpr ⟨_, hv, heq.symm⟩)
      rw [List.filter_cons, hne, ih hrest hv]
      rfl

theorem find?_filter (keep : String → Bool) (es : List (String × α)) (name : String) :
    find? (es.filter fun e => keep e.1) name = if keep name then find? es name else none := by
  induction es with
  | nil => simp [find?]
  | cons e rest ih =>
    rw [List.filter_cons, find?]
    by_cases hname : e.1 = name
    · subst hname
      cases hkeep : keep e.1 with
      | true => simp [find?]
      | false => simpa [hkeep] using ih
    · rw [if_neg hname, ← ih]
      split
      · rw [find?, if_neg hname]
      · rfl

theorem find?_filterMap (give? : String → α → Option β) {es : List (String × α)}
    (h : (names es).Nodup) (name : String) :
    find? (es.filterMap fun e => (give? e.1 e.2).map fun w => (e.1, w)) name =
      (find? es name).bind (give? name) := by
  induction es with
  | nil => rfl
  | cons e rest ih =>
    obtain ⟨hnew, hrest⟩ := List.nodup_cons.mp h
    rw [List.filterMap_cons, find?]
    by_cases hname : e.1 = name
    · subst hname
      -- behind a dropped entry there is no other one of its name
      have hnone : find? rest e.1 = none := by
        rw [← Option.not_isSome_iff_eq_none, find?_isSome]
        exact hnew
      cases hgive : give? e.1 e.2 with
      | none => simp [ih hrest, hnone, hgive]
      | some w => simp [find?, hgive]
    · cases give? e.1 e.2 with
      | none => simp [hname, ih hrest]
      | some w => simp [find?, hname, ih hrest]

theorem find?_map (g : String → α → β) (es : List (String × α)) (name : String) :
    find? (es.map fun e => (e.1, g e.1 e.2)) name = (find? es name).map (g name) := by
  induction es with
  | nil => rfl
  | cons e rest ih =>
    rw [List.map_cons, find?, find?]
    by_cases hname : e.1 = name
    · simp [hname]
    · simp [hname, ih]

end RowAccess.Entries
