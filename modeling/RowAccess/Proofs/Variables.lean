import Mathlib.Data.List.Infix
import Mathlib.Data.List.TakeWhile
import Mathlib.Tactic.MkIffOfInductiveProp
import RowAccess.Proofs.Merging
import RowAccess.Settings.Layers

/-!
# Settings from variables

A variable names the setting that it is for: the stem and an underscore,
the section, two underscores, the setting, in small letters or capitals.
`IsNamed` says this on the characters of the name.

The environment becomes a source whose keys are paths, and a value of it
goes where its path leads. `value?_environmentLayer` takes the way over the
paths out again: a section gets the value of the last variable that is
named for the setting.
-/

namespace RowAccess

namespace Settings

def sections : List String := ["engine", "features", "audit", "resolver"]

/-! ## Names -/

/-- A name that a variable can spell: it is made of what keys of paths are made of, and no two
underscores follow each other. -/
@[mk_iff]
structure Spelled (name : String) : Prop where
  visible : name.toList ≠ []
  chars : ∀ c ∈ name.toList, Draft.isPathChar c = true
  single : ¬ ['_', '_'] <:+: name.toList

instance (name : String) : Decidable (Spelled name) :=
  decidable_of_iff (name.toList ≠ [] ∧ name.toList.all Draft.isPathChar = true ∧
    ¬ ['_', '_'] <:+: name.toList) (by rw [spelled_iff, List.all_eq_true])

/-- A variable is named for a setting of a section. A point parts the two as two underscores do. -/
@[mk_iff]
structure IsNamed (stem key sect name : String) : Prop where
  spelled : Spelled name
  spelling : ∃ gap ∈ [['_', '_'], ['.']],
    Text.lowercase key =
      Text.lowercase stem ++ '_' :: (sect.toList ++ (gap ++ name.toList))

instance (stem key sect name : String) : Decidable (IsNamed stem key sect name) :=
  decidable_of_iff' _ (isNamed_iff stem key sect name)

/-! ## Pairs of underscores -/

theorem dotted_eq_self_iff {cs : List Char} : dotted cs = cs ↔ ¬ ['_', '_'] <:+: cs := by
  induction cs using dotted.induct with
  | case1 rest =>
      have hpair : ['_', '_'] <:+: '_' :: '_' :: rest := (List.prefix_append _ rest).isInfix
      rw [dotted]
      exact ⟨fun h => absurd (List.cons.inj h).1 (by decide), fun h => absurd hpair h⟩
  | case2 c rest hpair ih =>
      have hfront : ¬ ['_', '_'] <+: c :: rest := by
        rintro ⟨tail, htail⟩
        obtain ⟨rfl, rfl⟩ := List.cons.inj htail
        exact hpair tail rfl rfl
      rw [dotted.eq_2 _ _ hpair, List.cons_inj_right, ih, List.infix_cons_iff, or_iff_right hfront]
  | case3 => decide

/-- The first point stands where the text in front, with an underscore behind it, has no pair. -/
theorem dotted_append {cs gap : List Char} (hgap : gap ∈ [['_', '_'], ['.']])
    (h : ¬ ['_', '_'] <:+: cs ++ ['_']) (rest : List Char) :
    dotted (cs ++ (gap ++ rest)) = cs ++ '.' :: dotted rest := by
  induction cs with
  | nil =>
      simp only [List.mem_cons, List.not_mem_nil, or_false] at hgap
      rcases hgap with rfl | rfl <;> rfl
  | cons c cs ih =>
      have hpair : ∀ tail, c = '_' → cs ++ (gap ++ rest) = '_' :: tail → False := by
        rintro tail rfl heq
        refine h ?_
        cases cs with
        | nil => exact List.infix_rfl
        | cons d ds =>
            obtain ⟨rfl, -⟩ := List.cons.inj heq
            exact (List.prefix_append ['_', '_'] _).isInfix
      rw [List.cons_append, dotted.eq_2 _ _ hpair, ih fun hrest => h (List.infix_cons hrest),
        List.cons_append]

/-- A point stands for two underscores, or for itself. -/
theorem exists_gap_of_dotted {cs tail l : List Char} (hcs : '.' ∉ cs)
    (h : dotted l = cs ++ '.' :: tail) :
    ∃ gap ∈ [['_', '_'], ['.']], ∃ rest, l = cs ++ (gap ++ rest) ∧ dotted rest = tail := by
  induction cs generalizing l with
  | nil =>
      unfold dotted at h
      split at h
      · next rest => exact ⟨_, List.mem_cons_self, rest, rfl, (List.cons.inj h).2⟩
      · next c rest _ =>
          obtain ⟨rfl, hrest⟩ := List.cons.inj h
          exact ⟨['.'], by decide, rest, rfl, hrest⟩
      · cases h
  | cons c cs ih =>
      have hrestPoint : '.' ∉ cs := fun hpoint => hcs (List.mem_cons_of_mem c hpoint)
      unfold dotted at h
      split at h
      · obtain ⟨rfl, -⟩ := List.cons.inj h
        exact absurd List.mem_cons_self hcs
      · next d rest _ =>
          obtain ⟨rfl, hrest⟩ := List.cons.inj h
          obtain ⟨gap, hgap, more, rfl, hmore⟩ := ih hrestPoint hrest
          exact ⟨gap, hgap, more, rfl, hmore⟩
      · cases h

theorem dotted_eq_self_of_no_point {cs : List Char} (h : '.' ∉ dotted cs) : dotted cs = cs := by
  induction cs using dotted.induct with
  | case1 rest => exact absurd List.mem_cons_self h
  | case2 c rest hpair ih =>
      rw [dotted.eq_2 _ _ hpair] at h ⊢
      rw [ih fun hpoint => h (List.mem_cons_of_mem c hpoint)]
  | case3 => rfl

/-! ## Paths of a section and a setting -/

theorem not_isPathChar_point : Draft.isPathChar '.' = false := rfl

theorem no_point_of_pathChars {cs : List Char} (h : ∀ c ∈ cs, Draft.isPathChar c = true) :
    '.' ∉ cs := fun hpoint => Bool.noConfusion ((h '.' hpoint).symm.trans not_isPathChar_point)

/-- The ways in which a text spells steps. -/
theorem steps?_cases {cs : List Char} {steps : List Draft.Step} (h : Draft.steps? cs = some steps) :
    (cs = [] ∧ steps = []) ∨
    (∃ rest tail, cs = '.' :: rest ∧ rest.takeWhile Draft.isPathChar ≠ [] ∧
      Draft.steps? (rest.dropWhile Draft.isPathChar) = some tail ∧
      steps = .key (String.ofList (rest.takeWhile Draft.isPathChar)) :: tail) ∨
    ∃ n tail, steps = .place n :: tail := by
  unfold Draft.steps? at h
  simp only at h
  split at h
  · exact .inl ⟨rfl, (Option.some.inj h).symm⟩
  · next rest =>
      split at h
      · cases h
      · next hvisible =>
          obtain ⟨tail, htail, rfl⟩ := Option.map_eq_some_iff.mp h
          exact .inr (.inl ⟨rest, tail, rfl, by simpa using hvisible, htail, rfl⟩)
  · split at h
    · split at h
      · cases h
      · obtain ⟨tail, -, rfl⟩ := Option.map_eq_some_iff.mp h
        exact .inr (.inr ⟨_, tail, rfl⟩)
    · cases h
  · cases h

/-- One step to a key is spelled by a point and the key. -/
theorem steps?_eq_some_key_iff {cs : List Char} {name : String} :
    Draft.steps? cs = some [.key name] ↔
      cs = '.' :: name.toList ∧ name.toList ≠ [] ∧
        ∀ c ∈ name.toList, Draft.isPathChar c = true := by
  constructor
  · intro h
    obtain ⟨-, hsteps⟩ | ⟨rest, tail, rfl, hvisible, htail, hsteps⟩ | ⟨n, tail, hsteps⟩ :=
      steps?_cases h
    · cases hsteps
    · obtain ⟨hkey, rfl⟩ := List.cons.inj hsteps
      obtain rfl := Draft.Step.key.inj hkey
      -- nothing is left behind the key
      have hrest : rest.dropWhile Draft.isPathChar = [] := by
        obtain ⟨hnil, -⟩ | ⟨_, _, _, _, _, hcons⟩ | ⟨_, _, hcons⟩ := steps?_cases htail
        · exact hnil
        · cases hcons
        · cases hcons
      have hchars := List.dropWhile_eq_nil_iff.mp hrest
      rw [String.toList_ofList]
      rw [List.takeWhile_eq_self_iff.mpr hchars] at hvisible ⊢
      exact ⟨rfl, hvisible, hchars⟩
    · cases hsteps
  · rintro ⟨rfl, hvisible, hchars⟩
    rw [Draft.steps?, List.takeWhile_eq_self_iff.mpr hchars, List.dropWhile_eq_nil_iff.mpr hchars,
      if_neg (by simpa using hvisible), Draft.steps?, String.ofList_toList]
    rfl

/-- A path leads to a setting of a section if it is spelled with a point between the two. -/
theorem pathOf_eq_iff {key sect name : String} :
    Draft.pathOf key = ⟨sect, [.key name]⟩ ↔
      (sect.toList ≠ [] ∧ ∀ c ∈ sect.toList, Draft.isPathChar c = true) ∧
      (name.toList ≠ [] ∧ ∀ c ∈ name.toList, Draft.isPathChar c = true) ∧
      key.toList = sect.toList ++ '.' :: name.toList := by
  constructor
  · intro h
    unfold Draft.pathOf at h
    simp only at h
    split at h
    · next steps hsteps =>
        split at h
        · cases h
        · next hvisible =>
            obtain ⟨rfl, rfl⟩ := Draft.Path.mk.inj h
            obtain ⟨hrest, hname⟩ := steps?_eq_some_key_iff.mp hsteps
            rw [String.toList_ofList, ← hrest, List.takeWhile_append_dropWhile]
            exact ⟨⟨by simpa using hvisible, fun c => List.mem_takeWhile_imp⟩, hname, rfl⟩
    · cases h
  · rintro ⟨⟨hvisible, hchars⟩, hname, hkey⟩
    have hpoint : ¬ Draft.isPathChar '.' = true := by decide
    have hhead : key.toList.takeWhile Draft.isPathChar = sect.toList := by
      rw [hkey, List.takeWhile_append_of_pos hchars, List.takeWhile_cons_of_neg hpoint,
        List.append_nil]
    have htail : key.toList.dropWhile Draft.isPathChar = '.' :: name.toList := by
      rw [hkey, List.dropWhile_append_of_pos hchars, List.dropWhile_cons_of_neg hpoint]
    rw [Draft.pathOf, hhead, htail, steps?_eq_some_key_iff.mpr ⟨rfl, hname⟩]
    simp [hvisible]

/-! ## The layer of the environment -/

variable {stem sect name : String}

theorem afterLead?_eq_some_iff {lead cs rest : List Char} :
    afterLead? lead cs = some rest ↔ cs = lead ++ rest := by
  unfold afterLead?
  split
  · next h =>
      obtain ⟨more, rfl⟩ := List.isPrefixOf_iff_prefix.mp h
      simp
  · next h =>
      refine ⟨nofun, ?_⟩
      rintro rfl
      exact absurd (List.isPrefixOf_iff_prefix.mpr (List.prefix_append _ _)) h

/-- The key that a variable makes leads to a setting if the variable is named for it. -/
theorem isNamed_iff_pathOf {key : String} (hsect : sect ∈ sections) :
    IsNamed stem key sect name ↔
      ∃ rest, afterLead? (Text.lowercase stem ++ ['_']) (Text.lowercase key) = some rest ∧
        Draft.pathOf (String.ofList (dotted rest)) = ⟨sect, [.key name]⟩ := by
  have hsections : ∀ sect ∈ sections, (sect.toList ≠ [] ∧
      sect.toList.all Draft.isPathChar = true) ∧
        ¬ ['_', '_'] <:+: sect.toList ++ ['_'] := by decide +kernel
  obtain ⟨hpath, hsingle⟩ := hsections sect hsect
  rw [List.all_eq_true] at hpath
  simp only [afterLead?_eq_some_iff, pathOf_eq_iff, String.toList_ofList, List.append_assoc,
    List.singleton_append]
  constructor
  · rintro ⟨⟨hvisible, hchars, hname⟩, gap, hgap, hspelling⟩
    refine ⟨_, hspelling, hpath, ⟨hvisible, hchars⟩, ?_⟩
    rw [dotted_append hgap hsingle, dotted_eq_self_iff.mpr hname]
  · rintro ⟨rest, hspelling, -, ⟨hvisible, hchars⟩, hdotted⟩
    obtain ⟨gap, hgap, tail, rfl, htail⟩ :=
      exists_gap_of_dotted (no_point_of_pathChars hpath.2) hdotted
    have hself : dotted tail = tail :=
      dotted_eq_self_of_no_point (htail ▸ no_point_of_pathChars hchars)
    obtain rfl := hself.symm.trans htail
    exact ⟨⟨hvisible, hchars, dotted_eq_self_iff.mp hself⟩, gap, hgap, hspelling⟩

theorem variableValue_not_table (text : String) : (variableValue text).isTable = false := by
  unfold variableValue
  simp only
  split
  · rfl
  · split
    · rfl
    · split
      · rfl
      · split <;> rfl

/-- The variable that a setting is from: the last one that is named for it. -/
def lastNamed? (stem : String) (environment : List (String × String)) (sect name : String) :
    Option (String × String) :=
  environment.reverse.find? fun v => decide (IsNamed stem v.1 sect name)

/-- A setting has the value of the last variable that is named for it. -/
theorem value?_environmentLayer (hsect : sect ∈ sections) (environment : List (String × String)) :
    Draft.value? sect name (environmentLayer stem environment) =
      (lastNamed? stem environment sect name).map fun v => variableValue v.2 := by
  unfold lastNamed?
  induction environment with
  | nil => rfl
  | cons v rest ih =>
      rw [List.reverse_cons, List.find?_append, Option.map_or, ← ih]
      cases hkey : afterLead? (Text.lowercase stem ++ ['_']) (Text.lowercase v.1) with
      | none =>
          have hnamed : ¬ IsNamed stem v.1 sect name := by
            simp [isNamed_iff_pathOf hsect, hkey]
          have hlayer : environmentLayer stem (v :: rest) = environmentLayer stem rest := by
            unfold environmentLayer
            exact List.filterMap_cons_none (by rw [hkey]; rfl)
          simp [hlayer, hnamed]
      | some key =>
          have hnamed : IsNamed stem v.1 sect name ↔
              Draft.pathOf (String.ofList (dotted key)) = ⟨sect, [.key name]⟩ := by
            simp [isNamed_iff_pathOf hsect, hkey]
          have hlayer : environmentLayer stem (v :: rest) =
              (String.ofList (dotted key), variableValue v.2) :: environmentLayer stem rest := by
            unfold environmentLayer
            exact List.filterMap_cons_some (by rw [hkey]; rfl)
          rw [hlayer, Draft.value?_cons, Draft.find?_given (variableValue_not_table v.2)]
          by_cases h : IsNamed stem v.1 sect name
          · simp [h, hnamed.mp h]
          · simp [h, mt hnamed.mpr h]

end Settings

end RowAccess
