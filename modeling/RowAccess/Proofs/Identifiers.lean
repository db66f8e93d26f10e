import Mathlib.Data.List.Basic
import RowAccess.Filter
import RowAccess.Text.Blank

/-!
# Names of columns

A name is read part by part between its dots. A name is plain if it has
no dot; qualifying it puts another name and a dot in front. Names that
are valid stay valid under qualification, and only those
(`isValid_qualify`); what a valid name is made of is said by
`isRest_or_dot`.

`Dotted` is the grammar of names, said without the check that they go
through: words with dots between them. `isValid_grammar` has both
directions, and what cannot be in a name at all.
-/

namespace RowAccess.Identifier

/-- A name without dots. -/
def Plain (name : String) : Prop := '.' ∉ name.toList

/-- The name with another one and a dot in front. -/
def qualify (table name : String) : String := table ++ "." ++ name

/-- What stands behind the last dot. -/
def base (name : String) : String := String.ofList ((parts name.toList).getLastD [])

/-! ## Parts -/

theorem parts_eq_splitOn (cs : List Char) : parts cs = cs.splitOn '.' := by
  fun_induction parts cs with
  | case1 => rfl
  | case2 rest ih => rw [List.splitOn_cons_eq_if_modifyHead, ih, if_pos (beq_self_eq_true '.')]
  | case3 c rest _ hnil ih => exact absurd (ih.symm.trans hnil) (List.splitOn_ne_nil '.' rest)
  | case4 c rest hdot p ps hparts ih =>
      have hne : ¬ (c == '.') = true := fun h => hdot (beq_iff_eq.mp h)
      rw [List.splitOn_cons_eq_if_modifyHead, ← ih, hparts, if_neg hne, List.modifyHead_cons]

theorem parts_append_dot (cs ds : List Char) : parts (cs ++ '.' :: ds) = parts cs ++ parts ds := by
  simp only [parts_eq_splitOn, List.splitOn_append_cons_self]

theorem parts_ne_nil (cs : List Char) : parts cs ≠ [] := by
  rw [parts_eq_splitOn]
  exact List.splitOn_ne_nil '.' cs

theorem parts_of_plain {name : String} (h : Plain name) : parts name.toList = [name.toList] := by
  rw [parts_eq_splitOn]
  exact List.splitOn_eq_singleton h

/-- Nothing but the dots is lost. -/
theorem mem_parts_or_dot {cs : List Char} {c : Char} (h : c ∈ cs) :
    c = '.' ∨ ∃ p ∈ parts cs, c ∈ p := by
  fun_induction parts cs with
  | case1 => cases h
  | case2 rest ih =>
      rcases List.mem_cons.mp h with rfl | h
      · exact Or.inl rfl
      · exact (ih h).imp_right fun ⟨p, hp, hc⟩ => ⟨p, List.mem_cons_of_mem _ hp, hc⟩
  | case3 d rest _ hnil ih => exact absurd hnil (parts_ne_nil rest)
  | case4 d rest _ p ps hparts ih =>
      rcases List.mem_cons.mp h with rfl | h
      · exact Or.inr ⟨_, List.mem_cons_self, List.mem_cons_self⟩
      · refine (ih h).imp_right fun ⟨q, hq, hc⟩ => ?_
        rw [hparts] at hq
        rcases List.mem_cons.mp hq with rfl | hq
        · exact ⟨_, List.mem_cons_self, List.mem_cons_of_mem _ hc⟩
        · exact ⟨q, List.mem_cons_of_mem _ hq, hc⟩

/-! ## Valid names -/

theorem isRest_of_isStart {c : Char} (h : isStart c = true) : isRest c = true := by
  rcases Bool.or_eq_true_iff.mp h with h | h
  · simp [isRest, Char.isAlphanum, h]
  · simp [isRest, h]

theorem isRest_of_isPart {p : List Char} (h : isPart p = true) {c : Char} (hc : c ∈ p) :
    isRest c = true := by
  cases p with
  | nil => cases h
  | cons d rest =>
      obtain ⟨hstart, hrest⟩ := Bool.and_eq_true_iff.mp h
      rcases List.mem_cons.mp hc with rfl | hc
      · exact isRest_of_isStart hstart
      · exact List.all_eq_true.mp hrest c hc

theorem isRest_or_dot {name : String} (h : isValid name = true) {c : Char}
    (hc : c ∈ name.toList) : isRest c = true ∨ c = '.' := by
  rcases mem_parts_or_dot hc with hdot | ⟨p, hp, hcp⟩
  · exact Or.inr hdot
  · exact Or.inl (isRest_of_isPart (List.all_eq_true.mp h p hp) hcp)

theorem blank_not_mem {name : String} (h : isValid name = true) : ' ' ∉ name.toList := by
  intro hblank
  rcases isRest_or_dot h hblank with h | h <;> cases h

theorem toList_qualify (table name : String) :
    (qualify table name).toList = table.toList ++ '.' :: name.toList := by
  simp [qualify]

theorem isValid_qualify (table name : String) :
    isValid (qualify table name) = (isValid table && isValid name) := by
  rw [isValid, toList_qualify, parts_append_dot, List.all_append]
  rfl

/-! ## Qualified names -/

theorem qualify_not_plain (table name : String) : ¬ Plain (qualify table name) := by
  simp [Plain, qualify]

theorem base_of_plain {name : String} (h : Plain name) : base name = name := by
  rw [base, parts_of_plain h]
  exact String.ofList_toList

theorem base_qualify (table name : String) : base (qualify table name) = base name := by
  rw [base, base, toList_qualify, parts_append_dot, List.getLastD_eq_getLast?,
    List.getLast?_append_of_ne_nil _ (parts_ne_nil name.toList), List.getLastD_eq_getLast?]

theorem qualify_injective (table : String) : Function.Injective (qualify table) := by
  intro a b h
  have hchars := congrArg String.toList h
  simp only [qualify, String.toList_append, List.append_assoc, List.append_cancel_left_eq] at hchars
  exact String.toList_injective hchars

/-! ## The grammar of names -/

/-- One of `A` to `Z` and `a` to `z`, or an underscore. -/
def Letter (c : Char) : Prop := ('A' ≤ c ∧ c ≤ 'Z') ∨ ('a' ≤ c ∧ c ≤ 'z') ∨ c = '_'

/-- One of `0` to `9`. -/
def Digit (c : Char) : Prop := '0' ≤ c ∧ c ≤ '9'

/-- A letter, and any number of letters and digits behind it. -/
def Word (s : String) : Prop :=
  ∃ c rest, s.toList = c :: rest ∧ Letter c ∧ ∀ d ∈ rest, Letter d ∨ Digit d

/-- Words, at least one, joined by dots. -/
def Dotted (s : String) : Prop :=
  ∃ words : List String, words ≠ [] ∧ (∀ w ∈ words, Word w) ∧ s = ".".intercalate words

theorem between_iff {a z c : Char} :
    (decide (c.val ≥ a.val) && decide (c.val ≤ z.val)) = true ↔ a ≤ c ∧ c ≤ z :=
  Bool.and_eq_true_iff.trans (and_congr decide_eq_true_iff decide_eq_true_iff)

theorem isStart_iff {c : Char} : isStart c = true ↔ Letter c := by
  have hupper : c.isUpper = true ↔ 'A' ≤ c ∧ c ≤ 'Z' := decide_eq_true_iff
  have hlower : c.isLower = true ↔ 'a' ≤ c ∧ c ≤ 'z' := between_iff
  show (c.isUpper || c.isLower || c == '_') = true ↔ _
  rw [Bool.or_eq_true_iff, Bool.or_eq_true_iff, hupper, hlower, beq_iff_eq, or_assoc]
  rfl

theorem isRest_iff {c : Char} : isRest c = true ↔ Letter c ∨ Digit c := by
  have hdigit : c.isDigit = true ↔ Digit c := between_iff
  show (c.isAlpha || c.isDigit || c == '_') = true ↔ _
  rw [← isStart_iff, ← hdigit, isStart, Bool.or_right_comm, Bool.or_eq_true_iff]

theorem isPart_iff {w : String} : isPart w.toList = true ↔ Word w := by
  unfold Word
  cases w.toList with
  | nil => simp [isPart]
  | cons c rest => simp [isPart, isStart_iff, isRest_iff]

theorem Word.plain {w : String} (h : Word w) : Plain w := by
  intro hdot
  have hrest : isRest '.' = true := isRest_of_isPart (isPart_iff.mpr h) hdot
  cases hrest

/-- A word is a name of one part. -/
theorem Word.isValid {w : String} (h : Word w) : isValid w = true := by
  rw [Identifier.isValid, parts_of_plain h.plain]
  simpa using isPart_iff.mpr h

theorem isValid_intercalate {names : List String} (hne : names ≠ []) :
    isValid (".".intercalate names) = names.all isValid := by
  induction names with
  | nil => exact absurd rfl hne
  | cons name rest ih =>
      cases rest with
      | nil => simp
      | cons next rest =>
          have hrest := List.cons_ne_nil next rest
          rw [String.intercalate_cons_of_ne_nil hrest, List.all_cons, ← ih hrest]
          exact isValid_qualify name (".".intercalate (next :: rest))

/-- A name is put together again from what stands between its dots. -/
theorem intercalate_parts (name : String) :
    ".".intercalate ((parts name.toList).map String.ofList) = name := by
  refine String.toList_injective ?_
  have hchars : ((parts name.toList).map String.ofList).map String.toList = parts name.toList := by
    rw [List.map_map]
    exact (List.map_congr_left fun _ _ => String.toList_ofList).trans (List.map_id _)
  rw [String.toList_intercalate, hchars, parts_eq_splitOn]
  exact List.intercalate_splitOn '.'

theorem isValid_iff_dotted {name : String} : isValid name = true ↔ Dotted name := by
  constructor
  · intro h
    refine ⟨(parts name.toList).map String.ofList, by simp [parts_ne_nil], fun w hw => ?_,
      (intercalate_parts name).symm⟩
    obtain ⟨p, hp, rfl⟩ := List.mem_map.mp hw
    rw [← isPart_iff, String.toList_ofList]
    exact List.all_eq_true.mp h p hp
  · rintro ⟨words, hne, hwords, rfl⟩
    rw [isValid_intercalate hne, List.all_eq_true]
    exact fun w hw => (hwords w hw).isValid

/-! ## What is in no name -/

/-- Quotes, and other signs that mean something in SQL. -/
def signs : List Char := ['"', '\'', Char.ofNat 0x60, '$', ';', '(', ')']

/-- An ASCII character that is no blank and no sign. -/
structure Harmless (c : Char) : Prop where
  ascii : c.toNat < 128
  visible : Text.isBlank c = false
  noSign : c ∉ signs

theorem toNat_of_isRest {c : Char} (h : isRest c = true) :
    (48 ≤ c.toNat ∧ c.toNat ≤ 57) ∨ (65 ≤ c.toNat ∧ c.toNat ≤ 90) ∨ c.toNat = 95 ∨
      (97 ≤ c.toNat ∧ c.toNat ≤ 122) := by
  have hle {d e : Char} (h : d ≤ e) : d.toNat ≤ e.toNat := h
  rcases isRest_iff.mp h with (⟨hfrom, hto⟩ | ⟨hfrom, hto⟩ | rfl) | ⟨hfrom, hto⟩
  · exact Or.inr (Or.inl ⟨hle hfrom, hle hto⟩)
  · exact Or.inr (Or.inr (Or.inr ⟨hle hfrom, hle hto⟩))
  · exact Or.inr (Or.inr (Or.inl rfl))
  · exact Or.inl ⟨hle hfrom, hle hto⟩

theorem harmless_of_isRest {c : Char} (h : isRest c = true) : Harmless c := by
  have hrange := toNat_of_isRest h
  refine ⟨by omega, ?_, fun hc => ?_⟩
  · simp only [Text.isBlank, Bool.or_eq_false_iff, Bool.and_eq_false_iff, decide_eq_false_iff_not,
      beq_eq_false_iff_ne]
    omega
  · have hsigns : signs.all (fun d => !isRest d) = true := by decide
    have hsign := List.all_eq_true.mp hsigns c hc
    rw [h] at hsign
    cases hsign

theorem harmless_of_mem {name : String} (h : isValid name = true) {c : Char}
    (hc : c ∈ name.toList) : Harmless c := by
  rcases isRest_or_dot h hc with hrest | rfl
  · exact harmless_of_isRest hrest
  · exact ⟨by decide, by decide, by decide⟩

/-- A text counts as a name exactly if it is words joined by dots. So what is joined by dots is a
name if all of it are names, and only then. A name has none but harmless characters, and there is
something between its dots, in front of them and behind them. -/
theorem isValid_grammar (name : String) :
    (isValid name = true ↔ Dotted name) ∧
    (∀ names : List String, names ≠ [] →
      (isValid (".".intercalate names) = true ↔ ∀ n ∈ names, isValid n = true)) ∧
    (isValid name = true →
      (∀ c ∈ name.toList, Harmless c) ∧ [] ∉ name.toList.splitOn '.') := by
  refine ⟨isValid_iff_dotted, fun names hne => ?_, fun h => ⟨fun c => harmless_of_mem h, ?_⟩⟩
  · rw [isValid_intercalate hne, List.all_eq_true]
  · rw [← parts_eq_splitOn]
    intro hempty
    exact absurd (List.all_eq_true.mp h [] hempty) (by decide)

/-- Two names make a third one; with nothing between two dots, or a letter from elsewhere, there
is no name. -/
theorem isValid_grammar_tenant :
    ["public.users", "_id2"] ≠ [] ∧ isValid "public.users._id2" = true ∧
    Dotted "public.users._id2" ∧ (∀ c ∈ "public.users._id2".toList, Harmless c) ∧
    ¬ Dotted "users..id" ∧ ¬ Dotted "größe" := by
  have hne : ["public.users", "_id2"] ≠ [] := by simp
  obtain ⟨hgrammar, hjoined, hchars⟩ := isValid_grammar "public.users._id2"
  have hvalid : isValid "public.users._id2" = true := (hjoined _ hne).mpr (by decide)
  refine ⟨hne, hvalid, hgrammar.mp hvalid, (hchars hvalid).1, ?_, ?_⟩
  · rw [← (isValid_grammar "users..id").1]
    decide
  · rw [← (isValid_grammar "größe").1]
    decide

end RowAccess.Identifier
