import RowAccess.Proofs.Decimals
import RowAccess.Settings.Conversion

/-!
# What a value says as a setting

Files and variables are written by hand, and one setting may be spelled in
several ways: a truth value as a number or as a word, a number as a truth
value or in digits. `SaysTruth`, `SaysNatural` and `SaysText` list these
ways, one constructor for each, and say what is meant without converting
anything.

Conversion finds what a value says, whenever it says something
(`saysTruth_iff` and its companions). A value of a source therefore says
one truth value at most, one number at most and one text at most.
-/

namespace RowAccess

namespace Settings

/-! ## Truth values -/

/-- The words for a truth value, in small letters. -/
def words : Bool → List String
  | true => ["true", "on", "yes"]
  | false => ["false", "off", "no"]

/-- The digit for a truth value. -/
def figure (b : Bool) : String := if b then "1" else "0"

/-- The truth value that a value of a source says. -/
inductive SaysTruth : Draft → Bool → Prop
  | truth (b : Bool) : SaysTruth (.truth b) b
  | integer {n : Int} {b : Bool} (h : b = true ↔ n ≠ 0) : SaysTruth (.integer n) b
  | float {d : Double} {b : Bool} (h : b = true ↔ d.magnitude ≠ 0) : SaysTruth (.float d) b
  | word {s word : String} {b : Bool} (hword : word = figure b ∨ word ∈ words b)
      (h : Text.lowercase s = word.toList) : SaysTruth (.text s) b

theorem ofList_lowercase_eq_iff {s word : String} :
    String.ofList (Text.lowercase s) = word ↔ Text.lowercase s = word.toList := by
  rw [← String.toList_inj, String.toList_ofList]

theorem wordTruth?_eq_some_iff {s : String} {b : Bool} :
    wordTruth? s = some b ↔
      ∃ word, (word = figure b ∨ word ∈ words b) ∧ Text.lowercase s = word.toList := by
  simp only [← ofList_lowercase_eq_iff, wordTruth?]
  generalize String.ofList (Text.lowercase s) = small
  cases b <;> simp [words, figure] <;> grind

theorem saysTruth_iff (d : Draft) (b : Bool) : SaysTruth d b ↔ toTruth? d = some b := by
  constructor
  · rintro (_ | h | h | ⟨hword, h⟩)
    · rfl
    · exact congrArg some (Bool.eq_iff_iff.mpr (bne_iff_ne.trans h.symm))
    · refine congrArg some (Bool.eq_iff_iff.mpr (Iff.trans ?_ h.symm))
      simp [Double.isZero]
    · exact wordTruth?_eq_some_iff.mpr ⟨_, hword, h⟩
  · intro h
    match d with
    | .truth c =>
        obtain rfl := Option.some.inj h
        exact .truth c
    | .integer n =>
        obtain rfl := Option.some.inj h
        exact .integer (by simp)
    | .float d =>
        obtain rfl := Option.some.inj h
        exact .float (by simp [Double.isZero])
    | .text s =>
        obtain ⟨word, hword, hsmall⟩ := wordTruth?_eq_some_iff.mp h
        exact .word hword hsmall

/-! ## Natural numbers -/

/-- The whole number nearest to a finite double that is not below zero; a half is rounded up. The
double is `significand * 2 ^ exponent` units of `2 ^ -1074`. -/
def Nearest (d : Double) (n : Nat) : Prop :=
  let units := d.significand * Nat.pow 2 d.exponent
  let one := Nat.pow 2 1074
  2 * n * one ≤ 2 * units + one ∧ 2 * units + one < 2 * (n + 1) * one

/-- The natural number that a value of a source says. Floats are brought into the range, integers
and digits have to be in it. -/
inductive SaysNatural : Draft → Nat → Prop
  | integer (n : Nat) : SaysNatural (.integer n) n
  | truth (b : Bool) : SaysNatural (.truth b) b.toNat
  | low {d : Double} (h : d.isNaN = true ∨ d.negative = true) : SaysNatural (.float d) 0
  | infinite {d : Double} (h : d.negative = false) (hinfinite : d.isInfinite = true) :
      SaysNatural (.float d) Number.maxNatural
  | float {d : Double} {n : Nat} (h : d.negative = false) (hfinite : d.isFinite = true)
      (hn : Nearest d n) : SaysNatural (.float d) (min n Number.maxNatural)
  | word {s word : String} {b : Bool} (hword : word ∈ words b)
      (h : Text.lowercase s = word.toList) : SaysNatural (.text s) b.toNat
  | digits {s : String} {cs : List Char} (hs : s.toList = cs ∨ s.toList = '+' :: cs)
      (hcs : cs ≠ []) (h : ∀ c ∈ cs, c.isDigit = true)
      (hfits : Nat.ofDigitChars 10 cs 0 ≤ Number.maxNatural) :
      SaysNatural (.text s) (Nat.ofDigitChars 10 cs 0)

theorem nearest_iff {d : Double} {n : Nat} : Nearest d n ↔ d.roundAbs = n := by
  have hpow : ∀ k, 0 < Nat.pow 2 k := Nat.two_pow_pos
  have hone := hpow 1074
  rw [Nearest, Double.roundAbs]
  generalize d.significand * Nat.pow 2 d.exponent = units
  generalize Nat.pow 2 1074 = one at *
  have hn : ∀ n, 2 * n * one = n * (2 * one) := fun n => by rw [Nat.mul_comm 2 n, Nat.mul_assoc]
  rw [Nat.div_eq_iff (by omega), hn, hn, Nat.add_mul]
  omega

theorem saysNatural_float_iff {d : Double} {n : Nat} :
    SaysNatural (.float d) n ↔ floatNatural d = n := by
  constructor
  · rintro (_ | _ | h | ⟨h, hinfinite⟩ | ⟨h, hfinite, hn⟩)
    · simp [floatNatural, h]
    · simp [floatNatural, h, Double.isNaN_of_isInfinite hinfinite, hinfinite]
    · obtain ⟨hnan, hinfinite⟩ := Double.isFinite_iff.mp hfinite
      simp [floatNatural, h, hnan, hinfinite, nearest_iff.mp hn]
  · rintro rfl
    unfold floatNatural
    split
    · next h => exact .low (by simpa using h)
    · next h =>
        simp only [Bool.or_eq_true, not_or, Bool.not_eq_true] at h
        split
        · next hinfinite => exact .infinite h.2 hinfinite
        · next hinfinite =>
            have hfinite := Double.isFinite_iff.mpr ⟨h.1, Bool.eq_false_iff.mpr hinfinite⟩
            exact .float h.2 hfinite (nearest_iff.mpr rfl)

/-- From the plus to the last digit there are no capitals. -/
theorem smallCode_eq_self : ∀ n < 58, 43 ≤ n → Text.smallCode n = n := by decide +kernel

/-- A sign or a digit has no small form of its own, so that no word starts with it. -/
theorem lowercase_ne_word {s word : String} {b : Bool} {c : Char} {cs : List Char}
    (hs : s.toList = c :: cs) (hlow : 43 ≤ c.toNat) (hc : c.toNat < 58) (hword : word ∈ words b) :
    Text.lowercase s ≠ word.toList := by
  have hne : ∀ d : Char, 58 ≤ d.toNat → c ≠ d := fun d hd heq => by rw [heq] at hc; omega
  have hsmall : Text.small c = [c] := by
    rw [Text.small, if_neg (hne _ (by decide)), smallCode_eq_self _ hc hlow, Char.ofNat_toNat]
  have hletters : ∀ b, ∀ word ∈ words b, ∃ d ds, word.toList = d :: ds ∧ 58 ≤ d.toNat := by
    simp only [Bool.forall_bool, words, List.forall_mem_cons]
    exact ⟨⟨⟨_, _, rfl, by decide⟩, ⟨_, _, rfl, by decide⟩, ⟨_, _, rfl, by decide⟩, nofun⟩,
      ⟨_, _, rfl, by decide⟩, ⟨_, _, rfl, by decide⟩, ⟨_, _, rfl, by decide⟩, nofun⟩
  obtain ⟨d, ds, hd, hletter⟩ := hletters b word hword
  rw [Text.lowercase, hs, Text.smallFrom, hd]
  simp only [hne '\u03A3' (by decide), decide_false, Bool.false_and, Bool.false_eq_true, if_false,
    hsmall, List.singleton_append]
  exact fun heq => hne d hletter (List.cons.inj heq).1

theorem textNatural?_eq (s : String) : textNatural? s =
    if String.ofList (Text.lowercase s) ∈ words true then some 1
    else if String.ofList (Text.lowercase s) ∈ words false then some 0
    else if unsigned s.toList ≠ [] ∧ (unsigned s.toList).all Char.isDigit = true then
      if Number.ofDecimal (unsigned s.toList) ≤ Number.maxNatural then
        some (Number.ofDecimal (unsigned s.toList))
      else none
    else none := by
  simp only [textNatural?, List.contains_iff_mem, words, Option.filter, decide_eq_true_eq]
  generalize unsigned s.toList = ds
  have hdigits : (ds.isEmpty || !ds.all Char.isDigit) = true ↔
      ¬ (ds ≠ [] ∧ ds.all Char.isDigit = true) := by
    cases ds.all Char.isDigit <;> simp
  rw [if_congr hdigits rfl rfl, ite_not]
  exact if_congr .rfl rfl (if_congr .rfl rfl (if_congr .rfl rfl rfl))

theorem textNatural?_of_word {s word : String} {b : Bool} (hword : word ∈ words b)
    (h : Text.lowercase s = word.toList) : textNatural? s = some b.toNat := by
  rw [textNatural?_eq, ofList_lowercase_eq_iff.mpr h]
  cases b with
  | true => exact if_pos hword
  | false =>
      have hother : ∀ word ∈ words false, word ∉ words true := by decide
      rw [if_neg (hother word hword), if_pos hword]
      rfl

/-- Digits count from the first one on, behind a plus or with nothing in front. -/
theorem textNatural?_of_digits {s : String} {cs : List Char}
    (hs : s.toList = cs ∨ s.toList = '+' :: cs) (hcs : cs ≠ []) (h : ∀ c ∈ cs, c.isDigit = true)
    (hfits : Nat.ofDigitChars 10 cs 0 ≤ Number.maxNatural) :
    textNatural? s = some (Nat.ofDigitChars 10 cs 0) := by
  obtain ⟨c, rest, rfl⟩ := List.exists_cons_of_ne_nil hcs
  obtain ⟨hlow, hhigh⟩ := Number.toNat_of_isDigit (h c List.mem_cons_self)
  have hwords : ∀ b, String.ofList (Text.lowercase s) ∉ words b := by
    intro b hword
    have hsmall := ofList_lowercase_eq_iff.mp (rfl : String.ofList (Text.lowercase s) = _)
    rcases hs with hs | hs
    · exact lowercase_ne_word hs (by omega) (by omega) hword hsmall
    · exact lowercase_ne_word hs (by decide) (by decide) hword hsmall
  have hunsigned : unsigned s.toList = c :: rest := by
    rcases hs with hs | hs
    · rw [hs]
      refine unsigned.eq_2 _ fun rest heq => ?_
      obtain ⟨rfl, -⟩ := List.cons.inj heq
      exact absurd hlow (by decide)
    · rw [hs]
      rfl
  rw [textNatural?_eq, if_neg (hwords true), if_neg (hwords false), hunsigned,
    if_pos ⟨hcs, List.all_eq_true.mpr h⟩, Number.ofDecimal_of_digits h, if_pos hfits]

theorem saysNatural_text_iff {s : String} {n : Nat} :
    SaysNatural (.text s) n ↔ textNatural? s = some n := by
  constructor
  · rintro (_ | _ | _ | _ | _ | ⟨hword, h⟩ | ⟨hs, hcs, h, hfits⟩)
    · exact textNatural?_of_word hword h
    · exact textNatural?_of_digits hs hcs h hfits
  · intro h
    have hspelled : ∀ b, String.ofList (Text.lowercase s) ∈ words b →
        SaysNatural (.text s) b.toNat := fun b hword =>
      .word hword (ofList_lowercase_eq_iff.mp rfl)
    rw [textNatural?_eq] at h
    split_ifs at h with htrue hfalse hdigits hfits
    · exact Option.some.inj h ▸ hspelled true htrue
    · exact Option.some.inj h ▸ hspelled false hfalse
    · have hs : s.toList = unsigned s.toList ∨ s.toList = '+' :: unsigned s.toList := by
        generalize s.toList = cs
        unfold unsigned
        split
        · exact .inr rfl
        · exact .inl rfl
      have hall := List.all_eq_true.mp hdigits.2
      rw [Number.ofDecimal_of_digits hall] at h hfits
      exact Option.some.inj h ▸ .digits hs hdigits.1 hall hfits

theorem saysNatural_iff (d : Draft) (n : Nat) : SaysNatural d n ↔ toNatural? d = some n := by
  cases d with
  | text s => exact saysNatural_text_iff
  | float d => exact saysNatural_float_iff.trans (Option.some_inj).symm
  | integer m =>
      constructor
      · rintro (_ | _)
        rfl
      · intro h
        obtain ⟨hm, hn⟩ := Option.ite_none_right_eq_some.mp h
        have hmn : m = n := by
          rw [← Option.some.inj hn, Int.toNat_of_nonneg hm]
        exact hmn ▸ .integer n
  | truth b =>
      constructor
      · rintro (_ | _)
        cases b <;> rfl
      · intro h
        have hb : n = b.toNat := by
          rw [← Option.some.inj h]
          cases b <;> rfl
        exact hb ▸ .truth b
  | gap => exact ⟨nofun, nofun⟩
  | list ds => exact ⟨nofun, nofun⟩
  | table es => exact ⟨nofun, nofun⟩

/-! ## Texts -/

/-- The text that a value of a source says. -/
inductive SaysText : Draft → String → Prop
  | text (s : String) : SaysText (.text s) s
  | truth {b : Bool} {s : String} (h : s = if b then "true" else "false") : SaysText (.truth b) s
  | integer {n : Int} {s : String} (h : Number.Canonical n s.toList) : SaysText (.integer n) s
  | float (d : Double) : SaysText (.float d) (Layout.plain.write d)

theorem saysText_iff (d : Draft) (s : String) : SaysText d s ↔ toText? d = some s := by
  constructor
  · rintro (_ | rfl | h | _)
    · rfl
    · rfl
    · exact congrArg some (Number.canonical_iff_text.mp h)
    · rfl
  · intro h
    match d with
    | .text t => exact Option.some.inj h ▸ .text t
    | .truth b => exact .truth (Option.some.inj h).symm
    | .integer n => exact .integer (Number.canonical_iff_text.mpr (Option.some.inj h))
    | .float d => exact Option.some.inj h ▸ .float d

end Settings

end RowAccess
