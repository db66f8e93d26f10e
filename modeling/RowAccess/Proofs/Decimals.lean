import Mathlib.Data.List.TakeWhile
import RowAccess.Number.Literal

/-!
# Decimal forms

Integers are printed in decimal digits, and identifiers, literals and
settings are read from such digits. `Digits` says what the digits of a
natural number are, and `Canonical` what the decimal form of an integer is,
without printing it: digits with no zero in front of others, and a minus in
front of the digits of a negative number. `canonical_iff_text`: an integer
is printed in this form, and no other text has it.
-/

namespace RowAccess

namespace Number

/-! ## Decimal forms -/

/-- The decimal digits of a natural number, with no zero in front of others. -/
structure Digits (n : Nat) (cs : List Char) : Prop where
  nonempty : cs ≠ []
  digits : ∀ c ∈ cs, c.isDigit = true
  leading : cs.head? = some '0' → cs = ['0']
  value : Nat.ofDigitChars 10 cs 0 = n

/-- The canonical decimal form of an integer: its digits, with a minus in front of them if it is
negative. -/
inductive Canonical : Int → List Char → Prop
  | natural {n : Nat} {cs : List Char} (h : Digits n cs) : Canonical n cs
  | negative {n : Nat} {cs : List Char} (hpos : 0 < n) (h : Digits n cs) :
    Canonical (-n) ('-' :: cs)

variable {n : Nat} {cs : List Char}

theorem toNat_of_isDigit {c : Char} (h : c.isDigit = true) : 48 ≤ c.toNat ∧ c.toNat ≤ 57 :=
  Char.isDigit_iff_toNat.mp h

theorem digitChar_of_isDigit {c : Char} (h : c.isDigit = true) :
    Nat.digitChar (c.toNat - 48) = c := by
  obtain ⟨hlow, hhigh⟩ := toNat_of_isDigit h
  refine Char.toNat_inj.mp ?_
  rw [Nat.toNat_digitChar_of_lt_ten (by omega)]
  omega

theorem filterMap_digit? (h : ∀ c ∈ cs, c.isDigit = true) :
    cs.filterMap digit? = cs.map fun c => c.toNat - 48 := by
  induction cs with
  | nil => rfl
  | cons c rest ih =>
      obtain ⟨hc, hrest⟩ := List.forall_mem_cons.mp h
      simp only [Char.isDigit, Bool.and_eq_true, decide_eq_true_eq] at hc
      have hdigit : digit? c = some (c.toNat - 48) := if_pos ⟨hc.1, hc.2⟩
      rw [List.filterMap_cons, hdigit, ih hrest, List.map_cons]

theorem ofDecimal_of_digits (h : ∀ c ∈ cs, c.isDigit = true) :
    ofDecimal cs = Nat.ofDigitChars 10 cs 0 := by
  have hfold : ∀ (cs : List Char) (acc : Nat),
      (cs.map fun c => c.toNat - 48).foldl (fun n d => n * 10 + d) acc =
        Nat.ofDigitChars 10 cs acc := by
    intro cs
    induction cs with
    | nil => exact fun acc => rfl
    | cons c rest ih =>
        intro acc
        rw [List.map_cons, List.foldl_cons, ih, Nat.ofDigitChars_cons, Nat.mul_comm]
        rfl
  rw [ofDecimal, ofDigits, filterMap_digit? h, hfold]

/-- Digits behind a number other than zero are printed as they stand. -/
theorem toDigits_ofDigitChars {acc : Nat} (hacc : 0 < acc) (h : ∀ c ∈ cs, c.isDigit = true) :
    Nat.toDigits 10 (Nat.ofDigitChars 10 cs acc) = Nat.toDigits 10 acc ++ cs := by
  induction cs generalizing acc with
  | nil => simp
  | cons c rest ih =>
      obtain ⟨hc, hrest⟩ := List.forall_mem_cons.mp h
      obtain ⟨hlow, hhigh⟩ := toNat_of_isDigit hc
      have hvalue : c.toNat - 48 < 10 := by omega
      have hdigit : Nat.toDigits 10 (c.toNat - 48) = [c] := by
        rw [Nat.toDigits_of_lt_base hvalue, digitChar_of_isDigit hc]
      calc Nat.toDigits 10 (Nat.ofDigitChars 10 (c :: rest) acc)
          = Nat.toDigits 10 (Nat.ofDigitChars 10 rest (10 * acc + (c.toNat - 48))) := by
            rw [Nat.ofDigitChars_cons]
            rfl
        _ = Nat.toDigits 10 (10 * acc + (c.toNat - 48)) ++ rest := ih (by omega) hrest
        _ = (Nat.toDigits 10 acc ++ [c]) ++ rest := by
            rw [← Nat.toDigits_append_toDigits (by decide) hacc hvalue, hdigit]
        _ = Nat.toDigits 10 acc ++ c :: rest := by rw [List.append_assoc, List.singleton_append]

theorem head?_toDigits (hn : 0 < n) : (Nat.toDigits 10 n).head? ≠ some '0' := by
  induction n using Nat.strong_induction_on with
  | _ n ih =>
      rw [Nat.toDigits_eq_if (by decide)]
      split
      · next hsmall =>
          simp only [List.head?_cons, ne_eq, Option.some.injEq, Nat.digitChar_eq_zero]
          omega
      · next hlarge =>
          have hfront := ih (n / 10) (by omega) (by omega)
          have hne : Nat.toDigits 10 (n / 10) ≠ [] := Nat.toDigits_ne_nil
          obtain ⟨c, rest, hsplit⟩ := List.exists_cons_of_ne_nil hne
          rw [hsplit] at hfront ⊢
          exact hfront

theorem digits_toDigits (n : Nat) : Digits n (Nat.toDigits 10 n) where
  nonempty := Nat.toDigits_ne_nil
  digits := fun _ => Nat.isDigit_of_mem_toDigits (by decide) (by decide)
  leading := by
    intro hzero
    rcases Nat.eq_zero_or_pos n with rfl | hpos
    · rfl
    · exact absurd hzero (head?_toDigits hpos)
  value := Nat.ofDigitChars_ten_toDigits

theorem Digits.eq_toDigits (h : Digits n cs) : cs = Nat.toDigits 10 n := by
  obtain ⟨c, rest, rfl⟩ := List.exists_cons_of_ne_nil h.nonempty
  obtain ⟨hc, hrest⟩ := List.forall_mem_cons.mp h.digits
  rw [← h.value]
  by_cases hzero : c = '0'
  · subst hzero
    obtain rfl : rest = [] := (List.cons.inj (h.leading rfl)).2
    rfl
  · obtain ⟨hlow, hhigh⟩ := toNat_of_isDigit hc
    have hne : c.toNat ≠ 48 := fun heq => hzero (Char.toNat_inj.mp heq)
    have hfirst : Nat.ofDigitChars 10 (c :: rest) 0 = Nat.ofDigitChars 10 rest (c.toNat - 48) := by
      rw [Nat.ofDigitChars_cons, Nat.mul_zero, Nat.zero_add]
      rfl
    rw [hfirst, toDigits_ofDigitChars (by omega) hrest, Nat.toDigits_of_lt_base (by omega),
      digitChar_of_isDigit hc, List.singleton_append]

/-- An integer is printed in its canonical form, which is the only text in that form. -/
theorem canonical_iff_text {n : Int} {t : String} :
    Canonical n t.toList ↔ (integer n).text = t := by
  have hprinted : (integer n).text.toList =
      if 0 ≤ n then Nat.toDigits 10 n.toNat else '-' :: Nat.toDigits 10 (-n).toNat := by
    show (Int.repr n).toList = _
    rw [Int.repr_eq_if]
    split
    · exact Nat.toList_repr
    · rw [String.toList_append, Nat.toList_repr]
      rfl
  rw [← String.toList_inj, hprinted]
  constructor
  · intro h
    generalize t.toList = cs at h
    cases h with
    | natural h =>
        rw [if_pos (Int.natCast_nonneg _), Int.toNat_natCast, h.eq_toDigits]
    | negative hpos h =>
        rw [if_neg (by omega), Int.neg_neg, Int.toNat_natCast, h.eq_toDigits]
  · intro h
    rw [← h]
    split
    · next hnonneg =>
        obtain ⟨k, rfl⟩ := Int.eq_ofNat_of_zero_le hnonneg
        exact .natural (digits_toDigits k)
    · next hneg =>
        obtain ⟨k, rfl⟩ : ∃ k : Nat, n = -k := ⟨(-n).toNat, by omega⟩
        rw [Int.neg_neg, Int.toNat_natCast]
        exact .negative (by omega) (digits_toDigits k)

theorem Canonical.unique {m n : Int} (hm : Canonical m cs) (hn : Canonical n cs) : m = n := by
  -- no digit is a minus, so the same text has a sign in both forms or in neither
  have hdigits : ∀ {k : Nat} {rest : List Char}, ¬ Digits k ('-' :: rest) := fun h =>
    absurd (h.digits '-' List.mem_cons_self) (by decide)
  cases hm with
  | natural hm =>
      cases hn with
      | natural hn => rw [← hm.value, ← hn.value]
      | negative => exact absurd hm hdigits
  | negative _ hm =>
      cases hn with
      | natural hn => exact absurd hn hdigits
      | negative _ hn => rw [← hm.value, ← hn.value]

end Number

end RowAccess
