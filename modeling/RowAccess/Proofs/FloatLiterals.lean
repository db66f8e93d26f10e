import Mathlib.Data.List.DropRight
import RowAccess.Number.Layout
import RowAccess.Proofs.Literals

/-!
# Floats as literals

The text of a float in a document is made of its shortest digits. They form
a proper decimal number, with no zero in front but for zero itself
(`Double.proper_shortest`), and so the layout of documents puts them down as
a literal: the reader takes the whole text, whatever number it makes of it.
-/

namespace RowAccess

/-! ## Shortest digits -/

/-- At least one digit, the first of them no zero. Zero itself has one digit. -/
structure Decimal.Proper (x : Decimal) : Prop where
  nonempty : x.digits ≠ []
  digits : ∀ d ∈ x.digits, d < 10
  leading : x.digits.head? = some 0 → x = ⟨[0], 0⟩

theorem Decimal.proper_zero : Proper ⟨[0], 0⟩ := ⟨by decide, by decide, fun _ => rfl⟩

namespace Double

theorem significand_pos {d : Double} (h : d.isZero = false) : 0 < d.significand := by
  have hmagnitude : d.magnitude ≠ 0 := by simpa [isZero] using h
  have hpow : 0 < Nat.pow 2 52 := by decide
  unfold significand
  simp only
  split
  · next hsmall =>
      have hlt := Nat.lt_of_div_eq_zero hpow hsmall
      rw [Nat.mod_eq_of_lt hlt]
      omega
  · omega

/-- The interval of a double other than zero lies above zero. -/
theorem low_pos {d : Double} (h : d.isZero = false) : 0 < d.interval.low := by
  have hsignificand := significand_pos h
  have hunit : ∀ k, 0 < Nat.pow 2 k := Nat.two_pow_pos
  refine Nat.mul_pos ?_ (hunit _)
  split <;> omega

variable {i : Interval} {lead : Int} {n count : Nat}

theorem not_contains_zero (hlow : 0 < i.low) {den : Nat} (hden : 0 < den) :
    i.contains 0 den = false := by
  have hpos : 0 < i.low * den := Nat.mul_pos hlow hden
  unfold Interval.contains
  simp only [Nat.zero_mul]
  split
  · exact Bool.and_eq_false_imp.mpr fun h => absurd (of_decide_eq_true h) (by omega)
  · exact Bool.and_eq_false_imp.mpr fun h => absurd (of_decide_eq_true h) (by omega)

theorem gridPoint?_pos (hlow : 0 < i.low) (h : gridPoint? i lead count = some n) : 0 < n := by
  unfold gridPoint? at h
  simp only at h
  generalize hdown : (if 0 ≤ lead - (count : Int) + 1 then 1 else
    Nat.pow 10 (lead - (count : Int) + 1).natAbs) = down at h
  generalize (if 0 ≤ lead - (count : Int) + 1 then
    Nat.pow 10 (lead - (count : Int) + 1).toNat else 1) = up at h
  generalize i.value * down / (i.denominator * up) = below at h
  have hden : 0 < down := by
    rw [← hdown]
    split
    · exact Nat.one_pos
    · exact Nat.pow_pos (by decide)
  split at h
  · next hfits =>
      obtain rfl := Option.some.inj h
      refine Nat.pos_of_ne_zero fun hzero => ?_
      rw [hzero, Nat.zero_mul, not_contains_zero hlow hden] at hfits
      cases hfits
  · split at h
    · exact Option.some.inj h ▸ Nat.succ_pos _
    · cases h

/-- The significant digits of a number start with the first digit of it. -/
theorem significantDigits_spec (hn : 0 < n) :
    significantDigits n ≠ [] ∧ (∀ d ∈ significantDigits n, d < 10) ∧
      (significantDigits n).head? ≠ some 0 := by
  obtain ⟨c, rest, hdigits⟩ := List.exists_cons_of_ne_nil (Nat.toDigits_ne_nil (b := 10) (n := n))
  have hform := Number.digits_toDigits n
  have hrange : ∀ c ∈ Nat.toDigits 10 n, c.toNat - 48 < 10 := fun c hc => by
    have := Number.toNat_of_isDigit (hform.digits c hc)
    omega
  have hfirst : c.toNat - 48 ≠ 0 := by
    have hc := Number.toNat_of_isDigit (hform.digits c (hdigits ▸ List.mem_cons_self))
    have hzero : c ≠ '0' := fun heq => Number.head?_toDigits hn (by rw [hdigits, heq]; rfl)
    have hcode : c.toNat ≠ 48 := fun heq => hzero (Char.toNat_inj.mp heq)
    omega
  have hfront : significantDigits n <+: (Nat.toDigits 10 n).map fun c => c.toNat - 48 :=
    List.rdropWhile_prefix _ _
  have hne : significantDigits n ≠ [] := by
    refine mt List.rdropWhile_eq_nil_iff.mp fun hall => hfirst ?_
    rw [hdigits] at hall
    exact beq_iff_eq.mp (hall _ List.mem_cons_self)
  refine ⟨hne, fun d hd => ?_, ?_⟩
  · obtain ⟨c, hc, rfl⟩ := List.mem_map.mp (hfront.subset hd)
    exact hrange c hc
  · obtain ⟨d, ds, hcons⟩ := List.exists_cons_of_ne_nil hne
    rw [hcons, hdigits, List.map_cons] at hfront
    rw [hcons]
    rintro ⟨⟩
    exact hfirst (List.cons_prefix_cons.mp hfront).1.symm

theorem proper_shortestFrom (hlow : 0 < i.low) (lead : Int) (fuel count : Nat) :
    (shortestFrom i lead fuel count).Proper := by
  induction fuel generalizing count with
  | zero => exact Decimal.proper_zero
  | succ fuel ih =>
      rw [shortestFrom]
      split
      · next n hn =>
          obtain ⟨hnonempty, hdigits, hleading⟩ := significantDigits_spec (gridPoint?_pos hlow hn)
          exact ⟨hnonempty, hdigits, fun hzero => absurd hzero hleading⟩
      · exact ih _

theorem proper_shortest (d : Double) : d.shortest.Proper := by
  unfold shortest
  split
  · exact Decimal.proper_zero
  · next h => exact proper_shortestFrom (low_pos (by simpa using h)) _ _ _

end Double

/-! ## The layout of documents -/

namespace Layout

open Number (Literal Digits)

theorem isDigit_digitChar : ∀ d < 10, (digitChar d).isDigit = true := by decide

theorem digitChar_eq_zero : ∀ d < 10, digitChar d = '0' → d = 0 := by decide

variable {x : Decimal}

theorem isDigit_of_mem_digits (h : x.Proper) : ∀ c ∈ x.digits.map digitChar, c.isDigit = true := by
  intro c hc
  obtain ⟨d, hd, rfl⟩ := List.mem_map.mp hc
  exact isDigit_digitChar d (h.digits d hd)

/-- The digits in front of the point, filled up with zeros, are those of a number. -/
theorem digits_front (h : x.Proper) {whole : Nat} (hwhole : 0 < whole)
    (hzero : x = ⟨[0], 0⟩ → whole = 1) :
    ∃ n, Digits n ((x.digits.map digitChar).take whole ++
      List.replicate (whole - (x.digits.map digitChar).length) '0') := by
  obtain ⟨d, ds, hdigits⟩ := List.exists_cons_of_ne_nil h.nonempty
  obtain ⟨more, rfl⟩ := Nat.exists_eq_succ_of_ne_zero (Nat.pos_iff_ne_zero.mp hwhole)
  refine ⟨_, ?_, fun c hc => ?_, fun hhead => ?_, rfl⟩
  · simp [hdigits]
  · rcases List.mem_append.mp hc with hc | hc
    · exact isDigit_of_mem_digits h c (List.mem_of_mem_take hc)
    · rw [List.eq_of_mem_replicate hc]
      rfl
  · rw [hdigits] at hhead
    have hd : d = 0 := digitChar_eq_zero d (h.digits d (hdigits ▸ List.mem_cons_self))
      (Option.some.inj hhead)
    have hx := h.leading (by rw [hdigits, hd]; rfl)
    obtain rfl : more = 0 := by simpa using hzero hx
    rw [hx]
    rfl

/-- A literal without a minus and a power of ten. -/
theorem proper_pointed {n : Nat} {front back : List Char} (hfront : Digits n front)
    (hback : back ≠ []) (hdigits : ∀ c ∈ back, c.isDigit = true) :
    Literal.Proper ⟨false, front, some back, none⟩ where
  whole := ⟨n, hfront⟩
  fraction := by
    rintro _ ⟨⟩
    exact ⟨hback, hdigits⟩
  power := by rintro _ ⟨⟩

theorem exists_literal_positional (h : x.Proper) :
    ∃ l : Literal, l.Proper ∧ l.negative = false ∧ l.text = (document.positional x).toList := by
  unfold positional
  simp only
  split
  · have hback : ∀ c ∈ List.replicate (x.exponent.natAbs - 1) '0' ++ x.digits.map digitChar,
        c.isDigit = true := by
      intro c hc
      rcases List.mem_append.mp hc with hc | hc
      · rw [List.eq_of_mem_replicate hc]
        rfl
      · exact isDigit_of_mem_digits h c hc
    refine ⟨_, proper_pointed (Number.digits_toDigits 0) (by simp [h.nonempty]) hback, rfl, ?_⟩
    simp [Literal.text, Literal.fractionText, Literal.powerText]
  · next hexponent =>
      obtain ⟨n, hfront⟩ := digits_front h (Nat.succ_pos x.exponent.toNat)
        fun hx => by rw [hx]; rfl
      split
      · have hback : ∀ c ∈ ['0'], c.isDigit = true := List.forall_mem_singleton.mpr rfl
        refine ⟨_, proper_pointed hfront (List.cons_ne_nil _ _) hback, rfl, ?_⟩
        simp [Literal.text, Literal.fractionText, Literal.powerText, document]
      · next hnonempty =>
          have hback : ∀ c ∈ (x.digits.map digitChar).drop (x.exponent.toNat + 1),
              c.isDigit = true := fun c hc =>
            isDigit_of_mem_digits h c (List.mem_of_mem_drop hc)
          refine ⟨_, proper_pointed hfront (by simpa using hnonempty) hback, rfl, ?_⟩
          simp [Literal.text, Literal.fractionText, Literal.powerText]

theorem exists_literal_scientific (h : x.Proper) :
    ∃ l : Literal, l.Proper ∧ l.negative = false ∧ l.text = (document.scientific x).toList := by
  obtain ⟨n, hfront⟩ := digits_front h Nat.one_pos fun _ => rfl
  have hlength : 1 - (x.digits.map digitChar).length = 0 := by
    have := List.length_pos_iff.mpr h.nonempty
    rw [List.length_map]
    omega
  rw [hlength, List.replicate_zero, List.append_nil] at hfront
  have hbackDigits : ∀ c ∈ (x.digits.map digitChar).drop 1, c.isDigit = true := fun c hc =>
    isDigit_of_mem_digits h c (List.mem_of_mem_drop hc)
  unfold scientific
  simp only
  generalize (x.digits.map digitChar).drop 1 = back at hbackDigits ⊢
  have hbackText : (if back.isEmpty then none else some back).elim [] (fun ds => '.' :: ds) =
      (if back.isEmpty then "" else "." ++ String.ofList back).toList := by
    split <;> simp
  have hpower := Number.digits_toDigits x.exponent.natAbs
  have hnatural : (toString x.exponent.natAbs).toList = Nat.toDigits 10 x.exponent.natAbs :=
    Nat.toList_repr
  refine ⟨⟨false, (x.digits.map digitChar).take 1, if back.isEmpty then none else some back,
    some (decide (x.exponent < 0), Nat.toDigits 10 x.exponent.natAbs)⟩,
    ⟨⟨n, hfront⟩, fun ds hds => ?_, ?_⟩, rfl, ?_⟩
  · obtain ⟨hback, hds⟩ := Option.ite_none_left_eq_some.mp hds
    obtain rfl := Option.some.inj hds
    exact ⟨by simpa using hback, hbackDigits⟩
  · rintro _ ⟨⟩
    exact ⟨hpower.nonempty, hpower.digits⟩
  · rw [Literal.text, Literal.fractionText, Literal.powerText, hbackText]
    by_cases hsign : x.exponent < 0 <;> simp [hsign, document]

end Layout

/-! ## Numbers in front of a text -/

namespace Number

/-- A number that is no NaN and no infinity. -/
def isFinite : Number → Bool
  | .integer _ => true
  | .float d => d.isFinite

theorem exists_literal_float {d : Double} (h : d.isFinite = true) :
    ∃ l : Literal, l.Proper ∧ l.text = (float d).text.toList := by
  obtain ⟨hnan, hinfinite⟩ := Double.isFinite_iff.mp h
  obtain ⟨l, hl, hunsigned, htext⟩ : ∃ l : Literal, l.Proper ∧ l.negative = false ∧
      l.text = (if Layout.document.lowest ≤ d.shortest.exponent ∧
        d.shortest.exponent ≤ Layout.document.highest then Layout.document.positional d.shortest
        else Layout.document.scientific d.shortest).toList := by
    split
    · exact Layout.exists_literal_positional d.proper_shortest
    · exact Layout.exists_literal_scientific d.proper_shortest
  refine ⟨{ l with negative := d.negative }, ⟨hl.whole, hl.fraction, hl.power⟩, ?_⟩
  simp only [text, Layout.write, hnan, hinfinite, Bool.false_eq_true, if_false,
    String.toList_append, ← htext]
  cases hsign : d.negative <;>
    simp [Literal.text, Literal.fractionText, Literal.powerText, hunsigned]

theorem exists_literal {n : Number} (h : n.isFinite = true) :
    ∃ l : Literal, l.Proper ∧ l.text = n.text.toList := by
  cases n with
  | integer n =>
      obtain ⟨l, hl, htext, -⟩ := (canonical_iff_text.mpr rfl : Canonical n _).exists_literal
      exact ⟨l, hl, htext⟩
  | float d => exact exists_literal_float h

/-- The number that the text of a number is read as, if it is read as one. -/
def reread? (n : Number) : Option Number := (read? n.text.toList).map Prod.fst

theorem text_of_not_finite {n : Number} (h : n.isFinite = false) :
    n.text ∈ ["NaN", "inf", "-inf"] := by
  cases n with
  | integer n => cases h
  | float d =>
      simp only [text, Layout.write]
      split
      · exact .head _
      · next hnan =>
          have hinfinite : d.isInfinite = true := by
            by_contra hinfinite
            have hfinite := Double.isFinite_iff.mpr
              ⟨Bool.eq_false_iff.mpr hnan, Bool.eq_false_iff.mpr hinfinite⟩
            exact Bool.eq_false_iff.mp h hfinite
          rw [if_pos hinfinite]
          cases d.negative <;> decide

/-- NaN and infinity have texts that no number starts with. -/
theorem read?_append_of_not_finite {n : Number} (h : n.isFinite = false) (rest : List Char) :
    read? (n.text.toList ++ rest) = none := by
  have htext := text_of_not_finite h
  simp only [List.mem_cons, List.not_mem_nil, or_false] at htext
  rcases htext with htext | htext | htext <;> rw [htext] <;> rfl

theorem exists_start (n : Number) :
    ∃ c cs, n.text.toList = c :: cs ∧ (c.isDigit = true ∨ c ∈ ['-', 'N', 'i']) := by
  cases h : n.isFinite with
  | true =>
      obtain ⟨l, hl, htext⟩ := exists_literal h
      obtain ⟨k, hwhole⟩ := hl.whole
      obtain ⟨c, cs, hcs⟩ := List.exists_cons_of_ne_nil hwhole.nonempty
      rw [← htext, Literal.text]
      cases l.negative with
      | true => exact ⟨'-', _, rfl, .inr (by decide)⟩
      | false =>
          refine ⟨c, _, by rw [hcs]; rfl, .inl (hwhole.digits c (hcs ▸ List.mem_cons_self))⟩
  | false =>
      have htext := text_of_not_finite h
      simp only [List.mem_cons, List.not_mem_nil, or_false] at htext
      rcases htext with htext | htext | htext <;> rw [htext] <;> exact ⟨_, _, rfl, by decide⟩

/-- In front of a text, a number is read as it is by itself. -/
theorem read?_append (n : Number) {rest : List Char} (hrest : Ends rest) :
    read? (n.text.toList ++ rest) = n.reread?.map fun m => (m, rest) := by
  rw [reread?, ← List.append_nil n.text.toList, List.append_assoc, List.nil_append]
  cases h : n.isFinite with
  | true =>
      obtain ⟨l, hl, htext⟩ := exists_literal h
      rw [← htext, read?_text hl hrest, read?_text hl ends_nil]
      cases l.number? <;> rfl
  | false => rw [read?_append_of_not_finite h, read?_append_of_not_finite h]; rfl

/-- Integers of sixty-four bits are given back by their texts. -/
theorem reread?_integer {n : Int} (h : InRange n) : (integer n).reread? = some (integer n) := by
  rw [reread?, read?_of_canonical (canonical_iff_text.mpr rfl) h]
  rfl

end Number

end RowAccess
