import RowAccess.Proofs.Decimals

/-!
# Number literals

A number is read from the front of a text, and the reader takes all that
can belong to it. `Literal` is a literal by its parts, and `read?_text`
says what is read where a literal stands in front: the number of its parts,
and nothing of what is behind it, if that is no digit, point or `e`.

Every number but a NaN or an infinity is printed as a literal
(`exists_literal`): an integer by its canonical form, a float by its
shortest digits, which are put around a point or in front of a power of ten.
What comes back is another question. Integers of sixty-four bits do
(`read?_of_canonical`), but not all floats, as the reader rounds twice.
-/

namespace RowAccess

namespace Number

variable {n : Nat} {cs rest : List Char}

/-! ## Digits in front of a text -/

/-- The values of digits. -/
def values (cs : List Char) : List Nat := cs.map fun c => c.toNat - 48

/-- A text that no digit starts. -/
def NoDigit (rest : List Char) : Prop := ∀ c ∈ rest.head?, c.isDigit = false

theorem spanDigits_append (h : ∀ c ∈ cs, c.isDigit = true) (hrest : NoDigit rest) :
    spanDigits (cs ++ rest) = (values cs, rest) := by
  have htake : rest.takeWhile Char.isDigit = [] := by
    cases rest with
    | nil => rfl
    | cons c rest => exact List.takeWhile_cons_of_neg (by simp [hrest c rfl])
  have hdrop : rest.dropWhile Char.isDigit = rest := by
    cases rest with
    | nil => rfl
    | cons c rest => exact List.dropWhile_cons_of_neg (by simp [hrest c rfl])
  rw [spanDigits, List.takeWhile_append_of_pos h, List.dropWhile_append_of_pos h, htake, hdrop,
    List.append_nil, filterMap_digit? h, values]

theorem values_ne_nil (h : cs ≠ []) : values cs ≠ [] := mt List.map_eq_nil_iff.mp h

theorem readWhole?_append (h : Digits n cs) (hrest : NoDigit rest) :
    readWhole? (cs ++ rest) = some (values cs, rest) := by
  rw [readWhole?, spanDigits_append h.digits hrest]
  split
  · next hnil => exact absurd (Prod.ext_iff.mp hnil).1 (values_ne_nil h.nonempty)
  · next hzero =>
      obtain ⟨c, ds, rfl, hc, hds⟩ := List.map_eq_cons_iff.mp (Prod.ext_iff.mp hzero).1
      obtain ⟨hlow, -⟩ := toNat_of_isDigit (h.digits c List.mem_cons_self)
      have hlead : c = '0' := Char.toNat_inj.mp (by change c.toNat = 48; omega)
      -- a zero stands alone
      obtain ⟨-, rfl⟩ := List.cons.inj (h.leading (congrArg some hlead))
      cases hds
  · rfl

theorem readFraction?_append (hcs : cs ≠ []) (h : ∀ c ∈ cs, c.isDigit = true)
    (hrest : NoDigit rest) :
    readFraction? ('.' :: (cs ++ rest)) = some (some (values cs), rest) := by
  rw [readFraction?, spanDigits_append h hrest]
  split
  · next hnil => exact absurd (Prod.ext_iff.mp hnil).1 (values_ne_nil hcs)
  · next heq =>
      obtain ⟨rfl, rfl⟩ := Prod.mk.inj heq
      rfl

theorem readFraction?_of_no_point (h : ∀ c ∈ rest.head?, c ≠ '.') :
    readFraction? rest = some (none, rest) :=
  readFraction?.eq_2 rest fun _ heq => h '.' (heq ▸ rfl) rfl

/-- The power of ten that a sign and digits stand for. -/
def signed (negative : Bool) (cs : List Char) : Int :=
  if negative then -(ofDigits (values cs) : Int) else ofDigits (values cs)

theorem readPower?_append (negative : Bool) (hcs : cs ≠ []) (h : ∀ c ∈ cs, c.isDigit = true)
    (hrest : NoDigit rest) :
    readPower? ('e' :: (if negative then '-' else '+') :: (cs ++ rest)) =
      some (some (signed negative cs), rest) := by
  obtain ⟨d, ds, hds⟩ := List.exists_cons_of_ne_nil (values_ne_nil hcs)
  cases negative <;> simp [readPower?, spanDigits_append h hrest, signed, hds]

theorem readPower?_of_no_power (h : ∀ c ∈ rest.head?, c ≠ 'e' ∧ c ≠ 'E') :
    readPower? rest = some (none, rest) := by
  cases rest with
  | nil => rfl
  | cons c rest =>
      have hc := h c rfl
      simp [readPower?, hc.1, hc.2]

/-! ## Literals -/

/-- A literal by its parts. A power of ten has a sign, that of the number is a minus or none. -/
structure Literal where
  negative : Bool
  whole : List Char
  fraction : Option (List Char)
  power : Option (Bool × List Char)

namespace Literal

def fractionText (l : Literal) : List Char := l.fraction.elim [] fun ds => '.' :: ds

def powerText (l : Literal) : List Char :=
  l.power.elim [] fun p => 'e' :: (if p.1 then '-' else '+') :: p.2

def text (l : Literal) : List Char :=
  (if l.negative then ['-'] else []) ++ (l.whole ++ (l.fractionText ++ l.powerText))

/-- The number of the parts, if it is not too large. -/
def number? (l : Literal) : Option Number :=
  ofLiteral? l.negative (values l.whole) (l.fraction.map values)
    (l.power.map fun p => signed p.1 p.2)

/-- The parts are digits, each at least one, and no zero leads the whole part but a lone one. -/
structure Proper (l : Literal) : Prop where
  whole : ∃ n, Digits n l.whole
  fraction : ∀ ds ∈ l.fraction, ds ≠ [] ∧ ∀ c ∈ ds, c.isDigit = true
  power : ∀ p ∈ l.power, p.2 ≠ [] ∧ ∀ c ∈ p.2, c.isDigit = true

end Literal

/-- What can stand behind a literal without being taken for a part of it. -/
def Ends (rest : List Char) : Prop :=
  ∀ c ∈ rest.head?, c.isDigit = false ∧ c ≠ '.' ∧ c ≠ 'e' ∧ c ≠ 'E'

theorem ends_nil : Ends [] := nofun

theorem readPower?_text {l : Literal} (h : l.Proper) (hrest : Ends rest) :
    readPower? (l.powerText ++ rest) = some (l.power.map fun p => signed p.1 p.2, rest) := by
  rw [Literal.powerText]
  cases hpower : l.power with
  | none => exact readPower?_of_no_power fun c hc => (hrest c hc).2.2
  | some p =>
      obtain ⟨hne, hdigits⟩ := h.power p hpower
      exact readPower?_append p.1 hne hdigits fun c hc => (hrest c hc).1

theorem readFraction?_text {l : Literal} (h : l.Proper) (hrest : Ends rest) :
    readFraction? (l.fractionText ++ (l.powerText ++ rest)) =
      some (l.fraction.map values, l.powerText ++ rest) := by
  have hpower : ∀ c ∈ (l.powerText ++ rest).head?, c.isDigit = false ∧ c ≠ '.' := by
    rw [Literal.powerText]
    cases l.power with
    | none => exact fun c hc => ⟨(hrest c hc).1, (hrest c hc).2.1⟩
    | some p =>
        intro c hc
        obtain rfl := Option.some.inj hc
        decide
  rw [Literal.fractionText]
  cases hfraction : l.fraction with
  | none => exact readFraction?_of_no_point fun c hc => (hpower c hc).2
  | some ds =>
      obtain ⟨hne, hdigits⟩ := h.fraction ds hfraction
      exact readFraction?_append hne hdigits fun c hc => (hpower c hc).1

theorem noDigit_text {l : Literal} (hrest : Ends rest) :
    NoDigit (l.fractionText ++ (l.powerText ++ rest)) := by
  rw [Literal.fractionText, Literal.powerText]
  cases l.fraction with
  | some ds =>
      intro c hc
      obtain rfl := Option.some.inj hc
      rfl
  | none =>
      cases l.power with
      | some p =>
          intro c hc
          obtain rfl := Option.some.inj hc
          rfl
      | none => exact fun c hc => (hrest c hc).1

theorem readParts?_text {l : Literal} (h : l.Proper) (hrest : Ends rest) :
    readParts? l.negative (l.whole ++ (l.fractionText ++ (l.powerText ++ rest))) =
      l.number?.map fun n => (n, rest) := by
  obtain ⟨n, hwhole⟩ := h.whole
  rw [readParts?, readWhole?_append hwhole (noDigit_text hrest)]
  show (readFraction? _).bind _ = _
  rw [readFraction?_text h hrest]
  show (readPower? _).bind _ = _
  rw [readPower?_text h hrest]
  show l.number?.bind _ = _
  cases l.number? <;> rfl

/-- Where a literal stands in front, the number of its parts is read, and nothing behind it. -/
theorem read?_text {l : Literal} (h : l.Proper) (hrest : Ends rest) :
    read? (l.text ++ rest) = l.number?.map fun n => (n, rest) := by
  rw [← readParts?_text h hrest, Literal.text, List.append_assoc, List.append_assoc,
    List.append_assoc]
  cases l.negative with
  | true => rfl
  | false =>
      refine read?.eq_2 _ fun cs hminus => ?_
      obtain ⟨n, hwhole⟩ := h.whole
      obtain ⟨c, ds, hds⟩ := List.exists_cons_of_ne_nil hwhole.nonempty
      rw [hds] at hminus hwhole
      obtain ⟨rfl, -⟩ := List.cons.inj hminus
      exact absurd (hwhole.digits '-' List.mem_cons_self) (by decide)

/-! ## Integers -/

/-- The integers of documents: those of sixty-four bits, with a sign or without one. -/
def InRange (n : Int) : Prop := -(Nat.pow 2 63 : Nat) ≤ n ∧ n ≤ (maxNatural : Nat)

instance (n : Int) : Decidable (InRange n) := inferInstanceAs (Decidable (_ ∧ _))

theorem le_ofDigitChars (cs : List Char) (acc : Nat) : acc ≤ Nat.ofDigitChars 10 cs acc := by
  rw [Nat.ofDigitChars_eq_ofDigitChars_zero]
  have hpow : 1 ≤ 10 ^ cs.length := Nat.one_le_pow _ _ (by decide)
  calc acc = 1 * acc := (Nat.one_mul acc).symm
    _ ≤ 10 ^ cs.length * acc := Nat.mul_le_mul_right acc hpow
    _ ≤ 10 ^ cs.length * acc + Nat.ofDigitChars 10 cs 0 := Nat.le_add_right _ _

/-- As long as the number fits, no digit of it is dropped. -/
theorem foldl_pushWhole {acc : Nat} (h : Nat.ofDigitChars 10 cs acc ≤ maxNatural) :
    (cs.map fun c => c.toNat - 48).foldl Scaled.pushWhole ⟨acc, 0, false⟩ =
      ⟨Nat.ofDigitChars 10 cs acc, 0, false⟩ := by
  induction cs generalizing acc with
  | nil => rfl
  | cons c rest ih =>
      have hstep : Nat.ofDigitChars 10 (c :: rest) acc =
          Nat.ofDigitChars 10 rest (acc * 10 + (c.toNat - 48)) := by
        rw [Nat.ofDigitChars_cons, Nat.mul_comm]
        rfl
      rw [hstep] at h ⊢
      have hfits : ¬ maxNatural < acc * 10 + (c.toNat - 48) :=
        Nat.not_lt.mpr ((le_ofDigitChars rest _).trans h)
      rw [List.map_cons, List.foldl_cons, Scaled.pushWhole]
      simp only [hfits, Bool.false_or, decide_false, Bool.false_eq_true, if_false]
      exact ih h

/-- The literal of an integer. -/
def Literal.ofInteger (negative : Bool) (cs : List Char) : Literal := ⟨negative, cs, none, none⟩

theorem Literal.proper_ofInteger {negative : Bool} (h : Digits n cs) :
    (ofInteger negative cs).Proper where
  whole := ⟨n, h⟩
  fraction := nofun
  power := nofun

theorem text_ofInteger (negative : Bool) (cs : List Char) :
    (Literal.ofInteger negative cs).text = if negative then '-' :: cs else cs := by
  cases negative <;> simp [Literal.ofInteger, Literal.text, Literal.fractionText, Literal.powerText]

/-- Whole digits that fit make an integer; a negative one if they fit with a sign. -/
theorem number?_ofInteger (h : Digits n cs) (hfits : n ≤ maxNatural) :
    (Literal.ofInteger false cs).number? = some (integer n) ∧
    (0 < n → n ≤ Nat.pow 2 63 → (Literal.ofInteger true cs).number? = some (integer (-n))) := by
  have hfold : (values cs).foldl Scaled.pushWhole ⟨0, 0, false⟩ = ⟨n, 0, false⟩ := by
    rw [values, foldl_pushWhole (h.value.symm ▸ hfits), h.value]
  simp only [Literal.number?, Literal.ofInteger, ofLiteral?, hfold]
  refine ⟨rfl, fun hpos hlow => ?_⟩
  have hsmall : ¬ (n = 0 ∨ Nat.pow 2 63 < n) := by omega
  simp only [Bool.false_eq_true, if_false, Bool.not_true, hsmall, Option.map_none]

/-- The canonical form of an integer is a literal. -/
theorem Canonical.exists_literal {n : Int} (h : Canonical n cs) :
    ∃ l : Literal, l.Proper ∧ l.text = cs ∧ (InRange n → l.number? = some (integer n)) := by
  cases h with
  | @natural k _ h =>
      refine ⟨.ofInteger false cs, Literal.proper_ofInteger h, text_ofInteger _ _, fun hrange => ?_⟩
      exact (number?_ofInteger h (Int.ofNat_le.mp hrange.2)).1
  | @negative k ds hpos h =>
      refine ⟨.ofInteger true ds, Literal.proper_ofInteger h, text_ofInteger _ _, fun hrange => ?_⟩
      have hsigned : k ≤ Nat.pow 2 63 := Int.ofNat_le.mp (Int.neg_le_neg_iff.mp hrange.1)
      exact (number?_ofInteger h (hsigned.trans (by decide))).2 hpos hsigned

/-- A text in canonical form is a literal for the integer that it was made of. -/
theorem read?_of_canonical {n : Int} (h : Canonical n cs) (hrange : InRange n) :
    read? cs = some (integer n, []) := by
  obtain ⟨l, hl, rfl, hnumber⟩ := h.exists_literal
  have hread := read?_text hl ends_nil
  rw [List.append_nil, hnumber hrange] at hread
  exact hread

end Number

end RowAccess
