import Mathlib.Data.List.DropRight
import Mathlib.Data.List.TakeWhile
import RowAccess.Masking

/-!
# Redacted texts

A redaction shows the last four digits of a number, or the first
character and the domain of an address, and puts stars in place of the
rest. `MaskPattern.Accepts` says which texts it makes something of,
without the functions that look for digits and for the `@`; every other
text is refused (`redact_cases`).

What is left of a number has four digits, too few for any pattern, so it
is never what was there before. What is left of an address is an address
again. `apply_redact_eq_self_iff`: a redaction gives a text back as it is
exactly if the text is an address whose name is one character and three
stars.
-/

namespace RowAccess

/-! ## Values with a text -/

/-- The text of a string, and the decimal text of a number. -/
inductive Value.Spells : Value → String → Prop
  | string (s : String) : Spells (.string s) s
  | number (n : Number) : Spells (.number n) n.text

namespace MaskStrategy

variable {v : Value} {s t : String}

theorem apply_redact_of_ok (h : v.Spells s) {p : MaskPattern} (hok : Masking.redact p s = .ok t) :
    (redact p).apply v = .string t := by
  cases h <;> simp only [apply, attempt, Masking.textOf, onText, hok, Except.map]

theorem apply_redact_of_error (h : v.Spells s) {p : MaskPattern} {e : MaskError}
    (herror : Masking.redact p s = .error e) : (redact p).apply v = .null := by
  cases h <;> simp only [apply, attempt, Masking.textOf, onText, herror, Except.map]

theorem apply_truncate (h : v.Spells s) (n : Nat) :
    (truncate n).apply v = .string (Masking.truncate n s) := by
  cases h <;> rfl

/-- Nothing but a constant text comes of a value without a text. -/
theorem apply_of_wordless (h : ∀ s, ¬ v.Spells s) {m : MaskStrategy}
    (hm : ∀ text, m ≠ constant text) : m.apply v = .null := by
  cases v with
  | string s => exact absurd (.string s) (h s)
  | number n => exact absurd (.number n) (h n.text)
  | null | bool _ | array _ | object _ =>
      cases m with
      | constant text => exact absurd rfl (hm text)
      | redact _ | hash | tokenize | truncate _ | null => rfl

end MaskStrategy

/-! ## Addresses and numbers -/

namespace Masking

/-- A name and a domain with an `@` between them, and no other one. -/
structure Address (s : String) (name domain : List Char) : Prop where
  text : s.toList = name ++ '@' :: domain
  name_ne_nil : name ≠ []
  domain_ne_nil : domain ≠ []
  name_free : '@' ∉ name
  domain_free : '@' ∉ domain

/-- The digits at the end of a text, at most four, whatever stands between them. -/
def lastDigits (s : String) : List Char := (s.toList.filter Char.isDigit).rtake 4

end Masking

namespace MaskPattern

/-- The texts of which a part is shown. -/
def Accepts (p : MaskPattern) (s : String) : Prop :=
  let count := s.toList.countP Char.isDigit
  match p with
  | .ssn => count = 9
  | .phone => 10 ≤ count
  | .creditCard => 13 ≤ count ∧ count ≤ 19
  | .email => ∃ name domain, Masking.Address s name domain

/-- What stands in front of the digits of a number that are shown. -/
def stars : MaskPattern → String
  | .ssn => "***-**-"
  | .phone => "***-***-"
  | .creditCard => "****-****-****-"
  | .email => "***"

end MaskPattern

namespace Masking

variable {p q : MaskPattern} {s t : String} {first : Char} {rest name domain : List Char}

theorem splitAddress?_eq_some_iff {cs : List Char} :
    splitAddress? cs = some (name, domain) ↔ cs = name ++ '@' :: domain ∧ '@' ∉ name := by
  constructor
  · intro h
    unfold splitAddress? at h
    split at h
    · cases h
    · next c rest hdrop =>
      obtain ⟨rfl, rfl⟩ := Prod.mk.inj (Option.some.inj h)
      -- the scan stops at an `@`, and has passed none before
      have hsign : c = '@' := by
        have hhead := List.head_dropWhile_not (· != '@') (hdrop ▸ List.cons_ne_nil c rest)
        simpa [hdrop] using hhead
      subst hsign
      constructor
      · rw [← hdrop, List.takeWhile_append_dropWhile]
      · exact fun hmem => absurd (List.mem_takeWhile_imp hmem) (by simp)
  · rintro ⟨rfl, hname⟩
    have hpass : ∀ c ∈ name, (c != '@') = true := fun c hc =>
      bne_iff_ne.mpr fun heq => hname (heq ▸ hc)
    rw [splitAddress?, List.dropWhile_append_of_pos hpass, List.takeWhile_append_of_pos hpass]
    simp

theorem Address.split (h : Address s name domain) : splitAddress? s.toList = some (name, domain) :=
  splitAddress?_eq_some_iff.mpr ⟨h.text, h.name_free⟩

/-- What is left of an address with this first character and domain. -/
def shortened (first : Char) (domain : List Char) : String :=
  String.ofList (first :: "***@".toList ++ domain)

theorem redact_address (h : Address s (first :: rest) domain) :
    redact .email s = .ok (shortened first domain) := by
  have hdomain : (domain.isEmpty || domain.contains '@') = false := by
    simp [h.domain_ne_nil, h.domain_free]
  simp only [redact, redactEmail, h.split, hdomain, Bool.false_eq_true, if_false]
  rfl

theorem redactEmail_of_none (h : ¬ ∃ name domain, Address s name domain) :
    ∃ e, redactEmail s = .error e := by
  unfold redactEmail
  split
  · next name domain hsplit =>
    obtain ⟨htext, hname⟩ := splitAddress?_eq_some_iff.mp hsplit
    split
    · exact ⟨_, rfl⟩
    · next hdomain =>
      simp only [Bool.or_eq_true, List.isEmpty_iff, List.contains_iff_mem, not_or] at hdomain
      cases name with
      | nil => exact ⟨_, rfl⟩
      | cons first rest =>
          exact absurd ⟨_, _, htext, List.cons_ne_nil first rest, hdomain.1, hname, hdomain.2⟩ h
  · exact ⟨_, rfl⟩

theorem length_digits (s : String) : (digits s).length = s.toList.countP Char.isDigit :=
  List.countP_eq_length_filter.symm

theorem redact_number (hp : p ≠ .email) (h : p.Accepts s) :
    redact p s = .ok (p.stars ++ String.ofList (lastDigits s)) := by
  cases p with
  | ssn | phone | creditCard =>
      simp only [redact, length_digits]
      exact if_pos h
  | email => exact absurd rfl hp

theorem redact_of_not_accepts (h : ¬ p.Accepts s) : ∃ e, redact p s = .error e := by
  cases p with
  | ssn | phone | creditCard =>
      simp only [redact, length_digits]
      exact ⟨_, if_neg h⟩
  | email => exact redactEmail_of_none h

/-- A redaction shortens an address, shows the end of a number, or refuses the text. -/
theorem redact_cases (p : MaskPattern) (s : String) :
    (p = .email ∧ ∃ first rest domain, Address s (first :: rest) domain ∧
      redact p s = .ok (shortened first domain)) ∨
    (p ≠ .email ∧ p.Accepts s ∧ redact p s = .ok (p.stars ++ String.ofList (lastDigits s))) ∨
    (¬ p.Accepts s ∧ ∃ e, redact p s = .error e) := by
  by_cases h : p.Accepts s
  · by_cases hp : p = .email
    · subst hp
      obtain ⟨name, domain, haddress⟩ := h
      obtain ⟨first, rest, rfl⟩ := List.exists_cons_of_ne_nil haddress.name_ne_nil
      exact Or.inl ⟨rfl, first, rest, domain, haddress, redact_address haddress⟩
    · exact Or.inr (Or.inl ⟨hp, h, redact_number hp h⟩)
  · exact Or.inr (Or.inr ⟨h, redact_of_not_accepts h⟩)

theorem exists_redact_of_accepts (h : p.Accepts s) : ∃ t, redact p s = .ok t := by
  rcases redact_cases p s with ⟨-, first, rest, domain, -, hok⟩ | ⟨-, -, hok⟩ | ⟨hrefused, -⟩
  · exact ⟨_, hok⟩
  · exact ⟨_, hok⟩
  · exact absurd h hrefused

theorem isOk_redact_iff : (redact p s).isOk = true ↔ p.Accepts s := by
  constructor
  · intro hok
    by_contra h
    obtain ⟨e, herror⟩ := redact_of_not_accepts h
    rw [herror] at hok
    cases hok
  · intro h
    obtain ⟨t, hok⟩ := exists_redact_of_accepts h
    rw [hok]
    rfl

instance (p : MaskPattern) : DecidablePred p.Accepts := fun _ => decidable_of_iff _ isOk_redact_iff

/-! ## What is left is looked at again -/

theorem toList_shortened (first : Char) (domain : List Char) :
    (shortened first domain).toList = [first, '*', '*', '*'] ++ '@' :: domain :=
  String.toList_ofList

/-- The first character of a name is no `@`, and so what is left of an address is one. -/
theorem address_shortened (h : Address s (first :: rest) domain) :
    Address (shortened first domain) [first, '*', '*', '*'] domain where
  text := toList_shortened first domain
  name_ne_nil := List.cons_ne_nil _ _
  domain_ne_nil := h.domain_ne_nil
  name_free := by
    have hfirst : '@' ≠ first := fun heq => h.name_free (heq ▸ List.mem_cons_self)
    simp [hfirst]
  domain_free := h.domain_free

theorem length_lastDigits (hp : p ≠ .email) (h : p.Accepts s) : (lastDigits s).length = 4 := by
  have hcount : 4 ≤ s.toList.countP Char.isDigit := by
    cases p with
    | ssn | phone | creditCard => simp only [MaskPattern.Accepts] at h; omega
    | email => exact absurd rfl hp
  rw [List.countP_eq_length_filter] at hcount
  rw [lastDigits, List.rtake, List.length_drop]
  omega

theorem isDigit_of_mem_lastDigits {c : Char} (h : c ∈ lastDigits s) : c.isDigit = true :=
  (List.mem_filter.mp (List.mem_of_mem_drop h)).2

theorem countP_stars (p : MaskPattern) : p.stars.toList.countP Char.isDigit = 0 := by
  cases p <;> decide

/-- What is left of a number has four digits, and no pattern accepts so few. -/
theorem not_accepts_shown (hp : p ≠ .email) (h : p.Accepts s) (hq : q ≠ .email) :
    ¬ q.Accepts (p.stars ++ String.ofList (lastDigits s)) := by
  have hcount : (p.stars ++ String.ofList (lastDigits s)).toList.countP Char.isDigit = 4 := by
    rw [String.toList_append, List.countP_append, countP_stars, String.toList_ofList,
      List.countP_eq_length.mpr fun _ => isDigit_of_mem_lastDigits, length_lastDigits hp h]
  intro haccepts
  cases q with
  | ssn | phone | creditCard => simp only [MaskPattern.Accepts, hcount] at haccepts; omega
  | email => exact hq rfl

end Masking

/-! ## Texts that come back -/

namespace MaskStrategy

theorem apply_redact_of_not_accepts {v : Value} {s : String} (hv : v.Spells s) {p : MaskPattern}
    (h : ¬ p.Accepts s) : (redact p).apply v = .null := by
  obtain ⟨e, herror⟩ := Masking.redact_of_not_accepts h
  exact apply_redact_of_error hv herror

/-- A redaction gives back no text as it is but an address whose name is one character and three
stars, and an address only to the pattern of addresses. -/
theorem apply_redact_eq_self_iff (p : MaskPattern) (s : String) :
    (redact p).apply (.string s) = .string s ↔
      p = .email ∧ ∃ first domain, Masking.Address s [first, '*', '*', '*'] domain := by
  constructor
  · intro h
    rcases Masking.redact_cases p s with ⟨hp, first, rest, domain, haddress, hok⟩ |
      ⟨hp, haccepts, hok⟩ | ⟨hrefused, -⟩
    · rw [apply_redact_of_ok (.string s) hok, Value.string.injEq] at h
      exact ⟨hp, first, domain, h ▸ Masking.address_shortened haddress⟩
    · -- a number that came back would be accepted with its four digits
      rw [apply_redact_of_ok (.string s) hok, Value.string.injEq] at h
      exact absurd haccepts (h ▸ Masking.not_accepts_shown hp haccepts hp)
    · rw [apply_redact_of_not_accepts (.string s) hrefused] at h
      cases h
  · rintro ⟨rfl, first, domain, haddress⟩
    have hsame : Masking.shortened first domain = s :=
      String.toList_injective ((Masking.toList_shortened first domain).trans haddress.text.symm)
    rw [apply_redact_of_ok (.string s) (Masking.redact_address haddress), hsame]

/-- An address that is redacted already is not hidden. -/
theorem apply_redact_starred :
    (redact .email).apply (.string "a***@example.com") = .string "a***@example.com" :=
  rfl

end MaskStrategy

end RowAccess
