import RowAccess.Proofs.Disclosure

/-!
# Masks on masked values

A masked value may pass another mask on its way. The dots behind a
truncated text make it longer than what is kept, so it is truncated to
itself; a shortened address is an address with the same first character
and domain; the four digits that are left of a number are too few for any
pattern. `apply_twice`: a second round changes nothing, or leaves nothing.
-/

namespace RowAccess

namespace Masking

variable {s : String}

theorem truncate_truncate (n : Nat) (s : String) : truncate n (truncate n s) = truncate n s := by
  by_cases h : s.length ≤ n
  · rw [truncate_of_le h, truncate_of_le h]
  · have hlong : n < s.length := Nat.lt_of_not_le h
    have hkept : (s.toList.take n).length = n := by
      rw [List.length_take, String.length_toList]
      omega
    have hdotted : n < (truncate n s).length := by
      rw [← String.length_toList, toList_truncate_of_lt hlong, List.length_append, hkept]
      exact Nat.lt_add_of_pos_right (by decide)
    rw [truncate_eq_iff hdotted hlong, toList_truncate_of_lt hlong, List.take_left' hkept]

end Masking

namespace MaskStrategy

/-- A second round changes nothing. -/
def Settles (m : MaskStrategy) : Prop := ∀ v, m.apply (m.apply v) = m.apply v

theorem apply_null {m : MaskStrategy} (hm : ∀ text, m ≠ constant text) : m.apply .null = .null :=
  apply_of_wordless (by rintro _ ⟨⟩) hm

/-- Null stays null, so it is enough to look at values with a text. -/
theorem settles_of_spells {m : MaskStrategy} (hm : ∀ text, m ≠ constant text)
    (h : ∀ v s, v.Spells s → m.apply (m.apply v) = m.apply v) : m.Settles := by
  intro v
  by_cases hv : ∃ s, v.Spells s
  · obtain ⟨s, hs⟩ := hv
    exact h v s hs
  · rw [apply_of_wordless (not_exists.mp hv) hm, apply_null hm]

theorem settles_truncate (n : Nat) : (truncate n).Settles := by
  refine settles_of_spells (by simp) fun v s hv => ?_
  rw [apply_truncate hv, apply_truncate (.string _), Masking.truncate_truncate]

theorem settles_email : (redact .email).Settles := by
  refine settles_of_spells (by simp) fun v s hv => ?_
  rcases Masking.redact_cases .email s with ⟨-, first, rest, domain, haddress, hok⟩ | ⟨hp, -⟩ |
    ⟨hrefused, -⟩
  · rw [apply_redact_of_ok hv hok, apply_redact_of_ok (.string _)
      (Masking.redact_address (Masking.address_shortened haddress))]
  · exact absurd rfl hp
  · rw [apply_redact_of_not_accepts hv hrefused, apply_null (by simp)]

theorem settles_constant (text : String) : (constant text).Settles := fun _ => rfl

theorem settles_null : null.Settles := fun _ => rfl

theorem apply_redact_redact {p q : MaskPattern} (hp : p ≠ .email) (hq : q ≠ .email) (v : Value) :
    (redact q).apply ((redact p).apply v) = .null := by
  by_cases hv : ∃ s, v.Spells s
  · obtain ⟨s, hs⟩ := hv
    by_cases haccepts : p.Accepts s
    · rw [apply_redact_of_ok hs (Masking.redact_number hp haccepts),
        apply_redact_of_not_accepts (.string _) (Masking.not_accepts_shown hp haccepts hq)]
    · rw [apply_redact_of_not_accepts hs haccepts, apply_null (by simp)]
  · rw [apply_of_wordless (not_exists.mp hv) (by simp), apply_null (by simp)]

/-- A truncation, the redaction of addresses, a constant and null change nothing about what they
have masked. The redactions of numbers make null of it, each one of what any of them has left. -/
theorem apply_twice :
    (∀ n, (truncate n).Settles) ∧ (redact .email).Settles ∧
    (∀ text, (constant text).Settles) ∧ null.Settles ∧
    (∀ (p q : MaskPattern) (v : Value), p ≠ .email → q ≠ .email →
      (redact q).apply ((redact p).apply v) = .null) :=
  ⟨settles_truncate, settles_email, settles_constant, settles_null,
    fun _ _ v hp hq => apply_redact_redact hp hq v⟩

/-- The end of a card number is shown once, and no longer if it is masked as a phone number. -/
theorem apply_twice_card :
    (redact .creditCard).apply (.string "4111 1111 1111 1234") = .string "****-****-****-1234" ∧
    MaskPattern.creditCard ≠ .email ∧ MaskPattern.phone ≠ .email ∧
    (redact .phone).apply ((redact .creditCard).apply (.string "4111 1111 1111 1234")) = .null ∧
    (truncate 1).apply ((truncate 1).apply (.string "secret")) = .string "s..." := by
  obtain ⟨htruncate, -, -, -, hnumber⟩ := apply_twice
  exact ⟨rfl, by decide, by decide, hnumber .creditCard .phone _ (by decide) (by decide),
    (htruncate 1 _).trans rfl⟩

end MaskStrategy

end RowAccess
