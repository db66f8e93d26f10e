import RowAccess.Proofs.Redaction

/-!
# What a mask discloses

Two values that a mask has turned into the same text cannot be told apart
any more. For a redaction these are the values with the same last four
digits, or the same first character and domain (`MaskPattern.Alike`); for
a truncation, the ones that agree in the characters that are kept.
`apply_discloses` has both directions, so that a mask shows this much and
no more, and says what becomes of the values that it does not fit.

The digits of a number are counted and cut off in bytes. A digit is one
byte long, and so is a hexadecimal one: every cut is made between two
characters, inside the text (`Text.Slice`).
-/

namespace RowAccess

/-! ## Parts of a text, in bytes -/

namespace Text

/-- The part of a text from one byte on up to another one; both are in the text and between two
characters. -/
structure Slice (s : String) (start stop : Nat) (part : String) : Prop where
  ordered : start ≤ stop
  opens : String.Pos.Raw.IsValid s ⟨start⟩
  closes : String.Pos.Raw.IsValid s ⟨stop⟩
  bytes : s.toByteArray.extract start stop = part.toByteArray

theorem slice_of_append (front part back : String) :
    Slice (front ++ part ++ back) front.utf8ByteSize (front ++ part).utf8ByteSize part where
  ordered := String.utf8ByteSize_append ▸ Nat.le_add_right _ _
  opens := String.Pos.Raw.isValid_iff_exists_append.mpr
    ⟨front, part ++ back, String.append_assoc, rfl⟩
  closes := String.Pos.Raw.isValid_iff_exists_append.mpr ⟨front ++ part, back, rfl, rfl⟩
  bytes := by
    have hfront : front.utf8ByteSize - (front ++ part).utf8ByteSize = 0 := by
      rw [String.utf8ByteSize_append]
      omega
    rw [String.toByteArray_append, ByteArray.extract_append, String.size_toByteArray, hfront,
      Nat.sub_self, ByteArray.extract_same, ByteArray.append_empty, String.toByteArray_append]
    refine ByteArray.extract_append_eq_right String.size_toByteArray.symm ?_
    rw [String.utf8ByteSize_append, String.size_toByteArray, String.size_toByteArray]

theorem utf8ByteSize_of_ascii {cs : List Char} (h : ∀ c ∈ cs, c.utf8Size = 1) :
    (String.ofList cs).utf8ByteSize = cs.length := by
  induction cs with
  | nil => rfl
  | cons c rest ih =>
      rw [String.ofList_cons, String.utf8ByteSize_append, String.utf8ByteSize_singleton,
        h c List.mem_cons_self, ih fun d hd => h d (List.mem_cons_of_mem _ hd), List.length_cons,
        Nat.add_comm]

/-- Where every character is one byte long, bytes are counted as characters are. -/
theorem slice_of_ascii {cs front part back : List Char} (h : ∀ c ∈ cs, c.utf8Size = 1)
    (hsplit : cs = front ++ part ++ back) :
    Slice (String.ofList cs) front.length (front ++ part).length (String.ofList part) := by
  subst hsplit
  have hpart : ∀ c ∈ front ++ part, c.utf8Size = 1 := fun c hc => h c (List.mem_append_left _ hc)
  have hfront : ∀ c ∈ front, c.utf8Size = 1 := fun c hc => hpart c (List.mem_append_left _ hc)
  have hslice := slice_of_append (String.ofList front) (String.ofList part) (String.ofList back)
  rwa [← String.ofList_append, ← String.ofList_append, utf8ByteSize_of_ascii hfront,
    utf8ByteSize_of_ascii hpart] at hslice

theorem utf8Size_hexDigit (n : Nat) : (hexDigit n).utf8Size = 1 := by
  have hdigits : ("0123456789abcdef".toList.all fun c => c.utf8Size == 1) = true := by decide
  unfold hexDigit
  rw [List.getD_eq_getElem?_getD]
  cases hget : "0123456789abcdef".toList[n]? with
  | none => rfl
  | some c => exact beq_iff_eq.mp (List.all_eq_true.mp hdigits c (List.mem_of_getElem? hget))

theorem utf8Size_of_mem_hexChars {bytes : List UInt8} {c : Char} (h : c ∈ hexChars bytes) :
    c.utf8Size = 1 := by
  obtain ⟨b, -, hc⟩ := List.mem_flatMap.mp h
  simp only [hexPair, List.mem_cons, List.not_mem_nil, or_false] at hc
  rcases hc with rfl | rfl <;> exact utf8Size_hexDigit _

/-- Two digits for each of the first bytes. -/
theorem slice_hex_take {bytes : List UInt8} {n : Nat} (h : n ≤ bytes.length) :
    Slice (hex bytes) 0 (2 * n) (hex (bytes.take n)) := by
  have hsplit : hexChars bytes = [] ++ hexChars (bytes.take n) ++ hexChars (bytes.drop n) := by
    rw [List.nil_append, hexChars, hexChars, hexChars, ← List.flatMap_append,
      List.take_append_drop]
  have hslice := slice_of_ascii (fun _ => utf8Size_of_mem_hexChars) hsplit
  rwa [List.nil_append, length_hexChars, List.length_take, Nat.min_eq_left h] at hslice

end Text

/-! ## Values with the same mask -/

/-- The texts agree in what the pattern shows of them. -/
def MaskPattern.Alike (p : MaskPattern) (s t : String) : Prop :=
  match p with
  | .email => ∃ first rest rest' domain,
      Masking.Address s (first :: rest) domain ∧ Masking.Address t (first :: rest') domain
  | _ => Masking.lastDigits s = Masking.lastDigits t

namespace Masking

variable {p : MaskPattern} {s t : String}

theorem shortened_inj {first first' : Char} {domain domain' : List Char} :
    shortened first domain = shortened first' domain' ↔ first = first' ∧ domain = domain' := by
  rw [← String.toList_inj, toList_shortened, toList_shortened]
  simp

theorem redact_eq_iff (hs : p.Accepts s) (ht : p.Accepts t) :
    redact p s = redact p t ↔ p.Alike s t := by
  by_cases hp : p = .email
  · subst hp
    constructor
    · intro h
      obtain ⟨name, domain, haddress⟩ := hs
      obtain ⟨name', domain', haddress'⟩ := ht
      obtain ⟨first, rest, rfl⟩ := List.exists_cons_of_ne_nil haddress.name_ne_nil
      obtain ⟨first', rest', rfl⟩ := List.exists_cons_of_ne_nil haddress'.name_ne_nil
      rw [redact_address haddress, redact_address haddress', Except.ok.injEq, shortened_inj] at h
      obtain ⟨rfl, rfl⟩ := h
      exact ⟨first, rest, rest', domain, haddress, haddress'⟩
    · rintro ⟨first, rest, rest', domain, haddress, haddress'⟩
      rw [redact_address haddress, redact_address haddress']
  · have halike : p.Alike s t ↔ lastDigits s = lastDigits t := by
      cases p with
      | ssn | phone | creditCard => exact Iff.rfl
      | email => exact absurd rfl hp
    rw [redact_number hp hs, redact_number hp ht, halike, Except.ok.injEq, String.append_right_inj,
      String.ofList_inj]

theorem utf8Size_of_mem_digits {c : Char} (h : c ∈ digits s) : c.utf8Size = 1 := by
  have hdigit : c.isDigit = true := (List.mem_filter.mp h).2
  rw [Char.utf8Size_eq_one_iff]
  simp only [Char.isDigit, Bool.and_eq_true, decide_eq_true_eq] at hdigit
  exact UInt32.le_trans hdigit.2 (by decide)

/-- The digits that are shown are cut off the end of all digits. -/
theorem slice_lastDigits (hp : p ≠ .email) (h : p.Accepts s) :
    ∃ start, start + 4 = s.toList.countP Char.isDigit ∧
      Text.Slice (String.ofList (digits s)) start (s.toList.countP Char.isDigit)
        (String.ofList (lastDigits s)) := by
  have hsplit : digits s = (digits s).rdrop 4 ++ lastDigits s := (List.take_append_drop _ _).symm
  have hcount : ((digits s).rdrop 4 ++ lastDigits s).length = s.toList.countP Char.isDigit := by
    rw [← hsplit, length_digits]
  refine ⟨((digits s).rdrop 4).length, ?_, ?_⟩
  · rw [← hcount, List.length_append, length_lastDigits hp h]
  · rw [← hcount]
    -- nothing stands behind the last digit
    exact Text.slice_of_ascii (fun _ => utf8Size_of_mem_digits)
      (hsplit.trans (List.append_nil _).symm)

theorem slice_token (s : String) :
    ∃ part, Text.Slice (Text.hex (Digest.Blake3.digest (Text.utf8 s))) 0 16 part ∧
      token s = "tok_" ++ part := by
  have hlength : 8 ≤ (Digest.Blake3.digest (Text.utf8 s)).length := by
    rw [Digest.Blake3.length_digest]
    decide
  exact ⟨_, Text.slice_hex_take hlength, rfl⟩

theorem truncate_of_le {n : Nat} (h : s.length ≤ n) : truncate n s = s :=
  if_pos (String.length_toList.trans_le h)

theorem toList_truncate_of_lt {n : Nat} (h : n < s.length) :
    (truncate n s).toList = s.toList.take n ++ "...".toList := by
  have hlong : ¬ s.toList.length ≤ n := by
    rw [String.length_toList]
    omega
  rw [truncate, if_neg hlong, String.toList_ofList]

theorem truncate_eq_iff {n : Nat} (hs : n < s.length) (ht : n < t.length) :
    truncate n s = truncate n t ↔ s.toList.take n = t.toList.take n := by
  rw [← String.toList_inj, toList_truncate_of_lt hs, toList_truncate_of_lt ht,
    List.append_cancel_right_eq]

end Masking

namespace MaskStrategy

/-- What is left of a value under a mask. A redaction makes a text of a text that its pattern
accepts, and null of every other one; two accepted texts come out the same exactly if they have
the last four digits in common, or the first character and the domain. A truncation makes two
texts the same that are longer than what it keeps exactly if they agree in what is kept. A number
counts as its decimal text; of a truth value, an array, an object or null no mask but a constant
makes anything but null. The digits of a number are as many bytes as characters, and the four of
them that are shown are cut off between two characters, as is the front of a digest for a token. -/
theorem apply_discloses :
    (∀ (p : MaskPattern) (v : Value) (s : String), v.Spells s →
      ((∃ text, (redact p).apply v = .string text) ↔ p.Accepts s) ∧
      (¬ p.Accepts s → (redact p).apply v = .null) ∧
      ∀ (w : Value) (t : String), w.Spells t → p.Accepts s → p.Accepts t →
        ((redact p).apply v = (redact p).apply w ↔ p.Alike s t)) ∧
    (∀ (n : Nat) (v w : Value) (s t : String), v.Spells s → w.Spells t →
      n < s.length → n < t.length →
        ((truncate n).apply v = (truncate n).apply w ↔ s.toList.take n = t.toList.take n)) ∧
    (∀ (m : MaskStrategy) (v : Value), (∀ s, ¬ v.Spells s) → (∀ text, m ≠ constant text) →
      m.apply v = .null) ∧
    (∀ (p : MaskPattern) (s : String), p ≠ .email → p.Accepts s →
      let count := s.toList.countP Char.isDigit
      let found := String.ofList (Masking.digits s)
      found.utf8ByteSize = count ∧ ∃ start part, start + 4 = count ∧
        Text.Slice found start count part ∧ Masking.redact p s = .ok (p.stars ++ part)) ∧
    (∀ s, ∃ part, Text.Slice (Text.hex (Digest.Blake3.digest (Text.utf8 s))) 0 16 part ∧
      Masking.token s = "tok_" ++ part) := by
  refine ⟨fun p v s hv => ⟨?_, ?_, ?_⟩, ?_, fun m v h hm => apply_of_wordless h hm, ?_,
    Masking.slice_token⟩
  · constructor
    · rintro ⟨text, htext⟩
      by_contra hrefused
      rw [apply_redact_of_not_accepts hv hrefused] at htext
      cases htext
    · intro haccepts
      obtain ⟨text, hok⟩ := Masking.exists_redact_of_accepts haccepts
      exact ⟨text, apply_redact_of_ok hv hok⟩
  · exact apply_redact_of_not_accepts hv
  · intro w t hw hs ht
    obtain ⟨text, hok⟩ := Masking.exists_redact_of_accepts hs
    obtain ⟨text', hok'⟩ := Masking.exists_redact_of_accepts ht
    rw [← Masking.redact_eq_iff hs ht, apply_redact_of_ok hv hok, apply_redact_of_ok hw hok', hok,
      hok', Value.string.injEq, Except.ok.injEq]
  · intro n v w s t hv hw hs ht
    rw [apply_truncate hv, apply_truncate hw, Value.string.injEq, Masking.truncate_eq_iff hs ht]
  · intro p s hp haccepts count found
    obtain ⟨start, hstart, hslice⟩ := Masking.slice_lastDigits hp haccepts
    refine ⟨?_, start, _, hstart, hslice, Masking.redact_number hp haccepts⟩
    rw [Text.utf8ByteSize_of_ascii fun c => Masking.utf8Size_of_mem_digits, Masking.length_digits]

/-- A number and a text with the same end, two addresses with the same first letter, and two texts
that begin alike become the same; a number that is too short and a truth value become null. -/
theorem apply_discloses_alike :
    MaskPattern.ssn.Accepts "123456789" ∧ MaskPattern.ssn.Accepts "000 00 6789" ∧
    (redact .ssn).apply (.number (.integer 123456789)) =
      (redact .ssn).apply (.string "000 00 6789") ∧
    (redact .email).apply (.string "jane@a.org") = (redact .email).apply (.string "j@a.org") ∧
    ¬ MaskPattern.phone.Accepts "555-4567" ∧
    (redact .phone).apply (.string "555-4567") = .null ∧
    (truncate 2).apply (.number (.integer 12345)) = (truncate 2).apply (.string "12999") ∧
    hash.apply (.bool true) = .null ∧
    ∃ part, Text.Slice (String.ofList (Masking.digits "000 00 6789")) 5 9 part ∧
      Masking.redact .ssn "000 00 6789" = .ok ("***-**-" ++ part) := by
  obtain ⟨hredact, htruncate, hwordless, hslice, -⟩ := apply_discloses
  have hnumber : Value.Spells (.number (.integer 123456789)) "123456789" := .number _
  have hspaced : MaskPattern.ssn.Accepts "000 00 6789" := by decide
  have hplain : MaskPattern.ssn.Accepts "123456789" := by decide
  have hjane : Masking.Address "jane@a.org" ['j', 'a', 'n', 'e'] "a.org".toList :=
    ⟨rfl, by decide, by decide, by decide, by decide⟩
  have hj : Masking.Address "j@a.org" ['j'] "a.org".toList :=
    ⟨rfl, by decide, by decide, by decide, by decide⟩
  have hshort : ¬ MaskPattern.phone.Accepts "555-4567" := by decide
  have hsame : MaskPattern.ssn.Alike "123456789" "000 00 6789" := by
    show Masking.lastDigits _ = Masking.lastDigits _
    decide
  have hcut : Value.Spells (.number (.integer 12345)) "12345" := .number _
  have hfront : "12345".toList.take 2 = "12999".toList.take 2 := by decide
  obtain ⟨-, start, part, hstart, hpart, hok⟩ := hslice .ssn "000 00 6789" (by decide) hspaced
  obtain rfl : start = 5 := Nat.add_right_cancel hstart
  exact ⟨hplain, hspaced,
    ((hredact .ssn _ _ hnumber).2.2 _ _ (.string _) hplain hspaced).mpr hsame,
    ((hredact .email _ _ (.string _)).2.2 _ _ (.string _) ⟨_, _, hjane⟩ ⟨_, _, hj⟩).mpr
      ⟨_, _, _, _, hjane, hj⟩,
    hshort, (hredact .phone _ _ (.string _)).2.1 hshort,
    (htruncate 2 _ _ _ _ hcut (.string _) (by decide) (by decide)).mpr hfront,
    hwordless hash _ (by rintro _ ⟨⟩) (by simp), part, hpart, hok⟩

end MaskStrategy

end RowAccess
