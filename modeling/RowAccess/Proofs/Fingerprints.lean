import RowAccess.Proofs.Disclosure

/-!
# Fingerprints of values

A hash and a token stand for a value without showing it: equal texts have
equal ones, so that rows can still be told apart and joined. Both are
digests in hexadecimal, a hash the whole SHA-256 digest, a token the
first eight bytes of the BLAKE3 digest.

`Text.bytes?` reads hexadecimal text back, by the codes of its characters
and not through the table that `Text.hex` writes with. What `Text.hex`
writes is read as the bytes it was made of (`bytes?_hexChars`), for
digests of every length, so no two lists of bytes share a text.
`apply_fingerprints`: what the two masks write decodes to the digests,
and two values agree under them exactly if their digests do.
-/

namespace RowAccess

/-! ## Reading hexadecimal text -/

namespace Text

/-- A digit, or one of the letters from `a` to `f`; no capital ones. -/
def IsHexDigit (c : Char) : Prop := ('0' ≤ c ∧ c ≤ '9') ∨ ('a' ≤ c ∧ c ≤ 'f')

instance (c : Char) : Decidable (IsHexDigit c) := inferInstanceAs (Decidable (_ ∨ _))

/-- The number that a hexadecimal digit stands for. -/
def hexValue? (c : Char) : Option Nat :=
  if '0' ≤ c ∧ c ≤ '9' then some (c.toNat - '0'.toNat)
  else if 'a' ≤ c ∧ c ≤ 'f' then some (c.toNat - 'a'.toNat + 10)
  else none

/-- The bytes that hexadecimal digits stand for, two digits a byte and the high half first. -/
def bytes? : List Char → Option (List UInt8)
  | [] => some []
  | [_] => none
  | high :: low :: rest => do
    let h ← hexValue? high
    let l ← hexValue? low
    let bytes ← bytes? rest
    return UInt8.ofNat (16 * h + l) :: bytes

/-- The text consists of `size` hexadecimal digits, and they stand for the bytes. -/
structure Encodes (text : String) (size : Nat) (bytes : List UInt8) : Prop where
  length : text.length = size
  digits : ∀ c ∈ text.toList, IsHexDigit c
  decodes : bytes? text.toList = some bytes

variable {text text' : String} {size : Nat} {bytes bytes' : List UInt8}

theorem hexValue?_hexDigit : ∀ n < 16, hexValue? (hexDigit n) = some n := by decide

theorem isHexDigit_hexDigit : ∀ n < 16, IsHexDigit (hexDigit n) := by decide

theorem high_lt (b : UInt8) : b.toNat / 16 < 16 := by
  have hb : b.toNat < 256 := b.toNat_lt
  omega

theorem low_lt (b : UInt8) : b.toNat % 16 < 16 := Nat.mod_lt _ (by decide)

theorem hexChars_cons (b : UInt8) (rest : List UInt8) :
    hexChars (b :: rest) =
      hexDigit (b.toNat / 16) :: hexDigit (b.toNat % 16) :: hexChars rest := rfl

theorem bytes?_hexChars (bytes : List UInt8) : bytes? (hexChars bytes) = some bytes := by
  induction bytes with
  | nil => rfl
  | cons b rest ih =>
      have hbyte : UInt8.ofNat (16 * (b.toNat / 16) + b.toNat % 16) = b := by
        rw [Nat.div_add_mod, UInt8.ofNat_toNat]
      rw [hexChars_cons, bytes?, hexValue?_hexDigit _ (high_lt b), hexValue?_hexDigit _ (low_lt b),
        ih]
      exact congrArg (fun byte => some (byte :: rest)) hbyte

theorem isHexDigit_of_mem_hexChars {c : Char} (h : c ∈ hexChars bytes) : IsHexDigit c := by
  obtain ⟨b, -, hc⟩ := List.mem_flatMap.mp h
  simp only [hexPair, List.mem_cons, List.not_mem_nil, or_false] at hc
  rcases hc with rfl | rfl
  · exact isHexDigit_hexDigit _ (high_lt b)
  · exact isHexDigit_hexDigit _ (low_lt b)

theorem encodes_hex (bytes : List UInt8) : Encodes (hex bytes) (2 * bytes.length) bytes where
  length := by rw [hex, String.length_ofList, length_hexChars]
  digits := by
    intro c hc
    rw [hex, String.toList_ofList] at hc
    exact isHexDigit_of_mem_hexChars hc
  decodes := by rw [hex, String.toList_ofList, bytes?_hexChars]

theorem hex_inj : hex bytes = hex bytes' ↔ bytes = bytes' := by
  constructor
  · intro h
    have hdecodes : some bytes = some bytes' := by
      rw [← (encodes_hex bytes).decodes, h, (encodes_hex bytes').decodes]
    exact Option.some.inj hdecodes
  · rintro rfl
    rfl

end Text

/-! ## Digests of texts -/

namespace Masking

variable {s t : String}

/-- The front of a digest that a token shows. -/
def tokenBytes (s : String) : List UInt8 := (Digest.Blake3.digest (Text.utf8 s)).take 8

theorem length_tokenBytes (s : String) : (tokenBytes s).length = 8 := by
  rw [tokenBytes, List.length_take, Digest.Blake3.length_digest]
  rfl

theorem encodes_hash (s : String) :
    Text.Encodes (hash s) 64 (Digest.Sha256.digest (Text.utf8 s)) := by
  have h := Text.encodes_hex (Digest.Sha256.digest (Text.utf8 s))
  rwa [Digest.Sha256.length_digest] at h

example :
    hash "hello" = "2cf24dba5fb0a30e26e83b2ac5b9e29e1b161e5c1fa7425e73043362938b9824" := by
  decide +kernel

theorem token_eq (s : String) : token s = "tok_" ++ Text.hex (tokenBytes s) := rfl

theorem encodes_token (s : String) : Text.Encodes (Text.hex (tokenBytes s)) 16 (tokenBytes s) := by
  have h := Text.encodes_hex (tokenBytes s)
  rwa [length_tokenBytes] at h

example : token "" = "tok_af1349b9f5f9a1a6" := by decide +kernel

theorem hash_eq_iff :
    hash s = hash t ↔ Digest.Sha256.digest (Text.utf8 s) = Digest.Sha256.digest (Text.utf8 t) :=
  Text.hex_inj

theorem token_eq_iff : token s = token t ↔ tokenBytes s = tokenBytes t := by
  rw [token_eq, token_eq, String.append_right_inj, Text.hex_inj]

end Masking

namespace MaskStrategy

variable {v w : Value} {a b : String}

theorem apply_hash (h : v.Spells a) : hash.apply v = .string (Masking.hash a) := by
  cases h <;> rfl

theorem apply_tokenize (h : v.Spells a) : tokenize.apply v = .string (Masking.token a) := by
  cases h <;> rfl

/-- The hash of a text, or of the text of a number, is sixty-four hexadecimal digits that stand
for its SHA-256 digest. A token is `tok_` and sixteen such digits that stand for the first eight
bytes of the BLAKE3 digest. So two values have the same hash exactly if their SHA-256 digests are
the same, and the same token exactly if the first eight bytes of their BLAKE3 digests are. -/
theorem apply_fingerprints (hv : v.Spells a) (hw : w.Spells b) :
    (∃ text, hash.apply v = .string text ∧
      Text.Encodes text 64 (Digest.Sha256.digest (Text.utf8 a))) ∧
    (∃ text, tokenize.apply v = .string ("tok_" ++ text) ∧
      Text.Encodes text 16 ((Digest.Blake3.digest (Text.utf8 a)).take 8)) ∧
    (hash.apply v = hash.apply w ↔
      Digest.Sha256.digest (Text.utf8 a) = Digest.Sha256.digest (Text.utf8 b)) ∧
    (tokenize.apply v = tokenize.apply w ↔
      (Digest.Blake3.digest (Text.utf8 a)).take 8 =
        (Digest.Blake3.digest (Text.utf8 b)).take 8) := by
  refine ⟨⟨_, apply_hash hv, Masking.encodes_hash a⟩,
    ⟨_, apply_tokenize hv, Masking.encodes_token a⟩, ?_, ?_⟩
  · rw [apply_hash hv, apply_hash hw, Value.string.injEq, Masking.hash_eq_iff]
  · rw [apply_tokenize hv, apply_tokenize hw, Value.string.injEq, Masking.token_eq_iff]
    exact Iff.rfl

/-- A number and its text cannot be told apart, two numbers can. -/
theorem apply_fingerprints_room :
    Value.Spells (.number (.integer 42)) "42" ∧ Value.Spells (.string "43") "43" ∧
    (∃ text, hash.apply (.number (.integer 42)) = .string text ∧
      Text.Encodes text 64 (Digest.Sha256.digest (Text.utf8 "42"))) ∧
    (∃ text, tokenize.apply (.number (.integer 42)) = .string ("tok_" ++ text) ∧
      Text.Encodes text 16 ((Digest.Blake3.digest (Text.utf8 "42")).take 8)) ∧
    hash.apply (.number (.integer 42)) = hash.apply (.string "42") ∧
    hash.apply (.number (.integer 42)) ≠ hash.apply (.string "43") ∧
    tokenize.apply (.number (.integer 42)) ≠ tokenize.apply (.string "43") := by
  have hnumber : Value.Spells (.number (.integer 42)) "42" := .number _
  obtain ⟨-, -, hsame, -⟩ := apply_fingerprints hnumber (.string "42")
  obtain ⟨hhash, htoken, hhashes, htokens⟩ := apply_fingerprints hnumber (.string "43")
  refine ⟨hnumber, .string _, hhash, htoken, hsame.mpr rfl, fun h => ?_, fun h => ?_⟩
  · have hdigests : Digest.Sha256.digest (Text.utf8 "42") ≠ Digest.Sha256.digest (Text.utf8 "43") :=
      by decide +kernel
    exact hdigests (hhashes.mp h)
  · have hdigests : (Digest.Blake3.digest (Text.utf8 "42")).take 8 ≠
        (Digest.Blake3.digest (Text.utf8 "43")).take 8 := by decide +kernel
    exact hdigests (htokens.mp h)

end MaskStrategy

end RowAccess
