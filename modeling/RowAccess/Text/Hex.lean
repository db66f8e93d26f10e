import RowAccess.Text.Quoted

/-!
# Bytes and hexadecimal text

The bytes of a text and the hexadecimal text of bytes: two lower-case digits a byte, the
high half first.
-/

namespace RowAccess.Text

def utf8 (s : String) : List UInt8 := s.toUTF8.data.toList

def hexPair (b : UInt8) : List Char := [hexDigit (b.toNat / 16), hexDigit (b.toNat % 16)]

def hexChars (bytes : List UInt8) : List Char := bytes.flatMap hexPair

def hex (bytes : List UInt8) : String := String.ofList (hexChars bytes)

@[simp] theorem length_hexChars (bytes : List UInt8) :
    (hexChars bytes).length = 2 * bytes.length := by
  induction bytes with
  | nil => rfl
  | cons b rest ih =>
    simp only [hexChars, List.flatMap_cons, List.length_append, List.length_cons] at ih ⊢
    simp only [hexPair, List.length_cons, List.length_nil]
    omega

end RowAccess.Text
