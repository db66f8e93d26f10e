/-!
# Blank text

The characters that count as white space, and the two questions the rest of the
library asks about them: what is left of a text once the white space around it is
gone, and whether anything is left at all.
-/

namespace RowAccess.Text

/-- The Unicode property White_Space. -/
def isBlank (c : Char) : Bool :=
  let n := c.toNat
  (9 ≤ n && n ≤ 13) || n == 0x20 || n == 0x85 || n == 0xA0 || n == 0x1680 ||
    (0x2000 ≤ n && n ≤ 0x200A) || n == 0x2028 || n == 0x2029 || n == 0x202F ||
    n == 0x205F || n == 0x3000

def trimStart (cs : List Char) : List Char := cs.dropWhile isBlank

/-- No character of the text is visible. -/
def blank (s : String) : Bool := s.toList.all isBlank

theorem trimStart_eq_nil_iff {cs : List Char} : trimStart cs = [] ↔ cs.all isBlank = true := by
  induction cs with
  | nil => simp [trimStart]
  | cons c rest ih =>
    simp only [trimStart, List.dropWhile_cons, List.all_cons, Bool.and_eq_true] at ih ⊢
    split
    · next h => simp [h, ih]
    · next h => simp [h]

end RowAccess.Text
