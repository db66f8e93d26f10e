import RowAccess.Proofs.FloatLiterals
import RowAccess.Value.Printer
import RowAccess.Value.Reader

/-!
# Documents and their texts

A document is printed on one line, and its text is read as a document
again. Strings come back as they were, but a number is what its literal is
read as, and no more than `maxDepth` levels are read. `Value.reread?` makes
these changes on the document itself; `read?_print` says that printing and
reading do the same.

So a document comes back exactly when it `Survives`: all its numbers do, it
is not too deep, and no object in it names a field twice.
-/

namespace RowAccess

namespace Value

/-! ## Strings -/

theorem readUnit?_control : ∀ n < 32, ∀ more : List Char,
    readUnit? ('0' :: '0' :: Nat.digitChar (n / 16) :: Nat.digitChar (n % 16) :: more) =
      some (n, more) := by
  have hdigits : ∀ n < 32, hexDigit? (Nat.digitChar (n / 16)) = some (n / 16) ∧
      hexDigit? (Nat.digitChar (n % 16)) = some (n % 16) := by decide
  intro n hn more
  have hzero : hexDigit? '0' = some 0 := rfl
  simp [readUnit?, hdigits n hn, hzero]
  omega

theorem toList_controlEscape : ∀ n < 32, (controlEscape (Char.ofNat n)).toList =
    '\\' :: 'u' :: '0' :: '0' :: [Nat.digitChar (n / 16), Nat.digitChar (n % 16)] := by
  decide

theorem readStringBody?_controlEscape {c : Char} (hc : c.toNat < 32) (fuel : Nat)
    (read rest : List Char) :
    readStringBody? (fuel + 1) read ((controlEscape c).toList ++ rest) =
      readStringBody? fuel (c :: read) rest := by
  have hescape := toList_controlEscape c.toNat hc
  have hunit := readUnit?_control c.toNat hc rest
  rw [Char.ofNat_toNat] at hescape
  have hnumeric : readNumericEscape? ('0' :: '0' :: Nat.digitChar (c.toNat / 16) ::
      Nat.digitChar (c.toNat % 16) :: rest) = some (c, rest) := by
    rw [readNumericEscape?, hunit]
    have hlow : ¬ (0xDC00 ≤ c.toNat ∧ c.toNat ≤ 0xDFFF) := by omega
    have hhigh : ¬ (0xD800 ≤ c.toNat ∧ c.toNat ≤ 0xDBFF) := by omega
    simp [hlow, hhigh]
  rw [hescape]
  show readStringBody? (fuel + 1) read ('\\' :: 'u' :: '0' :: '0' :: _ :: _ :: rest) = _
  rw [readStringBody?, hnumeric]

/-- A character in a string is read as itself, whether it is escaped or not. -/
theorem readStringBody?_escapeChar (c : Char) (fuel : Nat) (read rest : List Char) :
    readStringBody? (fuel + 1) read ((escapeChar c).toList ++ rest) =
      readStringBody? fuel (c :: read) rest := by
  unfold escapeChar
  split_ifs with hquote hbackslash hnewline hreturn htab hback hfeed hcontrol
  · subst hquote; rfl
  · subst hbackslash; rfl
  · subst hnewline; rfl
  · subst hreturn; rfl
  · subst htab; rfl
  · subst hback; rfl
  · subst hfeed; rfl
  · exact readStringBody?_controlEscape hcontrol fuel read rest
  · rw [String.toList_singleton, List.singleton_append, readStringBody?]
    · rw [if_neg hcontrol]
    · exact hquote
    · exact fun _ heq _ => hbackslash heq
    · exact fun _ _ heq _ => hbackslash heq

theorem readStringBody?_escaped (cs : List Char) {fuel : Nat} (hfuel : cs.length < fuel)
    (read rest : List Char) :
    readStringBody? fuel read (cs.flatMap (fun c => (escapeChar c).toList) ++ '"' :: rest) =
      some (String.ofList (read.reverse ++ cs), rest) := by
  induction cs generalizing fuel read with
  | nil =>
      obtain ⟨fuel, rfl⟩ := Nat.exists_eq_succ_of_ne_zero (Nat.ne_of_gt hfuel)
      rw [List.append_nil]
      rfl
  | cons c cs ih =>
      obtain ⟨fuel, rfl⟩ := Nat.exists_eq_succ_of_ne_zero (Nat.ne_zero_of_lt hfuel)
      rw [List.flatMap_cons, List.append_assoc, readStringBody?_escapeChar,
        ih (by simpa using hfuel), List.reverse_cons, List.append_assoc, List.singleton_append]

theorem length_escapeChar_pos (c : Char) : 0 < (escapeChar c).toList.length := by
  unfold escapeChar
  split_ifs <;> simp [controlEscape]

theorem length_le_escaped (cs : List Char) :
    cs.length ≤ (cs.flatMap fun c => (escapeChar c).toList).length := by
  induction cs with
  | nil => exact Nat.le_refl 0
  | cons c cs ih =>
      have hc := length_escapeChar_pos c
      rw [List.flatMap_cons, List.length_append, List.length_cons]
      omega

/-- A printed string is read as it was. -/
theorem exists_body_printString (s : String) :
    ∃ body, (printString s).toList = '"' :: body ∧ ∀ rest,
      readStringBody? ((body ++ rest).length + 1) [] (body ++ rest) = some (s, rest) := by
  refine ⟨s.toList.flatMap (fun c => (escapeChar c).toList) ++ ['"'], ?_, fun rest => ?_⟩
  · rw [printString, String.toList_append, String.toList_append, String.toList_join,
      List.flatMap_map]
    rfl
  · have hlength := length_le_escaped s.toList
    rw [List.append_assoc, List.singleton_append, readStringBody?_escaped]
    · rw [List.reverse_nil, List.nil_append, String.ofList_toList]
    · rw [List.length_append, List.length_cons]
      omega

/-! ## Documents -/

mutual
/-- The document that the text of a document is read as, with so many levels left. -/
def reread? : Value → Nat → Option Value
  | .null, _ => some .null
  | .bool b, _ => some (.bool b)
  | .number n, _ => n.reread?.map .number
  | .string s, _ => some (.string s)
  | .array _, 0 => none
  | .array xs, depth + 1 => (rereadItems? xs depth).map .array
  | .object _, 0 => none
  | .object es, depth + 1 => (rereadFields? es depth).map fun es => .object (Entries.ofList es)
termination_by structural v => v

def rereadItems? : List Value → Nat → Option (List Value)
  | [], _ => some []
  | x :: xs, depth =>
    (reread? x depth).bind fun y => (rereadItems? xs depth).map fun ys => y :: ys
termination_by structural xs => xs

/-- A name that is repeated is dropped later, in `reread?`. -/
def rereadFields? : List (String × Value) → Nat → Option (List (String × Value))
  | [], _ => some []
  | (name, v) :: es, depth =>
    (reread? v depth).bind fun w => (rereadFields? es depth).map fun fs => (name, w) :: fs
termination_by structural es => es
end

/-- What stands behind a value inside of a document, or nothing. -/
def Closes (rest : List Char) : Prop := ∀ c ∈ rest.head?, c ∈ [',', ']', '\x7d']

theorem Closes.ends {rest : List Char} (h : Closes rest) : Number.Ends rest := by
  intro c hc
  have hclosing := h c hc
  simp only [List.mem_cons, List.not_mem_nil, or_false] at hclosing
  rcases hclosing with rfl | rfl | rfl <;> decide

/-- What no value starts with: blanks, and the characters that close one. -/
def noStart : List Char := [' ', '\t', '\n', '\r', ']', '\x7d']

/-- What only values other than numbers start with. -/
def startsOther : List Char := ['n', 't', 'f', '"', '[', '\x7b']

theorem exists_start_number (n : Number) :
    ∃ c cs, n.text.toList = c :: cs ∧ c ∉ noStart ∧ c ∉ startsOther := by
  have hnumber : ∀ c ∈ noStart ++ startsOther, ¬ (c.isDigit = true ∨ c ∈ ['-', 'N', 'i']) := by
    simp [noStart, startsOther]
  obtain ⟨c, cs, hcs, hc⟩ := n.exists_start
  exact ⟨c, cs, hcs, fun h => hnumber c (List.mem_append_left _ h) hc,
    fun h => hnumber c (List.mem_append_right _ h) hc⟩

theorem toList_print_array (xs : List Value) :
    (print (.array xs)).toList = '[' :: ((",".intercalate (printItems xs)).toList ++ [']']) := by
  rw [print, String.toList_append, String.toList_append]
  rfl

theorem toList_print_object (es : List (String × Value)) :
    (print (.object es)).toList =
      '\x7b' :: ((",".intercalate (printFields es)).toList ++ ['\x7d']) := by
  rw [print, String.toList_append, String.toList_append]
  rfl

theorem exists_start (v : Value) : ∃ c cs, v.print.toList = c :: cs ∧ c ∉ noStart := by
  cases v with
  | null => exact ⟨'n', _, rfl, by decide⟩
  | bool b => cases b <;> exact ⟨_, _, rfl, by decide⟩
  | number n =>
      obtain ⟨c, cs, hcs, hc, -⟩ := exists_start_number n
      exact ⟨c, cs, hcs, hc⟩
  | string s =>
      obtain ⟨body, hbody, -⟩ := exists_body_printString s
      exact ⟨'"', body, hbody, by decide⟩
  | array xs => exact ⟨'[', _, toList_print_array xs, by decide⟩
  | object es => exact ⟨'\x7b', _, toList_print_object es, by decide⟩

theorem skipSpace_cons {c : Char} (h : c ∉ noStart) (cs : List Char) :
    skipSpace (c :: cs) = c :: cs := by
  have hspace : isSpace c = false := by
    simp only [noStart, List.mem_cons, not_or] at h
    simp [isSpace, h]
  exact List.dropWhile_cons_of_neg (by simp [hspace])

theorem skipSpace_print (v : Value) (rest : List Char) :
    skipSpace (v.print.toList ++ rest) = v.print.toList ++ rest := by
  obtain ⟨c, cs, hcs, hc⟩ := v.exists_start
  rw [hcs, List.cons_append, skipSpace_cons hc]

theorem readValue?_number (n : Number) (fuel depth : Nat) {rest : List Char} (hrest : Closes rest) :
    readValue? (fuel + 1) depth (n.text.toList ++ rest) =
      n.reread?.map fun m => (.number m, rest) := by
  obtain ⟨c, cs, hcs, -, hc⟩ := exists_start_number n
  have hread := n.read?_append hrest.ends
  rw [hcs, List.cons_append] at hread ⊢
  simp only [startsOther, List.mem_cons, List.not_mem_nil, or_false, not_or] at hc
  rw [readValue?]
  · rw [hread]
    cases n.reread? <;> rfl
  all_goals simp [hc]

theorem readValue?_string (s : String) (fuel depth : Nat) (rest : List Char) :
    readValue? (fuel + 1) depth ((printString s).toList ++ rest) = some (.string s, rest) := by
  obtain ⟨body, hbody, hread⟩ := exists_body_printString s
  rw [hbody, List.cons_append, readValue?, hread]
  rfl

/-! ### One item or entry at a time -/

section

variable {x v : Value} {depth fuel : Nat} {rest : List Char} {name : String}

/-- What stands behind an item says whether the array goes on. -/
theorem readItems?_item (read : List Value) {more : List Char}
    (hx : readValue? fuel depth (x.print.toList ++ more) =
      (x.reread? depth).map fun y => (y, more)) :
    readItems? (fuel + 1) depth read (x.print.toList ++ more) =
      (x.reread? depth).bind fun y =>
        match skipSpace more with
        | ',' :: rest => readItems? fuel depth (y :: read) rest
        | ']' :: rest => some (.array (y :: read).reverse, rest)
        | _ => none := by
  rw [readItems?, skipSpace_print, hx]
  cases x.reread? depth <;> rfl

theorem readItems?_last (read : List Value)
    (hx : readValue? fuel depth (x.print.toList ++ ']' :: rest) =
      (x.reread? depth).map fun y => (y, ']' :: rest)) :
    readItems? (fuel + 1) depth read (x.print.toList ++ ']' :: rest) =
      (x.reread? depth).map fun y => (.array (read.reverse ++ [y]), rest) := by
  have hspace : skipSpace (']' :: rest) = ']' :: rest := rfl
  rw [readItems?_item read hx, hspace]
  cases x.reread? depth <;> simp

theorem readItems?_next (read : List Value)
    (hx : readValue? fuel depth (x.print.toList ++ ',' :: rest) =
      (x.reread? depth).map fun y => (y, ',' :: rest)) :
    readItems? (fuel + 1) depth read (x.print.toList ++ ',' :: rest) =
      (x.reread? depth).bind fun y => readItems? fuel depth (y :: read) rest :=
  readItems?_item read hx

theorem length_le_entry (name : String) (v : Value) :
    v.print.toList.length ≤ (printString name ++ ":" ++ v.print).toList.length := by
  rw [String.toList_append, List.length_append]
  omega

/-- What stands behind an entry says whether the object goes on. -/
theorem readFields?_entry (read : List (String × Value)) {more : List Char}
    (hv : readValue? fuel depth (v.print.toList ++ more) =
      (v.reread? depth).map fun w => (w, more)) :
    readFields? (fuel + 1) depth read ((printString name ++ ":" ++ v.print).toList ++ more) =
      (v.reread? depth).bind fun w =>
        match skipSpace more with
        | ',' :: rest => readFields? fuel depth ((name, w) :: read) rest
        | '\x7d' :: rest => some (.object (Entries.ofList ((name, w) :: read).reverse), rest)
        | _ => none := by
  obtain ⟨body, hbody, hread⟩ := exists_body_printString name
  have htext : (printString name ++ ":" ++ v.print).toList ++ more =
      '"' :: (body ++ ':' :: (v.print.toList ++ more)) := by
    simp [hbody]
  have hquote : ∀ cs, skipSpace ('"' :: cs) = '"' :: cs := fun _ => rfl
  have hcolon : ∀ cs, skipSpace (':' :: cs) = ':' :: cs := fun _ => rfl
  rw [htext, readFields?, hquote]
  simp only [hread, hcolon, skipSpace_print, hv]
  cases v.reread? depth <;> rfl

theorem readFields?_last (read : List (String × Value))
    (hv : readValue? fuel depth (v.print.toList ++ '\x7d' :: rest) =
      (v.reread? depth).map fun w => (w, '\x7d' :: rest)) :
    readFields? (fuel + 1) depth read
        ((printString name ++ ":" ++ v.print).toList ++ '\x7d' :: rest) =
      (v.reread? depth).map fun w =>
        (.object (Entries.ofList (read.reverse ++ [(name, w)])), rest) := by
  have hspace : skipSpace ('\x7d' :: rest) = '\x7d' :: rest := rfl
  rw [readFields?_entry read hv, hspace]
  cases v.reread? depth <;> simp

theorem readFields?_next (read : List (String × Value))
    (hv : readValue? fuel depth (v.print.toList ++ ',' :: rest) =
      (v.reread? depth).map fun w => (w, ',' :: rest)) :
    readFields? (fuel + 1) depth read ((printString name ++ ":" ++ v.print).toList ++ ',' :: rest) =
      (v.reread? depth).bind fun w => readFields? fuel depth ((name, w) :: read) rest :=
  readFields?_entry read hv

end

/-! ### All of them -/

theorem exists_start_intercalate {text : String} {c : Char} {cs : List Char}
    (h : text.toList = c :: cs) (texts : List String) :
    ∃ ds, (",".intercalate (text :: texts)).toList = c :: ds := by
  cases texts with
  | nil => exact ⟨cs, by rw [String.intercalate_singleton, h]⟩
  | cons next texts =>
      rw [String.intercalate_cons_cons, String.toList_append, String.toList_append, h]
      exact ⟨_, rfl⟩

/-- An array with items is read item by item. -/
theorem readValue?_array (x : Value) (xs : List Value) (fuel depth : Nat) (rest : List Char) :
    readValue? (fuel + 1) (depth + 1)
        ('[' :: ((",".intercalate (printItems (x :: xs))).toList ++ rest)) =
      readItems? fuel depth [] ((",".intercalate (printItems (x :: xs))).toList ++ rest) := by
  obtain ⟨c, cs, hcs, hc⟩ := x.exists_start
  obtain ⟨ds, hds⟩ := exists_start_intercalate hcs (printItems xs)
  have hclosing : c ≠ ']' := fun heq => hc (heq ▸ by decide)
  rw [printItems, hds, List.cons_append, readValue?, skipSpace_cons hc]
  simp [hclosing]

/-- An object with fields is read field by field. -/
theorem readValue?_object (e : String × Value) (es : List (String × Value)) (fuel depth : Nat)
    (rest : List Char) :
    readValue? (fuel + 1) (depth + 1)
        ('\x7b' :: ((",".intercalate (printFields (e :: es))).toList ++ rest)) =
      readFields? fuel depth [] ((",".intercalate (printFields (e :: es))).toList ++ rest) := by
  obtain ⟨body, hbody, -⟩ := exists_body_printString e.1
  have hfield : (printString e.1 ++ ":" ++ e.2.print).toList =
      '"' :: (body ++ ':' :: e.2.print.toList) := by
    simp [hbody]
  obtain ⟨ds, hds⟩ := exists_start_intercalate hfield (printFields es)
  have hquote : ∀ cs, skipSpace ('"' :: cs) = '"' :: cs := fun _ => rfl
  rw [printFields, hds, List.cons_append, readValue?, hquote]
  rfl

theorem closes_cons {c : Char} (h : c ∈ [',', ']', '\x7d']) (rest : List Char) :
    Closes (c :: rest) := by
  rintro d ⟨⟩
  exact h

mutual
/-- The induction is on the document; each level of it costs the text at least one character, and
the reader one step. -/
theorem readValue?_print : ∀ (v : Value) (depth : Nat) {fuel : Nat} {rest : List Char},
    v.print.toList.length ≤ fuel → Closes rest →
      readValue? fuel depth (v.print.toList ++ rest) = (v.reread? depth).map fun w => (w, rest)
  | .null, depth, fuel + 1, rest, _, _ => by
      rw [reread?]
      rfl
  | .bool b, depth, fuel + 1, rest, _, _ => by
      rw [reread?]
      cases b <;> rfl
  | .number n, depth, fuel + 1, rest, _, hrest => by
      rw [reread?, print, readValue?_number n fuel depth hrest]
      cases n.reread? <;> rfl
  | .string s, depth, fuel + 1, rest, _, _ => by
      rw [reread?, print, readValue?_string]
      rfl
  | .array xs, depth, fuel + 1, rest, hfuel, hrest => by
      rw [toList_print_array, List.length_cons, List.length_append, List.length_singleton] at hfuel
      rw [toList_print_array, List.cons_append, List.append_assoc, List.singleton_append]
      cases depth with
      | zero => rfl
      | succ depth =>
          rw [reread?]
          match xs with
          | [] => rfl
          | x :: xs =>
              have hitems := readItems?_print (x :: xs) depth [] rest (List.cons_ne_nil x xs)
                (show _ < fuel by omega)
              rw [readValue?_array, hitems]
              simp [Function.comp_def]
  | .object es, depth, fuel + 1, rest, hfuel, hrest => by
      rw [toList_print_object, List.length_cons, List.length_append, List.length_singleton] at hfuel
      rw [toList_print_object, List.cons_append, List.append_assoc, List.singleton_append]
      cases depth with
      | zero => rfl
      | succ depth =>
          rw [reread?]
          match es with
          | [] => rfl
          | e :: es =>
              have hfields := readFields?_print (e :: es) depth [] rest (List.cons_ne_nil e es)
                (show _ < fuel by omega)
              rw [readValue?_object, hfields]
              simp [Function.comp_def]
  | v, depth, 0, rest, hfuel, _ => by
      obtain ⟨c, cs, hcs, -⟩ := v.exists_start
      rw [hcs] at hfuel
      cases hfuel
termination_by structural v => v

theorem readItems?_print : ∀ (xs : List Value) (depth : Nat) {fuel : Nat} (read : List Value)
    (rest : List Char), xs ≠ [] → (",".intercalate (printItems xs)).toList.length < fuel →
      readItems? fuel depth read ((",".intercalate (printItems xs)).toList ++ ']' :: rest) =
        (rereadItems? xs depth).map fun ys => (.array (read.reverse ++ ys), rest)
  | [x], depth, fuel + 1, read, rest, _, hfuel => by
      rw [printItems, printItems, String.intercalate_singleton] at hfuel ⊢
      have hclose : Closes (']' :: rest) := closes_cons (by decide) rest
      have hx := readValue?_print x depth (Nat.lt_succ_iff.mp hfuel) hclose
      rw [readItems?_last read hx, rereadItems?, rereadItems?]
      cases x.reread? depth <;> rfl
  | x :: y :: xs, depth, fuel + 1, read, rest, _, hfuel => by
      have htext : (",".intercalate (printItems (x :: y :: xs))).toList =
          x.print.toList ++ ',' :: (",".intercalate (printItems (y :: xs))).toList := by
        simp [printItems, String.intercalate_cons_cons]
      rw [htext] at hfuel ⊢
      rw [List.length_append, List.length_cons] at hfuel
      have hclose : ∀ rest, Closes (',' :: rest) := closes_cons (by decide)
      have hx := fun rest => readValue?_print x depth (show _ ≤ fuel by omega) (hclose rest)
      rw [List.append_assoc, List.cons_append, readItems?_next read (hx _), rereadItems?]
      cases x.reread? depth with
      | none => rfl
      | some z =>
          rw [Option.bind_some, Option.bind_some,
            readItems?_print (y :: xs) depth _ rest (List.cons_ne_nil y xs) (by omega)]
          simp [Function.comp_def]
termination_by structural xs => xs

theorem readFields?_print : ∀ (es : List (String × Value)) (depth : Nat) {fuel : Nat}
    (read : List (String × Value)) (rest : List Char), es ≠ [] →
      (",".intercalate (printFields es)).toList.length < fuel →
      readFields? fuel depth read ((",".intercalate (printFields es)).toList ++ '\x7d' :: rest) =
        (rereadFields? es depth).map fun fs =>
          (.object (Entries.ofList (read.reverse ++ fs)), rest)
  | [(name, v)], depth, fuel + 1, read, rest, _, hfuel => by
      rw [printFields, printFields, String.intercalate_singleton] at hfuel ⊢
      have hlength := length_le_entry name v
      have hclose : Closes ('\x7d' :: rest) := closes_cons (by decide) rest
      have hv := readValue?_print v depth (show _ ≤ fuel by omega) hclose
      rw [readFields?_last read hv, rereadFields?, rereadFields?]
      cases v.reread? depth <;> rfl
  | (name, v) :: e :: es, depth, fuel + 1, read, rest, _, hfuel => by
      have htext : (",".intercalate (printFields ((name, v) :: e :: es))).toList =
          (printString name ++ ":" ++ v.print).toList ++
            ',' :: (",".intercalate (printFields (e :: es))).toList := by
        simp [printFields, String.intercalate_cons_cons]
      rw [htext] at hfuel ⊢
      rw [List.length_append, List.length_cons] at hfuel
      have hlength := length_le_entry name v
      have hclose : ∀ rest, Closes (',' :: rest) := closes_cons (by decide)
      have hv := fun rest => readValue?_print v depth (show _ ≤ fuel by omega) (hclose rest)
      rw [List.append_assoc, List.cons_append, readFields?_next read (hv _), rereadFields?]
      cases v.reread? depth with
      | none => rfl
      | some w =>
          rw [Option.bind_some, Option.bind_some,
            readFields?_print (e :: es) depth _ rest (List.cons_ne_nil e es) (by omega)]
          simp [Function.comp_def]
termination_by structural es => es
end

/-- Reading the text of a document makes the changes of `reread?`, and no others. -/
theorem read?_print (v : Value) : read? v.print = v.reread? maxDepth := by
  have hfuel : v.print.toList.length ≤ 2 * v.print.toList.length + 2 := by omega
  have hclose : Closes [] := nofun
  have hread := readValue?_print v maxDepth hfuel hclose
  rw [List.append_nil] at hread
  have hspace := skipSpace_print v []
  rw [List.append_nil] at hspace
  rw [read?, hspace, hread]
  cases v.reread? maxDepth <;> rfl

/-! ## What comes back -/

/-- A document that its text gives back: its numbers are given back by theirs, no object names a
field twice, and it is no deeper than so many levels. -/
inductive Survives : Value → Nat → Prop
  | null (depth : Nat) : Survives .null depth
  | bool (b : Bool) (depth : Nat) : Survives (.bool b) depth
  | number {n : Number} (h : n.reread? = some n) (depth : Nat) : Survives (.number n) depth
  | string (s : String) (depth : Nat) : Survives (.string s) depth
  | array {xs : List Value} {depth : Nat} (h : ∀ x ∈ xs, Survives x depth) :
      Survives (.array xs) (depth + 1)
  | object {es : List (String × Value)} {depth : Nat} (hnames : (Entries.names es).Nodup)
      (h : ∀ e ∈ es, Survives e.2 depth) : Survives (.object es) (depth + 1)

theorem names_rereadFields? {es fs : List (String × Value)} {depth : Nat}
    (h : rereadFields? es depth = some fs) : Entries.names fs = Entries.names es := by
  induction es generalizing fs with
  | nil =>
      obtain rfl := Option.some.inj h
      rfl
  | cons e es ih =>
      rw [rereadFields?] at h
      obtain ⟨w, -, h⟩ := Option.bind_eq_some_iff.mp h
      obtain ⟨more, hmore, rfl⟩ := Option.map_eq_some_iff.mp h
      rw [Entries.names_cons, Entries.names_cons, ih hmore]

mutual
theorem reread?_eq_self_iff : ∀ (v : Value) (depth : Nat),
    v.reread? depth = some v ↔ v.Survives depth
  | .null, depth => ⟨fun _ => .null depth, fun _ => rfl⟩
  | .bool b, depth => ⟨fun _ => .bool b depth, fun _ => rfl⟩
  | .string s, depth => ⟨fun _ => .string s depth, fun _ => rfl⟩
  | .number n, depth => by
      have hnumber : (number n).reread? depth = some (.number n) ↔ n.reread? = some n := by
        rw [reread?, Option.map_eq_some_iff]
        simp
      rw [hnumber]
      exact ⟨fun h => .number h depth, fun | .number h _ => h⟩
  | .array xs, 0 => ⟨nofun, nofun⟩
  | .array xs, depth + 1 => by
      have hitems : (array xs).reread? (depth + 1) = some (.array xs) ↔
          rereadItems? xs depth = some xs := by
        rw [reread?, Option.map_eq_some_iff]
        simp
      rw [hitems, rereadItems?_eq_self_iff xs depth]
      exact ⟨.array, fun | .array h => h⟩
  | .object es, 0 => ⟨nofun, nofun⟩
  | .object es, depth + 1 => by
      have hfields : (object es).reread? (depth + 1) = some (.object es) ↔
          (Entries.names es).Nodup ∧ rereadFields? es depth = some es := by
        rw [reread?, Option.map_eq_some_iff]
        constructor
        · rintro ⟨fs, hfs, hes⟩
          have hes := object.inj hes
          have hnodup : (Entries.names es).Nodup := hes ▸ Entries.nodup_ofList fs
          rw [← names_rereadFields? hfs] at hnodup
          rw [Entries.ofList_of_nodup hnodup] at hes
          exact ⟨hes ▸ hnodup, hes ▸ hfs⟩
        · rintro ⟨hnodup, hes⟩
          exact ⟨es, hes, congrArg object (Entries.ofList_of_nodup hnodup)⟩
      rw [hfields, rereadFields?_eq_self_iff es depth]
      exact ⟨fun h => .object h.1 h.2, fun | .object hnames h => ⟨hnames, h⟩⟩
termination_by structural v => v

theorem rereadItems?_eq_self_iff : ∀ (xs : List Value) (depth : Nat),
    rereadItems? xs depth = some xs ↔ ∀ x ∈ xs, x.Survives depth
  | [], depth => by simp [rereadItems?]
  | x :: xs, depth => by
      rw [List.forall_mem_cons, ← reread?_eq_self_iff x depth, ← rereadItems?_eq_self_iff xs depth,
        rereadItems?]
      cases x.reread? depth with
      | none => simp
      | some y => cases rereadItems? xs depth <;> simp
termination_by structural xs => xs

theorem rereadFields?_eq_self_iff : ∀ (es : List (String × Value)) (depth : Nat),
    rereadFields? es depth = some es ↔ ∀ e ∈ es, e.2.Survives depth
  | [], depth => by simp [rereadFields?]
  | (name, v) :: es, depth => by
      rw [List.forall_mem_cons, ← reread?_eq_self_iff v depth,
        ← rereadFields?_eq_self_iff es depth, rereadFields?]
      cases v.reread? depth with
      | none => simp
      | some w => cases rereadFields? es depth <;> simp
termination_by structural es => es
end

/-- A document is given back by its text if it survives at the depth of the reader, and not
otherwise. -/
theorem read?_print_iff (v : Value) : read? v.print = some v ↔ v.Survives maxDepth := by
  rw [read?_print, reread?_eq_self_iff]

end Value

end RowAccess
