import RowAccess.Proofs.Identifiers
import RowAccess.Select

/-!
# Conditions as SQL text

The conditions of a query become text with numbered placeholders, and
this module reads such text back. A `Clause` is what the text of one
condition says: a column, and the numbers of the parameters it is
compared with. The reader goes by words and knows nothing of the
conditions that the text came from; columns called `AND` or `FALSE` are
told apart from the keywords by their place.

`readWhere?_whereClause`: the text of conditions, each under the operator
that its value picks, reads back as their clauses.
-/

namespace RowAccess

/-- What the text of a condition says. -/
inductive Clause where
  | equals (column : String) (param : Nat)
  | among (column : String) (params : List Nat)
  | isNull (column : String)
  | never
  deriving DecidableEq, Repr

namespace Clause

/-! ## Reading -/

/-- The words between single blanks. -/
def words (text : String) : List String := (text.toList.splitOn ' ').map String.ofList

/-- A dollar sign with a number. -/
def placeholder? : List Char → Option Nat
  | '$' :: digits =>
    if digits ≠ [] ∧ digits.all Char.isDigit then some (Nat.ofDigitChars 10 digits 0) else none
  | _ => none

/-- A member of a list, and whether another one follows; the first one opens the list. -/
def member? : Bool → List Char → Option (Nat × Bool)
  | true, '(' :: cs => member? false cs
  | true, _ => none
  | false, cs =>
    match cs.getLast? with
    | some ',' => (placeholder? cs.dropLast).map (·, true)
    | some ')' => (placeholder? cs.dropLast).map (·, false)
    | _ => none

mutual
/-- Reads clauses where one has to begin. -/
def read? : List String → Option (List Clause)
  | column :: "=" :: param :: rest =>
    if Identifier.isValid column then
      (placeholder? param.toList).bind fun n => (readOn? rest).map (.equals column n :: ·)
    else none
  | column :: "IS" :: "NULL" :: rest =>
    if Identifier.isValid column then (readOn? rest).map (.isNull column :: ·) else none
  | column :: "IN" :: rest =>
    if Identifier.isValid column then readMembers? column [] rest else none
  | "FALSE" :: rest => (readOn? rest).map (.never :: ·)
  | _ => none

/-- Reads on behind a clause: the text is over, or another clause is joined to it. -/
def readOn? : List String → Option (List Clause)
  | [] => some []
  | "AND" :: rest => read? rest
  | _ => none

/-- Reads the members of a list behind those already seen. -/
def readMembers? (column : String) (seen : List Nat) : List String → Option (List Clause)
  | [] => none
  | word :: rest =>
    match member? seen.isEmpty word.toList with
    | some (n, true) => readMembers? column (seen ++ [n]) rest
    | some (n, false) => (readOn? rest).map (.among column (seen ++ [n]) :: ·)
    | none => none
end

/-- Reads what stands behind the table of a query: nothing, or conditions. -/
def readWhere? (text : String) : Option (List Clause) :=
  match words text with
  | [""] => some []
  | "" :: "WHERE" :: rest => read? rest
  | _ => none

/-! ## Writing, word by word -/

def placeholder (n : Nat) : String := "$" ++ toString n

def opening : Bool → String
  | true => "("
  | false => ""

/-- The words of a list; the first one opens it if asked to. -/
def memberWords : Bool → List Nat → List String
  | _, [] => []
  | first, [n] => [opening first ++ placeholder n ++ ")"]
  | first, n :: rest => (opening first ++ placeholder n ++ ",") :: memberWords false rest

def toWords : Clause → List String
  | .equals column n => [column, "=", placeholder n]
  | .among column ns => column :: "IN" :: memberWords true ns
  | .isNull column => [column, "IS", "NULL"]
  | .never => ["FALSE"]

/-- The clauses joined, as words. -/
def joined : List Clause → List String
  | [] => []
  | [c] => c.toWords
  | c :: rest => c.toWords ++ "AND" :: joined rest

/-- The column is a valid name, and a list has members. -/
def Proper : Clause → Prop
  | .equals column _ => Identifier.isValid column = true
  | .among column ns => Identifier.isValid column = true ∧ ns ≠ []
  | .isNull column => Identifier.isValid column = true
  | .never => True

theorem memberWords_ne_nil {first : Bool} {ns : List Nat} (h : ns ≠ []) :
    memberWords first ns ≠ [] := by
  match ns with
  | [] => exact absurd rfl h
  | [n] => simp [memberWords]
  | n :: k :: rest => simp [memberWords]

theorem toWords_ne_nil (c : Clause) : c.toWords ≠ [] := by
  cases c <;> simp [toWords]

theorem joined_ne_nil {cs : List Clause} (h : cs ≠ []) : joined cs ≠ [] := by
  match cs with
  | [] => exact absurd rfl h
  | [c] => exact c.toWords_ne_nil
  | c :: d :: rest => simp [joined]

/-! ### Words have no blanks -/

theorem toList_placeholder (n : Nat) : (placeholder n).toList = '$' :: Nat.toDigits 10 n := by
  simp [placeholder]

theorem isDigit_of_mem_toDigits {n : Nat} {c : Char} (h : c ∈ Nat.toDigits 10 n) :
    c.isDigit = true :=
  Nat.isDigit_of_mem_toDigits (by decide) (by decide) h

theorem blank_not_mem_placeholder (n : Nat) : ' ' ∉ (placeholder n).toList := by
  have hdigits : ' ' ∉ Nat.toDigits 10 n := fun h =>
    absurd (isDigit_of_mem_toDigits h) (by decide)
  simp [toList_placeholder, hdigits]

theorem blank_not_mem_memberWords {first : Bool} {ns : List Nat} :
    ∀ w ∈ memberWords first ns, ' ' ∉ w.toList := by
  have hopening : ∀ b, ' ' ∉ (opening b).toList := by decide
  induction ns generalizing first with
  | nil => exact fun _ hw => absurd hw List.not_mem_nil
  | cons n rest ih =>
      cases rest with
      | nil => simp [memberWords, blank_not_mem_placeholder, hopening]
      | cons k rest =>
          rw [memberWords, List.forall_mem_cons]
          · exact ⟨by simp [blank_not_mem_placeholder, hopening], ih⟩
          · simp

theorem blank_not_mem_toWords {c : Clause} (h : c.Proper) : ∀ w ∈ c.toWords, ' ' ∉ w.toList := by
  cases c with
  | equals column n =>
      simp [toWords, Identifier.blank_not_mem h, blank_not_mem_placeholder]
  | among column ns =>
      rw [toWords, List.forall_mem_cons, List.forall_mem_cons]
      exact ⟨Identifier.blank_not_mem h.1, by decide, blank_not_mem_memberWords⟩
  | isNull column => simp [toWords, Identifier.blank_not_mem h]
  | never => simp [toWords]

theorem blank_not_mem_joined {cs : List Clause} (h : ∀ c ∈ cs, c.Proper) :
    ∀ w ∈ joined cs, ' ' ∉ w.toList := by
  induction cs with
  | nil => exact fun _ hw => absurd hw List.not_mem_nil
  | cons c rest ih =>
      obtain ⟨hc, hrest⟩ := List.forall_mem_cons.mp h
      cases rest with
      | nil => exact blank_not_mem_toWords hc
      | cons d rest =>
          intro w hw
          rcases List.mem_append.mp hw with hw | hw
          · exact blank_not_mem_toWords hc w hw
          · rcases List.mem_cons.mp hw with rfl | hw
            · decide
            · exact ih hrest w hw

theorem words_intercalate {ws : List String} (hne : ws ≠ []) (h : ∀ w ∈ ws, ' ' ∉ w.toList) :
    words (" ".intercalate ws) = ws := by
  have hsplit : (" ".intercalate ws).toList.splitOn ' ' = ws.map String.toList := by
    rw [String.toList_intercalate]
    refine List.splitOn_intercalate ' ' ?_ (by simpa using hne)
    simpa using h
  rw [words, hsplit, List.map_map]
  exact (List.map_congr_left fun w _ => String.ofList_toList).trans (List.map_id ws)

/-! ## Reading what was written -/

theorem placeholder?_placeholder (n : Nat) : placeholder? (placeholder n).toList = some n := by
  have hdigits : (Nat.toDigits 10 n).all Char.isDigit = true :=
    List.all_eq_true.mpr fun _ hc => isDigit_of_mem_toDigits hc
  rw [toList_placeholder, placeholder?, if_pos ⟨Nat.toDigits_ne_nil, hdigits⟩,
    Nat.ofDigitChars_ten_toDigits]

theorem member?_opening (first : Bool) (cs : List Char) :
    member? first ((opening first).toList ++ cs) = member? false cs := by
  cases first with
  | true => rfl
  | false => rfl

theorem member?_comma (first : Bool) (n : Nat) :
    member? first (opening first ++ placeholder n ++ ",").toList = some (n, true) := by
  rw [String.toList_append, String.toList_append, List.append_assoc, member?_opening]
  have hcomma : ",".toList = [','] := rfl
  rw [hcomma, member?, List.getLast?_concat, List.dropLast_concat]
  simp [placeholder?_placeholder]

theorem member?_closing (first : Bool) (n : Nat) :
    member? first (opening first ++ placeholder n ++ ")").toList = some (n, false) := by
  rw [String.toList_append, String.toList_append, List.append_assoc, member?_opening]
  have hclosing : ")".toList = [')'] := rfl
  rw [hclosing, member?, List.getLast?_concat, List.dropLast_concat]
  simp [placeholder?_placeholder]

/-- The first member opens the list, so the words depend on whether any was seen. -/
theorem readMembers?_memberWords {column : String} {seen ns : List Nat} (hne : ns ≠ [])
    (rest : List String) :
    readMembers? column seen (memberWords seen.isEmpty ns ++ rest) =
      (readOn? rest).map (.among column (seen ++ ns) :: ·) := by
  induction ns generalizing seen with
  | nil => exact absurd rfl hne
  | cons n more ih =>
      cases more with
      | nil =>
          rw [memberWords, List.singleton_append, readMembers?, member?_closing]
      | cons k more =>
          rw [memberWords, List.cons_append, readMembers?, member?_comma]
          · have hread : readMembers? column (seen ++ [n])
                (memberWords (seen ++ [n]).isEmpty (k :: more) ++ rest) =
                  (readOn? rest).map (.among column (seen ++ [n] ++ k :: more) :: ·) :=
              ih (List.cons_ne_nil k more)
            have hseen : (seen ++ [n]).isEmpty = false := by simp
            rw [hseen, List.append_assoc, List.singleton_append] at hread
            exact hread
          · simp

/-- What follows matters to `FALSE` alone, which would be a column if a comparison came next. -/
theorem read?_toWords {c : Clause} (h : c.Proper) {rest : List String}
    (hrest : rest = [] ∨ ∃ more, rest = "AND" :: more) :
    read? (c.toWords ++ rest) = (readOn? rest).map (c :: ·) := by
  cases c with
  | equals column n =>
      have hvalid : Identifier.isValid column = true := h
      simp [toWords, read?, hvalid, placeholder?_placeholder]
  | among column ns =>
      have hmembers : readMembers? column [] (memberWords true ns ++ rest) = _ :=
        readMembers?_memberWords h.2 rest
      simp [toWords, read?, h.1, hmembers]
  | isNull column =>
      have hvalid : Identifier.isValid column = true := h
      simp [toWords, read?, hvalid]
  | never =>
      rcases hrest with rfl | ⟨more, rfl⟩ <;> simp [toWords, read?]

theorem read?_joined {cs : List Clause} (hne : cs ≠ []) (h : ∀ c ∈ cs, c.Proper) :
    read? (joined cs) = some cs := by
  induction cs with
  | nil => exact absurd rfl hne
  | cons c rest ih =>
      obtain ⟨hc, hrest⟩ := List.forall_mem_cons.mp h
      cases rest with
      | nil =>
          have hread := read?_toWords hc (Or.inl rfl)
          rw [List.append_nil] at hread
          rw [joined, hread, readOn?]
          rfl
      | cons d rest =>
          rw [joined, read?_toWords hc (Or.inr ⟨_, rfl⟩), readOn?, ih (by simp) hrest]
          · rfl
          · simp

/-! ## The text of conditions -/

/-- The clause of a condition whose value picks its operator, after `used` parameters. -/
def ofCondition (used : Nat) (c : QueryCondition) : Clause :=
  match c.value with
  | .null => .isNull c.column
  | .array [] => .never
  | .array items => .among c.column (List.range' (used + 1) items.length)
  | _ => .equals c.column (used + 1)

/-- The clauses of conditions, each numbered after the parameters of those before it. -/
def ofConditions (used : Nat) : List QueryCondition → List Clause
  | [] => []
  | c :: rest => ofCondition used c :: ofConditions (used + (Query.conditionParams c).length) rest

theorem placeholders_eq (used : Nat) (items : List Value) :
    Query.placeholders used items = (List.range' (used + 1) items.length).map placeholder := by
  induction items generalizing used with
  | nil => rfl
  | cons item rest ih =>
      rw [Query.placeholders, ih, List.length_cons, List.range'_succ, List.map_cons]
      rfl

theorem intercalate_memberWords {first : Bool} {ns : List Nat} (hne : ns ≠ []) :
    " ".intercalate (memberWords first ns) =
      opening first ++ ", ".intercalate (ns.map placeholder) ++ ")" := by
  induction ns generalizing first with
  | nil => exact absurd rfl hne
  | cons n more ih =>
      cases more with
      | nil => simp [memberWords]
      | cons k more =>
          have hwords : memberWords false (k :: more) ≠ [] :=
            memberWords_ne_nil (List.cons_ne_nil k more)
          have htexts : (k :: more).map placeholder ≠ [] := by simp
          have hrest : " ".intercalate (memberWords false (k :: more)) = _ :=
            ih (List.cons_ne_nil k more)
          have hmap : (n :: k :: more).map placeholder =
              placeholder n :: (k :: more).map placeholder := rfl
          have hcomma : ", " = "," ++ " " := rfl
          have hopening : opening false = "" := rfl
          rw [memberWords, String.intercalate_cons_of_ne_nil hwords, hrest, hmap,
            String.intercalate_cons_of_ne_nil htexts, hopening, String.empty_append]
          · simp only [hcomma, String.append_assoc]
          · simp

theorem equalSql_eq (column : String) (n : Nat) :
    column ++ " " ++ FilterOperator.equal.sql ++ " $" ++ toString n =
      " ".intercalate (equals column n).toWords := by
  have hdollar : " $" = " " ++ "$" := rfl
  show column ++ " " ++ "=" ++ " $" ++ toString n = _
  rw [toWords, String.intercalate_cons_cons, String.intercalate_cons_cons,
    String.intercalate_singleton, placeholder, hdollar]
  simp only [String.append_assoc]

theorem conditionSql_eq (used : Nat) {c : QueryCondition}
    (hop : c.operator = FilterOperator.forValue c.value) :
    Query.conditionSql used c = " ".intercalate (ofCondition used c).toWords := by
  obtain ⟨column, operator, value⟩ := c
  obtain rfl : operator = FilterOperator.forValue value := hop
  cases value with
  | array items =>
      cases items with
      | nil => rfl
      | cons item rest =>
          have hparams : List.range' (used + 1) (item :: rest).length ≠ [] := by simp
          have hwords : memberWords true (List.range' (used + 1) (item :: rest).length) ≠ [] :=
            memberWords_ne_nil hparams
          have hin : " IN (" = " " ++ "IN" ++ " " ++ opening true := rfl
          show column ++ " IN (" ++ ", ".intercalate (Query.placeholders used (item :: rest)) ++
            ")" = " ".intercalate (column :: "IN" :: memberWords true _)
          rw [placeholders_eq, String.intercalate_cons_cons,
            String.intercalate_cons_of_ne_nil hwords, intercalate_memberWords hparams, hin]
          simp only [String.append_assoc]
  | null =>
      have hnull : " IS NULL" = " " ++ "IS" ++ " " ++ "NULL" := rfl
      show column ++ " IS NULL" = " ".intercalate [column, "IS", "NULL"]
      rw [String.intercalate_cons_cons, String.intercalate_cons_cons, String.intercalate_singleton,
        hnull]
      simp only [String.append_assoc]
  | bool b => exact equalSql_eq column (used + 1)
  | number n => exact equalSql_eq column (used + 1)
  | string s => exact equalSql_eq column (used + 1)
  | object es => exact equalSql_eq column (used + 1)

theorem conditionTexts_eq (used : Nat) {cs : List QueryCondition}
    (hop : ∀ c ∈ cs, c.operator = FilterOperator.forValue c.value) :
    Query.conditionTexts used cs =
      (ofConditions used cs).map fun c => " ".intercalate c.toWords := by
  induction cs generalizing used with
  | nil => rfl
  | cons c rest ih =>
      obtain ⟨hc, hrest⟩ := List.forall_mem_cons.mp hop
      rw [Query.conditionTexts, ofConditions, List.map_cons, conditionSql_eq used hc, ih _ hrest]

theorem intercalate_joined (cs : List Clause) :
    " AND ".intercalate (cs.map fun c => " ".intercalate c.toWords) =
      " ".intercalate (joined cs) := by
  induction cs with
  | nil => rfl
  | cons c rest ih =>
      cases rest with
      | nil => simp [joined]
      | cons d rest =>
          have hjoined : joined (c :: d :: rest) = c.toWords ++ "AND" :: joined (d :: rest) := rfl
          have htexts : (d :: rest).map (fun c => " ".intercalate c.toWords) ≠ [] := by simp
          have hne : joined (d :: rest) ≠ [] := joined_ne_nil (List.cons_ne_nil d rest)
          rw [List.map_cons, String.intercalate_cons_of_ne_nil htexts, ih, hjoined,
            String.intercalate_append_of_ne_nil c.toWords_ne_nil (List.cons_ne_nil _ _),
            String.intercalate_cons_of_ne_nil hne]
          have hand : " AND " = " " ++ "AND" ++ " " := rfl
          simp only [hand, String.append_assoc]

theorem proper_ofCondition (used : Nat) {c : QueryCondition}
    (hvalid : Identifier.isValid c.column = true) : (ofCondition used c).Proper := by
  unfold ofCondition
  split
  · exact hvalid
  · trivial
  · exact ⟨hvalid, by simp_all⟩
  · exact hvalid

theorem proper_ofConditions (used : Nat) {cs : List QueryCondition}
    (hvalid : ∀ c ∈ cs, Identifier.isValid c.column = true) :
    ∀ c ∈ ofConditions used cs, c.Proper := by
  induction cs generalizing used with
  | nil => exact fun _ hc => absurd hc List.not_mem_nil
  | cons c rest ih =>
      obtain ⟨hc, hrest⟩ := List.forall_mem_cons.mp hvalid
      rw [ofConditions, List.forall_mem_cons]
      exact ⟨proper_ofCondition used hc, ih _ hrest⟩

/-- The text of conditions reads back as their clauses. -/
theorem readWhere?_whereClause {cs : List QueryCondition}
    (hop : ∀ c ∈ cs, c.operator = FilterOperator.forValue c.value)
    (hvalid : ∀ c ∈ cs, Identifier.isValid c.column = true) :
    readWhere? (Query.whereClause cs) = some (ofConditions 0 cs) := by
  cases cs with
  | nil => rfl
  | cons c rest =>
      have hproper := proper_ofConditions 0 hvalid
      have hne : ofConditions 0 (c :: rest) ≠ [] := by simp [ofConditions]
      have htext : Query.whereClause (c :: rest) =
          " ".intercalate ("" :: "WHERE" :: joined (ofConditions 0 (c :: rest))) := by
        rw [String.intercalate_cons_cons, String.intercalate_cons_of_ne_nil (joined_ne_nil hne),
          ← intercalate_joined, ← conditionTexts_eq 0 hop]
        rfl
      have hwords : words (Query.whereClause (c :: rest)) =
          "" :: "WHERE" :: joined (ofConditions 0 (c :: rest)) := by
        rw [htext, words_intercalate (by simp)]
        simpa using blank_not_mem_joined hproper
      rw [readWhere?, hwords]
      exact read?_joined hne hproper

end Clause

end RowAccess
