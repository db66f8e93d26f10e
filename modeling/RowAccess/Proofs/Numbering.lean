import Mathlib.Data.List.TakeWhile
import RowAccess.Proofs.Clauses
import RowAccess.Proofs.Queries

/-!
# Numbers in a statement

A dollar sign in the text of a statement stands in front of the number of
a parameter. `numbersIn` reads these numbers from left to right, as they
are spelled, and knows nothing else about SQL. Text without a dollar sign
may hold whatever it likes, digits too, as long as it does not go on
where a number stops: `numbersIn_cut` takes a text apart at what no number
can run into, and the lemmas on the parts of a statement follow from it.

`numbersIn_sql`: the numbers of a statement are those of its parameters,
each once and in order, and the parameters are those that the conditions
bring along, one condition after the other.
-/

namespace RowAccess

/-! ## Reading numbers -/

/-- The runs of digits behind the dollar signs, from left to right. -/
def dollarRuns : List Char → List String
  | [] => []
  | c :: rest =>
    if c = '$' then String.ofList (rest.takeWhile Char.isDigit) :: dollarRuns rest
    else dollarRuns rest

def numbersIn (text : String) : List String := dollarRuns text.toList

/-- No number is in the text, and none that stands in front of it goes on in it. -/
def Cuts (sep : String) : Prop :=
  ∃ c rest, sep.toList = c :: rest ∧ c.isDigit = false ∧ '$' ∉ sep.toList

theorem cuts_comma : Cuts ", " := ⟨',', [' '], rfl, rfl, by decide⟩

theorem cuts_and : Cuts " AND " := ⟨' ', "AND ".toList, rfl, rfl, by decide⟩

theorem cuts_close : Cuts ")" := ⟨')', [], rfl, rfl, by decide⟩

theorem takeWhile_append_of_head {α : Type} {p : α → Bool} {xs ys : List α}
    (h : ∀ y ∈ ys.head?, p y = false) : (xs ++ ys).takeWhile p = xs.takeWhile p := by
  have hstop : ys.takeWhile p = [] := by
    cases ys with
    | nil => rfl
    | cons y rest => exact List.takeWhile_cons_of_neg (by simp [h y rfl])
  rw [List.takeWhile_append, hstop, List.append_nil]
  split
  · next hall => exact ((List.takeWhile_prefix p).eq_of_length hall).symm
  · rfl

theorem dollarRuns_append {cs ds : List Char} (h : ∀ d ∈ ds.head?, d.isDigit = false) :
    dollarRuns (cs ++ ds) = dollarRuns cs ++ dollarRuns ds := by
  induction cs with
  | nil => rfl
  | cons c rest ih =>
      rw [List.cons_append, dollarRuns, dollarRuns, takeWhile_append_of_head h, ih]
      split <;> rfl

theorem dollarRuns_skip {cs : List Char} (h : '$' ∉ cs) (ds : List Char) :
    dollarRuns (cs ++ ds) = dollarRuns ds := by
  induction cs with
  | nil => rfl
  | cons c rest ih =>
      obtain ⟨hc, hrest⟩ := List.ne_and_not_mem_of_not_mem_cons h
      rw [List.cons_append, dollarRuns, if_neg (Ne.symm hc), ih hrest]

theorem dollarRuns_of_not_mem {cs : List Char} (h : '$' ∉ cs) : dollarRuns cs = [] := by
  have hskip := dollarRuns_skip h []
  rwa [List.append_nil] at hskip

/-- Text without a dollar sign in front changes nothing. -/
theorem numbersIn_skip {s : String} (h : '$' ∉ s.toList) (t : String) :
    numbersIn (s ++ t) = numbersIn t := by
  unfold numbersIn
  rw [String.toList_append, dollarRuns_skip h]

theorem numbersIn_of_not_mem {s : String} (h : '$' ∉ s.toList) : numbersIn s = [] :=
  dollarRuns_of_not_mem h

/-- The numbers of a text are those in front of a cut and those behind it. -/
theorem numbersIn_cut {sep : String} (h : Cuts sep) (s t : String) :
    numbersIn (s ++ sep ++ t) = numbersIn s ++ numbersIn t := by
  obtain ⟨c, rest, hsep, hdigit, hfree⟩ := h
  have hhead : ∀ d ∈ (sep.toList ++ t.toList).head?, d.isDigit = false := by
    rw [hsep]
    rintro _ ⟨⟩
    exact hdigit
  unfold numbersIn
  rw [String.append_assoc, String.toList_append, String.toList_append, dollarRuns_append hhead,
    dollarRuns_skip hfree]

theorem numbersIn_end {sep : String} (h : Cuts sep) (s : String) :
    numbersIn (s ++ sep) = numbersIn s := by
  have hcut := numbersIn_cut h s ""
  have hempty : numbersIn "" = [] := rfl
  rwa [String.append_empty, hempty, List.append_nil] at hcut

theorem numbersIn_intercalate {sep : String} (h : Cuts sep) (texts : List String) :
    numbersIn (sep.intercalate texts) = texts.flatMap numbersIn := by
  induction texts with
  | nil => rfl
  | cons text rest ih =>
      cases rest with
      | nil => simp
      | cons next rest =>
          rw [String.intercalate_cons_of_ne_nil (List.cons_ne_nil next rest), numbersIn_cut h, ih]
          rfl

theorem numbersIn_placeholder (n : Nat) : numbersIn (Clause.placeholder n) = [toString n] := by
  have hdigits : ∀ c ∈ Nat.toDigits 10 n, c.isDigit = true :=
    fun _ => Clause.isDigit_of_mem_toDigits
  have hfree : '$' ∉ Nat.toDigits 10 n := fun hdollar => absurd (hdigits '$' hdollar) (by decide)
  rw [numbersIn, Clause.toList_placeholder, dollarRuns, if_pos rfl, dollarRuns_of_not_mem hfree,
    List.takeWhile_eq_self_iff.mpr hdigits]
  rfl

/-! ## The numbers of conditions -/

/-- The numbers behind the first `used` ones, as they are spelled. -/
def numbersAfter (used count : Nat) : List String := (List.range' (used + 1) count).map toString

theorem numbersAfter_add (used m n : Nat) :
    numbersAfter used (m + n) = numbersAfter used m ++ numbersAfter (used + m) n := by
  have hsplit : List.range' (used + 1) (m + n) =
      List.range' (used + 1) m ++ List.range' (used + m + 1) n := by
    rw [← List.range'_append_1, Nat.add_right_comm]
  rw [numbersAfter, hsplit, List.map_append]
  rfl

/-- What a condition brings along: nothing if it asks for null, the members of a list that it
asks about, and otherwise its value. -/
inductive QueryCondition.Brings : QueryCondition → List Value → Prop
  | nothing (column : String) (v : Value) : Brings ⟨column, .isNull, v⟩ []
  | members (column : String) (items : List Value) :
      Brings ⟨column, .member, .array items⟩ items
  | itself (column : String) {o : FilterOperator} {v : Value} (notNull : o ≠ .isNull)
      (noList : o = .member → v.items? = none) : Brings ⟨column, o, v⟩ [v]

namespace Query

variable {table : String} {columns : List String} {c : QueryCondition} {cs : List QueryCondition}

theorem brings_conditionParams (c : QueryCondition) : c.Brings (conditionParams c) := by
  obtain ⟨column, o, v⟩ := c
  cases o with
  | isNull => exact .nothing column v
  | equal => exact .itself column nofun nofun
  | member =>
      cases v with
      | array items => exact .members column items
      | _ => exact .itself column nofun fun _ => rfl

theorem numbersIn_placeholders (used : Nat) (items : List Value) :
    numbersIn (", ".intercalate (placeholders used items)) =
      numbersAfter used items.length := by
  rw [numbersIn_intercalate cuts_comma, Clause.placeholders_eq, List.flatMap_map]
  simp only [numbersIn_placeholder]
  exact List.map_eq_flatMap.symm

/-- A comparison with a single value has one number. -/
theorem numbersIn_comparison {column : String} (h : '$' ∉ column.toList) (o : FilterOperator)
    (used : Nat) :
    numbersIn (column ++ " " ++ o.sql ++ " $" ++ toString (used + 1)) = numbersAfter used 1 := by
  have hfront : '$' ∉ (column ++ " " ++ o.sql ++ " ").toList := by
    cases o <;> simp [h, FilterOperator.sql]
  have htext : column ++ " " ++ o.sql ++ " $" ++ toString (used + 1) =
      column ++ " " ++ o.sql ++ " " ++ Clause.placeholder (used + 1) := by
    have hdollar : " $" = " " ++ "$" := rfl
    rw [hdollar, Clause.placeholder]
    simp only [String.append_assoc]
  rw [htext, numbersIn_skip hfront, numbersIn_placeholder]
  rfl

/-- The text of a condition has the numbers of its own parameters. -/
theorem numbersIn_conditionSql (h : '$' ∉ c.column.toList) (used : Nat) :
    numbersIn (conditionSql used c) = numbersAfter used (conditionParams c).length := by
  obtain ⟨column, o, v⟩ := c
  have hcolumn : '$' ∉ column.toList := h
  cases o with
  | isNull =>
      show numbersIn (column ++ " IS NULL") = []
      exact numbersIn_of_not_mem (by simp [hcolumn])
  | equal => exact numbersIn_comparison h .equal used
  | member =>
      cases v with
      | array items =>
          cases items with
          | nil =>
              show numbersIn "FALSE" = []
              exact numbersIn_of_not_mem (by decide)
          | cons item rest =>
              have hfront : '$' ∉ (column ++ " IN (").toList := by simp [hcolumn]
              show numbersIn (column ++ " IN (" ++
                ", ".intercalate (placeholders used (item :: rest)) ++ ")") = _
              rw [numbersIn_end cuts_close, numbersIn_skip hfront, numbersIn_placeholders]
              rfl
      | _ => exact numbersIn_comparison h .member used

/-- The texts of conditions have the numbers of all their parameters, in order. -/
theorem numbersIn_conditionTexts (h : ∀ c ∈ cs, '$' ∉ c.column.toList) (used : Nat) :
    (conditionTexts used cs).flatMap numbersIn =
      numbersAfter used (cs.flatMap conditionParams).length := by
  induction cs generalizing used with
  | nil => rfl
  | cons c rest ih =>
      obtain ⟨hc, hrest⟩ := List.forall_mem_cons.mp h
      -- the texts behind that of `c` go on where its numbers stop
      rw [conditionTexts, List.flatMap_cons, List.flatMap_cons, List.length_append,
        numbersAfter_add, numbersIn_conditionSql hc, ih hrest]

theorem numbersIn_whereClause (h : ∀ c ∈ cs, '$' ∉ c.column.toList) :
    numbersIn (whereClause cs) = numbersAfter 0 (cs.flatMap conditionParams).length := by
  unfold whereClause
  cases cs with
  | nil => rfl
  | cons c rest =>
      show numbersIn (" WHERE " ++ " AND ".intercalate (conditionTexts 0 (c :: rest))) = _
      rw [numbersIn_skip (by decide), numbersIn_intercalate cuts_and, numbersIn_conditionTexts h]

theorem not_mem_intercalate {d : Char} {sep : String} {texts : List String}
    (hsep : d ∉ sep.toList) (h : ∀ text ∈ texts, d ∉ text.toList) :
    d ∉ (sep.intercalate texts).toList := by
  induction texts with
  | nil => simp
  | cons text rest ih =>
      obtain ⟨htext, hrest⟩ := List.forall_mem_cons.mp h
      cases rest with
      | nil => simpa using htext
      | cons next rest =>
          rw [String.intercalate_cons_of_ne_nil (List.cons_ne_nil next rest)]
          simp only [String.toList_append, List.mem_append, not_or]
          exact ⟨⟨htext, hsep⟩, ih hrest⟩

/-- In front of the conditions there is no dollar sign. -/
theorem dollar_not_mem_front {q : Query} (htable : '$' ∉ q.table.toList)
    (hcolumns : ∀ name ∈ q.columns, '$' ∉ name.toList) :
    '$' ∉ ("SELECT " ++ q.projection ++ " FROM " ++ q.table).toList := by
  have hprojection : '$' ∉ q.projection.toList := by
    unfold projection
    split
    · decide
    · exact not_mem_intercalate (by decide) hcolumns
  simp [hprojection, htable]

theorem brought_params (cs : List QueryCondition) :
    List.Forall₂ QueryCondition.Brings cs (cs.map conditionParams) := by
  rw [List.forall₂_map_right_iff, List.forall₂_same]
  exact fun c _ => brings_conditionParams c

/-- The numbers of a statement, read from left to right, are those from one on to the number of
its parameters. The parameters are those that the conditions bring along, in order. -/
theorem numbersIn_sql (htable : '$' ∉ table.toList)
    (hcolumns : ∀ name ∈ columns, '$' ∉ name.toList) (hnames : ∀ c ∈ cs, '$' ∉ c.column.toList) :
    let q := cs.foldl andWhere ⟨table, columns, []⟩
    numbersIn q.sql = (List.range' 1 q.params.length).map toString ∧
      ∃ brought, List.Forall₂ QueryCondition.Brings cs brought ∧ q.params = brought.flatten := by
  intro q
  have hq : q = ⟨table, columns, cs⟩ := foldl_andWhere _ _
  rw [hq]
  refine ⟨?_, cs.map conditionParams, brought_params cs, List.flatMap_def⟩
  rw [sql, numbersIn_skip (dollar_not_mem_front htable hcolumns), numbersIn_whereClause hnames]
  rfl

/-! ### Numbers of two digits -/

/-- Nine states, and columns whose names look like what stands behind a dollar sign. -/
def binderConditions : List QueryCondition :=
  [⟨"state", .member, .array (List.replicate 9 (.string "$1"))⟩, ⟨"tags", .member, .array []⟩,
   ⟨"1", .equal, .array [.null, .null]⟩, ⟨"seen", .isNull, .string "$3"⟩,
   ⟨"23", .member, .string "memo"⟩, ⟨"4 = ", .equal, .null⟩]

/-- Neither the list without members nor the test for null has a number. -/
theorem numbersIn_sql_binder :
    '$' ∉ "docs".toList ∧ (∀ name ∈ ["id", "2"], '$' ∉ name.toList) ∧
    (∀ c ∈ binderConditions, '$' ∉ c.column.toList) ∧
    let q := binderConditions.foldl andWhere ⟨"docs", ["id", "2"], []⟩
    q.sql = "SELECT id, 2 FROM docs WHERE state IN ($1, $2, $3, $4, $5, $6, $7, $8, $9) " ++
      "AND FALSE AND 1 = $10 AND seen IS NULL AND 23 IN $11 AND 4 =  = $12" ∧
    q.params.length = 12 ∧
    numbersIn q.sql = ["1", "2", "3", "4", "5", "6", "7", "8", "9", "10", "11", "12"] := by
  have htable : '$' ∉ "docs".toList := by decide
  have hcolumns : ∀ name ∈ ["id", "2"], '$' ∉ name.toList := by decide
  have hnames : ∀ c ∈ binderConditions, '$' ∉ c.column.toList := by
    unfold binderConditions
    simp
  obtain ⟨hnumbers, -⟩ := numbersIn_sql htable hcolumns hnames
  exact ⟨htable, hcolumns, hnames, by decide +kernel, rfl, hnumbers⟩

end Query

end RowAccess
