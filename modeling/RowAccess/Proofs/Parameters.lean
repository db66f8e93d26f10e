import RowAccess.Proofs.Clauses

/-!
# What the text of a statement depends on

Values never get into the text of a statement: they are parameters, and
the text has numbers in their place. All that a value contributes to the
text is its shape, that is, how many numbers stand for it. `Query.Alike`
relates two queries that differ in nothing but what their values contain,
and `sql_of_alike` says that their texts are the same and that equally
many parameters go with them.

The numbers of a condition depend on everything in front of it, so the
induction over the conditions carries the count of the parameters used:
`conditionSql_of_alike` and `length_conditionParams_of_alike` are the two
halves of its step.
-/

namespace RowAccess

/-- Two arrays of the same length, or two values that are no arrays. -/
inductive Value.SameShape : Value → Value → Prop
  | arrays {xs ys : List Value} (length : xs.length = ys.length) :
      SameShape (.array xs) (.array ys)
  | others {v w : Value} (left : v.items? = none) (right : w.items? = none) : SameShape v w

/-- The same comparison of the same column, with a value of the same shape. -/
structure QueryCondition.Alike (c d : QueryCondition) : Prop where
  column : c.column = d.column
  operator : c.operator = d.operator
  value : c.value.SameShape d.value

namespace Query

/-- The same columns of the same table under conditions that are alike, one by one. -/
structure Alike (q q' : Query) : Prop where
  table : q.table = q'.table
  columns : q.columns = q'.columns
  conditions : List.Forall₂ QueryCondition.Alike q.conditions q'.conditions

variable {c d : QueryCondition} {cs ds : List QueryCondition} {column : String}
  {o : FilterOperator} {v : Value} {items others : List Value}

/-! ## One condition -/

theorem placeholders_congr (used : Nat) (h : items.length = others.length) :
    placeholders used items = placeholders used others := by
  rw [Clause.placeholders_eq, Clause.placeholders_eq, h]

/-- A value that is no array has one number, whatever the operator, unless null is asked for. -/
theorem conditionSql_of_single (used : Nat) (h : v.items? = none) :
    conditionSql used ⟨column, o, v⟩ =
      if o = .isNull then column ++ " IS NULL"
      else column ++ " " ++ o.sql ++ " $" ++ toString (used + 1) := by
  cases o with
  | equal => rfl
  | isNull => rfl
  | member =>
      cases v with
      | array items => cases h
      | _ => rfl

theorem length_conditionParams_of_single (h : v.items? = none) :
    (conditionParams ⟨column, o, v⟩).length = if o = .isNull then 0 else 1 := by
  cases o with
  | equal => rfl
  | isNull => rfl
  | member =>
      cases v with
      | array items => cases h
      | _ => rfl

theorem conditionSql_of_arrays (used : Nat) (h : items.length = others.length) :
    conditionSql used ⟨column, o, .array items⟩ = conditionSql used ⟨column, o, .array others⟩ := by
  cases o with
  | equal => rfl
  | isNull => rfl
  | member =>
      -- the empty list has a text of its own
      match items, others with
      | [], [] => rfl
      | item :: rest, other :: more =>
          show column ++ " IN (" ++ ", ".intercalate (placeholders used (item :: rest)) ++ ")" = _
          rw [placeholders_congr used h]
          rfl

/-- Conditions that are alike have the same text behind equally many parameters. -/
theorem conditionSql_of_alike (used : Nat) (h : c.Alike d) :
    conditionSql used c = conditionSql used d := by
  obtain ⟨column, o, v⟩ := c
  obtain ⟨column', o', w⟩ := d
  obtain ⟨rfl, rfl, hvalue⟩ := h
  cases hvalue with
  | arrays hlength => exact conditionSql_of_arrays used hlength
  | others hv hw =>
      exact (conditionSql_of_single used hv).trans (conditionSql_of_single used hw).symm

/-- Conditions that are alike use up equally many numbers. -/
theorem length_conditionParams_of_alike (h : c.Alike d) :
    (conditionParams c).length = (conditionParams d).length := by
  obtain ⟨column, o, v⟩ := c
  obtain ⟨column', o', w⟩ := d
  obtain ⟨rfl, rfl, hvalue⟩ := h
  cases hvalue with
  | arrays hlength =>
      cases o with
      | equal => rfl
      | isNull => rfl
      | member => exact hlength
  | others hv hw =>
      exact (length_conditionParams_of_single hv).trans (length_conditionParams_of_single hw).symm

/-! ## All conditions of a statement -/

theorem conditionTexts_of_alike (used : Nat) (h : List.Forall₂ QueryCondition.Alike cs ds) :
    conditionTexts used cs = conditionTexts used ds := by
  induction h generalizing used with
  | nil => rfl
  | cons hc _ ih =>
      rw [conditionTexts, conditionTexts, conditionSql_of_alike used hc,
        length_conditionParams_of_alike hc, ih]

theorem whereClause_of_alike (h : List.Forall₂ QueryCondition.Alike cs ds) :
    whereClause cs = whereClause ds := by
  have hempty : cs.isEmpty = ds.isEmpty := by cases h <;> rfl
  rw [whereClause, whereClause, hempty, conditionTexts_of_alike 0 h]

theorem length_params_of_alike (h : List.Forall₂ QueryCondition.Alike cs ds) :
    (cs.flatMap conditionParams).length = (ds.flatMap conditionParams).length := by
  induction h with
  | nil => rfl
  | cons hc _ ih =>
      rw [List.flatMap_cons, List.flatMap_cons, List.length_append, List.length_append,
        length_conditionParams_of_alike hc, ih]

/-- Two statements that differ in nothing but what the values of their conditions contain have the
same text and equally many parameters. -/
theorem sql_of_alike {q q' : Query} (h : q.Alike q') :
    q.sql = q'.sql ∧ q.params.length = q'.params.length := by
  have hprojection : q.projection = q'.projection := by
    rw [projection, projection, h.columns]
  refine ⟨?_, length_params_of_alike h.conditions⟩
  rw [sql, sql, hprojection, h.table, whereClause_of_alike h.conditions]

/-! ### Values that look like SQL -/

/-- The operators need not be those that the values pick. -/
def deskQuery (tenant kind owner seen : Value) (states : List Value) : Query :=
  { table := "docs", columns := ["id", "owner"]
    conditions :=
      [⟨"tenant", .equal, tenant⟩, ⟨"state", .member, .array states⟩, ⟨"kind", .member, kind⟩,
       ⟨"seen", .isNull, seen⟩, ⟨"tags", .member, .array []⟩, ⟨"owner", .equal, owner⟩] }

def deskPlain : Query :=
  deskQuery (.string "a") (.string "memo") (.array [.string "u1"]) .null
    [.string "open", .string "draft"]

def deskHostile : Query :=
  deskQuery (.string "' OR 1 = 1; DROP TABLE docs --") (.object [("$1", .array [.null, .null])])
    (.array [.array [.string "$6", .string "u2"]]) (.bool true) [.null, .string "?, $9)"]

/-- Five parameters each, and one text. -/
theorem sql_of_alike_desk :
    deskPlain.Alike deskHostile ∧
    deskHostile.sql = "SELECT id, owner FROM docs WHERE tenant = $1 AND state IN ($2, $3) " ++
      "AND kind IN $4 AND seen IS NULL AND FALSE AND owner = $5" ∧
    deskPlain.sql = deskHostile.sql ∧ deskPlain.params.length = deskHostile.params.length := by
  have halike : deskPlain.Alike deskHostile :=
    { table := rfl
      columns := rfl
      conditions :=
        .cons ⟨rfl, rfl, .others rfl rfl⟩ <| .cons ⟨rfl, rfl, .arrays rfl⟩ <|
          .cons ⟨rfl, rfl, .others rfl rfl⟩ <| .cons ⟨rfl, rfl, .others rfl rfl⟩ <|
            .cons ⟨rfl, rfl, .arrays rfl⟩ <| .cons ⟨rfl, rfl, .arrays rfl⟩ .nil }
  exact ⟨halike, by decide, sql_of_alike halike⟩

end Query

end RowAccess
