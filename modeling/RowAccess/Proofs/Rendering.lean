import RowAccess.Proofs.Clauses
import RowAccess.Proofs.Queries

/-!
# What a statement says about rows

The meaning of the text behind the table of a query, read as clauses
over the numbered parameters: a comparison with null is never true, a
missing column counts as null, and a qualified name is resolved to the
column behind its last dot. `Clause.holds?` goes by numbers and knows
no operators, so it shares nothing with `FilterOperator.holds`.

`sql_queryConditions`: a statement that is built from conditions keeps
the rows that meet them on the resolved columns. Where no column is
qualified these are the rows that satisfy the conditions in memory
(`sql_agrees_with_satisfies`).
-/

namespace RowAccess

/-! ## The meaning of clauses -/

/-- The value that a column name stands for; none if it is missing or null. -/
def Row.resolve? (row : Row) (name : String) : Option Value :=
  match row.get? (Identifier.base name) with
  | some .null => none
  | v => v

namespace Clause

/-- Parameters are numbered from one. -/
def param? (params : List Value) : Nat → Option Value
  | 0 => none
  | n + 1 => params[n]?

/-- Whether the clause is true of the row; none if it names a parameter that is not there. -/
def holds? (params : List Value) (row : Row) : Clause → Option Bool
  | .equals column n =>
      (param? params n).map fun v => (row.resolve? column).any fun actual => actual.same v
  | .among column ns =>
      (ns.mapM (param? params)).map fun vs => (row.resolve? column).any fun actual =>
        vs.any actual.same
  | .isNull column => some (row.resolve? column).isNone
  | .never => some false

/-- Whether every clause is true of the row. -/
def allHold? (params : List Value) (row : Row) (cs : List Clause) : Option Bool :=
  (cs.mapM (holds? params row)).map (·.all id)

/-- Whether the text behind a query's table keeps the row; none if it cannot be read. -/
def whereHolds? (text : String) (params : List Value) (row : Row) : Option Bool :=
  (readWhere? text).bind (allHold? params row)

end Clause

/-! ## Conditions and their clauses -/

theorem Row.resolve?_eq (row : Row) (name : String) :
    row.resolve? name = FilterOperator.present? (row.get? (Identifier.base name)) := by
  unfold resolve? FilterOperator.present?
  cases row.get? (Identifier.base name) with
  | none => rfl
  | some v => cases v <;> rfl

namespace FilterOperator

variable {actual : Option Value}

theorem equal_holds (v : Value) :
    equal.holds actual v = (present? actual).any fun w => w.same v := by
  unfold holds
  cases present? actual <;> rfl

theorem member_holds (items : List Value) :
    member.holds actual (.array items) = (present? actual).any fun w => items.any w.same := by
  unfold holds
  cases present? actual <;> rfl

theorem forValue_holds_none (v : Value) : (forValue v).holds none v = v.isNull := by
  cases v <;> rfl

end FilterOperator

/-- The condition holds on the column that its name is resolved to. -/
def QueryCondition.meetsResolved (row : Row) (c : QueryCondition) : Bool :=
  c.operator.holds (row.get? (Identifier.base c.column)) c.value

namespace Clause

variable {before after params : List Value} {row : Row}

theorem param?_append (v : Value) :
    param? (before ++ v :: after) (before.length + 1) = some v := by
  simp [param?]

/-- The numbers behind those of `before` find the parameters behind it. -/
theorem mapM_param?_append (items : List Value) :
    (List.range' (before.length + 1) items.length).mapM (param? (before ++ items ++ after)) =
      some items := by
  induction items generalizing before with
  | nil => rfl
  | cons v rest ih =>
      -- `v` goes over to the parameters in front, and the numbers of the rest start behind it
      have hlength : before.length + 1 = (before ++ [v]).length := by simp
      have hrest : (List.range' (before.length + 1 + 1) rest.length).mapM
          (param? (before ++ [v] ++ rest ++ after)) = some rest := by
        rw [hlength]
        exact ih
      have hparams : before ++ v :: rest ++ after = before ++ [v] ++ rest ++ after := by simp
      rw [hparams, List.length_cons, List.range'_succ, List.mapM_cons, hrest, ← hparams,
        List.append_assoc, List.cons_append, param?_append]
      rfl

theorem holds?_equals (column : String) (v : Value) :
    holds? (before ++ [v] ++ after) row (.equals column (before.length + 1)) =
      some (FilterOperator.equal.holds (row.get? (Identifier.base column)) v) := by
  rw [holds?, List.append_assoc, List.singleton_append, param?_append, Row.resolve?_eq,
    FilterOperator.equal_holds]
  rfl

/-- The numbers of a condition's clause find its own parameters between those of the others. -/
theorem holds?_ofCondition {c : QueryCondition}
    (hop : c.operator = FilterOperator.forValue c.value) :
    holds? (before ++ Query.conditionParams c ++ after) row (ofCondition before.length c) =
      some (c.meetsResolved row) := by
  obtain ⟨column, operator, value⟩ := c
  obtain rfl : operator = FilterOperator.forValue value := hop
  unfold QueryCondition.meetsResolved
  cases value with
  | null =>
      show some (row.resolve? column).isNone = _
      rw [Row.resolve?_eq]
      rfl
  | array items =>
      show _ = some (FilterOperator.member.holds _ (.array items))
      rw [FilterOperator.member_holds]
      cases items with
      | nil => cases FilterOperator.present? (row.get? (Identifier.base column)) <;> rfl
      | cons item rest =>
          show holds? (before ++ (item :: rest) ++ after) row (.among column _) = _
          rw [holds?, mapM_param?_append, Row.resolve?_eq]
          rfl
  | bool b => exact holds?_equals column (.bool b)
  | number n => exact holds?_equals column (.number n)
  | string s => exact holds?_equals column (.string s)
  | object es => exact holds?_equals column (.object es)

/-- A reader that finds the parameters of one condition between those of the others finds those
of all conditions, clause by clause. -/
theorem mapM_ofConditions {β : Type} (read : List Value → Clause → Option β)
    {f : QueryCondition → β} {p : QueryCondition → Prop}
    (h : ∀ before after c, p c →
      read (before ++ Query.conditionParams c ++ after) (ofCondition before.length c) = some (f c))
    (before : List Value) {cs : List QueryCondition} (hcs : ∀ c ∈ cs, p c) :
    (ofConditions before.length cs).mapM
      (read (before ++ cs.flatMap Query.conditionParams)) = some (cs.map f) := by
  induction cs generalizing before with
  | nil => rfl
  | cons c rest ih =>
      obtain ⟨hc, hrest⟩ := List.forall_mem_cons.mp hcs
      -- the parameters of `c` count as used by the clauses behind it
      have hbehind := ih (before ++ Query.conditionParams c) hrest
      rw [List.length_append] at hbehind
      rw [List.flatMap_cons, ← List.append_assoc, ofConditions, List.mapM_cons, h _ _ c hc, hbehind]
      rfl

theorem allHold?_ofConditions (before : List Value) {cs : List QueryCondition}
    (hop : ∀ c ∈ cs, c.operator = FilterOperator.forValue c.value) :
    allHold? (before ++ cs.flatMap Query.conditionParams) row (ofConditions before.length cs) =
      some (cs.all fun c => c.meetsResolved row) := by
  have hclauses := mapM_ofConditions (fun params => holds? params row)
    (fun _ _ _ hc => holds?_ofCondition hc) before hop
  rw [allHold?, hclauses, Option.map_some, List.all_map]
  rfl

end Clause

/-! ## Statements -/

/-- The row meets every condition on the column that its name is resolved to. -/
def Row.satisfiesResolved (row conditions : Row) : Bool :=
  conditions.entries.all fun c =>
    (FilterOperator.forValue c.2).holds (row.get? (Identifier.base c.1)) c.2

theorem Row.satisfiesResolved_of_plain {conditions : Row}
    (h : ∀ name ∈ conditions.keys, Identifier.Plain name) (row : Row) :
    row.satisfiesResolved conditions = row.satisfies conditions := by
  unfold satisfiesResolved satisfies
  rw [Bool.eq_iff_iff, List.all_eq_true, List.all_eq_true]
  refine forall₂_congr fun c hc => ?_
  rw [Identifier.base_of_plain (h c.1 (List.mem_map_of_mem hc))]

/-- The text behind the table keeps the rows that meet the conditions on the resolved columns. -/
theorem Query.whereHolds?_params {q : Query} {row : Row}
    (hop : ∀ c ∈ q.conditions, c.operator = FilterOperator.forValue c.value)
    (hvalid : ∀ c ∈ q.conditions, Identifier.isValid c.column = true) :
    Clause.whereHolds? (whereClause q.conditions) q.params row =
      some (q.conditions.all fun c => c.meetsResolved row) := by
  rw [Clause.whereHolds?, Clause.readWhere?_whereClause hop hvalid, Option.bind_some]
  exact Clause.allHold?_ofConditions [] hop

namespace FilterResult

variable {r : FilterResult}

/-- A statement built from conditions is that of its columns and table with a text behind them
which keeps the rows that meet the conditions on the resolved columns. -/
theorem sql_queryConditions (hvalid : ∀ name ∈ r.conditions.keys, Identifier.isValid name = true)
    (table : String) (columns : List String) :
    let q := r.queryConditions.foldl Query.andWhere ⟨table, columns, []⟩
    ∃ text, q.sql = "SELECT " ++ q.projection ++ " FROM " ++ table ++ text ∧
      ∀ row : Row, Clause.whereHolds? text q.params row =
        some (row.satisfiesResolved r.conditions) := by
  have hop : ∀ c ∈ r.queryConditions, c.operator = FilterOperator.forValue c.value := by
    intro c hc
    obtain ⟨entry, -, rfl⟩ := List.mem_map.mp hc
    rfl
  have hcolumns : ∀ c ∈ r.queryConditions, Identifier.isValid c.column = true := by
    intro c hc
    obtain ⟨entry, hentry, rfl⟩ := List.mem_map.mp hc
    exact hvalid entry.1 (List.mem_map_of_mem hentry)
  intro q
  have hq : q = ⟨table, columns, r.queryConditions⟩ := Query.foldl_andWhere _ _
  rw [hq]
  refine ⟨Query.whereClause r.queryConditions, rfl, fun row => ?_⟩
  exact (Query.whereHolds?_params (q := ⟨table, columns, r.queryConditions⟩) hop hcolumns).trans
    (congrArg some List.all_map)

/-- The statement built from conditions on plain columns, read back as text over its numbered
parameters, keeps exactly the rows that satisfy the conditions in memory. -/
theorem sql_agrees_with_satisfies
    (hnames : ∀ name ∈ r.conditions.keys,
      Identifier.isValid name = true ∧ Identifier.Plain name)
    (table : String) (columns : List String) :
    let q := r.queryConditions.foldl Query.andWhere ⟨table, columns, []⟩
    ∃ text, q.sql = "SELECT " ++ q.projection ++ " FROM " ++ table ++ text ∧
      ∀ row : Row, Clause.whereHolds? text q.params row = some (row.satisfies r.conditions) := by
  obtain ⟨text, hsql, hholds⟩ :=
    sql_queryConditions (fun name h => (hnames name h).1) table columns
  refine ⟨text, hsql, fun row => (hholds row).trans ?_⟩
  rw [Row.satisfiesResolved_of_plain fun name h => (hnames name h).2]

/-- Documents of two kinds, one of them null, that belong to a user and are not deleted. -/
def assignedFilter : FilterResult :=
  { conditions := Row.ofEntries
      [("kind", .array [.null, .string "memo"]), ("owner", .string "u1"), ("deleted_at", .null)]
    applied := ["assigned"] }

def assignedRows : List Row :=
  [Row.ofEntries [("kind", .string "memo"), ("owner", .string "u1")],
   Row.ofEntries [("kind", .null), ("owner", .string "u1")],
   Row.ofEntries [("kind", .string "memo"), ("owner", .string "u1"), ("deleted_at", .bool false)]]

/-- Null is in the list, but no row is found by it. -/
theorem sql_agrees_with_satisfies_assigned :
    (∀ name ∈ assignedFilter.conditions.keys,
      Identifier.isValid name = true ∧ Identifier.Plain name) ∧
    let q := assignedFilter.queryConditions.foldl Query.andWhere ⟨"docs", ["id", "owner"], []⟩
    ∃ text, q.sql = "SELECT " ++ q.projection ++ " FROM " ++ "docs" ++ text ∧
      text = " WHERE kind IN ($1, $2) AND owner = $3 AND deleted_at IS NULL" ∧
      (∀ row : Row, Clause.whereHolds? text q.params row =
        some (row.satisfies assignedFilter.conditions)) ∧
      assignedRows.map (Clause.whereHolds? text q.params) =
        [some true, some false, some false] := by
  have hnames : ∀ name ∈ assignedFilter.conditions.keys,
      Identifier.isValid name = true ∧ Identifier.Plain name := by
    unfold Identifier.Plain
    decide
  obtain ⟨text, hsql, hholds⟩ := sql_agrees_with_satisfies hnames "docs" ["id", "owner"]
  refine ⟨hnames, text, hsql, ?_, hholds, ?_⟩
  · exact (String.append_right_inj "SELECT id, owner FROM docs").mp (hsql.symm.trans (by decide))
  · refine (List.map_congr_left fun row _ => hholds row).trans ?_
    rfl

end FilterResult

end RowAccess
