import RowAccess.Proofs.Parameters
import RowAccess.Proofs.Rendering

/-!
# Conditions recovered from a statement

A statement on a known table that shows known columns is read back: the
text behind the table into clauses, and each clause, with the parameters
that its numbers find, into a condition (`Query.recover?`). What comes
back are the conditions that the statement was made from
(`recover?_sql`), so no two lists of conditions have the same text and
the same parameters.

Parameters may also be equal without being identical, as objects are whose
fields come in another order. The clauses depend on the text alone, and
reading them with equal parameters gives equal conditions
(`same_of_condition?`); this needs no second look at the text.
-/

namespace RowAccess

/-! ## Readings side by side -/

theorem forall₂_of_mapM {α β γ : Type} {f : α → Option β} {g : α → Option γ} {R : β → γ → Prop}
    {as : List α} {bs : List β} {cs : List γ}
    (h : ∀ a b c, f a = some b → g a = some c → R b c)
    (hf : as.mapM f = some bs) (hg : as.mapM g = some cs) : List.Forall₂ R bs cs := by
  induction as generalizing bs cs with
  | nil =>
      obtain rfl := Option.some.inj hf
      obtain rfl := Option.some.inj hg
      exact .nil
  | cons a rest ih =>
      rw [List.mapM_cons] at hf hg
      obtain ⟨b, hb, hf⟩ := Option.bind_eq_some_iff.mp hf
      obtain ⟨bs', hbs, hf⟩ := Option.bind_eq_some_iff.mp hf
      obtain ⟨c, hc, hg⟩ := Option.bind_eq_some_iff.mp hg
      obtain ⟨cs', hcs, hg⟩ := Option.bind_eq_some_iff.mp hg
      obtain rfl := Option.some.inj hf
      obtain rfl := Option.some.inj hg
      exact .cons (h a b c hb hc) (ih hbs hcs)

theorem Value.sameItems_iff {xs ys : List Value} :
    sameItems xs ys = true ↔ List.Forall₂ (fun x y => x.same y = true) xs ys := by
  induction xs generalizing ys with
  | nil => cases ys <;> simp [sameItems]
  | cons x rest ih => cases ys <;> simp [sameItems, ih]

/-! ## Conditions that can be told from their text -/

namespace QueryCondition

/-- The column is named by an identifier, the value picks the operator, and a list has members. -/
structure Legible (c : QueryCondition) : Prop where
  column : Identifier.isValid c.column = true
  operator : c.operator = FilterOperator.forValue c.value
  members : c.value ≠ .array []

/-- The same comparison of the same column, with an equal value. -/
structure Same (c d : QueryCondition) : Prop where
  column : c.column = d.column
  operator : c.operator = d.operator
  value : c.value.same d.value = true

end QueryCondition

namespace Clause

variable {before after params others : List Value} {c d : QueryCondition}
  {cs ds : List QueryCondition}

/-- The condition that the clause states about the parameters; none if a number stands for no
parameter, or if the clause does not name a column. -/
def condition? (params : List Value) : Clause → Option QueryCondition
  | .equals column n => (param? params n).map fun v => ⟨column, .equal, v⟩
  | .among column ns => (ns.mapM (param? params)).map fun vs => ⟨column, .member, .array vs⟩
  | .isNull column => some ⟨column, .isNull, .null⟩
  | .never => none

/-- The numbers of a condition's clause find its own parameters between those of the others. -/
theorem condition?_ofCondition (h : c.Legible) :
    condition? (before ++ Query.conditionParams c ++ after) (ofCondition before.length c) =
      some c := by
  obtain ⟨column, operator, value⟩ := c
  obtain ⟨-, hop, hmembers⟩ := h
  obtain rfl : operator = FilterOperator.forValue value := hop
  have hsingle (v : Value) : condition? (before ++ [v] ++ after)
      (.equals column (before.length + 1)) = some ⟨column, .equal, v⟩ := by
    rw [condition?, List.append_assoc, List.singleton_append, param?_append]
    rfl
  cases value with
  | null => rfl
  | array items =>
      cases items with
      | nil => exact absurd rfl hmembers
      | cons item rest =>
          show condition? (before ++ (item :: rest) ++ after) (.among column _) = _
          rw [condition?, mapM_param?_append]
          rfl
  | bool b => exact hsingle (.bool b)
  | number n => exact hsingle (.number n)
  | string s => exact hsingle (.string s)
  | object es => exact hsingle (.object es)

theorem mapM_condition?_ofConditions (before : List Value) (h : ∀ c ∈ cs, c.Legible) :
    (ofConditions before.length cs).mapM
      (condition? (before ++ cs.flatMap Query.conditionParams)) = some cs := by
  have hclauses := mapM_ofConditions condition? (fun _ _ _ hc => condition?_ofCondition hc) before h
  rwa [List.map_id'] at hclauses

theorem same_of_param? (h : Value.sameItems params others = true) (n : Nat) {v w : Value}
    (hv : param? params n = some v) (hw : param? others n = some w) : v.same w = true := by
  cases n with
  | zero => cases hv
  | succ n =>
      obtain ⟨hn, rfl⟩ := List.getElem?_eq_some_iff.mp hv
      obtain ⟨hn', rfl⟩ := List.getElem?_eq_some_iff.mp hw
      exact (Value.sameItems_iff.mp h).get hn hn'

/-- Read with equal parameters, a clause states equal conditions. -/
theorem same_of_condition? (h : Value.sameItems params others = true) (clause : Clause)
    (hc : condition? params clause = some c) (hd : condition? others clause = some d) :
    c.Same d := by
  cases clause with
  | equals column n =>
      obtain ⟨v, hv, rfl⟩ := Option.map_eq_some_iff.mp hc
      obtain ⟨w, hw, rfl⟩ := Option.map_eq_some_iff.mp hd
      exact ⟨rfl, rfl, same_of_param? h n hv hw⟩
  | among column ns =>
      obtain ⟨vs, hvs, rfl⟩ := Option.map_eq_some_iff.mp hc
      obtain ⟨ws, hws, rfl⟩ := Option.map_eq_some_iff.mp hd
      have hitems : Value.sameItems vs ws = true :=
        Value.sameItems_iff.mpr (forall₂_of_mapM (fun n _ _ => same_of_param? h n) hvs hws)
      exact ⟨rfl, rfl, hitems⟩
  | isNull column =>
      obtain rfl := Option.some.inj hc
      obtain rfl := Option.some.inj hd
      exact ⟨rfl, rfl, rfl⟩
  | never => cases hc

end Clause

/-! ## Statements read back -/

namespace Query

variable {table : String} {columns : List String} {cs ds : List QueryCondition}

/-- What the text of a statement has in front of its conditions. -/
def front (table : String) (columns : List String) : String :=
  "SELECT " ++ projection ⟨table, columns, []⟩ ++ " FROM " ++ table

/-- The clauses of a statement on the table that shows the columns. -/
def clauses? (table : String) (columns : List String) (text : String) : Option (List Clause) :=
  (text.toList.dropPrefix? (front table columns).toList).bind fun behind =>
    Clause.readWhere? (String.ofList behind)

/-- The conditions of a statement on the table that shows the columns, from the text and the
parameters of the statement. -/
def recover? (table : String) (columns : List String) (text : String) (params : List Value) :
    Option (List QueryCondition) :=
  (clauses? table columns text).bind (·.mapM (Clause.condition? params))

theorem clauses?_sql (h : ∀ c ∈ cs, c.Legible) :
    clauses? table columns (sql ⟨table, columns, cs⟩) = some (Clause.ofConditions 0 cs) := by
  have htext : (sql ⟨table, columns, cs⟩).toList =
      (front table columns).toList ++ (whereClause cs).toList := String.toList_append
  have hread : Clause.readWhere? (whereClause cs) = some (Clause.ofConditions 0 cs) :=
    Clause.readWhere?_whereClause (fun c hc => (h c hc).operator) (fun c hc => (h c hc).column)
  rw [clauses?, htext, List.dropPrefix?_append_of_beq _ (beq_self_eq_true _), Option.bind_some,
    String.ofList_toList, hread]

theorem recover?_sql (h : ∀ c ∈ cs, c.Legible) :
    recover? table columns (sql ⟨table, columns, cs⟩) (params ⟨table, columns, cs⟩) = some cs := by
  rw [recover?, clauses?_sql h]
  exact Clause.mapM_condition?_ofConditions [] h

/-- Statements on one table that show the same columns, made from conditions that can be told from
their text. The conditions are recovered from the text and the parameters. So conditions with the
same text and the same parameters are the same, and if the parameters are equal without being
identical, so are the conditions. -/
theorem sql_recoverable (table : String) (columns : List String) (hcs : ∀ c ∈ cs, c.Legible)
    (hds : ∀ d ∈ ds, d.Legible) :
    let q := cs.foldl andWhere ⟨table, columns, []⟩
    let q' := ds.foldl andWhere ⟨table, columns, []⟩
    recover? table columns q.sql q.params = some cs ∧
    (q.sql = q'.sql → q.params = q'.params → cs = ds) ∧
    (q.sql = q'.sql → Value.sameItems q.params q'.params = true →
      List.Forall₂ QueryCondition.Same cs ds) := by
  intro q q'
  have hq : q = ⟨table, columns, cs⟩ := foldl_andWhere _ _
  have hq' : q' = ⟨table, columns, ds⟩ := foldl_andWhere _ _
  rw [hq, hq']
  refine ⟨recover?_sql hcs, fun hsql hparams => ?_, fun hsql hparams => ?_⟩
  · have hrecover : recover? table columns (sql ⟨table, columns, ds⟩)
        (params ⟨table, columns, ds⟩) = some cs := by
      rw [← hsql, ← hparams]
      exact recover?_sql hcs
    exact Option.some.inj (hrecover.symm.trans (recover?_sql hds))
  · have hclauses : Clause.ofConditions 0 cs = Clause.ofConditions 0 ds := by
      have hread : clauses? table columns (sql ⟨table, columns, cs⟩) = _ := clauses?_sql hcs
      rw [hsql, clauses?_sql hds] at hread
      exact (Option.some.inj hread).symm
    have hc : (Clause.ofConditions 0 cs).mapM
        (Clause.condition? (params ⟨table, columns, cs⟩)) = some cs :=
      Clause.mapM_condition?_ofConditions [] hcs
    have hd : (Clause.ofConditions 0 ds).mapM
        (Clause.condition? (params ⟨table, columns, ds⟩)) = some ds :=
      Clause.mapM_condition?_ofConditions [] hds
    rw [hclauses] at hc
    exact forall₂_of_mapM (fun clause _ _ => Clause.same_of_condition? hparams clause) hc hd

/-- The text of a list without members does not say which column is asked about. -/
example : sql ⟨"docs", [], [⟨"state", .member, .array []⟩]⟩ =
    sql ⟨"docs", [], [⟨"owner", .member, .array []⟩]⟩ := rfl

/-! ### Columns named like keywords -/

/-- The place is an object whose fields come in this order. -/
def keywordConditions (place : List (String × Value)) : List QueryCondition :=
  [⟨"AND", .member, .array [.string "a", .null, .array []]⟩, ⟨"IS", .isNull, .null⟩,
   ⟨"IN", .equal, .string "FALSE"⟩, ⟨"WHERE.FALSE", .member, .array [.bool true]⟩,
   ⟨"NULL", .equal, .object place⟩]

def eastNorth : List (String × Value) := [("east", .string "1"), ("north", .null)]

def northEast : List (String × Value) := [("north", .null), ("east", .string "1")]

theorem legible_keywordConditions (place : List (String × Value)) :
    ∀ c ∈ keywordConditions place, c.Legible := by
  intro c hc
  simp only [keywordConditions, List.mem_cons, List.not_mem_nil, or_false] at hc
  rcases hc with rfl | rfl | rfl | rfl | rfl
  all_goals
    refine ⟨?_, rfl, nofun⟩
    dsimp only
    decide

/-- The two statements differ in the order of the fields of a parameter, and so do the conditions
that come back. -/
theorem sql_recoverable_keywords :
    let q := (keywordConditions eastNorth).foldl andWhere ⟨"docs", ["FROM"], []⟩
    let q' := (keywordConditions northEast).foldl andWhere ⟨"docs", ["FROM"], []⟩
    (∀ c ∈ keywordConditions eastNorth, c.Legible) ∧
    (∀ c ∈ keywordConditions northEast, c.Legible) ∧
    q.sql = "SELECT FROM FROM docs WHERE AND IN ($1, $2, $3) AND IS IS NULL AND IN = $4 " ++
      "AND WHERE.FALSE IN ($5) AND NULL = $6" ∧
    q.sql = q'.sql ∧ Value.sameItems q.params q'.params = true ∧
    recover? "docs" ["FROM"] q.sql q.params = some (keywordConditions eastNorth) ∧
    List.Forall₂ QueryCondition.Same (keywordConditions eastNorth)
      (keywordConditions northEast) := by
  intro q q'
  have hcs := legible_keywordConditions eastNorth
  have hds := legible_keywordConditions northEast
  have hparams : Value.sameItems q.params q'.params = true := by decide
  obtain ⟨hrecover, -, hsame⟩ := sql_recoverable "docs" ["FROM"] hcs hds
  exact ⟨hcs, hds, by decide, rfl, hparams, hrecover, hsame rfl hparams⟩

end Query

end RowAccess
