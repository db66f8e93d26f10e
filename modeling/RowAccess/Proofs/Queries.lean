import RowAccess.Proofs.Reads

/-!
# Restricted queries and reads in memory

A query is restricted by one decision and the merged filters; a read in
memory takes the same filters and decides about each row by itself.
`transform_ok_iff` says when a query may run and what is added to it.
Where the policies that decide about reads do not look at the row
(`RowBlind`), one decision speaks for all rows, and the two ways to the
rows of a table agree: `readRows_of_transform`.
-/

namespace RowAccess

/-! ## Conditions of a query -/

namespace Query

/-- The row meets every condition, each under its operator. -/
def meets (q : Query) (row : Row) : Bool :=
  q.conditions.all fun c => c.operator.holds (row.get? c.column) c.value

theorem foldl_andWhere (q : Query) (cs : List QueryCondition) :
    cs.foldl andWhere q = { q with conditions := q.conditions ++ cs } := by
  induction cs generalizing q with
  | nil => simp
  | cons c rest ih =>
      rw [List.foldl_cons, ih]
      simp [andWhere]

end Query

theorem FilterResult.all_queryConditions (r : FilterResult) (row : Row) :
    (r.queryConditions.all fun c => c.operator.holds (row.get? c.column) c.value) =
      row.satisfies r.conditions :=
  List.all_map

/-! ## Queries that may run -/

namespace Evaluator

variable {ev : Evaluator} {q q' : Query} {table : String} {ctx : Context}

theorem restricted_ok_iff {r : FilterResult} :
    (restricted q table r).result = .ok q' ↔
      r.invalidColumn? = none ∧
        q' = { q with conditions := q.conditions ++ r.queryConditions } := by
  unfold restricted
  cases r.invalidColumn? with
  | some column => simp
  | none => simp [Query.foldl_andWhere, eq_comm]

/-- A query may run if the table may be read, no filter fails and every filtered column has a
proper name; then the filters are added behind its conditions. -/
theorem transform_ok_iff :
    (ev.transform q table ctx).result = .ok q' ↔
      (ev.evaluate table .read ctx).result.allowed = true ∧
        ∃ r, (ev.filters table .read ctx).result = .ok r ∧ r.invalidColumn? = none ∧
          q' = { q with conditions := q.conditions ++ r.queryConditions } := by
  unfold transform
  rw [Report.result_andThen]
  cases (ev.evaluate table .read ctx).result.allowed with
  | false => simp
  | true =>
      rw [if_pos rfl, Report.result_andThen]
      cases (ev.filters table .read ctx).result with
      | error failure => simp
      | ok r => simp [restricted_ok_iff]

/-! ## Decisions that do not look at the row -/

/-- The predicates that decide about reads of the table come to the same on every row. -/
def RowBlind (ev : Evaluator) (table : String) (ctx : Context) : Prop :=
  ∀ t, ev.registry.find? table = some t → ∀ p ∈ t.deciders .read,
    ∀ f, p.body.decider? = some f → ∀ row : Option Row,
      f { ctx.about table .read with row } = f (ctx.about table .read)

end Evaluator

theorem Table.decide_allowed_congr {t : Table} {ctx ctx' : Context} {m : Moment}
    (hop : ctx'.operation = ctx.operation)
    (h : ∀ p ∈ t.deciders ctx.operation, p.verdict ctx' = p.verdict ctx) :
    (t.decide ctx' m).allowed = (t.decide ctx m).allowed := by
  have hdecides : ∀ p ∈ t.deciders ctx.operation, p.decides ctx' m = p.decides ctx m := by
    intro p hp
    unfold Policy.decides Policy.entry
    rw [h p hp]
  have hfind : (t.deciders ctx'.operation).find? (fun p => p.decides ctx' m) =
      (t.deciders ctx.operation).find? fun p => p.decides ctx m := by
    rw [hop, ← List.head?_filter, ← List.head?_filter, List.filter_congr hdecides]
  unfold decide
  rw [hfind]
  cases (t.deciders ctx.operation).find? fun p => p.decides ctx m <;> rfl

namespace Evaluator

variable {ev : Evaluator} {table : String} {ctx : Context}

/-- Where no predicate looks at the row, every row may be read or none may. -/
theorem evaluate_withRow (h : ev.RowBlind table ctx) (row : Row) :
    (ev.evaluate table .read (ctx.withRow row)).result.allowed =
      (ev.evaluate table .read ctx).result.allowed := by
  show (ev.decide ((ctx.withRow row).about table .read) ev.moment).allowed =
    (ev.decide (ctx.about table .read) ev.moment).allowed
  cases hsystem : ctx.caller.isSystem with
  | true => simp [decide, Context.about, Context.withRow, hsystem]
  | false =>
      cases hfind : ev.registry.find? table with
      | none => simp [decide, Context.about, Context.withRow, hfind]
      | some t =>
          cases hexempt : t.exempts ctx.caller with
          | true => simp [decide, Context.about, Context.withRow, hfind, hexempt]
          | false =>
              have hrow : ev.decide ((ctx.withRow row).about table .read) ev.moment =
                  t.decide ((ctx.withRow row).about table .read) ev.moment :=
                decide_of_registered ev.moment hsystem hfind hexempt
              have hwhole : ev.decide (ctx.about table .read) ev.moment =
                  t.decide (ctx.about table .read) ev.moment :=
                decide_of_registered ev.moment hsystem hfind hexempt
              rw [hrow, hwhole]
              refine Table.decide_allowed_congr rfl fun p hp => ?_
              unfold Policy.verdict
              cases hbody : p.body.decider? with
              | none => rfl
              | some f => exact congrArg Outcome.contain (h t hfind p hp f hbody (some row))

end Evaluator

namespace Engine

variable {e : Engine} {q : Query} {table : String} {ctx : Context}

/-- What the query path grants, the path in memory returns: if a query for the whole table may
run, the read succeeds, and the rows that come back, in their order and masked, are those that
meet every condition of the restricted query. -/
theorem readRows_of_transform (hblind : e.evaluator.RowBlind table ctx)
    (hgranted : (e.evaluator.transform (Query.onTable table) table ctx).result = .ok q)
    (rows : List Row) (o : MaskOptions) :
    (e.readRows table rows ctx o).result =
      .ok ((rows.filter q.meets).map fun row => (e.fields.maskRow table row ctx o).result) := by
  obtain ⟨hallowed, r, hfilters, -, rfl⟩ := Evaluator.transform_ok_iff.mp hgranted
  rw [readRows_ok hfilters]
  have hkeep : (fun row : Row => row.satisfies r.conditions &&
      (e.evaluator.evaluate table .read (ctx.withRow row)).result.allowed) =
        Query.meets ⟨table, [], r.queryConditions⟩ := by
    funext row
    rw [Evaluator.evaluate_withRow hblind, hallowed, Bool.and_true]
    exact (r.all_queryConditions row).symm
  rw [hkeep]
  rfl

/-! ### Members read what is open -/

/-- Members may read documents; two filters keep them to open ones that are not deleted. -/
def memberRules : TableRules :=
  let policy (name : String) (body : PolicyBody) : Policy :=
    { name, operations := [.read], priority := 0, body, activation := none, hints := none }
  { policies :=
      [policy "kept" (.filter fun _ => .value (Row.ofEntries [("deleted_at", .null)])),
       policy "members" (.allow fun ctx => .value (ctx.caller.hasRole "member")),
       policy "open" (.filter fun _ =>
        .value (Row.ofEntries [("status", .array [.string "open", .string "draft"])]))]
    defaultDeny := true, exempt := KeyMap.empty }

def memberEngine : Engine :=
  { settings := Settings.default
    evaluator :=
      { registry := KeyMap.empty.insert "docs" (memberRules.compiled "docs")
        environment := defaultEnvironment, features := KeyMap.empty, clock := .fixed default
        audit := none, denyUnregistered := false }
    fields := KeyMap.empty }

def memberContext : Context :=
  { (default : Context) with caller := (Caller.user "u1").withRoles ["member"] }

def memberRows : List Row :=
  [Row.ofEntries [("id", .string "a"), ("status", .string "closed")],
   Row.ofEntries [("id", .string "b"), ("status", .string "draft")],
   Row.ofEntries [("id", .string "c"), ("status", .string "open"), ("deleted_at", .bool true)]]

/-- Of the three documents the draft comes back, which alone meets the restricted query. -/
theorem readRows_of_transform_member :
    memberEngine.evaluator.RowBlind "docs" memberContext ∧
    ∃ q, (memberEngine.evaluator.transform (Query.onTable "docs") "docs" memberContext).result =
        .ok q ∧
      q.sql = "SELECT * FROM docs WHERE status IN ($1, $2) AND deleted_at IS NULL" ∧
      (memberEngine.readRows "docs" memberRows memberContext .keepAll).result =
        .ok ((memberRows.filter q.meets).map fun row =>
          (memberEngine.fields.maskRow "docs" row memberContext .keepAll).result) ∧
      (memberRows.filter q.meets).map (·.get? "id") = [some (.string "b")] := by
  have hblind : memberEngine.evaluator.RowBlind "docs" memberContext := by
    intro t ht p hp f hf row
    obtain rfl := Option.some.inj ht
    obtain rfl := List.mem_singleton.mp hp
    obtain rfl := Option.some.inj hf
    rfl
  exact ⟨hblind, _, rfl, by decide, readRows_of_transform hblind rfl memberRows .keepAll, rfl⟩

end Engine

end RowAccess
