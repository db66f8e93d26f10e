import RowAccess.Proofs.MergeOrder
import RowAccess.Proofs.Refusals

/-!
# What a restricted query gains

A query is restricted as a whole or not at all. The read is decided
first, then the filters are merged, then the names of the merged columns
are looked through, and only then does the query change: it keeps its
table, its columns and the conditions that it has, and the merged ones
come behind them (`Query.Appends`).

`restricted_cases` has the last two steps for given conditions, with
`FirstIllNamed` for the column that is reported. `merge_reverse_cases` is
the step before: the filters in their turn come to merged conditions, or
one of them fails. `transform_declared` goes through all of them.
-/

namespace RowAccess

/-! ## Names of columns -/

/-- The first column of the row, in its order, that no identifier names. -/
def Row.FirstIllNamed (r : Row) (column : String) : Prop :=
  ∃ front back, r.keys = front ++ column :: back ∧
    (∀ k ∈ front, Identifier.isValid k = true) ∧ Identifier.isValid column = false

namespace FilterResult

variable {r : FilterResult} {ctx : Context} {fs : List (Policy × FilterFunction)}

theorem invalidColumn?_eq_none_iff : r.invalidColumn? = none ↔ r.conditions.WellNamed := by
  unfold invalidColumn? Row.WellNamed
  simp

theorem invalidColumn?_eq_some_iff {column : String} :
    r.invalidColumn? = some column ↔ r.conditions.FirstIllNamed column :=
  Row.find?_keys_eq_some_iff

/-- Filters in their turn give merged conditions, or one of them fails. -/
theorem merge_reverse_cases (ctx : Context) (fs : List (Policy × FilterFunction)) :
    (∃ failure : FilterFailure, merge ctx empty fs.reverse = .error failure ∧
      failure.IsLast ctx fs) ∨
    ∃ r, merge ctx empty fs.reverse = .ok r ∧ (∀ pf ∈ fs, ∃ row, pf.2 ctx = .value row) ∧
      r.MergeOf ctx fs := by
  cases hmerge : merge ctx empty fs.reverse with
  | error failure => exact Or.inl ⟨failure, rfl, isLast_of_merge hmerge⟩
  | ok r =>
      refine Or.inr ⟨r, rfl, fun pf hpf => ?_, mergeOf_of_merge hmerge⟩
      exact merge_ok_iff.mp ⟨r, hmerge⟩ pf (List.mem_reverse.mpr hpf)

end FilterResult

/-! ## Queries with more conditions -/

/-- The second query is the first one with a condition for each column of the row behind its own,
in the order of the row. Every column that was added is named by an identifier. -/
structure Query.Appends (q : Query) (row : Row) (q' : Query) : Prop where
  table : q'.table = q.table
  columns : q'.columns = q.columns
  conditions : q'.conditions =
    q.conditions ++ row.entries.map fun c => ⟨c.1, FilterOperator.forValue c.2, c.2⟩
  accepted : ∀ c ∈ q'.conditions.drop q.conditions.length, Identifier.isValid c.column = true

namespace Evaluator

variable {ev : Evaluator} {s : Schema} {q : Query} {table : String} {ctx : Context}
  {r : FilterResult}

/-- Merged conditions are added to a query, or their first improper column is reported. -/
theorem restricted_cases (q : Query) (table : String) (r : FilterResult) :
    (∃ column, r.conditions.FirstIllNamed column ∧
      (restricted q table r).result = .error (.invalidColumn table column)) ∨
    r.conditions.WellNamed ∧
      ∃ q', (restricted q table r).result = .ok q' ∧ q.Appends r.conditions q' := by
  cases hinvalid : r.invalidColumn? with
  | some column =>
      exact Or.inl ⟨column, FilterResult.invalidColumn?_eq_some_iff.mp hinvalid,
        restricted_error_iff.mpr ⟨column, hinvalid, rfl⟩⟩
  | none =>
      have hnamed := FilterResult.invalidColumn?_eq_none_iff.mp hinvalid
      refine Or.inr ⟨hnamed, _, restricted_ok_iff.mpr ⟨hinvalid, rfl⟩, rfl, rfl, rfl,
        fun c hc => ?_⟩
      have hadded : c ∈ r.queryConditions := by rwa [List.drop_left] at hc
      obtain ⟨e, he, rfl⟩ := List.mem_map.mp hadded
      exact hnamed e.1 (List.mem_map_of_mem he)

theorem transform_of_merged (hallowed : (ev.evaluate table .read ctx).result.allowed = true)
    (hr : (ev.filters table .read ctx).result = .ok r) :
    (ev.transform q table ctx).result = (restricted q table r).result := by
  unfold transform
  rw [Report.result_andThen, hallowed, if_pos rfl, Report.result_andThen, hr]

/-- A query that is restricted by the declared policies which the caller faces. If the read is
denied, so is the query, whatever the filters would come to. If it is allowed, the filters are
asked in their turn, and the answer is the failure of the last one that fails; or all give
conditions, and the answer is the first improper column of these in the merged order; or all their
columns are named by identifiers, and the query comes back with the merged conditions behind its
own. -/
theorem transform_declared (hreg : Registry.ofSchema s = .ok ev.registry) (q : Query)
    (table : String) (ctx : Context) :
    let asked := ctx.about table .read
    let d := (ev.evaluate table .read ctx).result
    let answer := (ev.transform q table ctx).result
    ∃ fs, (∀ gs, Policy.InTurn (s.facing table ctx.caller) asked ev.moment gs ↔ gs = fs) ∧
      (d.allowed = false → answer = .error (.denied (d.toDenial table .read))) ∧
      (d.allowed = true →
        (∃ failure : FilterFailure, failure.IsLast asked fs ∧
          answer = .error (.filterFailed failure)) ∨
        ∃ r : FilterResult, (∀ pf ∈ fs, ∃ row, pf.2 asked = .value row) ∧ r.MergeOf asked fs ∧
          ((∃ column, r.conditions.FirstIllNamed column ∧
            answer = .error (.invalidColumn table column)) ∨
          r.conditions.WellNamed ∧ ∃ q', answer = .ok q' ∧ q.Appends r.conditions q')) := by
  intro asked d answer
  obtain ⟨fs, hfs, hmerge⟩ := exists_inTurn_filtersAt hreg table .read ctx ev.moment
  refine ⟨fs, hfs, fun hdenied => transform_error_iff.mpr (Or.inl ⟨hdenied, rfl⟩),
    fun hallowed => ?_⟩
  rcases FilterResult.merge_reverse_cases asked fs with
    ⟨failure, hfails, hlast⟩ | ⟨r, hr, hrows, hof⟩
  · have hfilters : (ev.filters table .read ctx).result = .error failure := hmerge.trans hfails
    exact Or.inl ⟨failure, hlast,
      transform_error_iff.mpr (Or.inr ⟨hallowed, Or.inl ⟨failure, hfilters, rfl⟩⟩)⟩
  · have hanswer : answer = (restricted q table r).result :=
      transform_of_merged hallowed (hmerge.trans hr)
    rw [hanswer]
    exact Or.inr ⟨r, hrows, hof, restricted_cases q table r⟩

/-! ### An archive -/

def archivePolicy (name : String) (priority : Int) (body : PolicyBody) : Policy :=
  { name, operations := [.read], priority, body, activation := none, hints := none }

def archiveShelf : FilterFunction := fun ctx =>
  if ctx.caller.hasRole "clerk" then .failed "no shelf"
  else .value (Row.ofEntries [("shelf", .array [.string "a", .string "b"]), ("lost", .null)])

def archiveYear : FilterFunction := fun ctx =>
  if ctx.caller.hasRole "visitor" then
    .value (Row.ofEntries [("year", .null), ("1st page", .null), ("2nd page", .null)])
  else .value (Row.ofEntries [("year", .string "1999")])

/-- Guests are refused. For clerks a filter fails, and for visitors one names two columns that
there cannot be. -/
def archiveRules : TableRules :=
  { policies :=
      [archivePolicy "guests" 5 (.deny fun ctx => .value (ctx.caller.hasRole "guest")),
       archivePolicy "shelf" 1 (.filter archiveShelf),
       archivePolicy "year" 0 (.filter archiveYear)]
    defaultDeny := false, exempt := KeyMap.empty }

def archiveEvaluator : Evaluator :=
  { registry := KeyMap.empty.insert "archive" (archiveRules.compiled "archive")
    environment := defaultEnvironment, features := KeyMap.empty, clock := .fixed default
    audit := none, denyUnregistered := false }

def archiveContext (roles : List String) : Context :=
  { (default : Context) with caller := (Caller.user "u1").withRoles roles }

def archiveQuery : Query :=
  { table := "archive", columns := ["id", "title"]
    conditions := [⟨"id", .equal, .string "7"⟩] }

def archiveDenial : AccessDenied :=
  { table := "archive", operation := .read, policy := some "guests", field := none
    reason := "denied by policy", trace := [⟨"guests", .deny, true, true, none⟩] }

def archiveRestricted : Query :=
  { archiveQuery with
    conditions :=
      [⟨"id", .equal, .string "7"⟩, ⟨"year", .equal, .string "1999"⟩,
       ⟨"shelf", .member, .array [.string "a", .string "b"]⟩, ⟨"lost", .isNull, .null⟩] }

/-- Of the three causes the first one is reported. Without any of them the query comes back with
the year and the shelf behind its own condition. -/
theorem transform_declared_archive :
    let answer := fun roles =>
      (archiveEvaluator.transform archiveQuery "archive" (archiveContext roles)).result
    Registry.ofSchema [("archive", archiveRules)] = .ok archiveEvaluator.registry ∧
    answer ["guest", "clerk"] = .error (.denied archiveDenial) ∧
    answer ["clerk", "visitor"] = .error (.filterFailed ⟨"shelf", "no shelf"⟩) ∧
    answer ["visitor"] = .error (.invalidColumn "archive" "1st page") ∧
    answer [] = .ok archiveRestricted ∧
    ∃ r : FilterResult, archiveQuery.Appends r.conditions archiveRestricted := by
  intro answer
  have hreg : Registry.ofSchema [("archive", archiveRules)] = .ok archiveEvaluator.registry := rfl
  have hok : answer [] = .ok archiveRestricted := rfl
  refine ⟨hreg, ?_, rfl, rfl, hok, ?_⟩
  · obtain ⟨fs, -, hdenied, -⟩ :=
      transform_declared hreg archiveQuery "archive" (archiveContext ["guest", "clerk"])
    exact hdenied rfl
  · obtain ⟨fs, -, -, hallowed⟩ :=
      transform_declared hreg archiveQuery "archive" (archiveContext [])
    rcases hallowed rfl with
      ⟨failure, -, hanswer⟩ | ⟨r, -, -, ⟨column, -, hanswer⟩ | ⟨-, q', hanswer, happends⟩⟩
    · exact absurd (hok.symm.trans hanswer) nofun
    · exact absurd (hok.symm.trans hanswer) nofun
    · obtain rfl : archiveRestricted = q' := Except.ok.inj (hok.symm.trans hanswer)
      exact ⟨r, happends⟩

end Evaluator

end RowAccess
