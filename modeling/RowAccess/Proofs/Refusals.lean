import RowAccess.Proofs.Qualification
import RowAccess.Proofs.Queries

/-!
# Reads of what a query was refused

A query is refused when the read is denied, when a filter fails, and when
a filter names a column that is no identifier (`transform_error_iff`). A
read in memory of the same table is denied and fails with it, but it
looks at no column name. A row that was fetched under proper names has
none of the improper ones, and what a row lacks counts as null: the
improper conditions stop every row if one of them asks for a value, and
stop none if all of them ask for null (`readRows_of_refused`).
-/

namespace RowAccess

/-! ## Column names in conditions -/

namespace Row

/-- The columns whose names are identifiers. -/
def wellNamed (r : Row) : Row := r.onNames Identifier.isValid

/-- The columns that no identifier names. -/
def illNamed (r : Row) : Row := r.onNames fun k => !Identifier.isValid k

/-- Every column is named by an identifier. -/
def WellNamed (r : Row) : Prop := ∀ k ∈ r.keys, Identifier.isValid k = true

instance (r : Row) : Decidable r.WellNamed :=
  inferInstanceAs (Decidable (∀ k ∈ r.keys, Identifier.isValid k = true))

theorem mem_keys_illNamed {r : Row} {k : String} :
    k ∈ r.illNamed.keys ↔ k ∈ r.keys ∧ Identifier.isValid k = false := by
  rw [illNamed, keys_onNames, List.mem_filter, Bool.not_eq_true']

theorem satisfies_onNames (row conditions : Row) (test : String → Bool) :
    row.satisfies conditions = (row.satisfies (conditions.onNames fun k => !test k) &&
      row.satisfies (conditions.onNames test)) := by
  rw [Bool.eq_iff_iff, Bool.and_eq_true]
  simp only [satisfies, onNames, List.all_eq_true, List.mem_filter]
  constructor
  · intro h
    exact ⟨fun c hc => h c hc.1, fun c hc => h c hc.1⟩
  · rintro ⟨hill, hwell⟩ c hc
    cases htest : test c.1 with
    | false => exact hill c ⟨hc, by rw [htest]; rfl⟩
    | true => exact hwell c ⟨hc, htest⟩

theorem WellNamed.get?_eq_none {row : Row} (h : row.WellNamed) {k : String}
    (hk : Identifier.isValid k = false) : row.get? k = none := by
  have habsent : ¬ (row.get? k).isSome = true := by
    intro hsome
    have hvalid := h k (Entries.find?_isSome.mp hsome)
    rw [hk] at hvalid
    cases hvalid
  simpa using habsent

theorem WellNamed.satisfies_illNamed {row : Row} (h : row.WellNamed) (conditions : Row) :
    row.satisfies conditions.illNamed = conditions.illNamed.allNull := by
  rw [Bool.eq_iff_iff]
  unfold satisfies allNull
  rw [List.all_eq_true, List.all_eq_true]
  refine forall₂_congr fun c hc => ?_
  have hname : Identifier.isValid c.1 = false := by simpa using (List.mem_filter.mp hc).2
  rw [h.get?_eq_none hname, FilterOperator.forValue_holds_none]

theorem WellNamed.satisfies_eq {row : Row} (h : row.WellNamed) (conditions : Row) :
    row.satisfies conditions =
      (conditions.illNamed.allNull && row.satisfies conditions.wellNamed) := by
  rw [row.satisfies_onNames conditions Identifier.isValid, ← h.satisfies_illNamed conditions]
  rfl

end Row

/-! ## Refused queries -/

namespace Evaluator

variable {ev : Evaluator} {q : Query} {table : String} {ctx : Context} {err : AccessError}

theorem restricted_error_iff {r : FilterResult} :
    (restricted q table r).result = .error err ↔
      ∃ column, r.invalidColumn? = some column ∧ err = .invalidColumn table column := by
  unfold restricted
  cases r.invalidColumn? with
  | none => simp
  | some column => simp [eq_comm]

/-- A refusal names the first of these that applies: the read is denied, a filter fails, a
filtered column has an improper name. -/
theorem transform_error_iff :
    (ev.transform q table ctx).result = .error err ↔
      ((ev.evaluate table .read ctx).result.allowed = false ∧
        err = .denied ((ev.evaluate table .read ctx).result.toDenial table .read)) ∨
      ((ev.evaluate table .read ctx).result.allowed = true ∧
        ((∃ f, (ev.filters table .read ctx).result = .error f ∧ err = .filterFailed f) ∨
          ∃ r column, (ev.filters table .read ctx).result = .ok r ∧
            r.invalidColumn? = some column ∧ err = .invalidColumn table column)) := by
  unfold transform
  rw [Report.result_andThen]
  cases (ev.evaluate table .read ctx).result.allowed with
  | false => simp [eq_comm]
  | true =>
      rw [if_pos rfl, Report.result_andThen]
      cases (ev.filters table .read ctx).result with
      | error f => simp [eq_comm]
      | ok r => simp [restricted_error_iff]

end Evaluator

namespace Engine

variable {e : Engine} {q : Query} {table : String} {ctx : Context} {rows : List Row}
  {o : MaskOptions}

theorem readRows_of_denied (hblind : e.evaluator.RowBlind table ctx)
    (hdenied : (e.evaluator.evaluate table .read ctx).result.allowed = false) :
    (e.readRows table rows ctx o).result = .ok [] ∨
      ∃ f, (e.readRows table rows ctx o).result = .error (.filterFailed f) := by
  cases hfilters : (e.evaluator.filters table .read ctx).result with
  | error f => exact Or.inr ⟨f, readRows_error hfilters⟩
  | ok r =>
      refine Or.inl ?_
      rw [readRows_ok hfilters]
      simp only [Evaluator.evaluate_withRow hblind, hdenied, Bool.and_false, List.filter_false,
        List.map_nil]

/-- What a read in memory gives where a query over the table was refused. Nothing is returned if
the read is denied or a filter fails. An improper column name is no obstacle by itself: the rows
that satisfy the conditions are returned, and of rows under proper names these are the rows that
meet the proper conditions if all the improper ones ask for null, else none. -/
theorem readRows_of_refused {err : AccessError} (hblind : e.evaluator.RowBlind table ctx)
    (hrefused : (e.evaluator.transform q table ctx).result = .error err) (rows : List Row)
    (o : MaskOptions) :
    let read := (e.readRows table rows ctx o).result
    let masked (keep : Row → Bool) := (rows.filter keep).map fun row =>
      (e.fields.maskRow table row ctx o).result
    (∃ d, err = .denied d ∧ (read = .ok [] ∨ ∃ f, read = .error (.filterFailed f))) ∨
    (∃ f, err = .filterFailed f ∧ read = .error (.filterFailed f)) ∨
    ∃ column r, err = .invalidColumn table column ∧
      (e.evaluator.filters table .read ctx).result = .ok r ∧ column ∈ r.conditions.illNamed.keys ∧
      read = .ok (masked fun row => row.satisfies r.conditions) ∧
      ((∀ row ∈ rows, row.WellNamed) →
        (r.conditions.illNamed.allNull = true →
          read = .ok (masked fun row => row.satisfies r.conditions.wellNamed)) ∧
        (r.conditions.illNamed.allNull = false → read = .ok [])) := by
  intro read masked
  rcases Evaluator.transform_error_iff.mp hrefused with
    ⟨hdenied, rfl⟩ | ⟨hallowed, ⟨f, hfilters, rfl⟩ | ⟨r, column, hfilters, hcolumn, rfl⟩⟩
  · exact Or.inl ⟨_, rfl, readRows_of_denied hblind hdenied⟩
  · exact Or.inr (Or.inl ⟨f, rfl, readRows_error hfilters⟩)
  · refine Or.inr (Or.inr ⟨column, r, rfl, hfilters, ?_, ?_⟩)
    · have himproper := List.find?_some hcolumn
      rw [Bool.not_eq_true'] at himproper
      exact Row.mem_keys_illNamed.mpr ⟨List.mem_of_find?_eq_some hcolumn, himproper⟩
    · have hread : read = .ok (masked fun row => row.satisfies r.conditions) := by
        show (e.readRows table rows ctx o).result = _
        rw [readRows_ok hfilters]
        -- one decision speaks for all rows, and it was no reason to refuse
        simp only [Evaluator.evaluate_withRow hblind, hallowed, Bool.and_true]
        rfl
      refine ⟨hread, fun hrows => ?_⟩
      have hkeep : masked (fun row => row.satisfies r.conditions) = masked fun row =>
          r.conditions.illNamed.allNull && row.satisfies r.conditions.wellNamed :=
        congrArg (List.map _)
          (List.filter_congr fun row hrow => (hrows row hrow).satisfies_eq r.conditions)
      rw [hread, hkeep]
      constructor
      · intro hnull
        simp only [hnull, Bool.true_and]
      · intro hvalue
        simp only [hvalue, Bool.false_and]
        simp [masked]

/-! ### A tenant under a name with a hyphen -/

/-- Documents are kept to the tenant of the caller, null for a caller without one, and to open
ones. -/
def hyphenRules : TableRules :=
  let policy (name : String) (f : FilterFunction) : Policy :=
    { name, operations := [.read], priority := 0, body := .filter f, activation := none
      hints := none }
  { policies :=
      [policy "tenant" fun ctx => .value (Row.ofEntries
        [("tenant-id", (ctx.caller.tenantId.map Value.string).getD .null)]),
       policy "open" fun _ => .value (Row.ofEntries [("status", .string "open")])]
    defaultDeny := false, exempt := KeyMap.empty }

def hyphenEngine : Engine :=
  { settings := Settings.default
    evaluator :=
      { registry := KeyMap.empty.insert "docs" (hyphenRules.compiled "docs")
        environment := defaultEnvironment, features := KeyMap.empty, clock := .fixed default
        audit := none, denyUnregistered := false }
    fields := KeyMap.empty }

def hyphenRows : List Row :=
  [Row.ofEntries [("id", .string "a"), ("tenant", .string "t2"), ("status", .string "open")],
   Row.ofEntries [("id", .string "b"), ("tenant", .string "t1"), ("status", .string "closed")]]

def hyphenContext (tenant : Option String) : Context :=
  { (default : Context) with caller := { Caller.user "u1" with tenantId := tenant } }

theorem rowBlind_hyphen (ctx : Context) : hyphenEngine.evaluator.RowBlind "docs" ctx := by
  intro t ht p hp
  obtain rfl := Option.some.inj ht
  exact absurd hp List.not_mem_nil

/-- A caller with a tenant reads nothing: the improper condition asks for a value. -/
theorem readRows_of_refused_tenant :
    hyphenEngine.evaluator.RowBlind "docs" (hyphenContext (some "t1")) ∧
    (hyphenEngine.evaluator.transform (Query.onTable "docs") "docs"
      (hyphenContext (some "t1"))).result = .error (.invalidColumn "docs" "tenant-id") ∧
    (∀ row ∈ hyphenRows, row.WellNamed) ∧
    (hyphenEngine.readRows "docs" hyphenRows (hyphenContext (some "t1")) .keepAll).result =
      .ok [] := by
  have hrefused : (hyphenEngine.evaluator.transform (Query.onTable "docs") "docs"
      (hyphenContext (some "t1"))).result = .error (.invalidColumn "docs" "tenant-id") := rfl
  have hrows : ∀ row ∈ hyphenRows, row.WellNamed := by decide
  refine ⟨rowBlind_hyphen _, hrefused, hrows, ?_⟩
  rcases readRows_of_refused (rowBlind_hyphen _) hrefused hyphenRows .keepAll with
    ⟨_, hdenied, -⟩ | ⟨_, hfailed, -⟩ | ⟨_, r, -, hfilters, -, -, hproper⟩
  · cases hdenied
  · cases hfailed
  · cases hfilters
    exact (hproper hrows).2 rfl

/-- The query of a caller without a tenant is refused for the name of the column, and the open
document of another tenant is read all the same. -/
theorem readRows_escapes_refusal :
    hyphenEngine.evaluator.RowBlind "docs" (hyphenContext none) ∧
    (hyphenEngine.evaluator.transform (Query.onTable "docs") "docs" (hyphenContext none)).result =
      .error (.invalidColumn "docs" "tenant-id") ∧
    ∃ row : MaskedRow, row.data.get? "id" = some (.string "a") ∧
      (hyphenEngine.readRows "docs" hyphenRows (hyphenContext none) .keepAll).result = .ok [row] :=
  ⟨rowBlind_hyphen _, rfl, _, rfl, rfl⟩

end Engine

end RowAccess
