import RowAccess.Proofs.Decisions
import RowAccess.Proofs.Filters

/-!
# Which rows a read returns

A read in memory merges the filters, drops the rows that fail them,
decides about each of the others by itself and masks what is left.
`readRows_ok` puts the four stages into one: the result is one filter of
the rows, then one map. `readRows_declared` says which rows that filter
keeps, in terms of the policies as they were declared, and that no row
at all comes back when a filter fails.
-/

namespace RowAccess

/-- The moment at which an engine over these parts decides. -/
def EngineParts.moment (p : EngineParts) : Moment :=
  { environment := p.settings.engine.environment
    features := KeyMap.ofList (p.settings.features.entries.map fun e => (e.1, Value.bool e.2))
    time := p.clock.now }

theorem EngineParts.moment_of_build {p : EngineParts} {e : Engine} (h : p.build = .ok e) :
    e.evaluator.moment = p.moment := by
  obtain ⟨-, registry, fields, -, -, rfl⟩ := EngineParts.build_ok_iff.mp h
  rfl

theorem EngineParts.registry_of_build {p : EngineParts} {e : Engine} (h : p.build = .ok e) :
    Registry.ofSchema p.schema = .ok e.evaluator.registry := by
  obtain ⟨-, registry, fields, hrows, -, rfl⟩ := EngineParts.build_ok_iff.mp h
  exact hrows

/-! ## Callers that are not asked -/

/-- System callers and callers with an exempt role meet no policy of the table. -/
def Schema.Spares (s : Schema) (table : String) (c : Caller) : Prop :=
  c.isSystem = true ∨ ∃ rules, (table, rules) ∈ s ∧ c.holdsOneOf rules.exempt = true

theorem Schema.facing_of_spares {s : Schema} {table : String} {c : Caller} (hs : s.Accepted)
    (h : s.Spares table c) : s.facing table c = [] := by
  unfold facing
  rcases h with hsystem | ⟨rules, hmem, hexempt⟩
  · simp [hsystem]
  · have hfind := (Entries.find?_eq_some_iff hs.distinct).mpr hmem
    simp [hfind, hexempt]

theorem Evaluator.enforced?_of_spares {ev : Evaluator} {s : Schema} {ctx : Context}
    (hreg : Registry.ofSchema s = .ok ev.registry) (h : s.Spares ctx.table ctx.caller) :
    ev.enforced? ctx = none := by
  rw [enforced?_ofSchema hreg]
  rcases h with hsystem | ⟨rules, hmem, hexempt⟩
  · simp [hsystem]
  · have hs := Registry.ofSchema_ok_iff.mp ⟨_, hreg⟩
    have hfind := (Entries.find?_eq_some_iff hs.distinct).mpr hmem
    simp [hfind, hexempt]

namespace Engine

variable {e : Engine} {table : String} {ctx : Context} {o : MaskOptions} {rows : List Row}

/-! ## The stages of a read -/

theorem result_readRow (row : Row) :
    (e.readRow table ctx o row).result =
      if (e.evaluator.evaluate table .read (ctx.withRow row)).result.allowed then
        some (e.fields.maskRow table row ctx o).result
      else none := by
  unfold readRow
  rw [Report.result_andThen]
  split <;> rfl

/-- With merged conditions at hand, a read keeps the rows that satisfy them and may be read,
in order, and masks each. -/
theorem readRows_ok {r : FilterResult}
    (h : (e.evaluator.filters table .read ctx).result = .ok r) :
    (e.readRows table rows ctx o).result =
      .ok ((rows.filter fun row => row.satisfies r.conditions &&
        (e.evaluator.evaluate table .read (ctx.withRow row)).result.allowed).map
          fun row => (e.fields.maskRow table row ctx o).result) := by
  unfold readRows
  rw [Report.result_andThen, h]
  simp only [Report.result_andThen, Report.result_forEach, Report.result_noting, Except.ok.injEq]
  induction rows with
  | nil => rfl
  | cons row rest ih =>
      have hrow : (e.readRow table ctx o row).result = _ := result_readRow row
      cases hsat : row.satisfies r.conditions with
      | false => simpa [hsat] using ih
      | true =>
          cases hread : (e.evaluator.evaluate table .read (ctx.withRow row)).result.allowed with
          | false => simpa [hsat, hread, hrow] using ih
          | true => simpa [hsat, hread, hrow] using ih

theorem readRows_error {failure : FilterFailure}
    (h : (e.evaluator.filters table .read ctx).result = .error failure) :
    (e.readRows table rows ctx o).result = .error (.filterFailed failure) := by
  unfold readRows
  rw [Report.result_andThen, h]
  rfl

theorem readRows_admitted {p : EngineParts} (hbuild : p.build = .ok e)
    (hok : ∀ q ∈ p.schema.facing table ctx.caller,
      ¬ q.FailsToRestrict (ctx.about table .read) p.moment) :
    ∃ keep : Row → Bool,
      (∀ row, keep row = true ↔
        Policy.Admits (p.schema.facing table ctx.caller) (ctx.about table .read) p.moment row ∧
          (e.evaluator.evaluate table .read (ctx.withRow row)).result.allowed = true) ∧
      ∀ rows, (e.readRows table rows ctx o).result =
        .ok ((rows.filter keep).map fun row => (e.fields.maskRow table row ctx o).result) := by
  have hreg := EngineParts.registry_of_build hbuild
  rw [← EngineParts.moment_of_build hbuild] at hok ⊢
  obtain ⟨r, hr⟩ := (Evaluator.filtersAt_ok_iff hreg).mpr hok
  refine ⟨_, fun row => ?_, fun rows => readRows_ok hr⟩
  rw [Bool.and_eq_true, Evaluator.satisfies_filtersAt_iff hreg hr]

theorem readRows_failed {p : EngineParts} (hbuild : p.build = .ok e)
    (hfails : ∃ q ∈ p.schema.facing table ctx.caller,
      q.FailsToRestrict (ctx.about table .read) p.moment) :
    ∃ q ∈ p.schema.facing table ctx.caller,
      q.FailsToRestrict (ctx.about table .read) p.moment ∧
        ∃ failure, failure.policy = q.name ∧
          ∀ rows, (e.readRows table rows ctx o).result = .error (.filterFailed failure) := by
  have hreg := EngineParts.registry_of_build hbuild
  rw [← EngineParts.moment_of_build hbuild] at hfails ⊢
  cases hr : (e.evaluator.filters table .read ctx).result with
  | ok r =>
      obtain ⟨q, hq, hfail⟩ := hfails
      exact absurd hfail ((Evaluator.filtersAt_ok_iff hreg).mp ⟨r, hr⟩ q hq)
  | error failure =>
      obtain ⟨q, hq, hfail, hname⟩ := Evaluator.filtersAt_error hreg hr
      exact ⟨q, hq, hfail, failure, hname, fun rows => readRows_error hr⟩

theorem not_failsToRestrict_of_ok {p : EngineParts} (hbuild : p.build = .ok e)
    {out : List MaskedRow} (hread : (e.readRows table rows ctx o).result = .ok out) :
    ∀ q ∈ p.schema.facing table ctx.caller,
      ¬ q.FailsToRestrict (ctx.about table .read) p.moment := by
  intro q hq hfail
  obtain ⟨_, _, _, _, _, herror⟩ := readRows_failed (o := o) hbuild ⟨q, hq, hfail⟩
  rw [herror] at hread
  cases hread

/-- A read of rows against the declared policies that the caller is subject to. If none of
them fails to restrict, the rows that come back, in their order and masked, are those that
meet, on every column some filter names, what the first filter in rank asks of it, and that a
decision of their own allows. If one fails, the read is an error that names such a one. A
caller who is spared meets no filter. -/
theorem readRows_declared {p : EngineParts} (hbuild : p.build = .ok e) (table : String)
    (rows : List Row) (ctx : Context) (o : MaskOptions) :
    let ps := p.schema.facing table ctx.caller
    let asked := ctx.about table .read
    ((∀ q ∈ ps, ¬ q.FailsToRestrict asked p.moment) →
      ∃ keep : Row → Bool,
        (∀ row, keep row = true ↔
          (∀ k, (∃ q ∈ ps, ∃ w, q.Asks asked p.moment k w) →
            ∃ v, Policy.Binds ps asked p.moment k v ∧
              (FilterOperator.forValue v).holds (row.get? k) v = true) ∧
          (e.evaluator.evaluate table .read (ctx.withRow row)).result.allowed = true) ∧
        (e.readRows table rows ctx o).result =
          .ok ((rows.filter keep).map fun row => (e.fields.maskRow table row ctx o).result)) ∧
    ((∃ q ∈ ps, q.FailsToRestrict asked p.moment) →
      ∃ q ∈ ps, q.FailsToRestrict asked p.moment ∧ ∃ failure, failure.policy = q.name ∧
        (e.readRows table rows ctx o).result = .error (.filterFailed failure)) ∧
    (p.schema.Spares table ctx.caller →
      ps = [] ∧ (e.evaluator.filters table .read ctx).result = .ok FilterResult.empty) := by
  intro ps asked
  have hreg := EngineParts.registry_of_build hbuild
  refine ⟨fun hok => ?_, fun hfails => ?_, fun hspares => ⟨?_, ?_⟩⟩
  · obtain ⟨keep, hkeep, hread⟩ := readRows_admitted (o := o) hbuild hok
    refine ⟨keep, fun row => ?_, hread rows⟩
    rw [hkeep, Policy.admits_iff]
  · obtain ⟨q, hq, hfail, failure, hname, hread⟩ := readRows_failed (o := o) hbuild hfails
    exact ⟨q, hq, hfail, failure, hname, hread rows⟩
  · exact Schema.facing_of_spares (Registry.ofSchema_ok_iff.mp ⟨_, hreg⟩) hspares
  · exact Evaluator.filtersAt_of_unenforced (Evaluator.enforced?_of_spares hreg hspares)

/-! ### Two filters for one column -/

/-- The tenant filter is overridden on `tenant` by one of higher priority; rows with a secret
are refused one by one. -/
def pinnedRules : TableRules :=
  let policy (name : String) (priority : Int) (body : PolicyBody) : Policy :=
    { name, operations := [.read], priority, body, activation := none, hints := none }
  { policies :=
      [policy "tenant" 0 (.filter fun _ =>
        .value (Row.ofEntries [("tenant", .string "a"), ("open", .bool true)])),
       policy "no-secrets" 0 (.deny fun ctx => .value (ctx.rowValue? "secret").isSome),
       policy "pinned" 5 (.filter fun _ =>
        .value (Row.ofEntries [("tenant", .array [.string "b", .string "c"])]))]
    defaultDeny := false, exempt := KeyMap.empty }

def pinnedParts : EngineParts :=
  { settings := Settings.default, schema := [("docs", pinnedRules)], fieldSchema := []
    clock := .fixed default, audit := none }

def pinnedEngine : Engine :=
  pinnedParts.assemble (KeyMap.empty.insert "docs" (pinnedRules.compiled "docs")) KeyMap.empty

def pinnedRows : List Row :=
  [Row.ofEntries [("tenant", .string "a"), ("open", .bool true)],
   Row.ofEntries [("tenant", .string "b"), ("open", .bool true)],
   Row.ofEntries [("tenant", .string "c"), ("open", .bool true), ("secret", .null)]]

/-- Of the three rows only the one of tenant `b` comes back. -/
theorem readRows_declared_pinned :
    let ps := pinnedParts.schema.facing "docs" (default : Context).caller
    let asked := (default : Context).about "docs" .read
    pinnedParts.build = .ok pinnedEngine ∧
    (∀ q ∈ ps, ¬ q.FailsToRestrict asked pinnedParts.moment) ∧
    (pinnedEngine.readRows "docs" pinnedRows default .keepAll).result =
      .ok [⟨Row.ofEntries [("tenant", .string "b"), ("open", .bool true)], [], []⟩] ∧
    ∃ keep : Row → Bool,
      (∀ row, keep row = true ↔
        (∀ k, (∃ q ∈ ps, ∃ w, q.Asks asked pinnedParts.moment k w) →
          ∃ v, Policy.Binds ps asked pinnedParts.moment k v ∧
            (FilterOperator.forValue v).holds (row.get? k) v = true) ∧
        (pinnedEngine.evaluator.evaluate "docs" .read
          ((default : Context).withRow row)).result.allowed = true) ∧
      (pinnedEngine.readRows "docs" pinnedRows default .keepAll).result =
        .ok ((pinnedRows.filter keep).map fun row =>
          (pinnedEngine.fields.maskRow "docs" row default .keepAll).result) := by
  intro ps asked
  have hok : ∀ q ∈ ps, ¬ q.FailsToRestrict asked pinnedParts.moment := by
    have hps : ps = pinnedRules.policies := rfl
    rw [hps]
    intro q hq
    simp only [pinnedRules, List.mem_cons, List.not_mem_nil, or_false] at hq
    rcases hq with rfl | rfl | rfl <;> rintro ⟨f, hf, hfail⟩ <;> cases hf.filter <;>
      exact hfail _ rfl
  exact ⟨rfl, hok, rfl, (readRows_declared rfl "docs" pinnedRows default .keepAll).1 hok⟩

end Engine

end RowAccess
