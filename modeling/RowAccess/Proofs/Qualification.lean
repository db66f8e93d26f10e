import RowAccess.Proofs.Rendering
import RowAccess.Proofs.Revision

/-!
# Filters on qualified columns

A filter may name its columns plainly or with the table in front. To
compare the two, every filter of a table is revised to emit qualified
names (`EngineParts.qualified`); the merged conditions are then those of
before under qualified names, in the same order (`filters_qualified`).

As a statement nothing changes: SQL resolves the names, and the text
keeps the same rows (`transform_qualified`). A read in memory looks the
qualified names up as they are, and a row that was fetched under plain
names has none of them: the read returns every row that may be read, or
none at all (`readRows_qualified`).
-/

namespace RowAccess

/-! ## Renamed columns -/

namespace Entries

variable {α : Type} {g : String → String}

def renamed (g : String → String) (es : List (String × α)) : List (String × α) :=
  es.map fun e => (g e.1, e.2)

@[simp] theorem names_renamed (es : List (String × α)) :
    names (renamed g es) = (names es).map g := by
  simp [names, renamed, Function.comp_def]

theorem renamed_put (hg : Function.Injective g) (es : List (String × α)) (name : String) (v : α) :
    renamed g (put es name v) = put (renamed g es) (g name) v := by
  induction es with
  | nil => rfl
  | cons e rest ih =>
      have hrenamed : renamed g (e :: rest) = (g e.1, e.2) :: renamed g rest := rfl
      rw [hrenamed, put, put]
      by_cases h : e.1 = name
      · rw [if_pos h, if_pos (congrArg g h)]
        rfl
      · rw [if_neg h, if_neg (hg.ne h), ← ih]
        rfl

theorem renamed_putAll (hg : Function.Injective g) (es more : List (String × α)) :
    renamed g (putAll es more) = putAll (renamed g es) (renamed g more) := by
  induction more generalizing es with
  | nil => rfl
  | cons e rest ih =>
      have hput : putAll es (e :: rest) = putAll (put es e.1 e.2) rest := rfl
      rw [hput, ih, renamed_put hg]
      rfl

end Entries

namespace Row

/-- The columns are plain names. -/
def Plain (row : Row) : Prop := ∀ name ∈ row.keys, Identifier.Plain name

/-- The table put in front of every column. -/
def qualified (table : String) (r : Row) : Row :=
  ⟨Entries.renamed (Identifier.qualify table) r.entries, by
    rw [Entries.names_renamed]
    exact r.distinct.map (Identifier.qualify_injective table)⟩

/-- Every value is null. -/
def allNull (r : Row) : Bool := r.entries.all fun e => e.2.isNull

variable {table : String} {row : Row}

theorem qualified_insert (r : Row) (name : String) (v : Value) :
    (r.insert name v).qualified table =
      (r.qualified table).insert (Identifier.qualify table name) v :=
  ext (Entries.renamed_put (Identifier.qualify_injective table) r.entries name v)

theorem qualified_extend (r s : Row) :
    (r.extend s).qualified table = (r.qualified table).extend (s.qualified table) :=
  ext (Entries.renamed_putAll (Identifier.qualify_injective table) r.entries s.entries)

/-! ### Conditions on qualified columns -/

theorem Plain.get?_qualify (h : row.Plain) (name : String) :
    row.get? (Identifier.qualify table name) = none := by
  have habsent : ¬ (row.get? (Identifier.qualify table name)).isSome = true := fun hsome =>
    Identifier.qualify_not_plain table name (h _ (Entries.find?_isSome.mp hsome))
  simpa using habsent

/-- In memory a row under plain names meets qualified conditions if all of them ask for null. -/
theorem Plain.satisfies_qualified (h : row.Plain) (conditions : Row) :
    row.satisfies (conditions.qualified table) = conditions.allNull := by
  unfold satisfies qualified Entries.renamed allNull
  rw [List.all_map]
  refine congrArg (List.all conditions.entries) (funext fun c => ?_)
  rw [Function.comp_apply, h.get?_qualify, FilterOperator.forValue_holds_none]

/-- On one condition, the two names agree on the rows that meet it if it asks for null, and on
those that fail it otherwise. -/
theorem Plain.satisfies_qualify_iff (h : row.Plain) (name : String) (v : Value) :
    row.satisfies (Row.empty.insert (Identifier.qualify table name) v) =
        row.satisfies (Row.empty.insert name v) ↔
      (row.satisfies (Row.empty.insert name v) = true ↔ v = .null) := by
  have hqualified : Row.empty.insert (Identifier.qualify table name) v =
      (Row.empty.insert name v).qualified table := (qualified_insert Row.empty name v).symm
  have hnull : (Row.empty.insert name v).allNull = true ↔ v = .null := by
    show (v.isNull && true) = true ↔ v = .null
    cases v <;> simp [Value.isNull]
  rw [hqualified, h.satisfies_qualified, Bool.eq_iff_iff, hnull]
  exact iff_comm

theorem mem_keys_qualified {r : Row} {k : String} :
    k ∈ (r.qualified table).keys ↔ ∃ name ∈ r.keys, Identifier.qualify table name = k := by
  show k ∈ Entries.names (Entries.renamed _ r.entries) ↔ _
  rw [Entries.names_renamed, List.mem_map]
  rfl

/-- SQL resolves the names. -/
theorem satisfiesResolved_qualified {conditions : Row} (h : conditions.Plain) (row : Row) :
    row.satisfiesResolved (conditions.qualified table) = row.satisfies conditions := by
  rw [← satisfiesResolved_of_plain h]
  unfold satisfiesResolved qualified Entries.renamed
  rw [List.all_map]
  refine congrArg (List.all conditions.entries) (funext fun c => ?_)
  rw [Function.comp_apply, Identifier.base_qualify]

end Row

/-! ## Qualified filters -/

def FilterResult.qualified (table : String) (r : FilterResult) : FilterResult :=
  ⟨r.conditions.qualified table, r.applied⟩

def PolicyBody.qualified (table : String) : PolicyBody → PolicyBody
  | .filter f => .filter fun ctx => (f ctx).map (Row.qualified table)
  | b => b

/-- A filter emits its columns with the table in front; other policies stay as they are. -/
def Policy.qualified (table : String) (p : Policy) : Policy :=
  { p with body := p.body.qualified table }

def Policy.qualifiedIn (table t : String) (p : Policy) : Policy :=
  if t = table then p.qualified table else p

theorem Policy.qualifiedIn_name {table t : String} {p : Policy} :
    (Policy.qualifiedIn table t p).name = p.name := by
  unfold qualifiedIn
  split <;> rfl

/-- The filters of the one table emit qualified columns. -/
def EngineParts.qualified (p : EngineParts) (table : String) : EngineParts :=
  p.revised (Policy.qualifiedIn table)

@[simp] theorem Policy.kind_qualified (table : String) (p : Policy) :
    (p.qualified table).kind = p.kind := by
  unfold kind qualified
  cases p.body <;> rfl

theorem Policy.isActive_qualified (table : String) (p : Policy) (m : Moment) :
    (p.qualified table).isActive m = p.isActive m := by
  unfold isActive
  rw [kind_qualified]
  rfl

theorem Policy.qualified_revisesFilters (table : String) (ps : List Policy) :
    Policy.RevisesFilters ps (Policy.qualified table) where
  priority := fun _ => rfl
  kind := Policy.kind_qualified table
  operations := fun _ _ => rfl
  others := by
    intro q _ hkind
    obtain ⟨name, operations, priority, body, activation, hints⟩ := q
    cases body with
    | filter f => exact absurd rfl hkind
    | allow f => rfl
    | deny f => rfl
    | validate f => rfl

/-- A filter policy with its function, as the filters of a table are listed. -/
def Policy.qualifiedFilter (table : String) (pf : Policy × FilterFunction) :
    Policy × FilterFunction :=
  (pf.1.qualified table, fun ctx => (pf.2 ctx).map (Row.qualified table))

theorem FilterResult.merge_qualified (ctx : Context) (table : String) (r : FilterResult)
    (fs : List (Policy × FilterFunction)) :
    merge ctx (r.qualified table) (fs.map (Policy.qualifiedFilter table)) =
      (merge ctx r fs).map (FilterResult.qualified table) := by
  induction fs generalizing r with
  | nil => rfl
  | cons pf rest ih =>
      rw [List.map_cons, Policy.qualifiedFilter, merge, merge]
      cases pf.2 ctx with
      | value row =>
          have hrow : qualified table ⟨r.conditions.extend row, r.applied ++ [pf.1.name]⟩ =
              ⟨(r.qualified table).conditions.extend (row.qualified table),
                r.applied ++ [pf.1.name]⟩ := by
            rw [qualified, Row.qualified_extend]
            rfl
          simp only [Outcome.map, Outcome.contain]
          rw [← ih, hrow]
          rfl
      | failed message => rfl
      | crashed crash => rfl

namespace Table

variable {rules : TableRules} {table : String}

theorem activeFilters_qualified (op : Operation) (m : Moment) :
    ((rules.revised (Policy.qualified table)).compiled table).activeFilters op m =
      ((rules.compiled table).activeFilters op m).map (Policy.qualifiedFilter table) := by
  have hfunction : ∀ p : Policy, (p.qualified table).restriction? op m =
      (p.restriction? op m).map (Policy.qualifiedFilter table) := by
    intro p
    have hbody : ((p.qualified table).body.filter?.map fun f => (p.qualified table, f)) =
        (p.body.filter?.map fun f => (p, f)).map (Policy.qualifiedFilter table) := by
      obtain ⟨name, operations, priority, body, activation, hints⟩ := p
      cases body <;> rfl
    exact Policy.restriction?_mapped rfl (p.isActive_qualified table m) hbody
  exact activeFilters_mapped
    (policies_revised (f := Policy.qualified table) (fun _ => rfl) table) hfunction

theorem filters_qualified (ctx : Context) (m : Moment) :
    ((rules.revised (Policy.qualified table)).compiled table).filters ctx m =
      ((rules.compiled table).filters ctx m).map (FilterResult.qualified table) := by
  unfold filters
  rw [activeFilters_qualified, ← List.map_reverse]
  exact FilterResult.merge_qualified ctx table FilterResult.empty _

end Table

/-! ## Statements and reads -/

namespace Evaluator

variable {ev : Evaluator} {s : Schema} {registry : Registry} {table : String}

theorem filters_qualified (hreg : Registry.ofSchema s = .ok ev.registry)
    (hreg' : Registry.ofSchema (s.revised (Policy.qualifiedIn table)) = .ok registry)
    (op : Operation) (ctx : Context) :
    (filters { ev with registry } table op ctx).result =
      (ev.filters table op ctx).result.map (FilterResult.qualified table) := by
  have hin : Policy.qualifiedIn table table = Policy.qualified table := funext fun q => if_pos rfl
  show (filtersAt { ev with registry } table op ctx ev.moment).result =
    (ev.filtersAt table op ctx ev.moment).result.map (FilterResult.qualified table)
  rcases enforced?_revised hreg hreg' (ctx.about table op) with
    ⟨hnone, hnone'⟩ | ⟨rules, hsome, hsome'⟩
  · rw [filtersAt_of_unenforced hnone, filtersAt_of_unenforced hnone']
    rfl
  · rw [filtersAt_of_enforced hsome, filtersAt_of_enforced hsome']
    show ((rules.revised (Policy.qualifiedIn table table)).compiled table).filters _ _ = _
    rw [hin]
    exact Table.filters_qualified _ _

theorem decide_qualified (hreg : Registry.ofSchema s = .ok ev.registry)
    (hreg' : Registry.ofSchema (s.revised (Policy.qualifiedIn table)) = .ok registry)
    (ctx : Context) (m : Moment) : decide { ev with registry } ctx m = ev.decide ctx m := by
  refine decide_revised hreg hreg' (fun rules _ => ?_) m
  by_cases htable : ctx.table = table
  · have hin : Policy.qualifiedIn table ctx.table = Policy.qualified table :=
      funext fun q => if_pos htable
    rw [hin]
    exact Policy.qualified_revisesFilters table rules.policies
  · have hin : Policy.qualifiedIn table ctx.table = id := funext fun q => if_neg htable
    rw [hin]
    exact ⟨fun _ => rfl, fun _ => rfl, fun _ _ => rfl, fun _ _ _ => rfl⟩

/-- As a statement, qualified filters keep the rows that satisfy the plain conditions. -/
theorem transform_qualified (hreg : Registry.ofSchema s = .ok ev.registry)
    (hreg' : Registry.ofSchema (s.revised (Policy.qualifiedIn table)) = .ok registry)
    {ctx : Context} {r : FilterResult} (hfilters : (ev.filters table .read ctx).result = .ok r)
    (hallowed : (ev.evaluate table .read ctx).result.allowed = true)
    (htable : Identifier.isValid table = true)
    (hnames : ∀ name ∈ r.conditions.keys,
      Identifier.isValid name = true ∧ Identifier.Plain name) :
    ∃ q text, (transform { ev with registry } (Query.onTable table) table ctx).result = .ok q ∧
      q.sql = "SELECT * FROM " ++ table ++ text ∧
      ∀ row : Row, Clause.whereHolds? text q.params row = some (row.satisfies r.conditions) := by
  have hfilters' : (filters { ev with registry } table .read ctx).result =
      .ok (r.qualified table) := by
    rw [filters_qualified hreg hreg', hfilters]
    rfl
  have hvalid : ∀ name ∈ (r.qualified table).conditions.keys, Identifier.isValid name = true := by
    intro k hk
    obtain ⟨name, hname, rfl⟩ := Row.mem_keys_qualified.mp hk
    rw [Identifier.isValid_qualify, htable, (hnames name hname).1]
    rfl
  have hcolumns : (r.qualified table).invalidColumn? = none := by
    refine List.find?_eq_none.mpr fun name hname => ?_
    rw [hvalid name hname]
    decide
  have hallowed' : (evaluate { ev with registry } table .read ctx).result.allowed = true := by
    show (decide { ev with registry } (ctx.about table .read) ev.moment).allowed = true
    rw [decide_qualified hreg hreg']
    exact hallowed
  obtain ⟨text, hsql, hholds⟩ := FilterResult.sql_queryConditions hvalid table []
  refine ⟨_, text, transform_ok_iff.mpr ⟨hallowed', _, hfilters', hcolumns, rfl⟩, ?_, ?_⟩
  · rw [Query.foldl_andWhere] at hsql
    exact hsql
  · intro row
    have hplain : r.conditions.Plain := fun name hname => (hnames name hname).2
    have hrow := hholds row
    rw [Query.foldl_andWhere] at hrow
    rw [← Row.satisfiesResolved_qualified hplain]
    exact hrow

end Evaluator

/-- Two tests that are made under a third one keep the same only if they agree under it. -/
theorem filter_and_eq_iff {α : Type} {as : List α} {p q r : α → Bool} :
    (as.filter fun a => p a && r a) = (as.filter fun a => q a && r a) ↔
      ∀ a ∈ as, r a = true → (q a = true ↔ p a = true) := by
  constructor
  · intro h a ha hr
    have hmem : a ∈ as.filter (fun a => p a && r a) ↔ a ∈ as.filter fun a => q a && r a := by
      rw [h]
    simpa [ha, hr] using hmem.symm
  · intro h
    refine List.filter_congr fun a ha => ?_
    cases hr : r a with
    | false => simp
    | true => rw [Bool.and_true, Bool.and_true, Bool.eq_iff_iff, h a ha hr]

namespace Engine

/-- Qualified filters of a read in memory, against the same filters under plain names, over rows
under plain names. Both reads fail alike. If all merged conditions ask for null, the qualified
ones let every row pass that may be read, and otherwise none; so the two reads keep the same
rows exactly if the rows that may be read satisfy the conditions in the first case and fail
them in the second. On a single condition the same holds row by row. -/
theorem readRows_qualified {p : EngineParts} {e : Engine} (hbuild : p.build = .ok e)
    (table : String) :
    (∀ (name : String) (v : Value) (row : Row), row.Plain →
      (row.satisfies (Row.empty.insert (Identifier.qualify table name) v) =
          row.satisfies (Row.empty.insert name v) ↔
        (row.satisfies (Row.empty.insert name v) = true ↔ v = .null))) ∧
    ∃ e', (p.qualified table).build = .ok e' ∧
      ∀ (ctx : Context) (rows : List Row) (o : MaskOptions), (∀ row ∈ rows, row.Plain) →
        let mask := fun row => (e.fields.maskRow table row ctx o).result
        let readable := fun row =>
          (e.evaluator.evaluate table .read (ctx.withRow row)).result.allowed
        (∀ failure, (e.evaluator.filters table .read ctx).result = .error failure →
          (e.readRows table rows ctx o).result = .error (.filterFailed failure) ∧
            (e'.readRows table rows ctx o).result = .error (.filterFailed failure)) ∧
        ∀ r, (e.evaluator.filters table .read ctx).result = .ok r →
          let kept := rows.filter fun row => row.satisfies r.conditions && readable row
          let kept' := if r.conditions.allNull then rows.filter readable else []
          (e.readRows table rows ctx o).result = .ok (kept.map mask) ∧
            (e'.readRows table rows ctx o).result = .ok (kept'.map mask) ∧
            (kept' = kept ↔ ∀ row ∈ rows, readable row = true →
              (row.satisfies r.conditions = true ↔ r.conditions.allNull = true)) := by
  have hreg := EngineParts.registry_of_build hbuild
  obtain ⟨registry, hreg', hbuild'⟩ := EngineParts.build_revised hbuild
    (f := Policy.qualifiedIn table) fun t q => Policy.qualifiedIn_name
  refine ⟨fun name v row h => h.satisfies_qualify_iff name v, _, hbuild', ?_⟩
  intro ctx rows o hplain mask readable
  have hfilters := Evaluator.filters_qualified hreg hreg' .read ctx
  have hreadable : ∀ row, (Evaluator.evaluate { e.evaluator with registry } table .read
      (ctx.withRow row)).result.allowed = readable row := fun row =>
    congrArg Decision.allowed (Evaluator.decide_qualified hreg hreg' _ _)
  refine ⟨fun failure hfailure => ⟨readRows_error hfailure, readRows_error ?_⟩, ?_⟩
  · rw [hfilters, hfailure]
    rfl
  · intro r hr kept kept'
    have hr' : (Evaluator.filters { e.evaluator with registry } table .read ctx).result =
        .ok (r.qualified table) := by
      rw [hfilters, hr]
      rfl
    -- the qualified conditions come to the same for all rows, so the filter is one of two
    have hkept' : (rows.filter fun row => r.conditions.allNull && readable row) = kept' := by
      show _ = if r.conditions.allNull = true then rows.filter readable else []
      cases r.conditions.allNull <;> simp
    have hrows : (rows.filter fun row => row.satisfies (r.qualified table).conditions &&
        (Evaluator.evaluate { e.evaluator with registry } table .read
          (ctx.withRow row)).result.allowed) = kept' := by
      rw [← hkept']
      refine List.filter_congr fun row hrow => ?_
      rw [hreadable]
      exact congrArg (· && readable row) ((hplain row hrow).satisfies_qualified r.conditions)
    refine ⟨readRows_ok hr, ?_, ?_⟩
    · rw [readRows_ok hr', hrows]
    · rw [← hkept']
      exact filter_and_eq_iff

/-! ### A trash that is open -/

/-- Documents are read unless they are deleted. -/
def trashRules : TableRules :=
  { policies :=
      [{ name := "live", operations := [.read], priority := 0, activation := none, hints := none
         body := .filter fun _ => .value (Row.ofEntries [("deleted_at", .null)]) }]
    defaultDeny := false, exempt := KeyMap.empty }

def trashParts : EngineParts :=
  { settings := Settings.default, schema := [("docs", trashRules)], fieldSchema := []
    clock := .fixed default, audit := none }

def trashEngine : Engine :=
  trashParts.assemble (KeyMap.empty.insert "docs" (trashRules.compiled "docs")) KeyMap.empty

def liveFilter : FilterResult := ⟨Row.ofEntries [("deleted_at", .null)], ["live"]⟩

def liveRow : Row := Row.ofEntries [("id", .string "a")]

def trashedRow : Row := Row.ofEntries [("id", .string "b"), ("deleted_at", .string "2025")]

/-- The filter on `docs.deleted_at` lets the deleted row pass, which the one on `deleted_at` and
the statement of the filter itself withhold. -/
theorem readRows_qualified_opens_trash :
    Identifier.Plain "deleted_at" ∧ trashedRow.Plain ∧
    trashedRow.satisfies (Row.ofEntries [("deleted_at", .null)]) = false ∧
    trashedRow.satisfies (Row.ofEntries [("docs.deleted_at", .null)]) = true ∧
    ∃ e e', trashParts.build = .ok e ∧ (trashParts.qualified "docs").build = .ok e' ∧
      (e.readRows "docs" [trashedRow] default .keepAll).result = .ok [] ∧
      (e'.readRows "docs" [trashedRow] default .keepAll).result = .ok [⟨trashedRow, [], []⟩] ∧
      ∃ q text, (e'.evaluator.transform (Query.onTable "docs") "docs" default).result = .ok q ∧
        q.sql = "SELECT * FROM " ++ "docs" ++ text ∧
        Clause.whereHolds? text q.params trashedRow = some false := by
  have hbuild : trashParts.build = .ok trashEngine := rfl
  have hbuild' : (trashParts.qualified "docs").build = .ok _ := rfl
  have hnames : ∀ name ∈ liveFilter.conditions.keys,
      Identifier.isValid name = true ∧ Identifier.Plain name := by
    unfold Identifier.Plain
    decide
  have hplain : trashedRow.Plain := by
    unfold Row.Plain Identifier.Plain
    decide
  have hfilters : (trashEngine.evaluator.filters "docs" .read default).result =
      .ok liveFilter := rfl
  obtain ⟨q, text, hquery, hsql, hholds⟩ := Evaluator.transform_qualified
    (EngineParts.registry_of_build hbuild) (EngineParts.registry_of_build hbuild')
    hfilters rfl rfl hnames
  exact ⟨(hnames _ List.mem_cons_self).2, hplain, rfl, rfl, _, _, hbuild, hbuild', rfl, rfl,
    q, text, hquery, hsql, hholds trashedRow⟩

/-- Two documents, one of them deleted: the plain filter returns the other one, the qualified
one both. -/
theorem readRows_qualified_trash :
    ∃ e e', trashParts.build = .ok e ∧ (trashParts.qualified "docs").build = .ok e' ∧
      (∀ row ∈ [liveRow, trashedRow], row.Plain) ∧
      (e.readRows "docs" [liveRow, trashedRow] default .keepAll).result =
        .ok [⟨liveRow, [], []⟩] ∧
      (e'.readRows "docs" [liveRow, trashedRow] default .keepAll).result =
        .ok [⟨liveRow, [], []⟩, ⟨trashedRow, [], []⟩] := by
  have hplain : ∀ row ∈ [liveRow, trashedRow], row.Plain := by
    unfold Row.Plain Identifier.Plain
    decide
  have hbuild : trashParts.build = .ok _ := rfl
  obtain ⟨-, e', hbuild', hreads⟩ := readRows_qualified hbuild "docs"
  obtain ⟨-, hkept⟩ := hreads default [liveRow, trashedRow] .keepAll hplain
  obtain ⟨hread, hread', -⟩ := hkept _ rfl
  exact ⟨_, e', hbuild, hbuild', hplain, hread, hread'⟩

end Engine

end RowAccess
