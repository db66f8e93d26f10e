import RowAccess.Proofs.Crashes
import RowAccess.Proofs.Registration

/-!
# Crashes count as answers

A function of the host may crash wherever it is called. Each kind of
function has one place that stops the crash and one answer that stands in
for it; beside those of policies, a check of a column that crashes says no
and a mask gives null. `EngineParts.contained` writes these answers into
the declarations, so that nothing in them crashes any more, and
`agrees_contained` says that nobody can tell the engines apart by what
they answer or what they hand to the audit.
-/

namespace RowAccess

/-! ## Declarations -/

def FieldRule.contained (r : FieldRule) : FieldRule :=
  { r with
    read := r.read.map fun f ctx => Attempt.orValue (f ctx) false
    write := r.write.map fun f ctx => Attempt.orValue (f ctx) false
    mask := r.mask.map fun f v => Attempt.orValue (f v) .null }

def FieldTableRules.contained (r : FieldTableRules) : FieldTableRules :=
  { r with fields := r.fields.map fun f => (f.1, FieldRule.contained f.2) }

def FieldSchema.contained (s : FieldSchema) : FieldSchema :=
  s.map fun e => (e.1, FieldTableRules.contained e.2)

def EngineParts.contained (p : EngineParts) : EngineParts :=
  { p with
    schema := p.schema.revised fun _ => Policy.contained
    fieldSchema := FieldSchema.contained p.fieldSchema }

structure FieldRule.CrashFree (r : FieldRule) : Prop where
  read : ∀ f, r.read = some f → ∀ ctx c, f ctx ≠ .error c
  write : ∀ f, r.write = some f → ∀ ctx c, f ctx ≠ .error c
  mask : ∀ f, r.mask = some f → ∀ v c, f v ≠ .error c

structure EngineParts.CrashFree (p : EngineParts) : Prop where
  policies : ∀ e ∈ p.schema, ∀ q ∈ e.2.policies, q.CrashFree
  columns : ∀ e ∈ p.fieldSchema, ∀ f ∈ e.2.fields, f.2.CrashFree

theorem FieldRule.crashFree_contained (r : FieldRule) : r.contained.CrashFree where
  read := Attempt.map_orValue_ne_error
  write := Attempt.map_orValue_ne_error
  mask := Attempt.map_orValue_ne_error

theorem EngineParts.crashFree_contained (p : EngineParts) : p.contained.CrashFree where
  policies := by
    intro e he q hq
    obtain ⟨d, -, rfl⟩ := List.mem_map.mp he
    obtain ⟨r, -, rfl⟩ := List.mem_map.mp hq
    exact r.crashFree_contained
  columns := by
    intro e he f hf
    obtain ⟨d, -, rfl⟩ := List.mem_map.mp he
    obtain ⟨g, -, rfl⟩ := List.mem_map.mp hf
    exact g.2.crashFree_contained

/-! ## Columns -/

namespace FieldTable

def contained (t : FieldTable) : FieldTable :=
  { t with fields := t.fields.map fun f => (f.1, FieldRule.contained f.2) }

theorem indexFrom_contained {table : String} {place : Nat} {index : KeyMap Nat}
    (fs : List (String × FieldRule)) :
    indexFrom table place index (fs.map fun f => (f.1, FieldRule.contained f.2)) =
      indexFrom table place index fs := by
  induction fs generalizing place index with
  | nil => rfl
  | cons f rest ih =>
      rw [List.map_cons, indexFrom, indexFrom]
      split
      · rfl
      · exact ih

theorem compile_contained {name : String} {rules : FieldTableRules} :
    compile name rules.contained = (compile name rules).map contained := by
  have hindex : indexFrom name 0 KeyMap.empty rules.contained.fields =
      indexFrom name 0 KeyMap.empty rules.fields := indexFrom_contained rules.fields
  unfold compile
  rw [hindex]
  split
  · rfl
  · cases indexFrom name 0 KeyMap.empty rules.fields <;> rfl

variable {t : FieldTable} {name : String} {ctx : Context}

theorem field?_contained : t.contained.field? name = (t.field? name).map FieldRule.contained := by
  unfold field?
  show (t.index.find? name).bind (fun place => ((t.fields.map _)[place]?).map Prod.snd) = _
  cases t.index.find? name with
  | none => rfl
  | some place =>
      show ((t.fields.map _)[place]?).map Prod.snd = ((t.fields[place]?).map Prod.snd).map _
      rw [List.getElem?_map, Option.map_map, Option.map_map]
      rfl

/-- Either check of a rule, read or write. -/
theorem opens_contained {check? : FieldRule → Option FieldPredicate}
    (hcheck : ∀ r : FieldRule,
      check? r.contained = (check? r).map fun f ctx => Attempt.orValue (f ctx) false) :
    t.contained.opens name ctx check? = t.opens name ctx check? := by
  unfold opens
  rw [field?_contained]
  cases t.field? name with
  | none => rfl
  | some rule =>
      simp only [Option.map_some, Option.bind_some, hcheck]
      cases check? rule with
      | none => rfl
      | some f =>
          simp only [Option.map_some]
          cases f ctx <;> rfl

theorem omits_contained : t.contained.omits name = t.omits name := by
  unfold omits
  rw [field?_contained]
  cases t.field? name <;> rfl

theorem replacement_contained (v : Value) :
    t.contained.replacement name v = t.replacement name v := by
  unfold replacement
  rw [field?_contained]
  cases t.field? name with
  | none => rfl
  | some rule =>
      have hmask : rule.contained.mask =
          rule.mask.map fun f v => Attempt.orValue (f v) .null := rfl
      simp only [Option.map_some, Option.bind_some, hmask]
      cases rule.mask with
      | none => rfl
      | some f =>
          simp only [Option.map_some]
          cases f v <;> rfl

end FieldTable

namespace FieldRegistry

/-! ### Loading -/

theorem load_contained {r q : FieldRegistry} {s : FieldSchema} (r' : FieldRegistry)
    (hfind : ∀ table, r'.find? table = (r.find? table).map FieldTable.contained)
    (h : load r s = (q, none)) :
    ∃ q', load r' s.contained = (q', none) ∧
      ∀ table, q'.find? table = (q.find? table).map FieldTable.contained := by
  induction s generalizing r r' with
  | nil =>
      obtain rfl : r = q := congrArg Prod.fst h
      exact ⟨r', rfl, hfind⟩
  | cons e rest ih =>
      obtain ⟨name, rules⟩ := e
      have hcontains : r'.contains name = r.contains name := by
        simp [KeyMap.contains, hfind]
      unfold FieldSchema.contained
      rw [load] at h
      rw [List.map_cons, load]
      unfold register at h ⊢
      rw [hcontains, FieldTable.compile_contained]
      cases hthere : r.contains name with
      | true => simp [hthere] at h
      | false =>
          cases hcompile : FieldTable.compile name rules with
          | error fault => simp [hthere, hcompile] at h
          | ok t =>
              simp only [hthere, hcompile, Bool.false_eq_true, if_false, Except.map] at h ⊢
              -- both registries gain the same name, and the tables behind it correspond
              refine ih _ (fun table => ?_) h
              rw [KeyMap.find?_insert, KeyMap.find?_insert, hfind]
              split <;> rfl

theorem ofSchema_contained {s : FieldSchema} {r : FieldRegistry} (h : ofSchema s = .ok r) :
    ∃ r', ofSchema s.contained = .ok r' ∧
      ∀ table, r'.find? table = (r.find? table).map FieldTable.contained := by
  have hload : load KeyMap.empty s = (r, none) := by
    unfold ofSchema at h
    cases hs : load KeyMap.empty s with
    | mk q fault =>
        rw [hs] at h
        cases fault with
        | some e => cases h
        | none => cases h; rfl
  obtain ⟨r', hload', hfind⟩ := load_contained KeyMap.empty (fun _ => rfl) hload
  refine ⟨r', ?_, hfind⟩
  unfold ofSchema
  rw [hload']

/-! ### Access -/

section

variable {r r' : FieldRegistry} {table : String} {row : Row} {ctx : Context}
  (hfind : ∀ table, r'.find? table = (r.find? table).map FieldTable.contained)

theorem isOpen_contained {rules : Option FieldTable} {name : String}
    {check? : FieldRule → Option FieldPredicate}
    (hcheck : ∀ r : FieldRule,
      check? r.contained = (check? r).map fun f ctx => Attempt.orValue (f ctx) false) :
    isOpen (rules.map FieldTable.contained) name ctx check? = isOpen rules name ctx check? := by
  cases rules with
  | none => rfl
  | some t => exact FieldTable.opens_contained hcheck

theorem fate_contained {rules : Option FieldTable} (name : String) (v : Value) :
    fate (rules.map FieldTable.contained) ctx name v = fate rules ctx name v := by
  cases rules with
  | none => rfl
  | some t =>
      have hopens : t.contained.opens name ctx FieldRule.read = t.opens name ctx FieldRule.read :=
        FieldTable.opens_contained fun _ => rfl
      show (if t.contained.opens name ctx FieldRule.read then _ else _) = _
      rw [hopens, FieldTable.omits_contained, FieldTable.replacement_contained]
      rfl

include hfind

theorem rulesFor?_contained (c : Caller) :
    r'.rulesFor? table c = (r.rulesFor? table c).map FieldTable.contained := by
  unfold rulesFor?
  rw [hfind]
  cases c.isSystem with
  | true => rfl
  | false =>
      cases r.find? table with
      | none => rfl
      | some t =>
          show (if t.exempts c then none else some t.contained) =
            (if t.exempts c then none else some t).map FieldTable.contained
          split <;> rfl

theorem maskRow_agrees (o : MaskOptions) :
    (maskRow r table row ctx o).Agrees (maskRow r' table row ctx o) where
  result := by
    show maskedRow _ _ _ _ = maskedRow _ _ _ _
    rw [rulesFor?_contained hfind]
    unfold maskedRow
    simp only [fate_contained]
  records := rfl

theorem validate_agrees (data : Row) (existing : Option Row) :
    (validate r table data ctx existing).Agrees (validate r' table data ctx existing) := by
  have hopen : ∀ (rules : Option FieldTable) name ctx,
      isOpen (rules.map FieldTable.contained) name ctx FieldRule.write =
        isOpen rules name ctx FieldRule.write :=
    fun _ _ _ => isOpen_contained fun _ => rfl
  unfold validate
  rw [rulesFor?_contained hfind]
  simp only [hopen]
  split
  · exact .noting _ _ _
  · exact .noting _ _ _

end

end FieldRegistry

/-! ## Engines -/

namespace Engine

/-- Two engines give the same answers, and the same records to the audit. -/
structure Agrees (e e' : Engine) : Prop where
  evaluate : ∀ table op ctx,
    (e.evaluator.evaluate table op ctx).Agrees (e'.evaluator.evaluate table op ctx)
  filters : ∀ table op ctx,
    (e.evaluator.filters table op ctx).Agrees (e'.evaluator.filters table op ctx)
  validate : ∀ table op ctx,
    (e.evaluator.validate table op ctx).Agrees (e'.evaluator.validate table op ctx)
  testPolicy? : ∀ table name ctx,
    e.evaluator.testPolicy? table name ctx = e'.evaluator.testPolicy? table name ctx
  transform : ∀ q table ctx,
    (e.evaluator.transform q table ctx).Agrees (e'.evaluator.transform q table ctx)
  guardWrite : ∀ table op existing data ctx,
    (e.guardWrite table op existing data ctx).Agrees (e'.guardWrite table op existing data ctx)
  readRows : ∀ table rows ctx o,
    (e.readRows table rows ctx o).Agrees (e'.readRows table rows ctx o)
  maskRow : ∀ table row ctx o,
    (e.fields.maskRow table row ctx o).Agrees (e'.fields.maskRow table row ctx o)

variable {e : Engine} {registry : Registry} {fields : FieldRegistry}

theorem agrees_of_find?
    (hrows : ∀ table,
      registry.find? table = (e.evaluator.registry.find? table).map Table.contained)
    (hcolumns : ∀ table, fields.find? table = (e.fields.find? table).map FieldTable.contained) :
    e.Agrees { e with evaluator := { e.evaluator with registry }, fields } where
  evaluate table op ctx := Evaluator.evaluateAt_agrees hrows table op
  filters table op ctx := Evaluator.filtersAt_agrees hrows table op
  validate table op ctx := Evaluator.validateAt_agrees hrows table op
  testPolicy? table name ctx := (Evaluator.testPolicy?_contained hrows table name).symm
  transform q table ctx := Evaluator.transform_agrees hrows q table
  guardWrite table op existing data ctx := by
    unfold guardWrite
    refine .andThen (Evaluator.guard_agrees hrows table op existing data) fun guarded => ?_
    split
    · split
      · exact .map (FieldRegistry.validate_agrees hcolumns _ existing) _
      · exact .refl _
    · exact .refl _
  readRows table rows ctx o := by
    have hrow : ∀ row, (e.readRow table ctx o row).Agrees
        (readRow { e with evaluator := { e.evaluator with registry }, fields } table ctx o
          row) := by
      intro row
      unfold readRow
      refine .andThen (Evaluator.evaluateAt_agrees hrows table .read) fun d => ?_
      split
      · exact .map (FieldRegistry.maskRow_agrees hcolumns o) some
      · exact .refl _
    unfold readRows
    refine .andThen (Evaluator.filtersAt_agrees hrows table .read) fun filters => ?_
    split
    · exact .refl _
    · exact .andThen (.forEach hrow _) fun read => .refl _
  maskRow table row ctx o := FieldRegistry.maskRow_agrees hcolumns o

/-- An engine answers as one whose functions never crash: each crash is replaced by the failure,
the refusal or the null that its place stands for. An answer is therefore never a crash, however
many functions crash on the way to it. -/
theorem agrees_contained {p : EngineParts} {e : Engine} (hbuild : p.build = .ok e) :
    p.contained.CrashFree ∧ ∃ e', p.contained.build = .ok e' ∧ e.Agrees e' := by
  obtain ⟨hfault, registry, fields, hrows, hcolumns, rfl⟩ := EngineParts.build_ok_iff.mp hbuild
  have haccepted := Registry.ofSchema_ok_iff.mp ⟨registry, hrows⟩
  obtain ⟨registry', hrows'⟩ := Registry.ofSchema_ok_iff.mpr
    (haccepted.revised (f := fun _ => Policy.contained) fun _ _ => rfl)
  obtain ⟨fields', hcolumns', hfind⟩ := FieldRegistry.ofSchema_contained hcolumns
  refine ⟨p.crashFree_contained, p.contained.assemble registry' fields',
    EngineParts.build_ok_iff.mpr ⟨hfault, registry', fields', hrows', hcolumns', rfl⟩, ?_⟩
  exact agrees_of_find? (Registry.find?_contained hrows hrows') hfind

/-! ### Crashes in every place -/

/-- One function of every sort crashes. The condition of `staff` leaves that policy out, the one
of `tenant` leaves it in. -/
def brittleRules : TableRules :=
  let policy (name : String) (op : Operation) (priority : Int) (body : PolicyBody)
      (activation : Option Condition) : Policy :=
    { name, operations := [op], priority, body, activation, hints := none }
  { policies :=
      [policy "staff" .read 9 (.allow fun _ => .value true) (some fun _ => .error ⟨none⟩),
       policy "embargo" .read 5 (.deny fun _ => .crashed ⟨some "no index"⟩) none,
       policy "anyone" .read 0 (.allow fun _ => .value true) none,
       policy "tenant" .read 0
         (.filter fun _ => .value (Row.ofEntries [("tenant", .string "a")]))
         (some fun _ => .error ⟨none⟩),
       policy "private" .delete 0 (.filter fun _ => .crashed ⟨some "no tenant"⟩) none,
       policy "writers" .create 0 (.allow fun _ => .value true) none,
       policy "shape" .create 0 (.validate fun _ => .crashed ⟨none⟩) none]
    defaultDeny := true, exempt := KeyMap.empty }

def brittleColumns : FieldTableRules :=
  { default := .allow, exempt := KeyMap.empty
    fields := [("secret",
      { FieldRule.empty with
        read := some fun _ => .error ⟨none⟩, mask := some fun _ => .error ⟨none⟩ })] }

def brittleParts : EngineParts :=
  { settings := Settings.default, schema := [("docs", brittleRules)]
    fieldSchema := [("docs", brittleColumns)], clock := .fixed default, audit := none }

def brittleEngine : Engine :=
  brittleParts.assemble (KeyMap.empty.insert "docs" (brittleRules.compiled "docs"))
    (KeyMap.empty.insert "docs"
      { name := "docs", default := .allow, exempt := KeyMap.empty, fields := brittleColumns.fields
        index := KeyMap.empty.insert "secret" 0 })

def brittleRows : List Row :=
  [Row.ofEntries [("tenant", .string "a"), ("secret", .string "s")],
   Row.ofEntries [("tenant", .string "b")]]

/-- A read passes three crashed policies and conditions and masks by a crashed mask; a delete
cannot be filtered and a create cannot be validated. -/
theorem agrees_contained_brittle :
    brittleParts.build = .ok brittleEngine ∧ ¬ brittleParts.CrashFree ∧
    (brittleEngine.readRows "docs" brittleRows default .keepAll).result =
      .ok [⟨Row.ofEntries [("tenant", .string "a"), ("secret", .null)], ["secret"], []⟩] ∧
    (brittleEngine.evaluator.filters "docs" .delete default).result =
      .error ⟨"private", "panicked: no tenant"⟩ ∧
    (brittleEngine.guardWrite "docs" .create none none default).result =
      .error (.invalid ⟨"docs", .create, "shape", "validation failed: panicked"⟩) ∧
    brittleParts.contained.CrashFree ∧
    ∃ e', brittleParts.contained.build = .ok e' ∧ brittleEngine.Agrees e' := by
  have hbuild : brittleParts.build = .ok brittleEngine := rfl
  refine ⟨hbuild, fun h => ?_, rfl, rfl, rfl, agrees_contained hbuild⟩
  have hcolumn := h.columns _ List.mem_cons_self _ List.mem_cons_self
  exact hcolumn.read _ rfl default ⟨none⟩ rfl

end Engine

end RowAccess
