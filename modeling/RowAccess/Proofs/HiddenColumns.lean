import Mathlib.Data.List.Forall2
import RowAccess.Proofs.Columns
import RowAccess.Proofs.Reads

/-!
# Hidden columns leave no trace

Two tables look alike to a caller when they differ in hidden columns
only: the rows have the same columns in the same order, the same checks
succeed, what is shown has the same value, and so has what stands in for
the hidden values. A read cannot tell such tables apart.

A row is compared in two places. `FieldRegistry.LooksAlike` is about the
columns by themselves and gives the same masked row
(`maskRow_looksAlike`). `Engine.LooksAlike` adds what a read does with a
row before it is masked: the filters compare some columns, hidden or
not, and the policies decide about the row. From there `readRows_looksAlike`
follows row by row.
-/

namespace RowAccess

/-! ## Rows, column by column -/

theorem Entries.ext_find? {α : Type} {es fs : List (String × α)} (h : (names es).Nodup)
    (hnames : names es = names fs) (hfind : ∀ name ∈ names es, find? es name = find? fs name) :
    es = fs := by
  induction es generalizing fs with
  | nil => exact (List.map_eq_nil_iff.mp hnames.symm).symm
  | cons e rest ih =>
      cases fs with
      | nil => cases hnames
      | cons f rest' =>
          obtain ⟨hname, hrest⟩ := List.cons.inj hnames
          obtain ⟨hnew, hdistinct⟩ := List.nodup_cons.mp h
          have hvalue : e.2 = f.2 := by
            have hhead := hfind e.1 (List.mem_cons_self ..)
            rw [find?, find?, if_pos rfl, if_pos hname.symm] at hhead
            exact Option.some.inj hhead
          have htail : rest = rest' := by
            refine ih hdistinct hrest fun name hmem => ?_
            have hother : e.1 ≠ name := fun heq => hnew (heq ▸ hmem)
            have hsame := hfind name (List.mem_cons_of_mem _ hmem)
            rwa [find?, find?, if_neg hother, if_neg (hname ▸ hother)] at hsame
          rw [Prod.ext hname hvalue, htail]

theorem Row.ext_get? {row row' : Row} (hkeys : row.keys = row'.keys)
    (hget : ∀ name ∈ row.keys, row.get? name = row'.get? name) : row = row' :=
  Row.ext (Entries.ext_find? row.distinct hkeys hget)

/-- Conditions look at the columns that they name and at no others. -/
theorem Row.satisfies_congr {row row' conditions : Row}
    (h : ∀ name ∈ conditions.keys, row.get? name = row'.get? name) :
    row.satisfies conditions = row'.satisfies conditions := by
  rw [Bool.eq_iff_iff]
  unfold satisfies
  rw [List.all_eq_true, List.all_eq_true]
  refine forall₂_congr fun c hc => ?_
  rw [h c.1 (List.mem_map_of_mem hc)]

theorem Row.isSome_get?_of_mem {row : Row} {name : String} (h : name ∈ row.keys) :
    (row.get? name).isSome = true :=
  Entries.find?_isSome.mpr h

/-! ## One row, masked -/

theorem FieldRule.standIn_of_unmasked {rule? : Option FieldRule}
    (h : rule?.bind FieldRule.mask = none) (v : Value) : standIn rule? v = .null := by
  unfold standIn
  rw [h]

namespace FieldRegistry

/-- The rows differ at most in columns that the caller does not read, and where the value of
such a column is masked, what stands in for it is the same. -/
structure LooksAlike (r : FieldRegistry) (table : String) (ctx : Context) (row row' : Row) :
    Prop where
  keys : row.keys = row'.keys
  checks : ∀ name ∈ row.keys, r.sees table ctx row name = r.sees table ctx row' name
  shown : ∀ name ∈ row.keys, r.sees table ctx row name = true → row.get? name = row'.get? name
  standIns : ∀ name ∈ row.keys, r.sees table ctx row name = false →
    r.omits table ctx.caller name = false →
    ((r.ruleFor? table ctx.caller name).bind FieldRule.mask).isSome = true →
      (row.get? name).map (FieldRule.standIn (r.ruleFor? table ctx.caller name)) =
        (row'.get? name).map (FieldRule.standIn (r.ruleFor? table ctx.caller name))

namespace LooksAlike

variable {r : FieldRegistry} {table name : String} {ctx : Context} {row row' : Row}
  (h : r.LooksAlike table ctx row row')

include h

/-- Without a mask, null stands in for whatever is there. -/
theorem standIn_eq (hname : name ∈ row.keys) (hhidden : r.sees table ctx row name = false)
    (hkept : r.omits table ctx.caller name = false) :
    (row.get? name).map (FieldRule.standIn (r.ruleFor? table ctx.caller name)) =
      (row'.get? name).map (FieldRule.standIn (r.ruleFor? table ctx.caller name)) := by
  cases hmask : (r.ruleFor? table ctx.caller name).bind FieldRule.mask with
  | some mask => exact h.standIns name hname hhidden hkept (by rw [hmask]; rfl)
  | none =>
      obtain ⟨v, hv⟩ := Option.isSome_iff_exists.mp (Row.isSome_get?_of_mem hname)
      obtain ⟨w, hw⟩ := Option.isSome_iff_exists.mp (Row.isSome_get?_of_mem (h.keys ▸ hname))
      rw [hv, hw, Option.map_some, Option.map_some, FieldRule.standIn_of_unmasked hmask,
        FieldRule.standIn_of_unmasked hmask]

/-- What is left of a column is the same. -/
theorem value?_fateOf (hname : name ∈ row.keys) :
    ((row.get? name).bind fun v => (r.fateOf table ctx row name v).value?) =
      (row'.get? name).bind fun v => (r.fateOf table ctx row' name v).value? := by
  simp only [fateOf_eq, ← h.checks name hname]
  cases hsees : r.sees table ctx row name with
  | true => rw [h.shown name hname hsees]
  | false =>
      cases homits : r.omits table ctx.caller name with
      | true => exact (Option.bind_fun_none _).trans (Option.bind_fun_none _).symm
      | false =>
          have hstandIn := h.standIn_eq hname hsees homits
          rwa [Option.map_eq_bind, Option.map_eq_bind] at hstandIn

/-- The columns that pass a test of the check of each are the same. -/
theorem filter_keys (test : String → Bool → Bool) :
    (row.keys.filter fun name => test name (r.sees table ctx row name)) =
      row'.keys.filter fun name => test name (r.sees table ctx row' name) := by
  rw [← h.keys]
  exact List.filter_congr fun name hname => by rw [h.checks name hname]

end LooksAlike

/-- Rows that look alike are the same once they are masked. -/
theorem maskRow_looksAlike {r : FieldRegistry} {table : String} {ctx : Context} {row row' : Row}
    (h : r.LooksAlike table ctx row row') (o : MaskOptions) :
    (r.maskRow table row ctx o).result = (r.maskRow table row' ctx o).result := by
  have hkeys : (r.maskRow table row ctx o).result.data.keys =
      (r.maskRow table row' ctx o).result.data.keys := by
    rw [keys_maskRow, keys_maskRow]
    exact h.filter_keys fun name sees =>
      o.keeps name && (sees || !r.omits table ctx.caller name)
  have hdata : (r.maskRow table row ctx o).result.data =
      (r.maskRow table row' ctx o).result.data := by
    refine Row.ext_get? hkeys fun name hname => ?_
    have hrow : name ∈ row.keys := by
      rw [keys_maskRow] at hname
      exact (List.mem_filter.mp hname).1
    rw [get?_maskRow, get?_maskRow, h.value?_fateOf hrow]
  have hmasked : (r.maskRow table row ctx o).result.masked =
      (r.maskRow table row' ctx o).result.masked := by
    rw [masked_maskRow, masked_maskRow]
    exact h.filter_keys fun name sees =>
      o.keeps name && (!sees && !r.omits table ctx.caller name)
  have homitted : (r.maskRow table row ctx o).result.omitted =
      (r.maskRow table row' ctx o).result.omitted := by
    rw [omitted_maskRow, omitted_maskRow]
    exact h.filter_keys fun name sees =>
      o.keeps name && (!sees && r.omits table ctx.caller name)
  exact (MaskedRow.mk.injEq ..).mpr ⟨hdata, hmasked, homitted⟩

end FieldRegistry

/-! ## A read of rows -/

theorem map_filter_of_forall₂ {α β : Type} {R : α → α → Prop} {keep : α → Bool} {f : α → β}
    {as bs : List α} (hkeep : ∀ a b, R a b → keep a = keep b) (hf : ∀ a b, R a b → f a = f b)
    (h : List.Forall₂ R as bs) : (as.filter keep).map f = (bs.filter keep).map f := by
  have hkept : List.Forall₂ R (as.filter keep) (bs.filter keep) :=
    List.rel_filter (fun a b hab => Bool.eq_iff_iff.mp (hkeep a b hab)) h
  have hmapped : List.Forall₂ Eq ((as.filter keep).map f) ((bs.filter keep).map f) :=
    List.rel_map (fun a b hab => hf a b hab) hkept
  rwa [List.forall₂_eq_eq_eq] at hmapped

namespace Engine

/-- The rows differ at most in hidden columns that no filter names, and they are both let through
to the caller or both withheld. -/
structure LooksAlike (e : Engine) (table : String) (ctx : Context) (row row' : Row) : Prop where
  columns : e.fields.LooksAlike table ctx row row'
  filtered : ∀ r, (e.evaluator.filters table .read ctx).result = .ok r →
    ∀ name ∈ r.conditions.keys, row.get? name = row'.get? name
  decided : (e.evaluator.evaluate table .read (ctx.withRow row)).result.allowed =
    (e.evaluator.evaluate table .read (ctx.withRow row')).result.allowed

variable {e : Engine} {table : String} {ctx : Context}

theorem LooksAlike.kept_eq {row row' : Row} {r : FilterResult}
    (h : e.LooksAlike table ctx row row')
    (hr : (e.evaluator.filters table .read ctx).result = .ok r) :
    (row.satisfies r.conditions &&
        (e.evaluator.evaluate table .read (ctx.withRow row)).result.allowed) =
      (row'.satisfies r.conditions &&
        (e.evaluator.evaluate table .read (ctx.withRow row')).result.allowed) := by
  rw [Row.satisfies_congr (h.filtered r hr), h.decided]

/-- A read returns the same for tables whose rows look alike to the caller, one by one: what
stands in a hidden column shows neither in the rows that come back, nor in the order of their
columns, nor in what is listed as masked or omitted, nor in whether the read fails. -/
theorem readRows_looksAlike {rows rows' : List Row}
    (h : List.Forall₂ (e.LooksAlike table ctx) rows rows') (o : MaskOptions) :
    (e.readRows table rows ctx o).result = (e.readRows table rows' ctx o).result := by
  cases hr : (e.evaluator.filters table .read ctx).result with
  | error failure => rw [readRows_error hr, readRows_error hr]
  | ok r =>
      rw [readRows_ok hr, readRows_ok hr]
      exact congrArg Except.ok (map_filter_of_forall₂ (fun _ _ hrow => hrow.kept_eq hr)
        (fun _ _ hrow => FieldRegistry.maskRow_looksAlike hrow.columns o) h)

/-! ### Two wards with the same face -/

/-- A read is about one ward, and patients without notes are withheld. -/
def wardRules : TableRules :=
  let policy (name : String) (body : PolicyBody) : Policy :=
    { name, operations := [.read], priority := 0, body, activation := none, hints := none }
  { policies :=
      [policy "ward" (.filter fun _ => .value (Row.ofEntries [("ward", .string "w")])),
       policy "noted" (.deny fun ctx => .value ((ctx.rowValue? "notes").getD .null).isNull)]
    defaultDeny := false, exempt := KeyMap.empty }

def wardEngine : Engine :=
  { settings := Settings.default, fields := FieldRegistry.patientFields
    evaluator :=
      { registry := KeyMap.empty.insert "patients" (wardRules.compiled "patients")
        environment := defaultEnvironment, features := KeyMap.empty, clock := .fixed default
        audit := none, denyUnregistered := false } }

def chart (token number notes ward : String) : Row :=
  Row.ofEntries
    [("token", .string token), ("number", .string number), ("notes", .string notes),
     ("ward", .string ward)]

theorem forall_keys_chart {token number notes ward : String} {P : String → Prop}
    (htoken : P "token") (hnumber : P "number") (hnotes : P "notes") (hward : P "ward") :
    ∀ name ∈ (chart token number notes ward).keys, P name := by
  intro name hname
  have hcases : name ∈ ["token", "number", "notes", "ward"] := hname
  simp only [List.mem_cons, List.not_mem_nil, or_false] at hcases
  rcases hcases with rfl | rfl | rfl | rfl <;> assumption

/-- Both numbers are cut to the same text. -/
theorem standIn_number {token token' notes notes' ward : String} :
    let standIn := FieldRule.standIn (FieldRegistry.patientFields.ruleFor? "patients"
      (default : Context).caller "number")
    ((chart token "12345" notes ward).get? "number").map standIn =
      ((chart token' "12999" notes' ward).get? "number").map standIn :=
  -- by way of the text, since the two masks are not to be compared step by step
  Eq.trans (b := some (.string "12...")) rfl rfl

/-- A stranger sees two characters of the number, and nothing of the token and the notes. -/
theorem chart_looksAlike (token token' notes notes' ward : String) :
    wardEngine.LooksAlike "patients" default (chart token "12345" notes ward)
      (chart token' "12999" notes' ward) where
  columns :=
    { keys := rfl
      checks := forall_keys_chart rfl rfl rfl rfl
      shown := forall_keys_chart (fun h => nomatch h) (fun h => nomatch h) (fun h => nomatch h)
        fun _ => rfl
      standIns := forall_keys_chart (fun _ _ _ => rfl) (fun _ _ _ => standIn_number)
        (fun _ _ _ => rfl) fun _ _ _ => rfl }
  filtered := fun r hr name hname => by
    cases hr
    obtain rfl : name = "ward" := List.mem_singleton.mp hname
    rfl
  decided := rfl

/-- Only the ward that the read is about comes back, and the two versions of it are one. -/
theorem readRows_looksAlike_wards :
    let rows := [chart "t" "12345" "n" "w", chart "u" "12345" "o" "v"]
    let rows' := [chart "x" "12999" "y" "w", chart "z" "12999" "z" "v"]
    List.Forall₂ (wardEngine.LooksAlike "patients" default) rows rows' ∧
    (wardEngine.readRows "patients" rows default .keepAll).result =
      (wardEngine.readRows "patients" rows' default .keepAll).result ∧
    (wardEngine.readRows "patients" rows default .keepAll).result =
      .ok [⟨Row.ofEntries [("number", .string "12..."), ("notes", .null), ("ward", .string "w")],
        ["number", "notes"], ["token"]⟩] := by
  intro rows rows'
  have halike : List.Forall₂ (wardEngine.LooksAlike "patients" default) rows rows' :=
    .cons (chart_looksAlike ..) (.cons (chart_looksAlike ..) .nil)
  exact ⟨halike, readRows_looksAlike halike .keepAll, rfl⟩

end Engine

end RowAccess
