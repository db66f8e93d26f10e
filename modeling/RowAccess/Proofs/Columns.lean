import RowAccess.FieldAccess
import RowAccess.Proofs.Bypass

/-!
# What becomes of each column of a masked row

Masking goes through the columns of a row that the options keep. Each of
them has one of three fates, which the check of the column and its rule
decide: it is shown as it is, it is dropped and listed as omitted, or
something stands in for its value and it is listed as masked. `Shows`,
`Omits` and `Masks` say what each fate looks like in the result.

`maskRow_partition` puts this beside the other entry points that tell
which columns a caller reads: the check of a single column and the list
of the readable ones.
-/

namespace RowAccess

theorem Row.mem_keys_of_get? {row : Row} {name : String} {v : Value} (h : row.get? name = some v) :
    name ∈ row.keys :=
  Entries.find?_isSome.mp (Option.isSome_of_eq_some h)

/-! ## The three fates -/

namespace MaskedRow

/-- The column is there with this value, and is listed nowhere. -/
structure Shows (m : MaskedRow) (name : String) (v : Value) : Prop where
  value : m.data.get? name = some v
  unmasked : name ∉ m.masked
  unomitted : name ∉ m.omitted

/-- The column is gone and listed once, as omitted. -/
structure Omits (m : MaskedRow) (name : String) : Prop where
  absent : m.data.get? name = none
  listed : m.omitted.count name = 1
  unmasked : name ∉ m.masked

/-- The column is there with this value in place of its own and listed once, as masked. -/
structure Masks (m : MaskedRow) (name : String) (v : Value) : Prop where
  value : m.data.get? name = some v
  listed : m.masked.count name = 1
  unomitted : name ∉ m.omitted

variable {m : MaskedRow} {name : String} {v w : Value}

theorem Shows.not_omits (h : m.Shows name v) : ¬ m.Omits name := fun ho => by
  have hv := h.value
  rw [ho.absent] at hv
  cases hv

theorem Masks.not_shows (h : m.Masks name v) : ¬ m.Shows name w := fun hs =>
  hs.unmasked (List.count_pos_iff.mp (by rw [h.listed]; exact Nat.one_pos))

theorem Masks.not_omits (h : m.Masks name v) : ¬ m.Omits name := fun ho =>
  ho.unmasked (List.count_pos_iff.mp (by rw [h.listed]; exact Nat.one_pos))

end MaskedRow

/-- What stands in for the hidden value of a column with this rule, or without one: what the
mask makes of it, and null where there is no mask or it crashes. -/
def FieldRule.standIn (rule? : Option FieldRule) (v : Value) : Value :=
  match rule?.bind FieldRule.mask with
  | some mask =>
    match mask v with
    | .ok w => w
    | .error _ => .null
  | none => .null

namespace FieldRegistry

variable {r : FieldRegistry} {table name : String} {row : Row} {ctx : Context} {o : MaskOptions}

/-- The caller reads the column of the row. -/
def sees (r : FieldRegistry) (table : String) (ctx : Context) (row : Row) (name : String) : Bool :=
  (r.canRead table name ctx (some row)).result

/-- The rule of a column that the caller is subject to. -/
def ruleFor? (r : FieldRegistry) (table : String) (c : Caller) (name : String) :
    Option FieldRule :=
  (r.rulesFor? table c).bind fun t => t.field? name

/-- The column goes where it is hidden from the caller. -/
def omits (r : FieldRegistry) (table : String) (c : Caller) (name : String) : Bool :=
  (r.ruleFor? table c name).any FieldRule.omitWhenHidden

/-! ### Callers with every column -/

theorem rulesFor?_eq_none_iff {c : Caller} :
    r.rulesFor? table c = none ↔ c.isSystem = true ∨ r.find? table = none ∨
      ∃ t, r.find? table = some t ∧
        ∃ role, c.hasRole role = true ∧ t.exempt.contains role = true := by
  unfold rulesFor?
  simp only [← Caller.holdsOneOf_iff]
  cases c.isSystem with
  | true => simp
  | false =>
      cases r.find? table with
      | none => simp
      | some t =>
          show (if c.holdsOneOf t.exempt then none else some t) = none ↔ _
          cases hexempt : c.holdsOneOf t.exempt <;> simp [hexempt]

theorem sees_of_unruled (h : r.rulesFor? table ctx.caller = none) :
    r.sees table ctx row name = true := by
  unfold sees canRead
  rw [h]
  rfl

/-! ### Fates -/

/-- What happens to a column of the row with this value. -/
def fateOf (r : FieldRegistry) (table : String) (ctx : Context) (row : Row) (name : String)
    (v : Value) : ColumnFate :=
  fate (r.rulesFor? table ctx.caller) (readContext table ctx (some row)) name v

/-- The fate of a column is settled by the check that is made of it alone, and by its rule. -/
theorem fateOf_eq (name : String) (v : Value) :
    r.fateOf table ctx row name v =
      if r.sees table ctx row name then .shown v
      else if r.omits table ctx.caller name then .omitted
      else .masked (FieldRule.standIn (r.ruleFor? table ctx.caller name) v) := by
  unfold fateOf sees canRead omits ruleFor?
  cases r.rulesFor? table ctx.caller with
  | none => rfl
  | some t =>
      have homits : t.omits name = (t.field? name).any FieldRule.omitWhenHidden := by
        unfold FieldTable.omits
        cases t.field? name <;> rfl
      have hstandIn : t.replacement name v = FieldRule.standIn (t.field? name) v := rfl
      rw [Option.bind_some, ← homits, ← hstandIn]
      rfl

theorem isSome_value?_fateOf (name : String) (v : Value) :
    (r.fateOf table ctx row name v).value?.isSome =
      (r.sees table ctx row name || !r.omits table ctx.caller name) := by
  rw [fateOf_eq]
  cases r.sees table ctx row name <;> cases r.omits table ctx.caller name <;> rfl

theorem isMasked_fateOf (name : String) (v : Value) :
    (r.fateOf table ctx row name v).isMasked =
      (!r.sees table ctx row name && !r.omits table ctx.caller name) := by
  rw [fateOf_eq]
  cases r.sees table ctx row name <;> cases r.omits table ctx.caller name <;> rfl

theorem isOmitted_fateOf (name : String) (v : Value) :
    (r.fateOf table ctx row name v).isOmitted =
      (!r.sees table ctx row name && r.omits table ctx.caller name) := by
  rw [fateOf_eq]
  cases r.sees table ctx row name <;> cases r.omits table ctx.caller name <;> rfl

/-! ### Kept columns -/

theorem names_kept (o : MaskOptions) (row : Row) :
    Entries.names (kept o row) = row.keys.filter o.keeps :=
  Entries.names_filter o.keeps row.entries

theorem nodup_kept (o : MaskOptions) (row : Row) : (Entries.names (kept o row)).Nodup := by
  rw [names_kept]
  exact row.distinct.filter _

/-! ### The masked row -/

/-- The kept columns whose fate passes a test that does not look at their values. -/
theorem names_filter_fates {test : ColumnFate → Bool} {keep : String → Bool}
    (h : ∀ name v, test (r.fateOf table ctx row name v) = keep name) :
    Entries.names
        (((kept o row).map fun e => (e.1, r.fateOf table ctx row e.1 e.2)).filter fun e =>
          test e.2) =
      row.keys.filter fun name => o.keeps name && keep name := by
  have hfates : ((kept o row).map fun e => (e.1, r.fateOf table ctx row e.1 e.2)).filter
      (fun e => test e.2) =
        ((kept o row).map fun e => (e.1, r.fateOf table ctx row e.1 e.2)).filter
          fun e => keep e.1 := by
    rw [List.filter_map, List.filter_map]
    simp only [Function.comp_def, h]
  have hnames : Entries.names ((kept o row).map fun e => (e.1, r.fateOf table ctx row e.1 e.2)) =
      Entries.names (kept o row) := by
    rw [Entries.names, List.map_map]
    rfl
  rw [hfates, Entries.names_filter, hnames, names_kept, List.filter_filter]
  exact List.filter_congr fun name _ => Bool.and_comm _ _

section

variable (r table row ctx o)

/-- The masked row has what the fates of the kept columns leave of them. -/
theorem entries_maskRow :
    (r.maskRow table row ctx o).result.data.entries = (kept o row).filterMap fun e =>
      (r.fateOf table ctx row e.1 e.2).value?.map fun w => (e.1, w) := by
  have hnames : Entries.names ((kept o row).filterMap fun e =>
      (r.fateOf table ctx row e.1 e.2).value?.map fun w => (e.1, w)) = _ :=
    Entries.names_filterMap isSome_value?_fateOf (kept o row)
  show Entries.ofList (List.filterMap _ (List.map _ (kept o row))) = _
  rw [List.filterMap_map]
  refine Entries.ofList_of_nodup ?_
  exact hnames ▸ (nodup_kept o row).filter _

theorem keys_maskRow :
    (r.maskRow table row ctx o).result.data.keys = row.keys.filter fun name =>
      o.keeps name && (r.sees table ctx row name || !r.omits table ctx.caller name) := by
  have hkeys : (r.maskRow table row ctx o).result.data.keys = (row.keys.filter o.keeps).filter
      fun name => r.sees table ctx row name || !r.omits table ctx.caller name := by
    rw [Row.keys, entries_maskRow, Entries.names_filterMap isSome_value?_fateOf, names_kept]
  rw [hkeys, List.filter_filter]
  exact List.filter_congr fun name _ => Bool.and_comm _ _

theorem masked_maskRow :
    (r.maskRow table row ctx o).result.masked = row.keys.filter fun name =>
      o.keeps name && (!r.sees table ctx row name && !r.omits table ctx.caller name) :=
  names_filter_fates isMasked_fateOf

theorem omitted_maskRow :
    (r.maskRow table row ctx o).result.omitted = row.keys.filter fun name =>
      o.keeps name && (!r.sees table ctx row name && r.omits table ctx.caller name) :=
  names_filter_fates isOmitted_fateOf

theorem get?_maskRow (name : String) :
    (r.maskRow table row ctx o).result.data.get? name =
      if o.keeps name then
        (row.get? name).bind fun v => (r.fateOf table ctx row name v).value?
      else none := by
  have hkept : Entries.find? (kept o row) name = if o.keeps name then row.get? name else none :=
    Entries.find?_filter o.keeps row.entries name
  have hdata := Entries.find?_filterMap
    (fun name v => (r.fateOf table ctx row name v).value?) (nodup_kept o row) name
  rw [Row.get?, entries_maskRow, hdata, hkept]
  split <;> rfl

end

section

variable {v : Value} (hv : row.get? name = some v) (hkeeps : o.keeps name = true)

include hv hkeeps

theorem shows_of_sees (h : r.sees table ctx row name = true) :
    (r.maskRow table row ctx o).result.Shows name v where
  value := by rw [get?_maskRow, if_pos hkeeps, hv, Option.bind_some, fateOf_eq, if_pos h]; rfl
  unmasked := by rw [masked_maskRow, List.mem_filter]; simp [h]
  unomitted := by rw [omitted_maskRow, List.mem_filter]; simp [h]

theorem omits_of_hidden (h : r.sees table ctx row name = false)
    (homits : r.omits table ctx.caller name = true) :
    (r.maskRow table row ctx o).result.Omits name where
  absent := by
    rw [get?_maskRow, if_pos hkeeps, hv, Option.bind_some, fateOf_eq, h, homits]
    rfl
  listed := by
    rw [omitted_maskRow, List.count_filter (by simp [h, homits, hkeeps])]
    exact List.count_eq_one_of_mem row.distinct (Row.mem_keys_of_get? hv)
  unmasked := by rw [masked_maskRow, List.mem_filter]; simp [h, homits]

theorem masks_of_hidden (h : r.sees table ctx row name = false)
    (homits : r.omits table ctx.caller name = false) :
    (r.maskRow table row ctx o).result.Masks name
      (FieldRule.standIn (r.ruleFor? table ctx.caller name) v) where
  value := by
    rw [get?_maskRow, if_pos hkeeps, hv, Option.bind_some, fateOf_eq, h, homits]
    rfl
  listed := by
    rw [masked_maskRow, List.count_filter (by simp [h, homits, hkeeps])]
    exact List.count_eq_one_of_mem row.distinct (Row.mem_keys_of_get? hv)
  unomitted := by rw [omitted_maskRow, List.mem_filter]; simp [h, homits]

end

/-- A kept column has one fate and no other. -/
theorem fates_of_kept {v : Value} (hv : row.get? name = some v) (hkeeps : o.keeps name = true) :
    let out := (r.maskRow table row ctx o).result
    (out.Shows name v ↔ r.sees table ctx row name = true) ∧
    (out.Omits name ↔
      r.sees table ctx row name = false ∧ r.omits table ctx.caller name = true) ∧
    (out.Masks name (FieldRule.standIn (r.ruleFor? table ctx.caller name) v) ↔
      r.sees table ctx row name = false ∧ r.omits table ctx.caller name = false) := by
  intro out
  cases hsees : r.sees table ctx row name with
  | true =>
      have hshows : out.Shows name v := shows_of_sees hv hkeeps hsees
      exact ⟨iff_of_true hshows rfl, iff_of_false hshows.not_omits (by simp),
        iff_of_false (fun hmasks => hmasks.not_shows hshows) (by simp)⟩
  | false =>
      cases homits : r.omits table ctx.caller name with
      | true =>
          have hgone : out.Omits name := omits_of_hidden hv hkeeps hsees homits
          exact ⟨iff_of_false (fun hshows => hshows.not_omits hgone) (by simp),
            iff_of_true hgone ⟨rfl, rfl⟩,
            iff_of_false (fun hmasks => hmasks.not_omits hgone) (by simp)⟩
      | false =>
          have hmasks : out.Masks name (FieldRule.standIn (r.ruleFor? table ctx.caller name) v) :=
            masks_of_hidden hv hkeeps hsees homits
          exact ⟨iff_of_false hmasks.not_shows (by simp),
            iff_of_false hmasks.not_omits (by simp), iff_of_true hmasks ⟨rfl, rfl⟩⟩

/-- A column that the row lacks, or that is not kept, leaves no trace. -/
theorem no_trace (h : name ∉ row.keys ∨ o.keeps name = false) :
    let out := (r.maskRow table row ctx o).result
    name ∉ out.data.keys ∧ name ∉ out.masked ∧ name ∉ out.omitted := by
  have hdropped : ∀ test : String → Bool,
      name ∉ row.keys.filter fun name => o.keeps name && test name := by
    intro test hmem
    obtain ⟨hname, hkept⟩ := List.mem_filter.mp hmem
    rcases h with habsent | hdrops
    · exact habsent hname
    · simp [hdrops] at hkept
  refine ⟨?_, ?_, ?_⟩
  · exact keys_maskRow r table row ctx o ▸ hdropped _
  · exact masked_maskRow r table row ctx o ▸ hdropped _
  · exact omitted_maskRow r table row ctx o ▸ hdropped _

/-- The columns of a masked row are the kept ones without those that are listed as omitted. -/
theorem keys_maskRow_omitted :
    (r.maskRow table row ctx o).result.data.keys = row.keys.filter fun name =>
      o.keeps name && !(r.maskRow table row ctx o).result.omitted.contains name := by
  rw [keys_maskRow]
  refine List.filter_congr fun name hname => ?_
  have homitted : (r.maskRow table row ctx o).result.omitted.contains name =
      (o.keeps name && (!r.sees table ctx row name && r.omits table ctx.caller name)) := by
    rw [omitted_maskRow, Bool.eq_iff_iff, List.contains_iff_mem, List.mem_filter,
      and_iff_right hname]
  rw [homitted]
  cases o.keeps name <;> cases r.sees table ctx row name <;> rfl

/-- The columns of a row that are kept and those of the masked row, told by three entry points.
A kept column has exactly one of three fates. It is shown as it is if the caller reads it, is
omitted if the caller does not and its rule says so, and is masked if the caller does not and its
rule does not say so; what stands in is what the mask of the rule gives for the value, and null
without a mask or if the mask crashes. Other columns leave no trace. The masked row and both lists
are in the order of the row, and the list of readable columns is that of the columns that the
caller reads one by one. A system caller, one with an exempt role and anyone on a table without
column rules reads every column. -/
theorem maskRow_partition (r : FieldRegistry) (table : String) (row : Row) (ctx : Context)
    (o : MaskOptions) :
    let out := (r.maskRow table row ctx o).result
    let reads := fun name => (r.canRead table name ctx (some row)).result
    let rule? := r.ruleFor? table ctx.caller
    let goes := fun name => (rule? name).any FieldRule.omitWhenHidden
    (∀ name v, row.get? name = some v → o.keeps name = true →
      (out.Shows name v ↔ reads name = true) ∧
      (out.Omits name ↔ reads name = false ∧ goes name = true) ∧
      (out.Masks name (FieldRule.standIn (rule? name) v) ↔
        reads name = false ∧ goes name = false)) ∧
    (∀ name, name ∉ row.keys ∨ o.keeps name = false →
      name ∉ out.data.keys ∧ name ∉ out.masked ∧ name ∉ out.omitted) ∧
    out.data.keys = row.keys.filter (fun name => o.keeps name && !out.omitted.contains name) ∧
    out.masked = row.keys.filter (fun name => o.keeps name && (!reads name && !goes name)) ∧
    out.omitted = row.keys.filter (fun name => o.keeps name && (!reads name && goes name)) ∧
    (r.readable table row ctx).result = row.keys.filter reads ∧
    (ctx.caller.isSystem = true ∨ r.find? table = none ∨
        (∃ t, r.find? table = some t ∧
          ∃ role, ctx.caller.hasRole role = true ∧ t.exempt.contains role = true) →
      ∀ name, reads name = true) := by
  intro out reads rule? goes
  refine ⟨?_, ?_, keys_maskRow_omitted, masked_maskRow r table row ctx o,
    omitted_maskRow r table row ctx o, rfl, ?_⟩
  · intro name v hv hkeeps
    exact fates_of_kept hv hkeeps
  · intro name hnone
    exact no_trace hnone
  · intro hunruled name
    exact sees_of_unruled (rulesFor?_eq_none_iff.mpr hunruled)

/-! ### A patient as a stranger sees it -/

/-- Clerks see the number, which everyone else sees in part. Nobody gets at the token, and the
check of the notes crashes, as does their mask. -/
def patientColumns : List (String × FieldRule) :=
  [("name", .readOnly),
   ("number", .maskedUnless (MaskStrategy.toFunction (.truncate 2)) ["clerk"]),
   ("notes",
    { FieldRule.empty with
      read := some fun _ => .error ⟨none⟩, mask := some fun _ => .error ⟨none⟩ }),
   ("token", { FieldRule.neverAccessible with omitWhenHidden := true })]

def patientFields : FieldRegistry :=
  KeyMap.empty.insert "patients"
    { name := "patients", default := .allow, exempt := NameSet.ofList ["doctor"]
      fields := patientColumns
      index :=
        (((KeyMap.empty.insert "name" 0).insert "number" 1).insert "notes" 2).insert "token" 3 }

def patientRow : Row :=
  Row.ofEntries
    [("token", .string "t"), ("number", .string "12345"), ("name", .string "Ada"),
     ("notes", .string "n"), ("ward", .string "w"), ("bed", .null)]

def patientOptions : MaskOptions := MaskOptions.keepAll.excluding ["ward"]

/-- The columns come out in the order of the row, the ward is left out without a word, and the
bed, which has no rule, is shown as the table has it. -/
theorem maskRow_partition_patient :
    let out := (patientFields.maskRow "patients" patientRow default patientOptions).result
    out.data.keys = ["number", "name", "notes", "bed"] ∧ out.masked = ["number", "notes"] ∧
      out.omitted = ["token"] ∧ out.Shows "bed" .null ∧ out.Omits "token" ∧
      out.Masks "number" (.string "12...") ∧ out.Masks "notes" .null ∧
      (patientFields.readable "patients" patientRow default).result = ["name", "ward", "bed"] := by
  intro out
  obtain ⟨hfates, -, hkeys, hmasked, homitted, hreadable, -⟩ :=
    maskRow_partition patientFields "patients" patientRow default patientOptions
  have hbed := (hfates "bed" .null rfl rfl).1
  have htoken := (hfates "token" (.string "t") rfl rfl).2.1
  have hnumber := (hfates "number" (.string "12345") rfl rfl).2.2
  have hnotes := (hfates "notes" (.string "n") rfl rfl).2.2
  exact ⟨hkeys, hmasked, homitted, hbed.mpr rfl, htoken.mpr ⟨rfl, rfl⟩, hnumber.mpr ⟨rfl, rfl⟩,
    hnotes.mpr ⟨rfl, rfl⟩, hreadable⟩

end FieldRegistry

end RowAccess
