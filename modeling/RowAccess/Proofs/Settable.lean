import RowAccess.Proofs.Columns
import RowAccess.Proofs.Writes

/-!
# Columns that a caller may set

Three questions are asked about setting columns: about one of them
(`canWrite`), about a payload (`validate`), and about a row, of which the
columns that may be set are listed (`writable`). Each question makes its
own context for the checks of the columns. `Settable` says, in terms of
the registered rules alone, when a column may be set in such a context,
and `canWrite_iff` that this is what the question about one column comes
to.

`validate_columnwise`: the other two questions have the answers that the
question about one column gives, asked of each column in turn.
-/

namespace RowAccess

namespace FieldRegistry

variable {r : FieldRegistry} {table name : String} {payload row : Row} {ctx asked : Context}
  {existing : Option Row}

/-! ## Single columns -/

/-- The caller of the context may set the column. The rules of the table bind neither the system
nor callers with a role that they exempt. For the others the check of the column decides, a crash
being a refusal, and the default of the table where there is no check. -/
inductive Settable (r : FieldRegistry) (table name : String) (asked : Context) : Prop
  | system (isSystem : asked.caller.isSystem = true)
  | unruled (absent : r.find? table = none)
  | exempt {t : FieldTable} {role : String} (found : r.find? table = some t)
      (held : asked.caller.hasRole role = true) (listed : t.exempt.contains role = true)
  | checked {t : FieldTable} {check : FieldPredicate} (found : r.find? table = some t)
      (own : (t.field? name).bind FieldRule.write = some check) (passes : check asked = .ok true)
  | byDefault {t : FieldTable} (found : r.find? table = some t)
      (unchecked : (t.field? name).bind FieldRule.write = none) (allows : t.default = .allow)

/-- What is no write counts as an update. -/
def writtenAs (op : Operation) : Operation :=
  if op ∈ [.create, .update, .delete] then op else .update

/-- What checks see that are asked about setting a column of the table, beside a row and as part
of a payload. -/
def asksToSet (table : String) (ctx : Context) (existing data : Option Row) : Context :=
  { caller := ctx.caller, table, operation := writtenAs ctx.operation
    row := match existing with
      | some row => some row
      | none => ctx.row
    data, attached := ctx.attached }

theorem writeContext_eq_asksToSet (table : String) (ctx : Context) (existing data : Option Row) :
    writeContext table ctx existing data = asksToSet table ctx existing data := by
  have hop : (if ctx.operation.isWrite then ctx.operation else .update) =
      writtenAs ctx.operation := by
    cases ctx.operation <;> rfl
  unfold writeContext asksToSet
  rw [hop]
  cases existing <;> rfl

theorem find?_of_rulesFor? {t : FieldTable} {c : Caller} (h : r.rulesFor? table c = some t) :
    r.find? table = some t := by
  unfold rulesFor? at h
  cases hsystem : c.isSystem with
  | true => simp [hsystem] at h
  | false =>
      cases hfind : r.find? table with
      | none => simp [hsystem, hfind] at h
      | some t' =>
          cases hexempt : t'.exempts c with
          | true => simp [hsystem, hfind, hexempt] at h
          | false => simpa [hsystem, hfind, hexempt] using h

/-- Under the rules of its table, a column may be set as its check says, or the default. -/
theorem opens_write_iff {t : FieldTable} : t.opens name asked FieldRule.write = true ↔
    (∃ check, (t.field? name).bind FieldRule.write = some check ∧ check asked = .ok true) ∨
      (t.field? name).bind FieldRule.write = none ∧ t.default = .allow := by
  unfold FieldTable.opens
  cases (t.field? name).bind FieldRule.write with
  | none => simp [FieldDefault.allows]
  | some check =>
      cases hcheck : check asked with
      | ok b => simp [hcheck]
      | error crash => simp [hcheck]

theorem settable_iff : r.Settable table name asked ↔
    r.rulesFor? table asked.caller = none ∨
      ∃ t, r.find? table = some t ∧ t.opens name asked FieldRule.write = true := by
  rw [rulesFor?_eq_none_iff]
  constructor
  · intro h
    cases h with
    | system hsystem => exact Or.inl (Or.inl hsystem)
    | unruled habsent => exact Or.inl (Or.inr (Or.inl habsent))
    | exempt hfound hheld hlisted =>
        exact Or.inl (Or.inr (Or.inr ⟨_, hfound, _, hheld, hlisted⟩))
    | checked hfound hown hpasses =>
        exact Or.inr ⟨_, hfound, opens_write_iff.mpr (Or.inl ⟨_, hown, hpasses⟩)⟩
    | byDefault hfound hunchecked hallows =>
        exact Or.inr ⟨_, hfound, opens_write_iff.mpr (Or.inr ⟨hunchecked, hallows⟩)⟩
  · rintro ((hsystem | habsent | ⟨t, hfound, role, hheld, hlisted⟩) | ⟨t, hfound, hopens⟩)
    · exact .system hsystem
    · exact .unruled habsent
    · exact .exempt hfound hheld hlisted
    · rcases opens_write_iff.mp hopens with ⟨check, hown, hpasses⟩ | ⟨hunchecked, hallows⟩
      · exact .checked hfound hown hpasses
      · exact .byDefault hfound hunchecked hallows

theorem isOpen_iff_settable :
    isOpen (r.rulesFor? table asked.caller) name asked FieldRule.write = true ↔
      r.Settable table name asked := by
  rw [settable_iff]
  cases hrules : r.rulesFor? table asked.caller with
  | none => exact iff_of_true rfl (Or.inl rfl)
  | some t =>
      have hfound := find?_of_rulesFor? hrules
      simp [isOpen, hfound]

theorem canWrite_iff : (r.canWrite table name ctx existing).result = true ↔
    r.Settable table name (asksToSet table ctx existing ctx.data) := by
  rw [← writeContext_eq_asksToSet]
  let asked := writeContext table ctx existing ctx.data
  show isOpen (r.rulesFor? table asked.caller) name asked FieldRule.write = true ↔ _
  exact isOpen_iff_settable

/-! ## Payloads and rows -/

/-- The first column of the payload, in its order, that may not be set. -/
def FirstClosed (may : String → Bool) (payload : Row) (name : String) : Prop :=
  ∃ front back, payload.keys = front ++ name :: back ∧ (∀ k ∈ front, may k = true) ∧
    may name = false

theorem closed?_eq_some_iff : r.closed? table payload ctx existing = some name ↔
    FirstClosed (fun k => (r.canWrite table k { ctx with data := some payload } existing).result)
      payload name :=
  Row.find?_keys_eq_some_iff

theorem validate_ok_iff : (r.validate table payload ctx existing).result = .ok () ↔
    r.Opens table payload ctx existing := by
  rw [← closed?_eq_none_iff, result_validate]
  cases r.closed? table payload ctx existing <;> simp

/-- The refusal of a payload names its first column that may not be set. -/
theorem validate_error_iff {denied : AccessDenied} :
    (r.validate table payload ctx existing).result = .error denied ↔
      ∃ name, r.closed? table payload ctx existing = some name ∧
        denied = refusal table name (writtenAs ctx.operation) := by
  have hop : (writeContext table ctx existing (some payload)).operation =
      writtenAs ctx.operation := by
    rw [writeContext_eq_asksToSet]
    rfl
  rw [result_validate, hop]
  cases r.closed? table payload ctx existing <;> simp [eq_comm]

theorem result_writable : (r.writable table row ctx).result =
    row.keys.filter fun k => (r.canWrite table k ctx (some row)).result := rfl

/-- The answers about a payload and about a row are those about their single columns, in order. A
column may be set as the registered rules say. -/
theorem validate_columnwise (r : FieldRegistry) (table : String) (payload row : Row)
    (ctx : Context) (existing : Option Row) :
    let may := fun k => (r.canWrite table k { ctx with data := some payload } existing).result
    let answer := (r.validate table payload ctx existing).result
    (answer = .ok () ↔ ∀ k ∈ payload.keys, may k = true) ∧
    (∀ denied, answer = .error denied ↔
      ∃ name, FirstClosed may payload name ∧
        denied = refusal table name (writtenAs ctx.operation)) ∧
    (r.writable table row ctx).result =
      row.keys.filter (fun k => (r.canWrite table k ctx (some row)).result) ∧
    (∀ k (ctx : Context) (existing : Option Row),
      (r.canWrite table k ctx existing).result = true ↔
        r.Settable table k (asksToSet table ctx existing ctx.data)) := by
  intro may answer
  refine ⟨validate_ok_iff, fun denied => ?_, result_writable, fun _ _ _ => canWrite_iff⟩
  simp only [← closed?_eq_some_iff, may]
  exact validate_error_iff

end FieldRegistry

end RowAccess
