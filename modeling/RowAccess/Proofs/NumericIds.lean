import RowAccess.Context
import RowAccess.Proofs.Literals

/-!
# Numeric identifiers

A user or a tenant is named by a text, and a column may hold an integer in
its place. The two are compared by the decimal text of the integer, so
that everything hangs on how many texts an integer has: the canonical
decimal form and no other (`Number.canonical_iff_text`).

A text in this form is a literal that is read as the integer again
(`Number.read?_of_canonical`), as long as the integer fits sixty-four bits.
Hence an integer stands for one text only and a text for one integer only,
and a row with an integer in a column belongs to one user, or to one tenant.
-/

namespace RowAccess

/-! ## Rows of users and tenants -/

theorem Value.denotes_integer_iff {n : Int} {t : String} :
    (Value.number (.integer n)).denotes t = true ↔ Number.Canonical n t.toList := by
  rw [Number.canonical_iff_text]
  exact beq_iff_eq

namespace Context

variable {ctx ctx' : Context} {column column' : String} {n : Int}

theorem isOwner_iff (h : ctx.rowValue? column = some (.number (.integer n))) :
    ctx.isOwner column = true ↔ Number.Canonical n ctx.caller.userId.toList := by
  rw [isOwner, h]
  exact Value.denotes_integer_iff

theorem rowInTenant_iff (h : ctx.rowValue? column = some (.number (.integer n))) :
    ctx.rowInTenant column = true ↔
      ∃ tenant, ctx.caller.tenantId = some tenant ∧ Number.Canonical n tenant.toList := by
  rw [rowInTenant, h]
  cases ctx.caller.tenantId with
  | none => exact ⟨nofun, nofun⟩
  | some tenant => simp [Value.denotes_integer_iff]

/-- An integer stands for the identifier that is its canonical decimal form, and for no other one;
what it stands for is a literal for it and stands for no other integer. A row with an integer in a
column belongs to the user, or to the tenant, with that identifier: whoever owns two rows that
hold the same integer is one user, and the tenants they are in are one tenant. -/
theorem integer_identifies :
    (∀ (n : Int) (t : String),
      (Value.number (.integer n)).denotes t = true ↔ Number.Canonical n t.toList) ∧
    (∀ (n : Int) (t : String), Number.InRange n → (Value.number (.integer n)).denotes t = true →
      Number.read? t.toList = some (.integer n, [])) ∧
    (∀ (m n : Int) (t : String), (Value.number (.integer m)).denotes t = true →
      (Value.number (.integer n)).denotes t = true → m = n) ∧
    (∀ (ctx : Context) (column : String) (n : Int),
      ctx.rowValue? column = some (.number (.integer n)) →
        (ctx.isOwner column = true ↔ Number.Canonical n ctx.caller.userId.toList) ∧
        (ctx.rowInTenant column = true ↔
          ∃ tenant, ctx.caller.tenantId = some tenant ∧ Number.Canonical n tenant.toList)) ∧
    (∀ (ctx ctx' : Context) (column column' : String) (n : Int),
      ctx.rowValue? column = some (.number (.integer n)) →
      ctx'.rowValue? column' = some (.number (.integer n)) →
        (ctx.isOwner column = true → ctx'.isOwner column' = true →
          ctx.caller.userId = ctx'.caller.userId) ∧
        (ctx.rowInTenant column = true → ctx'.rowInTenant column' = true →
          ctx.caller.tenantId = ctx'.caller.tenantId)) := by
  refine ⟨fun n t => Value.denotes_integer_iff, fun n t hrange h => ?_, fun m n t hm hn => ?_,
    fun ctx column n h => ⟨isOwner_iff h, rowInTenant_iff h⟩,
    fun ctx ctx' column column' n h h' => ?_⟩
  · exact Number.read?_of_canonical (Value.denotes_integer_iff.mp h) hrange
  · exact (Value.denotes_integer_iff.mp hm).unique (Value.denotes_integer_iff.mp hn)
  · rw [isOwner_iff h, isOwner_iff h', rowInTenant_iff h, rowInTenant_iff h']
    simp only [Number.canonical_iff_text]
    refine ⟨fun howner howner' => howner.symm.trans howner', ?_⟩
    rintro ⟨tenant, htenant, rfl⟩ ⟨tenant', htenant', rfl⟩
    rw [htenant, htenant']

/-! ### Lockers that belong to numbers -/

/-- A user, also known as a tenant of the same name, in front of locker 42. -/
def lockerContext (user : String) : Context :=
  { (default : Context) with
    caller := (Caller.user user).withTenant user
    row := some (Row.empty.insert "owner" (.number (.integer 42))) }

/-- Number 42 is `42`, and neither `042` nor `+42`; the ends of the range are read back. -/
theorem integer_identifies_locker :
    (lockerContext "42").rowValue? "owner" = some (.number (.integer 42)) ∧
    Number.Canonical 42 "42".toList ∧ (lockerContext "42").isOwner "owner" = true ∧
    ¬ Number.Canonical 42 "042".toList ∧ ¬ Number.Canonical 42 "+42".toList ∧
    (lockerContext "042").isOwner "owner" = false ∧
    (lockerContext "+42").rowInTenant "owner" = false ∧
    Number.InRange (-9223372036854775808) ∧ Number.InRange 18446744073709551615 ∧
    Number.read? "-9223372036854775808".toList = some (.integer (-9223372036854775808), []) ∧
    Number.read? "18446744073709551615".toList = some (.integer 18446744073709551615, []) := by
  obtain ⟨hdenotes, hread, -, hrow, -⟩ := integer_identifies
  have hforty : Number.Canonical 42 "42".toList := (hdenotes 42 "42").mp (by decide)
  have hzero : ¬ Number.Canonical 42 "042".toList := fun h =>
    absurd ((hdenotes 42 "042").mpr h) (by decide)
  have hplus : ¬ Number.Canonical 42 "+42".toList := fun h =>
    absurd ((hdenotes 42 "+42").mpr h) (by decide)
  have hvalue : ∀ user, (lockerContext user).rowValue? "owner" = some (.number (.integer 42)) :=
    fun _ => rfl
  have hlow : Number.InRange (-9223372036854775808) := by decide
  have hhigh : Number.InRange 18446744073709551615 := by decide
  refine ⟨hvalue _, hforty, (hrow _ _ _ (hvalue _)).1.mpr hforty, hzero, hplus, ?_, ?_, hlow, hhigh,
    hread _ _ hlow (by decide +kernel), hread _ _ hhigh (by decide +kernel)⟩
  · exact Bool.eq_false_iff.mpr fun h => hzero ((hrow _ _ _ (hvalue _)).1.mp h)
  · refine Bool.eq_false_iff.mpr fun h => ?_
    obtain ⟨tenant, htenant, hcanonical⟩ := (hrow _ _ _ (hvalue _)).2.mp h
    obtain rfl : "+42" = tenant := Option.some.inj htenant
    exact hplus hcanonical

end Context

end RowAccess
