import RowAccess.Proofs.Columns

/-!
# Leaving columns out

Options say which columns of a row are kept at all. Masking drops the
others first and goes through what is left, but every check is made about
the row as it was: a rule may read a column that does not come out. So
the order of the two does not matter. `maskRow_keeping`: a row masked
under options is the row masked without any, cut down to the kept
columns, its two lists of columns included.
-/

namespace RowAccess

namespace MaskOptions

/-- The column is not excluded, and is among the included ones if there are such. -/
structure Keeps (o : MaskOptions) (name : String) : Prop where
  allowed : name ∉ NameSet.toList o.excluded
  asked : ∀ names ∈ o.included, name ∈ NameSet.toList names

theorem contains_iff {names : NameSet} {name : String} :
    names.contains name = true ↔ name ∈ NameSet.toList names :=
  Entries.find?_isSome

theorem keeps_iff {o : MaskOptions} {name : String} : o.keeps name = true ↔ o.Keeps name := by
  obtain ⟨included, excluded⟩ := o
  have hallowed : (!excluded.contains name) = true ↔ name ∉ NameSet.toList excluded := by
    rw [← contains_iff, Bool.not_eq_true', Bool.not_eq_true]
  cases included with
  | none =>
      show (!excluded.contains name && true) = true ↔ _
      rw [Bool.and_true, hallowed]
      exact ⟨fun h => ⟨h, by simp⟩, Keeps.allowed⟩
  | some names =>
      show (!excluded.contains name && names.contains name) = true ↔ _
      rw [Bool.and_eq_true, hallowed, contains_iff]
      exact ⟨fun h => ⟨h.1, by simpa using h.2⟩, fun h => ⟨h.allowed, h.asked names rfl⟩⟩

instance (o : MaskOptions) : DecidablePred o.Keeps := fun _ => decidable_of_iff _ keeps_iff

theorem keeps_eq_decide (o : MaskOptions) : o.keeps = fun name => decide (o.Keeps name) :=
  funext fun _ => Bool.eq_iff_iff.mpr (keeps_iff.trans decide_eq_true_iff.symm)

theorem keeps_keepAll (name : String) : keepAll.keeps name = true := rfl

end MaskOptions

/-- The masked row cut down to the columns whose names pass the test. -/
def MaskedRow.onNames (test : String → Bool) (m : MaskedRow) : MaskedRow :=
  { data := m.data.onNames test, masked := m.masked.filter test
    omitted := m.omitted.filter test }

namespace FieldRegistry

section

variable (r : FieldRegistry) (table : String) (row : Row) (ctx : Context) (o : MaskOptions)

/-- What is left of the kept columns is what is kept of the columns that are left. -/
theorem data_maskRow_keeping :
    (r.maskRow table row ctx o).result.data =
      (r.maskRow table row ctx .keepAll).result.data.onNames o.keeps := by
  refine Row.ext ?_
  show _ = (r.maskRow table row ctx .keepAll).result.data.entries.filter fun e => o.keeps e.1
  rw [entries_maskRow, entries_maskRow, kept, kept, List.filterMap_filter,
    List.filter_filterMap, List.filterMap_filter]
  refine List.filterMap_congr fun e _ => ?_
  rw [MaskOptions.keeps_keepAll, if_pos rfl]
  cases (r.fateOf table ctx row e.1 e.2).value? with
  | none => simp
  | some w => cases hkeeps : o.keeps e.1 <;> simp [Option.filter, hkeeps]

theorem masked_maskRow_keeping :
    (r.maskRow table row ctx o).result.masked =
      (r.maskRow table row ctx .keepAll).result.masked.filter o.keeps := by
  rw [masked_maskRow, masked_maskRow, List.filter_filter]
  rfl

theorem omitted_maskRow_keeping :
    (r.maskRow table row ctx o).result.omitted =
      (r.maskRow table row ctx .keepAll).result.omitted.filter o.keeps := by
  rw [omitted_maskRow, omitted_maskRow, List.filter_filter]
  rfl

theorem result_maskRow_keeping :
    (r.maskRow table row ctx o).result =
      (r.maskRow table row ctx .keepAll).result.onNames o.keeps :=
  (MaskedRow.mk.injEq ..).mpr ⟨data_maskRow_keeping r table row ctx o,
    masked_maskRow_keeping r table row ctx o, omitted_maskRow_keeping r table row ctx o⟩

end

/-- A row masked under options is the row masked without options and then cut down to the kept
columns, in the row and in both lists, in their order. So two sets of options agree on every
column that both keep: whatever else is left out, it has the same value, or the same one in its
place, or is gone in both, also where the rule of the column reads one that is left out. -/
theorem maskRow_keeping (r : FieldRegistry) (table : String) (row : Row) (ctx : Context)
    (o : MaskOptions) :
    let under := fun o => (r.maskRow table row ctx o).result
    under o = (under .keepAll).onNames (fun name => decide (o.Keeps name)) ∧
    ∀ (o' : MaskOptions) (name : String), o.Keeps name → o'.Keeps name →
      (under o).data.get? name = (under o').data.get? name ∧
      (name ∈ (under o).masked ↔ name ∈ (under o').masked) ∧
      (name ∈ (under o).omitted ↔ name ∈ (under o').omitted) := by
  intro under
  have hunder : ∀ o, under o = (under .keepAll).onNames fun name => decide (o.Keeps name) := by
    intro o
    rw [← MaskOptions.keeps_eq_decide]
    exact result_maskRow_keeping r table row ctx o
  have hkept : ∀ (o : MaskOptions) (name : String), o.Keeps name →
      (under o).data.get? name = (under .keepAll).data.get? name ∧
      (name ∈ (under o).masked ↔ name ∈ (under .keepAll).masked) ∧
      (name ∈ (under o).omitted ↔ name ∈ (under .keepAll).omitted) := by
    intro o name h
    rw [hunder o]
    refine ⟨?_, ?_, ?_⟩
    · exact (Row.get?_onNames _ _ name).trans (if_pos (decide_eq_true h))
    · exact List.mem_filter.trans (and_iff_left (decide_eq_true h))
    · exact List.mem_filter.trans (and_iff_left (decide_eq_true h))
  refine ⟨hunder o, fun o' name h h' => ?_⟩
  obtain ⟨hdata, hmasked, homitted⟩ := hkept o name h
  obtain ⟨hdata', hmasked', homitted'⟩ := hkept o' name h'
  exact ⟨hdata.trans hdata'.symm, hmasked.trans hmasked'.symm, homitted.trans homitted'.symm⟩

/-! ### A salary without its owner -/

/-- The salary is for the employee whose id is in the row; others see three characters. -/
def payFields : FieldRegistry :=
  KeyMap.empty.insert "pay"
    { name := "pay", default := .allow, exempt := KeyMap.empty
      fields :=
        [("salary",
          { FieldRule.ownerOnly "owner" with
            mask := some (MaskStrategy.toFunction (.truncate 3)) }),
         ("badge", { FieldRule.neverAccessible with omitWhenHidden := true })]
      index := (KeyMap.empty.insert "salary" 0).insert "badge" 1 }

def payRow : Row :=
  Row.ofEntries
    [("owner", .string "u1"), ("salary", .string "51000"), ("badge", .string "b"),
     ("team", .string "red")]

/-- The owner and the team are asked for, and the owner is left out all the same. -/
def payOptions : MaskOptions :=
  (MaskOptions.keepAll.including ["owner", "salary", "badge"]).excluding ["owner", "guest"]

/-- The owner of the row still sees the salary, and a colleague sees the same part of it as with
the whole row. -/
theorem maskRow_keeping_salary :
    payOptions.Keeps "salary" ∧ ¬ payOptions.Keeps "owner" ∧ MaskOptions.keepAll.Keeps "salary" ∧
    (∀ id, (payFields.maskRow "pay" payRow { (default : Context) with caller := .user id }
        payOptions).result.data.get? "salary" =
      (payFields.maskRow "pay" payRow { (default : Context) with caller := .user id }
        .keepAll).result.data.get? "salary") ∧
    (payFields.maskRow "pay" payRow { (default : Context) with caller := .user "u1" }
        payOptions).result.data.get? "salary" = some (.string "51000") ∧
    (payFields.maskRow "pay" payRow { (default : Context) with caller := .user "u2" }
        payOptions).result =
          ⟨Row.ofEntries [("salary", .string "510...")], ["salary"], ["badge"]⟩ := by
  have hkeeps : payOptions.Keeps "salary" := by decide
  have hall : MaskOptions.keepAll.Keeps "salary" := by decide
  refine ⟨hkeeps, by decide, hall, fun id => ?_, ?_, ?_⟩
  · exact ((maskRow_keeping payFields "pay" payRow _ payOptions).2 .keepAll "salary" hkeeps
      hall).1
  · exact ((maskRow_keeping payFields "pay" payRow _ payOptions).2 .keepAll "salary" hkeeps
      hall).1.trans rfl
  · exact (maskRow_keeping payFields "pay" payRow _ payOptions).1.trans rfl

end FieldRegistry

end RowAccess
