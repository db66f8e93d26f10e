import RowAccess.Proofs.Queries
import RowAccess.Proofs.Validation

/-!
# Callers of whom nothing is asked

System callers pass everywhere, and callers with an exempt role pass on
the table that exempts it. Decisions find these callers out in one place
and filters and validation in another; a decision shows them by its
reason, which is a text. All of these draw one line, `Evaluator.Spares`:
the reasons of a bypass are given for nothing else, whatever policies
are called (`isBypass_decide_iff`), and no other entry point asks such a
caller anything (`bypass_everywhere`). No policy is run, so it makes no
difference what the policies of the table would have done.
-/

namespace RowAccess

/-! ## Exempt roles -/

theorem Caller.holdsOneOf_iff {c : Caller} {roles : NameSet} :
    c.holdsOneOf roles = true ↔ ∃ role, c.hasRole role = true ∧ roles.contains role = true :=
  NameSet.meets_iff

/-- Nothing is asked of the caller about the table: a system caller, or one with a role that
the registered table exempts. -/
def Evaluator.Spares (ev : Evaluator) (table : String) (c : Caller) : Prop :=
  c.isSystem = true ∨ ∃ t, ev.registry.find? table = some t ∧
    ∃ role, c.hasRole role = true ∧ t.exempt.contains role = true

theorem Evaluator.spares_iff {ev : Evaluator} {table : String} {c : Caller} :
    ev.Spares table c ↔
      c.isSystem = true ∨ ∃ t, ev.registry.find? table = some t ∧ t.exempts c = true := by
  unfold Spares Table.exempts
  simp only [Caller.holdsOneOf_iff]

/-! ## Reasons -/

namespace Decision

/-- The reason of a policy starts like no reason of a bypass, whatever the policy is called. -/
theorem matchedReason_ne (p : Policy) {s : String} (hs : s.toList.head? ≠ some 'M') :
    matchedReason p ≠ s := by
  rintro rfl
  apply hs
  unfold matchedReason
  simp only [String.toList_append, List.append_assoc]
  rfl

theorem isBypass_byPolicy (p : Policy) (trace : List TraceEntry) :
    (byPolicy p trace).isBypass = false := by
  have hsystem : matchedReason p ≠ systemReason := matchedReason_ne p (by decide)
  have hexempt : matchedReason p ≠ exemptReason := matchedReason_ne p (by decide)
  simp [isBypass, byPolicy, hsystem, hexempt]

theorem isBypass_byDefault (deny : Bool) (trace : List TraceEntry) :
    (byDefault deny trace).isBypass = false := rfl

end Decision

theorem Table.isBypass_decide (t : Table) (ctx : Context) (m : Moment) :
    (t.decide ctx m).isBypass = false := by
  unfold decide
  split
  · exact Decision.isBypass_byPolicy _ _
  · exact Decision.isBypass_byDefault _ _

/-- A policy that borrows the words of a bypass. -/
example :
    let p : Policy :=
      { name := Decision.exemptReason, operations := [.all], priority := 0
        body := .allow fun _ => .value true, activation := none, hints := none }
    let t : Table := ⟨"docs", [p], true, KeyMap.empty⟩
    let d := t.decide default ⟨defaultEnvironment, KeyMap.empty, default⟩
    d.allowed = true ∧ d.isBypass = false := ⟨rfl, rfl⟩

/-! ## Spared callers -/

namespace Evaluator

variable {ev : Evaluator} {table : String} {op : Operation} {ctx : Context} {m : Moment}

/-- A spared caller is let through for one reason, whatever else the context holds. -/
theorem exists_decide_of_spares {c : Caller} (h : ev.Spares table c) :
    ∃ reason, (Decision.bypass reason).isBypass = true ∧
      ∀ ctx m, ctx.table = table → ctx.caller = c → ev.decide ctx m = Decision.bypass reason := by
  by_cases hsystem : c.isSystem = true
  · refine ⟨Decision.systemReason, rfl, fun ctx m _ hcaller => ?_⟩
    simp [decide, hcaller, hsystem]
  · obtain ⟨t, ht, hexempt⟩ := (spares_iff.mp h).resolve_left hsystem
    refine ⟨Decision.exemptReason, rfl, fun ctx m htable hcaller => ?_⟩
    simp [decide, htable, hcaller, hsystem, ht, hexempt]

theorem isBypass_decide_iff :
    (ev.decide ctx m).isBypass = true ↔ ev.Spares ctx.table ctx.caller := by
  constructor
  · intro h
    rw [spares_iff]
    unfold decide at h
    split at h
    · next hsystem => exact Or.inl hsystem
    · split at h
      · rw [Decision.isBypass_byDefault] at h
        cases h
      · next t ht =>
          split at h
          · next hexempt => exact Or.inr ⟨t, ht, hexempt⟩
          · rw [Table.isBypass_decide] at h
            cases h
  · intro h
    obtain ⟨reason, hreason, hdecide⟩ := exists_decide_of_spares h
    rw [hdecide ctx m rfl rfl]
    exact hreason

theorem enforced?_eq_none_of_spares (h : ev.Spares ctx.table ctx.caller) :
    ev.enforced? ctx = none := by
  rcases spares_iff.mp h with hsystem | ⟨t, ht, hexempt⟩
  · unfold enforced?
    rw [if_pos hsystem]
  · rw [enforced?_of_registered ht, if_pos (Or.inr hexempt)]

/-! ## Entry points -/

section

variable (h : ev.Spares table ctx.caller)
include h

/-- The decision is a bypass, and the same about every operation, row and payload and at every
moment. -/
theorem exists_evaluateAt_of_spares :
    ∃ reason, (Decision.bypass reason).isBypass = true ∧
      ∀ op (ctx' : Context) m, ctx'.caller = ctx.caller →
        (ev.evaluateAt table op ctx' m).result = Decision.bypass reason := by
  obtain ⟨reason, hreason, hdecide⟩ := exists_decide_of_spares h
  exact ⟨reason, hreason, fun op ctx' m hcaller => hdecide (ctx'.about table op) m rfl hcaller⟩

theorem filtersAt_of_spares : (ev.filtersAt table op ctx m).result = .ok FilterResult.empty :=
  filtersAt_of_unenforced (enforced?_eq_none_of_spares h)

theorem validateAt_of_spares : (ev.validateAt table op ctx m).result = .ok () :=
  validateAt_of_unenforced (enforced?_eq_none_of_spares h)

theorem guard_of_spares (existing data : Option Row) :
    (ev.guard table op existing data ctx).result = .ok (ev.evaluateAt table op ctx m).result := by
  obtain ⟨reason, -, hevaluate⟩ := exists_evaluateAt_of_spares h
  have hwrite : ev.Spares table (writeContext ctx existing data).caller := h
  rw [hevaluate op ctx m rfl]
  exact guard_ok_iff.mpr
    ⟨hevaluate op (writeContext ctx existing data) ev.moment rfl, rfl, validateAt_of_spares hwrite⟩

theorem transform_of_spares (q : Query) : (ev.transform q table ctx).result = .ok q := by
  obtain ⟨reason, -, hevaluate⟩ := exists_evaluateAt_of_spares h
  have hallowed : (ev.evaluate table .read ctx).result.allowed = true :=
    congrArg Decision.allowed (hevaluate .read ctx ev.moment rfl)
  refine transform_ok_iff.mpr ⟨hallowed, FilterResult.empty, filtersAt_of_spares h, rfl, ?_⟩
  show q = { q with conditions := q.conditions ++ [] }
  rw [List.append_nil]

end

end Evaluator

theorem Row.satisfies_empty (row : Row) : row.satisfies Row.empty = true := rfl

namespace Engine

theorem readRows_of_spares {e : Engine} {table : String} {ctx : Context}
    (h : e.evaluator.Spares table ctx.caller) (rows : List Row) (o : MaskOptions) :
    (e.readRows table rows ctx o).result =
      .ok (rows.map fun row => (e.fields.maskRow table row ctx o).result) := by
  obtain ⟨reason, -, hevaluate⟩ := Evaluator.exists_evaluateAt_of_spares h
  have hallowed : ∀ row : Row,
      (e.evaluator.evaluate table .read (ctx.withRow row)).result.allowed = true := fun row =>
    congrArg Decision.allowed (hevaluate .read (ctx.withRow row) e.evaluator.moment rfl)
  rw [readRows_ok (Evaluator.filtersAt_of_spares h)]
  simp only [hallowed, Row.satisfies_empty, FilterResult.empty, Bool.and_self, List.filter_true]

/-- A decision is a bypass exactly for system callers and for callers who hold a role that the
registered table exempts; no name of a policy and no reason makes another decision look like one.
And then everything else agrees, whatever the policies would do: the decision allows, with no
policy and no trace, there are no conditions, the payload passes, so does the guard of every
write, a query stays as it is, and a read returns every row, masked. -/
theorem bypass_everywhere (e : Engine) (table : String) (op : Operation) (ctx : Context)
    (m : Moment) :
    let ev := e.evaluator
    let d := (ev.evaluateAt table op ctx m).result
    (d.isBypass = true ↔ ctx.caller.isSystem = true ∨
      ∃ t, ev.registry.find? table = some t ∧
        ∃ role, ctx.caller.hasRole role = true ∧ t.exempt.contains role = true) ∧
    (d.isBypass = true →
      d.allowed = true ∧ d.trace = [] ∧ d.policy = none ∧
      (ev.filtersAt table op ctx m).result = .ok FilterResult.empty ∧
      (ev.validateAt table op ctx m).result = .ok () ∧
      (∀ existing data, (ev.guard table op existing data ctx).result = .ok d) ∧
      (∀ q, (ev.transform q table ctx).result = .ok q) ∧
      ∀ rows o, (e.readRows table rows ctx o).result =
        .ok (rows.map fun row => (e.fields.maskRow table row ctx o).result)) := by
  intro ev d
  have hbypass : d.isBypass = true ↔ ev.Spares table ctx.caller :=
    Evaluator.isBypass_decide_iff
  refine ⟨hbypass, fun h => ?_⟩
  have hspares := hbypass.mp h
  obtain ⟨reason, -, hevaluate⟩ := Evaluator.exists_evaluateAt_of_spares hspares
  have hd : d = Decision.bypass reason := hevaluate op ctx m rfl
  refine ⟨by rw [hd]; rfl, by rw [hd]; rfl, by rw [hd]; rfl, ?_, ?_, ?_, ?_, ?_⟩
  · exact Evaluator.filtersAt_of_spares hspares
  · exact Evaluator.validateAt_of_spares hspares
  · exact Evaluator.guard_of_spares hspares
  · exact Evaluator.transform_of_spares hspares
  · exact readRows_of_spares hspares

/-! ### A table on which everything crashes -/

def vaultRules : TableRules :=
  let policy (name : String) (body : PolicyBody) : Policy :=
    { name, operations := [.all], priority := 0, body
      activation := some fun _ => .error ⟨none⟩, hints := none }
  { policies :=
      [policy "sealed" (.deny fun _ => .crashed ⟨some "no seal"⟩),
       policy "own" (.filter fun _ => .crashed ⟨none⟩),
       policy "signed" (.validate fun _ => .failed "no signature")]
    defaultDeny := true, exempt := NameSet.ofList ["auditor"] }

def vaultEngine : Engine :=
  { settings := Settings.default, fields := KeyMap.empty
    evaluator :=
      { registry := KeyMap.empty.insert "vault" (vaultRules.compiled "vault")
        environment := defaultEnvironment, features := KeyMap.empty, clock := .fixed default
        audit := none, denyUnregistered := false } }

def vaultContext : Context :=
  { (default : Context) with caller := (Caller.user "u1").withRoles ["clerk", "auditor"] }

/-- An auditor updates and reads what nobody else gets at. -/
theorem bypass_everywhere_vault :
    let ev := vaultEngine.evaluator
    let d := (ev.evaluate "vault" .update vaultContext).result
    d.isBypass = true ∧ (ev.guard "vault" .update none none vaultContext).result = .ok d ∧
      (∀ rows o, (vaultEngine.readRows "vault" rows vaultContext o).result =
        .ok (rows.map fun row => (vaultEngine.fields.maskRow "vault" row vaultContext o).result)) ∧
      (vaultEngine.readRows "vault" [] default .keepAll).result =
        .error (.filterFailed ⟨"own", "panicked"⟩) := by
  intro ev d
  have hbypass : d.isBypass = true := rfl
  obtain ⟨-, hagree⟩ := bypass_everywhere vaultEngine "vault" .update vaultContext ev.moment
  obtain ⟨-, -, -, -, -, hguard, -, hread⟩ := hagree hbypass
  exact ⟨hbypass, hguard none none, hread, rfl⟩

end Engine

end RowAccess
