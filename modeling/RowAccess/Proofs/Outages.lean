import RowAccess.Proofs.Reads
import RowAccess.Proofs.Revision

/-!
# Conditions that crash

A condition that crashes leaves an allow policy out and every other
policy in. To see what a crash costs, the same rules are looked at with
answers in its place: `settled` gives each policy for which an answer is
chosen that answer, where its condition crashes, and touches nothing
else.

For reads the comparison is not one-sided. A filter that stays in
because its condition crashed takes its columns over from the filters
behind it, so a row may come back that none of the answers lets through
(`readRows_outage_widens`). What does hold is `readRows_settled`: only
the overruled columns make the difference.
-/

namespace RowAccess

/-! ## Answers in place of crashes -/

/-- The answers chosen for policies, by table and name. -/
abbrev Answers := String → String → Option Bool

namespace Policy

def crashes (p : Policy) (m : Moment) : Bool :=
  match p.activation with
  | some c =>
    match c m with
    | .ok _ => false
    | .error _ => true
  | none => false

/-- The policy with the answer in place of a condition that crashes. -/
def settled (p : Policy) (answer : Option Bool) (m : Moment) : Policy :=
  match answer with
  | some b => if p.crashes m then { p with activation := some fun _ => .ok b } else p
  | none => p

variable {p : Policy} {answer : Option Bool} {m : Moment}

theorem settled_of_crashes (h : p.crashes m = true) (b : Bool) :
    p.settled (some b) m = { p with activation := some fun _ => .ok b } := if_pos h

theorem settled_cases (p : Policy) (answer : Option Bool) (m : Moment) :
    p.settled answer m = p ∨
      ∃ b, answer = some b ∧ p.crashes m = true ∧
        p.settled answer m = { p with activation := some fun _ => .ok b } := by
  unfold settled
  cases answer with
  | none => exact Or.inl rfl
  | some b =>
      by_cases hcrash : p.crashes m = true
      · exact Or.inr ⟨b, rfl, hcrash, settled_of_crashes hcrash b⟩
      · exact Or.inl (if_neg hcrash)

@[simp] theorem settled_name : (p.settled answer m).name = p.name := by
  rcases settled_cases p answer m with h | ⟨b, -, -, h⟩ <;> rw [h]

@[simp] theorem settled_priority : (p.settled answer m).priority = p.priority := by
  rcases settled_cases p answer m with h | ⟨b, -, -, h⟩ <;> rw [h]

@[simp] theorem settled_body : (p.settled answer m).body = p.body := by
  rcases settled_cases p answer m with h | ⟨b, -, -, h⟩ <;> rw [h]

@[simp] theorem settled_kind : (p.settled answer m).kind = p.kind :=
  congrArg PolicyBody.kind settled_body

@[simp] theorem settled_appliesTo (op : Operation) :
    (p.settled answer m).appliesTo op = p.appliesTo op := by
  rcases settled_cases p answer m with h | ⟨b, -, -, h⟩
  · rw [h]
  · rw [h]; rfl

theorem isActive_of_crashes (h : p.crashes m = true) : p.isActive m = (p.kind != .allow) := by
  unfold crashes at h
  unfold isActive
  cases hc : p.activation with
  | none => rw [hc] at h; cases h
  | some c =>
      cases hm : c m with
      | ok b => simp [hc, hm] at h
      | error crash => simp only [hm]

theorem settled_isActive : (p.settled answer m).isActive m =
    if p.crashes m then answer.getD (p.kind != .allow) else p.isActive m := by
  by_cases hcrash : p.crashes m = true
  · rw [if_pos hcrash]
    cases answer with
    | none => exact isActive_of_crashes hcrash
    | some b =>
        rw [settled_of_crashes hcrash]
        rfl
  · rw [if_neg hcrash]
    rcases settled_cases p answer m with h | ⟨_, -, h, -⟩
    · rw [h]
    · exact absurd h hcrash

/-- A filter goes on restricting, unless its condition crashed and the answer is no. -/
theorem settled_restricts_iff {ctx : Context} {f : FilterFunction} :
    (p.settled answer m).Restricts ctx m f ↔
      p.Restricts ctx m f ∧ ¬ (p.crashes m = true ∧ answer = some false) := by
  constructor
  · rintro ⟨hbody, hop, hactive⟩
    rw [settled_body] at hbody
    rw [settled_appliesTo] at hop
    rw [settled_isActive] at hactive
    have hkind : (p.kind != .allow) = true := by
      show (p.body.kind != .allow) = true
      rw [hbody]; rfl
    by_cases hcrash : p.crashes m = true
    · rw [if_pos hcrash] at hactive
      refine ⟨⟨hbody, hop, by rw [isActive_of_crashes hcrash, hkind]⟩, fun ⟨_, ha⟩ => ?_⟩
      rw [ha] at hactive
      cases hactive
    · rw [if_neg hcrash] at hactive
      exact ⟨⟨hbody, hop, hactive⟩, fun ⟨h, _⟩ => hcrash h⟩
  · rintro ⟨⟨hbody, hop, hactive⟩, hno⟩
    refine ⟨by rw [settled_body, hbody], by rw [settled_appliesTo, hop], ?_⟩
    rw [settled_isActive]
    by_cases hcrash : p.crashes m = true
    · rw [if_pos hcrash]
      rcases answer with _ | _ | _
      · rw [Option.getD_none, ← isActive_of_crashes hcrash, hactive]
      · exact absurd ⟨hcrash, rfl⟩ hno
      · rfl
    · rw [if_neg hcrash, hactive]

theorem settled_asks_iff {ctx : Context} {k : String} {v : Value} :
    (p.settled answer m).Asks ctx m k v ↔
      p.Asks ctx m k v ∧ ¬ (p.crashes m = true ∧ answer = some false) := by
  simp only [Asks, settled_restricts_iff]
  constructor
  · rintro ⟨f, row, ⟨hf, hno⟩, hrow⟩
    exact ⟨⟨f, row, hf, hrow⟩, hno⟩
  · rintro ⟨⟨f, row, hf, hrow⟩, hno⟩
    exact ⟨f, row, ⟨hf, hno⟩, hrow⟩

end Policy

/-! ## Whole declarations -/

def TableRules.settled (rules : TableRules) (answer : String → Option Bool) (m : Moment) :
    TableRules :=
  { rules with policies := rules.policies.map fun p => p.settled (answer p.name) m }

def Schema.settled (s : Schema) (answers : Answers) (m : Moment) : Schema :=
  s.map fun e => (e.1, TableRules.settled e.2 (answers e.1) m)

def EngineParts.settled (p : EngineParts) (answers : Answers) : EngineParts :=
  { p with schema := p.schema.settled answers p.moment }

theorem TableRules.settled_wellNamed {rules : TableRules} {table : String}
    (h : rules.WellNamed table) (answer : String → Option Bool) (m : Moment) :
    (rules.settled answer m).WellNamed table :=
  h.revised fun _ => Policy.settled_name

theorem Schema.settled_facing {s : Schema} {answers : Answers} {m : Moment} (table : String)
    (c : Caller) :
    (s.settled answers m).facing table c =
      (s.facing table c).map fun p => p.settled (answers table p.name) m :=
  Schema.facing_revised (f := fun t p => p.settled (answers t p.name) m) table c

theorem EngineParts.settled_build {p : EngineParts} {e : Engine} (h : p.build = .ok e)
    (answers : Answers) :
    ∃ registry, Registry.ofSchema (p.schema.settled answers p.moment) = .ok registry ∧
      (p.settled answers).build =
        .ok { e with evaluator := { e.evaluator with registry } } :=
  EngineParts.build_revised (f := fun t q => q.settled (answers t q.name) p.moment) h
    fun _ _ => Policy.settled_name

/-! ## Decisions do not depend on filters -/

/-- Only filters of the table are given answers. -/
def Answers.OnlyFilters (answers : Answers) (s : Schema) (table : String) : Prop :=
  ∀ rules, (table, rules) ∈ s → ∀ q ∈ rules.policies,
    (answers table q.name).isSome = true → q.kind = .filter

theorem Answers.OnlyFilters.revisesFilters {answers : Answers} {s : Schema} {table : String}
    (honly : answers.OnlyFilters s table) {rules : TableRules} (h : (table, rules) ∈ s)
    (m : Moment) :
    Policy.RevisesFilters rules.policies fun q => q.settled (answers table q.name) m where
  priority := fun _ => Policy.settled_priority
  kind := fun _ => Policy.settled_kind
  operations := fun _ op => Policy.settled_appliesTo op
  others := by
    intro q hq hkind
    cases hanswer : answers table q.name with
    | none => rfl
    | some b => exact absurd (honly rules h q hq (by rw [hanswer]; rfl)) hkind

theorem Evaluator.settled_decide {ev : Evaluator} {s : Schema} {answers : Answers}
    {registry : Registry} {m' : Moment} (hreg : Registry.ofSchema s = .ok ev.registry)
    (hreg' : Registry.ofSchema (s.settled answers m') = .ok registry) {ctx : Context}
    (honly : answers.OnlyFilters s ctx.table) (m : Moment) :
    Evaluator.decide { ev with registry } ctx m = ev.decide ctx m :=
  Evaluator.decide_revised (f := fun t q => q.settled (answers t q.name) m') hreg hreg'
    (fun _ h => honly.revisesFilters h m') m

/-! ## Reads -/

namespace Policy

variable {ps : List Policy} {answer : String → Option Bool} {ctx : Context} {m : Moment}
  {k : String} {v : Value}

/-- With the answers given, column `k` is bound to `v`; as long as the conditions crash, it is
bound to something else. -/
def Overruled (ps : List Policy) (answer : String → Option Bool) (ctx : Context) (m : Moment)
    (k : String) (v : Value) : Prop :=
  Binds (ps.map fun q => q.settled (answer q.name) m) ctx m k v ∧
    ∃ w, w ≠ v ∧ Binds ps ctx m k w

/-- A column that is overruled belongs to a filter whose condition crashed and whose answer is
no. Any other filter would keep it: the settled policies ask for less. -/
theorem Overruled.by_crash (h : Overruled ps answer ctx m k v) :
    ∃ i q, FirstAt ps (fun r => ∃ w, r.Asks ctx m k w) i q ∧
      q.crashes m = true ∧ answer q.name = some false := by
  obtain ⟨hbinds, w, hne, i, q, hq, hw⟩ := h
  refine ⟨i, q, hq, ?_⟩
  by_contra hstays
  have hasks : (q.settled (answer q.name) m).Asks ctx m k w :=
    settled_asks_iff.mpr ⟨hw, hstays⟩
  have hkept : Binds (ps.map fun r => r.settled (answer r.name) m) ctx m k w :=
    ⟨i, _, hq.map (fun _ => settled_priority) ⟨w, hasks⟩
      fun r _ ⟨u, hu⟩ => ⟨u, (settled_asks_iff.mp hu).1⟩, hasks⟩
  exact hne (hkept.unique hbinds)

theorem binds_or_overruled
    (h : Binds (ps.map fun q => q.settled (answer q.name) m) ctx m k v) :
    Binds ps ctx m k v ∨ Overruled ps answer ctx m k v := by
  obtain ⟨i, r, hr, hv⟩ := id h
  obtain ⟨q, hq, rfl⟩ := List.mem_map.mp hr.mem
  obtain ⟨w, hw⟩ := exists_binds.mpr ⟨q, hq, v, (settled_asks_iff.mp hv).1⟩
  by_cases hwv : w = v
  · exact Or.inl (hwv ▸ hw)
  · exact Or.inr ⟨h, w, hwv, hw⟩

/-- Of the rows that are admitted while conditions crash, the answers admit those that meet
what was overruled. -/
theorem settled_admits_iff {row : Row} (h : Admits ps ctx m row) :
    Admits (ps.map fun q => q.settled (answer q.name) m) ctx m row ↔
      ∀ k v, Overruled ps answer ctx m k v →
        (FilterOperator.forValue v).holds (row.get? k) v = true := by
  constructor
  · intro hall k v hover
    exact hall k v hover.1
  · intro hover k v hv
    rcases binds_or_overruled hv with hbinds | hoverruled
    · exact h k v hbinds
    · exact hover k v hoverruled

theorem settled_failsToRestrict {p : Policy} {b : Option Bool}
    (h : (p.settled b m).FailsToRestrict ctx m) : p.FailsToRestrict ctx m := by
  obtain ⟨f, hf, hfail⟩ := h
  exact ⟨f, (settled_restricts_iff.mp hf).1, hfail⟩

theorem settled_not_failsToRestrict (h : ∀ p ∈ ps, ¬ p.FailsToRestrict ctx m) :
    ∀ q ∈ ps.map fun p => p.settled (answer p.name) m, ¬ q.FailsToRestrict ctx m := by
  intro q hq hfail
  obtain ⟨p, hp, rfl⟩ := List.mem_map.mp hq
  exact h p hp (settled_failsToRestrict hfail)

end Policy

namespace Engine

/-- A read while conditions crash, against the same read with answers in their place. The second
one succeeds if the first one does. A row of the first is a row of the second exactly if it
meets the values that were overruled, and those that overrule are filters whose condition
crashed and whose answer is no. Where nothing is overruled, the second read returns all that
the first one does. -/
theorem readRows_settled {p : EngineParts} {e : Engine} (hbuild : p.build = .ok e)
    {answers : Answers} {table : String} (honly : answers.OnlyFilters p.schema table)
    {ctx : Context} {o : MaskOptions} {rows : List Row} {out : List MaskedRow}
    (hread : (e.readRows table rows ctx o).result = .ok out) :
    let ps := p.schema.facing table ctx.caller
    let asked := ctx.about table .read
    let mask := fun row => (e.fields.maskRow table row ctx o).result
    let Overruled := Policy.Overruled ps (answers table) asked p.moment
    ∃ e', (p.settled answers).build = .ok e' ∧ ∃ keep keep' : Row → Bool,
      out = (rows.filter keep).map mask ∧
      (e'.readRows table rows ctx o).result = .ok ((rows.filter keep').map mask) ∧
      (∀ row, keep row = true → (keep' row = true ↔ ∀ k v, Overruled k v →
        (FilterOperator.forValue v).holds (row.get? k) v = true)) ∧
      (∀ k v, Overruled k v → ∃ i q, Policy.FirstAt ps
        (fun r => ∃ w, r.Asks asked p.moment k w) i q ∧
          q.crashes p.moment = true ∧ answers table q.name = some false) ∧
      ((∀ k v, ¬ Overruled k v) →
        out.Sublist ((rows.filter keep').map mask)) := by
  intro ps asked mask Overruled
  have hreg := EngineParts.registry_of_build hbuild
  obtain ⟨registry, hreg', hbuild'⟩ := EngineParts.settled_build hbuild answers
  have hok := not_failsToRestrict_of_ok hbuild hread
  have hfacing : (p.settled answers).schema.facing table ctx.caller =
      ps.map fun q => q.settled (answers table q.name) p.moment :=
    Schema.settled_facing table ctx.caller
  have hok' : ∀ q ∈ (p.settled answers).schema.facing table ctx.caller,
      ¬ q.FailsToRestrict asked (p.settled answers).moment := by
    rw [hfacing]
    exact Policy.settled_not_failsToRestrict hok
  obtain ⟨keep, hkeep, hrows⟩ := readRows_admitted (o := o) hbuild hok
  obtain ⟨keep', hkeep', hrows'⟩ := readRows_admitted (o := o) hbuild' hok'
  have hallowed : ∀ row, (Evaluator.evaluate { e.evaluator with registry } table .read
      (ctx.withRow row)).result = (e.evaluator.evaluate table .read (ctx.withRow row)).result :=
    fun row => Evaluator.settled_decide hreg hreg' honly _
  have hexact : ∀ row, keep row = true → (keep' row = true ↔ ∀ k v, Overruled k v →
      (FilterOperator.forValue v).holds (row.get? k) v = true) := by
    intro row hrow
    obtain ⟨hadmits, hread'⟩ := (hkeep row).mp hrow
    rw [hkeep', hallowed, and_iff_left hread', hfacing]
    exact Policy.settled_admits_iff hadmits
  refine ⟨_, hbuild', keep, keep', ?_, hrows' rows, hexact, fun k v h => h.by_crash, ?_⟩
  · exact Except.ok.inj (hread.symm.trans (hrows rows))
  · intro hnone
    rw [Except.ok.inj (hread.symm.trans (hrows rows))]
    refine (List.monotone_filter_right rows fun row hrow => ?_).map mask
    exact (hexact row hrow).mpr fun k v hover => absurd hover (hnone k v)

/-! ### A tenant filter that is overruled -/

/-- Rows of tenant `a`, unless a feature service says that the partner tenant `b` is to be read
instead. The service is down. -/
def partnerParts : EngineParts :=
  let policy (name : String) (priority : Int) (tenant : String) : Policy :=
    { name, operations := [.read], priority, activation := none, hints := none
      body := .filter fun _ => .value (Row.ofEntries [("tenant", .string tenant)]) }
  { settings := Settings.default
    schema := [("docs",
      { policies :=
          [{ policy "partner" 10 "b" with
             activation := some fun _ => .error ⟨some "flag service down"⟩ },
           policy "tenant" 0 "a"]
        defaultDeny := false, exempt := KeyMap.empty })]
    fieldSchema := [], clock := .fixed default, audit := none }

/-- The service would have said no. -/
def partnerAnswers : Answers := fun _ name => if name = "partner" then some false else none

def partnerRow : Row := Row.ofEntries [("tenant", .string "b")]

/-- A crash widens this read: the row of tenant `b` comes back while the service is down, and
does not come back when it says no. -/
theorem readRows_outage_widens :
    ∃ e e', partnerParts.build = .ok e ∧ (partnerParts.settled partnerAnswers).build = .ok e' ∧
      (default : Context).caller.isSystem = false ∧
      (e.readRows "docs" [partnerRow] default .keepAll).result = .ok [⟨partnerRow, [], []⟩] ∧
      (e'.readRows "docs" [partnerRow] default .keepAll).result = .ok [] :=
  ⟨_, _, rfl, rfl, rfl, rfl, rfl⟩

/-- The row of tenant `b` fails a value that was overruled. -/
theorem readRows_settled_partner :
    ∃ e, partnerParts.build = .ok e ∧ partnerAnswers.OnlyFilters partnerParts.schema "docs" ∧
      (e.readRows "docs" [partnerRow] default .keepAll).result = .ok [⟨partnerRow, [], []⟩] ∧
      ∃ k v, Policy.Overruled (partnerParts.schema.facing "docs" (default : Context).caller)
          (partnerAnswers "docs") ((default : Context).about "docs" .read)
          partnerParts.moment k v ∧
        (FilterOperator.forValue v).holds (partnerRow.get? k) v = false := by
  have honly : partnerAnswers.OnlyFilters partnerParts.schema "docs" := by
    intro rules hrules q hq _
    obtain rfl := (Prod.mk.inj (List.mem_singleton.mp hrules)).2
    simp only [List.mem_cons, List.not_mem_nil, or_false] at hq
    rcases hq with rfl | rfl <;> rfl
  refine ⟨_, rfl, honly, rfl, ?_⟩
  obtain ⟨e', hbuild', keep, keep', hout, hout', hexact, -, -⟩ :=
    @readRows_settled partnerParts _ rfl partnerAnswers "docs" honly default .keepAll
      [partnerRow] _ rfl
  obtain rfl := Except.ok.inj hbuild'
  have hkeep : keep partnerRow = true := by
    by_contra hdrop
    rw [List.filter_cons_of_neg hdrop] at hout
    cases hout
  have hkeep' : ¬ keep' partnerRow = true := by
    intro hstay
    rw [List.filter_cons_of_pos hstay] at hout'
    cases hout'
  by_contra hmeets
  refine hkeep' ((hexact partnerRow hkeep).mpr fun k v hover => ?_)
  by_contra hfails
  exact hmeets ⟨k, v, hover, Bool.of_not_eq_true hfails⟩

end Engine

end RowAccess
