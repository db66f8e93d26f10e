import RowAccess.Proofs.Guards
import RowAccess.Proofs.Irrelevance
import RowAccess.Proofs.MergeOrder
import RowAccess.Proofs.Refusals
import RowAccess.Proofs.Writes

/-!
# What a trace records

A decision comes with a trace of the allow and deny policies that were
asked on the way to it. `Policy.Turn` fixes the order in which policies
are asked in terms of the declaration, `TraceEntry.Records` says what is
written down about one of them, and `Decision.Retraces` what the trace of
a whole decision is: the policies in their turn up to the one that
decided, or all of them.

`Table.decide_cases` says once what a decision can be; `decide_facing`
says it for any caller, who faces the policies of the table or none. From
there

- `retraces_facing` compares the trace with the declaration,
- `handsOn_toDenial` follows it into the denial that a refusal becomes,
- `transform_denied_iff`, `guard_denied_iff` and `guardWrite_denied_iff`
  say that these are the denials which reach a caller.

`Engine.traces_declared` puts these together.
-/

namespace RowAccess

/-! ## Walks that stop -/

/-- A list up to its first item that passes, this one included, or all of it if none does. -/
inductive UpToFirst {α : Type} (passes : α → Prop) : List α → List α → Prop
  | stopped {front back : List α} {x : α} (hfront : ∀ y ∈ front, ¬ passes y) (hx : passes x) :
    UpToFirst passes (front ++ x :: back) (front ++ [x])
  | exhausted {whole : List α} (h : ∀ y ∈ whole, ¬ passes y) : UpToFirst passes whole whole

/-- A search and the walk that goes with it stop at the same item, or not at all. -/
theorem upTo_cases {α : Type} (test : α → Bool) (l : List α) :
    (∃ front x back, l = front ++ x :: back ∧ (∀ y ∈ front, test y = false) ∧ test x = true ∧
      l.find? test = some x ∧ upTo test l = front ++ [x]) ∨
    ((∀ y ∈ l, test y = false) ∧ l.find? test = none ∧ upTo test l = l) := by
  induction l with
  | nil => exact Or.inr ⟨nofun, rfl, rfl⟩
  | cons x rest ih =>
      rw [List.find?_cons, upTo]
      cases hx : test x with
      | true => exact Or.inl ⟨[], x, rest, rfl, nofun, hx, rfl, rfl⟩
      | false =>
          rcases ih with ⟨front, y, back, rfl, hfront, hy, hfind, hwalk⟩ | ⟨hnone, hfind, hwalk⟩
          · refine Or.inl ⟨x :: front, y, back, rfl, ?_, hy, hfind, ?_⟩
            · exact List.forall_mem_cons.mpr ⟨hx, hfront⟩
            · exact congrArg (x :: ·) hwalk
          · refine Or.inr ⟨List.forall_mem_cons.mpr ⟨hx, hnone⟩, hfind, ?_⟩
            exact congrArg (x :: ·) hwalk

/-! ## Policies in turn -/

namespace Policy

/-- The policies of a declaration that are to be asked, each once, in the order in which they are
asked: the highest priority first and equal ones as declared. -/
structure Turn (ps : List Policy) (asked : Policy → Prop) (qs : List Policy) : Prop where
  mem_iff : ∀ p, p ∈ qs ↔ p ∈ ps ∧ asked p
  distinct : qs.Nodup
  ordered : qs.Pairwise fun p q =>
    q.priority < p.priority ∨ q.priority = p.priority ∧ [p, q].Sublist ps

variable {ps qs rs : List Policy} {asked : Policy → Prop}

theorem Turn.unique (hps : ps.Nodup) (hqs : Turn ps asked qs) (hrs : Turn ps asked rs) :
    qs = rs := by
  have hperm : qs.Perm rs := (List.perm_ext_iff_of_nodup hqs.distinct hrs.distinct).mpr
    fun p => (hqs.mem_iff p).trans (hrs.mem_iff p).symm
  exact hperm.eq_of_pairwise (fun p q _ _ hpq hqp => absurd hqp (rank_asymm hps hpq))
    hqs.ordered hrs.ordered

/-- An allow or deny policy that is declared for the operation. -/
def DecidesAbout (p : Policy) (op : Operation) : Prop :=
  p.appliesTo op = true ∧ (p.kind = .allow ∨ p.kind = .deny)

/-- The policies that decide about an operation, in their turn. -/
def decidersOf (ps : List Policy) (op : Operation) : List Policy :=
  ((ranked ps).filter fun p => p.appliesTo op).filter isDecider

theorem mem_decidersOf {p : Policy} {op : Operation} :
    p ∈ decidersOf ps op ↔ p ∈ ps ∧ p.DecidesAbout op := by
  simp only [decidersOf, List.mem_filter, mem_ranked, isDecider_iff, DecidesAbout, and_assoc]

theorem turn_decidersOf (hps : ps.Nodup) (op : Operation) :
    Turn ps (·.DecidesAbout op) (decidersOf ps op) where
  mem_iff _ := mem_decidersOf
  distinct := (((ranked_perm ps).nodup_iff.mpr hps).filter _).filter _
  ordered := ((ranked_pairwise ps).filter _).filter _

theorem names_decidersOf (hps : (ps.map name).Nodup) (op : Operation) :
    ((decidersOf ps op).map name).Nodup := by
  have hranked : ((ranked ps).map name).Nodup := ((ranked_perm ps).map name).nodup_iff.mpr hps
  exact hranked.sublist ((List.filter_sublist.trans List.filter_sublist).map name)

end Policy

/-! ## What a decision can be -/

/-- Either a policy decides, and the trace reaches up to it, or none does and all are in it. -/
theorem Table.decide_cases (t : Table) (ctx : Context) (m : Moment) :
    (∃ front p back, t.deciders ctx.operation = front ++ p :: back ∧
      (∀ q ∈ front, q.decides ctx m = false) ∧ p.decides ctx m = true ∧
      t.decide ctx m = Decision.byPolicy p ((front ++ [p]).map fun q => q.entry ctx m)) ∨
    ((∀ q ∈ t.deciders ctx.operation, q.decides ctx m = false) ∧
      t.decide ctx m = Decision.byDefault t.defaultDeny
        ((t.deciders ctx.operation).map fun q => q.entry ctx m)) := by
  unfold decide asked
  rcases upTo_cases (fun q => q.decides ctx m) (t.deciders ctx.operation) with
    ⟨front, p, back, hsplit, hfront, hp, hfind, hwalk⟩ | ⟨hnone, hfind, hwalk⟩
  · rw [hfind, hwalk]
    exact Or.inl ⟨front, p, back, hsplit, hfront, hp, rfl⟩
  · rw [hfind, hwalk]
    exact Or.inr ⟨hnone, rfl⟩

namespace Evaluator

variable {ev : Evaluator} {s : Schema}

theorem decide_of_unenforced {ctx : Context} (h : ev.enforced? ctx = none) (m : Moment) :
    (ev.decide ctx m).policy = none ∧ (ev.decide ctx m).trace = [] := by
  unfold enforced? at h
  unfold decide
  split
  · exact ⟨rfl, rfl⟩
  · next hsystem =>
      rw [if_neg hsystem] at h
      split
      · exact ⟨rfl, rfl⟩
      · next t ht =>
          rw [ht] at h
          by_cases hexempt : t.exempts ctx.caller = true
          · rw [if_pos hexempt]
            exact ⟨rfl, rfl⟩
          · simp only [hexempt, Bool.false_eq_true, if_false] at h
            cases h

theorem decide_of_enforced {ctx : Context} {t : Table} (h : ev.enforced? ctx = some t)
    (m : Moment) : ev.decide ctx m = t.decide ctx m := by
  unfold enforced? at h
  split at h
  · cases h
  · next hsystem =>
      split at h
      · next t' ht =>
          split at h
          · cases h
          · next hexempt =>
              obtain rfl := Option.some.inj h
              exact decide_of_registered m (by simpa using hsystem) ht (by simpa using hexempt)
      · cases h

/-- The same for any caller, in terms of the policies that the caller faces. -/
theorem decide_facing (hreg : Registry.ofSchema s = .ok ev.registry) (ctx : Context)
    (m : Moment) :
    let ds := Policy.decidersOf (s.facing ctx.table ctx.caller) ctx.operation
    (∃ front p back, ds = front ++ p :: back ∧ (∀ q ∈ front, q.decides ctx m = false) ∧
      p.decides ctx m = true ∧
      ev.decide ctx m = Decision.byPolicy p ((front ++ [p]).map fun q => q.entry ctx m)) ∨
    ((∀ q ∈ ds, q.decides ctx m = false) ∧ (ev.decide ctx m).policy = none ∧
      (ev.decide ctx m).trace = ds.map fun q => q.entry ctx m) := by
  intro ds
  rcases enforced?_cases hreg ctx with ⟨hnone, hfacing⟩ | ⟨rules, hsome, hfacing⟩
  · have hds : ds = [] := by simp only [ds, hfacing]; rfl
    obtain ⟨hpolicy, htrace⟩ := decide_of_unenforced hnone m
    rw [hds]
    exact Or.inr ⟨nofun, hpolicy, htrace⟩
  · have hds : ds = (rules.compiled ctx.table).deciders ctx.operation := by
      simp only [ds, hfacing]; rfl
    rw [hds, decide_of_enforced hsome]
    rcases (rules.compiled ctx.table).decide_cases ctx m with hp | ⟨hnone, hd⟩
    · exact Or.inl hp
    · exact Or.inr ⟨hnone, by rw [hd]; rfl, by rw [hd]; rfl⟩

end Evaluator

/-! ## What an entry records -/

namespace Policy

variable {p : Policy} {ctx : Context} {m : Moment}

/-- The predicate of an allow or deny policy fails or crashes on the context, and this is what
is reported of it. -/
def FailsWith (p : Policy) (ctx : Context) (message : String) : Prop :=
  ∃ f, (p.body = .allow f ∨ p.body = .deny f) ∧ (f ctx).contain = .error message

theorem verdict_eq_error_iff {message : String} :
    p.verdict ctx = .error message ↔ p.FailsWith ctx message := by
  unfold verdict FailsWith PolicyBody.decider?
  cases p.body <;> simp

@[simp] theorem entry_kind : (p.entry ctx m).kind = p.kind := by
  unfold entry
  split
  · cases p.verdict ctx <;> rfl
  · rfl

@[simp] theorem entry_active : (p.entry ctx m).active = p.isActive m := by
  unfold entry
  cases p.isActive m with
  | false => rfl
  | true => cases p.verdict ctx <;> rfl

theorem entry_error_iff {message : String} :
    (p.entry ctx m).error = some message ↔ p.isActive m = true ∧ p.FailsWith ctx message := by
  rw [← verdict_eq_error_iff]
  unfold entry
  cases p.isActive m with
  | false => simp
  | true => cases p.verdict ctx <;> simp

end Policy

/-- The entry of a policy that was asked. -/
structure TraceEntry.Records (e : TraceEntry) (p : Policy) (ctx : Context) (m : Moment) :
    Prop where
  name : e.name = p.name
  kind : e.kind = p.kind
  active : e.active = p.isActive m
  error_iff : ∀ message, e.error = some message ↔ p.isActive m = true ∧ p.FailsWith ctx message
  matched_iff : e.matched = true ↔ p.Matches ctx m

namespace Policy

variable {p : Policy} {ctx : Context} {m : Moment}

theorem DecidesAbout.decides_iff (h : p.DecidesAbout ctx.operation) :
    p.decides ctx m = true ↔ p.Matches ctx m := by
  rw [matches_iff, and_iff_right h.1, and_iff_right (isDecider_iff.mpr h.2)]

theorem DecidesAbout.not_matches (h : p.DecidesAbout ctx.operation)
    (hnot : p.decides ctx m = false) : ¬ p.Matches ctx m := by
  rw [← h.decides_iff, hnot]
  exact Bool.false_ne_true

theorem DecidesAbout.records_entry (h : p.DecidesAbout ctx.operation) :
    (p.entry ctx m).Records p ctx m where
  name := entry_name
  kind := entry_kind
  active := entry_active
  error_iff _ := entry_error_iff
  matched_iff := h.decides_iff

theorem records_entries {qs : List Policy} (h : ∀ q ∈ qs, q.DecidesAbout ctx.operation) :
    List.Forall₂ (fun e q => e.Records q ctx m) (qs.map fun q => q.entry ctx m) qs :=
  List.forall₂_map_left_iff.mpr (List.forall₂_same.mpr fun q hq => (h q hq).records_entry)

end Policy

/-- The trace has an entry for each of the policies up to the first one that matches, or for all
of them. The one that decided is the last, and no other entry is marked as a match. -/
structure Decision.Retraces (d : Decision) (ds : List Policy) (ctx : Context) (m : Moment) :
    Prop where
  entries : ∃ asked, UpToFirst (·.Matches ctx m) ds asked ∧
    List.Forall₂ (fun e p => e.Records p ctx m) d.trace asked
  matched_iff : ∀ e ∈ d.trace, e.matched = true ↔ d.policy = some e.name
  matched_last : ∀ e ∈ d.trace.dropLast, e.matched = false

/-- A denial that says what the decision behind it says. -/
structure AccessDenied.HandsOn (denied : AccessDenied) (d : Decision) : Prop where
  refused : d.allowed = false
  trace : denied.trace = d.trace
  policy_iff : ∀ name, denied.policy = some name ↔
    ∃ e, d.trace.getLast? = some e ∧ e.matched = true ∧ e.kind = .deny ∧ e.name = name

namespace Decision

variable {ctx : Context} {m : Moment} {front back ds : List Policy} {p : Policy} {d : Decision}

theorem retraces_byPolicy (hdecide : ∀ q ∈ front ++ p :: back, q.DecidesAbout ctx.operation)
    (hnames : ((front ++ p :: back).map Policy.name).Nodup)
    (hfront : ∀ q ∈ front, q.decides ctx m = false) (hp : p.decides ctx m = true) :
    (byPolicy p ((front ++ [p]).map fun q => q.entry ctx m)).Retraces (front ++ p :: back)
      ctx m where
  entries := by
    have hasked : ∀ q ∈ front ++ [p], q.DecidesAbout ctx.operation := by
      intro q hq
      refine hdecide q ?_
      rw [List.append_cons]
      exact List.mem_append_left back hq
    refine ⟨front ++ [p], .stopped (fun q hq => ?_) ?_, Policy.records_entries hasked⟩
    · exact (hasked q (List.mem_append_left _ hq)).not_matches (hfront q hq)
    · exact (hdecide p (List.mem_append_right _ List.mem_cons_self)).decides_iff.mp hp
  matched_iff := by
    -- the names tell the policy that decides apart from those in front of it
    have hnew : ∀ q ∈ front, p.name ≠ q.name := by
      intro q hq heq
      rw [List.map_append, List.map_cons] at hnames
      exact (List.nodup_append.mp hnames).2.2 q.name (List.mem_map_of_mem hq) p.name
        List.mem_cons_self heq.symm
    intro e he
    obtain ⟨q, hq, rfl⟩ := List.mem_map.mp he
    rw [Policy.entry_name]
    show q.decides ctx m = true ↔ some p.name = some q.name
    rcases List.mem_append.mp hq with hq | hq
    · simp [hfront q hq, hnew q hq]
    · simp [List.mem_singleton.mp hq, hp]
  matched_last := by
    have hlast : ((front ++ [p]).map fun q => q.entry ctx m).dropLast =
        front.map fun q => q.entry ctx m := by
      rw [List.map_append, List.map_singleton, List.dropLast_concat]
    intro e he
    obtain ⟨q, hq, rfl⟩ := List.mem_map.mp (hlast ▸ he)
    exact hfront q hq

theorem retraces_of_undecided (hdecide : ∀ q ∈ ds, q.DecidesAbout ctx.operation)
    (hnone : ∀ q ∈ ds, q.decides ctx m = false) (hpolicy : d.policy = none)
    (htrace : d.trace = ds.map fun q => q.entry ctx m) : d.Retraces ds ctx m := by
  have hunmatched : ∀ e ∈ d.trace, e.matched = false := by
    intro e he
    rw [htrace] at he
    obtain ⟨q, hq, rfl⟩ := List.mem_map.mp he
    exact hnone q hq
  refine ⟨⟨ds, .exhausted fun q hq => ?_, ?_⟩, fun e he => ?_, fun e he => ?_⟩
  · exact (hdecide q hq).not_matches (hnone q hq)
  · rw [htrace]
    exact Policy.records_entries hdecide
  · simp [hunmatched e he, hpolicy]
  · exact hunmatched e (List.dropLast_subset _ he)

end Decision

namespace Evaluator

variable {ev : Evaluator} {s : Schema} {ctx : Context} {m : Moment}

/-- Every trace is that of the policies which the caller faces. -/
theorem retraces_facing (hreg : Registry.ofSchema s = .ok ev.registry) (ctx : Context)
    (m : Moment) :
    (ev.decide ctx m).Retraces
      (Policy.decidersOf (s.facing ctx.table ctx.caller) ctx.operation) ctx m := by
  have hs := Registry.ofSchema_ok_iff.mp ⟨_, hreg⟩
  have hnames := Policy.names_decidersOf (hs.names_facing ctx.table ctx.caller) ctx.operation
  have hdecide : ∀ q ∈ Policy.decidersOf (s.facing ctx.table ctx.caller) ctx.operation,
      q.DecidesAbout ctx.operation := fun q hq => (Policy.mem_decidersOf.mp hq).2
  rcases decide_facing hreg ctx m with
    ⟨front, p, back, hsplit, hfront, hp, hd⟩ | ⟨hnone, hpolicy, htrace⟩
  · rw [hsplit] at hnames hdecide ⊢
    rw [hd]
    exact Decision.retraces_byPolicy hdecide hnames hfront hp
  · exact Decision.retraces_of_undecided hdecide hnone hpolicy htrace

/-! ## Denials -/

/-- A refusal becomes a denial that hands it on. -/
theorem handsOn_toDenial (hreg : Registry.ofSchema s = .ok ev.registry)
    (h : (ev.decide ctx m).allowed = false) (table : String) (op : Operation) :
    ((ev.decide ctx m).toDenial table op).HandsOn (ev.decide ctx m) := by
  refine ⟨h, rfl, fun name => ?_⟩
  show (ev.decide ctx m).policy = some name ↔ _
  rcases decide_facing hreg ctx m with
    ⟨front, p, back, hsplit, -, hp, hd⟩ | ⟨hnone, hpolicy, htrace⟩
  · have hmem : p ∈ Policy.decidersOf (s.facing ctx.table ctx.caller) ctx.operation :=
      hsplit ▸ List.mem_append_right _ List.mem_cons_self
    have hallow : p.kind ≠ .allow := by
      intro hkind
      rw [hd] at h
      simp [Decision.byPolicy, hkind] at h
    have hdeny : p.kind = .deny := (Policy.mem_decidersOf.mp hmem).2.2.resolve_left hallow
    have hmatched : (p.entry ctx m).matched = true := hp
    simp [hd, Decision.byPolicy, hmatched, hdeny]
  · rw [hpolicy, htrace]
    constructor
    · intro hname
      cases hname
    · rintro ⟨e, he, hmatched, -⟩
      obtain ⟨q, hq, rfl⟩ := List.mem_map.mp (List.mem_of_getLast? he)
      have hq' : (q.entry ctx m).matched = false := hnone q hq
      rw [hq'] at hmatched
      cases hmatched

variable {q : Query} {table : String} {op : Operation} {existing data : Option Row}
  {denied : AccessDenied}

theorem transform_denied_iff :
    (ev.transform q table ctx).result = .error (.denied denied) ↔
      (ev.evaluate table .read ctx).result.allowed = false ∧
        denied = (ev.evaluate table .read ctx).result.toDenial table .read := by
  rw [transform_error_iff]
  simp

theorem guard_denied_iff :
    (ev.guard table op existing data ctx).result = .error (.denied denied) ↔
      (ev.evaluate table op (writeContext ctx existing data)).result.allowed = false ∧
        denied =
          (ev.evaluate table op (writeContext ctx existing data)).result.toDenial table op := by
  cases hallowed : (ev.evaluate table op (writeContext ctx existing data)).result.allowed with
  | false =>
      rw [guard_of_denied hallowed]
      simp [eq_comm]
  | true =>
      simp only [Bool.true_eq_false, false_and, iff_false]
      cases hvalid : (ev.validate table op (writeContext ctx existing data)).result with
      | error v =>
          rw [guard_of_invalid hallowed hvalid]
          nofun
      | ok u =>
          rw [guard_ok_iff.mpr ⟨rfl, hallowed, hvalid⟩]
          nofun

end Evaluator

/-- A check answers with a denial just where the decision is a refusal, and what it answers hands
that refusal on. -/
structure Decision.Surfaces (d : Decision) (denies : AccessDenied → Prop) : Prop where
  denies_iff : (∃ denied, denies denied) ↔ d.allowed = false
  handsOn : ∀ denied, denies denied → denied.HandsOn d

theorem Evaluator.surfaces_decide {ev : Evaluator} {s : Schema} {ctx : Context} {m : Moment}
    (hreg : Registry.ofSchema s = .ok ev.registry) {table : String} {op : Operation}
    {denies : AccessDenied → Prop}
    (h : ∀ denied, denies denied ↔ (ev.decide ctx m).allowed = false ∧
      denied = (ev.decide ctx m).toDenial table op) : (ev.decide ctx m).Surfaces denies where
  denies_iff := by simp [h]
  handsOn denied hdenied := by
    obtain ⟨hrefused, rfl⟩ := (h denied).mp hdenied
    exact handsOn_toDenial hreg hrefused table op

namespace Engine

variable {e : Engine} {s : Schema} {table : String} {op : Operation} {existing data : Option Row}
  {ctx : Context} {denied : AccessDenied}

/-- A denial of a guarded write that is not about a column is the one of the guard. -/
theorem guardWrite_denied_iff :
    (e.guardWrite table op existing data ctx).result = .error (.denied denied) ∧
        denied.field = none ↔
      (e.evaluator.guard table op existing data ctx).result = .error (.denied denied) := by
  cases hguard : (e.evaluator.guard table op existing data ctx).result with
  | error err =>
      rw [guardWrite_error hguard]
      refine ⟨And.left, fun hdenied => ⟨hdenied, ?_⟩⟩
      obtain ⟨-, rfl⟩ := Evaluator.guard_denied_iff.mp (hguard.trans hdenied)
      rfl
  | ok d =>
      refine iff_of_false ?_ nofun
      rintro ⟨hdenied, hfield⟩
      cases data with
      | none =>
          rw [guardWrite_none, hguard] at hdenied
          cases hdenied
      | some payload =>
          cases hop : op.carriesPayload with
          | false =>
              unfold guardWrite at hdenied
              rw [Report.result_andThen, hguard] at hdenied
              simp [hop] at hdenied
          | true =>
              rw [guardWrite_some hop hguard] at hdenied
              split at hdenied
              · cases hdenied
              · cases hdenied
                cases hfield

/-- Traces of the declared policies that a caller faces. There is one order in which those that
decide about an operation come to be asked, and the trace of a decision records them in this
order: up to the first one that matches, or all of them. A restricted query, the guard of a write
and, its columns apart, a guarded write answer with a denial just where the decision behind them
is a refusal, and the denial hands on its trace, with the policy if the last entry is a deny that
matched. -/
theorem traces_declared (hreg : Registry.ofSchema s = .ok e.evaluator.registry) (table : String)
    (ctx : Context) :
    (∀ op m, ∃ ds, (∀ qs, Policy.Turn (s.facing table ctx.caller) (·.DecidesAbout op) qs ↔
        qs = ds) ∧
      (e.evaluator.evaluateAt table op ctx m).result.Retraces ds (ctx.about table op) m) ∧
    (∀ q, (e.evaluator.evaluate table .read ctx).result.Surfaces fun denied =>
      (e.evaluator.transform q table ctx).result = .error (.denied denied)) ∧
    ∀ op existing data,
      let d := (e.evaluator.evaluate table op (Evaluator.writeContext ctx existing data)).result
      (d.Surfaces fun denied =>
        (e.evaluator.guard table op existing data ctx).result = .error (.denied denied)) ∧
      d.Surfaces fun denied =>
        (e.guardWrite table op existing data ctx).result = .error (.denied denied) ∧
          denied.field = none := by
  have hs := Registry.ofSchema_ok_iff.mp ⟨_, hreg⟩
  have hdistinct : (s.facing table ctx.caller).Nodup := (hs.names_facing table ctx.caller).of_map
  refine ⟨fun op m => ⟨Policy.decidersOf (s.facing table ctx.caller) op, fun qs => ?_, ?_⟩,
    fun q => ?_, fun op existing data => ⟨?_, ?_⟩⟩
  · have hturn := Policy.turn_decidersOf hdistinct op
    exact ⟨fun hqs => hqs.unique hdistinct hturn, fun h => h ▸ hturn⟩
  · exact Evaluator.retraces_facing hreg (ctx.about table op) m
  · exact Evaluator.surfaces_decide hreg fun _ => Evaluator.transform_denied_iff
  · exact Evaluator.surfaces_decide hreg fun _ => Evaluator.guard_denied_iff
  · exact Evaluator.surfaces_decide hreg fun _ =>
      guardWrite_denied_iff.trans Evaluator.guard_denied_iff

/-! ### A frozen ledger -/

def ledgerPolicy (name : String) (operations : List Operation) (priority : Int)
    (body : PolicyBody) : Policy :=
  { name, operations, priority, body, activation := none, hints := none }

/-- The policy that comes first fails, the next one sleeps, and the owner is asked after the
ledger was found to be frozen. -/
def ledgerRules : TableRules :=
  { policies :=
      [ledgerPolicy "frozen" [.read, .update] 0 (.deny fun _ => .value true),
       ledgerPolicy "owner" [.all] 0 (.allow fun _ => .value true),
       ledgerPolicy "desk" [.read] 7 (.filter fun _ => .value Row.empty),
       { ledgerPolicy "holiday" [.all] 7 (.deny fun _ => .value true) with
         activation := some fun _ => .ok false },
       ledgerPolicy "clerk" [.all] 10 (.allow fun _ => .failed "no roster")]
    defaultDeny := true, exempt := KeyMap.empty }

def ledgerEngine : Engine :=
  { settings := Settings.default
    evaluator :=
      { registry := KeyMap.empty.insert "ledger" (ledgerRules.compiled "ledger")
        environment := defaultEnvironment, features := KeyMap.empty, clock := .fixed default
        audit := none, denyUnregistered := false }
    fields := KeyMap.empty }

def ledgerTrace : List TraceEntry :=
  [⟨"clerk", .allow, true, false, some "no roster"⟩, ⟨"holiday", .deny, false, false, none⟩,
   ⟨"frozen", .deny, true, true, none⟩]

def ledgerDenial (op : Operation) : AccessDenied :=
  { table := "ledger", operation := op, policy := some "frozen", field := none
    reason := "denied by policy", trace := ledgerTrace }

/-- Neither a query nor an update gets past the frozen ledger. -/
theorem traces_declared_ledger :
    let ev := ledgerEngine.evaluator
    let read := (default : Context).about "ledger" .read
    let d := (ev.evaluate "ledger" .read default).result
    Registry.ofSchema [("ledger", ledgerRules)] = .ok ev.registry ∧
    d.trace = ledgerTrace ∧
    (∃ ds, Policy.Turn ledgerRules.policies (·.DecidesAbout .read) ds ∧
      d.Retraces ds read ev.moment) ∧
    (ev.transform (Query.onTable "ledger") "ledger" default).result =
      .error (.denied (ledgerDenial .read)) ∧
    (ledgerDenial .read).HandsOn d ∧
    (ledgerEngine.guardWrite "ledger" .update none (some Row.empty) default).result =
      .error (.denied (ledgerDenial .update)) ∧
    (ledgerDenial .update).HandsOn (ev.evaluate "ledger" .update
      (Evaluator.writeContext default none (some Row.empty))).result := by
  intro ev read d
  have hreg : Registry.ofSchema [("ledger", ledgerRules)] = .ok ledgerEngine.evaluator.registry :=
    rfl
  obtain ⟨htrace, hquery, hwrite⟩ := traces_declared hreg "ledger" default
  obtain ⟨ds, hds, hd⟩ := htrace .read ev.moment
  refine ⟨hreg, rfl, ⟨ds, (hds ds).mpr rfl, hd⟩, rfl, ?_, rfl, ?_⟩
  · exact (hquery (Query.onTable "ledger")).handsOn _ rfl
  · exact (hwrite .update none (some Row.empty)).2.handsOn _ ⟨rfl, rfl⟩

end Engine

end RowAccess
