import RowAccess.Proofs.Guards
import RowAccess.Proofs.Traces

/-!
# Policies run by themselves

A policy of a table can be run by itself, found by its name and whether
or not it is active. Decisions, merges and validations find their
policies otherwise: in rank, among those that are declared for the
operation and take part. Names are distinct within a table, so that both
ways lead to the same policy (`testPolicy?_facing`), and what a walk
makes of its function can be read off its run (`PolicyRun`):

- `TraceEntry.run` is the run that an entry of a trace stands for
  (`run_entry`);
- `FilterResult.MergesRuns` and `FilterFailure.ReportsRun` say what the
  filters of a call are made of (`merge_ok_runs`, `merge_error_run`);
- a validate policy refuses where its run is anything but a decision
  that holds (`refuses_iff_run`).

`testPolicy?_agrees` has all of them for one context.
-/

namespace RowAccess

/-! ## Finding a policy -/

theorem Policy.find?_name {ps : List Policy} {p : Policy} (hps : (ps.map name).Nodup)
    (hp : p ∈ ps) : ps.find? (fun q => q.name == p.name) = some p := by
  cases hfind : ps.find? fun q => q.name == p.name with
  | none => exact absurd (beq_self_eq_true p.name) (List.find?_eq_none.mp hfind p hp)
  | some q =>
      have hname : q.name = p.name := by simpa using List.find?_some hfind
      rw [List.inj_on_of_nodup_map hps (List.mem_of_find?_eq_some hfind) hp hname]

namespace Evaluator

variable {ev : Evaluator} {s : Schema} {table : String}

/-- A policy that the caller faces is found by its name, and it sees the context it would be asked
in. -/
theorem testPolicy?_facing (hreg : Registry.ofSchema s = .ok ev.registry) (ctx : Context)
    {p : Policy} (hp : p ∈ s.facing table ctx.caller) :
    ev.testPolicy? table p.name ctx =
      some (runBody p.body (ctx.about table ctx.operation)) := by
  have hs := Registry.ofSchema_ok_iff.mp ⟨_, hreg⟩
  obtain ⟨rules, hrules, hfacing⟩ := Schema.facing_of_mem hp
  have hnames := hs.names_facing table ctx.caller
  rw [hfacing] at hp hnames
  have hranked : ((Policy.ranked rules.policies).map Policy.name).Nodup :=
    ((Policy.ranked_perm rules.policies).map Policy.name).nodup_iff.mpr hnames
  have hfind : (rules.compiled table).policy? p.name = some p :=
    Policy.find?_name hranked (Policy.mem_ranked.mpr hp)
  unfold testPolicy?
  rw [Registry.find?_ofSchema hreg, hrules, Option.map_some, Option.bind_some, hfind]
  rfl

/-! ## Traces -/

/-- Every entry of a trace is that of an allow or deny policy that the caller faces. -/
theorem mem_trace (hreg : Registry.ofSchema s = .ok ev.registry) {ctx : Context} {m : Moment}
    {e : TraceEntry} (he : e ∈ (ev.decide ctx m).trace) :
    ∃ p ∈ s.facing ctx.table ctx.caller, p.DecidesAbout ctx.operation ∧ e = p.entry ctx m := by
  rcases decide_facing hreg ctx m with
    ⟨front, p, back, hsplit, -, -, hd⟩ | ⟨-, -, htrace⟩
  · rw [hd] at he
    obtain ⟨q, hq, rfl⟩ := List.mem_map.mp he
    have hmem : q ∈ front ++ p :: back := by
      rw [List.append_cons]
      exact List.mem_append_left back hq
    obtain ⟨hfaced, hdecides⟩ := Policy.mem_decidersOf.mp (hsplit ▸ hmem)
    exact ⟨q, hfaced, hdecides, rfl⟩
  · rw [htrace] at he
    obtain ⟨q, hq, rfl⟩ := List.mem_map.mp he
    obtain ⟨hfaced, hdecides⟩ := Policy.mem_decidersOf.mp hq
    exact ⟨q, hfaced, hdecides, rfl⟩

end Evaluator

/-- The run that the entry of an active policy stands for. -/
def TraceEntry.run (e : TraceEntry) : PolicyRun :=
  match e.error with
  | none => .decision e.matched
  | some reason => .failed reason

theorem Policy.run_entry {p : Policy} {ctx : Context} {m : Moment} {op : Operation}
    (hdecides : p.DecidesAbout op) (hactive : p.isActive m = true) :
    (p.entry ctx m).run = Evaluator.runBody p.body ctx := by
  have hkind : p.body.kind = .allow ∨ p.body.kind = .deny := hdecides.2
  unfold entry verdict
  rw [if_pos hactive]
  cases hbody : p.body with
  | allow f => cases hf : (f ctx).contain <;> simp [TraceEntry.run, Evaluator.runBody,
      PolicyBody.decider?, hf]
  | deny f => cases hf : (f ctx).contain <;> simp [TraceEntry.run, Evaluator.runBody,
      PolicyBody.decider?, hf]
  | filter f => simp [hbody, PolicyBody.kind] at hkind
  | validate f => simp [hbody, PolicyBody.kind] at hkind

/-! ## Merges -/

/-- The conditions are those that the runs of the applied policies give, each put over those in
front of it. -/
def FilterResult.MergesRuns (r : FilterResult) (run? : String → Option PolicyRun) : Prop :=
  ∃ rows, List.Forall₂ (fun name row => run? name = some (.conditions row)) r.applied rows ∧
    r.conditions = rows.foldl Row.extend Row.empty

def FilterFailure.ReportsRun (failure : FilterFailure) (run? : String → Option PolicyRun) : Prop :=
  run? failure.policy = some (.failed failure.reason)

namespace FilterResult

variable {ctx : Context} {r r' : FilterResult} {fs : List (Policy × FilterFunction)}
  {run? : String → Option PolicyRun}

theorem merge_ok_runs
    (hrun : ∀ pf ∈ fs, run? pf.1.name = some (Evaluator.runBody (.filter pf.2) ctx))
    (h : merge ctx r fs = .ok r') :
    ∃ rows, List.Forall₂ (fun name row => run? name = some (.conditions row))
        (fs.map fun pf => pf.1.name) rows ∧
      r'.conditions = rows.foldl Row.extend r.conditions := by
  induction fs generalizing r with
  | nil =>
      obtain rfl := Except.ok.inj h
      exact ⟨[], .nil, rfl⟩
  | cons pf rest ih =>
      obtain ⟨hfirst, hrest⟩ := List.forall_mem_cons.mp hrun
      obtain ⟨row, hrow, hmerge⟩ := merge_cons_ok h
      obtain ⟨rows, hrows, hconditions⟩ := ih hrest hmerge
      refine ⟨row :: rows, .cons ?_ hrows, hconditions⟩
      rw [hfirst, Evaluator.runBody, hrow]
      rfl

theorem merge_error_run {failure : FilterFailure}
    (hrun : ∀ pf ∈ fs, run? pf.1.name = some (Evaluator.runBody (.filter pf.2) ctx))
    (h : merge ctx r fs = .error failure) : failure.ReportsRun run? := by
  obtain ⟨before, pf, after, rfl, hname, hreason, -⟩ := merge_error_iff.mp h
  have hfirst := hrun pf (List.mem_append_right _ List.mem_cons_self)
  rw [FilterFailure.ReportsRun, hname, hfirst, Evaluator.runBody, hreason]

end FilterResult

/-! ## Validation -/

/-- A validate policy refuses if it takes part and its run is anything but a decision that
holds. -/
theorem Policy.refuses_iff_run {p : Policy} {ctx : Context} {m : Moment} :
    p.Refuses ctx m ↔ p.kind = .validate ∧ p.appliesTo ctx.operation = true ∧
      p.isActive m = true ∧ Evaluator.runBody p.body ctx ≠ .decision true := by
  have hfails : (∃ f, p.body = .validate f ∧ f ctx ≠ .value true) ↔
      p.kind = .validate ∧ Evaluator.runBody p.body ctx ≠ .decision true := by
    unfold kind PolicyBody.kind Evaluator.runBody
    cases p.body with
    | allow f => simp
    | deny f => simp
    | filter f => simp
    | validate f => cases hf : f ctx <;> simp [Outcome.contain, hf]
  constructor
  · rintro ⟨hop, hactive, hf⟩
    obtain ⟨hkind, hrun⟩ := hfails.mp hf
    exact ⟨hkind, hop, hactive, hrun⟩
  · rintro ⟨hkind, hop, hactive, hrun⟩
    exact ⟨hop, hactive, hfails.mpr ⟨hkind, hrun⟩⟩

/-! ## A context with the operation it is asked about -/

namespace Evaluator

variable {ev : Evaluator} {s : Schema} {table : String} {ctx : Context} {m : Moment}

theorem run_of_mem_trace (hreg : Registry.ofSchema s = .ok ev.registry) {e : TraceEntry}
    (he : e ∈ (ev.evaluateAt table ctx.operation ctx m).result.trace) (hactive : e.active = true) :
    ev.testPolicy? table e.name ctx = some e.run := by
  obtain ⟨p, hp, hdecides, rfl⟩ := mem_trace hreg he
  rw [Policy.entry_active] at hactive
  rw [Policy.entry_name, Policy.run_entry hdecides hactive]
  exact testPolicy?_facing hreg ctx hp

theorem filtersAt_runs (hreg : Registry.ofSchema s = .ok ev.registry) (table : String)
    (ctx : Context) (m : Moment) :
    let asked := ctx.about table ctx.operation
    let run? := fun name => ev.testPolicy? table name ctx
    ∃ fs, (∀ gs, Policy.InTurn (s.facing table ctx.caller) asked m gs ↔ gs = fs) ∧
      (∀ r, (ev.filtersAt table ctx.operation ctx m).result = .ok r →
        r.applied = (fs.map fun pf => pf.1.name).reverse ∧ r.MergesRuns run?) ∧
      ∀ failure, (ev.filtersAt table ctx.operation ctx m).result = .error failure →
        (∃ pf ∈ fs, pf.1.name = failure.policy) ∧ failure.ReportsRun run? := by
  intro asked run?
  obtain ⟨fs, hfs, hmerge⟩ := exists_inTurn_filtersAt hreg table ctx.operation ctx m
  have hrun : ∀ pf ∈ fs.reverse, run? pf.1.name = some (runBody (.filter pf.2) asked) := by
    rintro ⟨p, f⟩ hpf
    obtain ⟨hp, hrestricts⟩ := (((hfs fs).mpr rfl).mem_iff p f).mp (List.mem_reverse.mp hpf)
    have hp' : run? p.name = some (runBody p.body asked) := testPolicy?_facing hreg ctx hp
    rw [hp', hrestricts.filter]
  refine ⟨fs, hfs, fun r hr => ?_, fun failure hfailure => ?_⟩
  · have hr' := hmerge.symm.trans hr
    obtain ⟨rows, hrows, hconditions⟩ := FilterResult.merge_ok_runs hrun hr'
    have happlied := (FilterResult.mergeOf_of_merge hr').applied
    refine ⟨happlied, rows, ?_, hconditions⟩
    rw [happlied, ← List.map_reverse]
    exact hrows
  · have hfailure' := hmerge.symm.trans hfailure
    obtain ⟨pf, hpf, -, hname⟩ := FilterResult.merge_error hfailure'
    exact ⟨⟨pf, List.mem_reverse.mp hpf, hname.symm⟩, FilterResult.merge_error_run hrun hfailure'⟩

theorem validateAt_error_iff_run (hreg : Registry.ofSchema s = .ok ev.registry)
    (hop : ctx.operation.carriesPayload = true) (name : String) :
    (∃ v, (ev.validateAt table ctx.operation ctx m).result = .error v ∧ v.policy = name) ↔
      ∃ i p, Policy.FirstAt (s.facing table ctx.caller) (fun q => q.kind = .validate ∧
        q.appliesTo ctx.operation = true ∧ q.isActive m = true ∧
          ev.testPolicy? table q.name ctx ≠ some (.decision true)) i p ∧ p.name = name := by
  have htest : ∀ q ∈ s.facing table ctx.caller,
      q.Refuses (ctx.about table ctx.operation) m ↔
        q.kind = .validate ∧ q.appliesTo ctx.operation = true ∧ q.isActive m = true ∧
          ev.testPolicy? table q.name ctx ≠ some (.decision true) := by
    intro q hq
    rw [Policy.refuses_iff_run, testPolicy?_facing hreg ctx hq, ne_eq, ne_eq, Option.some.injEq]
    rfl
  constructor
  · rintro ⟨v, hv, rfl⟩
    obtain ⟨-, i, p, hp, hfailure⟩ := (validateAt_error_iff hreg).mp hv
    exact ⟨i, p, hp.congr htest, (Policy.failure?_eq_some hfailure).2.2.1.symm⟩
  · rintro ⟨i, p, hp, rfl⟩
    have hfirst := hp.congr fun q hq => (htest q hq).symm
    obtain ⟨v, hv⟩ := Option.isSome_iff_exists.mp (Policy.failure?_isSome_iff.mpr hfirst.passes)
    exact ⟨v, (validateAt_error_iff hreg).mpr ⟨hop, i, p, hfirst, hv⟩,
      (Policy.failure?_eq_some hv).2.2.1⟩

/-- Where all three walks and the single runs meet. An active entry of a trace says what the run
of its policy says. The filters in their turn are applied from the last to the first, and their
conditions are merged from the runs of the applied policies, or the failure of one of them is what
its run reports. A payload is turned down by a policy that comes first among the active validate
policies whose run is not a decision that holds, and by no other. -/
theorem testPolicy?_agrees (hreg : Registry.ofSchema s = .ok ev.registry) (table : String)
    (ctx : Context) (m : Moment) :
    let op := ctx.operation
    let ps := s.facing table ctx.caller
    let run? := fun name => ev.testPolicy? table name ctx
    (∀ e ∈ (ev.evaluateAt table op ctx m).result.trace, e.active = true →
      run? e.name = some e.run) ∧
    (∃ fs, (∀ gs, Policy.InTurn ps (ctx.about table op) m gs ↔ gs = fs) ∧
      (∀ r, (ev.filtersAt table op ctx m).result = .ok r →
        r.applied = (fs.map fun pf => pf.1.name).reverse ∧ r.MergesRuns run?) ∧
      ∀ failure, (ev.filtersAt table op ctx m).result = .error failure →
        (∃ pf ∈ fs, pf.1.name = failure.policy) ∧ failure.ReportsRun run?) ∧
    (op.carriesPayload = true → ∀ name,
      (∃ v, (ev.validateAt table op ctx m).result = .error v ∧ v.policy = name) ↔
        ∃ i p, Policy.FirstAt ps (fun q => q.kind = .validate ∧ q.appliesTo op = true ∧
          q.isActive m = true ∧ run? q.name ≠ some (.decision true)) i p ∧ p.name = name) :=
  ⟨fun _ he hactive => run_of_mem_trace hreg he hactive, filtersAt_runs hreg table ctx m,
    fun hop name => validateAt_error_iff_run hreg hop name⟩

/-! ### Parcels on their way -/

def parcelPolicy (name : String) (operations : List Operation) (priority : Int)
    (body : PolicyBody) : Policy :=
  { name, operations, priority, body, activation := none, hints := none }

/-- Policies of all kinds, among them a filter that fails when a parcel is created and a validate
policy that is not active. -/
def parcelRules : TableRules :=
  { policies :=
      [parcelPolicy "sealed" [.all] 3 (.deny fun _ => .value true),
       parcelPolicy "driver" [.update] 4 (.allow fun _ => .failed "no shift"),
       parcelPolicy "depot" [.all] 0 (.filter fun _ =>
        .value (Row.ofEntries [("depot", .string "north"), ("open", .bool true)])),
       parcelPolicy "route" [.all] 1 (.filter fun ctx =>
        if ctx.operation = .create then .crashed ⟨some "no route"⟩
        else .value (Row.ofEntries [("depot", .string "south")])),
       { parcelPolicy "customs" [.all] 9 (.validate fun _ => .value false) with
         activation := some fun _ => .ok false },
       parcelPolicy "weight" [.update] 0 (.validate fun _ => .failed "no scales")]
    defaultDeny := true, exempt := KeyMap.empty }

def parcelEvaluator : Evaluator :=
  { registry := KeyMap.empty.insert "parcels" (parcelRules.compiled "parcels")
    environment := defaultEnvironment, features := KeyMap.empty, clock := .fixed default
    audit := none, denyUnregistered := false }

def parcelMerged : FilterResult :=
  { conditions := Row.ofEntries [("depot", .string "south"), ("open", .bool true)]
    applied := ["depot", "route"] }

/-- An update is decided by a deny policy behind an allow policy that fails, is under two filters
and is turned down by the weight. A create meets the filter that fails. -/
theorem testPolicy?_agrees_parcels :
    let ev := parcelEvaluator
    let update := (default : Context).about "parcels" .update
    let create := (default : Context).about "parcels" .create
    let run? := fun name => ev.testPolicy? "parcels" name update
    Registry.ofSchema [("parcels", parcelRules)] = .ok ev.registry ∧
    run? "driver" = some (.failed "no shift") ∧ run? "sealed" = some (.decision true) ∧
    run? "customs" = some (.decision false) ∧
    (ev.filtersAt "parcels" .update update ev.moment).result = .ok parcelMerged ∧
    parcelMerged.MergesRuns run? ∧
    FilterFailure.ReportsRun ⟨"route", "panicked: no route"⟩
      (fun name => ev.testPolicy? "parcels" name create) ∧
    (ev.validateAt "parcels" .update update ev.moment).result =
      .error ⟨"parcels", .update, "weight", "validation failed: no scales"⟩ ∧
    ∃ i p, Policy.FirstAt parcelRules.policies (fun q => q.kind = .validate ∧
      q.appliesTo .update = true ∧ q.isActive ev.moment = true ∧
        run? q.name ≠ some (.decision true)) i p ∧ p.name = "weight" := by
  intro ev update create run?
  have hreg : Registry.ofSchema [("parcels", parcelRules)] = .ok parcelEvaluator.registry := rfl
  obtain ⟨htrace, ⟨fs, -, hmerge, -⟩, hvalid⟩ :=
    testPolicy?_agrees hreg "parcels" update parcelEvaluator.moment
  obtain ⟨-, ⟨fs', -, -, hfail⟩, -⟩ :=
    testPolicy?_agrees hreg "parcels" create parcelEvaluator.moment
  refine ⟨hreg, ?_, ?_, rfl, rfl, (hmerge parcelMerged rfl).2, (hfail _ rfl).2, rfl, ?_⟩
  · exact htrace ⟨"driver", .allow, true, false, some "no shift"⟩ List.mem_cons_self rfl
  · exact htrace ⟨"sealed", .deny, true, true, none⟩
      (List.mem_cons_of_mem _ List.mem_cons_self) rfl
  · exact (hvalid rfl "weight").mp ⟨_, rfl, rfl⟩

end Evaluator

end RowAccess
