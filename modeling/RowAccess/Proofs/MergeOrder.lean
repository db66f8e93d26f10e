import RowAccess.Proofs.Reordering

/-!
# What merged filters come to

The filters of a table are asked in turn, the highest priority first and
equal ones as declared, but they are merged from the back, so that an
earlier filter overwrites what a later one asks of the same column. The
place of a column in the merged conditions is that of its first
appearance all the same, for a column that is overwritten stays where it
is. `Policy.InTurn` fixes the order in terms of the declaration alone,
`FilterResult.MergeOf` says what a merge of filters in that order gives,
and `FilterFailure.IsLast` which of the failing ones is reported.

- the merged entries are those of all filters, put one after the other
  (`FilterResult.entries_merge`), so the columns are in the order of first
  appearance (`Entries.names_putAll`);
- the values are known from `FilterResult.get?_merge`;
- a merge fails where its first failing filter does
  (`FilterResult.merge_error_iff`).

`filtersAt_in_turn` puts these together for a caller who is asked.
-/

namespace RowAccess

/-! ## First appearances -/

theorem eraseDups_of_nodup {α : Type} [BEq α] [LawfulBEq α] {l : List α} (h : l.Nodup) :
    l.eraseDups = l := by
  induction l with
  | nil => rfl
  | cons a rest ih =>
      obtain ⟨hnew, hrest⟩ := List.nodup_cons.mp h
      have hkept : (rest.filter fun b => !b == a) = rest := by
        refine List.filter_eq_self.mpr fun b hb => ?_
        have hne : b ≠ a := fun heq => hnew (heq ▸ hb)
        simpa using hne
      rw [List.eraseDups_cons, hkept, ih hrest]

/-- What has appeared already does not appear anew. -/
theorem eraseDups_append_of_mem {α : Type} [BEq α] [LawfulBEq α] {l : List α} {a : α} (h : a ∈ l)
    (rest : List α) : (l ++ a :: rest).eraseDups = (l ++ rest).eraseDups := by
  have hremoved : (a :: rest).removeAll l = rest.removeAll l := by
    simp [List.removeAll, h]
  rw [List.eraseDups_append, List.eraseDups_append, hremoved]

theorem Entries.names_putAll {α : Type} {es : List (String × α)} (h : (names es).Nodup)
    (more : List (String × α)) :
    names (putAll es more) = (names es ++ names more).eraseDups := by
  induction more generalizing es with
  | nil =>
      rw [names_nil, List.append_nil, eraseDups_of_nodup h]
      rfl
  | cons e rest ih =>
      have hput : names (putAll es (e :: rest)) =
          (names (put es e.1 e.2) ++ names rest).eraseDups := ih (nodup_put h e.1 e.2)
      rw [hput, names_put, names_cons]
      split
      · next hmem => exact (eraseDups_append_of_mem hmem _).symm
      · rw [List.append_assoc, List.singleton_append]

/-! ## Filters in turn -/

namespace Policy

/-- The conditions that a filter gives, in its order. -/
def conditions (f : FilterFunction) (ctx : Context) : List (String × Value) :=
  match f ctx with
  | .value row => row.entries
  | _ => []

/-- The columns that a filter names, in its order. -/
def columns (f : FilterFunction) (ctx : Context) : List String := Entries.names (conditions f ctx)

/-- All policies of a declaration that restrict the context, each once and with its function, in
the order in which they are asked: the highest priority first and equal ones as declared. -/
structure InTurn (ps : List Policy) (ctx : Context) (m : Moment)
    (fs : List (Policy × FilterFunction)) : Prop where
  mem_iff : ∀ p f, (p, f) ∈ fs ↔ p ∈ ps ∧ p.Restricts ctx m f
  distinct : fs.Nodup
  ordered : fs.Pairwise fun a b =>
    b.1.priority < a.1.priority ∨ b.1.priority = a.1.priority ∧ [a.1, b.1].Sublist ps

variable {ps : List Policy} {ctx : Context} {m : Moment} {fs gs : List (Policy × FilterFunction)}

/-- There is one such order. -/
theorem InTurn.unique (hps : ps.Nodup) (hfs : InTurn ps ctx m fs) (hgs : InTurn ps ctx m gs) :
    fs = gs := by
  have hperm : fs.Perm gs := (List.perm_ext_iff_of_nodup hfs.distinct hgs.distinct).mpr
    fun ⟨p, f⟩ => (hfs.mem_iff p f).trans (hgs.mem_iff p f).symm
  exact hperm.eq_of_pairwise (fun a b _ _ hab hba => absurd hba (rank_asymm hps hab))
    hfs.ordered hgs.ordered

theorem restriction?_eq_some_iff {p : Policy} {op : Operation} {pf : Policy × FilterFunction} :
    p.restriction? op m = some pf ↔
      p.appliesTo op = true ∧ p.isActive m = true ∧ p.body.filter? = some pf.2 ∧ pf.1 = p := by
  unfold restriction?
  rw [Option.ite_none_right_eq_some, Bool.and_eq_true, Option.map_eq_some_iff, and_assoc]
  refine and_congr_right fun _ => and_congr_right fun _ => ⟨?_, ?_⟩
  · rintro ⟨f, hf, rfl⟩
    exact ⟨hf, rfl⟩
  · rintro ⟨hf, rfl⟩
    exact ⟨pf.2, hf, rfl⟩

/-- The filters among ranked policies are in turn. -/
theorem inTurn_ranked (hps : ps.Nodup) (ctx : Context) (m : Moment) :
    InTurn ps ctx m ((ranked ps).filterMap fun p => p.restriction? ctx.operation m) where
  mem_iff p f := by
    simp only [List.mem_filterMap, mem_ranked, restriction?_eq_some_iff]
    constructor
    · rintro ⟨q, hq, hop, hactive, hbody, rfl⟩
      refine ⟨hq, ?_, hop, hactive⟩
      cases hb : p.body <;> rw [hb] at hbody <;> cases hbody
      rfl
    · rintro ⟨hp, hf⟩
      exact ⟨p, hp, hf.declared, hf.active, by rw [hf.filter]; rfl, rfl⟩
  distinct := by
    have hranked : (ranked ps).Nodup := (ranked_perm ps).nodup_iff.mpr hps
    refine List.Nodup.filterMap (fun p q pf hp hq => ?_) hranked
    obtain ⟨-, -, -, rfl⟩ := restriction?_eq_some_iff.mp hp
    exact (restriction?_eq_some_iff.mp hq).2.2.2
  ordered := by
    rw [List.pairwise_filterMap]
    refine (ranked_pairwise ps).imp fun {p q} hpq pf hp qg hq => ?_
    obtain ⟨-, -, -, rfl⟩ := restriction?_eq_some_iff.mp hp
    obtain ⟨-, -, -, rfl⟩ := restriction?_eq_some_iff.mp hq
    exact hpq

end Policy

/-- A compiled table keeps its active filters in turn. -/
theorem TableRules.WellNamed.activeFilters_inTurn {rules : TableRules} {table : String}
    (h : rules.WellNamed table) (ctx : Context) (m : Moment) :
    Policy.InTurn rules.policies ctx m
      ((rules.compiled table).activeFilters ctx.operation m) := by
  rw [Table.activeFilters_eq]
  exact Policy.inTurn_ranked h.distinct.of_map ctx m

/-! ## Merges, in order -/

/-- What filters come to that are merged from the last one to the first. -/
structure FilterResult.MergeOf (r : FilterResult) (ctx : Context)
    (fs : List (Policy × FilterFunction)) : Prop where
  /-- The columns of all filters, each where it first appears on the way from the last filter. -/
  keys : r.conditions.keys = (fs.reverse.flatMap fun pf => Policy.columns pf.2 ctx).eraseDups
  mem_keys : ∀ k, k ∈ r.conditions.keys ↔ ∃ pf ∈ fs, k ∈ Policy.columns pf.2 ctx
  /-- The first filter that names a column has the say about it. -/
  get?_iff : ∀ k v, r.conditions.get? k = some v ↔
    ∃ front pf back, fs = front ++ pf :: back ∧ Policy.given? pf.2 ctx k = some v ∧
      ∀ earlier ∈ front, Policy.given? earlier.2 ctx k = none
  applied : r.applied = (fs.map fun pf => pf.1.name).reverse

/-- The failure is that of the last filter that fails, with what this filter reports. -/
def FilterFailure.IsLast (failure : FilterFailure) (ctx : Context)
    (fs : List (Policy × FilterFunction)) : Prop :=
  ∃ front pf back, fs = front ++ pf :: back ∧ failure.policy = pf.1.name ∧
    (pf.2 ctx).contain = .error failure.reason ∧ ∀ later ∈ back, ∃ row, later.2 ctx = .value row

namespace FilterResult

variable {ctx : Context} {r r' : FilterResult} {fs : List (Policy × FilterFunction)}

/-- Filters are merged by putting their conditions one after the other. -/
theorem entries_merge (h : merge ctx r fs = .ok r') :
    r'.conditions.entries = Entries.putAll r.conditions.entries
      (fs.flatMap fun pf => Policy.conditions pf.2 ctx) := by
  induction fs generalizing r with
  | nil =>
      obtain rfl := Except.ok.inj h
      rfl
  | cons pf rest ih =>
      obtain ⟨row, hrow, hrest⟩ := merge_cons_ok h
      have hconditions : Policy.conditions pf.2 ctx = row.entries := by
        rw [Policy.conditions, hrow]
      rw [ih hrest, List.flatMap_cons, hconditions, Entries.putAll, Entries.putAll,
        List.foldl_append]
      rfl

/-- Merged conditions have their columns in the order of first appearance. -/
theorem keys_merge (h : merge ctx r fs = .ok r') :
    r'.conditions.keys =
      (r.conditions.keys ++ fs.flatMap fun pf => Policy.columns pf.2 ctx).eraseDups := by
  have hcolumns : Entries.names (fs.flatMap fun pf => Policy.conditions pf.2 ctx) =
      fs.flatMap fun pf => Policy.columns pf.2 ctx := List.map_flatMap
  rw [Row.keys, entries_merge h, Entries.names_putAll r.conditions.distinct, hcolumns]
  rfl

theorem applied_merge (h : merge ctx r fs = .ok r') :
    r'.applied = r.applied ++ fs.map fun pf => pf.1.name := by
  induction fs generalizing r with
  | nil =>
      obtain rfl := Except.ok.inj h
      rw [List.map_nil, List.append_nil]
  | cons pf rest ih =>
      obtain ⟨row, -, hrest⟩ := merge_cons_ok h
      rw [ih hrest, List.map_cons, List.append_assoc, List.singleton_append]

theorem mergeOf_of_merge (h : merge ctx empty fs.reverse = .ok r) : r.MergeOf ctx fs where
  keys := keys_merge h
  mem_keys k := by
    rw [keys_merge h]
    simp [show (empty : FilterResult).conditions.keys = [] from rfl]
  get?_iff k v := by
    rw [get?_merge h, List.reverse_reverse, show (empty : FilterResult).conditions.get? k = none
      from rfl, Option.or_none, List.findSome?_eq_some_iff]
  applied := by rw [applied_merge h, List.map_reverse]; rfl

theorem isLast_of_merge {failure : FilterFailure}
    (h : merge ctx empty fs.reverse = .error failure) : failure.IsLast ctx fs := by
  obtain ⟨before, pf, after, hsplit, hname, hreason, hbefore⟩ := merge_error_iff.mp h
  refine ⟨after.reverse, pf, before.reverse, ?_, hname, hreason, fun later hlater =>
    hbefore later (List.mem_reverse.mp hlater)⟩
  rw [List.reverse_eq_iff.mp hsplit]
  simp

end FilterResult

/-! ## The filters of a caller who is asked -/

namespace Evaluator

variable {ev : Evaluator} {s : Schema} {table : String} {rules : TableRules} {ctx : Context}

/-- The filters of a call are merged from those policies that the caller faces. -/
theorem filtersAt_eq_merge (hreg : Registry.ofSchema s = .ok ev.registry) (op : Operation)
    (ctx : Context) (m : Moment) :
    (ev.filtersAt table op ctx m).result = FilterResult.merge (ctx.about table op) .empty
      ((Policy.ranked (s.facing table ctx.caller)).filterMap
        fun p => p.restriction? op m).reverse := by
  rcases enforced?_cases hreg (ctx.about table op) with ⟨hnone, hfacing⟩ | ⟨rules, hsome, hfacing⟩
  · rw [show s.facing table ctx.caller = [] from hfacing, filtersAt_of_unenforced hnone]
    rfl
  · rw [show s.facing table ctx.caller = rules.policies from hfacing, filtersAt_of_enforced hsome,
      Table.filters, Table.activeFilters_eq]
    rfl

/-- The order in which they are asked is fixed by the declaration. -/
theorem exists_inTurn_filtersAt (hreg : Registry.ofSchema s = .ok ev.registry) (table : String)
    (op : Operation) (ctx : Context) (m : Moment) :
    ∃ fs, (∀ gs, Policy.InTurn (s.facing table ctx.caller) (ctx.about table op) m gs ↔ gs = fs) ∧
      (ev.filtersAt table op ctx m).result =
        FilterResult.merge (ctx.about table op) .empty fs.reverse := by
  have hs := Registry.ofSchema_ok_iff.mp ⟨_, hreg⟩
  have hdistinct : (s.facing table ctx.caller).Nodup := (hs.names_facing table ctx.caller).of_map
  have hturn := Policy.inTurn_ranked hdistinct (ctx.about table op) m
  exact ⟨_, fun gs => ⟨fun hgs => hgs.unique hdistinct hturn, fun h => h ▸ hturn⟩,
    filtersAt_eq_merge hreg op ctx m⟩

/-- For a caller who does not pass unasked, the declared filters that restrict the call have one
order in which they are asked. If all of them give conditions, the result is their merge: the
columns of all, in the order of first appearance from the last filter on, each with the value of
the first filter that names it, and the names of the filters from the last to the first. If some
fail, the result is the failure of the last one that does. -/
theorem filtersAt_in_turn (hreg : Registry.ofSchema s = .ok ev.registry)
    (hrules : (table, rules) ∈ s) (hsystem : ctx.caller.isSystem = false)
    (hexempt : ctx.caller.holdsOneOf rules.exempt = false) (op : Operation) (m : Moment) :
    let asked := ctx.about table op
    ∃ fs, (∀ gs, Policy.InTurn rules.policies asked m gs ↔ gs = fs) ∧
      ((∀ pf ∈ fs, ∃ row, pf.2 asked = .value row) →
        ∃ r, (ev.filtersAt table op ctx m).result = .ok r ∧ r.MergeOf asked fs) ∧
      ((∃ pf ∈ fs, ∀ row, pf.2 asked ≠ .value row) →
        ∃ failure, (ev.filtersAt table op ctx m).result = .error failure ∧
          failure.IsLast asked fs) := by
  intro asked
  have hs := Registry.ofSchema_ok_iff.mp ⟨_, hreg⟩
  have hnamed : rules.WellNamed table := hs.wellNamed _ hrules
  have hturn := hnamed.activeFilters_inTurn asked m
  have henforced : ev.enforced? asked = some (rules.compiled table) := by
    have hfind := (Entries.find?_eq_some_iff hs.distinct).mpr hrules
    rw [enforced?_ofSchema hreg]
    simp [asked, Context.about, hsystem, hfind, hexempt]
  have hresult : (ev.filtersAt table op ctx m).result = FilterResult.merge asked .empty
      ((rules.compiled table).activeFilters asked.operation m).reverse :=
    filtersAt_of_enforced henforced
  refine ⟨_, fun gs => ⟨fun hgs => hgs.unique hnamed.distinct.of_map hturn, fun h => h ▸ hturn⟩,
    fun hok => ?_, fun ⟨pf, hpf, hfail⟩ => ?_⟩
  · have hrows : ∀ pf ∈ ((rules.compiled table).activeFilters asked.operation m).reverse,
        ∃ row, pf.2 asked = .value row := fun pf hpf => hok pf (List.mem_reverse.mp hpf)
    obtain ⟨r, hr⟩ := FilterResult.merge_ok_iff.mpr hrows
    exact ⟨r, hresult.trans hr, FilterResult.mergeOf_of_merge hr⟩
  · cases hmerge : FilterResult.merge asked .empty
        ((rules.compiled table).activeFilters asked.operation m).reverse with
    | ok r =>
        obtain ⟨row, hrow⟩ := FilterResult.merge_ok_iff.mp ⟨r, hmerge⟩ pf (List.mem_reverse.mpr hpf)
        exact absurd hrow (hfail row)
    | error failure => exact ⟨failure, hresult.trans hmerge, FilterResult.isLast_of_merge hmerge⟩

/-! ### Filters of a newsroom -/

def pressFilter (name : String) (priority : Int) (function : FilterFunction) : Policy :=
  { name, operations := [.all], priority, body := .filter function, activation := none
    hints := none }

def pressDesk : FilterFunction := fun ctx =>
  if ctx.operation = .delete then .crashed ⟨some "no desk"⟩
  else .value (Row.ofEntries [("desk", .string "b"), ("region", .null)])

/-- `draft` and `desk` have equal priority. Both of them go wrong when something is deleted. -/
def pressRules : TableRules :=
  { policies :=
      [pressFilter "bottom" (-2147483648) fun _ =>
        .value (Row.ofEntries [("zone", .bool true), ("desk", .string "z")]),
       pressFilter "draft" 0 fun ctx =>
        if ctx.operation = .delete then .failed "no draft"
        else .value (Row.ofEntries [("status", .string "draft"), ("desk", .string "a")]),
       { pressFilter "asleep" 5 (fun _ => .failed "asked in its sleep") with
         activation := some fun _ => .ok false },
       pressFilter "desk" 0 pressDesk,
       pressFilter "top" 2147483647 fun _ =>
        .value (Row.ofEntries [("region", .string "n"), ("status", .string "open")])]
    defaultDeny := false, exempt := KeyMap.empty }

def pressEvaluator : Evaluator :=
  { registry := KeyMap.empty.insert "docs" (pressRules.compiled "docs")
    environment := defaultEnvironment, features := KeyMap.empty, clock := .fixed default
    audit := none, denyUnregistered := false }

def pressMerged : FilterResult :=
  { conditions := Row.ofEntries
      [("zone", .bool true), ("desk", .string "a"), ("region", .string "n"),
       ("status", .string "open")]
    applied := ["bottom", "desk", "draft", "top"] }

/-- A read is under four filters, and three columns are named by two of them each. When something
is deleted two filters fail, and the one that is asked later is reported. -/
theorem filtersAt_in_turn_press :
    let m := pressEvaluator.moment
    let read := (default : Context).about "docs" .read
    let delete := (default : Context).about "docs" .delete
    Registry.ofSchema [("docs", pressRules)] = .ok pressEvaluator.registry ∧
    (default : Context).caller.isSystem = false ∧
    (default : Context).caller.holdsOneOf pressRules.exempt = false ∧
    (∃ fs, Policy.InTurn pressRules.policies read m fs ∧ pressMerged.MergeOf read fs) ∧
    (pressEvaluator.filtersAt "docs" .read default m).result = .ok pressMerged ∧
    (∃ fs, Policy.InTurn pressRules.policies delete m fs ∧
      FilterFailure.IsLast ⟨"desk", "panicked: no desk"⟩ delete fs) ∧
    (pressEvaluator.filtersAt "docs" .delete default m).result =
      .error ⟨"desk", "panicked: no desk"⟩ := by
  intro m read delete
  have hreg : Registry.ofSchema [("docs", pressRules)] = .ok pressEvaluator.registry := rfl
  have hturn := fun op =>
    @filtersAt_in_turn pressEvaluator _ _ _ default hreg List.mem_cons_self rfl rfl op m
  refine ⟨hreg, rfl, rfl, ?_, rfl, ?_, rfl⟩
  · obtain ⟨fs, hfs, hok, -⟩ := hturn .read
    have hrows : ∀ pf ∈ fs, ∃ row, pf.2 read = .value row := by
      rintro ⟨p, f⟩ hpf
      obtain ⟨hp, hf⟩ := (((hfs fs).mpr rfl).mem_iff p f).mp hpf
      simp only [pressRules, List.mem_cons, List.not_mem_nil, or_false] at hp
      rcases hp with rfl | rfl | rfl | rfl | rfl
      · cases hf.filter; exact ⟨_, rfl⟩
      · cases hf.filter; exact ⟨_, rfl⟩
      · exact absurd hf.active Bool.false_ne_true
      · cases hf.filter; exact ⟨_, rfl⟩
      · cases hf.filter; exact ⟨_, rfl⟩
    obtain ⟨r, hr, hmerge⟩ := hok hrows
    obtain rfl : pressMerged = r := Except.ok.inj hr
    exact ⟨fs, (hfs fs).mpr rfl, hmerge⟩
  · obtain ⟨fs, hfs, -, hfail⟩ := hturn .delete
    have hdeclared : pressFilter "desk" 0 pressDesk ∈ pressRules.policies := by simp [pressRules]
    have hdesk : (pressFilter "desk" 0 pressDesk, pressDesk) ∈ fs :=
      (((hfs fs).mpr rfl).mem_iff _ _).mpr ⟨hdeclared, rfl, rfl, rfl⟩
    obtain ⟨failure, hfailure, hlast⟩ := hfail ⟨_, hdesk, nofun⟩
    obtain rfl : ⟨"desk", "panicked: no desk"⟩ = failure := Except.error.inj hfailure
    exact ⟨fs, (hfs fs).mpr rfl, hlast⟩

end Evaluator

end RowAccess
