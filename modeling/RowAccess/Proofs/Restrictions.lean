import RowAccess.Policy

/-!
# Restrictions, one put on another

Every restriction that is put on a policy is asked after those that are
there already, and only if all of these hold. The nest of functions which
comes of that is a walk through a list of conditions, whatever the depth:
`Condition.inTurn` is the walk, `inTurn_restrict` says that one more
restriction lengthens the list by its condition, and
`inTurn_restrictAll` that a whole list of them appends all of theirs.

A walk that holds and one that crashes are told by the list alone
(`inTurn_eq_ok_true_iff`, `exists_inTurn_eq_error_iff`). What `isActive` makes of
the two is the only place where the kind of the policy comes in, so that
`isActive_restrictAll` says of any policy under any restrictions when it
takes part, and when neither their order nor their repetition matters.
-/

namespace RowAccess

namespace Condition

/-- The conditions from the front of the list on, up to one that does not hold. -/
def inTurn : List Condition → Condition
  | [] => fun _ => .ok true
  | c :: rest => both c (inTurn rest)

variable {c first second third : Condition} {cs ds : List Condition} {m : Moment}

theorem both_assoc : both (both first second) third = both first (both second third) := by
  funext m
  unfold both
  cases first m with
  | error crash => rfl
  | ok holds => cases holds <;> rfl

theorem both_true : both c (fun _ => .ok true) = c := by
  funext m
  unfold both
  cases hc : c m with
  | error crash => rfl
  | ok holds => cases holds <;> rfl

theorem inTurn_singleton : inTurn [c] = c := both_true

theorem inTurn_append : inTurn (cs ++ ds) = both (inTurn cs) (inTurn ds) := by
  induction cs with
  | nil => rfl
  | cons c rest ih => rw [List.cons_append, inTurn, ih, inTurn, both_assoc]

theorem inTurn_eq_ok_true_iff : inTurn cs m = .ok true ↔ ∀ c ∈ cs, c m = .ok true := by
  induction cs with
  | nil => simp [inTurn]
  | cons c rest ih =>
      rw [List.forall_mem_cons, inTurn, both, ← ih]
      cases hc : c m with
      | error crash => simp
      | ok holds => cases holds <;> simp

/-- The first of the conditions that does not hold crashes. -/
def CrashFirst (cs : List Condition) (m : Moment) : Prop :=
  ∃ front c back, cs = front ++ c :: back ∧ (∀ earlier ∈ front, earlier m = .ok true) ∧
    ∃ crash, c m = .error crash

theorem exists_inTurn_eq_error_iff :
    (∃ crash, inTurn cs m = .error crash) ↔ CrashFirst cs m := by
  induction cs with
  | nil => simp [inTurn, CrashFirst]
  | cons c rest ih =>
      rw [inTurn, both]
      constructor
      · rintro ⟨crash, h⟩
        cases hc : c m with
        | error other => exact ⟨[], c, rest, rfl, nofun, other, hc⟩
        | ok holds =>
            rw [hc] at h
            cases holds with
            | false => cases h
            | true =>
                obtain ⟨front, d, back, rfl, hfront, hd⟩ := ih.mp ⟨crash, h⟩
                exact ⟨c :: front, d, back, rfl, List.forall_mem_cons.mpr ⟨hc, hfront⟩, hd⟩
      · rintro ⟨front, d, back, hsplit, hfront, hd⟩
        cases front with
        | nil =>
            obtain ⟨rfl, rfl⟩ := List.cons.inj hsplit
            obtain ⟨crash, hcrash⟩ := hd
            exact ⟨crash, by rw [hcrash]⟩
        | cons first front =>
            obtain ⟨rfl, rfl⟩ := List.cons.inj hsplit
            obtain ⟨hfirst, hfront⟩ := List.forall_mem_cons.mp hfront
            rw [hfirst]
            exact ih.mpr ⟨front, d, back, rfl, hfront, hd⟩

/-- Conditions that do not crash make no difference to this, wherever the walk gets to among
them. -/
theorem crashFirst_append_iff (hcalm : ∀ d ∈ ds, ∃ holds, d m = .ok holds) :
    CrashFirst (cs ++ ds) m ↔ CrashFirst cs m := by
  have hds : ∀ crash, inTurn ds m ≠ .error crash := by
    intro crash hcrash
    obtain ⟨front, d, back, rfl, -, other, hother⟩ := exists_inTurn_eq_error_iff.mp ⟨crash, hcrash⟩
    obtain ⟨holds, hholds⟩ := hcalm d (List.mem_append_right _ List.mem_cons_self)
    rw [hother] at hholds
    cases hholds
  rw [← exists_inTurn_eq_error_iff, ← exists_inTurn_eq_error_iff, inTurn_append, both]
  cases inTurn cs m with
  | error crash => rfl
  | ok holds =>
      cases holds with
      | false => rfl
      | true => simp [hds]

end Condition

namespace Policy

variable {p : Policy} {rs : List Restriction} {m : Moment}

/-! ## The walk behind an activation -/

/-- One more restriction is asked last. -/
theorem inTurn_restrict (r : Restriction) (cs : List Condition) :
    Condition.inTurn ((p.restrict r).activation.toList ++ cs) =
      Condition.inTurn (p.activation.toList ++ r.holds :: cs) := by
  unfold restrict Condition.after
  cases p.activation with
  | none => rfl
  | some first => exact Condition.both_assoc

theorem inTurn_restrictAll (p : Policy) (rs : List Restriction) :
    Condition.inTurn (p.restrictAll rs).activation.toList =
      Condition.inTurn (p.activation.toList ++ rs.map Restriction.holds) := by
  induction rs generalizing p with
  | nil => rw [List.map_nil, List.append_nil]; rfl
  | cons r rest ih =>
      show Condition.inTurn ((p.restrict r).restrictAll rest).activation.toList = _
      rw [ih, inTurn_restrict, List.map_cons]

@[simp] theorem kind_restrictAll (p : Policy) (rs : List Restriction) :
    (p.restrictAll rs).kind = p.kind := by
  induction rs generalizing p with
  | nil => rfl
  | cons r rest ih => exact ih (p.restrict r)

theorem isActive_iff_inTurn :
    p.isActive m = true ↔ Condition.inTurn p.activation.toList m = .ok true ∨
      p.kind ≠ .allow ∧ ∃ crash, Condition.inTurn p.activation.toList m = .error crash := by
  unfold isActive
  cases p.activation with
  | none => simp [Condition.inTurn]
  | some c =>
      rw [Option.toList_some, Condition.inTurn_singleton]
      cases hc : c m <;> simp [hc]

/-! ## Policies under restrictions -/

theorem isActive_restrictAll_iff (p : Policy) (rs : List Restriction) (m : Moment) :
    (p.restrictAll rs).isActive m = true ↔
      (∀ c ∈ p.activation.toList ++ rs.map Restriction.holds, c m = .ok true) ∨
        p.kind ≠ .allow ∧
          Condition.CrashFirst (p.activation.toList ++ rs.map Restriction.holds) m := by
  rw [isActive_iff_inTurn, kind_restrictAll, inTurn_restrictAll, Condition.inTurn_eq_ok_true_iff,
    Condition.exists_inTurn_eq_error_iff]

/-- Of restrictions that do not crash only those that there are matter. -/
theorem isActive_restrictAll_congr {rs' : List Restriction} (hsame : ∀ r, r ∈ rs' ↔ r ∈ rs)
    (hcalm : p.kind = .allow ∨ ∀ r ∈ rs, ∃ holds, r.holds m = .ok holds) :
    (p.restrictAll rs').isActive m = (p.restrictAll rs).isActive m := by
  have hall : (∀ c ∈ p.activation.toList ++ rs'.map Restriction.holds, c m = .ok true) ↔
      ∀ c ∈ p.activation.toList ++ rs.map Restriction.holds, c m = .ok true := by
    simp only [List.forall_mem_append, List.forall_mem_map, hsame]
  rw [Bool.eq_iff_iff, isActive_restrictAll_iff, isActive_restrictAll_iff, hall]
  refine or_congr_right (and_congr_right fun hkind => ?_)
  have hrs := hcalm.resolve_left hkind
  rw [Condition.crashFirst_append_iff (List.forall_mem_map.mpr hrs),
    Condition.crashFirst_append_iff (List.forall_mem_map.mpr fun r hr => hrs r ((hsame r).mp hr))]

/-- A policy under restrictions, which are asked in the order in which they were put on, behind the
activation that it had before. It takes part if all of these conditions hold, or if the first one
that does not hold crashes and the policy is not an allow policy. So it makes no difference in which
order the restrictions are put on, or how often, as long as none of them crashes, and for an allow
policy it makes none in any case. -/
theorem isActive_restrictAll (p : Policy) (rs : List Restriction) (m : Moment) :
    let conditions := p.activation.toList ++ rs.map Restriction.holds
    ((p.restrictAll rs).isActive m = true ↔ (∀ c ∈ conditions, c m = .ok true) ∨
      p.kind ≠ .allow ∧ Condition.CrashFirst conditions m) ∧
    ∀ rs', (∀ r, r ∈ rs' ↔ r ∈ rs) →
      (p.kind = .allow ∨ ∀ r ∈ rs, ∃ holds, r.holds m = .ok holds) →
        (p.restrictAll rs').isActive m = (p.restrictAll rs).isActive m :=
  ⟨isActive_restrictAll_iff p rs m, fun _ => isActive_restrictAll_congr⟩

/-! ### A vault -/

def vaultPolicy (body : PolicyBody) : Policy :=
  { name := "vault", operations := [.all], priority := 0, body, activation := none, hints := none }

def badge : Restriction := .condition fun _ => .error ⟨some "no badge reader"⟩

def vaultMoment : Moment :=
  { environment := "staging", features := Features.ofEnabled ["alarm"], time := default }

/-- A deny policy for production, with a badge reader that is out of order: which one is asked
first decides whether the policy takes part in staging. An allow policy takes no part either way,
and by day and night the order does not matter. -/
theorem isActive_restrictAll_vault :
    let deny := vaultPolicy (.deny fun _ => .value true)
    let allow := vaultPolicy (.allow fun _ => .value true)
    (deny.restrictAll [.environment ["production"], badge]).isActive vaultMoment = false ∧
    (deny.restrictAll [badge, .environment ["production"]]).isActive vaultMoment = true ∧
    Condition.CrashFirst [badge.holds, (Restriction.environment ["production"]).holds]
      vaultMoment ∧
    (allow.restrictAll [badge, .environment ["staging"], badge]).isActive vaultMoment =
      (allow.restrictAll [.environment ["staging"], badge]).isActive vaultMoment ∧
    (deny.restrictAll [.hours 22 6, .feature "alarm", .hours 22 6]).isActive vaultMoment =
      (deny.restrictAll [.feature "alarm", .hours 22 6]).isActive vaultMoment ∧
    (deny.restrictAll [.feature "alarm", .hours 22 6]).isActive vaultMoment = true := by
  intro deny allow
  have hbadge := (isActive_restrictAll deny [badge, .environment ["production"]] vaultMoment).1
  have hallow := (isActive_restrictAll allow [.environment ["staging"], badge] vaultMoment).2
  have hnight := (isActive_restrictAll deny [.feature "alarm", .hours 22 6] vaultMoment).2
  refine ⟨rfl, rfl, ?_, hallow _ (by simp [or_comm]) (Or.inl rfl),
    hnight _ (by simp [or_comm]) (Or.inr ?_), rfl⟩
  · rcases hbadge.mp rfl with hall | ⟨-, hcrash⟩
    · have hholds := hall badge.holds List.mem_cons_self
      cases hholds
    · exact hcrash
  · intro r hr
    simp only [List.mem_cons, List.not_mem_nil, or_false] at hr
    rcases hr with rfl | rfl
    · exact ⟨_, rfl⟩
    · exact ⟨_, rfl⟩

end Policy

end RowAccess
