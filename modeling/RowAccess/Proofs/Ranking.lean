import Mathlib.Data.List.Basic
import RowAccess.Registry

/-!
# The order of policies, read off their declaration

Tables keep their policies ranked: higher priorities first, equal ones
as declared. Everything that walks a table in this order and stops
somewhere is described here without the order, on the declaration
itself: `FirstAt ps test i p` says that the policy at place `i` passes
the test and that every other one that passes has a lower priority, or
the same and a later place.

`find?_ranked` is the bridge: a search through the ranked list finds
exactly the policy that is first in this sense.
-/

namespace RowAccess

namespace Policy

/-! ## Ranked lists -/

theorem insertRanked_perm (p : Policy) (ps : List Policy) :
    (insertRanked p ps).Perm (p :: ps) := by
  induction ps with
  | nil => exact List.Perm.refl _
  | cons q rest ih =>
      rw [insertRanked]
      split
      · exact List.Perm.refl _
      · exact (ih.cons q).trans (List.Perm.swap p q rest)

/-- Ranking neither drops nor doubles a policy. -/
theorem ranked_perm (ps : List Policy) : (ranked ps).Perm ps := by
  induction ps with
  | nil => exact List.Perm.refl _
  | cons p rest ih => exact (insertRanked_perm p (ranked rest)).trans (ih.cons p)

theorem mem_ranked {ps : List Policy} {p : Policy} : p ∈ ranked ps ↔ p ∈ ps :=
  (ranked_perm ps).mem_iff

theorem insertRanked_sorted {p : Policy} {ps : List Policy}
    (h : ps.Pairwise fun a b => b.priority ≤ a.priority) :
    (insertRanked p ps).Pairwise fun a b => b.priority ≤ a.priority := by
  induction ps with
  | nil => exact List.pairwise_singleton _ _
  | cons q rest ih =>
      obtain ⟨hq, hrest⟩ := List.pairwise_cons.mp h
      rw [insertRanked]
      split
      · next hle =>
          refine List.pairwise_cons.mpr ⟨fun x hx => ?_, h⟩
          rcases List.mem_cons.mp hx with rfl | hx
          · exact hle
          · exact Int.le_trans (hq x hx) hle
      · next hlt =>
          refine List.pairwise_cons.mpr ⟨fun x hx => ?_, ih hrest⟩
          rcases List.mem_cons.mp ((insertRanked_perm p rest).mem_iff.mp hx) with rfl | hx
          · omega
          · exact hq x hx

theorem ranked_sorted (ps : List Policy) :
    (ranked ps).Pairwise fun a b => b.priority ≤ a.priority := by
  induction ps with
  | nil => exact List.Pairwise.nil
  | cons p rest ih => exact insertRanked_sorted ih

theorem ranked_map {f : Policy → Policy} (hf : ∀ p, (f p).priority = p.priority)
    (ps : List Policy) : ranked (ps.map f) = (ranked ps).map f := by
  have hinsert : ∀ (p : Policy) (qs : List Policy),
      insertRanked (f p) (qs.map f) = (insertRanked p qs).map f := by
    intro p qs
    induction qs with
    | nil => rfl
    | cons q rest ih =>
        rw [List.map_cons, insertRanked, insertRanked, hf, hf]
        split
        · rfl
        · rw [ih, List.map_cons]
  induction ps with
  | nil => rfl
  | cons p rest ih =>
      show insertRanked (f p) (ranked (rest.map f)) = (insertRanked p (ranked rest)).map f
      rw [ih, hinsert]

theorem insertRanked_of_forall_le {p : Policy} {ps : List Policy}
    (h : ∀ q ∈ ps, q.priority ≤ p.priority) : insertRanked p ps = p :: ps := by
  cases ps with
  | nil => rfl
  | cons q rest => exact if_pos (h q List.mem_cons_self)

theorem filter_insertRanked (keep : Policy → Bool) (p : Policy) {ps : List Policy}
    (hs : ps.Pairwise fun a b => b.priority ≤ a.priority) :
    (insertRanked p ps).filter keep =
      if keep p then insertRanked p (ps.filter keep) else ps.filter keep := by
  induction ps with
  | nil => cases hp : keep p <;> simp [insertRanked, hp]
  | cons q rest ih =>
      obtain ⟨hq, hrest⟩ := List.pairwise_cons.mp hs
      rw [insertRanked]
      split
      · next hle =>
          -- `p` ranks above all that is left, also if `q` is not among it
          have habove : ∀ r ∈ (q :: rest).filter keep, r.priority ≤ p.priority := by
            intro r hr
            rcases List.mem_cons.mp (List.mem_filter.mp hr).1 with rfl | hr
            · exact hle
            · exact Int.le_trans (hq r hr) hle
          rw [insertRanked_of_forall_le habove, List.filter_cons]
      · next hlt =>
          rw [List.filter_cons, ih hrest, List.filter_cons]
          cases keep q with
          | false => rfl
          | true => cases keep p <;> simp [insertRanked, hlt]

/-- Dropping policies before they are ranked is dropping them afterwards. -/
theorem ranked_filter (keep : Policy → Bool) (ps : List Policy) :
    ranked (ps.filter keep) = (ranked ps).filter keep := by
  induction ps with
  | nil => rfl
  | cons p rest ih =>
      have hinsert := filter_insertRanked keep p (ranked_sorted rest)
      have hcons : ranked (p :: rest) = insertRanked p (ranked rest) := rfl
      rw [hcons, hinsert, List.filter_cons]
      cases keep p with
      | false => exact ih
      | true =>
          have hkept : ranked (p :: rest.filter keep) =
              insertRanked p (ranked (rest.filter keep)) := rfl
          rw [if_pos rfl, if_pos rfl, hkept, ih]

/-! ## Equal priorities -/

theorem ranked_of_forall_eq {k : Int} {ps : List Policy} (h : ∀ p ∈ ps, p.priority = k) :
    ranked ps = ps := by
  induction ps with
  | nil => rfl
  | cons p rest ih =>
      have hrest : ranked rest = rest := ih fun q hq => h q (List.mem_cons_of_mem p hq)
      show insertRanked p (ranked rest) = p :: rest
      rw [hrest]
      refine insertRanked_of_forall_le fun q hq => Int.le_of_eq ?_
      rw [h p List.mem_cons_self, h q (List.mem_cons_of_mem p hq)]

/-- Of two policies with equal priority, the one declared earlier is ranked earlier. -/
theorem pair_sublist_ranked_iff {ps : List Policy} {p q : Policy} (hpq : p.priority = q.priority) :
    [p, q].Sublist (ranked ps) ↔ [p, q].Sublist ps := by
  -- ranking leaves the policies of this one priority as they are, and the pair is among them
  have hlevel : (ranked ps).filter (·.priority == p.priority) =
      ps.filter (·.priority == p.priority) := by
    rw [← ranked_filter]
    exact ranked_of_forall_eq fun r hr => beq_iff_eq.mp (List.mem_filter.mp hr).2
  have hpair : [p, q].filter (·.priority == p.priority) = [p, q] := by simp [hpq]
  constructor
  · intro h
    have hsub := h.filter (·.priority == p.priority)
    rw [hpair, hlevel] at hsub
    exact hsub.trans List.filter_sublist
  · intro h
    have hsub := h.filter (·.priority == p.priority)
    rw [hpair, ← hlevel] at hsub
    exact hsub.trans List.filter_sublist

/-! ## First in rank -/

/-- The policy at place `i` of the declaration passes the test and comes before every other
one that does. -/
structure FirstAt (ps : List Policy) (test : Policy → Prop) (i : Nat) (p : Policy) : Prop where
  declared : ps[i]? = some p
  passes : test p
  first : ∀ {j q}, ps[j]? = some q → test q →
    q.priority < p.priority ∨ q.priority = p.priority ∧ i ≤ j

section FirstAt

variable {ps : List Policy} {test : Policy → Prop} {i j : Nat} {p q : Policy}

theorem FirstAt.mem (h : FirstAt ps test i p) : p ∈ ps := List.mem_of_getElem? h.declared

/-- Two policies cannot both come first. -/
theorem FirstAt.place_unique (hp : FirstAt ps test i p) (hq : FirstAt ps test j q) : i = j := by
  have hqp := hp.first hq.declared hq.passes
  have hpq := hq.first hp.declared hp.passes
  omega

theorem FirstAt.unique (hp : FirstAt ps test i p) (hq : FirstAt ps test j q) : p = q := by
  obtain rfl := hp.place_unique hq
  exact Option.some.inj (hp.declared.symm.trans hq.declared)

theorem FirstAt.congr {test' : Policy → Prop} (h : ∀ q ∈ ps, test q ↔ test' q)
    (hp : FirstAt ps test i p) : FirstAt ps test' i p where
  declared := hp.declared
  passes := (h p hp.mem).mp hp.passes
  first hj hq := hp.first hj ((h _ (List.mem_of_getElem? hj)).mpr hq)

/-- The first policy stays first under a change that keeps priorities, as long as it still
passes and no other one passes anew. -/
theorem FirstAt.map {test' : Policy → Prop} {f : Policy → Policy}
    (hf : ∀ q, (f q).priority = q.priority) (hp : FirstAt ps test i p) (hpass : test' (f p))
    (hless : ∀ q ∈ ps, test' (f q) → test q) : FirstAt (ps.map f) test' i (f p) where
  declared := by rw [List.getElem?_map, hp.declared, Option.map_some]
  passes := hpass
  first {j r} hj hr := by
    rw [List.getElem?_map, Option.map_eq_some_iff] at hj
    obtain ⟨q, hq, rfl⟩ := hj
    rw [hf, hf]
    exact hp.first hq (hless q (List.mem_of_getElem? hq) hr)

/-- One more policy at the front comes first if it passes and none behind it ranks above. -/
theorem FirstAt.front (hp : test p)
    (h : ∀ {q}, q ∈ ps → test q → q.priority ≤ p.priority) :
    FirstAt (p :: ps) test 0 p where
  declared := rfl
  passes := hp
  first {j q} hj hq := by
    rcases List.mem_cons.mp (List.mem_of_getElem? hj) with rfl | hmem
    · exact Or.inr ⟨rfl, Nat.zero_le j⟩
    · have hle := h hmem hq
      omega

/-- One more policy at the front changes nothing if it fails the test or ranks below. -/
theorem FirstAt.behind (hp : FirstAt ps test i p) (h : test q → q.priority < p.priority) :
    FirstAt (q :: ps) test (i + 1) p where
  declared := hp.declared
  passes := hp.passes
  first {j r} hj hr := by
    cases j with
    | zero =>
        obtain rfl := Option.some.inj hj
        exact Or.inl (h hr)
    | succ j =>
        have hfirst := hp.first hj hr
        omega

end FirstAt

/-! ## Searching the ranked list -/

theorem find?_insertRanked {test : Policy → Bool} {p : Policy} {ps : List Policy}
    (hs : ps.Pairwise fun a b => b.priority ≤ a.priority) :
    (insertRanked p ps).find? test =
      if test p then
        match ps.find? test with
        | some q => if q.priority ≤ p.priority then some p else some q
        | none => some p
      else ps.find? test := by
  induction ps with
  | nil => cases hp : test p <;> simp [insertRanked, hp]
  | cons q rest ih =>
      obtain ⟨hq, hrest⟩ := List.pairwise_cons.mp hs
      rw [insertRanked]
      split
      · next hle =>
          cases hp : test p with
          | false => simp [hp]
          | true =>
              cases hfind : (q :: rest).find? test with
              | none => simp [hp]
              | some r =>
                  have hr : r.priority ≤ q.priority := by
                    rcases List.mem_cons.mp (List.mem_of_find?_eq_some hfind) with rfl | hr
                    · exact Int.le_refl _
                    · exact hq r hr
                  simp [hp, Int.le_trans hr hle]
      · next hlt =>
          cases htq : test q with
          | true => cases hp : test p <;> simp [htq, hlt]
          | false => simpa [htq] using ih hrest

theorem firstAt_of_find?_ranked {test : Policy → Bool} {ps : List Policy} {p : Policy}
    (h : (ranked ps).find? test = some p) : ∃ i, FirstAt ps (test · = true) i p := by
  induction ps generalizing p with
  | nil => cases h
  | cons x rest ih =>
      have hfind : (insertRanked x (ranked rest)).find? test = some p := h
      rw [find?_insertRanked (ranked_sorted rest)] at hfind
      cases htx : test x with
      | false =>
          rw [htx, if_neg Bool.false_ne_true] at hfind
          obtain ⟨i, hi⟩ := ih hfind
          exact ⟨i + 1, hi.behind fun hx => absurd hx (by simp [htx])⟩
      | true =>
          rw [htx, if_pos rfl] at hfind
          cases hr : (ranked rest).find? test with
          | none =>
              obtain rfl : x = p := by simpa [hr] using hfind
              have hnone := List.find?_eq_none.mp hr
              exact ⟨0, FirstAt.front htx fun hq hpass =>
                absurd hpass (hnone _ (mem_ranked.mpr hq))⟩
          | some q =>
              obtain ⟨i, hi⟩ := ih hr
              rw [hr] at hfind
              by_cases hle : q.priority ≤ x.priority
              · obtain rfl : x = p := by simpa [hle] using hfind
                refine ⟨0, FirstAt.front htx fun {r} hmem hpass => ?_⟩
                obtain ⟨j, hj⟩ := List.getElem?_of_mem hmem
                have hfirst := hi.first hj hpass
                omega
              · obtain rfl : q = p := by simpa [hle] using hfind
                exact ⟨i + 1, hi.behind fun _ => by omega⟩

/-- A search through the ranked policies finds the one that comes first among those that
pass. -/
theorem find?_ranked {test : Policy → Bool} {ps : List Policy} {p : Policy} :
    (ranked ps).find? test = some p ↔ ∃ i, FirstAt ps (test · = true) i p := by
  refine ⟨firstAt_of_find?_ranked, fun ⟨i, hi⟩ => ?_⟩
  cases hfind : (ranked ps).find? test with
  | none =>
      exact absurd hi.passes (List.find?_eq_none.mp hfind p (mem_ranked.mpr hi.mem))
  | some q =>
      obtain ⟨j, hj⟩ := firstAt_of_find?_ranked hfind
      rw [hj.unique hi]

theorem exists_firstAt {ps : List Policy} {test : Policy → Prop} :
    (∃ i p, FirstAt ps test i p) ↔ ∃ p ∈ ps, test p := by
  classical
  refine ⟨fun ⟨_, p, h⟩ => ⟨p, h.mem, h.passes⟩, fun ⟨p, hp, ht⟩ => ?_⟩
  have hsome : ((ranked ps).find? fun q => decide (test q)).isSome = true :=
    List.find?_isSome.mpr ⟨p, mem_ranked.mpr hp, decide_eq_true ht⟩
  obtain ⟨q, hq⟩ := Option.isSome_iff_exists.mp hsome
  obtain ⟨i, hi⟩ := find?_ranked.mp hq
  exact ⟨i, q, hi.congr fun _ _ => decide_eq_true_iff⟩

/-- What a search through the ranked policies brings back is given by the policy that comes
first among those that give anything. -/
theorem findSome?_ranked {α : Type} {give : Policy → Option α} {ps : List Policy} {a : α} :
    (ranked ps).findSome? give = some a ↔
      ∃ i p, FirstAt ps (fun q => (give q).isSome = true) i p ∧ give p = some a := by
  have hbind : ∀ l : List Policy,
      l.findSome? give = (l.find? fun q => (give q).isSome).bind give := by
    intro l
    induction l with
    | nil => rfl
    | cons q rest ih => cases hq : give q <;> simp [hq, ih]
  rw [hbind, Option.bind_eq_some_iff]
  constructor
  · rintro ⟨p, hfind, hgive⟩
    obtain ⟨i, hi⟩ := find?_ranked.mp hfind
    exact ⟨i, p, hi, hgive⟩
  · rintro ⟨i, p, hi, hgive⟩
    exact ⟨p, find?_ranked.mpr ⟨i, hi⟩, hgive⟩

end Policy

end RowAccess
