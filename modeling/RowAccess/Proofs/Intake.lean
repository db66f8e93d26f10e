import RowAccess.Proofs.Loading

/-!
# Registries filled by calls

A registry is filled by calls, each of which registers a declaration or
loads a schema of them, and each of which may be refused, a schema also
half way. All that is refused leaves no trace: a run of calls comes to
what a single schema comes to that is loaded without a fault, the
declarations that went through on the way (`Intake.load_history`).

Nothing here depends on what the tables are made of. `Adds` takes the
relation between a table and its declaration as a parameter, and holds
of every load without a fault as soon as compiling establishes it.

- one call: `perform_register_refused` and `load_stopsAt`, where a fault
  stops it;
- a run of calls: `load_history`, by induction on the calls, and from it
  `renders_of_stored` and `find?_run`.
-/

namespace RowAccess

variable {ρ τ δ ε : Type}

/-! ## Loads one after the other -/

section

variable (register : ρ → String → δ → Except ε ρ)

/-- The declarations that go through, up to the first one that is refused. -/
def takenWith (r : ρ) : List (String × δ) → List (String × δ)
  | [] => []
  | (name, d) :: rest =>
    match register r name d with
    | .error _ => []
    | .ok r' => (name, d) :: takenWith r' rest

/-- The declarations that go through in some loads, in their order. -/
def historyWith (r : ρ) : List (List (String × δ)) → List (String × δ)
  | [] => []
  | s :: rest => takenWith register r s ++ historyWith (loadWith register r s).1 rest

/-- What goes through can be loaded by itself, and comes to the same. -/
theorem loadWith_takenWith (r : ρ) (s : List (String × δ)) :
    loadWith register r (takenWith register r s) = ((loadWith register r s).1, none) := by
  induction s generalizing r with
  | nil => rfl
  | cons first rest ih =>
      obtain ⟨name, d⟩ := first
      rw [takenWith, loadWith]
      cases hreg : register r name d with
      | error e => rfl
      | ok r' =>
          show loadWith register r ((name, d) :: takenWith register r' rest) = _
          rw [loadWith, hreg]
          exact ih r'

end

/-! ## One call -/

/-- A call that adds declarations to a registry: one of them, or those of a schema. -/
inductive Registration (δ : Type) where
  | register (name : String) (d : δ)
  | load (s : List (String × δ))

def Registration.declared : Registration δ → List (String × δ)
  | .register name d => [(name, d)]
  | .load s => s

namespace Intake

/-- The second registry is the first one with a table for each declaration, under names that were
free. -/
structure Adds (Renders : τ → String → δ → Prop) (r : KeyMap τ) (s : List (String × δ))
    (r' : KeyMap τ) : Prop where
  unstored : ∀ name ∈ Entries.names s, r.contains name = false
  stored : ∀ e ∈ s, ∃ t, r'.find? e.1 = some t ∧ Renders t e.1 e.2
  kept : ∀ name, name ∉ Entries.names s → r'.find? name = r.find? name

section

variable {Renders : τ → String → δ → Prop} {r r' : KeyMap τ} {s : List (String × δ)}
  {name : String} {d : δ} {t : τ}

theorem Adds.cons (hnew : r.contains name = false) (hrenders : Renders t name d)
    (h : Adds Renders (r.insert name t) s r') : Adds Renders r ((name, d) :: s) r' := by
  have hapart : name ∉ Entries.names s := by
    intro hmem
    have hfree := h.unstored name hmem
    simp [KeyMap.contains] at hfree
  refine ⟨?_, ?_, ?_⟩
  · intro other hmem
    rcases List.mem_cons.mp hmem with rfl | hmem
    · exact hnew
    · have hne : name ≠ other := fun heq => hapart (heq ▸ hmem)
      have hfree := h.unstored other hmem
      rwa [KeyMap.contains, KeyMap.find?_insert, if_neg hne] at hfree
  · intro e he
    rcases List.mem_cons.mp he with rfl | he
    · refine ⟨t, ?_, hrenders⟩
      rw [h.kept name hapart, KeyMap.find?_insert, if_pos rfl]
    · exact h.stored e he
  · intro other hother
    rw [Entries.names_cons, List.mem_cons, not_or] at hother
    obtain ⟨hne, hother⟩ := hother
    rw [h.kept other hother, KeyMap.find?_insert, if_neg (Ne.symm hne)]

/-- A table that was stored before is kept. -/
theorem Adds.find? (h : Adds Renders r s r') (ht : r.find? name = some t) :
    r'.find? name = some t := by
  have hapart : name ∉ Entries.names s := by
    intro hmem
    have hfree := h.unstored name hmem
    simp [KeyMap.contains, ht] at hfree
  rw [h.kept name hapart, ht]

end

variable (i : Intake τ δ)

/-- The registry after the call and, if something was refused, why. -/
def perform (r : KeyMap τ) : Registration δ → KeyMap τ × Option SchemaError
  | .register name d =>
    match i.register r name d with
    | .ok r' => (r', none)
    | .error fault => (r, some fault)
  | .load s => i.load r s

/-- The declarations in front of the offending one go through and make `r'` of `r`, which has
exactly their tables in addition; the offending one is then refused. -/
structure StopsAt (Renders : τ → String → δ → Prop) (r r' : KeyMap τ)
    (before : List (String × δ)) (offending : String × δ) (fault : SchemaError) : Prop where
  loaded : i.load r before = (r', none)
  refused : i.register r' offending.1 offending.2 = .error fault
  added : Adds Renders r before r'

/-- The registry after some calls, whatever becomes of each of them. -/
def run (r : KeyMap τ) : List (Registration δ) → KeyMap τ
  | [] => r
  | c :: rest => run (i.perform r c).1 rest

/-- The declarations that go through in a run of calls, in their order. -/
def history (r : KeyMap τ) (calls : List (Registration δ)) : List (String × δ) :=
  historyWith i.register r (calls.map Registration.declared)

variable {i} {Renders : τ → String → δ → Prop} {r r' : KeyMap τ} {s : List (String × δ)}
  {name : String} {d : δ} {t : τ} {fault : SchemaError}

theorem perform_register_refused (h : (i.perform r (.register name d)).2 ≠ none) :
    (i.perform r (.register name d)).1 = r := by
  rw [perform] at h ⊢
  cases hreg : i.register r name d with
  | error fault => rfl
  | ok r' =>
      rw [hreg] at h
      exact absurd rfl h

/-- A registration is the load of a schema with one declaration. -/
theorem perform_eq_loadWith (r : KeyMap τ) (c : Registration δ) :
    i.perform r c = loadWith i.register r c.declared := by
  cases c with
  | load s => exact i.load_eq r s
  | register name d =>
      rw [perform, Registration.declared, loadWith]
      cases i.register r name d <;> rfl

theorem adds_loadWith (hrenders : ∀ {name d t}, i.compile name d = .ok t → Renders t name d)
    (h : loadWith i.register r s = (r', none)) : Adds Renders r s r' := by
  induction s generalizing r with
  | nil =>
      obtain rfl : r = r' := congrArg Prod.fst h
      exact ⟨nofun, nofun, fun _ _ => rfl⟩
  | cons e rest ih =>
      obtain ⟨name, d⟩ := e
      rw [loadWith] at h
      cases hreg : i.register r name d with
      | error fault =>
          rw [hreg] at h
          cases h
      | ok r₁ =>
          rw [hreg] at h
          obtain ⟨hnew, t, hcompile, rfl⟩ := register_ok_iff.mp hreg
          exact .cons hnew (hrenders hcompile) (ih h)

theorem load_stopsAt (hrenders : ∀ {name d t}, i.compile name d = .ok t → Renders t name d)
    (h : (i.load r s).2 = some fault) :
    ∃ before offending after r', s = before ++ offending :: after ∧
      i.load r s = (r', some fault) ∧ i.StopsAt Renders r r' before offending fault := by
  rw [i.load_eq] at h
  obtain ⟨before, name, d, after, r', rfl, hloaded, hrefused⟩ := loadWith_stops_iff.mp h
  refine ⟨before, (name, d), after, r', rfl, ?_, ?_, hrefused, adds_loadWith hrenders hloaded⟩
  · rw [i.load_eq, loadWith_refused hloaded hrefused]
  · rw [i.load_eq, hloaded]

/-! ## Runs of calls -/

theorem run_append (r : KeyMap τ) (calls later : List (Registration δ)) :
    i.run r (calls ++ later) = i.run (i.run r calls) later := by
  induction calls generalizing r with
  | nil => rfl
  | cons c rest ih => exact ih (i.perform r c).1

/-- A run comes to its history, loaded as one schema without a fault. -/
theorem load_history (r : KeyMap τ) (calls : List (Registration δ)) :
    loadWith i.register r (i.history r calls) = (i.run r calls, none) := by
  induction calls generalizing r with
  | nil => rfl
  | cons c rest ih =>
      -- what goes through of the first call leaves the registry on which the others are made
      have hcall : loadWith i.register r (takenWith i.register r c.declared) =
          ((i.perform r c).1, none) := by
        rw [perform_eq_loadWith]
        exact loadWith_takenWith i.register r c.declared
      have hrest : i.history r (c :: rest) =
          takenWith i.register r c.declared ++ i.history (i.perform r c).1 rest := by
        rw [perform_eq_loadWith]
        rfl
      rw [hrest, loadWith_append hcall]
      exact ih (i.perform r c).1

/-- A stored table outlives every run. -/
theorem find?_run (h : r.find? name = some t) (calls : List (Registration δ)) :
    (i.run r calls).find? name = some t := by
  have hadds : Adds (fun _ _ _ => True) r (i.history r calls) (i.run r calls) :=
    adds_loadWith (fun _ => trivial) (load_history r calls)
  exact hadds.find? h

/-- What is stored under a name after a run renders the one declaration of that name that went
through. -/
theorem renders_of_stored (hrenders : ∀ {name d t}, i.compile name d = .ok t → Renders t name d)
    {calls : List (Registration δ)} (h : (name, t) ∈ (i.run KeyMap.empty calls).entries) :
    ∃ d, ((i.history KeyMap.empty calls).filter fun e => e.1 == name) = [(name, d)] ∧
      Renders t name d := by
  have hloaded := load_history (i := i) KeyMap.empty calls
  have hadds := adds_loadWith hrenders hloaded
  obtain ⟨hdistinct, -, -⟩ :=
    (i.registers fun _ _ => Iff.rfl).loadWith_ok_iff.mp ⟨_, hloaded⟩
  rw [KeyMap.mem_entries_iff] at h
  have hdeclared : name ∈ Entries.names (i.history KeyMap.empty calls) := by
    by_contra hnone
    rw [hadds.kept name hnone, KeyMap.find?_empty] at h
    cases h
  obtain ⟨⟨_, d⟩, hmem, rfl⟩ := List.mem_map.mp hdeclared
  obtain ⟨t', hstored, hrenders'⟩ := hadds.stored _ hmem
  obtain rfl : t' = t := Option.some.inj (hstored.symm.trans h)
  exact ⟨d, Entries.filter_name hdistinct hmem, hrenders'⟩

end Intake

end RowAccess
