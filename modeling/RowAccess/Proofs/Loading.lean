import RowAccess.Proofs.Registration

/-!
# Declarations loaded in order

Tables with row rules, tables with column rules and the columns of one
table are all taken in the same way: one declaration after the other, up
to the first one that is refused. `loadWith` is that walk for any kind
of registration, and `Registers` says what a registration has to be like
for the two results about it:

- `Registers.loadWith_ok_iff`: which declarations all go through;
- `Registers.loadWith_error_iff`: which one is refused first, and why.

A table is refused for its name before it is looked at (`refused_iff`),
and stored under its name otherwise. Registries that do this are an
`Intake`, whatever their tables are made of.
-/

namespace RowAccess

variable {ρ δ ε : Type}

/-- Registers declarations in order up to the first one that is refused. -/
def loadWith (register : ρ → String → δ → Except ε ρ) (r : ρ) :
    List (String × δ) → ρ × Option ε
  | [] => (r, none)
  | (name, d) :: rest =>
    match register r name d with
    | .error e => (r, some e)
    | .ok r' => loadWith register r' rest

/-- What a load that may have stopped comes to. -/
def outcome {β : Type} (view : ρ → β) : ρ × Option ε → Except ε β
  | (r, none) => .ok (view r)
  | (_, some e) => .error e

theorem outcome_ok_iff {β : Type} {view : ρ → β} {x : ρ × Option ε} :
    (∃ b, outcome view x = .ok b) ↔ ∃ r, x = (r, none) := by
  obtain ⟨r, stop⟩ := x
  cases stop with
  | none => exact ⟨fun _ => ⟨r, rfl⟩, fun _ => ⟨view r, rfl⟩⟩
  | some e => exact ⟨fun ⟨_, h⟩ => (by cases h), fun ⟨_, h⟩ => (by cases h)⟩

theorem outcome_error_iff {β : Type} {view : ρ → β} {x : ρ × Option ε} {e : ε} :
    outcome view x = .error e ↔ x.2 = some e := by
  obtain ⟨r, stop⟩ := x
  cases stop <;> simp [outcome]

/-- A registration goes through exactly under a name that is new and that the declaration may
have. It adds that name, and no other. -/
structure Registers (register : ρ → String → δ → Except ε ρ) (holds : ρ → String → Bool)
    (Fits : String → δ → Prop) : Prop where
  ok_iff : ∀ {r name d}, (∃ r', register r name d = .ok r') ↔ holds r name = false ∧ Fits name d
  holds_ok : ∀ {r r' name d}, register r name d = .ok r' →
    ∀ other, holds r' other = true ↔ other = name ∨ holds r other = true

section

variable {register : ρ → String → δ → Except ε ρ} {r r' : ρ} {s : List (String × δ)} {e : ε}

theorem loadWith_append (h : loadWith register r s = (r', none)) (more : List (String × δ)) :
    loadWith register r (s ++ more) = loadWith register r' more := by
  induction s generalizing r with
  | nil =>
      obtain rfl : r = r' := congrArg Prod.fst h
      rfl
  | cons first rest ih =>
      obtain ⟨name, d⟩ := first
      rw [loadWith] at h
      rw [List.cons_append, loadWith]
      cases hreg : register r name d with
      | error refusal =>
          rw [hreg] at h
          cases h
      | ok r₁ =>
          rw [hreg] at h
          exact ih h

theorem loadWith_refused {before after : List (String × δ)} {name : String} {d : δ}
    (hloaded : loadWith register r before = (r', none))
    (hrefused : register r' name d = .error e) :
    loadWith register r (before ++ (name, d) :: after) = (r', some e) := by
  rw [loadWith_append hloaded, loadWith, hrefused]

/-- A fault is that of the first declaration that is refused, by what those in front of it came
to. -/
theorem loadWith_stops_iff :
    (loadWith register r s).2 = some e ↔
      ∃ before name d after r', s = before ++ (name, d) :: after ∧
        loadWith register r before = (r', none) ∧ register r' name d = .error e := by
  constructor
  · intro h
    induction s generalizing r with
    | nil => cases h
    | cons first rest ih =>
        obtain ⟨name, d⟩ := first
        rw [loadWith] at h
        cases hreg : register r name d with
        | error refusal =>
            rw [hreg] at h
            obtain rfl : refusal = e := Option.some.inj h
            exact ⟨[], name, d, rest, r, rfl, rfl, hreg⟩
        | ok r₁ =>
            rw [hreg] at h
            obtain ⟨before, other, d', after, r', hrest, hloaded, hrefused⟩ := ih h
            refine ⟨(name, d) :: before, other, d', after, r',
              congrArg ((name, d) :: ·) hrest, ?_, hrefused⟩
            rw [loadWith, hreg]
            exact hloaded
  · rintro ⟨before, name, d, after, r', rfl, hloaded, hrefused⟩
    rw [loadWith_refused hloaded hrefused]

end

namespace Registers

variable {register : ρ → String → δ → Except ε ρ} {holds : ρ → String → Bool}
  {Fits : String → δ → Prop} {r r' : ρ} {s : List (String × δ)} {e : ε}

theorem holds_loadWith (h : Registers register holds Fits)
    (hloaded : loadWith register r s = (r', none)) (name : String) :
    holds r' name = true ↔ name ∈ Entries.names s ∨ holds r name = true := by
  induction s generalizing r with
  | nil =>
      obtain rfl : r = r' := congrArg Prod.fst hloaded
      simp
  | cons first rest ih =>
      obtain ⟨other, d⟩ := first
      rw [loadWith] at hloaded
      cases hreg : register r other d with
      | error refusal =>
          rw [hreg] at hloaded
          cases hloaded
      | ok r₁ =>
          rw [hreg] at hloaded
          rw [ih hloaded, h.holds_ok hreg, Entries.names_cons, List.mem_cons, or_assoc,
            or_left_comm]

/-- Everything goes through exactly when the names are new, distinct and fitting. -/
theorem loadWith_ok_iff (h : Registers register holds Fits) :
    (∃ r', loadWith register r s = (r', none)) ↔
      (Entries.names s).Nodup ∧ (∀ d ∈ s, Fits d.1 d.2) ∧
        ∀ name ∈ Entries.names s, holds r name = false := by
  induction s generalizing r with
  | nil => exact ⟨fun _ => ⟨List.nodup_nil, by simp, by simp⟩, fun _ => ⟨r, rfl⟩⟩
  | cons first rest ih =>
      obtain ⟨name, d⟩ := first
      rw [loadWith, Entries.names_cons, List.nodup_cons, List.forall_mem_cons,
        List.forall_mem_cons]
      cases hreg : register r name d with
      | error refusal =>
          refine ⟨fun ⟨_, hload⟩ => (by cases hload), fun ⟨_, ⟨hfits, _⟩, hnew, _⟩ => ?_⟩
          obtain ⟨r₁, hok⟩ := h.ok_iff.mpr ⟨hnew, hfits⟩
          rw [hreg] at hok
          cases hok
      | ok r₁ =>
          obtain ⟨hnew, hfits⟩ := h.ok_iff.mp ⟨r₁, hreg⟩
          have hholds : ∀ other, holds r₁ other = false ↔ other ≠ name ∧ holds r other = false := by
            intro other
            have hiff := h.holds_ok hreg other
            rw [← Bool.not_eq_true, hiff, not_or, Bool.not_eq_true]
          simp only [ih, hholds]
          constructor
          · rintro ⟨hdistinct, hrest, hapart⟩
            exact ⟨⟨fun hmem => (hapart name hmem).1 rfl, hdistinct⟩, ⟨hfits, hrest⟩, hnew,
              fun other hmem => (hapart other hmem).2⟩
          · rintro ⟨⟨hfresh, hdistinct⟩, ⟨-, hrest⟩, -, hunheld⟩
            refine ⟨hdistinct, hrest, fun other hmem => ⟨?_, hunheld other hmem⟩⟩
            rintro rfl
            exact hfresh hmem

/-- What is refused first: everything in front of it would go through by itself, and it has a
fault, given whether its name is one of those in front of it. -/
theorem loadWith_error_iff (h : Registers register holds Fits)
    (Faulty : Prop → String → δ → ε → Prop)
    (hfaulty : ∀ r name d e, register r name d = .error e ↔ Faulty (holds r name = true) name d e)
    (hempty : ∀ name, holds r name = false) :
    (loadWith register r s).2 = some e ↔
      ∃ before name d after, s = before ++ (name, d) :: after ∧
        ((Entries.names before).Nodup ∧ ∀ d ∈ before, Fits d.1 d.2) ∧
        Faulty (name ∈ Entries.names before) name d e := by
  have hnames : ∀ {before r'}, loadWith register r before = (r', none) →
      ∀ name, (holds r' name = true) = (name ∈ Entries.names before) := by
    intro before r' hloaded name
    refine propext ((h.holds_loadWith hloaded name).trans ?_)
    simp [hempty]
  rw [loadWith_stops_iff]
  constructor
  · rintro ⟨before, name, d, after, r', hs, hloaded, hrefused⟩
    obtain ⟨hdistinct, hfits, -⟩ := h.loadWith_ok_iff.mp ⟨r', hloaded⟩
    rw [hfaulty, hnames hloaded] at hrefused
    exact ⟨before, name, d, after, hs, ⟨hdistinct, hfits⟩, hrefused⟩
  · rintro ⟨before, name, d, after, hs, ⟨hdistinct, hfits⟩, hfault⟩
    obtain ⟨r', hloaded⟩ := h.loadWith_ok_iff.mpr ⟨hdistinct, hfits, fun name _ => hempty name⟩
    refine ⟨before, name, d, after, r', hs, hloaded, ?_⟩
    rw [hfaulty, hnames hloaded]
    exact hfault

end Registers

/-! ## Registrations -/

/-- Why a table is refused: because its name is registered already, else for a fault of its own. -/
inductive Refused (taken : Prop) (table : String) (Faulty : SchemaError → Prop) :
    SchemaError → Prop
  | registered (htaken : taken) : Refused taken table Faulty (.duplicateTable table)
  | faulty {fault : SchemaError} (hnew : ¬ taken) (hfault : Faulty fault) :
      Refused taken table Faulty fault

/-- A registration looks at the name first, then at what is declared. -/
theorem refused_iff {α β : Type} {taken : Bool} {table : String} {compiled : Except SchemaError α}
    {store : α → β} {Faulty : SchemaError → Prop}
    (hfaulty : ∀ e, compiled = .error e ↔ Faulty e) {fault : SchemaError} :
    (if taken then .error (.duplicateTable table) else compiled.map store) = .error fault ↔
      Refused (taken = true) table Faulty fault := by
  split
  · next htaken =>
      constructor
      · intro h
        obtain rfl := Except.error.inj h
        exact .registered htaken
      · rintro (_ | ⟨hnew, -⟩)
        · rfl
        · exact absurd htaken hnew
  · next hnew =>
      constructor
      · intro h
        refine .faulty hnew ((hfaulty fault).mp ?_)
        cases compiled with
        | error e => rw [Except.error.inj h]
        | ok t => cases h
      · rintro (htaken | ⟨-, hfault⟩)
        · exact absurd htaken hnew
        · rw [(hfaulty fault).mpr hfault]
          rfl

/-! ## Registries -/

/-- How a registry takes in declarations. One declaration is compiled under its name, if the name
is free; those of a schema are registered in order, up to the first one that is refused. -/
structure Intake (τ δ : Type) where
  compile : String → δ → Except SchemaError τ
  register : KeyMap τ → String → δ → Except SchemaError (KeyMap τ)
  load : KeyMap τ → List (String × δ) → KeyMap τ × Option SchemaError
  register_eq : ∀ r name d, register r name d =
    if r.contains name then .error (.duplicateTable name)
    else (compile name d).map (r.insert name)
  load_eq : ∀ r s, load r s = loadWith register r s

namespace Intake

variable {τ : Type} {i : Intake τ δ} {r r' : KeyMap τ} {name : String} {d : δ}

theorem register_ok_iff :
    i.register r name d = .ok r' ↔
      r.contains name = false ∧ ∃ t, i.compile name d = .ok t ∧ r' = r.insert name t := by
  rw [i.register_eq]
  split
  · next hthere => simp [hthere]
  · next hnew =>
      rw [Bool.eq_false_iff.mpr hnew]
      cases i.compile name d with
      | error e => simp [Except.map]
      | ok t => simp [Except.map, eq_comm]

theorem contains_insert (r : KeyMap τ) (name other : String) (t : τ) :
    (r.insert name t).contains other = true ↔ other = name ∨ r.contains other = true := by
  by_cases heq : name = other
  · simp [KeyMap.contains, heq]
  · simp [KeyMap.contains, heq, Ne.symm heq]

/-- What can be compiled is what a registration accepts under a free name. -/
theorem registers {Fits : String → δ → Prop}
    (hfits : ∀ name d, (∃ t, i.compile name d = .ok t) ↔ Fits name d) :
    Registers i.register (fun r name => r.contains name) Fits where
  ok_iff := by
    intro r name d
    simp only [register_ok_iff, ← hfits]
    constructor
    · rintro ⟨_, hnew, t, hcompile, -⟩
      exact ⟨hnew, t, hcompile⟩
    · rintro ⟨hnew, t, hcompile⟩
      exact ⟨_, hnew, t, hcompile, rfl⟩
  holds_ok := by
    intro r r' name d h other
    obtain ⟨-, t, -, rfl⟩ := register_ok_iff.mp h
    exact contains_insert r name other t

end Intake

end RowAccess
