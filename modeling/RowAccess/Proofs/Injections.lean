import RowAccess.Resolver

/-!
# Attached data

What was resolved for a caller is attached to the request under a name,
one name after the other. `Entries.Gains` says what this does to data that
is an object: the value of the name changes in its place, or the name is
new and comes last, and nothing else moves. Data that is no object makes
room for an object with that one name.

An injection that fails leaves the request as it was, so that only the
injections that went through count: `injections_framed` follows the
value of a name through a whole sequence of them, from the one that set
it last (`injectAll_set`) or from the beginning (`injectAll_unset`).
-/

namespace RowAccess

/-! ## One name among entries -/

namespace Entries

variable {α : Type} {name : String} {v : α}

/-- The second list is the first one with a value under the name: in place of the value that the
name had, or behind all others. -/
inductive Gains (name : String) (v : α) : List (String × α) → List (String × α) → Prop
  | replaced {front back : List (String × α)} {old : α} (hfront : name ∉ names front) :
    Gains name v (front ++ (name, old) :: back) (front ++ (name, v) :: back)
  | added {es : List (String × α)} (hnew : name ∉ names es) : Gains name v es (es ++ [(name, v)])

theorem Gains.behind {e : String × α} {es es' : List (String × α)} (hne : e.1 ≠ name)
    (h : Gains name v es es') : Gains name v (e :: es) (e :: es') := by
  have hapart : ∀ {front : List (String × α)}, name ∉ names front →
      name ∉ names (e :: front) := by
    intro front hfront hmem
    rcases List.mem_cons.mp hmem with heq | hmem
    · exact hne heq.symm
    · exact hfront hmem
  cases h with
  | @replaced front back old hfront =>
      show Gains name v ((e :: front) ++ (name, old) :: back) ((e :: front) ++ (name, v) :: back)
      exact .replaced (hapart hfront)
  | added hnew => exact .added (hapart hnew)

theorem gains_put (es : List (String × α)) (name : String) (v : α) :
    Gains name v es (put es name v) := by
  induction es with
  | nil => exact .added List.not_mem_nil
  | cons e rest ih =>
      obtain ⟨k, old⟩ := e
      rw [put]
      split
      · next heq =>
          subst heq
          show Gains k v ([] ++ (k, old) :: rest) ([] ++ (k, v) :: rest)
          exact .replaced List.not_mem_nil
      · next hne => exact .behind hne ih

end Entries

/-! ## One injection -/

namespace Request

variable {r r' : Request} {name k : String} {v : Value} {table : String} {op : Operation}

/-- What a policy finds under a name when it is asked about a table and an operation. -/
theorem attachedValue?_ofRequest (r : Request) (table : String) (op : Operation) (name : String) :
    (Context.ofRequest r table op).attachedValue? name = r.attached.bind fun v => v.get? name :=
  rfl

/-- The second request is the first one with a value attached under the name. -/
structure Attaches (r : Request) (name : String) (v : Value) (r' : Request) : Prop where
  caller : r'.caller = r.caller
  seen : ∀ table op, (Context.ofRequest r' table op).attachedValue? name = some v
  others : ∀ table op k, k ≠ name → (Context.ofRequest r' table op).attachedValue? k =
    (Context.ofRequest r table op).attachedValue? k
  kept : ∀ es, r.attached = some (.object es) →
    ∃ es', r'.attached = some (.object es') ∧ Entries.Gains name v es es'
  replaced : (∀ es, r.attached ≠ some (.object es)) → r'.attached = some (.object [(name, v)])

theorem attach_of_object {es : List (String × Value)} (h : r.attached = some (.object es))
    (name : String) (v : Value) :
    r.attach name v = ⟨r.caller, some (.object (Entries.put es name v))⟩ := by
  rw [attach, h]

theorem attach_of_not_object (h : ∀ es, r.attached ≠ some (.object es)) (name : String)
    (v : Value) : r.attach name v = ⟨r.caller, some (.object [(name, v)])⟩ := by
  rw [attach]
  split
  · next es hes => exact absurd hes (h es)
  · rfl

theorem attachedValue?_of_not_object (h : ∀ es, r.attached ≠ some (.object es)) :
    (r.attached.bind fun v => v.get? k) = none := by
  cases hdata : r.attached with
  | none => rfl
  | some data =>
      cases data with
      | object es => exact absurd hdata (h es)
      | null | bool _ | number _ | string _ | array _ => rfl

theorem attaches_attach (r : Request) (name : String) (v : Value) :
    r.Attaches name v (r.attach name v) := by
  by_cases hobject : ∃ es, r.attached = some (.object es)
  · obtain ⟨es, hes⟩ := hobject
    rw [attach_of_object hes]
    refine ⟨rfl, fun table op => ?_, fun table op k hk => ?_, fun es' hes' => ?_,
      fun hnone => absurd hes (hnone es)⟩
    · rw [attachedValue?_ofRequest]
      exact (Entries.find?_put es name v name).trans (if_pos rfl)
    · rw [attachedValue?_ofRequest, attachedValue?_ofRequest, hes]
      exact (Entries.find?_put es name v k).trans (if_neg (Ne.symm hk))
    · obtain rfl : es = es' := Value.object.inj (Option.some.inj (hes.symm.trans hes'))
      exact ⟨_, rfl, Entries.gains_put es name v⟩
  · have hnone := not_exists.mp hobject
    rw [attach_of_not_object hnone]
    refine ⟨rfl, fun table op => ?_, fun table op k hk => ?_, fun es hes => absurd hes (hnone es),
      fun _ => rfl⟩
    · exact if_pos rfl
    · rw [attachedValue?_ofRequest, attachedValue?_ofRequest, attachedValue?_of_not_object hnone]
      exact if_neg (Ne.symm hk)

end Request

/-! ## Sequences of injections -/

/-- A call that attaches data under a name: whatever a look-up for the caller comes to by then. -/
structure Injection where
  name : String
  lookUp : Caller → Except ResolverError Value

namespace Injection

/-- The request after the call. -/
def perform (i : Injection) (r : Request) : Request := (r.inject i.name (i.lookUp r.caller)).1

/-- The look-up fails, and the call with it. -/
def Fails (i : Injection) (c : Caller) : Prop := ∃ e, i.lookUp c = .error e

variable {i : Injection} {r : Request} {v : Value}

theorem perform_of_ok (h : i.lookUp r.caller = .ok v) : i.perform r = r.attach i.name v := by
  rw [perform, h]
  rfl

theorem perform_of_fails (h : i.Fails r.caller) : i.perform r = r := by
  obtain ⟨e, he⟩ := h
  rw [perform, he]
  rfl

theorem caller_perform (i : Injection) (r : Request) : (i.perform r).caller = r.caller := by
  cases h : i.lookUp r.caller with
  | ok v =>
      rw [perform_of_ok h]
      exact (Request.attaches_attach r i.name v).caller
  | error e => rw [perform_of_fails ⟨e, h⟩]

/-- A call changes no value but that of its own name, and that one only if it goes through. -/
theorem attachedValue?_perform {k : String} (h : i.name = k → i.Fails r.caller) (table : String)
    (op : Operation) :
    (Context.ofRequest (i.perform r) table op).attachedValue? k =
      (Context.ofRequest r table op).attachedValue? k := by
  cases hresult : i.lookUp r.caller with
  | error e => rw [perform_of_fails ⟨e, hresult⟩]
  | ok v =>
      have hne : k ≠ i.name := by
        rintro rfl
        obtain ⟨e, he⟩ := h rfl
        rw [hresult] at he
        cases he
      rw [perform_of_ok hresult, (Request.attaches_attach r i.name v).others table op k hne]

end Injection

namespace Request

variable {r : Request} {calls : List Injection}

/-- The request after some calls, one after the other, whatever becomes of each of them. -/
def injectAll (r : Request) : List Injection → Request
  | [] => r
  | i :: rest => injectAll (i.perform r) rest

theorem caller_injectAll (r : Request) (calls : List Injection) :
    (injectAll r calls).caller = r.caller := by
  induction calls generalizing r with
  | nil => rfl
  | cons i rest ih => rw [injectAll, ih, i.caller_perform]

theorem injectAll_append (r : Request) (calls later : List Injection) :
    injectAll r (calls ++ later) = injectAll (injectAll r calls) later := by
  induction calls generalizing r with
  | nil => rfl
  | cons i rest ih => exact ih (i.perform r)

/-- A name keeps what it has as long as every call for it fails. -/
theorem injectAll_unset {k : String} (h : ∀ i ∈ calls, i.name = k → i.Fails r.caller)
    (table : String) (op : Operation) :
    (Context.ofRequest (injectAll r calls) table op).attachedValue? k =
      (Context.ofRequest r table op).attachedValue? k := by
  induction calls generalizing r with
  | nil => rfl
  | cons i rest ih =>
      obtain ⟨hi, hrest⟩ := List.forall_mem_cons.mp h
      rw [← i.caller_perform r] at hrest
      rw [injectAll, ih hrest, Injection.attachedValue?_perform hi]

/-- A name has the value of the last call for it that went through. -/
theorem injectAll_set {front back : List Injection} {i : Injection} {v : Value}
    (hi : i.lookUp r.caller = .ok v) (hback : ∀ j ∈ back, j.name = i.name → j.Fails r.caller)
    (table : String) (op : Operation) :
    (Context.ofRequest (injectAll r (front ++ i :: back)) table op).attachedValue? i.name =
      some v := by
  have hcaller : (injectAll r front).caller = r.caller := caller_injectAll r front
  rw [← hcaller] at hi
  rw [← hcaller, ← i.caller_perform] at hback
  rw [injectAll_append, injectAll, injectAll_unset hback, Injection.perform_of_ok hi]
  exact (attaches_attach _ _ _).seen table op

/-- An injection that fails leaves the request as it is. One that goes through keeps the caller and
attaches the value under its name; data that was an object keeps everything else in its place, and
data that was none gives way. After a sequence of injections the caller is the same, and under a
name stands the value of the last one for it that went through, or what stood there before if
none did. -/
theorem injections_framed (r : Request) :
    (∀ name e, r.inject name (.error e) = (r, .error e)) ∧
    (∀ name v, ∃ r', r.inject name (.ok v) = (r', .ok ()) ∧ r.Attaches name v r') ∧
    ∀ calls : List Injection,
      (injectAll r calls).caller = r.caller ∧
      (∀ front i back v, calls = front ++ i :: back → i.lookUp r.caller = .ok v →
        (∀ j ∈ back, j.name = i.name → j.Fails r.caller) → ∀ table op,
          (Context.ofRequest (injectAll r calls) table op).attachedValue? i.name = some v) ∧
      ∀ k, (∀ i ∈ calls, i.name = k → i.Fails r.caller) → ∀ table op,
        (Context.ofRequest (injectAll r calls) table op).attachedValue? k =
          (Context.ofRequest r table op).attachedValue? k := by
  refine ⟨fun name e => rfl, fun name v => ⟨_, rfl, attaches_attach r name v⟩, fun calls =>
    ⟨caller_injectAll r calls, ?_, fun k h table op => injectAll_unset h table op⟩⟩
  rintro front i back v rfl hi hback table op
  exact injectAll_set hi hback table op

/-! ### An office that is looked up -/

/-- A user for whom a team and a note are known already. -/
def officeRequest : Request :=
  ⟨Caller.user "u1", some (.object [("team", .string "old"), ("note", .bool true)])⟩

/-- The second look-up for the team fails, as does the one for a note. -/
def officeCalls : List Injection :=
  [⟨"team", fun _ => .ok (.string "blue")⟩, ⟨"note", fun _ => .error (.failed "down")⟩,
   ⟨"room", fun caller => .ok (.string caller.userId)⟩,
   ⟨"team", fun caller => .error (.unavailable caller.userId)⟩]

/-- The team is the one that was found and stands where the old one stood, the note is what it
was, and a list that is attached gives way to the first name. -/
theorem injections_framed_office :
    (injectAll officeRequest officeCalls).attached =
      some (.object [("team", .string "blue"), ("note", .bool true), ("room", .string "u1")]) ∧
    (Context.ofRequest (injectAll officeRequest officeCalls) "docs" .read).attachedValue? "team" =
      some (.string "blue") ∧
    (Context.ofRequest (injectAll officeRequest officeCalls) "docs" .read).attachedValue? "note" =
      (Context.ofRequest officeRequest "docs" .read).attachedValue? "note" ∧
    ∃ r', officeRequest.inject "room" (.ok .null) = (r', .ok ()) ∧
      officeRequest.Attaches "room" .null r' := by
  obtain ⟨-, hattach, hcalls⟩ := injections_framed officeRequest
  obtain ⟨-, hset, hunset⟩ := hcalls officeCalls
  refine ⟨rfl, hset [] _ officeCalls.tail _ rfl rfl (fun j hj hname => ?_) "docs" .read,
    hunset "note" (fun i hi hname => ?_) "docs" .read, hattach "room" .null⟩
  · rcases hj with _ | ⟨_, _ | ⟨_, _ | ⟨_, ⟨⟩⟩⟩⟩
    · exact ⟨_, rfl⟩
    · exact absurd hname (by decide)
    · exact ⟨_, rfl⟩
  · rcases hi with _ | ⟨_, _ | ⟨_, _ | ⟨_, _ | ⟨_, ⟨⟩⟩⟩⟩⟩
    · exact absurd hname (by decide)
    · exact ⟨_, rfl⟩
    · exact absurd hname (by decide)
    · exact ⟨_, rfl⟩

end Request

end RowAccess
