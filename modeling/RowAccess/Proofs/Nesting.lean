import RowAccess.Engine
import RowAccess.Scope

/-!
# Which request is installed

A program keeps the installed request in one slot that it overwrites and
puts back. What should stand in the slot can be read off the text of the
program: `Program.marked` writes next to every action the requests that
are installed around it. `Program.run_marked` says that the slot agrees
with the text, crashes included: an action is run as if it were handed
the innermost of the requests next to it.

The restoration of the slot, `Program.slot_run`, is what carries the
induction past a body that has been left. `Engine.installed_is_innermost`
puts the calls that find their request by themselves on top.
-/

namespace RowAccess

namespace Program

variable {ι σ α : Type}

/-! ## Marks -/

mutual
/-- The program with the requests around each action, the innermost first. What is installed on one
thread is not around the actions of another. -/
def marked (around : List Request) : Program ι → Program (List Request × ι)
  | .action a => .action (around, a)
  | .within request body => .within request (markedAll (request :: around) body)
  | .catching body => .catching (markedAll around body)
  | .thread body => .thread (markedAll [] body)
  | .crash c => .crash c
termination_by structural p => p

def markedAll (around : List Request) : List (Program ι) → List (Program (List Request × ι))
  | [] => []
  | p :: rest => marked around p :: markedAll around rest
termination_by structural ps => ps
end

/-- The actions, each handed the innermost request next to it in place of the slot. -/
def byMark (act : Option Request → σ → ι → σ × List α) :
    Option Request → σ → List Request × ι → σ × List α :=
  fun _ state q => act q.1.head? state q.2

variable (act : Option Request → σ → ι → σ × List α)

/-! ## Restoration -/

mutual
/-- A program leaves the slot as it was, also when a crash leaves it. -/
theorem slot_run : ∀ (p : Program ι) (r : Run σ α), (run act p r).1.slot = r.slot
  | .action _, _ => by rw [run]
  | .within _ _, _ => by rw [run]
  | .catching body, r => by
      rw [run]
      exact slot_runAll body r
  | .thread _, _ => by rw [run]
  | .crash _, _ => by rw [run]
termination_by structural p => p

theorem slot_runAll : ∀ (ps : List (Program ι)) (r : Run σ α), (runAll act ps r).1.slot = r.slot
  | [], _ => by rw [runAll]
  | p :: rest, r => by
      have hfirst := slot_run p r
      rw [runAll]
      cases hp : run act p r with
      | mk after stopped =>
          rw [hp] at hfirst
          cases stopped with
          | some c => exact hfirst
          | none => exact (slot_runAll rest after).trans hfirst
termination_by structural ps => ps
end

/-! ## The slot agrees with the marks -/

mutual
theorem run_marked : ∀ (p : Program ι) (around : List Request) (r : Run σ α),
    r.slot = around.head? → run (byMark act) (marked around p) r = run act p r
  | .action a, around, r, h => by
      rw [marked, run, run, byMark, h]
  | .within request body, around, r, _ => by
      rw [marked, run, run, runAll_marked body (request :: around) _ rfl]
  | .catching body, around, r, h => by
      rw [marked, run, run, runAll_marked body around r h]
  | .thread body, _, r, _ => by
      rw [marked, run, run, runAll_marked body [] _ rfl]
  | .crash _, _, _, _ => by
      rw [marked, run, run]
termination_by structural p => p

theorem runAll_marked : ∀ (ps : List (Program ι)) (around : List Request) (r : Run σ α),
    r.slot = around.head? → runAll (byMark act) (markedAll around ps) r = runAll act ps r
  | [], _, _, _ => by
      rw [markedAll, runAll, runAll]
  | p :: rest, around, r, h => by
      rw [markedAll, runAll, runAll, run_marked p around r h]
      have hslot := slot_run act p r
      cases hp : run act p r with
      | mk after stopped =>
          rw [hp] at hslot
          cases stopped with
          | some c => rfl
          | none => exact runAll_marked rest around after (hslot.trans h)
termination_by structural ps => ps
end

/-- A crash that is caught between two levels brings back the outer request, not the inner one. A
new thread has none, and leaves the outer request where it is. -/
example (outer inner : Request) (c : Crash) :
    (runAll (fun slot (_ : Unit) (_ : Unit) => ((), [slot]))
      [.within outer [.catching [.within inner [.action (), .crash c]], .thread [.action ()],
        .action ()], .action ()]
      ⟨none, (), []⟩).1.seen =
      [.answer (some inner), .caught true, .answer none, .answer (some outer), .answer none] := rfl

end Program

/-! ## Calls that find their request -/

/-- A call that is not handed a request. -/
inductive Ask where
  | current
  | evaluate (table : String) (op : Operation) (row : Option Row)
  | maskRow (table : String) (row : Row) (o : MaskOptions)

inductive Reply where
  | current (request : Option Request)
  | decision (r : Except AccessError Decision)
  | masked (r : Except AccessError MaskedRow)

namespace Engine

/-- The reply to a call when the slot is filled like this. -/
def reply (e : Engine) (slot : Option Request) : Ask → Report Reply
  | .current => .pure (.current slot)
  | .evaluate table op row => (e.evaluateInstalled slot table op row).map .decision
  | .maskRow table row o => (e.maskRowInstalled slot table row o).map .masked

/-- The caller without a user id, roles, a tenant or anything else, who is not trusted. -/
def nobody : Caller :=
  { userId := "", tenantId := none, roles := KeyMap.empty, isSystem := false, organizations := none
    permissions := KeyMap.empty, attributes := KeyMap.empty }

/-- Who calls, and with which attached data, given the requests around the call. -/
def caller? (e : Engine) : List Request → Except AccessError (Caller × Option Value)
  | r :: _ => .ok (r.caller, r.attached)
  | [] => if e.settings.engine.requireContext then .error .noContext else .ok (nobody, none)

/-- The reply that a call should get, given the requests around it: that of the call which is
handed a context with the innermost of them. -/
def replyWithin (e : Engine) (around : List Request) : Ask → Report Reply
  | .current => .pure (.current around.head?)
  | .evaluate table op row =>
    match e.caller? around with
    | .error err => .pure (.decision (.error err))
    | .ok (caller, attached) =>
      (e.evaluator.evaluate table op
        { caller, table, operation := op, row, data := none, attached }).map (.decision ∘ .ok)
  | .maskRow table row o =>
    match e.caller? around with
    | .error err => .pure (.masked (.error err))
    | .ok (caller, attached) =>
      (e.fields.maskRow table row
        { caller, table, operation := .read, row := none, data := none, attached } o).map
          (.masked ∘ .ok)

/-- Calls as actions of a program: the notes are kept as the state, the replies are observed. -/
def hear (reply : Ask → Report Reply) (kept : Report Unit) (ask : Ask) :
    Report Unit × List Reply :=
  let r := reply ask
  (kept.andThen fun _ => r.map fun _ => (), [r.result])

theorem installed?_head? (e : Engine) (around : List Request) :
    e.installed? around.head? = (e.caller? around).map fun c => ⟨c.1, c.2⟩ := by
  cases around with
  | cons r rest => rfl
  | nil =>
      rw [List.head?_nil, installed?, caller?]
      split <;> rfl

theorem reply_head? (e : Engine) (around : List Request) (ask : Ask) :
    e.reply around.head? ask = e.replyWithin around ask := by
  cases ask with
  | current => rfl
  | evaluate table op row =>
      rw [reply, replyWithin, evaluateInstalled, installed?_head?]
      cases e.caller? around <;> rfl
  | maskRow table row o =>
      rw [reply, replyWithin, maskRowInstalled, installed?_head?]
      cases e.caller? around <;> rfl

/-- However installations, crashes, catches and threads are nested, and whatever the actions do: an
action sees the innermost request that is installed around it on its thread, a program leaves the
slot as it found it, and a call gets the reply that it would get if it were handed that request.
Without a request around it a call is refused if one is required, and else is a call of nobody. -/
theorem installed_is_innermost (e : Engine) (around : List Request) :
    (∀ {ι σ α : Type} (act : Option Request → σ → ι → σ × List α) (ps : List (Program ι))
        (state : σ) (seen : List (Observation α)),
      let start : Run σ α := ⟨around.head?, state, seen⟩
      Program.runAll act ps start =
          Program.runAll (Program.byMark act) (Program.markedAll around ps) start ∧
        (Program.runAll act ps start).1.slot = around.head?) ∧
    ∀ (ps : List (Program Ask)) (kept : Report Unit) (seen : List (Observation Reply)),
      let start : Run (Report Unit) Reply := ⟨around.head?, kept, seen⟩
      Program.runAll (fun slot => hear (e.reply slot)) ps start =
        Program.runAll (fun _ kept q => hear (e.replyWithin q.1) kept q.2)
          (Program.markedAll around ps) start := by
  have hmarked : ∀ {ι σ α : Type} (act : Option Request → σ → ι → σ × List α)
      (ps : List (Program ι)) (state : σ) (seen : List (Observation α)),
      Program.runAll act ps ⟨around.head?, state, seen⟩ =
        Program.runAll (Program.byMark act) (Program.markedAll around ps)
          ⟨around.head?, state, seen⟩ :=
    fun act ps state seen => (Program.runAll_marked act ps around _ rfl).symm
  refine ⟨fun act ps state seen => ⟨hmarked act ps state seen, Program.slot_runAll act ps _⟩,
    fun ps kept seen => ?_⟩
  have hreplies : Program.byMark (fun slot => hear (e.reply slot)) =
      fun _ kept q => hear (e.replyWithin q.1) kept q.2 := by
    funext slot kept q
    have hreply : e.reply q.1.head? = e.replyWithin q.1 := funext (reply_head? e q.1)
    rw [Program.byMark, hreply]
  rw [← hreplies]
  exact hmarked _ ps kept seen

end Engine

end RowAccess
