import RowAccess.Context
import RowAccess.Outcome

/-!
# Installed requests

Code that cannot be handed a request finds the one that is installed around it. A
program installs a request for the extent of a body; the request that was installed
before is put back when the body is left, also when it is left by a crash. Each thread
has a slot of its own, and nothing is installed in a new one.

`Program.run` keeps the installed request in one slot that is overwritten and put back.
The slot is what actions see; what stands in it at each point is a theorem, not part of
the definition.
-/

namespace RowAccess

/-- A program over actions of the host. -/
inductive Program (ι : Type) where
  | action (a : ι)
  /-- Runs the body with a request installed. -/
  | within (request : Request) (body : List (Program ι))
  /-- Runs the body and stops a crash that leaves it. -/
  | catching (body : List (Program ι))
  /-- Runs the body on a new thread and waits for it. A crash that ends the thread is handed on. -/
  | thread (body : List (Program ι))
  | crash (c : Crash)

instance {ι : Type} : Inhabited (Program ι) := ⟨.crash default⟩

/-- What a program shows of itself. -/
inductive Observation (α : Type) where
  /-- The answer of an action. -/
  | answer (a : α)
  /-- A body was left; whether by a crash. -/
  | caught (crashed : Bool)

/-- Where a program stands: the installed request, the state of the host, and what has been
observed, in order. -/
structure Run (σ α : Type) where
  slot : Option Request
  state : σ
  seen : List (Observation α)

namespace Program

variable {ι σ α : Type}

mutual
/-- Runs a program; a crash that leaves it is the second part of the result. -/
def run (act : Option Request → σ → ι → σ × List α) : Program ι → Run σ α → Run σ α × Option Crash
  | .action a, r =>
    let (state, answers) := act r.slot r.state a
    ({ r with state, seen := r.seen ++ answers.map .answer }, none)
  | .within request body, r =>
    let (after, stopped) := runAll act body { r with slot := some request }
    ({ after with slot := r.slot }, stopped)
  | .catching body, r =>
    let (after, stopped) := runAll act body r
    ({ after with seen := after.seen ++ [.caught stopped.isSome] }, none)
  | .thread body, r =>
    let (after, stopped) := runAll act body { r with slot := none }
    ({ after with slot := r.slot }, stopped)
  | .crash c, r => (r, some c)
termination_by structural p => p

/-- Runs programs one after the other up to the first crash. -/
def runAll (act : Option Request → σ → ι → σ × List α) :
    List (Program ι) → Run σ α → Run σ α × Option Crash
  | [], r => (r, none)
  | p :: rest, r =>
    match run act p r with
    | (after, none) => runAll act rest after
    | (after, some c) => (after, some c)
termination_by structural ps => ps
end

end Program

end RowAccess
