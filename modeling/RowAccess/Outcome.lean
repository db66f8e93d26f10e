/-!
# Outcomes

Policy functions are supplied by the host, so each call may go wrong in two ways: the
function may report that it failed, or it may crash. A crash is contained where the
function is called and becomes an ordinary failure; `Outcome.contain` is the only place
that does so for policies.
-/

namespace RowAccess

/-- What a crash carries: a message, or something that is no text. -/
structure Crash where
  text : Option String
  deriving DecidableEq, Repr, Inhabited

namespace Crash

def report (c : Crash) : String :=
  match c.text with
  | some s => "panicked: " ++ s
  | none => "panicked"

def message (c : Crash) : String := c.text.getD "panicked"

end Crash

/-- What a call of a policy function comes to. -/
inductive Outcome (α : Type) where
  | value (a : α)
  | failed (message : String)
  | crashed (crash : Crash)
  deriving DecidableEq, Repr

namespace Outcome

variable {α : Type}

/-- The result of a call, a crash turned into a failure with its report. -/
def contain : Outcome α → Except String α
  | .value a => .ok a
  | .failed m => .error m
  | .crashed c => .error c.report

def map {β : Type} (f : α → β) : Outcome α → Outcome β
  | .value a => .value (f a)
  | .failed m => .failed m
  | .crashed c => .crashed c

def bind {β : Type} (x : Outcome α) (f : α → Outcome β) : Outcome β :=
  match x with
  | .value a => f a
  | .failed m => .failed m
  | .crashed c => .crashed c

instance : Monad Outcome where
  pure := .value
  bind := bind

end Outcome

/-- A call that yields a value or crashes; it has no failure of its own. -/
abbrev Attempt (α : Type) := Except Crash α

end RowAccess
