import RowAccess.Instant
import RowAccess.KeyMap
import RowAccess.Outcome
import RowAccess.Value

/-!
# Activation

Whether a policy takes part at all may depend on where and when the rules run: on the
environment, on features, on the hour of the day, or on a condition of the host. A
policy is wrapped in such restrictions one after the other; all of them have to hold,
and the one put on first is asked first.
-/

namespace RowAccess

/-! ## Features -/

/-- Feature flags: names with any value, a flag being on when its value counts as true. -/
abbrev Features := KeyMap Value

namespace Features

/-- The named features, switched on. -/
def ofEnabled (names : List String) : Features :=
  KeyMap.ofList (names.map fun n => (n, Value.bool true))

def isEnabled (f : Features) (name : String) : Bool :=
  match KeyMap.find? f name with
  | some v => v.isTruthy
  | none => false

end Features

/-! ## Moments -/

/-- Where and when rules are applied. -/
structure Moment where
  environment : String
  features : Features
  time : Instant

namespace Moment

def hour (m : Moment) : Nat := m.time.hour

end Moment

/-- A source of the time: one fixed instant, or the reading of the clock of the host. -/
inductive Clock where
  | fixed (time : Instant)
  | host (reading : Instant)
  deriving DecidableEq, Repr

namespace Clock

def now : Clock → Instant
  | .fixed t => t
  | .host t => t

end Clock

/-! ## Restrictions -/

/-- A condition on the moment. It may crash. -/
abbrev Condition := Moment → Attempt Bool

namespace Condition

/-- Both conditions; the second one is asked only when the first one holds. -/
def both (first second : Condition) : Condition := fun m =>
  match first m with
  | .ok true => second m
  | r => r

/-- The condition, after the one that is there already. -/
def after (existing : Option Condition) (c : Condition) : Condition :=
  match existing with
  | some first => both first c
  | none => c

end Condition

/-- Whether an hour lies in the window from `start` up to before `stop`. A window that starts
later than it stops runs past midnight; one that starts when it stops is empty. -/
def hourInWindow (hour start stop : Nat) : Bool :=
  if start ≤ stop then start ≤ hour && hour < stop else start ≤ hour || hour < stop

/-- One restriction on the activity of a policy. -/
inductive Restriction where
  /-- Only in one of the environments. -/
  | environment (names : List String)
  /-- Only while the feature is on. -/
  | feature (name : String)
  /-- Only during the hours of the window. -/
  | hours (start stop : Fin 24)
  /-- Only while the condition holds. -/
  | condition (c : Condition)

namespace Restriction

/-- The restriction to a window of hours; an hour past 23 is refused by a crash. -/
def ofHours (start stop : Nat) : Attempt Restriction :=
  if h : start < 24 ∧ stop < 24 then .ok (.hours ⟨start, h.1⟩ ⟨stop, h.2⟩)
  else
    .error ⟨some ("time range hours must be 0..=23, got " ++ toString start ++ ".." ++
      toString stop)⟩

def holds : Restriction → Condition
  | .environment names => fun m => .ok (names.contains m.environment)
  | .feature name => fun m => .ok (m.features.isEnabled name)
  | .hours start stop => fun m => .ok (hourInWindow m.hour start stop)
  | .condition c => c

end Restriction

end RowAccess
