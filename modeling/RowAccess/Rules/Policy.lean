import RowAccess.Registry
import RowAccess.Rules.Filter

/-!
# Written policies

Policies, the restrictions on them, and the row rules of tables, read from documents.
-/

namespace RowAccess

/-- Why a rule cannot be read. -/
inductive RuleFault where
  | unknownOperation (name : String)
  /-- Putting the rule together crashed. -/
  | crashed (crash : Crash)
  /-- A part of the rule is missing or of the wrong kind. -/
  | malformed
  /-- A value inside the rule cannot be read. -/
  | unreadable
  deriving DecidableEq, Repr

namespace Operation

/-- The operation that a caller names, or the fault. -/
def parse (name : String) : Except RuleFault Operation :=
  match parse? name with
  | some op => .ok op
  | none => .error (.unknownOperation name)

/-- The operations that a policy is declared for: one name or several. -/
def parseAll (v : Value) : Except RuleFault (List Operation) :=
  match v with
  | .array _ => v.texts.mapM parse
  | v => (parse v.textOrEmpty).map fun op => [op]

end Operation

namespace Condition

def featureIs (name : String) (v : Value) : Condition := fun m =>
  .ok ((m.features.find? name).any fun w => w.same v)

def ofValue? : Value → Option Condition
  | .bool b => some fun _ => .ok b
  | .object [("feature_eq", arg)] =>
    some (featureIs (arg.argumentAt 0).textOrEmpty (arg.argumentAt 1))
  | .object [("hour", n)] => some fun m => .ok (n.natural? == some m.hour)
  | .object [("no_features", b)] => some fun m => .ok (b.bool? == some m.features.isEmpty)
  | v => (Crash.ofValue? v).map fun crash => fun _ => .error crash

end Condition

namespace Restriction

def ofValue (v : Value) : Except RuleFault Restriction :=
  match v with
  | .object [("environment", names)] => .ok (.environment names.texts)
  | .object [("feature", name)] => .ok (.feature name.textOrEmpty)
  | .object [("time_range", window)] =>
    match (window.argumentAt 0).natural?, (window.argumentAt 1).natural? with
    | some start, some stop => (ofHours start stop).mapError .crashed
    | _, _ => .error .malformed
  | .object [("condition", c)] =>
    match Condition.ofValue? c with
    | some c => .ok (.condition c)
    | none => .error .malformed
  | _ => .error .malformed

end Restriction

namespace PolicyBody

/-- The body of a policy of a kind: a check, or a filter. -/
def ofValue (kind : PolicyKind) (v : Value) : PolicyBody :=
  let check := (Check.ofValue (v.argument "if")).predicate
  match kind with
  | .allow => .allow check
  | .deny => .deny check
  | .validate => .validate check
  | .filter => .filter (FilterRule.ofValue (v.argument "filter")).function

end PolicyBody

namespace Policy

/-- An integer argument; zero if there is none. -/
def priorityOf (v : Value) : Int :=
  match v with
  | .number (.integer n) => n
  | _ => 0

def ofValue (v : Value) : Except RuleFault Policy := do
  let operations ← Operation.parseAll (v.argument "ops")
  let kind ← match PolicyKind.ofName? (v.argument "kind").textOrEmpty with
    | some kind => Except.ok kind
    | none => .error .malformed
  let restrictions ← ((v.argument "when").items?.getD []).mapM Restriction.ofValue
  let policy : Policy :=
    { name := (v.argument "name").textOrEmpty, operations
      priority := priorityOf (v.argument "priority")
      body := PolicyBody.ofValue kind v, activation := none, hints := v.get? "hints" }
  return policy.restrictAll restrictions

end Policy

namespace TableRules

def ofValue (v : Value) : Except RuleFault TableRules := do
  let policies ← ((v.argument "policies").items?.getD []).mapM Policy.ofValue
  return { policies, defaultDeny := (v.argument "default_deny").bool?.getD false
           exempt := NameSet.ofList (v.argument "skip_for").texts }

end TableRules

namespace Schema

/-- The row rules that a document lists, as pairs of a table and its rules. -/
def ofValue (v : Value) : Except RuleFault Schema :=
  (v.items?.getD []).mapM fun e =>
    (TableRules.ofValue (e.argumentAt 1)).map fun rules => ((e.argumentAt 0).textOrEmpty, rules)

end Schema

end RowAccess
