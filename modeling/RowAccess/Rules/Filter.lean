import RowAccess.Rules.Check

/-!
# Written filters

The function of a filter policy, written down: a template for the conditions, or a choice
between two by a check.
-/

namespace RowAccess

/-- How the conditions of a filter come about. -/
inductive FilterRule where
  /-- The filled template is the row of conditions. -/
  | row (template : Value)
  /-- The filled template is a document that has to stand for conditions. -/
  | document (template : Value)
  | choice (check : Check) (yes no : FilterRule)
  | fails (message : String)
  | crashes (crash : Crash)

namespace FilterRule

def malformed : FilterRule := .fails "bad filter"

/-- A rule by the entries of an object, given as they are and each read as a rule. -/
def ofEntries (es : List (String × Value)) (rules : List (String × FilterRule)) : FilterRule :=
  match Entries.find? es "if" with
  | some check =>
    .choice (Check.ofValue check) ((Entries.find? rules "then").getD malformed)
      ((Entries.find? rules "else").getD malformed)
  | none =>
    match es with
    | [("map", template)] => .row template
    | [("value", template)] => .document template
    | [("err", message)] => .fails message.textOrEmpty
    | [(kind, argument)] => ((Crash.ofParts? kind argument).map crashes).getD malformed
    | _ => malformed

mutual
def ofValue : Value → FilterRule
  | .object es => ofEntries es (ofFields es)
  | _ => malformed
termination_by structural v => v

/-- The entries of an object, each read as a rule. -/
def ofFields : List (String × Value) → List (String × FilterRule)
  | [] => []
  | (k, v) :: rest => (k, ofValue v) :: ofFields rest
termination_by structural es => es
end

def eval (ctx : Context) : FilterRule → Outcome Row
  | .row template => .value ((Row.ofValue? (Template.fill ctx template)).getD Row.empty)
  | .document template => conditionsOfValue (Template.fill ctx template)
  | .choice check yes no =>
    match check.eval ctx with
    | .value true => eval ctx yes
    | .value false => eval ctx no
    | .failed message => .failed message
    | .crashed crash => .crashed crash
  | .fails message => .failed message
  | .crashes crash => .crashed crash

def function (r : FilterRule) : FilterFunction := fun ctx => r.eval ctx

end FilterRule

end RowAccess
