import RowAccess.Field
import RowAccess.Rules.Reference

/-!
# Written checks

A check is a condition on a context that is written down: what the caller is, what a
reference leads to, and combinations of these. Combinations are asked from the left and
stop where the answer is known; a part that fails or crashes ends them (`Check.eval`).
-/

namespace RowAccess

/-- A condition on a context. -/
inductive Check where
  | constant (b : Bool)
  | owner (column : String)
  | tenant (column : String)
  | role (name : String)
  | anyRole (names : List String)
  | permission (name : String)
  | organization (id : String)
  /-- The reference leads somewhere, null included. -/
  | present (r : Reference)
  | truthy (r : Reference)
  | denotes (r : Reference) (identifier : String)
  | equals (r : Reference) (v : Value)
  /-- Both references lead to equal values, or neither leads anywhere. -/
  | same (r s : Reference)
  | operation (name : String)
  | table (name : String)
  | negated (c : Check)
  | all (cs : List Check)
  | any (cs : List Check)
  | fails (message : String)
  | crashes (crash : Crash)

namespace Crash

/-- The crash that an entry of a document describes, if it does. -/
def ofParts? (kind : String) (argument : Value) : Option Crash :=
  match kind with
  | "panic" => some ⟨some argument.textOrEmpty⟩
  | "panic_static" => some ⟨some "static panic"⟩
  | "panic_any" => some ⟨none⟩
  | _ => none

/-- The crash that a document describes, if it does. -/
def ofValue? : Value → Option Crash
  | .object [(kind, argument)] => ofParts? kind argument
  | _ => none

end Crash

namespace Check

/-! ## Reading -/

def malformed : Check := .fails "bad predicate"

/-- A check without parts, by its kind and argument. -/
def simple (kind : String) (argument : Value) : Check :=
  match kind with
  | "owner" => .owner argument.textOrEmpty
  | "tenant" => .tenant argument.textOrEmpty
  | "role" => .role argument.textOrEmpty
  | "any_role" => .anyRole argument.texts
  | "permission" => .permission argument.textOrEmpty
  | "org" => .organization argument.textOrEmpty
  | "exists" => .present (Reference.ofValue argument)
  | "truthy" => .truthy (Reference.ofValue argument)
  | "matches" =>
    .denotes (Reference.ofValue (argument.argumentAt 0)) (argument.argumentAt 1).textOrEmpty
  | "eq" => .equals (Reference.ofValue (argument.argumentAt 0)) (argument.argumentAt 1)
  | "same" =>
    .same (Reference.ofValue (argument.argumentAt 0)) (Reference.ofValue (argument.argumentAt 1))
  | "operation" => .operation argument.textOrEmpty
  | "table" => .table argument.textOrEmpty
  | "err" => .fails argument.textOrEmpty
  | _ => ((Crash.ofParts? kind argument).map crashes).getD malformed

/-- A check by its kind, its argument, and what the argument and its items are as checks. -/
def compose (kind : String) (argument : Value) (part : Check) (parts : List Check) : Check :=
  match kind with
  | "not" => .negated part
  | "all" => .all parts
  | "any" => .any parts
  | _ => simple kind argument

mutual
def ofValue : Value → Check
  | .bool b => .constant b
  | .object es => ofFields es
  | _ => malformed
termination_by structural v => v

/-- The check that the entries of an object describe: there has to be exactly one. -/
def ofFields : List (String × Value) → Check
  | (kind, .array xs) :: rest =>
    if rest.isEmpty then compose kind (.array xs) malformed (ofItems xs) else malformed
  | (kind, argument) :: rest =>
    if rest.isEmpty then compose kind argument (ofValue argument) [] else malformed
  | [] => malformed
termination_by structural es => es

def ofItems : List Value → List Check
  | [] => []
  | x :: xs => ofValue x :: ofItems xs
termination_by structural xs => xs
end

/-! ## Meaning -/

mutual
def eval (ctx : Context) : Check → Outcome Bool
  | .constant b => .value b
  | .owner column => .value (ctx.isOwner column)
  | .tenant column => .value (ctx.rowInTenant column)
  | .role name => .value (ctx.caller.hasRole name)
  | .anyRole names => .value (ctx.caller.hasAnyRole names)
  | .permission name => .value (ctx.caller.hasPermission name)
  | .organization id => .value (ctx.caller.inOrganization id)
  | .present r => .value (r.resolve? ctx).isSome
  | .truthy r => .value ((r.resolve? ctx).any Value.isTruthy)
  | .denotes r identifier => .value ((r.resolve? ctx).any fun v => v.denotes identifier)
  | .equals r w => .value ((r.resolve? ctx).any fun v => v.same w)
  | .same r s =>
    match r.resolve? ctx, s.resolve? ctx with
    | some v, some w => .value (v.same w)
    | none, none => .value true
    | _, _ => .value false
  | .operation name => .value (ctx.operation.name == name)
  | .table name => .value (ctx.table == name)
  | .negated c => (eval ctx c).map not
  | .all cs => evalAll ctx cs
  | .any cs => evalAny ctx cs
  | .fails message => .failed message
  | .crashes crash => .crashed crash
termination_by structural c => c

/-- All checks hold; the first one that does not hold is the answer. -/
def evalAll (ctx : Context) : List Check → Outcome Bool
  | [] => .value true
  | c :: cs =>
    match eval ctx c with
    | .value true => evalAll ctx cs
    | r => r
termination_by structural cs => cs

/-- Some check holds; the first one that holds, fails or crashes is the answer. -/
def evalAny (ctx : Context) : List Check → Outcome Bool
  | [] => .value false
  | c :: cs =>
    match eval ctx c with
    | .value false => evalAny ctx cs
    | r => r
termination_by structural cs => cs
end

def predicate (c : Check) : Predicate := fun ctx => c.eval ctx

/-- A check on a column. It has no way to fail, so a failure is a crash with its message. -/
def fieldPredicate (c : Check) : FieldPredicate := fun ctx =>
  match c.eval ctx with
  | .value b => .ok b
  | .failed message => .error ⟨some message⟩
  | .crashed crash => .error crash

end Check

end RowAccess
