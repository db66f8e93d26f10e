import RowAccess.Record.Identity
import RowAccess.Rules.Policy

/-!
# Written contexts

A context read from a document: a caller, and what is known of the row, the payload and
the attached data.
-/

namespace RowAccess

namespace Row

/-- An optional row: an object; null and nothing at all are no row. -/
def ofArgument (v : Option Value) : Except RuleFault (Option Row) :=
  match v with
  | none => .ok none
  | some .null => .ok none
  | some v =>
    match ofValue? v with
    | some r => .ok (some r)
    | none => .error .malformed

end Row

namespace Context

/-- The context that a document describes; its table and operation are the given ones unless
it names its own. -/
def ofValue (table : String) (operation : Operation) (v : Value) : Except RuleFault Context := do
  let caller ← match Caller.ofValue? (v.argument "auth") with
    | some c => Except.ok c
    | none => Except.error .unreadable
  let row ← Row.ofArgument (v.get? "row")
  let data ← Row.ofArgument (v.get? "data")
  let operation ← match v.get? "operation" with
    | some op => Operation.parse op.textOrEmpty
    | none => Except.ok operation
  let table := ((v.get? "table").map Value.textOrEmpty).getD table
  return { caller, table, operation, row, data, attached := v.get? "meta" }

end Context

end RowAccess
