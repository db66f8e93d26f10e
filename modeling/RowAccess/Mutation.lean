import RowAccess.Evaluator

/-!
# Guarded writes

Before a write reaches the rows, the operation has to be allowed on the existing row and
the proposed payload, and for creates and updates the payload has to pass validation. A
mutation runs only behind the guard.
-/

namespace RowAccess

namespace Evaluator

/-- The context of a write: a row or payload given with the write replaces the one that the
context holds. -/
def writeContext (ctx : Context) (existing data : Option Row) : Context :=
  { ctx with row := existing <|> ctx.row, data := data <|> ctx.data }

def guard (ev : Evaluator) (table : String) (op : Operation) (existing data : Option Row)
    (ctx : Context) : Report (Except AccessError Decision) :=
  let ctx := writeContext ctx existing data
  (ev.evaluate table op ctx).andThen fun d =>
    if d.allowed then
      (ev.validate table op ctx).map fun v =>
        match v with
        | .error f => .error (.invalid f)
        | .ok () => .ok d
    else
      .noting (.error (.denied (d.toDenial table op)))
        [{ level := .debug, message := "Mutation blocked by RLS"
           fields := [("table", .string table), ("operation", .string op.name),
             ("policy", .string (Text.quotedOption d.policy))] }]

def checkCreate (ev : Evaluator) (table : String) (data : Row) (ctx : Context) :
    Report (Except AccessError Decision) :=
  ev.guard table .create none (some data) ctx

def checkUpdate (ev : Evaluator) (table : String) (existing : Option Row) (data : Row)
    (ctx : Context) : Report (Except AccessError Decision) :=
  ev.guard table .update existing (some data) ctx

def checkDelete (ev : Evaluator) (table : String) (existing : Option Row) (ctx : Context) :
    Report (Except AccessError Decision) :=
  ev.guard table .delete existing none ctx

end Evaluator

/-- Applies a mutation to the state if the check before it passed; else the state stays. -/
def runIfPassed {σ τ α : Type} (mutation : σ → τ × σ) (state : σ)
    (check : Report (Except AccessError α)) : Report (Except AccessError τ × σ) :=
  check.map fun outcome =>
    match outcome with
    | .error e => (.error e, state)
    | .ok _ =>
      let (t, s) := mutation state
      (.ok t, s)

def Evaluator.runGuarded {σ τ : Type} (ev : Evaluator) (table : String) (op : Operation)
    (existing data : Option Row) (ctx : Context) (mutation : σ → τ × σ) (state : σ) :
    Report (Except AccessError τ × σ) :=
  runIfPassed mutation state (ev.guard table op existing data ctx)

end RowAccess
