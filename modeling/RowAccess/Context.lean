import RowAccess.Caller
import RowAccess.Operation
import RowAccess.Row

/-!
# Requests and contexts

A request is a caller together with data that others left for the policies to read. A
context is what one policy function gets to see: the request, the table and operation it
is asked about, the row that exists and the payload that is proposed.
-/

namespace RowAccess

/-- A caller and the data attached to the request. -/
structure Request where
  caller : Caller
  attached : Option Value

namespace Request

instance : Inhabited Request := ⟨⟨Caller.anonymous, none⟩⟩

def ofCaller (c : Caller) : Request := ⟨c, none⟩

def system : Request := ofCaller Caller.system

/-- Attaches data under a name. Attached data that is no object is replaced by one. -/
def attach (r : Request) (name : String) (v : Value) : Request :=
  match r.attached with
  | some (.object es) => { r with attached := some (.object (Entries.put es name v)) }
  | _ => { r with attached := some (.object [(name, v)]) }

end Request

/-- What a policy function sees. -/
structure Context where
  caller : Caller
  table : String
  operation : Operation
  /-- The existing row, when it has been loaded. -/
  row : Option Row
  /-- The proposed payload. -/
  data : Option Row
  attached : Option Value

namespace Context

instance : Inhabited Context := ⟨⟨Caller.anonymous, "", .read, none, none, none⟩⟩

def ofRequest (r : Request) (table : String) (operation : Operation) : Context :=
  { caller := r.caller, table, operation, row := none, data := none, attached := r.attached }

/-- The same context, asked about a table and an operation. -/
def about (ctx : Context) (table : String) (operation : Operation) : Context :=
  { ctx with table, operation }

def withRow (ctx : Context) (row : Row) : Context := { ctx with row := some row }

def rowValue? (ctx : Context) (column : String) : Option Value :=
  ctx.row.bind fun r => r.get? column

def dataValue? (ctx : Context) (column : String) : Option Value :=
  ctx.data.bind fun r => r.get? column

def attachedValue? (ctx : Context) (name : String) : Option Value :=
  ctx.attached.bind fun v => v.get? name

/-- The column of the existing row holds the user id of the caller. -/
def isOwner (ctx : Context) (column : String) : Bool :=
  match ctx.rowValue? column with
  | some v => v.denotes ctx.caller.userId
  | none => false

/-- The column of the existing row holds the tenant of the caller. -/
def rowInTenant (ctx : Context) (column : String) : Bool :=
  match ctx.caller.tenantId, ctx.rowValue? column with
  | some tenant, some v => v.denotes tenant
  | _, _ => false

end Context

end RowAccess
