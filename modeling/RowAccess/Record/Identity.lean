import RowAccess.Context
import RowAccess.Record

/-!
# Callers and requests in documents

The documents of operations, callers and requests. Reading what was written gives the
same operation back.
-/

namespace RowAccess

namespace Operation

def ofValue? : Value → Option Operation := Value.choice? ofName?

def toValue (op : Operation) : Value := .string op.name

@[simp] theorem ofValue?_toValue (op : Operation) : ofValue? op.toValue = some op :=
  ofName?_name op

end Operation

namespace Caller

def fields : RecordReader Caller := do
  let userId ← .required "user_id" Value.text?
  let tenantId ← .optional "tenant_id" Value.text?
  let roles ← .required "roles" Value.names?
  let isSystem ← .required "is_system" Value.bool?
  let organizations ← .optional "organization_ids" (Value.list? Value.text?)
  let permissions ← .orElse "permissions" Value.names? KeyMap.empty
  let attributes ← .orElse "attributes" (Value.map? some) KeyMap.empty
  return { userId, tenantId, roles, isSystem, organizations, permissions, attributes }

def ofValue? : Value → Option Caller := fields.read?

def toValue (c : Caller) : Value :=
  .object
    [("user_id", .string c.userId), ("tenant_id", .ofOption c.tenantId),
     ("roles", .ofNameSet c.roles), ("is_system", .bool c.isSystem),
     ("organization_ids", .ofOptional .ofNames c.organizations),
     ("permissions", .ofNameSet c.permissions), ("attributes", .ofMap id c.attributes)]

end Caller

namespace Request

def fields : RecordReader Request := do
  let caller ← .required "auth" Caller.ofValue?
  let attached ← .optional "meta" some
  return { caller, attached }

def ofValue? : Value → Option Request := fields.read?

def toValue (r : Request) : Value :=
  .object [("auth", r.caller.toValue), ("meta", .ofOptional id r.attached)]

end Request

end RowAccess
