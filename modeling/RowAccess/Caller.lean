import RowAccess.KeyMap
import RowAccess.Value

/-!
# Callers

Who asks: a user with roles, permissions, perhaps a tenant and organizations, and free
attributes from wherever the user was authenticated. A system caller is trusted and
passes every check.
-/

namespace RowAccess

/-- The identity behind a request. -/
structure Caller where
  userId : String
  tenantId : Option String
  roles : NameSet
  isSystem : Bool
  /-- Organizations, in the order given; absent when they are not known. -/
  organizations : Option (List String)
  permissions : NameSet
  attributes : KeyMap Value

namespace Caller

def user (id : String) : Caller :=
  { userId := id, tenantId := none, roles := KeyMap.empty, isSystem := false
    organizations := none, permissions := KeyMap.empty, attributes := KeyMap.empty }

/-- The caller whose user id is empty. -/
def anonymous : Caller := user ""

def system : Caller := { user "system" with isSystem := true }

instance : Inhabited Caller := ⟨anonymous⟩

def withTenant (c : Caller) (tenant : String) : Caller := { c with tenantId := some tenant }

def withRoles (c : Caller) (roles : List String) : Caller :=
  { c with roles := NameSet.addAll c.roles roles }

def withOrganizations (c : Caller) (ids : List String) : Caller :=
  { c with organizations := some ids }

def withPermission (c : Caller) (permission : String) : Caller :=
  { c with permissions := NameSet.add c.permissions permission }

def withAttribute (c : Caller) (name : String) (v : Value) : Caller :=
  { c with attributes := c.attributes.insert name v }

def hasRole (c : Caller) (role : String) : Bool := c.roles.contains role

def hasAnyRole (c : Caller) (roles : List String) : Bool := roles.any c.hasRole

def holdsOneOf (c : Caller) (roles : NameSet) : Bool := NameSet.meets c.roles roles

def hasPermission (c : Caller) (permission : String) : Bool := c.permissions.contains permission

def inOrganization (c : Caller) (id : String) : Bool :=
  match c.organizations with
  | some ids => ids.contains id
  | none => false

end Caller

end RowAccess
