/-!
# Operations

What a caller wants to do with a table: create, read, update or delete rows. A policy
may also be declared for `all`, which covers each of them.
-/

namespace RowAccess

/-- An operation on the rows of a table. -/
inductive Operation where
  | create
  | read
  | update
  | delete
  /-- On a policy: every operation. -/
  | all
  deriving DecidableEq, Repr, Inhabited

namespace Operation

def name : Operation → String
  | .create => "create"
  | .read => "read"
  | .update => "update"
  | .delete => "delete"
  | .all => "all"

/-- The operation of a name. -/
def ofName? : String → Option Operation
  | "create" => some .create
  | "read" => some .read
  | "update" => some .update
  | "delete" => some .delete
  | "all" => some .all
  | _ => none

/-- The operation that a caller names: the SQL verbs for reading and creating count too. -/
def parse? : String → Option Operation
  | "insert" => some .create
  | "select" => some .read
  | s => ofName? s

def unknownMessage (s : String) : String := "unknown operation '" ++ s ++ "'"

/-- A policy declared for the first operation takes part in the second. -/
def covers (declared requested : Operation) : Bool :=
  declared == .all || declared == requested

def isWrite : Operation → Bool
  | .create | .update | .delete => true
  | .read | .all => false

/-- The operations that bring a payload, which validation looks at. -/
def carriesPayload : Operation → Bool
  | .create | .update => true
  | .read | .delete | .all => false

def shown : Operation → String
  | .create => "Create"
  | .read => "Read"
  | .update => "Update"
  | .delete => "Delete"
  | .all => "All"

@[simp] theorem ofName?_name (op : Operation) : ofName? op.name = some op := by
  cases op <;> rfl

@[simp] theorem parse?_name (op : Operation) : parse? op.name = some op := by
  cases op <;> rfl

end Operation

end RowAccess
