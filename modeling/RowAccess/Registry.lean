import RowAccess.Journal

/-!
# Registered tables

The row rules of a table are declared as a list of policies and compiled when the table
is registered: the names are checked and the policies are put into the order in which
they are asked, the highest priority first and equal priorities as declared. A registry
holds the compiled tables by name; a table that is there is never changed.
-/

namespace RowAccess

/-! ## Mistakes in declarations -/

/-- Why a declaration is refused. -/
inductive SchemaError where
  | duplicateTable (table : String)
  | duplicatePolicy (table name : String)
  | unnamedPolicy (table : String) (index : Nat)
  | emptyTableName
  | duplicateField (table field : String)
  deriving DecidableEq, Repr

def SchemaError.message : SchemaError → String
  | .duplicateTable table => "Table '" ++ table ++ "' is already registered"
  | .duplicatePolicy table name =>
    "Policy '" ++ name ++ "' is declared more than once on table '" ++ table ++ "'"
  | .unnamedPolicy table index =>
    "Policy #" ++ toString index ++ " on table '" ++ table ++ "' has no name"
  | .emptyTableName => "Table name must not be empty"
  | .duplicateField table field =>
    "Field '" ++ field ++ "' is declared more than once on table '" ++ table ++ "'"

/-! ## Declarations -/

/-- The row rules of one table as they are declared. -/
structure TableRules where
  policies : List Policy
  /-- The outcome when no policy decides. -/
  defaultDeny : Bool
  /-- Callers with one of these roles pass every row check. -/
  exempt : NameSet

/-- Row rules of tables, in declaration order. -/
abbrev Schema := List (String × TableRules)

/-! ## Tables -/

/-- A registered table, its policies in the order in which they are asked. -/
structure Table where
  name : String
  policies : List Policy
  defaultDeny : Bool
  exempt : NameSet

/-- Puts a policy in front of the first one whose priority is not higher. -/
def Policy.insertRanked (p : Policy) : List Policy → List Policy
  | [] => [p]
  | q :: rest => if q.priority ≤ p.priority then p :: q :: rest else q :: insertRanked p rest

/-- The policies by descending priority, equal priorities in the order they came. -/
def Policy.ranked (ps : List Policy) : List Policy := ps.foldr Policy.insertRanked []

namespace Table

/-- The first fault in the names of policies, given the names before them. -/
def nameFault? (table : String) : Nat → List String → List Policy → Option SchemaError
  | _, _, [] => none
  | index, seen, p :: rest =>
    if p.name = "" then some (.unnamedPolicy table index)
    else if seen.contains p.name then some (.duplicatePolicy table p.name)
    else nameFault? table (index + 1) (p.name :: seen) rest

/-- Checks the declaration of a table and orders its policies. -/
def compile (name : String) (rules : TableRules) : Except SchemaError Table :=
  if name = "" then .error .emptyTableName
  else
    match nameFault? name 0 [] rules.policies with
    | some e => .error e
    | none =>
      .ok { name, policies := Policy.ranked rules.policies
            defaultDeny := rules.defaultDeny, exempt := rules.exempt }

/-- The policies declared for an operation, in the order in which they are asked. -/
def policiesFor (t : Table) (op : Operation) : List Policy :=
  t.policies.filter fun p => p.appliesTo op

def policy? (t : Table) (name : String) : Option Policy :=
  t.policies.find? fun p => p.name == name

def exempts (t : Table) (c : Caller) : Bool := c.holdsOneOf t.exempt

end Table

/-! ## Registries -/

/-- The registered tables, by name. -/
abbrev Registry := KeyMap Table

namespace Registry

/-- Registers a table; a refused one leaves the registry as it is. -/
def register (r : Registry) (name : String) (rules : TableRules) : Except SchemaError Registry :=
  if r.contains name then .error (.duplicateTable name)
  else
    match Table.compile name rules with
    | .error e => .error e
    | .ok t => .ok (r.insert name t)

/-- Registers tables in declaration order up to the first one that is refused. -/
def load (r : Registry) : Schema → Registry × Option SchemaError
  | [] => (r, none)
  | (name, rules) :: rest =>
    match register r name rules with
    | .error e => (r, some e)
    | .ok r' => load r' rest

def ofSchema (s : Schema) : Except SchemaError Registry :=
  match load KeyMap.empty s with
  | (r, none) => .ok r
  | (_, some e) => .error e

/-- The policies of a table that are declared for an operation; none for an unknown table. -/
def policiesFor (r : Registry) (table : String) (op : Operation) : List Policy :=
  match r.find? table with
  | some t => t.policiesFor op
  | none => []

def registered (name : String) (rules : TableRules) : LogEvent :=
  { level := .debug, message := "Registered RLS table"
    fields := [("table", .string name), ("policies", Value.ofNat rules.policies.length),
      ("default_deny", .bool rules.defaultDeny),
      ("skip_for", .string (Text.quotedSet rules.exempt.toList))] }

/-- The log lines of loading a schema: one for every table up to the first refused one. -/
def loadEvents (r : Registry) : Schema → List LogEvent
  | [] => []
  | (name, rules) :: rest =>
    match register r name rules with
    | .error _ => []
    | .ok r' => registered name rules :: loadEvents r' rest

end Registry

end RowAccess
