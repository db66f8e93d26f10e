import RowAccess.Evaluation
import RowAccess.Field

/-!
# Column access

Which columns of a row a caller sees and may write. A column is open when its table has
no column rules, or the caller passes them all; otherwise its own check decides, and
where it has none, the default of the table. A check that crashes refuses.

Masking a row keeps the open columns, drops the hidden ones that are to be dropped and
replaces the others.
-/

namespace RowAccess

/-! ## Options and results of masking -/

/-- Which columns of a row are kept at all. -/
structure MaskOptions where
  /-- Only these, if given. -/
  included : Option NameSet
  /-- Never these. -/
  excluded : NameSet
  deriving DecidableEq

namespace MaskOptions

def keepAll : MaskOptions := ⟨none, KeyMap.empty⟩

instance : Inhabited MaskOptions := ⟨keepAll⟩

def including (o : MaskOptions) (names : List String) : MaskOptions :=
  { o with included := some (NameSet.addAll (o.included.getD KeyMap.empty) names) }

def excluding (o : MaskOptions) (names : List String) : MaskOptions :=
  { o with excluded := NameSet.addAll o.excluded names }

def keeps (o : MaskOptions) (name : String) : Bool :=
  !o.excluded.contains name &&
    match o.included with
    | some names => names.contains name
    | none => true

end MaskOptions

/-- A row as a caller sees it. -/
structure MaskedRow where
  data : Row
  /-- The columns whose values were replaced. -/
  masked : List String
  /-- The columns that were dropped because they are hidden. -/
  omitted : List String

def MaskedRow.wasModified (m : MaskedRow) : Bool := !m.masked.isEmpty || !m.omitted.isEmpty

/-! ## Single columns -/

namespace FieldTable

/-- Whether a column is open, by its own check or by the default. -/
def opens (t : FieldTable) (name : String) (ctx : Context)
    (check? : FieldRule → Option FieldPredicate) : Bool :=
  match (t.field? name).bind check? with
  | some check =>
    match check ctx with
    | .ok b => b
    | .error _ => false
  | none => t.default.allows

/-- The log line about a check that crashed. -/
def openEvents (t : FieldTable) (name : String) (ctx : Context)
    (check? : FieldRule → Option FieldPredicate) : List LogEvent :=
  match (t.field? name).bind check? with
  | some check =>
    match check ctx with
    | .ok _ => []
    | .error crash =>
      [{ level := .debug, message := "Field predicate panicked; treating as inaccessible"
         fields := [("table", .string ctx.table), ("field", .string name),
           ("error", .string crash.message)] }]
  | none => []

/-- The column is dropped where it is hidden. -/
def omits (t : FieldTable) (name : String) : Bool :=
  match t.field? name with
  | some rule => rule.omitWhenHidden
  | none => false

/-- What stands in for the hidden value of a column; null where nothing else is known. -/
def replacement (t : FieldTable) (name : String) (v : Value) : Value :=
  match (t.field? name).bind FieldRule.mask with
  | some f =>
    match f v with
    | .ok masked => masked
    | .error _ => .null
  | none => .null

end FieldTable

/-! ## Rows -/

/-- The three fates of a column of a row. -/
inductive ColumnFate where
  | shown (v : Value)
  | omitted
  | masked (v : Value)

namespace ColumnFate

/-- The value under which a column stays in the row. -/
def value? : ColumnFate → Option Value
  | .shown v => some v
  | .omitted => none
  | .masked v => some v

def isMasked : ColumnFate → Bool
  | .masked _ => true
  | _ => false

def isOmitted : ColumnFate → Bool
  | .omitted => true
  | _ => false

end ColumnFate

namespace FieldRegistry

/-- The column rules that apply to the caller; none when every column is open. -/
def rulesFor? (r : FieldRegistry) (table : String) (c : Caller) : Option FieldTable :=
  if c.isSystem then none
  else
    match r.find? table with
    | some t => if t.exempts c then none else some t
    | none => none

def readContext (table : String) (ctx : Context) (row : Option Row) : Context :=
  { ctx with table, operation := .read, row := row <|> ctx.row }

/-- The context of writing a column; what is not a write counts as an update. -/
def writeContext (table : String) (ctx : Context) (row data : Option Row) : Context :=
  { ctx with
    table, operation := if ctx.operation.isWrite then ctx.operation else .update
    row := row <|> ctx.row, data }

/-- Under rules that may be absent, a column is open or its table says so. -/
def isOpen (rules : Option FieldTable) (name : String) (ctx : Context)
    (check? : FieldRule → Option FieldPredicate) : Bool :=
  match rules with
  | some t => t.opens name ctx check?
  | none => true

def openEvents (rules : Option FieldTable) (name : String) (ctx : Context)
    (check? : FieldRule → Option FieldPredicate) : List LogEvent :=
  match rules with
  | some t => t.openEvents name ctx check?
  | none => []

def canRead (r : FieldRegistry) (table name : String) (ctx : Context) (row : Option Row) :
    Report Bool :=
  let rules := r.rulesFor? table ctx.caller
  let ctx := readContext table ctx row
  .noting (isOpen rules name ctx FieldRule.read) (openEvents rules name ctx FieldRule.read)

def canWrite (r : FieldRegistry) (table name : String) (ctx : Context) (row : Option Row) :
    Report Bool :=
  let rules := r.rulesFor? table ctx.caller
  let ctx := writeContext table ctx row ctx.data
  .noting (isOpen rules name ctx FieldRule.write) (openEvents rules name ctx FieldRule.write)

/-- What happens to a column of a row under rules that may be absent. -/
def fate (rules : Option FieldTable) (ctx : Context) (name : String) (v : Value) : ColumnFate :=
  match rules with
  | none => .shown v
  | some t =>
    if t.opens name ctx FieldRule.read then .shown v
    else if t.omits name then .omitted
    else .masked (t.replacement name v)

/-- The columns of a row that the options keep. -/
def kept (o : MaskOptions) (row : Row) : List (String × Value) :=
  row.entries.filter fun e => o.keeps e.1

def maskedRow (rules : Option FieldTable) (ctx : Context) (o : MaskOptions) (row : Row) :
    MaskedRow :=
  let fates := (kept o row).map fun e => (e.1, fate rules ctx e.1 e.2)
  { data := Row.ofEntries (fates.filterMap fun e => (ColumnFate.value? e.2).map fun v => (e.1, v))
    masked := (fates.filter fun e => ColumnFate.isMasked e.2).map Prod.fst
    omitted := (fates.filter fun e => ColumnFate.isOmitted e.2).map Prod.fst }

def maskRow (r : FieldRegistry) (table : String) (row : Row) (ctx : Context) (o : MaskOptions) :
    Report MaskedRow :=
  let rules := r.rulesFor? table ctx.caller
  let ctx := readContext table ctx (some row)
  let m := maskedRow rules ctx o row
  let checks := (kept o row).flatMap fun e => openEvents rules e.1 ctx FieldRule.read
  let summary : List LogEvent :=
    if m.wasModified then
      [{ level := .debug, message := "Masked hidden fields"
         fields := [("table", .string table), ("user_id", .string ctx.caller.userId),
           ("masked", Value.ofNat m.masked.length), ("omitted", Value.ofNat m.omitted.length)] }]
    else []
  .noting m (checks ++ summary)

def maskRows (r : FieldRegistry) (table : String) (rows : List Row) (ctx : Context)
    (o : MaskOptions) : Report (List MaskedRow) :=
  Report.forEach (fun row => maskRow r table row ctx o) rows

/-- Checks that the caller may set every column of a payload; the first one that may not be
set is named. -/
def validate (r : FieldRegistry) (table : String) (data : Row) (ctx : Context)
    (existing : Option Row) : Report (Except AccessDenied Unit) :=
  let rules := r.rulesFor? table ctx.caller
  let ctx := writeContext table ctx existing (some data)
  let isClosed (name : String) := !isOpen rules name ctx FieldRule.write
  let checks := (upTo isClosed data.keys).flatMap fun n => openEvents rules n ctx FieldRule.write
  match data.keys.find? isClosed with
  | none => .noting (.ok ()) checks
  | some name =>
    .noting
      (.error { table, operation := ctx.operation, policy := none, field := some name
                reason := "field '" ++ name ++ "' is not writable", trace := [] })
      (checks ++
        [{ level := .debug, message := "Field write blocked"
           fields := [("table", .string table), ("field", .string name),
             ("user_id", .string ctx.caller.userId)] }])

/-- The columns of a row that the caller may see, in order. -/
def readable (r : FieldRegistry) (table : String) (row : Row) (ctx : Context) :
    Report (List String) :=
  let rules := r.rulesFor? table ctx.caller
  let ctx := readContext table ctx (some row)
  .noting (row.keys.filter fun n => isOpen rules n ctx FieldRule.read)
    (row.keys.flatMap fun n => openEvents rules n ctx FieldRule.read)

/-- The columns of a row that the caller may set, in order. -/
def writable (r : FieldRegistry) (table : String) (row : Row) (ctx : Context) :
    Report (List String) :=
  let rules := r.rulesFor? table ctx.caller
  let ctx := writeContext table ctx (some row) ctx.data
  .noting (row.keys.filter fun n => isOpen rules n ctx FieldRule.write)
    (row.keys.flatMap fun n => openEvents rules n ctx FieldRule.write)

end FieldRegistry

end RowAccess
