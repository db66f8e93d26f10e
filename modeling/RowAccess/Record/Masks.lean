import RowAccess.FieldAccess
import RowAccess.Filter
import RowAccess.Record

/-!
# Masks and filters in documents

The documents of masking strategies, of what is kept and hidden in a row, and of filter
operators.
-/

namespace RowAccess

namespace MaskPattern

def ofValue? : Value → Option MaskPattern := Value.choice? ofName?

def toValue (p : MaskPattern) : Value := .string p.name

@[simp] theorem ofValue?_toValue (p : MaskPattern) : ofValue? p.toValue = some p :=
  ofName?_name p

end MaskPattern

namespace MaskStrategy

/-- A strategy without parameters. -/
def ofName? : String → Option MaskStrategy
  | "Hash" => some .hash
  | "Tokenize" => some .tokenize
  | "Null" => some .null
  | _ => none

/-- The strategy that a document describes: a name, or a name with its parameter. The parameter
of truncation has a name of its own. -/
def ofValue? (v : Value) : Option MaskStrategy :=
  match v with
  | .object [("Redact", p)] => (MaskPattern.ofValue? p).map redact
  | .object [("Truncate", .object ps)] =>
    (Entries.find? ps "max_chars").bind Value.natural? |>.map truncate
  | .object [("Constant", p)] => p.text?.map constant
  | v => v.choice? ofName?

def toValue : MaskStrategy → Value
  | .redact p => .object [("Redact", p.toValue)]
  | .hash => .string "Hash"
  | .tokenize => .string "Tokenize"
  | .truncate n => .object [("Truncate", .object [("max_chars", .ofNat n)])]
  | .constant t => .object [("Constant", .string t)]
  | .null => .string "Null"

end MaskStrategy

namespace FieldDefault

def ofValue? : Value → Option FieldDefault := Value.choice? ofName?

def toValue (d : FieldDefault) : Value := .string d.name

@[simp] theorem ofValue?_toValue (d : FieldDefault) : ofValue? d.toValue = some d :=
  ofName?_name d

end FieldDefault

namespace MaskOptions

def fields : RecordReader MaskOptions := do
  let included ← .optional "include_fields" Value.names?
  let excluded ← .required "exclude_fields" Value.names?
  return { included, excluded }

def ofValue? : Value → Option MaskOptions := fields.read?

def toValue (o : MaskOptions) : Value :=
  .object
    [("include_fields", .ofOptional .ofNameSet o.included),
     ("exclude_fields", .ofNameSet o.excluded)]

end MaskOptions

namespace MaskedRow

def fields : RecordReader MaskedRow := do
  let data ← .required "data" Row.ofValue?
  let masked ← .required "masked_fields" (Value.list? Value.text?)
  let omitted ← .required "omitted_fields" (Value.list? Value.text?)
  return { data, masked, omitted }

def ofValue? : Value → Option MaskedRow := fields.read?

def toValue (m : MaskedRow) : Value :=
  .object
    [("data", m.data.toValue), ("masked_fields", .ofNames m.masked),
     ("omitted_fields", .ofNames m.omitted)]

end MaskedRow

namespace FilterOperator

def ofValue? : Value → Option FilterOperator := Value.choice? ofName?

def toValue (o : FilterOperator) : Value := .string o.name

@[simp] theorem ofValue?_toValue (o : FilterOperator) : ofValue? o.toValue = some o :=
  ofName?_name o

end FilterOperator

end RowAccess
