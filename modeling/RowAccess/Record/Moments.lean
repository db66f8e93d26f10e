import RowAccess.Policy
import RowAccess.Record

/-!
# Moments and policies in documents

The documents of features and moments, and of policies as far as they can be written:
their functions cannot.
-/

namespace RowAccess

namespace PolicyKind

def ofValue? : Value → Option PolicyKind := Value.choice? ofName?

def toValue (k : PolicyKind) : Value := .string k.name

@[simp] theorem ofValue?_toValue (k : PolicyKind) : ofValue? k.toValue = some k :=
  ofName?_name k

end PolicyKind

namespace Features

/-- The features that a document lists with their values. -/
def ofValue? : Value → Option Features := Value.map? some

def toValue (f : Features) : Value := .ofMap id f

end Features

namespace Moment

def fields : RecordReader Moment := do
  let environment ← .required "environment" Value.text?
  let features ← .required "features" Features.ofValue?
  let time ← .required "timestamp" fun v => v.text?.bind Instant.ofText?
  return { environment, features, time }

def ofValue? : Value → Option Moment := fields.read?

def toValue (m : Moment) : Value :=
  .object
    [("environment", .string m.environment), ("features", m.features.toValue),
     ("timestamp", .string m.time.text)]

end Moment

namespace Policy

def toValue (p : Policy) : Value :=
  .object
    [("name", .string p.name), ("decision_type", p.kind.toValue),
     ("operations", .array (p.operations.map fun op => .string op.name)),
     ("priority", .number (.integer p.priority)), ("conditional", .bool p.isConditional),
     ("hints", p.hints.getD .null)]

end Policy

end RowAccess
