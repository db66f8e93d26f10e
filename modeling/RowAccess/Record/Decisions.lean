import RowAccess.FieldAccess
import RowAccess.Journal
import RowAccess.Record
import RowAccess.Select

/-!
# Decisions in documents

The documents of decisions and their traces, of filters and queries, and of what the
journal holds.
-/

namespace RowAccess

def TraceEntry.toValue (e : TraceEntry) : Value :=
  .object
    [("name", .string e.name), ("decision_type", .string e.kind.name),
     ("active", .bool e.active), ("matched", .bool e.matched), ("error", .ofOption e.error)]

/-- A trace, in the order in which the policies were asked. -/
def TraceEntry.listValue (trace : List TraceEntry) : Value := .array (trace.map toValue)

def Decision.toValue (d : Decision) : Value :=
  .object
    [("allowed", .bool d.allowed), ("decision_type", .string d.kind.name),
     ("reason", .ofOption d.reason), ("policy_name", .ofOption d.policy),
     ("evaluated_policies", TraceEntry.listValue d.trace)]

def FilterResult.toValue (r : FilterResult) : Value :=
  .object
    [("conditions", r.conditions.toValue), ("applied_filters", .ofNames r.applied)]

def QueryCondition.toValue (c : QueryCondition) : Value :=
  .array [.string c.column, .string c.operator.name, c.value]

def Query.toValue (q : Query) : Value :=
  .object
    [("sql", .string q.sql), ("params", .array q.params),
     ("conditions", .array (q.conditions.map QueryCondition.toValue))]

def AuditRecord.toValue (r : AuditRecord) : Value :=
  .object
    [("allowed", .bool r.allowed), ("operation", .string r.operation.name),
     ("table", .string r.table), ("policy_name", .ofOption r.policy),
     ("extra", .object
       [("user_id", .string r.userId), ("tenant_id", .ofOption r.tenantId),
        ("decision_type", .string r.kind.name), ("reason", .ofOption r.reason)])]

def LogEvent.toValue (e : LogEvent) : Value :=
  .array [.string e.level.name, .string e.message, .object e.fields]

end RowAccess
