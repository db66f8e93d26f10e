import RowAccess.Engine

/-!
# Diagnostics

How an engine and its parts are shown to whoever runs them. Functions are shown by
whether they are there.
-/

namespace RowAccess

def Features.shown (f : Features) : String :=
  "Features(" ++ Text.quotedEntries (f.entries.map fun e => (e.1, e.2.shown)) ++ ")"

def Clock.shown : Clock → String
  | .fixed time => "FixedClock(" ++ time.text ++ ")"
  | .host _ => "SystemClock"

def Evaluator.shown (ev : Evaluator) : String :=
  Text.shownRecord "PolicyEvaluator"
    [("tables", toString ev.registry.size), ("environment", Text.quoted ev.environment),
     ("features", Features.shown ev.features), ("clock", ev.clock.shown),
     ("audit", Text.boolText ev.audit.isSome),
     ("deny_unregistered", Text.boolText ev.denyUnregistered)] false

def FieldTable.shown (t : FieldTable) : String :=
  let field (f : String × FieldRule) := "(" ++ Text.quoted f.1 ++ ", " ++ f.2.shown ++ ")"
  Text.shownRecord "CompiledFieldTable"
    [("name", Text.quoted t.name), ("default", t.default.shown),
     ("skip_for", Text.quotedSet t.exempt.toList),
     ("fields", "[" ++ Text.commaSeparated (t.fields.map field) ++ "]"),
     ("index", Text.quotedEntries (t.index.entries.map fun e => (e.1, toString e.2)))] false

def FieldRegistry.shown (r : FieldRegistry) : String :=
  Text.shownRecord "FieldAccessProcessor"
    [("registry", Text.shownRecord "FieldAccessRegistry"
       [("tables", Text.quotedEntries (r.entries.map fun e => (e.1, e.2.shown)))] false)] false

def Engine.shown (e : Engine) : String :=
  Text.shownRecord "Engine"
    [("config", e.settings.shown), ("evaluator", e.evaluator.shown),
     ("fields", FieldRegistry.shown e.fields)] true

end RowAccess
