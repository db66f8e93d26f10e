import RowAccess.KeyMap
import RowAccess.Text.Blank
import RowAccess.Text.Quoted

/-!
# Settings

How the engine around the policies behaves. Settings are valid when the environment and
every feature name have a visible character.
-/

namespace RowAccess

structure EngineSettings where
  /-- The environment that policies can be restricted to. -/
  environment : String
  /-- Refuse access to tables without rules. -/
  denyUnregistered : Bool
  /-- Calls without an explicit request need an installed one. -/
  requireContext : Bool
  deriving DecidableEq, Repr

structure AuditSettings where
  enabled : Bool
  /-- Log permissions as well as refusals. -/
  logAllows : Bool
  deriving DecidableEq, Repr

structure ResolverSettings where
  /-- How long resolved data stays in the cache. -/
  cacheTtlSecs : Nat
  deriving DecidableEq, Repr

structure Settings where
  engine : EngineSettings
  features : KeyMap Bool
  audit : AuditSettings
  resolver : ResolverSettings
  deriving DecidableEq

namespace Settings

/-- The built-in settings, meant for development. -/
def default : Settings :=
  { engine := ⟨"development", false, true⟩, features := KeyMap.empty
    audit := ⟨true, true⟩, resolver := ⟨60⟩ }

instance : Inhabited Settings := ⟨default⟩

/-- Settings for production: tables without rules are closed, permissions are not logged. -/
def production : Settings :=
  { default with
    engine := ⟨"production", true, true⟩
    audit := ⟨true, false⟩ }

/-! ## Validity -/

/-- Why settings are not valid. -/
inductive Fault where
  | blankEnvironment
  | blankFeature (name : String)
  deriving DecidableEq, Repr

/-- What is wrong, without saying that it is the settings. -/
def Fault.detail : Fault → String
  | .blankEnvironment => "engine.environment must not be empty"
  | .blankFeature name => "feature name " ++ Text.quoted name ++ " must not be blank"

def Fault.message (f : Fault) : String := "Invalid configuration: " ++ f.detail

/-- The first fault of the settings: the environment, then the features by name. -/
def fault? (s : Settings) : Option Fault :=
  if Text.blank s.engine.environment then some .blankEnvironment
  else (s.features.names.find? Text.blank).map .blankFeature

def enabledFeatures (s : Settings) : List String :=
  (s.features.entries.filter fun e => e.2).map Prod.fst

/-! ## Diagnostics -/

def shown (s : Settings) : String :=
  Text.shownRecord "RowguardConfig"
    [("engine", Text.shownRecord "EngineConfig"
       [("environment", Text.quoted s.engine.environment),
        ("deny_unregistered_tables", Text.boolText s.engine.denyUnregistered),
        ("require_context", Text.boolText s.engine.requireContext)] false),
     ("features", Text.quotedEntries (s.features.entries.map fun e => (e.1, Text.boolText e.2))),
     ("audit", Text.shownRecord "AuditConfig"
       [("enabled", Text.boolText s.audit.enabled),
        ("log_allows", Text.boolText s.audit.logAllows)] false),
     ("resolver", Text.shownRecord "ResolverConfig"
       [("cache_ttl_secs", toString s.resolver.cacheTtlSecs)] false)] false

end Settings

end RowAccess
