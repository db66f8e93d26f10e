/-!
# Where settings are kept

The files of a project and of a user that settings are read from.
-/

namespace RowAccess.Settings.Location

def projectFileName : String := "rowguard.toml"

/-- Settings that one machine puts over those of the project. -/
def overridesFileName : String := "rowguard.local.toml"

/-- The name of a file in a directory. -/
def join (directory file : String) : String :=
  if directory = "" then file
  else if directory.toList.getLast? = some '/' then directory ++ file
  else directory ++ "/" ++ file

def projectFile (directory : String) : String := join directory projectFileName

def overridesFile (directory : String) : String := join directory overridesFileName

/-- The directory of the settings of a user: below the configuration directory that the host
names, if it is absolute, else below the home directory. -/
def userDirectory (home : String) (configHome : Option String) : String :=
  let fallback := join (join home ".config") "rowguard"
  match configHome with
  | some dir => if dir.toList.head? = some '/' then join dir "rowguard" else fallback
  | none => fallback

def userFile (home : String) (configHome : Option String) : String :=
  join (userDirectory home configHome) "config.toml"

/-- The host names no directory that settings could be below. -/
structure Unavailable where
  reason : String
  deriving DecidableEq, Repr

def Unavailable.message (e : Unavailable) : String := "XDG directory error: " ++ e.reason

end RowAccess.Settings.Location
