import OfflineAgent.Machine.Surroundings
import OfflineAgent.Settings.OfYaml

/-!
Settings as a program starts with them: from the first file there is, with an origin from the
environment in place of the file's.
-/

namespace OfflineAgent.Settings

open Machine (FileFault Surroundings joinPath)

inductive LoadFault where
  | notFound (path : String)
  | unreadable (path : String) (fault : FileFault)
  | invalid (path : String) (fault : YamlFault)
  | origin (fault : OriginFault)
deriving DecidableEq, Repr

def LoadFault.message : LoadFault → String
  | notFound path => "Config file not found: " ++ path
  | unreadable path fault => "Failed to read config file " ++ path ++ ": " ++ fault.message
  | invalid path fault => "Failed to parse config file " ++ path ++ ": " ++ fault.message
  | origin fault => fault.message

/-- Where a file of settings is looked for if none is named. -/
def searchPaths (s : Surroundings) : List String :=
  "stowaway.yaml" ::
    (s.configDirectory?.map fun path => joinPath (joinPath path "stowaway") "config.yaml").toList

/-- The file to read, if there is one. A file that is named has to be there. -/
def filePath (s : Surroundings) : Option String → Except LoadFault (Option String)
  | some path => if s.files.has path then .ok (some path) else .error (.notFound path)
  | none => .ok ((searchPaths s).find? s.files.has)

def ofFile (s : Surroundings) (path : String) : Except LoadFault Settings := do
  let text ← (s.files.readText path).mapError (.unreadable path)
  (ofYaml text).mapError (.invalid path)

def withOrigin (settings : Settings) : Option String → Settings
  | some origin => { settings with origin }
  | none => settings

def checked (settings : Settings) : Except LoadFault Settings :=
  match settings.originUrl with
  | .ok _ => .ok settings
  | .error fault => .error (.origin fault)

/-- The settings of a start, where `named` is the file that the user names. -/
def load (s : Surroundings) (named : Option String) : Except LoadFault Settings := do
  let settings ← match ← filePath s named with
    | some path => ofFile s path
    | none => pure default
  (settings.withOrigin (s.valueOf? "STOWAWAY_ORIGIN")).checked

/-- The path of the database; none if there is no directory for it. -/
def databasePath? (settings : Settings) (s : Surroundings) : Option String :=
  match settings.database with
  | some path => some path
  | none => s.dataDirectory?.map fun path => joinPath (joinPath path "stowaway") "stores.db"

end OfflineAgent.Settings
