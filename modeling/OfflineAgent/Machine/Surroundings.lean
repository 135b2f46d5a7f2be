import OfflineAgent.Machine.FileTree

/-!
What a program finds on the machine where it starts.
-/

namespace OfflineAgent.Machine

structure Surroundings where
  files : FileTree
  environment : List (String × String)
  /-- The home directory of the account, for when no variable names one. -/
  accountHome : Option String
deriving DecidableEq

namespace Surroundings

def valueOf? (s : Surroundings) (name : String) : Option String :=
  (s.environment.find? (·.1 = name)).map (·.2)

def home? (s : Surroundings) : Option String :=
  match s.valueOf? "HOME" with
  | some "" | none => s.accountHome
  | some path => some path

/-- A directory that a variable names, which counts only if its path is absolute; else one below
the home directory. -/
def baseDirectory? (s : Surroundings) (name belowHome : String) : Option String :=
  match (s.valueOf? name).filter isAbsolute with
  | some path => some path
  | none => s.home?.map (joinPath · belowHome)

def configDirectory? (s : Surroundings) : Option String :=
  s.baseDirectory? "XDG_CONFIG_HOME" ".config"

def dataDirectory? (s : Surroundings) : Option String :=
  s.baseDirectory? "XDG_DATA_HOME" ".local/share"

end Surroundings

end OfflineAgent.Machine
