import Std.Time.DateTime
import OfflineAgent.Cli.Run

/-!
The program: it looks at the machine, runs, prints, and leaves the directories and log files of the
run. It reaches no network and listens on no address, and its stores last as long as the run.
-/

namespace OfflineAgent.Machine

def Location.path (location : Location) : String :=
  "/" ++ "/".intercalate location

def nodeThere? (location : Location) : IO (Option FileNode) := do
  let place := (← IO.currentDir) / location.path
  if ← place.isDir then return some .directory
  else if ← place.pathExists then return some (.file (← IO.FS.readBinFile place))
  else return none

namespace FileTree

/-- The tree with what there is on the way along a path. -/
def sighted (tree : FileTree) (path : String) : IO FileTree := do
  let (_, tree) ← (splitPath path).foldlM (fun (location, tree) name => do
    let location := nextLocation location name
    match ← nodeThere? location with
    | some node => return (location, tree.put location node)
    | none => return (location, tree)) (tree.base path, tree)
  return tree

def addTo (before after : FileTree) : IO Unit :=
  for (location, node) in after.nodes do
    if (before.node? location).isNone then
      match node with
      | .directory => IO.FS.createDirAll location.path
      | .file content => IO.FS.writeBinFile location.path content
      | .database _ => pure ()

end FileTree

namespace Surroundings

/-- The surroundings without any files but the directories around the program. -/
def here : IO Surroundings := do
  let directory := (← IO.currentDir).toString
  let names := ["HOME", "XDG_CONFIG_HOME", "XDG_DATA_HOME", "STOWAWAY_ORIGIN"]
  let environment ← names.filterMapM fun name => do
    return (← IO.getEnv name).map (name, ·)
  let files ← FileTree.sighted ⟨[], []⟩ directory
  let workingDirectory := (splitPath directory).filter (!·.isEmpty)
  return ⟨{ files with workingDirectory }, environment, none⟩

def withSighted (s : Surroundings) (paths : List String) : IO Surroundings := do
  return { s with files := ← paths.foldlM FileTree.sighted s.files }

end Surroundings

end OfflineAgent.Machine

namespace OfflineAgent.Cli

open Machine (Surroundings)

/-- The paths that a run reads or writes, as far as they are known before its settings are. -/
def settingsPaths (s : Surroundings) (arguments : Arguments) : List String :=
  arguments.config.toList ++ Settings.searchPaths s

def directories (s : Surroundings) (settings : Settings) : List String :=
  settings.logDir.toList ++ ((settings.databasePath? s).bind Machine.parentPath?).toList

/-- The surroundings with all that a run with these words looks at. -/
def surroundingsFor (words : List String) : IO Surroundings := do
  let s ← Surroundings.here
  match read words with
  | .run arguments => do
    let s ← s.withSighted (settingsPaths s arguments)
    match settings s arguments with
    | .ok settings => s.withSighted (directories s settings)
    | .error _ => return s
  | _ => return s

def currentMoment : IO Moment := do
  let time := Std.Time.DateTime.ofTimestamp (← Std.Time.Timestamp.now) .UTC
  return {
    year := time.year.toInt
    month := time.month.toNat
    day := time.day.toNat
    hour := time.hour.val.toNat
    minute := time.minute.val.toNat
    second := time.second.val.toNat }

def conditionsFor (words : List String) : IO Conditions := do
  return {
    surroundings := ← surroundingsFor words
    network := ⟨[]⟩
    peer := Client.unreachable
    refusal? := fun _ => some "Operation not supported (os error 95)"
    now := ← currentMoment }

end OfflineAgent.Cli

def main (words : List String) : IO UInt32 := do
  let conditions ← OfflineAgent.Cli.conditionsFor words
  let (ending, files) := OfflineAgent.Cli.run conditions words
  conditions.surroundings.files.addTo files
  IO.print ending.output
  match ending.failure with
  | some failure => IO.eprintln failure.message
  | none => pure ()
  return ending.exit.toUInt32
