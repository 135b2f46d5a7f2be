import OfflineAgent.Cli.Help
import OfflineAgent.Cli.Tasks
import OfflineAgent.Simulation.World

/-!
A run of the program: what it prints, how it ends, and the files it leaves. Main functions:
`Cli.settings`, `Cli.run`.
-/

namespace OfflineAgent.Cli

open Machine (Database FileTree SocketAddress Surroundings)
open Simulation (World)

/-- Under what conditions a run takes place. -/
structure Conditions where
  surroundings : Surroundings
  /-- What the fetches of the agent come to. -/
  network : Simulation.Network
  /-- Who answers messages to a running agent. -/
  peer : Client.Peer
  /-- The reason for which the machine would not listen on an address. -/
  refusal? : SocketAddress → Option String
  now : Moment

/-- How a run ends. The exit status is 0, or 1 after a failure, or 2 if the command line is
refused. -/
structure Ending where
  exit : Nat
  output : String
  failure : Option Failure

namespace Ending

def success (output : String) : Ending := ⟨0, output, none⟩

def refused : Ending := ⟨2, "", none⟩

def ofPrinted : Printed → Ending
  | .ok output => success output
  | .error failure => ⟨1, "", some failure⟩

end Ending

/-- The settings of a run. An origin on the command line comes before all others, but those that
were read before have to be fit by themselves. -/
def settings (s : Surroundings) (arguments : Arguments) : Except Settings.LoadFault Settings := do
  let loaded ← Settings.load s arguments.config
  (loaded.withOrigin arguments.origin).checked

def logName (now : Moment) : String :=
  "stowaway.log." ++ String.ofList now.dateText

/-- Starts the log file, if there is a directory for one. -/
def startLog (files : FileTree) (settings : Settings) (now : Moment) : Except Failure FileTree :=
  match settings.logDir with
  | none => .ok files
  | some path =>
    match files.createDirectories path with
    | .error fault => .error (.logDirectory path fault)
    | .ok files =>
      match files.locate (Machine.joinPath path (logName now)) with
      | .ok location => .ok (files.put location (.file .empty))
      | .error fault => .error (.logDirectory path fault)

def perform (conditions : Conditions) (settings : Settings) (database : Database)
    (task : Agent → Work Printed) : Printed × Database :=
  let world : World Printed :=
    { World.new conditions.now conditions.network with tables := database.tables }
  match settings.originUrl with
  | .error fault => (.error (.settings (.origin fault)), database)
  | .ok origin =>
    let world := { world with cells := [.new settings.skipWaiting] }
    let world := world.start 0 (task ⟨0, settings, origin⟩)
    ((world.finished.head?.map (·.2)).getD (.ok ""), { database with tables := world.tables })

/-- Runs a task on the database of the settings. -/
def runTask (conditions : Conditions) (files : FileTree) (settings : Settings)
    (task : Agent → Work Printed) : Printed × FileTree :=
  match settings.databasePath? conditions.surroundings with
  | none => (.error .noDataDirectory, files)
  | some path =>
    match files.openDatabase path with
    | .error fault => (.error (.database fault), files)
    | .ok (database, files) =>
      let (printed, database) := perform conditions settings database task
      (printed, files.save database)

def runArguments (conditions : Conditions) (arguments : Arguments) : Printed × FileTree :=
  let files := conditions.surroundings.files
  match settings conditions.surroundings arguments with
  | .error fault => (.error (.settings fault), files)
  | .ok settings =>
    match startLog files settings conditions.now with
    | .error failure => (.error failure, files)
    | .ok files =>
      let runs := runTask conditions files settings
      match arguments.command with
      | .serve => runs (serveTask conditions.refusal?)
      | .install => runs installTask
      | .prune => runs pruneTask
      | .stores => runs storesTask
      | .fetch target accept => runs fun agent => fetchTask agent target accept
      | .message signal => (sendMessage conditions.peer settings.listen signal, files)

def run (conditions : Conditions) (words : List String) : Ending × FileTree :=
  let files := conditions.surroundings.files
  match read words with
  | .run arguments =>
    let (printed, files) := runArguments conditions arguments
    (.ofPrinted printed, files)
  | .help verb => (.success (textLines (helpLines verb)), files)
  | .helpOnHelp => (.success (textLines helpOnHelpLines), files)
  | .version => (.success (textLines [versionText]), files)
  | .refused => (.refused, files)

end OfflineAgent.Cli
