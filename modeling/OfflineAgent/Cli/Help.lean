import OfflineAgent.Cli.Arguments

/-!
What the program says about itself.
-/

namespace OfflineAgent.Cli

def programName : String := "stowaway"

def versionText : String := programName ++ " 0.1.0"

def about : Verb → String
  | .serve => "Install the agent and serve requests until ctrl-c (default)"
  | .install => "Precache the manifest into the static store and report the result"
  | .prune => "Delete every store that is not part of the current version"
  | .stores => "List stores, marking current and stale ones"
  | .fetch => "Run a single GET through the agent and print the outcome"
  | .message => "Send a control message to a running agent"

def aboutHelp : String := "Print this message or the help of the given subcommand(s)"

/-- Two columns, the first as wide as its widest cell. -/
def table (rows : List (String × String)) : List String :=
  let width := (rows.map (·.1.length)).foldl max 0
  rows.map fun (cell, text) => "  " ++ padded cell width ' ' ++ "  " ++ text
where
  padded (text : String) (width : Nat) (c : Char) : String :=
    text ++ String.ofList (List.replicate (width - text.length) c)

def flagRow : Flag → String × String
  | .config =>
    ("-c, --config <CONFIG>",
      "Path to config file (default: ./stowaway.yaml or $XDG_CONFIG_HOME/stowaway/config.yaml)")
  | .origin => ("-o, --origin <ORIGIN>", "Upstream origin to resolve intercepted requests against")
  | .accept => ("    --accept <ACCEPT>", "Accept hint, e.g. text/html for a navigation")
  | .help => ("-h, --help", "Print help")
  | .version => ("-V, --version", "Print version")

def flagRows (verb : Option Verb) : List (String × String) :=
  (if verb = some .fetch then [flagRow .accept] else []) ++
    ([.config, .origin, .help].map flagRow) ++
    (if verb.isNone then [flagRow .version] else [])

/-- The operand of a command, in its usage and in the list of arguments. -/
def operand? : Verb → Option (String × String)
  | .fetch => some ("<TARGET>", "Path (resolved against the origin) or absolute URL")
  | .message => some ("<KIND>", "[possible values: skip-waiting, get-version]")
  | _ => none

def part (title : String) (rows : List (String × String)) : List String :=
  if rows.isEmpty then [] else ["", title ++ ":"] ++ table rows

def helpLines : Option Verb → List String
  | none =>
    let commands := Verb.all.map (fun verb => (verb.name, about verb)) ++ [("help", aboutHelp)]
    ["An offline-capable request interception and caching agent", "",
      "Usage: " ++ programName ++ " [OPTIONS] [COMMAND]"] ++
      part "Commands" commands ++ part "Options" (flagRows none)
  | some verb =>
    let usage := "Usage: " ++ programName ++ " " ++ verb.name ++ " [OPTIONS]"
    let operand := operand? verb
    [about verb, "", match operand with
      | some (name, _) => usage ++ " " ++ name
      | none => usage] ++
      part "Arguments" operand.toList ++ part "Options" (flagRows (some verb))

def helpOnHelpLines : List String :=
  [aboutHelp, "", "Usage: " ++ programName ++ " help [COMMAND]..."] ++
    part "Arguments" [("[COMMAND]...", "Print help for the subcommand(s)")]

end OfflineAgent.Cli
