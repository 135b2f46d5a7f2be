import OfflineAgent.Machine.Database
import OfflineAgent.Settings.Load

/-!
Why a run ends without what was asked for.
-/

namespace OfflineAgent.Cli

inductive Failure where
  | settings (fault : Settings.LoadFault)
  | logDirectory (path : String) (fault : Machine.FileFault)
  | noDataDirectory
  | database (fault : Machine.DatabaseFault)
  | storage (failure : Store.Failure)
  | target (text : String) (fault : Url.Fault)
  | listenAddress (text : String)
  | listen (address reason : String)
  | unreached (endpoint reason : String)
  | brokenReply
deriving DecidableEq, Repr

def Failure.message : Failure → String
  | settings fault => fault.message
  | logDirectory path fault =>
    "Failed to create log directory " ++ path ++ ": " ++ fault.message
  | noDataDirectory => "Could not determine data directory"
  | database fault => fault.message
  | storage failure => failure.message
  | target text fault => "Invalid target '" ++ text ++ "': " ++ fault.message
  | listenAddress text =>
    "Invalid listen address '" ++ text ++ "': invalid socket address syntax"
  | listen address reason => "Failed to bind " ++ address ++ ": " ++ reason
  | unreached endpoint reason => "Failed to reach agent at " ++ endpoint ++ ": " ++ reason
  | brokenReply => "Failed to read agent reply: error decoding response body"

end OfflineAgent.Cli
