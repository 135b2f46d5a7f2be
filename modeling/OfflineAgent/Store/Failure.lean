import OfflineAgent.Calendar

/-!
Why a call on the stores gives no answer.
-/

namespace OfflineAgent.Store

inductive Failure where
  /-- The disk refuses the call. -/
  | unavailable
  /-- The call was cut off, and nobody knows how far it came. -/
  | abandoned
  /-- The row found in a store has a status outside 16 bits. -/
  | statusInStore (url store : String) (status : Int)
  /-- The row found in any store has one. -/
  | statusInAny (url : String) (status : Int)
  | headers (url reason : String)
  | time (text : String) (fault : Moment.Fault)
deriving DecidableEq, Repr

def statusReason (status : Int) : String :=
  "Integer " ++ toString status ++ " out of range at index 2"

def Failure.message : Failure → String
  | unavailable => "disk unavailable"
  | abandoned => "Store task failed"
  | statusInStore url store status =>
    "Failed to read " ++ url ++ " from " ++ store ++ ": " ++ statusReason status
  | statusInAny url status => "Failed to match " ++ url ++ ": " ++ statusReason status
  | headers url reason => "Failed to deserialize headers for " ++ url ++ ": " ++ reason
  | time text fault => "Failed to parse datetime '" ++ text ++ "': " ++ fault.message

end OfflineAgent.Store
