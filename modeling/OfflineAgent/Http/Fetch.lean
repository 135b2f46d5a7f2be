import OfflineAgent.Http.Message

/-!
Why a request got no response at all. A response of any status is no failure.
-/

namespace OfflineAgent

inductive FetchFailure where
  | invalidMethod (method : String)
  | noResponse (url : Url) (reason : String)
  /-- The response broke off before its end. -/
  | truncated (url : Url)
deriving DecidableEq, Repr

def FetchFailure.message : FetchFailure → String
  | invalidMethod method => "Invalid method " ++ method ++ ": invalid HTTP method"
  | noResponse url reason => "Failed to fetch " ++ url.text ++ ": " ++ reason
  | truncated url =>
    "Failed to read response body from " ++ url.text ++ ": error decoding response body"

end OfflineAgent
