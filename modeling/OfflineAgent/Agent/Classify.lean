import OfflineAgent.Http.Message
import OfflineAgent.Settings.Basic

/-!
What kind of request an intercepted one is, and how such requests are answered.
-/

namespace OfflineAgent

inductive Strategy where
  | networkFirst
  | cacheFirst
  | staleWhileRevalidate
deriving DecidableEq, Repr

def Strategy.name : Strategy → String
  | networkFirst => "network_first"
  | cacheFirst => "cache_first"
  | staleWhileRevalidate => "stale_while_revalidate"

inductive RequestClass where
  | api
  | staticAsset
  | navigation
  | other
deriving DecidableEq, Repr

namespace RequestClass

def name : RequestClass → String
  | api => "api"
  | staticAsset => "static"
  | navigation => "navigation"
  | other => "other"

def strategy : RequestClass → Strategy
  | api | other => .networkFirst
  | staticAsset => .cacheFirst
  | navigation => .staleWhileRevalidate

/-- The extension of the last segment of a path, in lower case. A segment that is a dot alone has
none. -/
def extension? (path : String) : Option String :=
  let segment := match Text.cutLast '/' path.toList with
    | some (_, segment) => segment
    | none => path.toList
  match Text.cutLast '.' segment with
  | some ([], []) => none
  | some (_, extension) => some (String.ofList extension).toLower
  | none => none

def occursIn (text : List Char) : List Char → Bool
  | [] => text.isEmpty
  | c :: rest => text.isPrefixOf (c :: rest) || occursIn text rest

def wantsHtml (accept : Option String) : Bool :=
  match accept with
  | some hint => occursIn "text/html".toList hint.toLower.toList
  | none => false

/-- The class of a request; none if the agent leaves it alone: if it is no GET, or goes to no web
server. -/
def ofRequest? (settings : Settings) (request : Request) : Option RequestClass :=
  if (request.url.scheme ≠ "http" ∧ request.url.scheme ≠ "https") ∨ !request.isGet then none
  else
    let path := request.url.path.text
    if settings.apiPrefixes.any fun start => start.toList.isPrefixOf path.toList then some api
    else if (extension? path).any settings.staticExtensions.contains then some staticAsset
    else if wantsHtml request.accept then some navigation
    else some other

end RequestClass

end OfflineAgent
