import OfflineAgent.Text.Lowercase
import OfflineAgent.Url.Parser

/-!
Settings of an agent: their defaults, the store names they imply and the origin they name.
-/

namespace OfflineAgent

structure Settings where
  /-- Where intercepted paths are resolved. -/
  origin : String
  /-- The address to listen on. -/
  listen : String
  /-- What the names of all stores of this agent start with. -/
  cachePrefix : String
  /-- With another version, all stores of earlier ones are stale. -/
  version : String
  /-- Whether to activate right after the installation. -/
  skipWaiting : Bool
  /-- Paths that start with one of these are API requests. -/
  apiPrefixes : List String
  /-- Extensions of static assets: without dot, in lower case, ascending. -/
  staticExtensions : List String
  /-- Paths that are stored on installation. -/
  precache : List String
  /-- The page served to navigations when nothing else is there. -/
  offlinePage : String
  /-- The tag of the background sync that refreshes the precached paths. -/
  syncTag : String
  /-- The title of notifications. -/
  appName : String
  requestTimeout : Nat
  database : Option String
  logDir : Option String
deriving DecidableEq, Repr

namespace Settings

/-- Puts a text into an ascending list that does not hold it yet. -/
def insertSorted (text : String) : List String → List String
  | [] => [text]
  | head :: rest =>
    if text < head then text :: head :: rest
    else if text = head then head :: rest
    else head :: insertSorted text rest

def extension (text : String) : String :=
  Text.lower (String.ofList (text.toList.dropWhile (· = '.')))

/-- Extensions as they are kept, whatever dots, letter case, order and repeats they come in. -/
def extensionSet (texts : List String) : List String :=
  texts.foldl (fun set text => insertSorted (extension text) set) []

def default : Settings where
  origin := "http://127.0.0.1:8000"
  listen := "127.0.0.1:8787"
  cachePrefix := "stowaway"
  version := "v1"
  skipWaiting := true
  apiPrefixes := ["/api/"]
  staticExtensions := extensionSet
    ["css", "js", "mjs", "png", "jpg", "jpeg", "gif", "svg", "webp", "ico", "woff", "woff2", "ttf",
      "otf", "eot"]
  precache :=
    ["/", "/index.html", "/static/css/main.css", "/static/js/main.js", "/manifest.json",
      "/offline.html"]
  offlinePage := "/offline.html"
  syncTag := "background-sync"
  appName := "Stowaway"
  requestTimeout := 30
  database := none
  logDir := none

/-- The store of precached and cache-first resources. -/
def staticStore (settings : Settings) : String :=
  settings.cachePrefix ++ "-static-" ++ settings.version

/-- The store of network-first and revalidated responses. -/
def dynamicStore (settings : Settings) : String :=
  settings.cachePrefix ++ "-dynamic-" ++ settings.version

/-- The stores that survive an activation. -/
def whitelist (settings : Settings) : List String :=
  [settings.staticStore, settings.dynamicStore]

def versionId (settings : Settings) : String :=
  settings.cachePrefix ++ "-" ++ settings.version

inductive OriginFault where
  | invalid (origin : String) (fault : Url.Fault)
  | scheme (scheme : String)
  | path (path origin : String)
deriving DecidableEq, Repr

def OriginFault.message : OriginFault → String
  | invalid origin fault => "Invalid origin '" ++ origin ++ "': " ++ fault.message
  | scheme name => "Origin must be http or https, got '" ++ name ++ "'"
  | path text origin =>
    "Origin must not have a path, got '" ++ text ++ "' in '" ++ origin ++ "'"

/-- The origin as a URL. Paths are resolved from its root, so it must have none of its own. -/
def originUrl (settings : Settings) : Except OriginFault Url :=
  match Url.parse settings.origin with
  | .error fault => .error (.invalid settings.origin fault)
  | .ok url =>
    if url.scheme ≠ "http" ∧ url.scheme ≠ "https" then .error (.scheme url.scheme)
    else if url.path.text ≠ "/" then .error (.path url.path.text settings.origin)
    else .ok url

end Settings

end OfflineAgent
