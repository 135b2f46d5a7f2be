/-!
A parsed URL: scheme, authority, path, query and fragment as they are written, and its text.
-/

namespace OfflineAgent

inductive Host where
  /-- A name; empty where an authority is written without one. -/
  | named (text : String)
  | ipv4 (address : Nat)
  | ipv6 (pieces : List Nat)
deriving DecidableEq, Repr

inductive Path where
  /-- The path of a URL that is no base for others, such as `mailto:` and `data:` ones. -/
  | rootless (text : String)
  /-- Segments, each after a slash. -/
  | segments (list : List String)
deriving DecidableEq, Repr

/-- All parts are percent-encoded where their place demands it. `host` is absent where no
authority is written, and `port` also where it is the scheme's default. -/
structure Url where
  scheme : String
  username : String
  password : Option String
  host : Option Host
  port : Option Nat
  path : Path
  query : Option String
  fragment : Option String
deriving DecidableEq, Repr

namespace Host

/-- The longest run of zeros among the pieces, of two at least: where it starts and its length. -/
def zeroRun (pieces : List Nat) : Option (Nat × Nat) :=
  let runs := (List.range pieces.length).map fun i =>
    (i, ((pieces.drop i).takeWhile (· = 0)).length)
  let best := runs.foldl (fun best run => if best.2 < run.2 then run else best) (0, 1)
  if best.2 < 2 then none else some best

def hexPieces (pieces : List Nat) : String :=
  ":".intercalate (pieces.map fun n => String.ofList (Nat.toDigits 16 n))

def ipv6Text (pieces : List Nat) : String :=
  match zeroRun pieces with
  | none => hexPieces pieces
  | some (start, length) =>
    hexPieces (pieces.take start) ++ "::" ++ hexPieces (pieces.drop (start + length))

def ipv4Text (address : Nat) : String :=
  ".".intercalate ([24, 16, 8, 0].map fun shift => toString (address >>> shift % 256))

def text : Host → String
  | named text => text
  | ipv4 address => ipv4Text address
  | ipv6 pieces => "[" ++ ipv6Text pieces ++ "]"

end Host

namespace Path

def text : Path → String
  | rootless text => text
  | segments list => String.join (list.map ("/" ++ ·))

/-- Without an authority before it, a path that starts with two slashes is written after `/.`,
since it would read as an authority. -/
def needsGuard : Path → Bool
  | segments ("" :: _ :: _) => true
  | _ => false

end Path

namespace Url

def isSpecialScheme (scheme : String) : Bool :=
  ["http", "https", "ws", "wss", "ftp", "file"].contains scheme

def isSpecial (url : Url) : Bool :=
  isSpecialScheme url.scheme

def defaultPort? (scheme : String) : Option Nat :=
  if scheme = "http" ∨ scheme = "ws" then some 80
  else if scheme = "https" ∨ scheme = "wss" then some 443
  else if scheme = "ftp" then some 21
  else none

def isRootless (url : Url) : Bool :=
  match url.path with
  | .rootless _ => true
  | .segments _ => false

def credentials (url : Url) : String :=
  match url.username, url.password with
  | "", none => ""
  | name, none => name ++ "@"
  | name, some word => name ++ ":" ++ word ++ "@"

def authority (url : Url) : String :=
  match url.host with
  | none => if url.path.needsGuard then "/." else ""
  | some host =>
    "//" ++ url.credentials ++ host.text ++
      match url.port with
      | none => ""
      | some port => ":" ++ toString port

def queryText (url : Url) : String :=
  match url.query with
  | none => ""
  | some query => "?" ++ query

def fragmentText (url : Url) : String :=
  match url.fragment with
  | none => ""
  | some fragment => "#" ++ fragment

def text (url : Url) : String :=
  url.scheme ++ ":" ++ url.authority ++ url.path.text ++ url.queryText ++ url.fragmentText

instance : ToString Url := ⟨text⟩

/-- Blanks at the end of a rootless path are kept only in front of a query or fragment. -/
def dropTrailingBlanks (url : Url) : Url :=
  match url.path, url.query, url.fragment with
  | .rootless text, none, none =>
    { url with path := .rootless (String.ofList (text.toList.reverse.dropWhile (· = ' ')).reverse) }
  | _, _, _ => url

def withoutFragment (url : Url) : Url :=
  match url.fragment with
  | none => url
  | some _ => { url with fragment := none }.dropTrailingBlanks

end Url

end OfflineAgent
