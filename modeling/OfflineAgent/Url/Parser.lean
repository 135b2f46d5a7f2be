import OfflineAgent.Url.Host

/-!
Reading a URL, alone or relative to a base, by the rules that browsers share. Blanks around the
text and tabs and line ends inside it do not count. Main functions: `Url.parse`, `Url.join`,
`Url.setPath`, `Url.setQuery`.
-/

namespace OfflineAgent.Url

inductive Kind where
  | web
  | file
  | other
deriving DecidableEq, Repr

def Kind.ofScheme (scheme : String) : Kind :=
  if scheme = "file" then .file
  else if isSpecialScheme scheme then .web
  else .other

def Kind.isSpecial (kind : Kind) : Bool :=
  kind != .other

def isAlpha (c : Char) : Bool :=
  ('a' ≤ c && c ≤ 'z') || ('A' ≤ c && c ≤ 'Z')

def isSchemeChar (c : Char) : Bool :=
  isAlpha c || Host.isDigit c || c = '+' || c = '-' || c = '.'

def isSlash (c : Char) : Bool :=
  c = '/' || c = '\\'

/-- Whether a character parts segments: a backslash does so in special schemes only. -/
def Kind.isSeparator (kind : Kind) (c : Char) : Bool :=
  c = '/' || (kind.isSpecial && c = '\\')

def endsPath (c : Char) : Bool :=
  c = '?' || c = '#'

def splitScheme (input : List Char) : Option (String × List Char) :=
  match input.span isSchemeChar with
  | (c :: scheme, ':' :: rest) =>
    if isAlpha c then some (String.ofList ((c :: scheme).map Char.toLower), rest) else none
  | _ => none

/-! Paths -/

def isDot (piece : List Char) : Bool :=
  [".", "%2e", "%2E"].contains (String.ofList piece)

def isDoubleDot (piece : List Char) : Bool :=
  ["..", "%2e%2e", "%2e.", ".%2e"].contains (String.ofList (piece.map Char.toLower))

/-- A letter and a colon or bar: it stands for a disk in file paths. -/
def isDrive (segment : List Char) : Bool :=
  match segment with
  | [c, mark] => isAlpha c && (mark = ':' || mark = '|')
  | _ => false

def startsWithDrive : List Char → Bool
  | c :: mark :: rest =>
    isDrive [c, mark] &&
      match rest with
      | [] => true
      | next :: _ => isSlash next || endsPath next
  | _ => false

/-- The segments without the last one. One that looks like a disk is never given up. -/
def shorten (segments : List String) : List String :=
  match segments.getLast? with
  | some last => if startsWithDrive last.toList then segments else segments.dropLast
  | none => []

def segment (kind : Kind) (isFirst : Bool) (piece : List Char) : String :=
  match kind, isFirst, piece with
  | .file, true, [c, mark] =>
    if isDrive [c, mark] then String.ofList [c, ':'] else Percent.encode Percent.path piece
  | _, _, _ => Percent.encode Percent.path piece

/-- The segments `done` followed by the pieces of a path, with dots resolved. -/
def resolve (kind : Kind) (done : List String) : List (List Char) → List String
  | [] => done
  | [last] =>
    if isDoubleDot last then shorten done ++ [""]
    else if isDot last then done ++ [""]
    else done ++ [segment kind done.isEmpty last]
  | piece :: rest =>
    if isDoubleDot piece then resolve kind (shorten done) rest
    else if isDot piece then resolve kind done rest
    else resolve kind (done ++ [segment kind done.isEmpty piece]) rest

/-- File paths do not begin with empty segments, unless there is nothing else. -/
def trimEmpty : List String → List String
  | "" :: next :: rest => trimEmpty (next :: rest)
  | segments => segments

def pathFrom (kind : Kind) (done : List String) (text : List Char) : Path :=
  let segments := resolve kind done (Text.splitWhere kind.isSeparator text)
  .segments (if kind = .file then trimEmpty segments else segments)

/-- The path that a text writes after an authority. In special schemes there always is one. -/
def pathAfterAuthority (kind : Kind) (text : List Char) : Path :=
  match text with
  | [] => if kind.isSpecial then .segments [""] else .segments []
  | c :: rest => pathFrom kind [] (if kind.isSeparator c then rest else c :: rest)

/-! Queries and fragments -/

def querySet (kind : Kind) : Percent.Set :=
  if kind.isSpecial then Percent.specialQuery else Percent.query

def fragmentOf (text : List Char) : String :=
  Percent.encode Percent.fragment text

/-- The query and the fragment at the end of an input; it is empty or starts with their sign. -/
def suffix (kind : Kind) (input : List Char) : Option String × Option String :=
  match input with
  | '?' :: rest =>
    match Text.cut '#' rest with
    | some (query, fragment) =>
      (some (Percent.encode (querySet kind) query), some (fragmentOf fragment))
    | none => (some (Percent.encode (querySet kind) rest), none)
  | '#' :: rest => (none, some (fragmentOf rest))
  | _ => (none, none)

def withSuffix (url : Url) (input : List Char) : Url :=
  let (query, fragment) := suffix (.ofScheme url.scheme) input
  { url with query, fragment }

def splitPath (input : List Char) : List Char × List Char :=
  input.span (!endsPath ·)

/-! Authorities -/

def splitAuthority (kind : Kind) (input : List Char) : List Char × List Char :=
  input.span fun c => !(endsPath c || kind.isSeparator c)

/-- User name and password. A password is absent if nothing follows the colon. -/
def credentialsOf (text : List Char) : String × Option String :=
  match Text.cut ':' text with
  | none => (Percent.encode Percent.userinfo text, none)
  | some (name, []) => (Percent.encode Percent.userinfo name, none)
  | some (name, word) =>
    (Percent.encode Percent.userinfo name, some (Percent.encode Percent.userinfo word))

/-- What lies before a colon outside brackets, and from that colon on. -/
def splitPort (isBracketed : Bool) : List Char → List Char × List Char
  | [] => ([], [])
  | c :: rest =>
    if c = ':' && !isBracketed then ([], c :: rest)
    else
      let isBracketed := c = '[' || (c != ']' && isBracketed)
      let (host, port) := splitPort isBracketed rest
      (c :: host, port)

/-- A port after its colon, and where it ends: at a slash of either kind, a query or a fragment. -/
def parsePort (scheme : String) (text : List Char) : Except Fault (Option Nat × List Char) :=
  let (digits, rest) := text.span Host.isDigit
  let port := Host.radixValue 10 digits
  if 65535 < port then .error .invalidPort
  else
    match rest with
    | [] => .ok (kept digits port, [])
    | c :: rest =>
      if isSlash c || endsPath c then .ok (kept digits port, c :: rest) else .error .invalidPort
where
  kept (digits : List Char) (port : Nat) : Option Nat :=
    if digits.isEmpty ∨ defaultPort? scheme = some port then none else some port

def parseAuthority (scheme : String) (input : List Char) : Except Fault Url := do
  let kind := Kind.ofScheme scheme
  let (authority, rest) := splitAuthority kind input
  let (userinfo, hostport) := match Text.cutLast '@' authority with
    | some (userinfo, hostport) => (some userinfo, hostport)
    | none => (none, authority)
  if userinfo = some [] ∧ hostport = [] ∧ rest ≠ [] then throw .emptyHost
  let (username, password) := match userinfo with
    | some text => credentialsOf text
    | none => ("", none)
  let (hostText, portText) := splitPort false hostport
  if kind = .web ∧ hostText.isEmpty then throw .emptyHost
  let host ← if kind.isSpecial then Host.parse hostText else Host.parseOpen hostText
  if host = .named "" ∧ !portText.isEmpty then throw .emptyHost
  let (port, afterPort) ← match portText with
    | _ :: text => parsePort scheme (text ++ rest)
    | [] => pure (none, rest)
  if host = .named "" ∧ (username ≠ "" ∨ password.isSome) then throw .emptyHost
  let (path, tail) := splitPath afterPort
  let url : Url :=
    { scheme, username, password, host := some host, port,
      path := pathAfterAuthority kind path, query := none, fragment := none }
  return withSuffix url tail

/-! File URLs -/

def fileUrl (host : Host) (path : Path) (tail : List Char) : Url :=
  withSuffix
    { scheme := "file", username := "", password := none, host := some host, port := none,
      path, query := none, fragment := none } tail

/-- The segments of a base that a relative file path stands beside. -/
def folder (kind : Kind) (segments : List String) : List String :=
  match kind, segments with
  | .file, [drive] => if isDrive drive.toList then [drive] else []
  | _, _ => segments.dropLast

def Path.list : Path → List String
  | .segments list => list
  | .rootless _ => []

/-- A file URL after two slashes: a host, which may be left out or be this machine, and a path. -/
def parseFileHost (input : List Char) : Except Fault Url := do
  let (authority, rest) := input.span fun c => !(isSlash c || endsPath c)
  if isDrive authority then
    let (path, tail) := splitPath input
    return fileUrl (.named "") (pathFrom .file [] path) tail
  else
    let host ← if authority.isEmpty then pure (Host.named "") else Host.parse authority
    let host := if host = .named "localhost" then .named "" else host
    let (path, tail) := splitPath rest
    return fileUrl host (pathAfterAuthority .file path) tail

def parseFile (base : Option Url) (input : List Char) : Except Fault Url :=
  match input with
  | a :: b :: rest =>
    if isSlash a && isSlash b then parseFileHost rest
    else .ok (relative input)
  | _ => .ok (relative input)
where
  relative (input : List Char) : Url :=
    let (path, tail) := splitPath input
    match base, input with
    | none, _ => fileUrl (.named "") (pathAfterAuthority .file path) tail
    | some base, [] => base.withoutFragment
    | some base, c :: rest =>
      if isSlash c then
        let (path, tail) := splitPath rest
        if startsWithDrive rest then fileUrl (.named "") (pathFrom .file [] path) tail
        else
          match (Path.list base.path).head? with
          | some first =>
            if isDrive first.toList then fileUrl (.named "") (pathFrom .file [first] path) tail
            else fileUrl (base.host.getD (.named "")) (pathFrom .file [] path) tail
          | none => fileUrl (base.host.getD (.named "")) (pathFrom .file [] path) tail
      else if c = '?' then withSuffix { base with fragment := none } input
      else if c = '#' then { base with fragment := some (fragmentOf rest) }
      else if startsWithDrive input then fileUrl (.named "") (pathFrom .file [] path) tail
      else
        let segments := folder .file (Path.list base.path)
        withSuffix { base with path := pathFrom .file segments path } tail

/-! Relative and absolute URLs -/

/-- An input without a scheme of its own, read from `base`. A backslash counts as a slash here in
every scheme. -/
def parseRelative (base : Url) (input : List Char) : Except Fault Url :=
  let kind := Kind.ofScheme base.scheme
  match input with
  | [] => .ok base.withoutFragment
  | '?' :: _ => .ok (withSuffix { base with fragment := none } input)
  | '#' :: rest => .ok { base with fragment := some (fragmentOf rest) }
  | '/' :: '/' :: rest => parseAuthority base.scheme rest
  | c :: rest =>
    if isSlash c then
      match rest with
      | d :: _ =>
        if isSlash d then parseAuthority base.scheme (rest.dropWhile isSlash)
        else rooted kind rest
      | [] => rooted kind rest
    else
      let (path, tail) := splitPath input
      let segments := folder kind (Path.list base.path)
      .ok (withSuffix { base with path := pathFrom kind segments path } tail)
where
  rooted (kind : Kind) (rest : List Char) : Except Fault Url :=
    let (path, tail) := splitPath rest
    .ok (withSuffix { base with path := pathFrom kind [] path } tail)

def parseOther (scheme : String) (input : List Char) : Except Fault Url :=
  match input with
  | '/' :: '/' :: rest => parseAuthority scheme rest
  | _ =>
    let (text, tail) := splitPath input
    let path := match text with
      | '/' :: rest => pathFrom .other [] rest
      | _ => .rootless (Percent.encode Percent.control text)
    .ok (withSuffix
      { scheme, username := "", password := none, host := none, port := none,
        path, query := none, fragment := none } tail)

def parseWithScheme (base : Option Url) (scheme : String) (input : List Char) : Except Fault Url :=
  match Kind.ofScheme scheme with
  | .other => parseOther scheme input
  | .file => parseFile (base.filter (·.scheme = "file")) input
  | .web =>
    let (slashes, rest) := input.span isSlash
    match base with
    | some url =>
      if slashes.length < 2 ∧ url.scheme = scheme then parseRelative url input
      else parseAuthority scheme rest
    | none => parseAuthority scheme rest

def parseInput (base : Option Url) (input : List Char) : Except Fault Url :=
  match splitScheme input with
  | some (scheme, rest) => parseWithScheme base scheme rest
  | none =>
    match base with
    | none => .error .relativeWithoutBase
    | some url =>
      match input with
      | '#' :: rest => .ok { url with fragment := some (fragmentOf rest) }
      | _ =>
        if url.isRootless then .error .relativeToRootless
        else if url.scheme = "file" then parseFile base input
        else parseRelative url input

def isIgnored (c : Char) : Bool :=
  c = '\t' || c = '\n' || c = '\r'

def cleaned (text : String) : List Char :=
  let blank := fun c : Char => decide (c.toNat ≤ 0x20)
  (((text.toList.dropWhile blank).reverse.dropWhile blank).reverse).filter (!isIgnored ·)

def parse (text : String) : Except Fault Url :=
  parseInput none (cleaned text)

def join (base : Url) (text : String) : Except Fault Url :=
  parseInput (some base) (cleaned text)

/-! Changing a part -/

/-- The URL with another path, in which question and number signs are text. -/
def setPath (url : Url) (text : String) : Url :=
  let input := text.toList.filter (!isIgnored ·)
  match url.path with
  | .rootless _ =>
    match input with
    | '/' :: rest =>
      { url with path := .rootless ("%2F" ++ Percent.encode Percent.control rest) }
    | _ => { url with path := .rootless (Percent.encode Percent.control input) }
  | .segments _ => { url with path := pathAfterAuthority (.ofScheme url.scheme) input }

def setQuery (url : Url) (text : Option String) : Url :=
  match text with
  | none => { url with query := none }.dropTrailingBlanks
  | some text =>
    let input := text.toList.filter (!isIgnored ·)
    { url with query := some (Percent.encode (querySet (.ofScheme url.scheme)) input) }

end OfflineAgent.Url
