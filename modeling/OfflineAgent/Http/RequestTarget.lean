import OfflineAgent.Text.Split

/-!
The target of a request line: a path with an optional query, an absolute URL, an authority, or an
asterisk. What an HTTP server refuses here it refuses before it looks at anything else.
-/

namespace OfflineAgent.Http

/-- Path and query of a target. The path is empty for an authority and `*` for an asterisk. -/
structure RequestTarget where
  path : String
  query : Option String
deriving DecidableEq, Repr

namespace RequestTarget

def maxLength : Nat := 65534

def isPathChar (c : Char) : Bool :=
  let n := c.toNat
  n = 0x21 || (0x24 ≤ n && n ≤ 0x3B) || n = 0x3D || (0x40 ≤ n && n ≤ 0x5F) ||
    (0x61 ≤ n && n ≤ 0x7A) || n = 0x7C || n = 0x7E || 0x7F ≤ n ||
    c = '"' || c = '\x7b' || c = '\x7d'

def isQueryChar (c : Char) : Bool :=
  let n := c.toNat
  n = 0x21 || (0x24 ≤ n && n ≤ 0x3B) || n = 0x3D || (0x3F ≤ n && n ≤ 0x7E) || 0x7F ≤ n

/-- Path and query; a number sign ends either, and what follows is not part of the target. -/
def pathAndQuery (text : List Char) : Option RequestTarget :=
  let text := text.takeWhile (· != '#')
  match Text.cut '?' text with
  | none => if text.all isPathChar then some ⟨String.ofList text, none⟩ else none
  | some (path, query) =>
    if path.all isPathChar && query.all isQueryChar then
      some ⟨String.ofList path, some (String.ofList query)⟩
    else none

def isUnreservedChar (c : Char) : Bool :=
  ('a' ≤ c && c ≤ 'z') || ('A' ≤ c && c ≤ 'Z') || ('0' ≤ c && c ≤ '9') ||
    ['-', '.', '_', '~'].contains c

def isAuthorityChar (c : Char) : Bool :=
  isUnreservedChar c ||
    ['!', '$', '&', '\'', '(', ')', '*', '+', ',', ';', '=', ':', '@', '[', ']'].contains c

structure Scan where
  colons : Nat := 0
  openBracket : Bool := false
  closeBracket : Bool := false
  percent : Bool := false
  at? : Option Nat := none

def Scan.step (index : Nat) (scan : Scan) (c : Char) : Option Scan :=
  if c = ':' then
    if 8 ≤ scan.colons then none else some { scan with colons := scan.colons + 1 }
  else if c = '[' then
    if scan.percent || scan.openBracket then none else some { scan with openBracket := true }
  else if c = ']' then
    if !scan.openBracket || scan.closeBracket then none
    else some { scan with closeBracket := true, colons := 0, percent := false }
  else if c = '@' then some { scan with at? := some index, colons := 0, percent := false }
  else if c = '%' then some { scan with percent := true }
  else if isAuthorityChar c then some scan
  else none

def Scan.run (index : Nat) (scan : Scan) : List Char → Option Scan
  | [] => some scan
  | c :: rest =>
    match scan.step index c with
    | some scan => scan.run (index + 1) rest
    | none => none

/-- Whether a text is a host with optional user information and port. A percent sign may stand only
before the last at sign. -/
def isAuthority (text : List Char) : Bool :=
  match Scan.run 0 {} text with
  | none => false
  | some scan =>
    scan.openBracket = scan.closeBracket && scan.colons ≤ 1 && !text.isEmpty &&
      scan.at? != some (text.length - 1) && !scan.percent

def splitAuthority (text : List Char) : List Char × List Char :=
  text.span fun c => !(c = '/' || c = '?' || c = '#')

def isSchemeChar (c : Char) : Bool :=
  ('a' ≤ c && c ≤ 'z') || ('A' ≤ c && c ≤ 'Z') || ('0' ≤ c && c ≤ '9') ||
    c = '+' || c = '-' || c = '.'

def maxSchemeLength : Nat := 64

def afterScheme? (text : List Char) : Option (List Char) :=
  match text.span isSchemeChar with
  | (scheme, ':' :: '/' :: '/' :: rest) =>
    if maxSchemeLength < scheme.length then none else some rest
  | _ => none

/-- A target with a scheme needs an authority; its path is at least a slash. -/
def absolute (text : List Char) : Option RequestTarget :=
  let (authority, rest) := splitAuthority text
  if isAuthority authority then
    (pathAndQuery rest).map fun target =>
      if target.path.isEmpty then { target with path := "/" } else target
  else none

def parse (text : String) : Option RequestTarget :=
  let chars := text.toList
  if text.utf8ByteSize > maxLength then none
  else
    match chars with
    | [] => none
    | ['*'] => some ⟨"*", none⟩
    | '/' :: _ => pathAndQuery chars
    | _ =>
      match afterScheme? chars with
      | some rest => absolute rest
      | none => if isAuthority chars then some ⟨"", none⟩ else none

end RequestTarget

end OfflineAgent.Http
