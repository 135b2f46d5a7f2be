import OfflineAgent.Http.Token
import OfflineAgent.Text.Split

/-!
Media types as a content-type header writes them: type, subtype, and parameters, whose values may be
quoted.
-/

namespace OfflineAgent.Http

/-- Type and subtype in lower case. A subtype may end in a plus sign and a suffix. -/
structure MediaType where
  type : String
  subtype : String
  suffix : Option String
deriving DecidableEq, Repr

namespace MediaType

def isQuotedChar (c : Char) : Bool :=
  31 < c.toNat && c.toNat != 127

/-- What follows an opening quotation mark: the text after the closing one. A quotation mark right
after the opening one belongs to the value. -/
def afterQuoted? : List Char → Option (List Char)
  | c :: rest =>
    match rest.span fun c => c != '"' && isQuotedChar c with
    | (_, '"' :: after) => if isQuotedChar c then some after else none
    | _ => none
  | [] => none

def afterValue? (text : List Char) : Option (List Char) :=
  match text with
  | '"' :: rest => (afterQuoted? rest).map (·.dropWhile (· = ' '))
  | _ =>
    let (word, after) := text.span isTokenChar
    if word.isEmpty && !after.isEmpty then none else some after

/-- Parameters after a semicolon. Blanks may stand before a name, and after a value in quotes. Each
parameter takes characters, so `fuel` may be their number. -/
def areParameters : Nat → List Char → Bool
  | 0, text => text.isEmpty
  | fuel + 1, text =>
    match (text.dropWhile (· = ' ')).span isTokenChar with
    | ([], []) => true
    | (_ :: _, '=' :: value) =>
      match afterValue? value with
      | some [] => true
      | some (';' :: rest) => areParameters fuel rest
      | _ => false
    | _ => false

/-- Cuts a suffix off a subtype at its last plus sign, unless that is its first character. -/
def splitSuffix (subtype : List Char) : List Char × Option (List Char) :=
  match subtype with
  | c :: rest =>
    match Text.cutLast '+' rest with
    | some (front, suffix) => (c :: front, some suffix)
    | none => (subtype, none)
  | [] => ([], none)

def parse? (text : String) : Option MediaType :=
  let lower := fun chars => (String.ofList chars).toLower
  match text.toList.span isTokenChar with
  | (type, '/' :: rest) =>
    let (subtype, rest) := rest.span isTokenChar
    let valid := match rest with
      | [] => true
      | ';' :: rest => !subtype.isEmpty && areParameters (rest.length + 1) rest
      | _ => false
    if type.isEmpty || !valid then none
    else
      let (front, suffix) := splitSuffix subtype
      some ⟨lower type, lower front, suffix.map lower⟩
  | _ => none

def isJson (type : MediaType) : Bool :=
  type.type = "application" && (type.subtype = "json" || type.suffix = some "json")

end MediaType

end OfflineAgent.Http
