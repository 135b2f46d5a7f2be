import OfflineAgent.Http.RequestTarget
import OfflineAgent.Http.Token
import OfflineAgent.Json.Printer

/-!
Requests as they arrive at the server, and its answers.
-/

namespace OfflineAgent.Server

/-- Header names are in lower case; values are bytes, since not all of them are text. -/
structure Incoming where
  method : String
  target : Http.RequestTarget
  headers : Http.RawHeaders
  body : ByteArray

/-- Headers have their names in lower case. -/
structure Answer where
  status : Nat
  headers : Headers
  body : ByteArray
deriving DecidableEq

namespace Incoming

def headerOf? (name value : List UInt8) : Option (String × List UInt8) := do
  let text ← Http.valueText? name
  if Http.isHeaderName text && value.all Http.isValueByte then some (text.toLower, value) else none

/-- A request from its parts; none if one of them is not well-formed. -/
def parse? (method target : String) (headers : List (List UInt8 × List UInt8))
    (body : ByteArray) : Option Incoming := do
  let target ← Http.RequestTarget.parse target
  if !Http.isToken method then none
  let headers ← headers.mapM fun (name, value) => headerOf? name value
  return { method, target, headers, body }

def headerText? (request : Incoming) (name : String) : Option String :=
  match request.headers.find? (·.1 = name) with
  | some (_, value) => Http.valueText? value
  | none => none

end Incoming

namespace Answer

def new (status : Nat) (headers : Headers) (body : ByteArray) : Answer :=
  { status, headers := headers ++ [("content-length", toString body.size)], body }

def text (status : Nat) (body : String) : Answer :=
  new status [("content-type", "text/plain; charset=utf-8")] body.toUTF8

def json (body : Json.Value) : Answer :=
  new 200 [("content-type", "application/json")] body.compact.toUTF8

def empty (status : Nat) : Answer :=
  new status [] .empty

end Answer

end OfflineAgent.Server
