import OfflineAgent.Http.Message

/-!
The grammar of methods, header names and header values, and which headers go from one hop to the
next.
-/

namespace OfflineAgent.Http

def isAlphanumeric (c : Char) : Bool :=
  ('a' ≤ c && c ≤ 'z') || ('A' ≤ c && c ≤ 'Z') || ('0' ≤ c && c ≤ '9')

def isTokenChar (c : Char) : Bool :=
  isAlphanumeric c ||
    ['!', '#', '$', '%', '&', '\'', '*', '+', '-', '.', '^', '_', '\x60', '|', '~'].contains c

def isToken (text : String) : Bool :=
  !text.isEmpty && text.toList.all isTokenChar

def maxNameLength : Nat := 65535

def isHeaderName (name : String) : Bool :=
  isToken name && decide (name.length ≤ maxNameLength)

def isValueByte (b : UInt8) : Bool :=
  (32 ≤ b && b != 127) || b = 9

def isValueChar (c : Char) : Bool :=
  (32 ≤ c.toNat && c.toNat != 127) || c.toNat = 9

def isHeaderValue (value : String) : Bool :=
  value.toList.all isValueChar

def valueText? (value : List UInt8) : Option String :=
  if value.all fun b => (32 ≤ b && b < 127) || b = 9 then
    some (String.ofList (value.map fun b => Char.ofNat b.toNat))
  else none

/-- Headers that belong to one connection and are never passed on. -/
def hopByHopNames : List String :=
  ["connection", "keep-alive", "proxy-authenticate", "proxy-authorization", "te", "trailer",
    "transfer-encoding", "upgrade", "host", "content-length"]

def isHopByHop (name : String) : Bool :=
  hopByHopNames.contains name.toLower

/-- The headers that are passed on: well-formed ones of the message itself, with names in lower
case. -/
def forwarded (headers : Headers) : Headers :=
  (headers.filter fun (name, value) =>
    !isHopByHop name && isHeaderName name && isHeaderValue value).map
    fun (name, value) => (name.toLower, value)

/-- Headers as they come off the wire: names in lower case, values that need not be text. -/
abbrev RawHeaders := List (String × List UInt8)

/-- The headers of a received message that are passed on: those that are text and not of one hop. -/
def received (headers : RawHeaders) : Headers :=
  headers.filterMap fun (name, value) =>
    if isHopByHop name then none else (valueText? value).map fun text => (name, text)

def sorted (headers : Headers) : Headers :=
  headers.mergeSort fun a b => decide (a.1 ≤ b.1)

end OfflineAgent.Http
