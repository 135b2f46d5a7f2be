import OfflineAgent.Url.Basic

/-!
Requests and responses as the agent sees them.
-/

namespace OfflineAgent

instance (priority := high) decidableEqBody : DecidableEq ByteArray := ByteArray.instDecidableEq

/-- Names with values, in order; a name may repeat. -/
abbrev Headers := List (String × String)

/-- `accept` is what the client said it takes, kept apart from the headers. -/
structure Request where
  method : String
  url : Url
  accept : Option String
  headers : Headers
  body : ByteArray
deriving DecidableEq

structure Response where
  status : UInt16
  headers : Headers
  body : ByteArray
deriving DecidableEq

namespace Headers

def find? (headers : Headers) (name : String) : Option String :=
  (List.find? (fun header => header.1.toLower = name.toLower) headers).map (·.2)

end Headers

namespace Request

/-- Methods are compared in upper case, so they are kept in it. -/
def new (method : String) (url : Url) : Request :=
  { method := method.toUpper, url, accept := none, headers := [], body := .empty }

def get (url : Url) : Request :=
  new "GET" url

def isGet (request : Request) : Bool :=
  request.method = "GET"

end Request

namespace Response

def new (status : UInt16) (body : String) : Response :=
  { status, headers := [], body := body.toUTF8 }

def withHeader (response : Response) (name value : String) : Response :=
  { response with headers := response.headers ++ [(name, value)] }

def header? (response : Response) (name : String) : Option String :=
  response.headers.find? name

def isSuccess (response : Response) : Bool :=
  200 ≤ response.status && response.status < 300

/-- A response that may be stored: a success that holds the whole resource. A 206 covers a part and
must never stand in for the whole. -/
def isComplete (response : Response) : Bool :=
  response.isSuccess && response.status != 206

end Response

end OfflineAgent
