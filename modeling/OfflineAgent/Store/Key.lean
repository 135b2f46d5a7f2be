import OfflineAgent.Digest.Sha256
import OfflineAgent.Http.Message
import OfflineAgent.Text.Hex

/-!
The key under which a response is stored: a method in upper case and a URL without fragment, since
fragments never reach the network.
-/

namespace OfflineAgent.Store

structure Key where
  method : String
  url : String
deriving DecidableEq, Repr

namespace Key

def new (method : String) (url : Url) : Key :=
  { method := method.toUpper, url := url.withoutFragment.text }

def get (url : Url) : Key :=
  new "GET" url

def ofRequest (request : Request) : Key :=
  new request.method request.url

/-- Only responses to GET are stored. -/
def isStorable (key : Key) : Bool :=
  key.method = "GET"

/-- The bytes that identify a key. -/
def identity (key : Key) : ByteArray :=
  (key.method ++ " " ++ key.url).toUTF8

def hash (key : Key) : String :=
  Hex.encode (Sha256.digest key.identity)

end Key

end OfflineAgent.Store
