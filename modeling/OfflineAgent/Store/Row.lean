import OfflineAgent.Json.Printer
import OfflineAgent.Json.Typed
import OfflineAgent.Store.Entry
import OfflineAgent.Store.Failure

/-!
Entries as rows of text: headers as JSON, times as `YYYY-MM-DD HH:MM:SS`. A row may be damaged, so
reading it can fail.
-/

namespace OfflineAgent.Store

structure Row where
  store : String
  hash : String
  method : String
  url : String
  status : Int
  headers : String
  body : ByteArray
  cachedAt : String
deriving DecidableEq

namespace Row

/-- The row of a response that is stored at a moment. -/
def encode (store : String) (key : Key) (response : Response) (now : Moment) : Row :=
  { store
    hash := key.hash
    method := key.method
    url := key.url
    status := response.status.toNat
    headers := (Json.stringPairs response.headers).compact
    body := response.body
    cachedAt := now.stored }

def status? (row : Row) : Option UInt16 :=
  if 0 ≤ row.status ∧ row.status < 65536 then some (UInt16.ofNat row.status.toNat) else none

/-- The entry of a row whose status is `status`. -/
def decode (row : Row) (status : UInt16) : Except Failure Entry :=
  let text := row.headers.toUTF8.toList
  match Json.parseStringPairs text with
  | .error fault => .error (.headers row.url (fault.message text))
  | .ok headers =>
    match Moment.parse row.cachedAt with
    | .error fault => .error (.time row.cachedAt fault)
    | .ok cachedAt =>
      .ok { key := ⟨row.method, row.url⟩, response := ⟨status, headers, row.body⟩, cachedAt }

/-- The entry of a row, where `badStatus` names the failure of a status outside 16 bits. -/
def read (row : Row) (badStatus : Int → Failure) : Except Failure Entry :=
  match row.status? with
  | some status => row.decode status
  | none => .error (badStatus row.status)

end Row

end OfflineAgent.Store
