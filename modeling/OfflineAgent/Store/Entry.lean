import OfflineAgent.Calendar
import OfflineAgent.Store.Key

/-!
What a store holds under a key, and what a client is served.
-/

namespace OfflineAgent

namespace Store

structure Entry where
  key : Key
  response : Response
  cachedAt : Moment
deriving DecidableEq

end Store

inductive Source where
  | network
  | cache
  | fallback
deriving DecidableEq, Repr

def Source.name : Source → String
  | network => "network"
  | cache => "cache"
  | fallback => "fallback"

structure Served where
  response : Response
  source : Source
  cachedAt : Option Moment
deriving DecidableEq

namespace Served

def ofNetwork (response : Response) : Served :=
  ⟨response, .network, none⟩

def ofCache (entry : Store.Entry) : Served :=
  ⟨entry.response, .cache, some entry.cachedAt⟩

def ofFallback (response : Response) : Served :=
  ⟨response, .fallback, none⟩

end Served

end OfflineAgent
