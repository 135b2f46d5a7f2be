import OfflineAgent.Store.Tables

/-!
The calls on the stores. Each is atomic on its own, and nothing spans two of them.
-/

namespace OfflineAgent.Store

inductive Call where
  | openStore (name : String)
  | get (store : String) (key : Key)
  | put (store : String) (key : Key) (response : Response)
  | matchAny (key : Key)
  | names
  | delete (name : String)
deriving DecidableEq

namespace Call

abbrev Answer : Call → Type
  | openStore _ => Unit
  | get _ _ => Option Entry
  | put _ _ _ => Unit
  | matchAny _ => Option Entry
  | names => List String
  | delete _ => Bool

inductive Kind where
  | openStore
  | get
  | put
  | matchAny
  | names
  | delete
deriving DecidableEq, Repr

def kind : Call → Kind
  | openStore _ => .openStore
  | get _ _ => .get
  | put _ _ _ => .put
  | matchAny _ => .matchAny
  | names => .names
  | delete _ => .delete

/-- The store that a call names. -/
def store? : Call → Option String
  | openStore name | get name _ | put name _ _ | delete name => some name
  | matchAny _ | names => none

/-- What a call answers and what it leaves. -/
def run (now : Moment) (tables : Tables) : (call : Call) → Except Failure call.Answer × Tables
  | openStore name => (.ok (), tables.openStore name)
  | get store key => (tables.get store key, tables)
  | put store key response => (.ok (), tables.put store key response now)
  | matchAny key => (tables.matchAny key, tables)
  | names => (.ok tables.names, tables)
  | delete name => (.ok (tables.isListed name), tables.delete name)

end Call

end OfflineAgent.Store
