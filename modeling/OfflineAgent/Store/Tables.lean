import OfflineAgent.Store.Row

/-!
All stores in two tables: their names, numbered in order of creation, and the entries of all of
them. A new store gets the number after the largest one in use, so numbers return after a deletion
but their order stays the order of creation.
-/

namespace OfflineAgent.Store

structure Listing where
  number : Nat
  name : String
deriving DecidableEq, Repr

structure Tables where
  stores : List Listing
  entries : List Row
deriving DecidableEq

namespace Tables

def empty : Tables := ⟨[], []⟩

def isListed (tables : Tables) (name : String) : Bool :=
  tables.stores.any (·.name = name)

def nextNumber (tables : Tables) : Nat :=
  (tables.stores.map (·.number)).foldl max 0 + 1

/-- The stores in order of creation. -/
def ordered (tables : Tables) : List Listing :=
  tables.stores.mergeSort fun a b => decide (a.number ≤ b.number)

def names (tables : Tables) : List String :=
  tables.ordered.map (·.name)

/-- Lists a store unless it is listed. -/
def openStore (tables : Tables) (name : String) : Tables :=
  if tables.isListed name then tables
  else { tables with stores := tables.stores ++ [⟨tables.nextNumber, name⟩] }

/-- Writes a row in place of the one of the same store and hash. -/
def writeRow (tables : Tables) (row : Row) : Tables :=
  { tables with
    entries :=
      tables.entries.filter (fun r => !(r.store = row.store ∧ r.hash = row.hash)) ++ [row] }

def put (tables : Tables) (store : String) (key : Key) (response : Response) (now : Moment) :
    Tables :=
  (tables.openStore store).writeRow (.encode store key response now)

def find? (tables : Tables) (store hash : String) : Option Row :=
  tables.entries.find? fun row => row.store = store ∧ row.hash = hash

def get (tables : Tables) (store : String) (key : Key) : Except Failure (Option Entry) :=
  match tables.find? store key.hash with
  | none => .ok none
  | some row => (row.read (.statusInStore key.url store)).map some

/-- The row of the first listed store that has one. -/
def findAny? (tables : Tables) (hash : String) : Option Row :=
  tables.names.findSome? fun name => tables.find? name hash

def matchAny (tables : Tables) (key : Key) : Except Failure (Option Entry) :=
  match tables.findAny? key.hash with
  | none => .ok none
  | some row => (row.read (.statusInAny key.url)).map some

/-- Removes a store with its entries. -/
def delete (tables : Tables) (name : String) : Tables :=
  { stores := tables.stores.filter (·.name ≠ name)
    entries := tables.entries.filter (·.store ≠ name) }

end Tables

end OfflineAgent.Store
