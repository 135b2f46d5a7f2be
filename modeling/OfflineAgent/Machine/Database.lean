import OfflineAgent.Machine.FileTree

/-!
Opening the database of the stores, which is created where there is none.
-/

namespace OfflineAgent.Machine

inductive DatabaseFault where
  | directory (fault : FileFault)
  | unopenable (path : String)
  | notDatabase
deriving DecidableEq, Repr

def DatabaseFault.message : DatabaseFault → String
  | directory fault => "Failed to create store directory: " ++ fault.message
  | unopenable path =>
    "Failed to open store database at " ++ path ++ ": unable to open database file: " ++ path
  | notDatabase => "Failed to run store migrations: file is not a database"

/-- A database without a location is gone after the run. -/
structure Database where
  location : Option Location
  tables : Store.Tables
deriving DecidableEq

namespace FileTree

/-- The database at a node; an empty file is an empty database. -/
def tablesAt (tree : FileTree) (location : Location) (path : String) :
    Except DatabaseFault Store.Tables :=
  match tree.node? location with
  | none => .ok .empty
  | some .directory => .error (.unopenable path)
  | some (.file content) => if content.isEmpty then .ok .empty else .error .notDatabase
  | some (.database tables) => .ok tables

def save (tree : FileTree) (database : Database) : FileTree :=
  match database.location with
  | some location => tree.put location (.database database.tables)
  | none => tree

def openDatabase (tree : FileTree) (path : String) :
    Except DatabaseFault (Database × FileTree) := do
  let tree ← match parentPath? path with
    | some around => (tree.createDirectories around).mapError .directory
    | none => pure tree
  if path.isEmpty || path = ":memory:" then return (⟨none, .empty⟩, tree)
  match tree.locate path with
  | .error _ => throw (.unopenable path)
  | .ok location =>
    let database : Database := ⟨some location, ← tree.tablesAt location path⟩
    return (database, tree.save database)

end FileTree

end OfflineAgent.Machine
