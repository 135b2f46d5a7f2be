/-!
The life of an agent: installing, waiting, activating, active, and from any of these redundant.
Every step on its state is atomic, and whoever wants to change it says from where.
-/

namespace OfflineAgent.Lifecycle

inductive State where
  | installing
  | waiting
  | activating
  | active
  | redundant
deriving DecidableEq, Repr

def State.name : State → String
  | installing => "installing"
  | waiting => "waiting"
  | activating => "activating"
  | active => "active"
  | redundant => "redundant"

/-- What all work of one agent shares. `changes` counts the changes of state that a watcher can
see. -/
structure Cell where
  state : State
  skipWaiting : Bool
  installClaimed : Bool
  changes : Nat
deriving DecidableEq, Repr

def Cell.new (skipWaiting : Bool) : Cell :=
  ⟨.installing, skipWaiting, false, 0⟩

inductive Step where
  | read
  /-- Moves on from one state to another, if it is in the first. -/
  | advance (source target : State)
  /-- Asks whether an installation was begun before, and marks one as begun. -/
  | claimInstall
  | requestSkip
  | skipRequested
  | supersede
deriving DecidableEq, Repr

namespace Step

abbrev Answer : Step → Type
  | read => State
  | advance _ _ => Bool
  | claimInstall => Bool
  | requestSkip => Unit
  | skipRequested => Bool
  | supersede => Unit

def run (cell : Cell) : (step : Step) → step.Answer × Cell
  | read => (cell.state, cell)
  | advance source target =>
    if cell.state = source then (true, { cell with state := target, changes := cell.changes + 1 })
    else (false, cell)
  | claimInstall => (cell.installClaimed, { cell with installClaimed := true })
  | requestSkip => ((), { cell with skipWaiting := true })
  | skipRequested => (cell.skipWaiting, cell)
  | supersede => ((), { cell with state := .redundant, changes := cell.changes + 1 })

end Step

/-- Somebody who looks at the state from time to time; `seen` is the count of changes at the last
look. -/
structure Watcher where
  agent : Nat
  seen : Nat
deriving DecidableEq, Repr

def Watcher.hasNews (watcher : Watcher) (cell : Cell) : Bool :=
  watcher.seen != cell.changes

def Watcher.look (watcher : Watcher) (cell : Cell) : Watcher :=
  { watcher with seen := cell.changes }

end OfflineAgent.Lifecycle
