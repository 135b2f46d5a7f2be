import OfflineAgent.Yaml.Token

/-!
A YAML document as a tree.
-/

namespace OfflineAgent.Yaml

/-- Each node knows where it starts, anchor and tag included. -/
inductive Node where
  | scalar (mark : Mark) (tag : Option String) (style : Style) (text : String)
  | sequence (mark : Mark) (items : List Node)
  | mapping (mark : Mark) (entries : List (Node × Node))
  | reference (mark : Mark) (anchor : Nat)
deriving Repr

namespace Node

def mark : Node → Mark
  | scalar mark _ _ _ => mark
  | sequence mark _ => mark
  | mapping mark _ => mark
  | reference mark _ => mark

def missing (mark : Mark) : Node :=
  scalar mark none .plain ""

/-- Whether a node holds nothing: it is not written, or only its anchor and tag are. -/
def isEmpty : Node → Bool
  | scalar _ _ .plain "" => true
  | _ => false

end Node

/-- A node that an anchor names. `order` counts the anchored nodes by where they start. -/
structure Anchored where
  anchor : Nat
  order : Nat
  node : Node
deriving Repr

structure Document where
  root : Node
  anchored : List Anchored
deriving Repr

namespace Document

/-- What a reference stands for. Of nodes under one anchor it is the last one to start. -/
def target? (document : Document) (anchor : Nat) : Option Node :=
  let found := document.anchored.filter (·.anchor = anchor)
  (found.foldl (fun best next =>
    match best with
    | none => some next
    | some known => if known.order < next.order then some next else best) none).map (·.node)

/-- A node, or what it stands for if it is a reference. A reference never stands for another. -/
def follow (document : Document) : Node → Node
  | .reference mark anchor => (document.target? anchor).getD (.reference mark anchor)
  | node => node

end Document

end OfflineAgent.Yaml
