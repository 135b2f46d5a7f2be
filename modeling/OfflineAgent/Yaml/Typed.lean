import OfflineAgent.Yaml.Node
import OfflineAgent.Yaml.Plain

/-!
Readers of nodes that expect a certain type, and say what they met instead and where.
-/

namespace OfflineAgent.Yaml

structure Misfit where
  path : String
  message : String
  mark : Mark
deriving DecidableEq, Repr

namespace Misfit

/-- Lines and columns are counted from one. The start of the text is no place worth naming. -/
def place (mark : Mark) : String :=
  if mark.line = 0 ∧ mark.column = 0 then ""
  else " at line " ++ toString (mark.line + 1) ++ " column " ++ toString (mark.column + 1)

def text (misfit : Misfit) : String :=
  (if misfit.path.isEmpty then "" else misfit.path ++ ": ") ++ misfit.message ++ place misfit.mark

end Misfit

/-! Tags that fix what a scalar is -/

def boolTag : String := "tag:yaml.org,2002:bool"
def integerTag : String := "tag:yaml.org,2002:int"
def realTag : String := "tag:yaml.org,2002:float"
def nullTag : String := "tag:yaml.org,2002:null"

def invalidType (found expected : String) : String :=
  "invalid type: " ++ found ++ ", expected " ++ expected

def invalidValue (text expected : String) : String :=
  "invalid value: string " ++ Quoted.quote text ++ ", expected " ++ expected

/-- Why a scalar is not `expected`: it may not even be what its tag says. -/
def scalarMismatch (tag : Option String) (style : Style) (text expected : String) : String :=
  let as (meaning : Option Meaning) (wanted : String) : String :=
    match meaning with
    | some m => invalidType m.kind expected
    | none => invalidValue text wanted
  let plain := invalidType (Meaning.ofPlain text).kind expected
  let string := invalidType ("string " ++ Quoted.quote text) expected
  match tag with
  | none => if style = .plain then plain else string
  | some tag =>
    if tag = boolTag then as ((bool? text).map .bool) "a boolean"
    else if tag = integerTag then as ((integer? text).map .integer) "an integer"
    else if tag = realTag then as ((real? text).map .real) "a float"
    else if tag = nullTag then as (if isNull text then some .nothing else none) "null"
    else if tag.startsWith "!" && style = .plain then plain
    else string

def mismatch (expected : String) : Node → String
  | .scalar _ tag style text => scalarMismatch tag style text expected
  | .sequence _ _ => invalidType "sequence" expected
  | .mapping _ _ => invalidType "map" expected
  | .reference _ _ => invalidType "alias" expected

def misfit {α : Type} (path expected : String) (node : Node) : Except Misfit α :=
  .error ⟨path, mismatch expected node, node.mark⟩

/-- The text of a scalar that may be something else than text: a plain one, or a literal one with
the tag for it. -/
def typedText? (wanted : String) : Node → Option String
  | .scalar _ tag style text =>
    if style = .plain || (style = .literal && tag = some wanted) then some text else none
  | _ => none

variable (document : Document) (path : String)

def readText (expected : String) (node : Node) : Except Misfit String :=
  match document.follow node with
  | .scalar _ _ _ text => .ok text
  | node => misfit path expected node

def readBool (node : Node) : Except Misfit Bool :=
  let node := document.follow node
  match (typedText? boolTag node).bind bool? with
  | some b => .ok b
  | none => misfit path "a boolean" node

def readNat (node : Node) : Except Misfit Nat :=
  let node := document.follow node
  match (typedText? integerTag node).bind (nat? 64) with
  | some n => .ok n
  | none => misfit path "u64" node

/-- A node that is not written is an empty list. -/
def readItems (node : Node) : Except Misfit (List Node) :=
  match document.follow node with
  | .sequence _ items => .ok items
  | node => if node.isEmpty then .ok [] else misfit path "a sequence" node

def readTexts (node : Node) : Except Misfit (List String) := do
  let items ← readItems document path node
  (items.zip (List.range items.length)).mapM fun (item, index) =>
    readText document (path ++ "[" ++ toString index ++ "]") "a string" item

/-- A node, or none if it stands for nothing. `around` is the place of a fault in a tag that says
so, which is noticed before the node is read. -/
def readOptional (around : Mark) (node : Node) : Except Misfit (Option Node) :=
  match document.follow node with
  | .scalar mark tag .plain text =>
    if tag = some nullTag then
      if isNull text then .ok none else .error ⟨"", invalidValue text "null", around⟩
    else if tag.isNone && (text.isEmpty || isNull text) then .ok none
    else .ok (some (.scalar mark tag .plain text))
  | node => .ok (some node)

end OfflineAgent.Yaml
