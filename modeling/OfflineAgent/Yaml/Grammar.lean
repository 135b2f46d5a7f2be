import OfflineAgent.Yaml.Lexer
import OfflineAgent.Yaml.Node

/-!
The grammar of documents over tokens. Main function: `Yaml.document?`.
-/

namespace OfflineAgent.Yaml

/-- What is unread, and what the tokens so far have named. Anchors are numbered by how many names
there were before; a name that is given again changes its number. -/
structure Reading where
  tokens : List Token
  handles : List (String × String)
  anchors : List (String × Nat)
  count : Nat
  anchored : List Anchored

def defaultHandles : List (String × String) :=
  [("!", "!"), ("!!", "tag:yaml.org,2002:")]

abbrev Grammar := StateT Reading Option

namespace Grammar

def peek : Grammar Token := do
  match (← get).tokens with
  | token :: _ => return token
  | [] => failure

def skip : Grammar Unit :=
  modify fun reading => { reading with tokens := reading.tokens.tail }

def expect (kind : TokenKind) : Grammar Unit := do
  if (← peek).kind = kind then skip else failure

def addAnchor (name : String) : Grammar (Nat × Nat) := do
  let reading ← get
  let number := reading.anchors.length
  let anchors := (name, number) :: reading.anchors.filter (·.1 ≠ name)
  set { reading with anchors, count := reading.count + 1 }
  return (number, reading.count)

def anchorNumber (name : String) : Grammar Nat := do
  match (← get).anchors.find? (·.1 = name) with
  | some (_, number) => return number
  | none => failure

def resolveTag (handle suffix : String) : Grammar String := do
  if handle.isEmpty then return suffix
  match (← get).handles.find? (·.1 = handle) with
  | some (_, lead) => return lead ++ suffix
  | none => failure

/-- What stands before a node: where it starts, its anchor and its tag. -/
structure Properties where
  start : Mark
  anchor : Option String
  tag : Option String

def anchorToken : Grammar (Option String) := do
  match (← peek).kind with
  | .anchor name => skip; return some name
  | _ => return none

def tagToken : Grammar (Option (String × String)) := do
  match (← peek).kind with
  | .tag handle suffix => skip; return some (handle, suffix)
  | _ => return none

/-- An anchor and a tag may come in either order. -/
def properties : Grammar Properties := do
  let start := (← peek).start
  let before ← anchorToken
  let written ← tagToken
  let anchor ← match before with
    | some name => pure (some name)
    | none => if written.isSome then anchorToken else pure none
  let tag ← written.mapM fun (handle, suffix) => resolveTag handle suffix
  return ⟨start, anchor, tag⟩

/-- A scalar's tag counts for nothing if it is the sign alone. -/
def scalarTag (tag : Option String) : Option String :=
  if tag = some "!" then none else tag

def isOneOf (kinds : List TokenKind) : Grammar Bool := do
  return kinds.contains (← peek).kind

/-- Where a node stands: whether it may be a block, and whether a block sequence in it may start
without further indentation. -/
structure Place where
  block : Bool
  indentless : Bool

def Place.item : Place := ⟨true, false⟩
def Place.entry : Place := ⟨true, true⟩
def Place.flow : Place := ⟨false, false⟩

mutual

/-- A node. `fuel` bounds the number of steps; a few for each token are enough. -/
def node (place : Place) : Nat → Grammar Node
  | 0 => failure
  | fuel + 1 => do
    let token ← peek
    match token.kind with
    | .reference name =>
      let number ← anchorNumber name
      skip
      return .reference token.start number
    | _ =>
      let props ← properties
      let number ← props.anchor.mapM addAnchor
      let made ← content place props fuel
      if let some (anchor, order) := number then
        modify fun reading =>
          { reading with anchored := ⟨anchor, order, made⟩ :: reading.anchored }
      return made

def content (place : Place) (props : Properties) : Nat → Grammar Node
  | 0 => failure
  | fuel + 1 => do
    let mark := props.start
    match (← peek).kind with
    | .blockEntry =>
      if place.indentless then return .sequence mark (← indentlessItems fuel)
      else bare props
    | .scalar text style =>
      skip
      return .scalar mark (scalarTag props.tag) style text
    | .flowSequenceStart =>
      skip
      return .sequence mark (← flowItems true fuel)
    | .flowMappingStart =>
      skip
      return .mapping mark (← flowEntries true fuel)
    | .blockSequenceStart =>
      if place.block then
        skip
        return .sequence mark (← blockItems fuel)
      else bare props
    | .blockMappingStart =>
      if place.block then
        skip
        return .mapping mark (← blockEntries fuel)
      else bare props
    | _ => bare props
where
  /-- Nothing but properties. -/
  bare (props : Properties) : Grammar Node :=
    if props.anchor.isSome || props.tag.isSome then
      return .scalar props.start props.tag .plain ""
    else failure

def blockItems : Nat → Grammar (List Node)
  | 0 => failure
  | fuel + 1 => do
    let token ← peek
    match token.kind with
    | .blockEntry =>
      skip
      let item ← nodeUnless [.blockEntry, .blockEnd] token.stop .item fuel
      return item :: (← blockItems fuel)
    | .blockEnd => skip; return []
    | _ => failure

def indentlessItems : Nat → Grammar (List Node)
  | 0 => failure
  | fuel + 1 => do
    let token ← peek
    match token.kind with
    | .blockEntry =>
      skip
      let item ← nodeUnless [.blockEntry, .key, .value, .blockEnd] token.stop .item fuel
      return item :: (← indentlessItems fuel)
    | _ => return []

def blockEntries : Nat → Grammar (List (Node × Node))
  | 0 => failure
  | fuel + 1 => do
    let token ← peek
    match token.kind with
    | .key =>
      skip
      let stops := [.key, .value, .blockEnd]
      let key ← nodeUnless stops token.stop .entry fuel
      let next ← peek
      let value ←
        if next.kind = .value then do
          skip
          nodeUnless stops next.stop .entry fuel
        else pure (.missing next.start)
      return (key, value) :: (← blockEntries fuel)
    | .blockEnd => skip; return []
    | _ => failure

def flowItems (isFirst : Bool) : Nat → Grammar (List Node)
  | 0 => failure
  | fuel + 1 => do
    if ← isOneOf [.flowSequenceEnd] then
      skip
      return []
    if !isFirst then expect .flowEntry
    let token ← peek
    match token.kind with
    | .flowSequenceEnd => skip; return []
    | .key =>
      skip
      let entry ← flowPair fuel
      return .mapping token.start [entry] :: (← flowItems false fuel)
    | _ =>
      let item ← node .flow fuel
      return item :: (← flowItems false fuel)

def flowPair : Nat → Grammar (Node × Node)
  | 0 => failure
  | fuel + 1 => do
    let token ← peek
    let key ←
      if ← isOneOf [.value, .flowEntry, .flowSequenceEnd] then do
        skip
        pure (.missing token.stop)
      else node .flow fuel
    let value ← flowValue .flowSequenceEnd fuel
    return (key, value)

def flowEntries (isFirst : Bool) : Nat → Grammar (List (Node × Node))
  | 0 => failure
  | fuel + 1 => do
    if ← isOneOf [.flowMappingEnd] then
      skip
      return []
    if !isFirst then expect .flowEntry
    match (← peek).kind with
    | .flowMappingEnd => skip; return []
    | .key =>
      skip
      let next ← peek
      let key ← nodeUnless [.value, .flowEntry, .flowMappingEnd] next.start .flow fuel
      let value ← flowValue .flowMappingEnd fuel
      return (key, value) :: (← flowEntries false fuel)
    | _ =>
      let key ← node .flow fuel
      let value := .missing (← peek).start
      return (key, value) :: (← flowEntries false fuel)

def flowValue (close : TokenKind) : Nat → Grammar Node
  | 0 => failure
  | fuel + 1 => do
    let token ← peek
    if token.kind = .value then
      skip
      nodeUnless [.flowEntry, close] (← peek).start .flow fuel
    else return .missing token.start

/-- A node, or one that is missing at `mark` if one of these tokens is next. -/
def nodeUnless (stops : List TokenKind) (mark : Mark) (place : Place) : Nat → Grammar Node
  | 0 => failure
  | fuel + 1 => do
    if ← isOneOf stops then return .missing mark
    else node place fuel

end

/-! Documents -/

/-- Directives before a document: one version at most, and each handle once. -/
def directives : Bool → Nat → Grammar Unit
  | _, 0 => failure
  | versioned, fuel + 1 => do
    match (← peek).kind with
    | .version major minor =>
      if versioned || major ≠ 1 || (minor ≠ 1 && minor ≠ 2) then failure
      skip
      directives true fuel
    | .tagHandle handle lead =>
      if (← get).handles.any (·.1 = handle) then failure
      modify fun reading => { reading with handles := (handle, lead) :: reading.handles }
      skip
      directives versioned fuel
    | _ => return

def stream (fuel : Nat) : Grammar (Option Node) := do
  if ← isOneOf [.streamEnd] then return none
  let first ← peek
  directives false fuel
  modify fun reading => { reading with handles := reading.handles ++ defaultHandles }
  let token ← peek
  let root ← match token.kind with
    | .documentStart => do
      skip
      let next ← peek
      match next.kind with
      | .version _ _ | .tagHandle _ _ | .documentStart | .documentEnd | .streamEnd =>
        pure (.missing next.start)
      | _ => node .item fuel
    | _ => if token = first then node .item fuel else failure
  modify fun reading =>
    { reading with tokens := reading.tokens.dropWhile (·.kind = .documentEnd) }
  expect .streamEnd
  return some root

end Grammar

/-- The document of a text; `some none` if there is none in it, and none if the text is not
well-formed or holds more than one. -/
def document? (text : List Char) : Option (Option Document) := do
  let tokens ← tokens? text
  let (root, reading) ← Grammar.stream (8 * tokens.length + 8) |>.run ⟨tokens, [], [], 0, []⟩
  return root.map fun root => ⟨root, reading.anchored⟩

end OfflineAgent.Yaml
