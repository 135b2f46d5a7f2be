import OfflineAgent.Settings.Field
import OfflineAgent.Yaml.Grammar
import OfflineAgent.Yaml.Typed

/-!
Settings from a YAML text: a mapping from names of settings to their values. What is missing keeps
its default, unknown names count for nothing, and no setting may be given twice.
-/

namespace OfflineAgent.Settings

open Yaml (Document Mark Misfit Node)

inductive YamlFault where
  /-- The text is no YAML, or not a single document. -/
  | illFormed
  | misfit (misfit : Misfit)
deriving DecidableEq, Repr

def YamlFault.message : YamlFault → String
  | illFormed => "syntax"
  | misfit found => found.text

def datumFrom (document : Document) (path : String) (around : Mark) (node : Node) :
    (kind : Kind) → Except Misfit kind.Datum
  | .text => Yaml.readText document path "a string" node
  | .flag => Yaml.readBool document path node
  | .texts => Yaml.readTexts document path node
  | .count => Yaml.readNat document path node
  | .path => do
    match ← Yaml.readOptional document around node with
    | none => return none
    | some node => return some (← Yaml.readText document path "path string" node)

/-- Where a value stands, by its key. The name behind a reference is not known there. -/
def pathOfKey : Node → String
  | .scalar _ _ _ text => text
  | _ => "?"

/-- Reads entry by entry; `given` are the settings read so far. -/
def ofEntries (document : Document) (start : Mark) :
    List Field → Settings → List (Node × Node) → Except Misfit Settings
  | _, settings, [] => .ok settings
  | given, settings, (key, node) :: rest => do
    let name ← Yaml.readText document "" "field identifier" key
    match Field.ofName? name with
    | none => ofEntries document start given settings rest
    | some field =>
      if given.contains field then throw ⟨"", "duplicate field `" ++ name ++ "`", start⟩
      let value ← datumFrom document (pathOfKey key) start node field.kind
      ofEntries document start (field :: given) (settings.set field value) rest

def ofDocument (document : Document) : Except Misfit Settings :=
  match document.follow document.root with
  | .mapping mark entries => ofEntries document mark [] default entries
  | node =>
    if node.isEmpty then .ok default else Yaml.misfit "" "struct Config" node

/-- A text without a document has no settings. -/
def ofYaml (text : List Char) : Except YamlFault Settings :=
  match Yaml.document? text with
  | none => .error .illFormed
  | some none => .ok default
  | some (some document) => (ofDocument document).mapError .misfit

end OfflineAgent.Settings
