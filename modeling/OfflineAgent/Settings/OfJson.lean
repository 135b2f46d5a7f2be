import OfflineAgent.Json.Basic
import OfflineAgent.Settings.Field

/-!
Settings from a JSON value: an object whose members are settings by name, or a list of settings in
their order. What is missing keeps its default and unknown members count for nothing.
-/

namespace OfflineAgent.Settings

open Json (Value)

def wrongType (found : Value) (expected : String) : String :=
  "invalid type: " ++ found.kind ++ ", expected " ++ expected

def textOf (value : Value) : Except String String :=
  match value with
  | .string s => .ok s
  | v => .error (wrongType v "a string")

def flagOf (value : Value) : Except String Bool :=
  match value with
  | .bool b => .ok b
  | v => .error (wrongType v "a boolean")

def textsOf (value : Value) : Except String (List String) :=
  match value with
  | .array items => items.mapM textOf
  | v => .error (wrongType v "a sequence")

def countOf (value : Value) : Except String Nat :=
  match value with
  | .number (.integer i) =>
    if 0 ≤ i then .ok i.toNat
    else .error ("invalid value: integer `" ++ toString i ++ "`, expected u64")
  | v => .error (wrongType v "u64")

def pathOf (value : Value) : Except String (Option String) :=
  match value with
  | .null => .ok none
  | .string s => .ok (some s)
  | v => .error (wrongType v "path string")

def datumOf (value : Value) : (kind : Kind) → Except String kind.Datum
  | .text => textOf value
  | .flag => flagOf value
  | .texts => textsOf value
  | .count => countOf value
  | .path => pathOf value

def setFrom (settings : Settings) (field : Field) (value : Value) : Except String Settings :=
  (datumOf value field.kind).map (settings.set field)

/-- Members are read in the order of their names. -/
def ofMembers (members : List (String × Value)) : Except String Settings :=
  let ordered := members.mergeSort fun a b => decide (a.1 ≤ b.1)
  ordered.foldlM (fun settings (name, value) =>
    match Field.ofName? name with
    | some field => settings.setFrom field value
    | none => .ok settings) default

def ofItems (items : List Value) : Except String Settings :=
  if Field.all.length < items.length then
    match (Field.all.zip items).foldlM (fun s (field, value) => setFrom s field value) default with
    | .ok _ =>
      .error ("invalid length " ++ toString items.length ++ ", expected fewer elements in array")
    | .error message => .error message
  else (Field.all.zip items).foldlM (fun s (field, value) => setFrom s field value) default

def ofJson (value : Value) : Except String Settings :=
  match value with
  | .object members => ofMembers members
  | .array items => ofItems items
  | v => .error (wrongType v "struct Config")

end OfflineAgent.Settings
