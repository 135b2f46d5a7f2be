import OfflineAgent.Json.Basic

/-!
Printing JSON: on one line without blanks, or with two blanks of indentation a level.
-/

namespace OfflineAgent.Json

def hex4 (n : Nat) : List Char :=
  let digits := Nat.toDigits 16 n
  List.replicate (4 - digits.length) '0' ++ digits

/-- Quotes, backslashes and control characters are escaped, and nothing else. -/
def escape (c : Char) : List Char :=
  if c = '"' then ['\\', '"']
  else if c = '\\' then ['\\', '\\']
  else if c = '\n' then ['\\', 'n']
  else if c = '\r' then ['\\', 'r']
  else if c = '\t' then ['\\', 't']
  else if c = '\x08' then ['\\', 'b']
  else if c = '\x0c' then ['\\', 'f']
  else if c.toNat < 0x20 then '\\' :: 'u' :: hex4 c.toNat
  else [c]

def quote (s : String) : List Char :=
  '"' :: s.toList.flatMap escape ++ ['"']

def Number.text : Number → List Char
  | .integer i => (toString i).toList
  | .binary b => b.text.toList

namespace Value

mutual

def chars : Value → List Char
  | .null => "null".toList
  | .bool b => (if b then "true" else "false").toList
  | .number n => n.text
  | .string s => quote s
  | .array [] => ['[', ']']
  | .array (v :: rest) => '[' :: v.chars ++ itemChars rest
  | .object [] => ['\x7b', '\x7d']
  | .object ((name, v) :: rest) => '\x7b' :: quote name ++ ':' :: v.chars ++ memberChars rest

def itemChars : List Value → List Char
  | [] => [']']
  | v :: rest => ',' :: v.chars ++ itemChars rest

def memberChars : List (String × Value) → List Char
  | [] => ['\x7d']
  | (name, v) :: rest => ',' :: quote name ++ ':' :: v.chars ++ memberChars rest

end

def compact (v : Value) : String :=
  String.ofList v.chars

def newline (level : Nat) : List Char :=
  '\n' :: List.replicate (2 * level) ' '

mutual

def prettyChars : Nat → Value → List Char
  | _, .array [] => ['[', ']']
  | _, .object [] => ['\x7b', '\x7d']
  | level, .array (v :: rest) =>
    '[' :: newline (level + 1) ++ prettyChars (level + 1) v ++ prettyItems level rest
  | level, .object ((name, v) :: rest) =>
    '\x7b' :: newline (level + 1) ++ quote name ++ ':' :: ' ' :: prettyChars (level + 1) v ++
      prettyMembers level rest
  | _, .null => "null".toList
  | _, .bool b => (if b then "true" else "false").toList
  | _, .number n => n.text
  | _, .string s => quote s

def prettyItems : Nat → List Value → List Char
  | level, [] => newline level ++ [']']
  | level, v :: rest =>
    ',' :: newline (level + 1) ++ prettyChars (level + 1) v ++ prettyItems level rest

def prettyMembers : Nat → List (String × Value) → List Char
  | level, [] => newline level ++ ['\x7d']
  | level, (name, v) :: rest =>
    ',' :: newline (level + 1) ++ quote name ++ ':' :: ' ' :: prettyChars (level + 1) v ++
      prettyMembers level rest

end

/-- Every item and member on a line of its own. -/
def pretty (v : Value) : String :=
  String.ofList (prettyChars 0 v)

end Value

end OfflineAgent.Json
