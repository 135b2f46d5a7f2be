import OfflineAgent.Json.Reader

/-!
Readers that expect a certain shape and say what they met instead.
-/

namespace OfflineAgent.Json

def wrongType (found expected : String) : Cause :=
  .unfit ("invalid type: " ++ found ++ ", expected " ++ expected)

/-- A value of the wrong type. A list or object is named where it starts, any other value is read
first and may itself be faulty. -/
def unexpected (expected : String) (s : List UInt8) : Fault :=
  match s with
  | [] => ⟨.eofInValue, []⟩
  | b :: _ =>
    if b = 0x5B then ⟨wrongType "sequence" expected, s⟩
    else if b = 0x7B then ⟨wrongType "map" expected, s⟩
    else
      match valueFrom 1 0 s with
      | .ok (v, rest) => ⟨wrongType v.kind expected, rest⟩
      | .error fault => fault

def stringValue (s : List UInt8) : Except Fault (String × List UInt8) :=
  match skipSpace s with
  | 0x22 :: rest => stringFrom .plain [] rest
  | s => .error (unexpected "a string" s)

/-- The fault of a list that is too short for what is read from it. It is noticed after the list. -/
def tooShort (length : Nat) (expected : String) (s : List UInt8) : Fault :=
  match closeList s with
  | .ok rest =>
    ⟨.unfit ("invalid length " ++ toString length ++ ", expected " ++ expected), rest⟩
  | .error fault => fault

def stringPair (s : List UInt8) : Except Fault ((String × String) × List UInt8) := do
  let expected := "a tuple of size 2"
  match skipSpace s with
  | 0x5B :: rest =>
    let (more, s) ← nextItem true rest
    if !more then throw (tooShort 0 expected s)
    let (first, s) ← stringValue s
    let (more, s) ← nextItem false s
    if !more then throw (tooShort 1 expected s)
    let (second, s) ← stringValue s
    return ((first, second), ← closeList s)
  | s => throw (unexpected expected s)

/-- The rest of a list whose items `item` reads; each takes at least a byte, so `fuel` may be the
number of bytes. -/
def listFrom {α : Type} (item : List UInt8 → Except Fault (α × List UInt8)) :
    Nat → List α → List UInt8 → Except Fault (List α × List UInt8)
  | 0, _, s => .error ⟨.eofInList, s⟩
  | fuel + 1, items, s =>
    match nextItem items.isEmpty s with
    | .error fault => .error fault
    | .ok (false, s) =>
      match closeList s with
      | .error fault => .error fault
      | .ok s => .ok (items.reverse, s)
    | .ok (true, s) =>
      match item s with
      | .error fault => .error fault
      | .ok (a, s) => listFrom item fuel (a :: items) s

def list {α : Type} (item : List UInt8 → Except Fault (α × List UInt8)) (s : List UInt8) :
    Except Fault (List α × List UInt8) :=
  match skipSpace s with
  | 0x5B :: rest => listFrom item (rest.length + 1) [] rest
  | s => .error (unexpected "a sequence" s)

def parseStringPairs (s : List UInt8) : Except Fault (List (String × String)) := do
  let (pairs, rest) ← list stringPair s
  finish rest
  return pairs

def stringPairs (pairs : List (String × String)) : Value :=
  .array (pairs.map fun (a, b) => .strings [a, b])

end OfflineAgent.Json
