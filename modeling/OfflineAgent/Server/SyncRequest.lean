import OfflineAgent.Json.Skip
import OfflineAgent.Json.Typed

/-!
The body of a background sync: an object with a string `tag`, or a list of that one string. The
reader stops after the value.
-/

namespace OfflineAgent.Server

structure SyncRequest where
  tag : String
deriving DecidableEq, Repr

namespace SyncRequest

structure Fault where
  place : Option String
  fault : Json.Fault
deriving DecidableEq, Repr

def Fault.message (body : List UInt8) (f : Fault) : String :=
  match f.place with
  | some place => place ++ ": " ++ f.fault.message body
  | none => f.fault.message body

def within {α : Type} (place : String) (read : Except Json.Fault α) : Except Fault α :=
  read.mapError fun fault => ⟨some place, fault⟩

def outside {α : Type} (read : Except Json.Fault α) : Except Fault α :=
  read.mapError fun fault => ⟨none, fault⟩

/-- A fault of the object as a whole is placed after its end, if that comes next. -/
def objectFault (message : String) (s : List UInt8) : Fault :=
  match Json.closeObject s with
  | .ok rest => ⟨none, .unfit message, rest⟩
  | .error _ => ⟨none, .unfit message, Json.skipSpace s⟩

/-- The rest of an object; each member takes bytes, so `fuel` may be their number. -/
def members : Nat → Bool → Option String → List UInt8 → Except Fault SyncRequest
  | 0, _, _, s => .error ⟨none, .eofInObject, s⟩
  | fuel + 1, isFirst, tag, s => do
    let (more, s) ← outside (Json.nextMember isFirst s)
    if !more then
      match tag with
      | none => throw (objectFault "missing field `tag`" s)
      | some tag =>
        let _ ← outside (Json.closeObject s)
        return ⟨tag⟩
    else
      let (name, s) ← outside (Json.stringFrom .plain [] (s.drop 1))
      if name = "tag" then
        if tag.isSome then throw (objectFault "duplicate field `tag`" s)
        else
          let (tag, s) ← within name do Json.stringValue (← Json.colon s)
          members fuel false (some tag) s
      else
        let s ← within name do Json.skipValue (← Json.colon s)
        members fuel false tag s

def items (s : List UInt8) : Except Fault SyncRequest := do
  let (more, s) ← outside (Json.nextItem true s)
  if !more then throw ⟨none, Json.tooShort 0 "struct SyncRequest with 1 element" s⟩
  else
    let (tag, s) ← within "[0]" (Json.stringValue s)
    let _ ← outside (Json.closeList s)
    return ⟨tag⟩

def read (s : List UInt8) : Except Fault SyncRequest :=
  match Json.skipSpace s with
  | 0x7B :: rest => members (rest.length + 1) true none rest
  | 0x5B :: rest => items rest
  | s => .error ⟨none, Json.unexpected "struct SyncRequest" s⟩

end SyncRequest

end OfflineAgent.Server
