import OfflineAgent.Domain.Direction
import OfflineAgent.Domain.Joining
import OfflineAgent.Domain.Mapping
import OfflineAgent.Domain.Punycode

/-!
Domain names in the form that is looked up: ASCII, in lower case. Main function: `Domain.toAscii`.
-/

namespace OfflineAgent.Domain

def isForbidden (c : Char) : Bool :=
  c.toNat ≤ 0x20 || c.toNat = 0x7F ||
    ['%', '#', '/', ':', '<', '>', '?', '@', '[', '\\', ']', '^', '|'].contains c

/-- What the ASCII form of a label with other characters starts with. -/
def mark : List Char := "xn--".toList

/-- The characters that a label in ASCII form stands for. They must be such as need that form, and
stand for themselves. -/
def decodeLabel (text : List Char) : Option (List Nat) := do
  let label ← Punycode.decode? text
  if label.all (· < 0x80) || !isMapped label then none
  return label

def isAscii (label : List Nat) : Bool :=
  label.all (· < 0x80)

def readLabel (label : List Nat) : Option (List Nat) :=
  let lead := mark.map Char.toNat
  if lead.isPrefixOf label then
    if isAscii label then decodeLabel ((label.drop lead.length).map Char.ofNat) else none
  else some label

def isValidLabel (label : List Nat) : Bool :=
  !startsWithMark label && isJoined label &&
    label.all fun n => 0x80 ≤ n || !isForbidden (Char.ofNat n)

def labelText (label : List Nat) : List Char :=
  if isAscii label then label.map Char.ofNat else mark ++ Punycode.encode label

def splitDots : List Nat → List (List Nat)
  | [] => [[]]
  | n :: rest =>
    if n = '.'.toNat then [] :: splitDots rest
    else
      match splitDots rest with
      | label :: labels => (n :: label) :: labels
      | [] => [[n]]

/-- The ASCII form of a domain, or none if it has none. -/
def toAscii (name : List Char) : Option String := do
  let labels ← (splitDots (← mapped (name.map Char.toNat))).mapM readLabel
  let directed := !isBidirectional labels.flatten || labels.all isDirected
  if directed && labels.all isValidLabel then
    return ".".intercalate (labels.map fun label => String.ofList (labelText label))
  else none

end OfflineAgent.Domain
