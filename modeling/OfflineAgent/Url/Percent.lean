import OfflineAgent.Text.Hex

/-!
Percent-encoding: bytes outside ASCII, controls and the characters a place cannot hold are written
as a percent sign and two digits.
-/

namespace OfflineAgent.Percent

/-- The printing ASCII characters that are encoded in a place, besides all others. -/
abbrev Set := List Char

def control : Set := []

def fragment : Set := [' ', '"', '<', '>', '`']

def path : Set := fragment ++ ['#', '?', '\x7b', '\x7d']

def userinfo : Set := path ++ ['/', ':', ';', '=', '@', '[', '\\', ']', '^', '|']

def query : Set := [' ', '"', '#', '<', '>']

def specialQuery : Set := '\'' :: query

def upperDigit (n : UInt8) : Char :=
  if n < 10 then Char.ofNat (n.toNat + 48) else Char.ofNat (n.toNat + 55)

def encodeByte (b : UInt8) : List Char :=
  ['%', upperDigit (b >>> 4), upperDigit (b &&& 15)]

def isEncoded (set : Set) (c : Char) : Bool :=
  c.toNat < 0x20 || 0x7F ≤ c.toNat || set.contains c

def encodeChar (set : Set) (c : Char) : List Char :=
  if isEncoded set c then (String.singleton c).toUTF8.toList.flatMap encodeByte else [c]

def encode (set : Set) (text : List Char) : String :=
  String.ofList (text.flatMap (encodeChar set))

/-- Two digits after a percent sign are their byte; a percent sign without them stands for
itself. -/
def decode : List UInt8 → List UInt8
  | 0x25 :: high :: low :: rest =>
    match Hex.digitValue (Char.ofNat high.toNat), Hex.digitValue (Char.ofNat low.toNat) with
    | some h, some l => UInt8.ofNat (16 * h + l) :: decode rest
    | _, _ => 0x25 :: decode (high :: low :: rest)
  | b :: rest => b :: decode rest
  | [] => []

end OfflineAgent.Percent
