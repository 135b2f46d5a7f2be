/-!
Bytes as pairs of lower-case hexadecimal digits.
-/

namespace OfflineAgent.Hex

def digit (n : UInt8) : Char :=
  if n < 10 then Char.ofNat (n.toNat + 48) else Char.ofNat (n.toNat + 87)

def digitValue (c : Char) : Option Nat :=
  if '0' ≤ c ∧ c ≤ '9' then some (c.toNat - 48)
  else if 'a' ≤ c ∧ c ≤ 'f' then some (c.toNat - 87)
  else if 'A' ≤ c ∧ c ≤ 'F' then some (c.toNat - 55)
  else none

def isDigit (c : Char) : Bool :=
  (digitValue c).isSome

def encode (bytes : ByteArray) : String :=
  bytes.foldl (fun text b => (text.push (digit (b >>> 4))).push (digit (b &&& 15))) ""

def decodeFrom : ByteArray → List Char → Option ByteArray
  | bytes, [] => some bytes
  | _, [_] => none
  | bytes, high :: low :: rest =>
    match digitValue high, digitValue low with
    | some h, some l => decodeFrom (bytes.push (UInt8.ofNat (16 * h + l))) rest
    | _, _ => none

def decode (text : String) : Option ByteArray :=
  decodeFrom .empty text.toList

def value (digits : List Char) : Nat :=
  digits.foldl (fun n c => 16 * n + (digitValue c).getD 0) 0

end OfflineAgent.Hex
