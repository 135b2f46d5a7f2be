/-!
UTF-8 as a byte-by-byte reader. Its answer on bytes that are no text says where the text stops
and whether the bytes break off inside a character or hold something that is none.
-/

namespace OfflineAgent.Utf8

/-- The bytes up to `offset` are text. After it `length` bytes belong to no character, or
(`none`) the bytes end inside one. -/
structure Fault where
  offset : Nat
  length : Option Nat
deriving DecidableEq, Repr

/-- A character whose first bytes are read: `missing` bytes are to come, the next one between
`low` and `high`. -/
structure Unfinished where
  missing : Nat
  low : UInt8
  high : UInt8
  code : Nat
  read : Nat
deriving DecidableEq, Repr

/-- The start of a character of more than one byte. The bounds on the second byte leave out
overlong forms, surrogates and everything above U+10FFFF. -/
def Unfinished.ofLead (b : UInt8) : Option Unfinished :=
  let code := b.toNat
  if 0xC2 ≤ b ∧ b ≤ 0xDF then some ⟨1, 0x80, 0xBF, code - 0xC0, 1⟩
  else if b = 0xE0 then some ⟨2, 0xA0, 0xBF, 0, 1⟩
  else if b = 0xED then some ⟨2, 0x80, 0x9F, 0xD, 1⟩
  else if 0xE1 ≤ b ∧ b ≤ 0xEF then some ⟨2, 0x80, 0xBF, code - 0xE0, 1⟩
  else if b = 0xF0 then some ⟨3, 0x90, 0xBF, 0, 1⟩
  else if b = 0xF4 then some ⟨3, 0x80, 0x8F, 4, 1⟩
  else if 0xF1 ≤ b ∧ b ≤ 0xF3 then some ⟨3, 0x80, 0xBF, code - 0xF0, 1⟩
  else none

/-- `offset` is where the character under way began, `text` the characters before it, last first. -/
def decodeFrom : Option Unfinished → Nat → List Char → List UInt8 → Except Fault (List Char)
  | none, _, text, [] => .ok text.reverse
  | some _, offset, _, [] => .error ⟨offset, none⟩
  | none, offset, text, b :: rest =>
    if b < 0x80 then decodeFrom none (offset + 1) (Char.ofNat b.toNat :: text) rest
    else
      match Unfinished.ofLead b with
      | some part => decodeFrom (some part) offset text rest
      | none => .error ⟨offset, some 1⟩
  | some part, offset, text, b :: rest =>
    if part.low ≤ b ∧ b ≤ part.high then
      let code := part.code * 64 + (b.toNat - 0x80)
      if part.missing = 1 then
        decodeFrom none (offset + part.read + 1) (Char.ofNat code :: text) rest
      else
        decodeFrom (some ⟨part.missing - 1, 0x80, 0xBF, code, part.read + 1⟩) offset text rest
    else .error ⟨offset, some part.read⟩

def decode (bytes : List UInt8) : Except Fault (List Char) :=
  decodeFrom none 0 [] bytes

def text? (bytes : ByteArray) : Option String :=
  String.fromUTF8? bytes

/-- The characters of bytes, with a sign for each part that is no text. A part has bytes, so `fuel`
may be their number. -/
def decodeLossy : Nat → List UInt8 → List Char
  | 0, _ => []
  | fuel + 1, bytes =>
    match decode bytes with
    | .ok text => text
    | .error fault =>
      let front := match decode (bytes.take fault.offset) with
        | .ok text => text
        | .error _ => []
      match fault.length with
      | none => front ++ ['\ufffd']
      | some length => front ++ '\ufffd' :: decodeLossy fuel (bytes.drop (fault.offset + length))

def lossyText (bytes : ByteArray) : String :=
  String.ofList (decodeLossy (bytes.size + 1) bytes.toList)

end OfflineAgent.Utf8
