import Mathlib
import OfflineAgent.Json.Basic

/-!
# The grammar of JSON texts

How values whose numbers are integers of 64 bits are written: with white space between any two
tokens, and every way there is to write a character inside a string. The grammar is apart from the
reader, and says nothing of what the reader does with a text.
-/

namespace OfflineAgent.Json

/-! ### White space and strings -/

/-- White space between tokens. -/
def IsBlank (s : List UInt8) : Prop :=
  ∀ b ∈ s, b = 0x20 ∨ b = 0x09 ∨ b = 0x0A ∨ b = 0x0D

/-- A hexadecimal digit in either letter case, with its value. -/
inductive HexDigit : Nat → UInt8 → Prop
  | decimal {d : Nat} (hd : d < 10) : HexDigit d (.ofNat (0x30 + d))
  | small {d : Nat} (hd : d < 6) : HexDigit (10 + d) (.ofNat (0x61 + d))
  | capital {d : Nat} (hd : d < 6) : HexDigit (10 + d) (.ofNat (0x41 + d))

/-- Four hexadecimal digits, with the number they write. -/
inductive HexFour : Nat → List UInt8 → Prop
  | mk {a b c d : Nat} {first second third fourth : UInt8} (ha : HexDigit a first)
      (hb : HexDigit b second) (hc : HexDigit c third) (hd : HexDigit d fourth) :
      HexFour (16 * (16 * (16 * a + b) + c) + d) [first, second, third, fourth]

/-- The characters that may be written as a backslash and a sign. -/
def shortEscapes : List (Char × UInt8) :=
  [('"', 0x22), ('\\', 0x5C), ('/', 0x2F), ('\x08', 0x62), ('\x0c', 0x66), ('\n', 0x6E),
    ('\r', 0x72), ('\t', 0x74)]

/-- A character inside a string: as itself, as a backslash and a sign, or as one or two hexadecimal
numbers. -/
inductive WrittenChar : Char → List UInt8 → Prop
  | plain {c : Char} (hquote : c ≠ '"') (hbackslash : c ≠ '\\') (hcontrol : ¬c.toNat < 0x20) :
      WrittenChar c (String.utf8EncodeChar c)
  | short {c : Char} {sign : UInt8} (hsign : (c, sign) ∈ shortEscapes) : WrittenChar c [0x5C, sign]
  | unit {c : Char} {digits : List UInt8} (hdigits : HexFour c.toNat digits) :
      WrittenChar c (0x5C :: 0x75 :: digits)
  | pair {c : Char} {lead trail : Nat} {first second : List UInt8}
      (hlead : 0xD800 ≤ lead ∧ lead ≤ 0xDBFF) (htrail : 0xDC00 ≤ trail ∧ trail ≤ 0xDFFF)
      (hpoint : c.toNat = 0x10000 + (lead - 0xD800) * 0x400 + (trail - 0xDC00))
      (hfirst : HexFour lead first) (hsecond : HexFour trail second) :
      WrittenChar c (0x5C :: 0x75 :: (first ++ 0x5C :: 0x75 :: second))

/-- Characters one after the other. -/
inductive WrittenChars : List Char → List UInt8 → Prop
  | nil : WrittenChars [] []
  | cons {c : Char} {chars : List Char} {first rest : List UInt8} (hfirst : WrittenChar c first)
      (hrest : WrittenChars chars rest) : WrittenChars (c :: chars) (first ++ rest)

/-- A string between quotes. -/
inductive WrittenString : String → List UInt8 → Prop
  | quoted {text : String} {inner : List UInt8} (hinner : WrittenChars text.toList inner) :
      WrittenString text (0x22 :: (inner ++ [0x22]))

/-! ### Numbers -/

/-- Digits, the first of which is a zero only if it is the only one. -/
inductive WrittenNat : Nat → List UInt8 → Prop
  | digit {d : Nat} (hd : d < 10) : WrittenNat d [.ofNat (0x30 + d)]
  | more {n d : Nat} {s : List UInt8} (hfront : WrittenNat n s) (hn : 0 < n) (hd : d < 10) :
      WrittenNat (10 * n + d) (s ++ [.ofNat (0x30 + d)])

/-- An integer of 64 bits, signed or not. A zero with a sign is kept as a binary number. -/
inductive WrittenNumber : Number → List UInt8 → Prop
  | natural {n : Nat} {s : List UInt8} (hn : n < 2 ^ 64) (hdigits : WrittenNat n s) :
      WrittenNumber (.integer n) s
  | negative {n : Nat} {s : List UInt8} (hpos : 0 < n) (hn : n ≤ 2 ^ 63)
      (hdigits : WrittenNat n s) : WrittenNumber (.integer (-n)) (0x2D :: s)
  | negativeZero : WrittenNumber (.binary ⟨true, 0, Binary64.minExponent⟩) [0x2D, 0x30]

/-! ### Values -/

/-- A value, its text, and the white space around it. -/
structure Piece where
  before : List UInt8
  value : Value
  text : List UInt8
  after : List UInt8

namespace Piece

def bytes (piece : Piece) : List UInt8 :=
  piece.before ++ (piece.text ++ piece.after)

def HasBlanks (piece : Piece) : Prop :=
  IsBlank piece.before ∧ IsBlank piece.after

/-- The items of an array from a comma on, and the closing bracket. -/
def following : List Piece → List UInt8
  | [] => [0x5D]
  | piece :: rest => 0x2C :: (piece.bytes ++ following rest)

end Piece

/-- A member of an object: a name, its text, the white space around it, and a value. -/
structure Member where
  before : List UInt8
  name : String
  text : List UInt8
  after : List UInt8
  piece : Piece

namespace Member

def bytes (member : Member) : List UInt8 :=
  member.before ++ (member.text ++ (member.after ++ 0x3A :: member.piece.bytes))

def HasBlanks (member : Member) : Prop :=
  IsBlank member.before ∧ IsBlank member.after ∧ member.piece.HasBlanks

def pair (member : Member) : String × Value :=
  (member.name, member.piece.value)

/-- The members of an object from a comma on, and the closing brace. -/
def following : List Member → List UInt8
  | [] => [0x7D]
  | member :: rest => 0x2C :: (member.bytes ++ following rest)

end Member

/-- A text of a value in which at most so many containers are open at once. -/
inductive Written : Nat → Value → List UInt8 → Prop
  | null {depth : Nat} : Written depth .null [0x6E, 0x75, 0x6C, 0x6C]
  | true {depth : Nat} : Written depth (.bool true) [0x74, 0x72, 0x75, 0x65]
  | false {depth : Nat} : Written depth (.bool false) [0x66, 0x61, 0x6C, 0x73, 0x65]
  | number {depth : Nat} {number : Number} {s : List UInt8} (hnumber : WrittenNumber number s) :
      Written depth (.number number) s
  | string {depth : Nat} {text : String} {s : List UInt8} (hstring : WrittenString text s) :
      Written depth (.string text) s
  | emptyArray {depth : Nat} {blank : List UInt8} (hblank : IsBlank blank) :
      Written (depth + 1) (.array []) (0x5B :: (blank ++ [0x5D]))
  | array {depth : Nat} {first : Piece} {rest : List Piece}
      (hblanks : ∀ piece ∈ first :: rest, piece.HasBlanks)
      (hpieces : ∀ piece ∈ first :: rest, Written depth piece.value piece.text) :
      Written (depth + 1) (.array ((first :: rest).map (·.value)))
        (0x5B :: (first.bytes ++ Piece.following rest))
  | emptyObject {depth : Nat} {blank : List UInt8} (hblank : IsBlank blank) :
      Written (depth + 1) (.object []) (0x7B :: (blank ++ [0x7D]))
  | object {depth : Nat} {first : Member} {rest : List Member}
      (hblanks : ∀ member ∈ first :: rest, member.HasBlanks)
      (hnames : ∀ member ∈ first :: rest, WrittenString member.name member.text)
      (hpieces : ∀ member ∈ first :: rest, Written depth member.piece.value member.piece.text) :
      Written (depth + 1) (.object ((first :: rest).map (·.pair)))
        (0x7B :: (first.bytes ++ Member.following rest))

end OfflineAgent.Json
