/-!
SHA-256: the message is padded to blocks of sixteen words, and each block turns the state of
eight words by sixty-four rounds.
-/

namespace OfflineAgent.Sha256

structure State where
  a : UInt32
  b : UInt32
  c : UInt32
  d : UInt32
  e : UInt32
  f : UInt32
  g : UInt32
  h : UInt32
deriving DecidableEq

def State.initial : State :=
  ⟨0x6a09e667, 0xbb67ae85, 0x3c6ef372, 0xa54ff53a, 0x510e527f, 0x9b05688c, 0x1f83d9ab, 0x5be0cd19⟩

def roundConstants : Array UInt32 := #[
  0x428a2f98, 0x71374491, 0xb5c0fbcf, 0xe9b5dba5, 0x3956c25b, 0x59f111f1, 0x923f82a4, 0xab1c5ed5,
  0xd807aa98, 0x12835b01, 0x243185be, 0x550c7dc3, 0x72be5d74, 0x80deb1fe, 0x9bdc06a7, 0xc19bf174,
  0xe49b69c1, 0xefbe4786, 0x0fc19dc6, 0x240ca1cc, 0x2de92c6f, 0x4a7484aa, 0x5cb0a9dc, 0x76f988da,
  0x983e5152, 0xa831c66d, 0xb00327c8, 0xbf597fc7, 0xc6e00bf3, 0xd5a79147, 0x06ca6351, 0x14292967,
  0x27b70a85, 0x2e1b2138, 0x4d2c6dfc, 0x53380d13, 0x650a7354, 0x766a0abb, 0x81c2c92e, 0x92722c85,
  0xa2bfe8a1, 0xa81a664b, 0xc24b8b70, 0xc76c51a3, 0xd192e819, 0xd6990624, 0xf40e3585, 0x106aa070,
  0x19a4c116, 0x1e376c08, 0x2748774c, 0x34b0bcb5, 0x391c0cb3, 0x4ed8aa4a, 0x5b9cca4f, 0x682e6ff3,
  0x748f82ee, 0x78a5636f, 0x84c87814, 0x8cc70208, 0x90befffa, 0xa4506ceb, 0xbef9a3f7, 0xc67178f2]

@[inline]
def rotateRight (x : UInt32) (n : UInt32) : UInt32 :=
  (x >>> n) ||| (x <<< (32 - n))

def State.round (s : State) (constant word : UInt32) : State :=
  let s1 := rotateRight s.e 6 ^^^ rotateRight s.e 11 ^^^ rotateRight s.e 25
  let choice := (s.e &&& s.f) ^^^ ((~~~s.e) &&& s.g)
  let t1 := s.h + s1 + choice + constant + word
  let s0 := rotateRight s.a 2 ^^^ rotateRight s.a 13 ^^^ rotateRight s.a 22
  let majority := (s.a &&& s.b) ^^^ (s.a &&& s.c) ^^^ (s.b &&& s.c)
  ⟨t1 + (s0 + majority), s.a, s.b, s.c, s.d + t1, s.e, s.f, s.g⟩

def State.add (s t : State) : State :=
  ⟨s.a + t.a, s.b + t.b, s.c + t.c, s.d + t.d, s.e + t.e, s.f + t.f, s.g + t.g, s.h + t.h⟩

/-- The word of four bytes from `i` on, most significant byte first. -/
def wordAt (bytes : ByteArray) (i : Nat) : UInt32 :=
  ((bytes.get! i).toUInt32 <<< 24) ||| ((bytes.get! (i + 1)).toUInt32 <<< 16) |||
    ((bytes.get! (i + 2)).toUInt32 <<< 8) ||| (bytes.get! (i + 3)).toUInt32

/-- The sixteen words of a block, then forty-eight computed from them. -/
def schedule (bytes : ByteArray) (start : Nat) : Array UInt32 :=
  let words := (List.range 16).foldl (fun ws i => ws.push (wordAt bytes (start + 4 * i)))
    (Array.mkEmpty 64)
  (List.range 48).foldl (fun ws i =>
    let w15 := ws[i + 1]!
    let w2 := ws[i + 14]!
    let s0 := rotateRight w15 7 ^^^ rotateRight w15 18 ^^^ (w15 >>> 3)
    let s1 := rotateRight w2 17 ^^^ rotateRight w2 19 ^^^ (w2 >>> 10)
    ws.push (ws[i]! + s0 + ws[i + 9]! + s1)) words

def rounds (words : Array UInt32) : Nat → State → State
  | 0, s => s
  | n + 1, s => rounds words n (s.round roundConstants[63 - n]! words[63 - n]!)

def State.block (s : State) (bytes : ByteArray) (start : Nat) : State :=
  s.add (rounds (schedule bytes start) 64 s)

def blocks (bytes : ByteArray) : Nat → Nat → State → State
  | 0, _, s => s
  | n + 1, start, s => blocks bytes n (start + 64) (s.block bytes start)

def bigEndian (n : Nat) (count : Nat) : List UInt8 :=
  (List.range count).map fun i => UInt8.ofNat (n >>> (8 * (count - 1 - i)))

/-- A one bit, then zeros, then the length in bits, up to a multiple of 64 bytes. -/
def padding (size : Nat) : ByteArray :=
  let zeros := (119 - size % 64) % 64
  ⟨((0x80 : UInt8) :: List.replicate zeros 0 ++ bigEndian (8 * size) 8).toArray⟩

def digest (message : ByteArray) : ByteArray :=
  let padded := message ++ padding message.size
  let s := blocks padded (padded.size / 64) 0 State.initial
  ⟨([s.a, s.b, s.c, s.d, s.e, s.f, s.g, s.h].flatMap fun w => bigEndian w.toNat 4).toArray⟩

end OfflineAgent.Sha256
