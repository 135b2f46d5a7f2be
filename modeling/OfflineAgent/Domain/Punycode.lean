/-!
Labels of any characters written in ASCII: first the ASCII characters, then after a hyphen where the
others go, as differences between places in the order of the characters.
-/

namespace OfflineAgent.Domain.Punycode

/-- Letters are the digits below 26. -/
def digit (n : Nat) : Char :=
  if n < 26 then Char.ofNat (0x61 + n) else Char.ofNat (0x30 + n - 26)

def digitValue? (c : Char) : Option Nat :=
  if 'a' ≤ c && c ≤ 'z' then some (c.toNat - 0x61)
  else if 'A' ≤ c && c ≤ 'Z' then some (c.toNat - 0x41)
  else if '0' ≤ c && c ≤ '9' then some (c.toNat - 0x30 + 26)
  else none

/-- Digits below this one are the last of a number; `position` counts from 36 by 36. -/
def threshold (bias position : Nat) : Nat :=
  if position ≤ bias then 1 else if bias + 26 ≤ position then 26 else position - bias

theorem threshold_pos (bias position : Nat) : 1 ≤ threshold bias position := by
  grind [threshold]

/-- How often a difference is cut down, times 36, and what is left of it. -/
def cutDown (difference : Nat) : Nat × Nat :=
  if 455 < difference then
    let (times, rest) := cutDown (difference / 35)
    (times + 36, rest)
  else (0, difference)
termination_by difference
decreasing_by omega

def adapt (difference count : Nat) (isFirst : Bool) : Nat :=
  let scaled := if isFirst then difference / 700 else difference / 2
  let (times, rest) := cutDown (scaled + scaled / count)
  times + 36 * rest / (rest + 38)

/-! Writing -/

/-- A number in digits, least significant first. -/
def number (bias position n : Nat) : List Char :=
  let t := threshold bias position
  if n < t then [digit n]
  else digit (t + (n - t) % (36 - t)) :: number bias (position + 36) ((n - t) / (36 - t))
termination_by n
decreasing_by
  have := threshold_pos bias position
  have := Nat.div_le_self (n - threshold bias position) (36 - threshold bias position)
  omega

/-- What is written so far: the difference since the last character, and how many are done. -/
structure Writer where
  text : List Char
  difference : Nat
  bias : Nat
  count : Nat

def Writer.meet (basicCount n : Nat) (w : Writer) (c : Nat) : Writer :=
  if c < n then { w with difference := w.difference + 1 }
  else if c = n then
    { text := w.text ++ number w.bias 36 w.difference
      difference := 0
      bias := adapt w.difference (w.count + 1) (w.count = basicCount)
      count := w.count + 1 }
  else w

/-- Writes the characters of `found` one after the other, which are ascending and from `low` on. -/
def writeFrom (label : List Nat) (basicCount : Nat) : Nat → Writer → List Nat → Writer
  | _, w, [] => w
  | low, w, n :: found =>
    let w := { w with difference := w.difference + (n - low) * (w.count + 1) }
    let w := label.foldl (Writer.meet basicCount n) w
    writeFrom label basicCount (n + 1) { w with difference := w.difference + 1 } found

def encode (label : List Nat) : List Char :=
  let basic := (label.filter (· < 0x80)).map Char.ofNat
  let found := ((label.filter (0x80 ≤ ·)).mergeSort fun a b => decide (a ≤ b)).eraseDups
  let start : Writer :=
    ⟨if basic.isEmpty then [] else basic ++ ['-'], 0, 72, basic.length⟩
  (writeFrom label basic.length 0x80 start found).text

/-! Reading -/

/-- A number at the front of a text, times `weight`, added to `sum`. -/
def readNumber (bias : Nat) : Nat → Nat → Nat → List Char → Option (Nat × List Char)
  | _, _, _, [] => none
  | position, weight, sum, c :: rest =>
    match digitValue? c with
    | none => none
    | some n =>
      let sum := sum + n * weight
      let t := threshold bias position
      if n < t then some (sum, rest)
      else readNumber bias (position + 36) (weight * (36 - t)) sum rest

def isScalarValue (n : Nat) : Bool :=
  n < 0xD800 || (0xE000 ≤ n && n < 0x110000)

/-- Puts in character after character. Each takes a digit at least, so `fuel` may be their
number. -/
def readFrom : Nat → Nat → Nat → Nat → List Nat → List Char → Option (List Nat)
  | _, _, _, _, label, [] => some label
  | 0, _, _, _, _, _ => none
  | fuel + 1, bias, low, place, label, text => do
    let (sum, rest) ← readNumber bias 36 1 place text
    let count := label.length + 1
    let n := low + sum / count
    if !isScalarValue n then none
    let bias := adapt (sum - place) count (place = 0)
    readFrom fuel bias n (sum % count + 1) (label.insertIdx (sum % count) n) rest

def splitBasic (text : List Char) : List Char × List Char :=
  match text.reverse.span (· != '-') with
  | (back, _ :: front) => (front.reverse, back.reverse)
  | (_, []) => ([], text)

def decode? (text : List Char) : Option (List Nat) :=
  let (basic, rest) := splitBasic text
  readFrom rest.length 72 0x80 0 (basic.map Char.toNat) rest

end OfflineAgent.Domain.Punycode
