import OfflineAgent.Json.Basic
import OfflineAgent.Json.Fault
import OfflineAgent.Text.Utf8

/-!
Reading JSON from bytes. Every reader takes what is unread and gives what it read and what it left,
and a fault keeps what was unread where it was noticed. `Value.parse` reads a whole text.
-/

namespace OfflineAgent.Json

/-- A fault of the byte after next to be read, or of the end. -/
def faultAt {α : Type} (cause : Cause) (s : List UInt8) : Except Fault α :=
  .error ⟨cause, s.drop 1⟩

def isSpace (b : UInt8) : Bool :=
  b = 0x20 || b = 0x0A || b = 0x09 || b = 0x0D

def isDigit (b : UInt8) : Bool :=
  0x30 ≤ b && b ≤ 0x39

def skipSpace : List UInt8 → List UInt8
  | [] => []
  | b :: rest => if isSpace b then skipSpace rest else b :: rest

/-- The letters of `null`, `true` or `false` that are still to come. -/
def word : List UInt8 → List UInt8 → Except Fault (List UInt8)
  | [], s => .ok s
  | _ :: _, [] => .error ⟨.eofInValue, []⟩
  | w :: word', b :: rest => if b = w then word word' rest else .error ⟨.expectedWord, rest⟩

inductive Scan where
  | plain
  /-- After a backslash. -/
  | escape
  /-- Inside the four digits of an escape; `lead` is the first half of a surrogate pair. -/
  | hex (lead : Option Nat) (digits : List UInt8)
  /-- After the first half of a surrogate pair. -/
  | pair (lead : Nat)
  /-- After that and a backslash. -/
  | pairEscape (lead : Nat)
deriving DecidableEq, Repr

def hexValue (digits : List UInt8) : Option Nat :=
  digits.foldlM (fun n b => (Hex.digitValue (Char.ofNat b.toNat)).map (16 * n + ·)) 0

def utf8Reversed (code : Nat) : List UInt8 :=
  (String.singleton (Char.ofNat code)).toUTF8.toList.reverse

def escaped? : UInt8 → Option UInt8
  | 0x22 => some 0x22
  | 0x5C => some 0x5C
  | 0x2F => some 0x2F
  | 0x62 => some 0x08
  | 0x66 => some 0x0C
  | 0x6E => some 0x0A
  | 0x72 => some 0x0D
  | 0x74 => some 0x09
  | _ => none

def isLeadSurrogate (n : Nat) : Bool :=
  0xD800 ≤ n && n ≤ 0xDBFF

def isTrailSurrogate (n : Nat) : Bool :=
  0xDC00 ≤ n && n ≤ 0xDFFF

/-- The rest of a string after its opening quote; `text` holds the bytes read, last first. -/
def stringFrom : Scan → List UInt8 → List UInt8 → Except Fault (String × List UInt8)
  | _, _, [] => .error ⟨.eofInString, []⟩
  | .plain, text, b :: rest =>
    if b = 0x22 then
      match Utf8.decode text.reverse with
      | .ok chars => .ok (String.ofList chars, rest)
      | .error _ => .error ⟨.invalidText, b :: rest⟩
    else if b = 0x5C then stringFrom .escape text rest
    else if b < 0x20 then .error ⟨.controlCharacter, rest⟩
    else stringFrom .plain (b :: text) rest
  | .escape, text, b :: rest =>
    if b = 0x75 then stringFrom (.hex none []) text rest
    else
      match escaped? b with
      | some c => stringFrom .plain (c :: text) rest
      | none => .error ⟨.invalidEscape, rest⟩
  | .hex lead digits, text, b :: rest =>
    if digits.length < 3 then stringFrom (.hex lead (digits ++ [b])) text rest
    else
      match hexValue (digits ++ [b]), lead with
      | none, _ => .error ⟨.invalidEscape, rest⟩
      | some n, none =>
        if isTrailSurrogate n then .error ⟨.loneSurrogate, rest⟩
        else if isLeadSurrogate n then stringFrom (.pair n) text rest
        else stringFrom .plain (utf8Reversed n ++ text) rest
      | some n, some m =>
        if isTrailSurrogate n then
          let point := 0x10000 + (m - 0xD800) * 0x400 + (n - 0xDC00)
          stringFrom .plain (utf8Reversed point ++ text) rest
        else .error ⟨.loneSurrogate, rest⟩
  | .pair lead, text, b :: rest =>
    if b = 0x5C then stringFrom (.pairEscape lead) text rest
    else .error ⟨.unfinishedSurrogate, rest⟩
  | .pairEscape lead, text, b :: rest =>
    if b = 0x75 then stringFrom (.hex (some lead) []) text rest
    else .error ⟨.unfinishedSurrogate, rest⟩

def digitsValue (digits : List UInt8) : Nat :=
  digits.foldl (fun n b => 10 * n + (b.toNat - 0x30)) 0

/-- The exponent after its letter, or none. -/
def exponentPart (s : List UInt8) : Except Fault (Int × List UInt8) :=
  let (negative, s) := match s with
    | 0x2B :: rest => (false, rest)
    | 0x2D :: rest => (true, rest)
    | s => (false, s)
  match s.span isDigit with
  | ([], []) => .error ⟨.eofInValue, []⟩
  | ([], s) => faultAt .invalidNumber s
  | (digits, rest) =>
    let n : Int := digitsValue digits
    .ok (if negative then -n else n, rest)

def binary (negative : Bool) (digits : Nat) (exponent : Int) (s : List UInt8) :
    Except Fault (Number × List UInt8) :=
  match Binary64.ofDecimal negative ⟨digits, exponent⟩ with
  | some b => .ok (.binary b, s)
  | none => .error ⟨.numberOutOfRange, s⟩

def isExponentMark (b : UInt8) : Bool :=
  b = 0x65 || b = 0x45

/-- What may follow the whole digits and the fraction of a number. -/
def numberTail (negative : Bool) (digits : Nat) (places : Nat) (s : List UInt8) :
    Except Fault (Number × List UInt8) :=
  match s with
  | b :: rest =>
    if isExponentMark b then do
      let (exponent, rest) ← exponentPart rest
      binary negative digits (exponent - places) rest
    else binary negative digits (-places) s
  | [] => binary negative digits (-places) s

/-- An integer outside 64 bits, and `-0`, is a binary number. -/
def integer (negative : Bool) (n : Nat) (s : List UInt8) : Except Fault (Number × List UInt8) :=
  if negative then
    if n = 0 ∨ -(n : Int) < Int64.minValue.toInt then binary true n 0 s else .ok (.integer (-n), s)
  else if n < UInt64.size then .ok (.integer n, s)
  else binary false n 0 s

def number (negative : Bool) (s : List UInt8) : Except Fault (Number × List UInt8) :=
  match s.span isDigit with
  | ([], []) => .error ⟨.eofInValue, []⟩
  | ([], s) => faultAt .invalidNumber s
  | (whole, rest) =>
    if whole.head? = some 0x30 ∧ 1 < whole.length then
      faultAt .invalidNumber (s.drop 1)
    else
      match rest with
      | 0x2E :: afterPoint =>
        match afterPoint.span isDigit with
        | ([], []) => .error ⟨.eofInValue, []⟩
        | ([], s) => faultAt .invalidNumber s
        | (part, rest) => numberTail negative (digitsValue (whole ++ part)) part.length rest
      | b :: _ =>
        if isExponentMark b then numberTail negative (digitsValue whole) 0 rest
        else integer negative (digitsValue whole) rest
      | [] => integer negative (digitsValue whole) rest

/-- Before an item of a list: whether there is one, and from where. -/
def nextItem (isFirst : Bool) (s : List UInt8) : Except Fault (Bool × List UInt8) :=
  match skipSpace s with
  | [] => .error ⟨.eofInList, []⟩
  | 0x5D :: rest => .ok (false, 0x5D :: rest)
  | b :: rest =>
    if isFirst then .ok (true, b :: rest)
    else if b = 0x2C then
      match skipSpace rest with
      | [] => .error ⟨.eofInValue, []⟩
      | 0x5D :: rest => faultAt .trailingComma (0x5D :: rest)
      | s => .ok (true, s)
    else faultAt .expectedCommaOrBracket (b :: rest)

/-- Before a member of an object: whether there is one, and from where. -/
def nextMember (isFirst : Bool) (s : List UInt8) : Except Fault (Bool × List UInt8) :=
  match skipSpace s with
  | [] => .error ⟨.eofInObject, []⟩
  | 0x7D :: rest => .ok (false, 0x7D :: rest)
  | b :: rest =>
    if isFirst then
      if b = 0x22 then .ok (true, b :: rest) else faultAt .keyNotString (b :: rest)
    else if b = 0x2C then
      match skipSpace rest with
      | [] => .error ⟨.eofInValue, []⟩
      | 0x22 :: rest => .ok (true, 0x22 :: rest)
      | 0x7D :: rest => faultAt .trailingComma (0x7D :: rest)
      | s => faultAt .keyNotString s
    else faultAt .expectedCommaOrBrace (b :: rest)

def colon (s : List UInt8) : Except Fault (List UInt8) :=
  match skipSpace s with
  | [] => .error ⟨.eofInObject, []⟩
  | 0x3A :: rest => .ok rest
  | s => faultAt .expectedColon s

def closeList (s : List UInt8) : Except Fault (List UInt8) :=
  match skipSpace s with
  | [] => .error ⟨.eofInList, []⟩
  | 0x5D :: rest => .ok rest
  | 0x2C :: rest =>
    match skipSpace rest with
    | 0x5D :: rest => faultAt .trailingComma (0x5D :: rest)
    | s => faultAt .trailingCharacters s
  | s => faultAt .trailingCharacters s

def closeObject (s : List UInt8) : Except Fault (List UInt8) :=
  match skipSpace s with
  | [] => .error ⟨.eofInObject, []⟩
  | 0x7D :: rest => .ok rest
  | 0x2C :: rest => faultAt .trailingComma (0x2C :: rest)
  | s => faultAt .trailingCharacters s

/-- Only white space may follow a whole text. -/
def finish (s : List UInt8) : Except Fault Unit :=
  match skipSpace s with
  | [] => .ok ()
  | s => faultAt .trailingCharacters s

/-- How many containers may be open at once. -/
def maxDepth : Nat := 127

mutual

/-- One value. `depth` counts the containers that may still be opened; each call is on fewer bytes
or a lower `fuel` of twice their number. -/
def valueFrom : Nat → Nat → List UInt8 → Except Fault (Value × List UInt8)
  | 0, _, s => .error ⟨.tooDeep, s⟩
  | fuel + 1, depth, s =>
    match skipSpace s with
    | [] => .error ⟨.eofInValue, []⟩
    | b :: rest =>
      if b = 0x6E then do return (.null, ← word [0x75, 0x6C, 0x6C] rest)
      else if b = 0x74 then do return (.bool true, ← word [0x72, 0x75, 0x65] rest)
      else if b = 0x66 then do return (.bool false, ← word [0x61, 0x6C, 0x73, 0x65] rest)
      else if b = 0x2D then do
        let (n, rest) ← number true rest
        return (.number n, rest)
      else if isDigit b then do
        let (n, rest) ← number false (b :: rest)
        return (.number n, rest)
      else if b = 0x22 then do
        let (text, rest) ← stringFrom .plain [] rest
        return (.string text, rest)
      else if b = 0x5B then
        match depth with
        | 0 => .error ⟨.tooDeep, rest⟩
        | depth + 1 => itemsFrom fuel depth [] rest
      else if b = 0x7B then
        match depth with
        | 0 => .error ⟨.tooDeep, rest⟩
        | depth + 1 => membersFrom fuel depth [] rest
      else faultAt .expectedValue (b :: rest)

/-- The items of a list and its closing bracket; `items` holds those read, last first. -/
def itemsFrom : Nat → Nat → List Value → List UInt8 → Except Fault (Value × List UInt8)
  | 0, _, _, s => .error ⟨.tooDeep, s⟩
  | fuel + 1, depth, items, s =>
    match nextItem items.isEmpty s with
    | .error e => .error e
    | .ok (false, s) =>
      match closeList s with
      | .error e => .error e
      | .ok s => .ok (.array items.reverse, s)
    | .ok (true, s) =>
      match valueFrom fuel depth s with
      | .error e => .error e
      | .ok (v, s) => itemsFrom fuel depth (v :: items) s

/-- The members of an object and its closing brace; `members` holds those read, last first. -/
def membersFrom : Nat → Nat → List (String × Value) → List UInt8 → Except Fault (Value × List UInt8)
  | 0, _, _, s => .error ⟨.tooDeep, s⟩
  | fuel + 1, depth, members, s =>
    match nextMember members.isEmpty s with
    | .error e => .error e
    | .ok (false, s) =>
      match closeObject s with
      | .error e => .error e
      | .ok s => .ok (.object members.reverse, s)
    | .ok (true, s) =>
      match stringFrom .plain [] (s.drop 1) with
      | .error e => .error e
      | .ok (name, s) =>
        match colon s with
        | .error e => .error e
        | .ok s =>
          match valueFrom fuel depth s with
          | .error e => .error e
          | .ok (v, s) => membersFrom fuel depth ((name, v) :: members) s

end

def value (s : List UInt8) : Except Fault (Value × List UInt8) :=
  valueFrom (2 * s.length + 2) maxDepth s

def Value.parse (s : List UInt8) : Except Fault Value := do
  let (v, rest) ← value s
  finish rest
  return v

end OfflineAgent.Json
