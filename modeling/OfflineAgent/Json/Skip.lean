import OfflineAgent.Json.Reader

/-!
Passing over a value that nobody wants. Nesting is unlimited, and what strings hold is not looked at
beyond finding their end.
-/

namespace OfflineAgent.Json

inductive SkipScan where
  | plain
  | escape
  | hex (digits : List UInt8)
deriving DecidableEq, Repr

def skipString : SkipScan → List UInt8 → Except Fault (List UInt8)
  | _, [] => .error ⟨.eofInString, []⟩
  | .plain, b :: rest =>
    if b = 0x22 then .ok rest
    else if b = 0x5C then skipString .escape rest
    else if b < 0x20 then .error ⟨.controlCharacter, b :: rest⟩
    else skipString .plain rest
  | .escape, b :: rest =>
    if b = 0x75 then skipString (.hex []) rest
    else if (escaped? b).isSome then skipString .plain rest
    else .error ⟨.invalidEscape, rest⟩
  | .hex digits, b :: rest =>
    if digits.length < 3 then skipString (.hex (digits ++ [b])) rest
    else if (hexValue (digits ++ [b])).isSome then skipString .plain rest
    else .error ⟨.invalidEscape, rest⟩

def skipExponent (s : List UInt8) : Except Fault (List UInt8) :=
  let s := match s with
    | 0x2B :: rest => rest
    | 0x2D :: rest => rest
    | s => s
  match s.span isDigit with
  | ([], s) => faultAt .invalidNumber s
  | (_, rest) => .ok rest

def skipFraction (s : List UInt8) : Except Fault (List UInt8) :=
  match s.span isDigit with
  | ([], s) => faultAt .invalidNumber s
  | (_, b :: rest) => if isExponentMark b then skipExponent rest else .ok (b :: rest)
  | (_, []) => .ok []

def skipNumber (s : List UInt8) : Except Fault (List UInt8) :=
  match s.span isDigit with
  | ([], s) => faultAt .invalidNumber s
  | (whole, rest) =>
    if whole.head? = some 0x30 ∧ 1 < whole.length then faultAt .invalidNumber (s.drop 1)
    else
      match rest with
      | b :: after =>
        if b = 0x2E then skipFraction after
        else if isExponentMark b then skipExponent after
        else .ok rest
      | [] => .ok []

/-- A container whose end is still to come. -/
inductive Frame where
  | list
  | object
deriving DecidableEq, Repr

/-- What is passed over next: a value, or what stands after a value or an opening bracket. -/
inductive SkipPhase where
  | value
  | close (afterValue : Bool)
deriving DecidableEq, Repr

def skipName (s : List UInt8) : Except Fault (List UInt8) :=
  match skipSpace s with
  | [] => .error ⟨.eofInObject, []⟩
  | 0x22 :: rest => do colon (← skipString .plain rest)
  | s => faultAt .keyNotString s

def skipFrom : Nat → SkipPhase → List Frame → List UInt8 → Except Fault (List UInt8)
  | 0, _, _, s => .error ⟨.eofInValue, s⟩
  | fuel + 1, .value, frames, s => do
    match skipSpace s with
    | [] => .error ⟨.eofInValue, []⟩
    | b :: rest =>
      if b = 0x5B then skipFrom fuel (.close false) (.list :: frames) rest
      else if b = 0x7B then skipFrom fuel (.close false) (.object :: frames) rest
      else
        let rest ←
          if b = 0x6E then word [0x75, 0x6C, 0x6C] rest
          else if b = 0x74 then word [0x72, 0x75, 0x65] rest
          else if b = 0x66 then word [0x61, 0x6C, 0x73, 0x65] rest
          else if b = 0x2D then skipNumber rest
          else if isDigit b then skipNumber (b :: rest)
          else if b = 0x22 then skipString .plain rest
          else faultAt .expectedValue (b :: rest)
        skipFrom fuel (.close true) frames rest
  | _, .close _, [], s => .ok s
  | fuel + 1, .close afterValue, .list :: frames, s =>
    match skipSpace s with
    | [] => .error ⟨.eofInList, []⟩
    | b :: rest =>
      if b = 0x5D then skipFrom fuel (.close true) frames rest
      else if !afterValue then skipFrom fuel .value (.list :: frames) (b :: rest)
      else if b = 0x2C then skipFrom fuel .value (.list :: frames) rest
      else faultAt .expectedCommaOrBracket (b :: rest)
  | fuel + 1, .close afterValue, .object :: frames, s => do
    match skipSpace s with
    | [] => .error ⟨.eofInObject, []⟩
    | b :: rest =>
      if b = 0x7D then skipFrom fuel (.close true) frames rest
      else if !afterValue then skipFrom fuel .value (.object :: frames) (← skipName (b :: rest))
      else if b = 0x2C then skipFrom fuel .value (.object :: frames) (← skipName rest)
      else faultAt .expectedCommaOrBrace (b :: rest)

def skipValue (s : List UInt8) : Except Fault (List UInt8) :=
  skipFrom (2 * s.length + 2) .value [] s

end OfflineAgent.Json
