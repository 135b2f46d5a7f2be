/-!
Why bytes are no JSON, or not the JSON that was asked for, and where.
-/

namespace OfflineAgent.Json

inductive Cause where
  | eofInValue
  | eofInList
  | eofInObject
  | eofInString
  | expectedColon
  | expectedCommaOrBracket
  | expectedCommaOrBrace
  | expectedWord
  | expectedValue
  | invalidEscape
  | invalidNumber
  | numberOutOfRange
  | invalidText
  | controlCharacter
  | keyNotString
  | loneSurrogate
  | unfinishedSurrogate
  | trailingComma
  | trailingCharacters
  | tooDeep
  /-- Well-formed, but not what the reader of the value takes. -/
  | unfit (message : String)
deriving DecidableEq, Repr

namespace Cause

def message : Cause → String
  | eofInValue => "EOF while parsing a value"
  | eofInList => "EOF while parsing a list"
  | eofInObject => "EOF while parsing an object"
  | eofInString => "EOF while parsing a string"
  | expectedColon => "expected `:`"
  | expectedCommaOrBracket => "expected `,` or `]`"
  | expectedCommaOrBrace => "expected `,` or `\x7d`"
  | expectedWord => "expected ident"
  | expectedValue => "expected value"
  | invalidEscape => "invalid escape"
  | invalidNumber => "invalid number"
  | numberOutOfRange => "number out of range"
  | invalidText => "invalid unicode code point"
  | controlCharacter => "control character (\\u0000-\\u001F) found while parsing a string"
  | keyNotString => "key must be a string"
  | loneSurrogate => "lone leading surrogate in hex escape"
  | unfinishedSurrogate => "unexpected end of hex escape"
  | trailingComma => "trailing comma"
  | trailingCharacters => "trailing characters"
  | tooDeep => "recursion limit exceeded"
  | unfit message => message

def isUnfit : Cause → Bool
  | unfit _ => true
  | _ => false

end Cause

/-- `rest` is what lay unread when the fault was noticed, so it fixes the position. -/
structure Fault where
  cause : Cause
  rest : List UInt8
deriving DecidableEq, Repr

/-- A line from one on, and how many of its bytes lie before. -/
structure Position where
  line : Nat
  column : Nat
deriving DecidableEq, Repr

namespace Position

def start : Position := ⟨1, 0⟩

def advance (p : Position) (b : UInt8) : Position :=
  if b = 10 then ⟨p.line + 1, 0⟩ else ⟨p.line, p.column + 1⟩

def ofBytes (bytes : List UInt8) : Position :=
  bytes.foldl advance start

end Position

def Fault.position (input : List UInt8) (f : Fault) : Position :=
  .ofBytes (input.take (input.length - f.rest.length))

/-- The message with its place in `input`. -/
def Fault.message (input : List UInt8) (f : Fault) : String :=
  let p := f.position input
  f.cause.message ++ " at line " ++ toString p.line ++ " column " ++ toString p.column

end OfflineAgent.Json
