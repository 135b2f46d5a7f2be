import OfflineAgent.Decimal.Binary64
import OfflineAgent.Text.Quoted

/-!
What the text of a plain scalar stands for: nothing, a truth value, a number or itself.
-/

namespace OfflineAgent.Yaml

inductive Real where
  | finite (value : Binary64)
  | infinite (negative : Bool)
  | notANumber
deriving DecidableEq, Repr

inductive Meaning where
  | nothing
  | bool (value : Bool)
  | integer (value : Int)
  | real (value : Real)
  | text (value : String)
deriving DecidableEq, Repr

def isNull (text : String) : Bool :=
  ["null", "Null", "NULL", "~"].contains text

def bool? (text : String) : Option Bool :=
  if ["true", "True", "TRUE"].contains text then some true
  else if ["false", "False", "FALSE"].contains text then some false
  else none

/-! Numbers -/

def digitOf? (radix : Nat) (c : Char) : Option Nat :=
  match Hex.digitValue c with
  | some n => if n < radix then some n else none
  | none => none

def digits? (radix : Nat) (text : List Char) : Option Nat :=
  if text.isEmpty then none
  else (text.mapM (digitOf? radix)).map fun digits => digits.foldl (fun n d => radix * n + d) 0

def isSigned (text : List Char) : Bool :=
  text.head?.any fun c => c = '+' || c = '-'

def dropPlus (text : List Char) : List Char :=
  match text with
  | '+' :: rest => rest
  | _ => text

def isPadded (text : List Char) : Bool :=
  match if isSigned text then text.tail else text with
  | '0' :: rest => !rest.isEmpty && rest.all fun c => '0' ≤ c && c ≤ '9'
  | _ => false

/-- The size of an integer: decimal, or hexadecimal, octal or binary after a sign for that. -/
def size? (text : List Char) : Option Nat :=
  match text with
  | '0' :: 'x' :: rest => digits? 16 rest
  | '0' :: 'o' :: rest => digits? 8 rest
  | '0' :: 'b' :: rest => digits? 2 rest
  | _ => if isPadded text then none else digits? 10 text

def nat? (bits : Nat) (text : String) : Option Nat :=
  (size? (dropPlus text.toList)).filter (· < 1 <<< bits)

def negative? (bits : Nat) (text : String) : Option Int :=
  match text.toList with
  | '-' :: rest => ((size? rest).filter (· ≤ 1 <<< (bits - 1))).map fun n => -(n : Int)
  | _ => none

/-- Integers have up to 128 bits, with or without sign. -/
def integer? (text : String) : Option Int :=
  match nat? 128 text with
  | some n => some n
  | none => negative? 128 text

def exponent? (text : List Char) : Option Int :=
  match text with
  | [] => some 0
  | c :: rest =>
    if c = 'e' || c = 'E' then
      match rest with
      | '-' :: digits => (digits? 10 digits).map fun n => -(n : Int)
      | _ => (digits? 10 (dropPlus rest)).map fun n => (n : Int)
    else none

/-- Digits, a point with digits, and an exponent. On one side of the point digits may be missing. -/
def decimal? (text : List Char) : Option Decimal :=
  let isDigit := fun c : Char => decide ('0' ≤ c) && decide (c ≤ '9')
  let (whole, rest) := text.span isDigit
  let (part, rest) := match rest with
    | '.' :: rest => rest.span isDigit
    | _ => ([], rest)
  match digits? 10 (whole ++ part), exponent? rest with
  | some digits, some exponent => some ⟨digits, exponent - part.length⟩
  | _, _ => none

def real? (text : String) : Option Real :=
  let chars := text.toList
  let unsigned := dropPlus chars
  if chars.head? = some '+' && isSigned unsigned then none
  else if [".inf", ".Inf", ".INF"].contains (String.ofList unsigned) then some (.infinite false)
  else if ["-.inf", "-.Inf", "-.INF"].contains text then some (.infinite true)
  else if [".nan", ".NaN", ".NAN"].contains text then some .notANumber
  else
    let (negative, digits) := match unsigned with
      | '-' :: rest => (true, rest)
      | _ => (false, unsigned)
    (decimal? digits).bind fun x => (Binary64.ofDecimal negative x).map .finite

/-- A number that no kind of integer takes may still be a real one. -/
def Meaning.ofPlain (text : String) : Meaning :=
  if text.isEmpty || isNull text then .nothing
  else
    match bool? text, integer? text with
    | some b, _ => .bool b
    | none, some i => .integer i
    | none, none =>
      match if isPadded text.toList then none else real? text with
      | some r => .real r
      | none => .text text

namespace Real

def text : Real → String
  | finite x => x.plainText
  | infinite negative => if negative then "-inf" else "inf"
  | notANumber => "NaN"

end Real

/-- Integers of more than 64 bits are named with their width. -/
def integerKind (i : Int) : String :=
  "integer `" ++ toString i ++ "`" ++
    if UInt64.size ≤ i then " as u128"
    else if i < Int64.minValue.toInt then " as i128" else ""

def Meaning.kind : Meaning → String
  | nothing => "unit value"
  | bool b => if b then "boolean `true`" else "boolean `false`"
  | integer i => integerKind i
  | real r => "floating point `" ++ r.text ++ "`"
  | text s => "string " ++ Quoted.quote s

end OfflineAgent.Yaml
