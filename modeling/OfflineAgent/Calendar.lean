import OfflineAgent.Text.Blank

/-!
Moments to the second, written `YYYY-MM-DD HH:MM:SS` where they are stored, and with an offset where
they are shown. A stored text is read leniently: parts may lack leading zeros, and white space may
stand before each.
-/

namespace OfflineAgent

/-- A moment of universal time. A leap second is the sixty-first of its minute. -/
structure Moment where
  year : Int
  month : Nat
  day : Nat
  hour : Nat
  minute : Nat
  second : Nat
deriving DecidableEq, Repr

namespace Moment

inductive Fault where
  | outOfRange
  | impossible
  | invalid
  | tooShort
  | tooLong
deriving DecidableEq, Repr

def Fault.message : Fault → String
  | outOfRange => "input is out of range"
  | impossible => "no possible date and time matching input"
  | invalid => "input contains invalid characters"
  | tooShort => "premature end of input"
  | tooLong => "trailing input"

def isLeap (year : Int) : Bool :=
  year % 4 = 0 && (year % 100 != 0 || year % 400 = 0)

def daysIn (year : Int) (month : Nat) : Nat :=
  if month = 2 then if isLeap year then 29 else 28
  else if month = 4 ∨ month = 6 ∨ month = 9 ∨ month = 11 then 30
  else 31

def maxYear : Int := 262142

def minYear : Int := -262143

/-! Writing -/

def digits (width : Nat) (n : Nat) : List Char :=
  let text := Nat.toDigits 10 n
  List.replicate (width - text.length) '0' ++ text

/-- Four digits, or a sign and at least four outside the years 0 to 9999. -/
def yearText (year : Int) : List Char :=
  if 0 ≤ year ∧ year ≤ 9999 then digits 4 year.toNat
  else (if year < 0 then '-' else '+') :: digits 4 year.natAbs

def dateText (m : Moment) : List Char :=
  yearText m.year ++ '-' :: digits 2 m.month ++ '-' :: digits 2 m.day

def timeText (m : Moment) : List Char :=
  digits 2 m.hour ++ ':' :: digits 2 m.minute ++ ':' :: digits 2 m.second

/-- The form in which a moment is stored. -/
def stored (m : Moment) : String :=
  String.ofList (m.dateText ++ ' ' :: m.timeText)

def shown (m : Moment) : String :=
  String.ofList (m.dateText ++ 'T' :: m.timeText ++ "+00:00".toList)

/-! Reading -/

def isDigit (c : Char) : Bool :=
  '0' ≤ c && c ≤ '9'

def value (digits : List Char) : Nat :=
  digits.foldl (fun n c => 10 * n + (c.toNat - 48)) 0

/-- At most `width` digits, at least one. -/
def number (width : Nat) (text : List Char) : Except Fault (Nat × List Char) :=
  let found := (text.take width).takeWhile isDigit
  if found.isEmpty then .error (if text.isEmpty then .tooShort else .invalid)
  else if Int64.maxValue.toInt < value found then .error .outOfRange
  else .ok (value found, text.drop found.length)

def field (low high : Nat) (text : List Char) : Except Fault (Nat × List Char) := do
  let (n, rest) ← number 2 (Text.trimStart text)
  if n < low ∨ high < n then throw .outOfRange
  return (n, rest)

/-- With a sign a year may have any number of digits, without one it has at most four. -/
def yearField (text : List Char) : Except Fault (Int × List Char) :=
  match Text.trimStart text with
  | '-' :: rest => do
    let (n, rest) ← number rest.length rest
    return (-n, rest)
  | '+' :: rest => do
    let (n, rest) ← number rest.length rest
    return (n, rest)
  | rest => do
    let (n, rest) ← number 4 rest
    return (n, rest)

def mark (c : Char) : List Char → Except Fault (List Char)
  | [] => .error .tooShort
  | d :: rest => if d = c then .ok rest else .error .invalid

def parse (text : String) : Except Fault Moment := do
  let (year, rest) ← yearField text.toList
  if year < Int32.minValue.toInt ∨ Int32.maxValue.toInt < year then throw .outOfRange
  let rest ← mark '-' rest
  let (month, rest) ← field 1 12 rest
  let rest ← mark '-' rest
  let (day, rest) ← field 1 31 rest
  let (hour, rest) ← field 0 23 (Text.trimStart rest)
  let rest ← mark ':' rest
  let (minute, rest) ← field 0 59 rest
  let rest ← mark ':' rest
  let (second, rest) ← field 0 60 rest
  if !rest.isEmpty then throw .tooLong
  if year < minYear ∨ maxYear < year ∨ daysIn year month < day then throw .outOfRange
  return { year, month, day, hour, minute, second }

end Moment

end OfflineAgent
