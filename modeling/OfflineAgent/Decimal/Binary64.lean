/-!
Binary floating-point numbers of 53 significant bits, exactly: the number nearest to a decimal,
and the shortest decimal that reads back as a number.
-/

namespace OfflineAgent

/-- The finite number `mantissa * 2 ^ exponent`, or its negative. -/
structure Binary64 where
  negative : Bool
  mantissa : Nat
  exponent : Int
deriving DecidableEq, Repr

structure Decimal where
  digits : Nat
  exponent : Int
deriving DecidableEq, Repr

namespace Binary64

def minExponent : Int := -1074

def maxExponent : Int := 971

/-- `n / d` rounded to the nearest integer, a half to the even one. -/
def roundDiv (n d : Nat) : Nat :=
  let q := n / d
  let r := n % d
  if 2 * r < d then q
  else if d < 2 * r then q + 1
  else q + q % 2

def scaled (n d : Nat) (power : Int) : Nat × Nat :=
  if 0 ≤ power then (n <<< power.toNat, d) else (n, d <<< (-power).toNat)

def ofFraction (negative : Bool) (n d : Nat) : Option Binary64 :=
  if n = 0 then some ⟨negative, 0, minExponent⟩
  else
    let guess : Int := (Nat.log2 n : Int) - (Nat.log2 d : Int) - 52
    let short := scaled n d (-guess)
    let exponent := max minExponent (if short.1 < short.2 <<< 52 then guess - 1 else guess)
    let exact := scaled n d (-exponent)
    let mantissa := roundDiv exact.1 exact.2
    let (mantissa, exponent) :=
      if mantissa = 1 <<< 53 then (1 <<< 52, exponent + 1) else (mantissa, exponent)
    if maxExponent < exponent then none else some ⟨negative, mantissa, exponent⟩

def digitCount (n : Nat) : Nat :=
  (Nat.toDigits 10 n).length

/-- The number nearest to a decimal; `none` if that is too large. Exponents far out of range are
settled by their size. -/
def ofDecimal (negative : Bool) (x : Decimal) : Option Binary64 :=
  let magnitude := x.exponent + digitCount x.digits
  if x.digits = 0 ∨ magnitude < -400 then some ⟨negative, 0, minExponent⟩
  else if 400 < magnitude then none
  else if 0 ≤ x.exponent then ofFraction negative (x.digits * Nat.pow 10 x.exponent.toNat) 1
  else ofFraction negative x.digits (Nat.pow 10 (-x.exponent).toNat)

/-- The reals that round to `x`, on a decimal grid: in units of which the grid step is `step`,
they lie around `middle` between `low` and `high`. -/
structure Interval where
  low : Nat
  middle : Nat
  high : Nat
  step : Nat
  closed : Bool

def interval (x : Binary64) (grid : Int) : Interval :=
  let below := if x.mantissa = 1 <<< 52 ∧ minExponent < x.exponent then 1 else 2
  let power := x.exponent - 2
  let up := Nat.pow 10 (-grid).toNat <<< power.toNat
  let down := Nat.pow 10 grid.toNat <<< (-power).toNat
  { low := (4 * x.mantissa - below) * up
    middle := 4 * x.mantissa * up
    high := (4 * x.mantissa + 2) * up
    step := down
    closed := x.mantissa % 2 = 0 }

def Interval.contains (i : Interval) (c : Nat) : Bool :=
  if i.closed then i.low ≤ c * i.step ∧ c * i.step ≤ i.high
  else i.low < c * i.step ∧ c * i.step < i.high

def Interval.point? (i : Interval) : Option Nat :=
  let c := i.middle / i.step
  let lowHit := i.contains c && c != 0
  let highHit := i.contains (c + 1)
  if lowHit && highHit then
    if 2 * (i.middle - c * i.step) ≤ i.step then some c else some (c + 1)
  else if lowHit then some c
  else if highHit then some (c + 1)
  else none

def magnitude (x : Binary64) : Int :=
  if 0 ≤ x.exponent then digitCount (x.mantissa <<< x.exponent.toNat)
  else
    let d := 1 <<< (-x.exponent).toNat
    if d ≤ x.mantissa then digitCount (x.mantissa / d)
    else 1 - (digitCount (d / x.mantissa) : Int)

def shortestFrom (x : Binary64) (top : Int) : Nat → Nat → Decimal
  | 0, _ => ⟨x.mantissa, 0⟩
  | fuel + 1, count =>
    let grid := top - count
    match (x.interval grid).point? with
    | some c => ⟨c, grid⟩
    | none => shortestFrom x top fuel (count + 1)

def dropZeros : Nat → Decimal → Decimal
  | 0, x => x
  | fuel + 1, x =>
    if x.digits % 10 = 0 ∧ x.digits ≠ 0 then dropZeros fuel ⟨x.digits / 10, x.exponent + 1⟩ else x

/-- The decimal of fewest digits that reads back as `x`, and of those the nearest. -/
def shortest (x : Binary64) : Decimal :=
  if x.mantissa = 0 then ⟨0, 0⟩
  else dropZeros 20 (shortestFrom x (x.magnitude + 1) 20 1)

def sign (x : Binary64) : String :=
  if x.negative then "-" else ""

def zeros (n : Nat) : String :=
  String.ofList (List.replicate n '0')

/-- Digits with a point and no exponent, at least one digit on either side of the point. -/
def positional (x : Decimal) : String :=
  let digits := toString x.digits
  if 0 ≤ x.exponent then digits ++ zeros x.exponent.toNat ++ ".0"
  else
    let places := (-x.exponent).toNat
    let padded := zeros (places + 1 - digits.length) ++ digits
    let whole := padded.toList.take (padded.length - places)
    let part := padded.toList.drop (padded.length - places)
    String.ofList (whole ++ '.' :: part)

/-- One digit, a point if more follow, and an exponent of at least two digits. -/
def scientific (x : Decimal) : String :=
  let digits := (toString x.digits).toList
  let exponent := x.exponent + digits.length - 1
  let size := toString exponent.natAbs
  let point := if digits.length = 1 then [] else '.' :: digits.drop 1
  String.ofList (digits.take 1 ++ point) ++ (if exponent < 0 then "e-" else "e+") ++
    (if size.length < 2 then "0" ++ size else size)

/-- All digits, never an exponent. -/
def plainText (x : Binary64) : String :=
  x.sign ++ positional x.shortest

/-- Positional from 0.0001 up to but not including 10 ^ 16, else with an exponent. -/
def text (x : Binary64) : String :=
  let d := x.shortest
  let point := d.exponent + digitCount d.digits
  x.sign ++ if d.digits = 0 ∨ (-3 ≤ point ∧ point ≤ 16) then positional d else scientific d

end Binary64

end OfflineAgent
