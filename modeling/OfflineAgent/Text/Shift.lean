import OfflineAgent.Text.Ranges

/-!
Characters that stand for others at a fixed distance, such as capital letters for small ones.
-/

namespace OfflineAgent.Text

/-- Characters of a range, each `step` after the one before, that stand for those `distance`
away. -/
structure Shift where
  first : Nat
  last : Nat
  step : Nat
  distance : Int
deriving DecidableEq, Repr

namespace Shift

/-- Reads `41-5A:+32` for every, `100-12E/+1` for every other character. -/
def parse (text : List Char) : Shift :=
  let (range, step, distance) := match cut ':' text with
    | some (range, distance) => (range, 1, distance)
    | none =>
      match cut '/' text with
      | some (range, distance) => (range, 2, distance)
      | none => (text, 1, [])
  let (first, last) := Ranges.parseRange range
  let size : Int := ((distance.drop 1).foldl (fun n c => 10 * n + (c.toNat - 48)) 0 : Nat)
  ⟨first, last, step, if distance.head? = some '-' then -size else size⟩

def parseAll (text : String) : Array Shift :=
  ((split ' ' text.toList).map parse).toArray

def covers (shift : Shift) (n : Nat) : Bool :=
  shift.first ≤ n && n ≤ shift.last && (n - shift.first) % shift.step == 0

def find? (shifts : Array Shift) (n : Nat) : Option Nat :=
  (shifts.find? (·.covers n)).map fun shift => ((n : Int) + shift.distance).toNat

end Shift

end OfflineAgent.Text
