import OfflineAgent.Text.Hex
import OfflineAgent.Text.Split

/-!
Sets of characters, written as hexadecimal code points and ranges of them between blanks.
-/

namespace OfflineAgent.Text

/-- Ranges with both ends, in ascending order. -/
abbrev Ranges := Array (Nat × Nat)

namespace Ranges

def parseRange (text : List Char) : Nat × Nat :=
  match cut '-' text with
  | some (low, high) => (Hex.value low, Hex.value high)
  | none => (Hex.value text, Hex.value text)

def parse (text : String) : Ranges :=
  ((split ' ' text.toList).map parseRange).toArray

def contains (ranges : Ranges) (n : Nat) : Bool :=
  ranges.any fun (low, high) => low ≤ n && n ≤ high

end Ranges

end OfflineAgent.Text
