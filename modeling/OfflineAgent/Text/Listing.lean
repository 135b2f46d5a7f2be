import OfflineAgent.Text.Hex
import OfflineAgent.Text.Split

/-!
Consecutive characters that stand for texts, each for one of its own.
-/

namespace OfflineAgent.Text

/-- The character `first` and those after it, with what each stands for. -/
structure Listing where
  first : Nat
  texts : Array (List Nat)
deriving DecidableEq, Repr

namespace Listing

/-- Reads `132=69+6A,69+6A`: code points after plus signs belong to one text. -/
def parse (text : List Char) : Listing :=
  match cut '=' text with
  | some (first, texts) =>
    ⟨Hex.value first, ((split ',' texts).map fun one => (split '+' one).map Hex.value).toArray⟩
  | none => ⟨0, #[]⟩

def parseAll (text : String) : Array Listing :=
  ((split ' ' text.toList).map parse).toArray

def text? (listing : Listing) (n : Nat) : Option (List Nat) :=
  if n < listing.first then none else listing.texts[n - listing.first]?

def find? (listings : Array Listing) (n : Nat) : Option (List Nat) :=
  listings.findSome? (·.text? n)

end Listing

end OfflineAgent.Text
