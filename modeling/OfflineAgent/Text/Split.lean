/-!
Cutting a text at separators.
-/

namespace OfflineAgent.Text

/-- The parts of a text between the characters that `isSeparator` picks; one more than those. -/
def splitWhere (isSeparator : Char → Bool) : List Char → List (List Char)
  | [] => [[]]
  | c :: rest =>
    if isSeparator c then [] :: splitWhere isSeparator rest
    else
      match splitWhere isSeparator rest with
      | part :: parts => (c :: part) :: parts
      | [] => [[c]]

def split (separator : Char) (text : List Char) : List (List Char) :=
  splitWhere (· = separator) text

/-- What lies before and after the first separator; none if there is none. -/
def cut (separator : Char) : List Char → Option (List Char × List Char)
  | [] => none
  | c :: rest =>
    if c = separator then some ([], rest)
    else (cut separator rest).map fun (front, back) => (c :: front, back)

def cutLast (separator : Char) (text : List Char) : Option (List Char × List Char) :=
  (cut separator text.reverse).map fun (back, front) => (front.reverse, back.reverse)

end OfflineAgent.Text
