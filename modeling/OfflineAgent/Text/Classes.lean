import OfflineAgent.Text.Ranges

/-!
Characters sorted into classes with names.
-/

namespace OfflineAgent.Text

/-- Ranges of characters, each with the name of its class. -/
abbrev Classes := Array ((Nat × Nat) × String)

namespace Classes

/-- Reads `=D 620 626-628 =L A872`: a name with an equals sign, and the ranges of that class. -/
def parse (text : String) : Classes :=
  ((split ' ' text.toList).foldl (fun (name, classes) (word : List Char) =>
    match word with
    | '=' :: rest => (String.ofList rest, classes)
    | range => (name, classes.push (Ranges.parseRange range, name))) ("", #[])).2

def classOf? (classes : Classes) (n : Nat) : Option String :=
  (Array.find? (fun ((low, high), _) => low ≤ n && n ≤ high) classes).map (·.2)

end Classes

end OfflineAgent.Text
