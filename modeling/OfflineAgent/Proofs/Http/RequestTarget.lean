import OfflineAgent.Http.RequestTarget
import OfflineAgent.Proofs.Text.Split

/-!
# What a request target is made of

The path of a target goes up to the first question mark, and its query up to the first number sign.
What is left between the marks are characters that a path or a query may hold as they are.
-/

namespace OfflineAgent

namespace Http.RequestTarget

variable {target : RequestTarget} {text : String}

def queryChars (target : RequestTarget) : List Char :=
  match target.query with
  | none => []
  | some query => '?' :: query.toList

/-- The target as it is written, without a fragment. -/
def chars (target : RequestTarget) : List Char :=
  target.path.toList ++ target.queryChars

/-- The marks stand where they belong, and everything else can stand where it does. -/
structure Tidy (target : RequestTarget) : Prop where
  path : ∀ c ∈ target.path.toList, isPathChar c
  query : ∀ query, target.query = some query → ∀ c ∈ query.toList, isQueryChar c

theorem of_pathAndQuery {text : List Char} (hread : pathAndQuery text = some target) :
    text.takeWhile (· != '#') = target.chars ∧ target.Tidy := by
  unfold pathAndQuery at hread
  dsimp only at hread
  split at hread
  · obtain ⟨hpath, htarget⟩ := Option.ite_none_right_eq_some.mp hread
    obtain rfl := Option.some.inj htarget
    refine ⟨by simp [chars, queryChars], ?_, nofun⟩
    simpa using hpath
  · rename_i path query hcut
    obtain ⟨hchars, htarget⟩ := Option.ite_none_right_eq_some.mp hread
    obtain rfl := Option.some.inj htarget
    rw [Bool.and_eq_true, List.all_eq_true, List.all_eq_true] at hchars
    refine ⟨by simpa [chars, queryChars] using (Text.cut_eq_some_iff.mp hcut).1, ?_, ?_⟩
    · simpa using hchars.1
    · rintro _ ⟨rfl⟩
      simpa using hchars.2

theorem tidy_of_parse (hparse : parse text = some target) : target.Tidy := by
  unfold parse at hparse
  dsimp only at hparse
  split at hparse
  · cases hparse
  · split at hparse
    · cases hparse
    · obtain rfl := Option.some.inj hparse
      exact ⟨List.all_eq_true.mp (by decide), nofun⟩
    · exact (of_pathAndQuery hparse).2
    · split at hparse
      · unfold absolute at hparse
        obtain ⟨-, hmap⟩ := Option.ite_none_right_eq_some.mp hparse
        obtain ⟨read, hread, rfl⟩ := Option.map_eq_some_iff.mp hmap
        have tidy := (of_pathAndQuery hread).2
        split
        · have hslash : "/".toList.all isPathChar = true := by decide
          exact ⟨List.all_eq_true.mp hslash, tidy.query⟩
        · exact tidy
      · obtain ⟨-, hsome⟩ := Option.ite_none_right_eq_some.mp hparse
        obtain rfl := Option.some.inj hsome
        exact ⟨List.all_eq_true.mp (by decide), nofun⟩

/-- A target that starts with a slash is a path with a query, and nothing else. -/
theorem chars_of_parse {rest : List Char} (hparse : parse text = some target)
    (hslash : text.toList = '/' :: rest) : text.toList.takeWhile (· != '#') = target.chars := by
  unfold parse at hparse
  rw [hslash] at hparse ⊢
  dsimp only at hparse
  split at hparse
  · cases hparse
  · exact (of_pathAndQuery hparse).1

end Http.RequestTarget

end OfflineAgent
