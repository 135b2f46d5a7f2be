import OfflineAgent.Proofs.Url.Reading

/-!
# What a reference leaves to its base

A text that is read from a base takes over some of the base: from a full URL nothing but the choice
of rules, from a path all that a path does not say, and from the empty text everything but the
fragment. Two bases that agree on what is taken over give the same URL.
-/

namespace OfflineAgent.Url

/-- How much a text takes over from its base; each includes those before it. -/
inductive Reliance where
  | scheme
  | place
  | folder
  | path
  | query
deriving DecidableEq, Repr

/-- Bases that are the same to a text that takes over so much. -/
structure Agrees (reliance : Reliance) (base other : Url) : Prop where
  scheme : base.scheme = other.scheme
  place : reliance ≠ .scheme → base.place = other.place
  folder : reliance = .folder →
    (Path.list base.path).dropLast = (Path.list other.path).dropLast
  path : reliance = .path ∨ reliance = .query → base.path = other.path
  query : reliance = .query → base.query = other.query

/-- What a text without a scheme takes over. -/
def Reliance.ofRelative : List Char → Reliance
  | [] | '#' :: _ => .query
  | '?' :: _ => .path
  | c :: rest =>
    if isSlash c then if rest.head?.any isSlash then .scheme else .place
    else .folder

/-- What a text takes over from a base with a scheme. A text with that very scheme and fewer than
two slashes after it is read as if the scheme were not there. -/
def Reliance.of (scheme text : String) : Reliance :=
  match splitScheme (cleaned text) with
  | none => .ofRelative (cleaned text)
  | some (own, rest) =>
    if own = scheme ∧ (rest.takeWhile isSlash).length < 2 then .ofRelative rest else .scheme

variable {base other : Url} {reliance : Reliance} {input : List Char} {text : String}

theorem Reliance.ofRelative_cons {c : Char} {rest : List Char} (hquery : c ≠ '?')
    (hfragment : c ≠ '#') : ofRelative (c :: rest) =
      if isSlash c then if rest.head?.any isSlash then .scheme else .place else .folder := by
  unfold ofRelative
  split <;> simp_all

theorem exists_of_place (hplace : base.place = other.place) :
    ∃ path query fragment, other = { base with path, query, fragment } := by
  obtain ⟨scheme, username, password, host, port, path, query, fragment⟩ := other
  obtain ⟨hscheme, husername, hpassword, hhost, hport⟩ := Place.mk.inj hplace
  exact ⟨path, query, fragment, by rw [hscheme, husername, hpassword, hhost, hport]⟩

theorem parseRelative_congr (hweb : Kind.ofScheme base.scheme = .web)
    (hbase : base.isRootless = false) (hother : other.isRootless = false)
    (agrees : Agrees (.ofRelative input) base other) :
    parseRelative base input = parseRelative other input := by
  have hscheme : base.scheme = other.scheme := agrees.scheme
  -- With the same place the bases differ in path, query and fragment only, and a path from the root
  -- reads none of them.
  have hrooted {rest : List Char} (hplace : base.place = other.place) :
      parseRelative.rooted base (.ofScheme base.scheme) rest =
        parseRelative.rooted other (.ofScheme other.scheme) rest := by
    obtain ⟨path, query, fragment, rfl⟩ := exists_of_place hplace
    rfl
  unfold parseRelative
  split
  · obtain ⟨path, query, fragment, rfl⟩ := exists_of_place (agrees.place nofun)
    obtain rfl : base.path = path := agrees.path (.inr rfl)
    obtain rfl : base.query = query := agrees.query rfl
    rw [withoutFragment_eq hbase, withoutFragment_eq hother]
  · obtain ⟨path, query, fragment, rfl⟩ := exists_of_place (agrees.place nofun)
    obtain rfl : base.path = path := agrees.path (.inl rfl)
    rfl
  · obtain ⟨path, query, fragment, rfl⟩ := exists_of_place (agrees.place nofun)
    obtain rfl : base.path = path := agrees.path (.inr rfl)
    obtain rfl : base.query = query := agrees.query rfl
    rfl
  · rw [hscheme]
  · rename_i c rest hquery hfragment hslashes
    rw [Reliance.ofRelative_cons hquery hfragment] at agrees
    by_cases hc : isSlash c = true
    · rw [if_pos hc] at agrees ⊢
      rw [if_pos hc]
      cases rest with
      | nil => exact hrooted (agrees.place nofun)
      | cons d rest =>
          by_cases hd : isSlash d = true
          · simp only [if_pos hd, hscheme]
          · rw [List.head?_cons, Option.any_some, if_neg hd] at agrees
            simp only [if_neg hd]
            exact hrooted (agrees.place nofun)
    · rw [if_neg hc] at agrees ⊢
      rw [if_neg hc]
      obtain ⟨path, query, fragment, rfl⟩ := exists_of_place (agrees.place nofun)
      have hsame : folder .web (Path.list base.path) = folder .web (Path.list path) :=
        agrees.folder rfl
      simp only [hweb, hsame]
      rfl

theorem parseWithScheme_congr {scheme : String} (hweb : Kind.ofScheme base.scheme = .web)
    (hbase : base.isRootless = false) (hother : other.isRootless = false)
    (agrees : Agrees
      (if scheme = base.scheme ∧ (input.takeWhile isSlash).length < 2 then .ofRelative input
        else .scheme) base other) :
    parseWithScheme (some base) scheme input = parseWithScheme (some other) scheme input := by
  have hscheme : base.scheme = other.scheme := agrees.scheme
  unfold parseWithScheme
  split
  · rfl
  · have hnone (url : Url) (hsame : base.scheme = url.scheme) :
        (some url).filter (·.scheme = "file") = none := by
      have hfile : url.scheme ≠ "file" := by
        intro hfile
        rw [hsame, hfile] at hweb
        cases hweb
      simp [hfile]
    rw [hnone base rfl, hnone other hscheme]
  · simp only [List.span_eq_takeWhile_dropWhile, ← hscheme, eq_comm (a := base.scheme)]
    by_cases hshort : scheme = base.scheme ∧ (input.takeWhile isSlash).length < 2
    · rw [if_pos hshort] at agrees
      rw [if_pos hshort.symm, if_pos hshort.symm, parseRelative_congr hweb hbase hother agrees]
    · rw [if_neg (hshort ∘ And.symm), if_neg (hshort ∘ And.symm)]

/-- **Bases that agree on what a text takes over give the same URL.** -/
theorem join_congr (hweb : Kind.ofScheme base.scheme = .web) (hbase : base.isRootless = false)
    (hother : other.isRootless = false) (agrees : Agrees (.of base.scheme text) base other) :
    base.join text = other.join text := by
  have hscheme : base.scheme = other.scheme := agrees.scheme
  have hfile : base.scheme ≠ "file" := by
    intro hfile
    rw [hfile] at hweb
    cases hweb
  unfold Reliance.of at agrees
  unfold join parseInput
  cases hsplit : splitScheme (cleaned text) with
  | none =>
      rw [hsplit] at agrees
      have hrelative := parseRelative_congr hweb hbase hother agrees
      dsimp only
      split
      · rename_i hinput
        rw [hinput] at hrelative
        exact hrelative
      · rw [hbase, hother, if_neg Bool.false_ne_true, if_neg Bool.false_ne_true, if_neg hfile,
          if_neg (hscheme ▸ hfile)]
        exact hrelative
  | some found =>
      obtain ⟨scheme, rest⟩ := found
      rw [hsplit] at agrees
      exact parseWithScheme_congr hweb hbase hother agrees

end OfflineAgent.Url
