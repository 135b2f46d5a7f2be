import OfflineAgent.Proofs.Url.NumberSign

/-!
# Reading a path and an authority

A path from the root is read into the place of the path of a base and leaves the authority of the
base alone. And in the text of a URL the authority is read up to the path, whatever comes after it:
two URLs with the same authority lead to the same place when their texts are read again.
-/

namespace OfflineAgent.Url

variable {base url other : Url} {scheme : String} {text : String} {front back rest : List Char}

/-! ### Characters that count -/

/-- A span goes on up to the first character that does not belong to it. -/
theorem span_append {p : Char → Bool} (hfront : ∀ c ∈ front, p c = true)
    (hrest : ∀ c ∈ rest.head?, p c = false) : (front ++ rest).span p = (front, rest) := by
  rw [List.span_eq_takeWhile_dropWhile, List.takeWhile_append_of_pos hfront,
    List.dropWhile_append_of_pos hfront]
  cases rest with
  | nil => rw [List.takeWhile_nil, List.dropWhile_nil, List.append_nil]
  | cons c rest =>
      have hc : ¬p c = true := Bool.not_eq_true _ ▸ hrest c rfl
      rw [List.takeWhile_cons_of_neg hc, List.dropWhile_cons_of_neg hc, List.append_nil]

theorem exists_span (p : Char → Bool) (text : List Char) : ∃ front rest, text = front ++ rest ∧
    (∀ c ∈ front, p c = true) ∧ ∀ c ∈ rest.head?, p c = false := by
  refine ⟨text.takeWhile p, text.dropWhile p, List.takeWhile_append_dropWhile.symm,
    fun c hmem => List.mem_takeWhile_imp hmem, fun c hc => ?_⟩
  have hhead := List.head?_dropWhile_not p text
  rw [Option.mem_def.mp hc] at hhead
  simpa using hhead

theorem le_of_isIgnored {c : Char} (hignored : isIgnored c = true) : c.toNat ≤ 0x20 := by
  simp only [isIgnored, Bool.or_eq_true, decide_eq_true_eq] at hignored
  obtain (rfl | rfl) | rfl := hignored <;> decide

theorem filter_isIgnored (hfront : ∀ c ∈ front, 0x20 < c.toNat) :
    front.filter (!isIgnored ·) = front := by
  refine List.filter_eq_self.mpr fun c hmem => ?_
  have hvisible := hfront c hmem
  refine Bool.not_eq_true' _ ▸ Bool.eq_false_iff.mpr fun hignored => ?_
  have hle := le_of_isIgnored hignored
  omega

/-- Nothing is taken away from the front of a text that starts with visible characters. -/
theorem cleaned_append (htext : text.toList = front ++ back) (hne : front ≠ [])
    (hfront : ∀ c ∈ front, 0x20 < c.toNat) :
    cleaned text =
      front ++ (back.rdropWhile fun c => decide (c.toNat ≤ 0x20)).filter (!isIgnored ·) := by
  have hvisible : ∀ c ∈ front, ¬(decide (c.toNat ≤ 0x20)) = true := by
    intro c hmem
    have hlow := hfront c hmem
    simpa using hlow
  have hstart : (front ++ back).dropWhile (fun c => decide (c.toNat ≤ 0x20)) = front ++ back := by
    obtain ⟨c, tail, rfl⟩ := List.exists_cons_of_ne_nil hne
    exact List.dropWhile_cons_of_neg (hvisible c List.mem_cons_self)
  have hlast : front.reverse.dropWhile (fun c => decide (c.toNat ≤ 0x20)) = front.reverse := by
    obtain ⟨c, tail, hreverse⟩ := List.exists_cons_of_ne_nil (List.reverse_ne_nil_iff.mpr hne)
    rw [hreverse]
    refine List.dropWhile_cons_of_neg (hvisible c ?_)
    rw [← List.mem_reverse, hreverse]
    exact List.mem_cons_self
  unfold cleaned
  dsimp only
  rw [htext, hstart, List.reverse_append, List.dropWhile_append, List.rdropWhile]
  split
  · rename_i hempty
    rw [hlast, List.isEmpty_iff.mp hempty, List.reverse_reverse, filter_isIgnored hfront]
    simp
  · rw [List.reverse_append, List.reverse_reverse, List.filter_append, filter_isIgnored hfront]

/-! ### A path from the root -/

theorem splitScheme_slash : splitScheme ('/' :: rest) = none := by
  rw [splitScheme, List.span_eq_takeWhile_dropWhile]
  rfl

theorem parseRelative_rooted (hsecond : ∀ c ∈ rest.head?, isSlash c = false) :
    parseRelative base ('/' :: rest) =
      parseRelative.rooted base (.ofScheme base.scheme) rest := by
  cases rest with
  | nil => rfl
  | cons d rest =>
      have hd : isSlash d = false := hsecond d rfl
      unfold parseRelative
      dsimp only
      split
      · rename_i hinput
        cases hinput
      · rename_i hinput
        cases hinput
      · rename_i hinput
        cases hinput
      · rename_i hinput
        have hslash : d = '/' := (List.cons.inj (List.cons.inj hinput).2).1
        exact absurd hd (by rw [hslash]; decide)
      · rename_i hinput
        obtain ⟨rfl, rfl⟩ := List.cons.inj hinput
        rw [if_pos (by decide)]
        dsimp only
        rw [if_neg (by simp [hd])]

theorem parseInput_slash (hrooted : base.isRootless = false) (hfile : base.scheme ≠ "file") :
    parseInput (some base) ('/' :: rest) = parseRelative base ('/' :: rest) := by
  unfold parseInput
  rw [splitScheme_slash]
  dsimp only
  split
  · rename_i hinput
    cases hinput
  · rw [if_neg (by simp [hrooted]), if_neg hfile]

theorem join_rooted (hweb : Kind.ofScheme base.scheme = .web) (hrooted : base.isRootless = false)
    (htext : cleaned text = '/' :: rest) (hsecond : ∀ c ∈ rest.head?, isSlash c = false) :
    base.join text = .ok
      ({ base with path := pathFrom .web [] (splitPath rest).1 }.withSuffix
        (splitPath rest).2) := by
  have hfile : base.scheme ≠ "file" := by
    intro hfile
    rw [hfile] at hweb
    cases hweb
  rw [join, htext, parseInput_slash hrooted hfile, parseRelative_rooted hsecond, hweb]
  rfl

/-- In the text of a URL of the web a slash ends the authority. -/
theorem exists_text_pathAfterAuthority (text : List Char) :
    ∃ rest, (pathAfterAuthority .web text).text.toList = '/' :: rest := by
  obtain ⟨list, hpath, hne⟩ :
      ∃ list, pathAfterAuthority .web text = .segments list ∧ list ≠ [] := by
    unfold pathAfterAuthority
    split
    · exact ⟨_, rfl, List.cons_ne_nil _ _⟩
    · exact ⟨_, rfl, resolve_ne_nil (Text.splitWhere_ne_nil _ _)⟩
  obtain ⟨segment, more, rfl⟩ := List.exists_cons_of_ne_nil hne
  exact ⟨segment.toList ++ (Path.segments more).text.toList, by simp [hpath, Path.text]⟩

/-! ### An authority and a path -/

/-- Where a URL leads: all that its path, query and fragment leave open. -/
structure Place where
  scheme : String
  username : String
  password : Option String
  host : Option Host
  port : Option Nat
deriving DecidableEq

def place (url : Url) : Place where
  scheme := url.scheme
  username := url.username
  password := url.password
  host := url.host
  port := url.port

section Agree

variable {α β γ : Type} {f : α → γ} {g : β → γ} {x y : Except Fault α}

theorem map_bind_congr {δ : Type} {f : α → γ} {g : β → δ} {next other : α → Except Fault β}
    (hfirst : x.map f = y.map f)
    (hnext : ∀ a b, f a = f b → (next a).map g = (other b).map g) :
    (x >>= next).map g = (y >>= other).map g := by
  cases x with
  | error fault =>
      cases y with
      | error fault' =>
          obtain rfl := Except.error.inj hfirst
          rfl
      | ok b => cases hfirst
  | ok a =>
      cases y with
      | error fault => cases hfirst
      | ok b => exact hnext a b (Except.ok.inj hfirst)

theorem map_guard_congr {δ : Type} {f : α → γ} {condition : Prop} [Decidable condition]
    {fault : Fault} {next other : δ → Except Fault α} (hrest : x.map f = y.map f) :
    (if condition then throw fault >>= next else x).map f =
      (if condition then throw fault >>= other else y).map f := by
  split
  · rfl
  · exact hrest

end Agree

/-- The port of an authority is read without what comes after the slash. -/
theorem parsePort_slash (text tail other : List Char) :
    (parsePort scheme (text ++ '/' :: tail)).map Prod.fst =
      (parsePort scheme (text ++ '/' :: other)).map Prod.fst := by
  obtain ⟨digits, more, rfl, hdigits, hmore⟩ := exists_span Host.isDigit text
  cases more with
  | nil =>
      have hspan (tail : List Char) :
          (digits ++ [] ++ '/' :: tail).span Host.isDigit = (digits, '/' :: tail) := by
        rw [List.append_nil]
        exact span_append hdigits (by simp [Host.isDigit])
      simp only [parsePort, hspan]
      split
      · rfl
      · rw [if_pos (by decide), if_pos (by decide)]
        rfl
  | cons c more =>
      have hspan (tail : List Char) :
          (digits ++ c :: more ++ '/' :: tail).span Host.isDigit =
            (digits, c :: (more ++ '/' :: tail)) := by
        rw [List.append_assoc, List.cons_append]
        exact span_append hdigits hmore
      simp only [parsePort, hspan]
      split
      · rfl
      · split <;> rfl

/-- **An authority is read up to the path.** Whatever comes after it does not change the place. -/
theorem place_parseAuthority (solid : Solid front) (tail other : List Char) :
    (parseAuthority scheme (front ++ '/' :: tail)).map place =
      (parseAuthority scheme (front ++ '/' :: other)).map place := by
  have hsplit (tail : List Char) (kind : Kind) :
      splitAuthority kind (front ++ '/' :: tail) = (front, '/' :: tail) := by
    refine span_append (fun c hmem => ?_) (by simp [Kind.isSeparator])
    have hsolid := solid c hmem
    simp only [isBreak, Bool.or_eq_false_iff, isSlash] at hsolid
    simp [Kind.isSeparator, hsolid]
  unfold parseAuthority
  simp only [hsplit, ne_eq, List.cons_ne_nil, not_false_eq_true]
  refine map_guard_congr (map_guard_congr ?_)
  -- Hosts of either kind are followed by the same port, and only then by the path.
  split
  all_goals
    refine map_bind_congr (f := id) rfl ?_
    rintro host _ rfl
    refine map_guard_congr ?_
    split
    · refine map_bind_congr (parsePort_slash _ tail other) ?_
      rintro ⟨port, afterPort⟩ ⟨_, afterOther⟩ rfl
      exact map_guard_congr rfl
    · exact map_guard_congr rfl

/-! ### The text of a URL -/

theorem scheme_of_web (hweb : Kind.ofScheme scheme = .web) :
    scheme ∈ ["http", "https", "ws", "wss", "ftp"] := by
  unfold Kind.ofScheme at hweb
  split at hweb
  · cases hweb
  · split at hweb
    · rename_i hfile hspecial
      simpa [isSpecialScheme, hfile] using hspecial
    · cases hweb

theorem splitScheme_web (hweb : Kind.ofScheme scheme = .web) :
    splitScheme (scheme.toList ++ ':' :: rest) = some (scheme, rest) := by
  have hletters : ∀ scheme ∈ ["http", "https", "ws", "wss", "ftp"],
      scheme.toList.all isSchemeChar ∧ scheme.toList.head?.any isAlpha ∧
        String.ofList (scheme.toList.map Char.toLower) = scheme := by decide +kernel
  obtain ⟨hchars, halpha, hlower⟩ := hletters scheme (scheme_of_web hweb)
  have hcolon : isSchemeChar ':' = false := by decide
  rw [splitScheme, span_append (List.all_eq_true.mp hchars) (by simp [hcolon])]
  cases hlist : scheme.toList with
  | nil => simp [hlist] at halpha
  | cons c letters =>
      rw [hlist] at halpha hlower
      simp only [hlower, show isAlpha c = true from halpha, if_true]

theorem parseInput_web (hweb : Kind.ofScheme scheme = .web) (solid : Solid front)
    (hne : front ≠ []) :
    parseInput none (scheme.toList ++ ':' :: '/' :: '/' :: (front ++ rest)) =
      parseAuthority scheme (front ++ rest) := by
  have hspan : ('/' :: '/' :: (front ++ rest)).span isSlash = (['/', '/'], front ++ rest) := by
    obtain ⟨c, tail, rfl⟩ := List.exists_cons_of_ne_nil hne
    have hc := solid c List.mem_cons_self
    have hslashes : ∀ c ∈ ['/', '/'], isSlash c = true := by simp [isSlash]
    simp only [isBreak, Bool.or_eq_false_iff] at hc
    exact span_append hslashes (by simp [hc.1.2])
  rw [parseInput, splitScheme_web hweb]
  simp only [parseWithScheme, hweb, hspan]

theorem Firm.solid_credentials (firm : url.Firm) : Solid url.credentials.toList := by
  unfold credentials
  split
  · decide
  · rw [String.toList_append, solid_append]
    exact ⟨firm.username, by decide⟩
  · rename_i name word hpassword
    simp only [String.toList_append, solid_append]
    exact ⟨⟨⟨firm.username, by decide⟩, firm.password word hpassword⟩, by decide⟩

/-- After two slashes nothing ends the authority before the path does. -/
theorem Firm.authority (firm : url.Firm) (hspecial : url.isSpecial) :
    ∃ front, url.authority.toList = '/' :: '/' :: front ∧ Solid front ∧ front ≠ [] := by
  obtain ⟨host, hhost, hsolid, hne⟩ := firm.host
  obtain ⟨port, hport, htext⟩ : ∃ port : String, Solid port.toList ∧
      url.authority = "//" ++ url.credentials ++ host.text ++ port := by
    unfold Url.authority
    rw [hhost]
    refine ⟨_, ?_, rfl⟩
    split
    · decide
    · rw [String.toList_append, solid_append]
      exact ⟨by decide, solid_toString _⟩
  refine ⟨url.credentials.toList ++ host.text.toList ++ port.toList, ?_, ?_, ?_⟩
  · simp [htext]
  · rw [solid_append, solid_append]
    exact ⟨⟨firm.solid_credentials, hsolid⟩, hport⟩
  · simp [hne hspecial]

theorem authority_congr (hplace : url.place = other.place) (hhost : url.host ≠ none) :
    url.authority = other.authority := by
  obtain ⟨host, hhost⟩ := Option.ne_none_iff_exists'.mp hhost
  have hother : other.host = some host := (congrArg Place.host hplace).symm.trans hhost
  have hport : url.port = other.port := congrArg Place.port hplace
  have hcredentials : url.credentials = other.credentials := by
    have husername : url.username = other.username := congrArg Place.username hplace
    have hpassword : url.password = other.password := congrArg Place.password hplace
    rw [credentials, credentials, husername, hpassword]
  rw [Url.authority, Url.authority, hhost, hother, hcredentials, hport]

theorem solid_of_web (hweb : Kind.ofScheme scheme = .web) : Solid scheme.toList := by
  have hsolid : ∀ scheme ∈ ["http", "https", "ws", "wss", "ftp"], Solid scheme.toList := by
    decide +kernel
  exact hsolid scheme (scheme_of_web hweb)

theorem exists_parse_text (hweb : Kind.ofScheme url.scheme = .web)
    (hauthority : url.authority.toList = '/' :: '/' :: front) (solid : Solid front)
    (hne : front ≠ []) (hpath : url.path.text.toList = '/' :: rest) :
    ∃ tail, parse url.text = parseAuthority url.scheme (front ++ '/' :: tail) := by
  have hfront : ∀ c ∈ url.scheme.toList ++ ':' :: '/' :: '/' :: (front ++ ['/']),
      0x20 < c.toNat := by
    simp only [List.forall_mem_append, List.forall_mem_cons]
    exact ⟨fun c hmem => (solid_of_web hweb).visible hmem, by decide, by decide, by decide,
      fun c hmem => solid.visible hmem, by decide, nofun⟩
  have htext : url.text.toList = (url.scheme.toList ++ ':' :: '/' :: '/' :: (front ++ ['/'])) ++
      (rest ++ url.queryText.toList ++ url.fragmentText.toList) := by
    simp [text, hauthority, hpath]
  have hread := cleaned_append htext (by simp) hfront
  rw [List.append_assoc, List.cons_append, List.cons_append, List.cons_append, List.append_assoc]
    at hread
  rw [parse, hread, parseInput_web hweb solid hne]
  exact ⟨_, rfl⟩

/-- **Where a URL leads is read from its authority.** Two URLs of the web that lead to the same
place do so when their texts are read again, whatever paths, queries and fragments they end in. -/
theorem place_parse_text (hweb : Kind.ofScheme url.scheme = .web) (firm : url.Firm)
    (hplace : other.place = url.place) (hpath : url.path.text.toList = '/' :: rest)
    (hother : other.path.text.toList = '/' :: back) :
    (parse other.text).map place = (parse url.text).map place := by
  have hspecial : url.isSpecial := by
    rw [isSpecial, ← isSpecial_ofScheme, hweb]
    rfl
  have hscheme : other.scheme = url.scheme := congrArg Place.scheme hplace
  have hhost : url.host ≠ none := by
    obtain ⟨host, hhost, -⟩ := firm.host
    simp [hhost]
  obtain ⟨front, hauthority, solid, hne⟩ := firm.authority hspecial
  obtain ⟨tail, hread⟩ := exists_parse_text hweb hauthority solid hne hpath
  rw [authority_congr hplace.symm hhost] at hauthority
  rw [← hscheme] at hweb
  obtain ⟨otherTail, hreadOther⟩ := exists_parse_text hweb hauthority solid hne hother
  rw [hread, hreadOther, hscheme]
  exact place_parseAuthority solid otherTail tail

end OfflineAgent.Url
