import OfflineAgent.Proofs.Url.Invariants
import OfflineAgent.Settings.Basic

/-!
# Where a number sign may stand

In the text of a URL a number sign stands only in front of the fragment. Everywhere else it is
percent-encoded, or ends the part of the input that is being read. So a URL without its fragment has
none, whatever it was read from.
-/

namespace OfflineAgent

/-! ### Paths -/

/-- The path holds no number sign. -/
def Path.Clean : Path → Prop
  | .rootless text => Plain text
  | .segments list => ∀ segment ∈ list, Plain segment

theorem Path.Clean.plain_text {path : Path} (clean : path.Clean) : Plain path.text := by
  cases path with
  | rootless text => exact clean
  | segments list =>
      rw [Plain, Path.text, String.toList_join, List.mem_flatMap]
      rintro ⟨part, hpart, hsign⟩
      obtain ⟨segment, hsegment, rfl⟩ := List.mem_map.mp hpart
      have hplain : Plain ("/" ++ segment) := by
        rw [plain_append]
        exact ⟨by decide, clean segment hsegment⟩
      exact hplain hsign

namespace Url

theorem plain_segment (kind : Kind) (isFirst : Bool) (piece : List Char) :
    Plain (segment kind isFirst piece) := by
  have hencoded : Plain (Percent.encode Percent.path piece) :=
    Percent.plain_encode (.inl (by decide))
  unfold segment
  split
  · split
    · rename_i c mark hdrive
      simp only [isDrive, Bool.and_eq_true] at hdrive
      have hletter : c ≠ '#' := by
        rintro rfl
        exact absurd hdrive.1 (by decide)
      rw [plain_ofList]
      simp [hletter.symm]
    · exact hencoded
  · exact hencoded

theorem clean_pathFrom {kind : Kind} {done : List String} {text : List Char}
    (hdone : ∀ segment ∈ done, Plain segment) : (pathFrom kind done text).Clean := by
  obtain ⟨list, hpath, -, hplain⟩ :=
    exists_pathFrom (by decide) (fun piece _ _ isFirst => plain_segment kind isFirst piece) hdone
  rw [hpath]
  exact hplain

theorem clean_pathAfterAuthority (kind : Kind) (text : List Char) :
    (pathAfterAuthority kind text).Clean := by
  unfold pathAfterAuthority
  split
  · split <;> simp [Path.Clean, Plain]
  · exact clean_pathFrom fun _ hmem => absurd hmem List.not_mem_nil

theorem plain_list {path : Path} (clean : path.Clean) :
    ∀ segment ∈ Path.list path, Plain segment := by
  cases path with
  | rootless text => exact fun _ hmem => absurd hmem List.not_mem_nil
  | segments list => exact clean

/-! ### URLs -/

/-- A number sign stands nowhere but in the fragment. -/
structure Clean (url : Url) : Prop where
  scheme : Plain url.scheme
  username : Plain url.username
  password : ∀ word, url.password = some word → Plain word
  host : ∀ host, url.host = some host → Plain host.text
  path : url.path.Clean
  query : ∀ query, url.query = some query → Plain query

variable {url base : Url} {scheme : String} {input : List Char}

theorem Clean.plain_credentials (clean : url.Clean) : Plain url.credentials := by
  unfold credentials
  split
  · decide
  · rw [plain_append]
    exact ⟨clean.username, by decide⟩
  · rename_i name word hpassword
    rw [plain_append, plain_append, plain_append]
    exact ⟨⟨⟨clean.username, by decide⟩, clean.password word hpassword⟩, by decide⟩

theorem Clean.plain_authority (clean : url.Clean) : Plain url.authority := by
  unfold authority
  split
  · split <;> decide
  · rename_i host hhost
    simp only [plain_append]
    refine ⟨⟨⟨by decide, clean.plain_credentials⟩, clean.host host hhost⟩, ?_⟩
    split
    · decide
    · rw [plain_append]
      exact ⟨by decide, (solid_toString _).plain⟩

theorem Clean.plain_queryText (clean : url.Clean) : Plain url.queryText := by
  unfold queryText
  split
  · decide
  · rename_i query hquery
    rw [plain_append]
    exact ⟨by decide, clean.query query hquery⟩

theorem Clean.plain_text (clean : url.Clean) (hfragment : url.fragment = none) :
    Plain url.text := by
  simp only [text, fragmentText, hfragment, plain_append]
  exact ⟨⟨⟨⟨⟨clean.scheme, by decide⟩, clean.plain_authority⟩, clean.path.plain_text⟩,
    clean.plain_queryText⟩, by decide⟩

theorem Clean.dropTrailingBlanks (clean : url.Clean) : url.dropTrailingBlanks.Clean := by
  unfold Url.dropTrailingBlanks
  split
  · rename_i text hpath hquery hfragment
    refine { clean with path := ?_ }
    have htext : Plain text := by
      have hclean := clean.path
      rw [hpath] at hclean
      exact hclean
    simp only [Path.Clean, plain_ofList, List.mem_reverse]
    intro hmem
    exact htext (List.mem_reverse.mp (List.dropWhile_subset _ hmem))
  · exact clean

theorem fragment_dropTrailingBlanks : url.dropTrailingBlanks.fragment = url.fragment := by
  unfold Url.dropTrailingBlanks
  split <;> rfl

theorem Clean.of_fragment {fragment : Option String} (clean : url.Clean) :
    { url with fragment }.Clean :=
  { clean with }

theorem Clean.withoutFragment (clean : url.Clean) : url.withoutFragment.Clean := by
  unfold Url.withoutFragment
  split
  · exact clean
  · exact clean.of_fragment.dropTrailingBlanks

/-- **A URL without its fragment holds no number sign.** -/
theorem Clean.plain_withoutFragment (clean : url.Clean) : Plain url.withoutFragment.text := by
  refine clean.withoutFragment.plain_text ?_
  unfold Url.withoutFragment
  split
  · assumption
  · exact fragment_dropTrailingBlanks

/-! ### URLs that are read -/

theorem mem_querySet (kind : Kind) : '#' ∈ querySet kind := by
  cases kind <;> decide

theorem Clean.withSuffix (clean : url.Clean) (tail : List Char) : (url.withSuffix tail).Clean := by
  refine { clean with query := fun query hquery => ?_ }
  have hencoded (text : List Char) :
      Plain (Percent.encode (querySet (.ofScheme url.scheme)) text) :=
    Percent.plain_encode (.inl (mem_querySet _))
  change (suffix (.ofScheme url.scheme) tail).1 = some query at hquery
  unfold suffix at hquery
  split at hquery
  · split at hquery <;> obtain rfl := Option.some.inj hquery <;> exact hencoded _
  · cases hquery
  · cases hquery

theorem solid_credentialsOf (text : List Char) : Solid (credentialsOf text).1.toList ∧
    ∀ word, (credentialsOf text).2 = some word → Solid word.toList := by
  unfold credentialsOf
  split
  · exact ⟨Percent.solid_userinfo _, nofun⟩
  · exact ⟨Percent.solid_userinfo _, nofun⟩
  · refine ⟨Percent.solid_userinfo _, fun word hword => ?_⟩
    obtain rfl := Option.some.inj hword
    exact Percent.solid_userinfo _

theorem isSpecial_ofScheme : (Kind.ofScheme scheme).isSpecial = true ↔ isSpecialScheme scheme := by
  unfold Kind.ofScheme
  split
  · subst_vars
    decide
  · split <;> simp_all [Kind.isSpecial]

/-- User information and host hold nothing that ends an authority. In a special scheme there always
is a host. -/
structure Firm (url : Url) : Prop where
  username : Solid url.username.toList
  password : ∀ word, url.password = some word → Solid word.toList
  host : ∃ host, url.host = some host ∧ Solid host.text.toList ∧ (url.isSpecial → host.text ≠ "")

theorem firm_afterAuthority {credentials : String × Option String} {host : Host}
    {port : Option Nat} {path : List Char} (hcredentials : IsUserinfo credentials)
    (hhost : IsHost scheme host) : (afterAuthority scheme credentials host port path).Firm := by
  have huserinfo : Solid credentials.1.toList ∧
      ∀ word, credentials.2 = some word → Solid word.toList := by
    obtain rfl | ⟨text, rfl⟩ := hcredentials
    · exact ⟨solid_nil, nofun⟩
    · exact solid_credentialsOf text
  refine ⟨huserinfo.1, huserinfo.2, host, rfl, ?_⟩
  obtain ⟨-, text, hparse⟩ | ⟨hordinary, text, hparse⟩ := hhost
  · exact ⟨Host.solid_parse hparse, fun _ => Host.text_ne_of_parse hparse⟩
  · refine ⟨Host.solid_parseOpen hparse, fun hspecial => ?_⟩
    have hkind : (Kind.ofScheme scheme).isSpecial = true := isSpecial_ofScheme.mpr hspecial
    rw [hordinary] at hkind
    cases hkind

theorem gives_parseAuthority {holds : Url → Prop}
    (h : ∀ (url : Url) (path tail : List Char), url.scheme = scheme → url.Firm →
      url.path = pathAfterAuthority (.ofScheme scheme) path → url.query = none →
      holds (url.withSuffix tail)) :
    Gives holds (parseAuthority scheme input) := by
  refine gives_afterAuthority fun _ _ _ path tail hcredentials hhost => ?_
  exact h _ path tail rfl (firm_afterAuthority hcredentials hhost) rfl rfl

theorem Firm.clean (firm : url.Firm) (hscheme : Plain url.scheme) (hpath : url.path.Clean)
    (hquery : url.query = none) : url.Clean where
  scheme := hscheme
  username := firm.username.plain
  password word hword := (firm.password word hword).plain
  host found hfound := by
    obtain ⟨host, hhost, hsolid, -⟩ := firm.host
    obtain rfl := Option.some.inj (hfound.symm.trans hhost)
    exact hsolid.plain
  path := hpath
  query := by
    rw [hquery]
    nofun

theorem clean_afterScheme {path : Path} (hscheme : Plain scheme) (hpath : path.Clean) :
    (afterScheme scheme path).Clean where
  scheme := hscheme
  username := List.not_mem_nil
  password := nofun
  host := nofun
  path := hpath
  query := nofun

theorem clean_pathFrom_nil (kind : Kind) (text : List Char) : (pathFrom kind [] text).Clean :=
  clean_pathFrom fun _ hmem => absurd hmem List.not_mem_nil

theorem clean_fileUrl {host : Host} {path : Path} (hhost : Plain host.text) (hpath : path.Clean)
    (tail : List Char) : (fileUrl host path tail).Clean := by
  refine Clean.withSuffix ?_ tail
  constructor
  case scheme => exact show Plain "file" by decide
  case username => exact List.not_mem_nil
  case password =>
    intro word hword
    cases hword
  case host =>
    intro found hfound
    obtain rfl := Option.some.inj hfound
    exact hhost
  case path => exact hpath
  case query =>
    intro query hquery
    cases hquery

theorem Clean.withPath (clean : base.Clean) {path : Path} (hpath : path.Clean) (tail : List Char) :
    ({ base with path }.withSuffix tail).Clean := by
  have hbase : { base with path }.Clean := { clean with path := hpath }
  exact hbase.withSuffix tail

theorem IsFileHost.plain_text {host : Host} (hhost : IsFileHost host) : Plain host.text := by
  obtain rfl | ⟨text, hparse⟩ := hhost
  · exact List.not_mem_nil
  · exact (Host.solid_parse hparse).plain

theorem plain_of_splitScheme {rest : List Char} (hsplit : splitScheme input = some (scheme, rest)) :
    Plain scheme :=
  fun hmem => absurd (isSchemeChar_of_splitScheme hsplit '#' hmem) (by decide)

theorem clean_invariant : Invariant Plain Clean where
  named := plain_of_splitScheme
  scheme := Clean.scheme
  authority hscheme hcredentials hhost :=
    ((firm_afterAuthority hcredentials hhost).clean hscheme (clean_pathAfterAuthority _ _)
      rfl).withSuffix _
  rootless {scheme text tail} hscheme htext _ := by
    have hpath : (Path.rootless (Percent.encode Percent.control text)).Clean :=
      Percent.plain_encode (.inr fun hmem => absurd (htext '#' hmem) (by decide))
    exact (clean_afterScheme hscheme hpath).withSuffix tail
  rooted hscheme := (clean_afterScheme hscheme (clean_pathFrom_nil _ _)).withSuffix _
  file hhost hpath := by
    refine clean_fileUrl hhost.plain_text ?_ _
    obtain ⟨text, rfl | rfl⟩ := hpath
    · exact clean_pathAfterAuthority _ _
    · exact clean_pathFrom_nil _ _
  beside {base host segments text tail} clean _ hhost hsegments := by
    refine clean_fileUrl ?_ (clean_pathFrom fun segment hmem => ?_) _
    · obtain rfl | rfl := hhost
      · exact List.not_mem_nil
      · cases hfound : base.host with
        | none => exact List.not_mem_nil
        | some host => exact clean.host host hfound
    · exact plain_list clean.path segment (hsegments segment hmem)
  path clean hsegments := by
    refine clean.withPath (clean_pathFrom fun segment hmem => ?_) _
    exact plain_list clean.path segment (hsegments segment hmem)
  suffix clean := clean.of_fragment.withSuffix _
  fragment clean := clean.of_fragment
  withoutFragment clean := clean.withoutFragment

theorem isRootless_of_segments {list : List String} (hpath : url.path = .segments list) :
    url.isRootless = false := by
  rw [isRootless, hpath]

theorem exists_segments (hrooted : url.isRootless = false) :
    ∃ list, url.path = .segments list := by
  cases hpath : url.path with
  | rootless text =>
      rw [isRootless, hpath] at hrooted
      cases hrooted
  | segments list => exact ⟨list, rfl⟩

theorem dropTrailingBlanks_eq (hrooted : url.isRootless = false) :
    url.dropTrailingBlanks = url := by
  obtain ⟨list, hlist⟩ := exists_segments hrooted
  simp only [dropTrailingBlanks, hlist]

theorem withoutFragment_eq (hrooted : url.isRootless = false) :
    url.withoutFragment = { url with fragment := none } := by
  unfold withoutFragment
  split
  · rename_i hfragment
    rw [← hfragment]
  · exact dropTrailingBlanks_eq hrooted

theorem setPath_eq (hrooted : url.isRootless = false) (text : String) :
    url.setPath text =
      let input := text.toList.filter (!isIgnored ·)
      { url with path := pathAfterAuthority (.ofScheme url.scheme) input } := by
  obtain ⟨list, hlist⟩ := exists_segments hrooted
  simp only [setPath, hlist]

theorem Clean.setPath (clean : url.Clean) (hrooted : url.isRootless = false) (text : String) :
    (url.setPath text).Clean := by
  rw [setPath_eq hrooted]
  exact { clean with path := clean_pathAfterAuthority _ _ }

theorem Clean.setQuery (clean : url.Clean) (text : Option String) : (url.setQuery text).Clean := by
  cases text with
  | none =>
      have hnone : { url with query := none }.Clean := { clean with query := nofun }
      exact hnone.dropTrailingBlanks
  | some text =>
      refine { clean with query := fun query hquery => ?_ }
      obtain rfl := Option.some.inj hquery
      exact Percent.plain_encode (.inl (mem_querySet _))

/-! ### The origin of an agent -/

theorem exists_pathAfterAuthority (kind : Kind) (text : List Char) :
    ∃ list, pathAfterAuthority kind text = .segments list := by
  unfold pathAfterAuthority
  split
  · split <;> exact ⟨_, rfl⟩
  · exact ⟨_, rfl⟩

theorem scheme_parseOther : Gives (·.scheme = scheme) (parseOther scheme input) := by
  unfold parseOther
  split
  · exact gives_parseAuthority fun _ _ _ hscheme _ _ _ => hscheme
  · exact gives_ok rfl

theorem scheme_parseFile : Gives (·.scheme = "file") (parseFile none input) := by
  unfold parseFile
  split
  · split
    · exact gives_parseFileHost fun _ _ _ _ _ => rfl
    · exact gives_ok rfl
  · exact gives_ok rfl

/-- The URL of a web server is read from its authority on. -/
theorem exists_parseAuthority {text : String} (hparse : parse text = .ok url)
    (hweb : Kind.ofScheme url.scheme = .web) :
    ∃ input, parseAuthority url.scheme input = .ok url := by
  unfold parse parseInput at hparse
  split at hparse
  · rename_i scheme rest _
    unfold parseWithScheme at hparse
    split at hparse
    · rename_i hkind
      rw [scheme_parseOther url hparse, hkind] at hweb
      cases hweb
    · rw [scheme_parseFile url hparse] at hweb
      exact absurd hweb (by decide)
    · have hscheme : Gives (·.scheme = scheme) (parseAuthority scheme (rest.span isSlash).2) :=
        gives_parseAuthority fun _ _ _ hscheme _ _ _ => hscheme
      rw [hscheme url hparse]
      exact ⟨_, hparse⟩
  · cases hparse

/-- The URL of a web server has a path of segments. -/
theorem isRootless_of_parse {text : String} (hparse : parse text = .ok url)
    (hweb : Kind.ofScheme url.scheme = .web) : url.isRootless = false := by
  obtain ⟨input, hauthority⟩ := exists_parseAuthority hparse hweb
  have hrooted : Gives (·.isRootless = false) (parseAuthority url.scheme input) := by
    refine gives_parseAuthority fun _ path _ _ _ hpath _ => ?_
    obtain ⟨list, hlist⟩ := exists_pathAfterAuthority (.ofScheme url.scheme) path
    exact isRootless_of_segments (hpath.trans hlist)
  exact hrooted url hauthority

theorem firm_of_parse {text : String} (hparse : parse text = .ok url)
    (hweb : Kind.ofScheme url.scheme = .web) : url.Firm := by
  obtain ⟨input, hauthority⟩ := exists_parseAuthority hparse hweb
  have hfirm : Gives Firm (parseAuthority url.scheme input) :=
    gives_parseAuthority fun _ _ _ _ firm _ _ => ⟨firm.username, firm.password, firm.host⟩
  exact hfirm url hauthority

theorem IsReadWhere.clean (read : url.IsRead) : url.Clean :=
  clean_invariant.read (fun _ clean hrooted text => clean.setPath hrooted text)
    (fun _ clean text => clean.setQuery text) read

end Url

/-- An origin is a URL of the web with nothing but a slash for a path. -/
theorem Settings.of_originUrl {settings : Settings} {origin : Url}
    (horigin : settings.originUrl = .ok origin) :
    Url.parse settings.origin = .ok origin ∧ Url.Kind.ofScheme origin.scheme = .web ∧
      origin.path.text = "/" := by
  unfold originUrl at horigin
  split at horigin
  · cases horigin
  · rename_i url hparse
    split at horigin
    · cases horigin
    · rename_i hscheme
      split at horigin
      · cases horigin
      · rename_i hslash
        obtain rfl := Except.ok.inj horigin
        refine ⟨hparse, ?_, not_not.mp hslash⟩
        by_cases hhttp : url.scheme = "http"
        · rw [hhttp]
          decide
        · rw [not_not.mp fun hother => hscheme ⟨hhttp, hother⟩]
          decide

theorem Settings.isRead_originUrl {settings : Settings} {origin : Url}
    (horigin : settings.originUrl = .ok origin) :
    origin.IsRead ∧ origin.isRootless = false := by
  obtain ⟨hparse, hweb, -⟩ := of_originUrl horigin
  exact ⟨.parse hparse, Url.isRootless_of_parse hparse hweb⟩

end OfflineAgent
