import OfflineAgent.Proofs.Url.NumberSign
import OfflineAgent.Proofs.Url.Orderly
import OfflineAgent.Proofs.Url.Reading

/-!
# A URL is told by its text

Each sign that parts a text stands where it stands in one way only, and what is left out of the text
can be told from the rest: whether there is an authority, and whether the path is guarded against
being read as one. So no two URLs that were read have one text.
-/

namespace OfflineAgent

/-! ### Paths -/

namespace Path

theorem toList_text_cons (segment : String) (rest : List String) :
    (segments (segment :: rest)).text.toList =
      '/' :: (segment.toList ++ (segments rest).text.toList) := by
  simp [text, String.toList_join]

theorem head?_text_segments (list : List String) :
    ∀ c ∈ (segments list).text.toList.head?, c = '/' := by
  cases list with
  | nil => nofun
  | cons segment rest =>
      rw [toList_text_cons]
      exact fun c hhead => (Option.some.inj hhead).symm

end Path

namespace Url

variable {url url' : Url}

/-! ### Where a part ends -/

/-- Texts are parted where a sign stands first. -/
theorem parts_inj {sign : Char} {front front' tail tail' : List Char} (hfront : sign ∉ front)
    (hfront' : sign ∉ front') (htail : ∀ c ∈ tail.head?, c = sign)
    (htail' : ∀ c ∈ tail'.head?, c = sign) (hsame : front ++ tail = front' ++ tail') :
    front = front' ∧ tail = tail' := by
  have hspan {front tail : List Char} (hfront : sign ∉ front) (htail : ∀ c ∈ tail.head?, c = sign) :
      (front ++ tail).span (· ≠ sign) = (front, tail) := by
    refine span_append (fun c hmem => ?_) fun c hhead => ?_
    · simp only [ne_eq, decide_not, Bool.not_eq_true', decide_eq_false_iff_not]
      rintro rfl
      exact hfront hmem
    · simpa using htail c hhead
  have hparts := hspan hfront htail
  rw [hsame, hspan hfront' htail'] at hparts
  obtain ⟨rfl, rfl⟩ := Prod.mk.inj hparts
  exact ⟨rfl, rfl⟩

/-- A part that is written after its sign, if there is one. -/
def signed (sign : Char) : Option String → List Char
  | none => []
  | some part => sign :: part.toList

theorem head?_signed (sign : Char) (part : Option String) :
    ∀ c ∈ (signed sign part).head?, c = sign := by
  cases part with
  | none => nofun
  | some text => exact fun c hhead => (Option.some.inj hhead).symm

theorem mem_signed {sign : Char} {part : Option String} {c : Char} (hmem : c ∈ signed sign part) :
    c = sign ∨ ∃ text, part = some text ∧ c ∈ text.toList := by
  cases part with
  | none => cases hmem
  | some text =>
      obtain hsign | htext := List.mem_cons.mp hmem
      · exact .inl hsign
      · exact .inr ⟨text, rfl, htext⟩

theorem signed_inj {sign : Char} {part part' : Option String}
    (hsame : signed sign part = signed sign part') : part = part' := by
  cases part with
  | none =>
      cases part' with
      | none => rfl
      | some text' => cases hsame
  | some text =>
      cases part' with
      | none => cases hsame
      | some text' => exact congrArg some (String.toList_inj.mp (List.cons.inj hsame).2)

/-- What comes before the sign and what comes after it. -/
theorem append_signed_inj {sign : Char} {front front' : List Char} {part part' : Option String}
    (hfront : sign ∉ front) (hfront' : sign ∉ front')
    (hsame : front ++ signed sign part = front' ++ signed sign part') :
    front = front' ∧ part = part' := by
  obtain ⟨hsame, htail⟩ :=
    parts_inj hfront hfront' (head?_signed sign part) (head?_signed sign part') hsame
  exact ⟨hsame, signed_inj htail⟩

theorem toList_queryText : url.queryText.toList = signed '?' url.query := by
  unfold queryText
  cases url.query <;> simp [signed]

theorem toList_fragmentText : url.fragmentText.toList = signed '#' url.fragment := by
  unfold fragmentText
  cases url.fragment <;> simp [signed]

/-! ### Authorities -/

/-- The port with the sign before it. -/
def signedPort (port : Option Nat) : List Char :=
  signed ':' (port.map toString)

theorem mem_signedPort {port : Option Nat} :
    ∀ c ∈ signedPort port, c = ':' ∨ isDelimiter c = false := by
  intro c hmem
  obtain hcolon | ⟨text, hport, hmem⟩ := mem_signed hmem
  · exact .inl hcolon
  · obtain ⟨n, -, rfl⟩ := Option.map_eq_some_iff.mp hport
    exact .inr (unmarked_toString n c hmem)

theorem port_inj {port port' : Option Nat} (hsame : port.map toString = port'.map toString) :
    port = port' :=
  Option.map_injective (fun _ _ => Nat.repr_inj.mp) hsame

theorem head?_append_signedPort {text : List Char} (unmarked : Unmarked text) (port : Option Nat) :
    (text ++ signedPort port).head? ≠ some '[' := by
  intro hbracket
  cases text with
  | nil => exact absurd (head?_signed _ _ '[' hbracket) (by decide)
  | cons c rest =>
      obtain rfl := Option.some.inj hbracket
      exact unmarked.not_mem (by decide) List.mem_cons_self

theorem hostPort_inj {isSpecial : Bool} {host host' : Host} {port port' : Option Nat}
    (orderly : host.Orderly isSpecial) (orderly' : host'.Orderly isSpecial)
    (hsame : host.text.toList ++ signedPort port = host'.text.toList ++ signedPort port') :
    host = host' ∧ port = port' := by
  obtain ⟨pieces, rfl⟩ | unmarked := orderly.ipv6_or_unmarked
  · obtain ⟨pieces', rfl⟩ | unmarked' := orderly'.ipv6_or_unmarked
    · rw [Host.toList_text_ipv6, Host.toList_text_ipv6, List.cons_append, List.cons_append,
        List.append_assoc, List.append_assoc] at hsame
      have hbracket (list : List Nat) : ']' ∉ (Host.ipv6Text list).toList := by
        intro hmem
        obtain hcolon | hfree := Host.mem_ipv6Text _ hmem
        · exact absurd hcolon (by decide)
        · exact absurd hfree (by decide)
      obtain ⟨htext, htail⟩ := parts_inj (hbracket pieces) (hbracket pieces') (by simp) (by simp)
        (List.cons.inj hsame).2
      have hlength : pieces.length = pieces'.length := orderly.trans orderly'.symm
      rw [Host.ipv6Text_inj hlength (String.toList_inj.mp htext)]
      exact ⟨rfl, port_inj (signed_inj (List.cons.inj htail).2)⟩
    · refine absurd ?_ (head?_append_signedPort unmarked' port')
      rw [← hsame, Host.toList_text_ipv6]
      rfl
  · obtain ⟨pieces', rfl⟩ | unmarked' := orderly'.ipv6_or_unmarked
    · refine absurd ?_ (head?_append_signedPort unmarked port)
      rw [hsame, Host.toList_text_ipv6]
      rfl
    · obtain ⟨htext, hport⟩ := append_signed_inj (unmarked.not_mem (by decide))
        (unmarked'.not_mem (by decide)) hsame
      exact ⟨orderly.text_inj orderly' (String.toList_inj.mp htext), port_inj hport⟩

/-- User name and password without the sign that ends them. -/
def userinfo (url : Url) : List Char :=
  url.username.toList ++ signed ':' url.password

theorem toList_credentials : url.credentials.toList =
    if url.userinfo = [] then [] else url.userinfo ++ ['@'] := by
  unfold credentials userinfo
  split
  · rename_i hname hword
    rw [hname, hword]
    rfl
  · rename_i hword hempty
    rw [hword, if_neg]
    · simp [signed]
    · simpa [signed] using hempty
  · rename_i word hword
    rw [hword, if_neg (by simp [signed])]
    simp [signed]

theorem Orderly.mem_userinfo (orderly : url.Orderly) :
    ∀ c ∈ url.userinfo, c = ':' ∨ isDelimiter c = false := by
  intro c hmem
  obtain hname | hword := List.mem_append.mp hmem
  · exact .inr (orderly.username c hname)
  · obtain hcolon | ⟨word, hword, hmem⟩ := mem_signed hword
    · exact .inl hcolon
    · exact .inr (orderly.password word hword c hmem)

theorem Orderly.userinfo_inj (orderly : url.Orderly) (orderly' : url'.Orderly)
    (hsame : url.userinfo = url'.userinfo) :
    url.username = url'.username ∧ url.password = url'.password := by
  obtain ⟨hname, hword⟩ := append_signed_inj (orderly.username.not_mem (by decide))
    (orderly'.username.not_mem (by decide)) hsame
  exact ⟨String.toList_inj.mp hname, hword⟩

/-- The authority without the slashes before it. -/
def site (url : Url) (host : Host) : List Char :=
  url.credentials.toList ++ (host.text.toList ++ signedPort url.port)

theorem toList_authority {host : Host} (hhost : url.host = some host) :
    url.authority.toList = '/' :: '/' :: url.site host := by
  simp only [authority, hhost, site, String.toList_append, List.append_assoc]
  cases url.port <;> simp [signedPort, signed]

theorem Orderly.mem_hostPort (orderly : url.Orderly) {host : Host} (hhost : url.host = some host) :
    ∀ c ∈ host.text.toList ++ signedPort url.port,
      c ∈ [':', '[', ']'] ∨ isDelimiter c = false := by
  rw [List.forall_mem_append]
  refine ⟨(orderly.host host hhost).mem_text, fun c hmem => ?_⟩
  obtain rfl | hfree := mem_signedPort c hmem
  · exact .inl (by decide)
  · exact .inr hfree

theorem Orderly.mem_site (orderly : url.Orderly) {host : Host} (hhost : url.host = some host) :
    ∀ c ∈ url.site host, c ∈ [':', '[', ']', '@'] ∨ isDelimiter c = false := by
  have hcredentials : ∀ c ∈ url.credentials.toList, c ∈ [':', '@'] ∨ isDelimiter c = false := by
    rw [toList_credentials]
    split
    · nofun
    · rw [List.forall_mem_append, List.forall_mem_singleton]
      refine ⟨fun c hmem => ?_, .inl (by decide)⟩
      obtain rfl | hfree := orderly.mem_userinfo c hmem
      · exact .inl (by decide)
      · exact .inr hfree
  rw [site, List.forall_mem_append]
  constructor
  · have hsubset : [':', '@'] ⊆ [':', '[', ']', '@'] := by decide
    exact fun c hmem => (hcredentials c hmem).imp_left fun hsign => hsubset hsign
  · have hsubset : [':', '[', ']'] ⊆ [':', '[', ']', '@'] := by decide
    exact fun c hmem => (orderly.mem_hostPort hhost c hmem).imp_left fun hsign => hsubset hsign

/-- Where a site has credentials, they end at the only sign of their kind. -/
theorem Orderly.site_inj (orderly : url.Orderly) (orderly' : url'.Orderly) {host host' : Host}
    (hhost : url.host = some host) (hhost' : url'.host = some host')
    (hscheme : url.scheme = url'.scheme) (hsame : url.site host = url'.site host') :
    url.username = url'.username ∧ url.password = url'.password ∧ host = host' ∧
      url.port = url'.port := by
  have hat {url : Url} (orderly : url.Orderly) {host : Host} (hhost : url.host = some host) :
      '@' ∉ url.userinfo ∧ '@' ∉ host.text.toList ++ signedPort url.port := by
    constructor
    · intro hmem
      have hsign := orderly.mem_userinfo _ hmem
      simp [isDelimiter] at hsign
    · intro hmem
      have hsign := orderly.mem_hostPort hhost _ hmem
      simp [isDelimiter] at hsign
  have hboth : url.userinfo = url'.userinfo ∧
      host.text.toList ++ signedPort url.port = host'.text.toList ++ signedPort url'.port := by
    obtain ⟨hfront, hback⟩ := hat orderly hhost
    obtain ⟨hfront', hback'⟩ := hat orderly' hhost'
    unfold site at hsame
    rw [toList_credentials, toList_credentials] at hsame
    by_cases hempty : url.userinfo = []
    · by_cases hempty' : url'.userinfo = []
      · rw [if_pos hempty, if_pos hempty'] at hsame
        exact ⟨hempty.trans hempty'.symm, hsame⟩
      · rw [if_pos hempty, if_neg hempty', List.nil_append] at hsame
        exact absurd (by simp [hsame]) hback
    · by_cases hempty' : url'.userinfo = []
      · rw [if_neg hempty, if_pos hempty', List.nil_append] at hsame
        exact absurd (by simp [← hsame]) hback'
      · rw [if_neg hempty, if_neg hempty', List.append_assoc, List.append_assoc] at hsame
        obtain ⟨hfront, hback⟩ := parts_inj hfront hfront' (by simp) (by simp) hsame
        exact ⟨hfront, (List.cons.inj hback).2⟩
  obtain ⟨hname, hword⟩ := orderly.userinfo_inj orderly' hboth.1
  have hhosts := orderly'.host host' hhost'
  rw [← hscheme] at hhosts
  exact ⟨hname, hword, hostPort_inj (orderly.host host hhost) hhosts hboth.2⟩

end Url

/-! ### Paths -/

namespace Path

variable {path path' : Path} {hasHost : Bool}

theorem segments_inj {list list' : List String} (hlist : ∀ segment ∈ list, IsSegment segment)
    (hlist' : ∀ segment ∈ list', '/' ∉ segment.toList)
    (hsame : (segments list).text.toList = (segments list').text.toList) : list = list' := by
  induction list generalizing list' with
  | nil =>
      cases list' with
      | nil => rfl
      | cons segment' rest' =>
          rw [toList_text_cons] at hsame
          cases hsame
  | cons segment rest ih =>
      cases list' with
      | nil =>
          rw [toList_text_cons] at hsame
          cases hsame
      | cons segment' rest' =>
          obtain ⟨hfirst, hrest⟩ := List.forall_mem_cons.mp hlist
          obtain ⟨hfirst', hrest'⟩ := List.forall_mem_cons.mp hlist'
          rw [toList_text_cons, toList_text_cons] at hsame
          obtain ⟨hsegment, hsame⟩ := Url.parts_inj hfirst.slash hfirst'
            (head?_text_segments rest) (head?_text_segments rest') (List.cons.inj hsame).2
          rw [String.toList_inj.mp hsegment, ih hrest hrest' hsame]

theorem Orderly.question_not_mem (orderly : path.Orderly hasHost) : '?' ∉ path.text.toList := by
  cases path with
  | rootless text => exact orderly.2.2
  | segments list =>
      rw [text, String.toList_join, List.mem_flatMap]
      rintro ⟨part, hpart, hmem⟩
      obtain ⟨segment, hsegment, rfl⟩ := List.mem_map.mp hpart
      rw [String.toList_append, List.mem_append] at hmem
      obtain hslash | hmem := hmem
      · exact absurd (List.mem_singleton.mp hslash) (by decide)
      · exact (orderly.2 segment hsegment).question hmem

theorem Orderly.rootless_ne_cons {text : String} (orderly : (rootless text).Orderly hasHost)
    (rest : List Char) : text.toList ≠ '/' :: rest := by
  intro hsame
  have hhead := orderly.2.1
  rw [hsame] at hhead
  exact hhead rfl

theorem Orderly.rootless_ne_segments {text : String} {list : List String}
    (orderly : (rootless text).Orderly hasHost) (orderly' : (segments list).Orderly hasHost) :
    text.toList ≠ (segments list).text.toList := by
  cases list with
  | nil => exact absurd (orderly.1.symm.trans (orderly'.1 rfl)) Bool.false_ne_true
  | cons segment rest =>
      rw [toList_text_cons]
      exact orderly.rootless_ne_cons _

theorem Orderly.text_inj (orderly : path.Orderly hasHost) (orderly' : path'.Orderly hasHost)
    (hsame : path.text.toList = path'.text.toList) : path = path' := by
  cases path with
  | rootless text =>
      cases path' with
      | rootless text' => exact congrArg rootless (String.toList_inj.mp hsame)
      | segments list' => exact absurd hsame (orderly.rootless_ne_segments orderly')
  | segments list =>
      cases path' with
      | rootless text' => exact absurd hsame.symm (orderly'.rootless_ne_segments orderly)
      | segments list' =>
          exact congrArg segments
            (segments_inj orderly.2 (fun segment hmem => (orderly'.2 segment hmem).slash) hsame)

/-- After a guard stands a dot, and no path starts with one for a segment. -/
theorem Orderly.ne_guarded (orderly : path.Orderly false) (orderly' : path'.Orderly false)
    (hguard : path'.needsGuard = true) : path.text.toList ≠ '/' :: '.' :: path'.text.toList := by
  intro hsame
  cases path with
  | rootless text => exact orderly.rootless_ne_cons _ hsame
  | segments list =>
      cases path' with
      | rootless text' => cases hguard
      | segments list' =>
          have hlist : list = "." :: list' := by
            refine segments_inj orderly.2 (List.forall_mem_cons.mpr ⟨by decide, fun segment hmem =>
              (orderly'.2 segment hmem).slash⟩) ?_
            rw [toList_text_cons]
            exact hsame
          subst hlist
          exact (orderly.2 "." List.mem_cons_self).ne_dot rfl

/-- Where a path would read as an authority, it is guarded. -/
theorem Orderly.ne_slashes (orderly : path.Orderly false) (hguard : path.needsGuard = false)
    (rest : List Char) : path.text.toList ≠ '/' :: '/' :: rest := by
  intro hsame
  cases path with
  | rootless text => exact orderly.rootless_ne_cons _ hsame
  | segments list =>
      cases list with
      | nil => cases hsame
      | cons segment more =>
          rw [toList_text_cons] at hsame
          have hslash := (List.cons.inj hsame).2
          by_cases hempty : segment = ""
          · subst hempty
            cases more with
            | nil => cases hslash
            | cons second more => cases hguard
          · obtain ⟨c, tail, hsegment⟩ :=
              List.exists_cons_of_ne_nil (String.toList_eq_nil_iff.not.mpr hempty)
            rw [hsegment] at hslash
            obtain ⟨rfl, -⟩ := List.cons.inj hslash
            refine (orderly.2 segment List.mem_cons_self).slash ?_
            rw [hsegment]
            exact List.mem_cons_self

end Path

namespace Url

variable {url url' : Url}

/-! ### URLs -/

theorem toList_authority_of_none (hhost : url.host = none) :
    url.authority.toList = if url.path.needsGuard then ['/', '.'] else [] := by
  simp only [authority, hhost]
  split <;> rfl

theorem Orderly.question_not_mem_authority (orderly : url.Orderly) :
    '?' ∉ url.authority.toList := by
  cases hhost : url.host with
  | none =>
      rw [toList_authority_of_none hhost]
      split <;> decide
  | some host =>
      rw [toList_authority hhost]
      intro hmem
      have hsite : '?' ∈ url.site host := by simpa using hmem
      have hsign := orderly.mem_site hhost _ hsite
      simp [isDelimiter] at hsign

/-- Authority and path of a URL without a host do not read as an authority. -/
theorem Orderly.ne_slashes (orderly : url.Orderly) (hhost : url.host = none) (rest : List Char) :
    url.authority.toList ++ url.path.text.toList ≠ '/' :: '/' :: rest := by
  rw [toList_authority_of_none hhost]
  cases hguard : url.path.needsGuard with
  | true => simp
  | false => exact (orderly.path_of_none hhost).ne_slashes hguard rest

theorem Orderly.path_inj_of_none (orderly : url.Orderly) (orderly' : url'.Orderly)
    (hhost : url.host = none) (hhost' : url'.host = none)
    (hsame : url.authority.toList ++ url.path.text.toList =
      url'.authority.toList ++ url'.path.text.toList) : url.path = url'.path := by
  have hpath := orderly.path_of_none hhost
  have hpath' := orderly'.path_of_none hhost'
  rw [toList_authority_of_none hhost, toList_authority_of_none hhost'] at hsame
  cases hguard : url.path.needsGuard with
  | true =>
      cases hguard' : url'.path.needsGuard with
      | true =>
          rw [hguard, hguard'] at hsame
          exact hpath.text_inj hpath' (List.append_cancel_left hsame)
      | false =>
          rw [hguard, hguard'] at hsame
          exact absurd hsame.symm (hpath'.ne_guarded hpath hguard)
  | false =>
      cases hguard' : url'.path.needsGuard with
      | true =>
          rw [hguard, hguard'] at hsame
          exact absurd hsame (hpath.ne_guarded hpath' hguard')
      | false =>
          rw [hguard, hguard'] at hsame
          exact hpath.text_inj hpath' hsame

theorem Orderly.site_path_inj (orderly : url.Orderly) (orderly' : url'.Orderly)
    {host host' : Host} (hhost : url.host = some host) (hhost' : url'.host = some host')
    (hsame : url.authority.toList ++ url.path.text.toList =
      url'.authority.toList ++ url'.path.text.toList) :
    url.site host = url'.site host' ∧ url.path = url'.path := by
  have hslash {url : Url} (orderly : url.Orderly) {host : Host} (hhost : url.host = some host) :
      '/' ∉ url.site host ∧ ∀ c ∈ url.path.text.toList.head?, c = '/' := by
    constructor
    · intro hmem
      have hsign := orderly.mem_site hhost _ hmem
      simp [isDelimiter] at hsign
    · obtain ⟨list, hlist⟩ := (orderly.path_of_some hhost).exists_list
      rw [hlist]
      exact Path.head?_text_segments list
  obtain ⟨hsite, hhead⟩ := hslash orderly hhost
  obtain ⟨hsite', hhead'⟩ := hslash orderly' hhost'
  rw [toList_authority hhost, toList_authority hhost'] at hsame
  obtain ⟨hsites, hpaths⟩ :=
    parts_inj hsite hsite' hhead hhead' (List.cons.inj (List.cons.inj hsame).2).2
  exact ⟨hsites, (orderly.path_of_some hhost).text_inj (orderly'.path_of_some hhost') hpaths⟩

theorem toList_text : url.text.toList = url.scheme.toList ++
    ':' :: (url.authority.toList ++ url.path.text.toList ++ signed '?' url.query ++
      signed '#' url.fragment) := by
  rw [← toList_queryText, ← toList_fragmentText]
  simp [text]

/-- The text is cut at its signs: at the first colon, then before the fragment and before the
query. -/
theorem Orderly.parts_of_text (orderly : url.Orderly) (orderly' : url'.Orderly) (clean : url.Clean)
    (clean' : url'.Clean) (hsame : url.text = url'.text) :
    url.scheme = url'.scheme ∧
      url.authority.toList ++ url.path.text.toList =
        url'.authority.toList ++ url'.path.text.toList ∧
      url.query = url'.query ∧ url.fragment = url'.fragment := by
  have hplain {url : Url} (clean : url.Clean) :
      '#' ∉ url.authority.toList ++ url.path.text.toList ++ signed '?' url.query := by
    rw [← toList_queryText, List.mem_append, List.mem_append, not_or, not_or]
    exact ⟨⟨clean.plain_authority, clean.path.plain_text⟩, clean.plain_queryText⟩
  have hquestion {url : Url} (orderly : url.Orderly) :
      '?' ∉ url.authority.toList ++ url.path.text.toList := by
    rw [List.mem_append, not_or]
    exact ⟨orderly.question_not_mem_authority, orderly.path.question_not_mem⟩
  rw [← String.toList_inj, toList_text, toList_text] at hsame
  obtain ⟨hscheme, hsame⟩ :=
    parts_inj (orderly.scheme.unmarked.not_mem (show isDelimiter ':' = true by decide))
      (orderly'.scheme.unmarked.not_mem (by decide)) (by simp) (by simp) hsame
  obtain ⟨hsame, hfragment⟩ :=
    append_signed_inj (hplain clean) (hplain clean') (List.cons.inj hsame).2
  obtain ⟨hsame, hquery⟩ := append_signed_inj (hquestion orderly) (hquestion orderly') hsame
  exact ⟨String.toList_inj.mp hscheme, hsame, hquery, hfragment⟩

theorem Orderly.text_inj (orderly : url.Orderly) (orderly' : url'.Orderly) (clean : url.Clean)
    (clean' : url'.Clean) (hsame : url.text = url'.text) : url = url' := by
  obtain ⟨hscheme, hsame, hquery, hfragment⟩ := orderly.parts_of_text orderly' clean clean' hsame
  cases hhost : url.host with
  | none =>
      cases hhost' : url'.host with
      | none =>
          have hpath := orderly.path_inj_of_none orderly' hhost hhost' hsame
          obtain ⟨hname, hword, hport⟩ := orderly.bare hhost
          obtain ⟨hname', hword', hport'⟩ := orderly'.bare hhost'
          cases url
          cases url'
          simp_all
      | some host' =>
          rw [toList_authority hhost'] at hsame
          exact absurd hsame (orderly.ne_slashes hhost _)
  | some host =>
      cases hhost' : url'.host with
      | none =>
          rw [toList_authority hhost] at hsame
          exact absurd hsame.symm (orderly'.ne_slashes hhost' _)
      | some host' =>
          obtain ⟨hsite, hpath⟩ := orderly.site_path_inj orderly' hhost hhost' hsame
          obtain ⟨hname, hword, rfl, hport⟩ :=
            orderly.site_inj orderly' hhost hhost' hscheme hsite
          cases url
          cases url'
          simp_all

/-! ### URLs that were read -/

theorem Orderly.isRootless_of_host (orderly : url.Orderly) {host : Host}
    (hhost : url.host = some host) : url.isRootless = false := by
  obtain ⟨list, hlist⟩ := (orderly.path_of_some hhost).exists_list
  rw [isRootless, hlist]

theorem Orderly.setPath (orderly : url.Orderly) {host : Host} (hhost : url.host = some host)
    (text : String) : (url.setPath text).Orderly := by
  have hrooted := orderly.isRootless_of_host hhost
  unfold Url.setPath
  dsimp only
  split
  · rename_i hpath
    simp [isRootless, hpath] at hrooted
  · refine orderly.withPath ?_
    rw [hhost]
    exact orderly_pathAfterAuthority

theorem Orderly.withQuery (orderly : url.Orderly) (query : Option String) :
    { url with query }.Orderly :=
  { orderly with }

theorem Orderly.setQuery (orderly : url.Orderly) (text : Option String) :
    (url.setQuery text).Orderly := by
  unfold Url.setQuery
  split
  · exact (orderly.withQuery none).dropTrailingBlanks
  · exact orderly.withQuery _

theorem IsReadWhere.orderly (parsed : url.IsParsed) : url.Orderly := by
  refine orderly_invariant.read ?_ (fun _ orderly text => orderly.setQuery text) parsed
  rintro url orderly ⟨host, hhost⟩ text
  exact orderly.setPath hhost text

theorem IsReadWhere.isRead (parsed : url.IsParsed) : url.IsRead :=
  parsed.mono fun _ parsed ⟨_, hhost⟩ => parsed.orderly.isRootless_of_host hhost

/-- **A URL is told by its text**, and without its fragment by what is left of the text. -/
theorem IsReadWhere.text_inj (parsed : url.IsParsed) (parsed' : url'.IsParsed) :
    (url.text = url'.text ↔ url = url') ∧
      (url.withoutFragment.text = url'.withoutFragment.text ↔
        url.withoutFragment = url'.withoutFragment) := by
  have orderly := parsed.orderly
  have orderly' := parsed'.orderly
  have clean := parsed.isRead.clean
  have clean' := parsed'.isRead.clean
  constructor
  · exact ⟨orderly.text_inj orderly' clean clean', congrArg text⟩
  · exact ⟨orderly.withoutFragment.text_inj orderly'.withoutFragment clean.withoutFragment
      clean'.withoutFragment, congrArg text⟩

end Url

end OfflineAgent
