import OfflineAgent.Proofs.Agent.Operations
import OfflineAgent.Proofs.Http.RequestTarget
import OfflineAgent.Proofs.Url.Reading
import OfflineAgent.Server.Intercept

/-!
# Requests and the origin

A request is read against the origin: its path and its query take the place of those of the origin,
and all else stays. So a request leads where the origin leads, whatever its target says. And its URL
is the one that a path of the manifest is joined to the origin as, but for the fragment: what is
kept under a path when an agent is installed is found again by requests for it.
-/

namespace OfflineAgent

open Http (RequestTarget)

variable {settings : Settings} {origin url : Url} {target : RequestTarget} {path : String}
  {rest : List Char}

/-! ### Characters of a target -/

namespace Http.RequestTarget

theorem of_isPathChar {c : Char} (hc : isPathChar c) : 0x20 < c.toNat ∧ Url.endsPath c = false := by
  simp only [isPathChar, Bool.or_eq_true, Bool.and_eq_true, decide_eq_true_eq, ← Char.toNat_inj,
    Char.reduceToNat] at hc
  simp only [Url.endsPath, Bool.or_eq_false_iff, decide_eq_false_iff_not, ← Char.toNat_inj,
    Char.reduceToNat]
  omega

theorem of_isQueryChar {c : Char} (hc : isQueryChar c) : 0x20 < c.toNat ∧ c ≠ '#' := by
  simp only [isQueryChar, Bool.or_eq_true, Bool.and_eq_true, decide_eq_true_eq] at hc
  simp only [ne_eq, ← Char.toNat_inj, Char.reduceToNat]
  omega

theorem Tidy.visible (tidy : target.Tidy) : ∀ c ∈ target.chars, 0x20 < c.toNat := by
  rw [chars, List.forall_mem_append]
  refine ⟨fun c hmem => (of_isPathChar (tidy.path c hmem)).1, ?_⟩
  cases hquery : target.query with
  | none => simp only [queryChars, hquery, List.not_mem_nil, false_implies, implies_true]
  | some query =>
    simp only [queryChars, hquery, List.forall_mem_cons]
    exact ⟨by decide, fun c hmem => (of_isQueryChar (tidy.query query hquery c hmem)).1⟩

end Http.RequestTarget

/-! ### Origins -/

namespace Url

/-- What is known of the origins that settings name: nothing is written between their authority and
the query. -/
structure IsOrigin (origin : Url) : Prop where
  web : Kind.ofScheme origin.scheme = .web
  rooted : origin.isRootless = false
  firm : origin.Firm
  slash : origin.path.text = "/"

/-- The origin with the path and the query of a target. -/
def atTarget (origin : Url) (target : RequestTarget) : Url :=
  { origin with
    path := pathAfterAuthority .web target.path.toList
    query := target.query.map fun query => Percent.encode Percent.specialQuery query.toList }

theorem isRootless_atTarget : (origin.atTarget target).isRootless = false := by
  obtain ⟨list, hlist⟩ := exists_pathAfterAuthority .web target.path.toList
  exact isRootless_of_segments hlist

theorem setQuery_eq (hrooted : url.isRootless = false) (text : Option String) :
    url.setQuery text =
      { url with
        query := text.map fun text =>
          let input := text.toList.filter (!isIgnored ·)
          Percent.encode (querySet (.ofScheme url.scheme)) input } := by
  cases text with
  | none =>
      have hbare : { url with query := none }.isRootless = false := hrooted
      exact dropTrailingBlanks_eq hbare
  | some text => rfl

theorem IsOrigin.setQuery_setPath (known : origin.IsOrigin) (tidy : target.Tidy) :
    (origin.setPath target.path).setQuery target.query = origin.atTarget target := by
  have hpath : target.path.toList.filter (!isIgnored ·) = target.path.toList :=
    filter_isIgnored fun c hmem => (RequestTarget.of_isPathChar (tidy.path c hmem)).1
  have hquery : ∀ query, target.query = some query →
      query.toList.filter (!isIgnored ·) = query.toList := fun query hquery =>
    filter_isIgnored fun c hmem => (RequestTarget.of_isQueryChar (tidy.query query hquery c hmem)).1
  have hrooted : (origin.setPath target.path).isRootless = false := by
    obtain ⟨list, hlist⟩ := exists_pathAfterAuthority (.ofScheme origin.scheme)
      (target.path.toList.filter (!isIgnored ·))
    rw [setPath_eq known.rooted]
    exact isRootless_of_segments hlist
  rw [setQuery_eq hrooted, setPath_eq known.rooted, known.web, hpath, atTarget]
  congr 1
  exact Option.map_congr fun query hmem =>
    congrArg (Percent.encode Percent.specialQuery) (hquery query hmem)

/-- Nothing of a target is taken away, and only a number sign can follow it. -/
theorem exists_cleaned (htarget : RequestTarget.parse path = some target)
    (hpath : path.toList = '/' :: rest) : ∃ more tail, path.toList = target.chars ++ more ∧
      cleaned path = target.chars ++ tail ∧ (∀ c ∈ more.head?, c = '#') ∧
        ∀ c ∈ tail.head?, c = '#' := by
  have hchars := RequestTarget.chars_of_parse htarget hpath
  have hvisible := (RequestTarget.tidy_of_parse htarget).visible
  obtain ⟨front, more, htext, hfront, hmore⟩ := exists_span (· != '#') path.toList
  obtain rfl : front = target.chars := by
    rw [← hchars, htext, List.takeWhile_append_of_pos hfront]
    cases more with
    | nil => simp
    | cons c more => simpa using hmore c rfl
  cases more with
  | nil =>
      have hne : target.chars ≠ [] := by
        intro hnil
        simp [htext, hnil] at hpath
      exact ⟨_, _, htext, cleaned_append htext hne hvisible, nofun, by simp⟩
  | cons c more =>
      obtain rfl : c = '#' := by simpa using hmore c rfl
      have hsign : path.toList = (target.chars ++ ['#']) ++ more := by simp [htext]
      have hclean := cleaned_append hsign (by simp) (by simpa [or_imp, forall_and] using hvisible)
      rw [List.append_assoc] at hclean
      exact ⟨_, _, htext, hclean, by simp, by simp⟩

/-- A path is over where the query or the fragment begins. -/
theorem endsPath_queryChars (target : RequestTarget) {tail : List Char}
    (htail : ∀ c ∈ tail.head?, c = '#') :
    ∀ c ∈ (target.queryChars ++ tail).head?, endsPath c = true := by
  unfold RequestTarget.queryChars
  split
  · intro c hc
    rw [htail c hc]
    decide
  · rintro _ ⟨rfl⟩
    decide

theorem isSlash_of_endsPath {c : Char} (hc : endsPath c = true) : isSlash c = false := by
  simp only [endsPath, Bool.or_eq_true, decide_eq_true_eq] at hc
  obtain rfl | rfl := hc <;> decide

theorem query_suffix {tail : List Char} (tidy : target.Tidy) (htail : ∀ c ∈ tail.head?, c = '#') :
    (suffix .web (target.queryChars ++ tail)).1 =
      target.query.map fun query => Percent.encode Percent.specialQuery query.toList := by
  unfold RequestTarget.queryChars
  cases hquery : target.query with
  | none =>
      cases tail with
      | nil => rfl
      | cons c tail =>
          obtain rfl := htail c rfl
          rfl
  | some query =>
      have hsign : '#' ∉ query.toList := fun hmem =>
        (RequestTarget.of_isQueryChar (tidy.query query hquery '#' hmem)).2 rfl
      cases tail with
      | nil =>
          have hcut := Text.cut_eq_none_iff.mpr hsign
          simp [suffix, hcut, querySet, Kind.isSpecial]
      | cons c tail =>
          obtain rfl := htail c rfl
          have hcut : Text.cut '#' (query.toList ++ '#' :: tail) = some (query.toList, tail) :=
            Text.cut_eq_some_iff.mpr ⟨rfl, hsign⟩
          simp [suffix, hcut, querySet, Kind.isSpecial]

/-- The path is joined to the origin as a target, and what it has after a number sign becomes the
fragment. -/
theorem IsOrigin.exists_join (known : origin.IsOrigin)
    (htarget : RequestTarget.parse path = some target) (hpath : path.toList = '/' :: rest)
    (hsecond : ∀ c ∈ rest.head?, isSlash c = false) :
    ∃ fragment, origin.join path = .ok { origin.atTarget target with fragment } := by
  have tidy := RequestTarget.tidy_of_parse htarget
  obtain ⟨more, tail, htext, hclean, hmore, htail⟩ := exists_cleaned htarget hpath
  have hends := endsPath_queryChars target htail
  have hstart : target.chars ++ more = '/' :: rest := htext.symm.trans hpath
  rw [RequestTarget.chars, List.append_assoc] at hstart hclean
  obtain ⟨front, hfront⟩ : ∃ front, target.path.toList = '/' :: front := by
    cases hpath : target.path.toList with
    | nil =>
        rw [hpath, List.nil_append] at hstart
        have hslash := endsPath_queryChars target hmore '/' (by rw [hstart]; rfl)
        exact absurd hslash (by decide)
    | cons c front => exact ⟨front, by rw [hpath] at hstart; rw [(List.cons.inj hstart).1]⟩
  rw [hfront, List.cons_append] at hstart hclean
  have hnext : ∀ c ∈ (front ++ (target.queryChars ++ tail)).head?, isSlash c = false := by
    cases front with
    | nil => exact fun c hc => isSlash_of_endsPath (hends c hc)
    | cons c front =>
        rintro _ ⟨rfl⟩
        exact hsecond c (by rw [← (List.cons.inj hstart).2]; rfl)
  have hsplit : splitPath (front ++ (target.queryChars ++ tail)) =
      (front, target.queryChars ++ tail) := by
    refine span_append (fun c hmem => ?_) (by simpa using hends)
    have hc := tidy.path c (hfront ▸ List.mem_cons_of_mem _ hmem)
    rw [(RequestTarget.of_isPathChar hc).2]
    rfl
  refine ⟨(suffix .web (target.queryChars ++ tail)).2, ?_⟩
  rw [join_rooted known.web known.rooted hclean hnext, hsplit, atTarget, hfront,
    ← query_suffix tidy htail, withSuffix]
  simp only [known.web]
  rfl

end Url

theorem Settings.isOrigin_originUrl (horigin : settings.originUrl = .ok origin) :
    origin.IsOrigin := by
  obtain ⟨hparse, hweb, hslash⟩ := of_originUrl horigin
  exact ⟨hweb, Url.isRootless_of_parse hparse hweb, Url.firm_of_parse hparse hweb, hslash⟩

/-- A fragment does not tell keys apart. -/
theorem Store.Key.new_fragment {method : String} (hrooted : url.isRootless = false)
    (fragment : Option String) : Store.Key.new method { url with fragment } = .new method url := by
  have hsame : { url with fragment }.isRootless = false := hrooted
  rw [Store.Key.new, Store.Key.new, Url.withoutFragment_eq hrooted, Url.withoutFragment_eq hsame]

/-! ### Requests -/

namespace Server

open Store (Key)

variable {incoming : Incoming} {request : Request} {text : String}

theorem of_toRequest (hrequest : incoming.toRequest? origin = some request) :
    request =
      { Request.new incoming.method
          ((origin.setPath incoming.target.path).setQuery incoming.target.query) with
        accept := incoming.headerText? "accept"
        headers := Http.received incoming.headers
        body := incoming.body } := by
  unfold Incoming.toRequest? at hrequest
  split at hrequest
  · cases hrequest
  · exact (Option.some.inj hrequest).symm

theorem url_of_toRequest (known : origin.IsOrigin) (tidy : incoming.target.Tidy)
    (hrequest : incoming.toRequest? origin = some request) :
    request.url = origin.atTarget incoming.target := by
  rw [of_toRequest hrequest]
  exact known.setQuery_setPath tidy

/-- **No request leaves the origin.** Whatever form its target has and whatever that target names, a
request leads to the scheme, user, host and port of the origin, and so does its text when it is read
again. Its query is the one of the target, even where the origin has one. -/
theorem place_toRequest (horigin : settings.originUrl = .ok origin)
    (htarget : RequestTarget.parse text = some incoming.target)
    (hrequest : incoming.toRequest? origin = some request) :
    request.url.place = origin.place ∧
      request.url.query =
        incoming.target.query.map (fun query => Percent.encode Percent.specialQuery query.toList) ∧
      (Url.parse request.url.text).map Url.place = (Url.parse origin.text).map Url.place := by
  have known := Settings.isOrigin_originUrl horigin
  rw [url_of_toRequest known (RequestTarget.tidy_of_parse htarget) hrequest]
  refine ⟨rfl, rfl, ?_⟩
  obtain ⟨rest, hrest⟩ := Url.exists_text_pathAfterAuthority incoming.target.path.toList
  have hslash : origin.path.text.toList = ['/'] := by
    rw [known.slash]
    rfl
  exact Url.place_parse_text known.web known.firm rfl hslash hrest

namespace Porch

/-- Its origin has a query and a fragment. -/
def porch : Agent where
  number := 0
  settings := { Settings.default with origin := "http://user:word@[::1]:8000?a=1#top" }
  origin := ⟨"http", "user", some "word", some (.ipv6 [0, 0, 0, 0, 0, 0, 0, 1]), some 8000,
    .segments [""], some "a=1", some "top"⟩

theorem originUrl_porch : porch.settings.originUrl = .ok porch.origin := by decide

/-- The target names another host, and so does a header. -/
def intruder : Incoming where
  method := "POST"
  target := ⟨"/..%5C//@other.example.net", some "x='1'"⟩
  headers := [("host", "other.example.net".toUTF8.toList)]
  body := "hello".toUTF8

def rewritten : Url :=
  { porch.origin with
    path := .segments ["..%5C", "", "@other.example.net"]
    query := some "x=%271%27" }

theorem toRequest_intruder :
    (intruder.toRequest? porch.origin).map Request.url = some rewritten := by
  decide +kernel

theorem place_intruder : rewritten.place = porch.origin.place ∧ rewritten.query = some "x=%271%27" ∧
    (Url.parse rewritten.text).map Url.place = (Url.parse porch.origin.text).map Url.place := by
  obtain ⟨request, hrequest, hurl⟩ := Option.map_eq_some_iff.mp toRequest_intruder
  have htarget : RequestTarget.parse
      "http://other.example.net/..%5C//@other.example.net?x='1'" = some intruder.target := by
    decide +kernel
  have stays := place_toRequest originUrl_porch htarget hrequest
  rw [hurl] at stays
  exact ⟨stays.1, stays.2.1.trans (by decide +kernel), stays.2.2⟩

end Porch

/-- **What is kept under a path is found by requests for it.** A path of the manifest that is also
the target of a GET is joined to the origin, the GET is read against it, and all that precaching
writes for the one is under the key of the other. -/
theorem key_toRequest (horigin : settings.originUrl = .ok origin)
    (htarget : RequestTarget.parse path = some incoming.target) (hpath : path.toList = '/' :: rest)
    (hsecond : ∀ c ∈ rest.head?, Url.isSlash c = false) (hmethod : incoming.method = "GET")
    (hbody : incoming.body.size ≤ maxInterceptedBody) :
    ∃ url request, origin.join path = .ok url ∧ incoming.toRequest? origin = some request ∧
      Key.ofRequest request = Key.ofRequest (.get url) ∧
      ∀ store, (Precache.entry store (.get url)).Asks fun op =>
        ∀ name key response, op = .storage (.put name key response) →
          key = Key.ofRequest request := by
  have known := Settings.isOrigin_originUrl horigin
  obtain ⟨fragment, hjoin⟩ := known.exists_join htarget hpath hsecond
  obtain ⟨request, hrequest⟩ : ∃ request, incoming.toRequest? origin = some request := by
    unfold Incoming.toRequest?
    rw [if_neg fun hlong => absurd hlong.2 (Nat.not_lt.mpr hbody)]
    exact ⟨_, rfl⟩
  have hsame : request.method = (Request.new "GET" origin).method := by
    rw [of_toRequest hrequest, hmethod]
    rfl
  have hkey : Key.ofRequest request =
      Key.ofRequest (.get { origin.atTarget incoming.target with fragment }) :=
    calc Key.ofRequest request = Key.new "GET".toUpper (origin.atTarget incoming.target) := by
          rw [Key.ofRequest, hsame,
            url_of_toRequest known (RequestTarget.tidy_of_parse htarget) hrequest]
          rfl
      _ = Key.new "GET".toUpper { origin.atTarget incoming.target with fragment } :=
          (Key.new_fragment Url.isRootless_atTarget fragment).symm
  refine ⟨_, request, hjoin, hrequest, hkey, fun store => Precache.asks_entry ?_ ?_⟩
  · intro name key response hfetch
    cases hfetch
  · rintro response - - _ _ _ ⟨⟩
    exact hkey.symm

namespace Porch

/-- What is written below a path comes up in its URL in other characters, or not at all. -/
def visitor : Incoming where
  method := "GET"
  target := ⟨"/a\\.%2e/é\"b", some "q='x'"⟩
  headers := []
  body := .empty

theorem found_visitor : ∃ url request, porch.origin.join "/a\\.%2e/é\"b?q='x'#top" = .ok url ∧
    visitor.toRequest? porch.origin = some request ∧
      Key.ofRequest request = Key.ofRequest (.get url) ∧
        (Key.ofRequest request).url = "http://user:word@[::1]:8000/%C3%A9%22b?q=%27x%27" := by
  have htarget : RequestTarget.parse "/a\\.%2e/é\"b?q='x'#top" = some visitor.target := by
    decide +kernel
  have hpath : "/a\\.%2e/é\"b?q='x'#top".toList = '/' :: 'a' :: "\\.%2e/é\"b?q='x'#top".toList := by
    decide +kernel
  have hsecond : Url.isSlash 'a' = false := by decide
  obtain ⟨url, request, hjoin, hrequest, hkey, -⟩ :=
    key_toRequest originUrl_porch htarget hpath (by simpa using hsecond) rfl (by decide +kernel)
  refine ⟨url, request, hjoin, hrequest, hkey, ?_⟩
  rw [of_toRequest hrequest]
  decide +kernel

end Porch

end Server

end OfflineAgent
