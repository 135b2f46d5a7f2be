import OfflineAgent.Proofs.Text.Utf8
import OfflineAgent.Proofs.Url.Addresses
import OfflineAgent.Proofs.Url.Invariants

/-!
# Parts that can be told apart

The parts of a URL that is read hold none of the signs that part them. Its scheme starts with a
small letter, and no segment of its path is a dot, since dots are resolved.
-/

namespace OfflineAgent

namespace Percent

theorem head?_encodeChar (set : Set) (c : Char) :
    (encodeChar set c).head? = some c ∨ (encodeChar set c).head? = some '%' := by
  unfold encodeChar
  split
  · rw [Utf8.toList_toUTF8]
    obtain ⟨b, bytes, hbytes⟩ := List.exists_cons_of_ne_nil (String.utf8EncodeChar_ne_nil (c := c))
    right
    simp [Utf8.bytes, hbytes, encodeByte]
  · exact .inl rfl

theorem head?_encode (set : Set) (c : Char) (rest : List Char) :
    (encode set (c :: rest)).toList.head? = some c ∨
      (encode set (c :: rest)).toList.head? = some '%' := by
  rw [encode, String.toList_ofList, List.flatMap_cons, List.head?_append]
  obtain hhead | hhead := head?_encodeChar set c
  · rw [hhead]
    exact .inl rfl
  · rw [hhead]
    exact .inr rfl

/-- Only a dot is written as one. -/
theorem eq_of_encode_eq_dot {set : Set} {text : List Char} (hsame : encode set text = ".") :
    text = ['.'] := by
  have hlist : text.flatMap (encodeChar set) = ['.'] := by
    rw [← String.toList_ofList (l := text.flatMap (encodeChar set)), ← encode, hsame]
    rfl
  cases text with
  | nil => cases hlist
  | cons c rest =>
      have hlength := congrArg List.length hlist
      have hfirst (d : Char) : 1 ≤ (encodeChar set d).length := by
        obtain hhead | hhead := head?_encodeChar set d <;>
          exact List.length_pos_of_ne_nil (by rintro hnil; rw [hnil] at hhead; cases hhead)
      have hc : c = '.' := by
        have hdot : (encode set (c :: rest)).toList.head? = some '.' := by
          rw [hsame]
          rfl
        obtain hhead | hhead := head?_encode set c rest
        · exact Option.some.inj (hhead.symm.trans hdot)
        · exact absurd (Option.some.inj (hhead.symm.trans hdot)) (by decide)
      subst hc
      cases rest with
      | nil => rfl
      | cons d rest =>
          have hdot := hfirst '.'
          have hd := hfirst d
          simp only [List.flatMap_cons, List.length_append, List.length_singleton] at hlength
          omega

end Percent

/-! ### Signs of the parts -/

/-- The text starts with a small letter. -/
def StartsSmall (text : String) : Prop :=
  ∃ c rest, text.toList = c :: rest ∧ c.isLower = true

theorem StartsSmall.append {first : String} (small : StartsSmall first) (second : String) :
    StartsSmall (first ++ second) := by
  obtain ⟨c, rest, hfirst, hc⟩ := small
  refine ⟨c, rest ++ second.toList, ?_, hc⟩
  rw [String.toList_append, hfirst, List.cons_append]

structure IsScheme (scheme : String) : Prop where
  small : StartsSmall scheme
  unmarked : Unmarked scheme.toList

/-- The segment holds no sign that ends it, and is none that dots are resolved to. -/
structure IsSegment (segment : String) : Prop where
  slash : '/' ∉ segment.toList
  question : '?' ∉ segment.toList
  ne_dot : segment ≠ "."

/-- A path of segments may be left out after a host. One without a host is never left out, and only
there a path may start otherwise than with a slash. -/
def Path.Orderly (hasHost : Bool) : Path → Prop
  | .rootless text => hasHost = false ∧ text.toList.head? ≠ some '/' ∧ '?' ∉ text.toList
  | .segments list => (list = [] → hasHost = true) ∧ ∀ segment ∈ list, IsSegment segment

theorem Path.Orderly.exists_list {path : Path} (orderly : path.Orderly true) :
    ∃ list, path = .segments list := by
  cases path with
  | rootless text => cases orderly.1
  | segments list => exact ⟨list, rfl⟩

namespace Url

/-- The parts of the URL can be told apart. -/
structure Orderly (url : Url) : Prop where
  scheme : IsScheme url.scheme
  username : Unmarked url.username.toList
  password : ∀ word, url.password = some word → Unmarked word.toList
  host : ∀ host, url.host = some host → host.Orderly (Kind.ofScheme url.scheme).isSpecial
  bare : url.host = none → url.username = "" ∧ url.password = none ∧ url.port = none
  path : url.path.Orderly url.host.isSome

variable {url base : Url} {scheme : String} {kind : Kind} {done : List String} {text : List Char}

theorem Orderly.path_of_some (orderly : url.Orderly) {host : Host} (hhost : url.host = some host) :
    url.path.Orderly true := by
  have hpath := orderly.path
  rwa [hhost] at hpath

theorem Orderly.path_of_none (orderly : url.Orderly) (hhost : url.host = none) :
    url.path.Orderly false := by
  have hpath := orderly.path
  rwa [hhost] at hpath

/-! ### What is read is orderly -/

theorem isScheme_of_splitScheme {input rest : List Char}
    (hsplit : splitScheme input = some (scheme, rest)) : IsScheme scheme := by
  have hchars := isSchemeChar_of_splitScheme hsplit
  constructor
  · unfold splitScheme at hsplit
    split at hsplit
    · rename_i c front after hspan
      obtain ⟨halpha, hsome⟩ := Option.ite_none_right_eq_some.mp hsplit
      obtain ⟨rfl, -⟩ := Prod.mk.inj (Option.some.inj hsome)
      refine ⟨c.toLower, front.map Char.toLower, ?_, ?_⟩
      · rw [String.toList_ofList, List.map_cons]
      · rw [Char.isLower_toLower_eq_isAlpha, ← isAlpha_eq]
        exact halpha
    · cases hsplit
  · intro c hmem
    have hc := hchars c hmem
    refine Bool.eq_false_iff.mpr fun hmark => ?_
    obtain rfl | rfl | rfl | rfl | rfl | rfl | rfl := isDelimiter_iff.mp hmark <;> cases hc

theorem isSegment_segment {piece : List Char} {isFirst : Bool}
    (hpiece : ∀ c ∈ piece, kind.isSeparator c = false) (hdot : isDot piece = false) :
    IsSegment (segment kind isFirst piece) := by
  have hslash : '/' ∉ piece := by
    intro hmem
    have hkept := hpiece '/' hmem
    simp [Kind.isSeparator] at hkept
  have hencoded : IsSegment (Percent.encode Percent.path piece) := by
    refine ⟨Percent.not_mem_encode (by decide) (.inr hslash),
      Percent.not_mem_encode (by decide) (.inl (by decide)), fun hsame => ?_⟩
    obtain rfl := Percent.eq_of_encode_eq_dot hsame
    exact absurd hdot (by decide)
  unfold segment
  split
  · split
    · rename_i c mark hdrive
      simp only [isDrive, Bool.and_eq_true] at hdrive
      have hletter {d : Char} (hd : isAlpha d = false) : d ≠ c := by
        rintro rfl
        rw [hdrive.1] at hd
        cases hd
      refine ⟨?_, ?_, fun hsame => ?_⟩
      · simp [hletter (show isAlpha '/' = false by decide)]
      · simp [hletter (show isAlpha '?' = false by decide)]
      · have hlength := congrArg (fun text : String => text.toList.length) hsame
        simp at hlength
    · exact hencoded
  · exact hencoded

theorem isSegment_empty : IsSegment "" := by
  constructor <;> decide

theorem orderly_pathFrom (hasHost : Bool) (hdone : ∀ segment ∈ done, IsSegment segment) :
    (pathFrom kind done text).Orderly hasHost := by
  obtain ⟨list, hpath, hne, hlist⟩ : ∃ list, pathFrom kind done text = .segments list ∧ list ≠ [] ∧
      ∀ segment ∈ list, IsSegment segment :=
    exists_pathFrom isSegment_empty (fun _ hpiece hdot _ => isSegment_segment hpiece hdot) hdone
  rw [hpath]
  exact ⟨fun hnil => absurd hnil hne, hlist⟩

theorem orderly_pathAfterAuthority : (pathAfterAuthority kind text).Orderly true := by
  unfold pathAfterAuthority
  split
  · split
    · exact ⟨fun _ => rfl, List.forall_mem_singleton.mpr isSegment_empty⟩
    · exact ⟨fun _ => rfl, nofun⟩
  · exact orderly_pathFrom true nofun

theorem isSegment_of_mem_list {path : Path} {hasHost : Bool} (orderly : path.Orderly hasHost) :
    ∀ segment ∈ Path.list path, IsSegment segment := by
  cases path with
  | rootless text => exact nofun
  | segments list => exact orderly.2

theorem Orderly.withSuffix (orderly : url.Orderly) (tail : List Char) :
    (url.withSuffix tail).Orderly :=
  { orderly with }

theorem Orderly.withFragment (orderly : url.Orderly) (fragment : Option String) :
    { url with fragment }.Orderly :=
  { orderly with }

theorem Orderly.withPath (orderly : url.Orderly) {path : Path}
    (hpath : path.Orderly url.host.isSome) : { url with path }.Orderly :=
  { orderly with path := hpath }

theorem Orderly.dropTrailingBlanks (orderly : url.Orderly) : url.dropTrailingBlanks.Orderly := by
  unfold Url.dropTrailingBlanks
  split
  · rename_i text hpath hquery hfragment
    refine { orderly with path := ?_ }
    have hold := orderly.path
    rw [hpath] at hold
    obtain ⟨hhost, hhead, hquestion⟩ := hold
    have hfront : (text.toList.reverse.dropWhile (· = ' ')).reverse <+: text.toList :=
      List.rdropWhile_prefix _ _
    refine ⟨hhost, ?_, ?_⟩
    · rw [String.toList_ofList]
      intro hslash
      obtain ⟨rest, hrest⟩ := List.head?_eq_some_iff.mp hslash
      rw [hrest] at hfront
      obtain ⟨tail, htail⟩ := hfront
      rw [← htail] at hhead
      exact hhead rfl
    · rw [String.toList_ofList]
      exact fun hmem => hquestion (hfront.subset hmem)
  · exact orderly

theorem Orderly.withoutFragment (orderly : url.Orderly) : url.withoutFragment.Orderly := by
  unfold Url.withoutFragment
  split
  · exact orderly
  · exact (orderly.withFragment none).dropTrailingBlanks

theorem isScheme_file : IsScheme "file" :=
  ⟨⟨'f', ['i', 'l', 'e'], by decide, by decide⟩, by decide⟩

theorem orderly_fileUrl {host : Host} {path : Path} (hhost : host.Orderly true)
    (hpath : path.Orderly true) (tail : List Char) : (fileUrl host path tail).Orderly := by
  refine Orderly.withSuffix ?_ tail
  constructor
  case scheme => exact isScheme_file
  case username => exact unmarked_nil
  case password =>
    intro word hword
    cases hword
  case host =>
    intro found hfound
    obtain rfl := Option.some.inj hfound
    exact hhost
  case bare =>
    intro hnone
    cases hnone
  case path => exact hpath

theorem IsFileHost.orderly {host : Host} (hhost : IsFileHost host) : host.Orderly true := by
  obtain rfl | ⟨text, hparse⟩ := hhost
  · exact Host.orderly_empty true
  · exact Host.orderly_parse hparse

theorem IsHost.orderly {host : Host} (hhost : IsHost scheme host) :
    host.Orderly (Kind.ofScheme scheme).isSpecial := by
  obtain ⟨hspecial, text, hparse⟩ | ⟨hordinary, text, hparse⟩ := hhost
  · rw [hspecial]
    exact Host.orderly_parse hparse
  · rw [hordinary]
    exact Host.orderly_parseOpen hparse

theorem IsUserinfo.unmarked {credentials : String × Option String}
    (hcredentials : IsUserinfo credentials) : Unmarked credentials.1.toList ∧
      ∀ word, credentials.2 = some word → Unmarked word.toList := by
  obtain rfl | ⟨text, rfl⟩ := hcredentials
  · exact ⟨unmarked_nil, nofun⟩
  · unfold credentialsOf
    split
    · exact ⟨Percent.unmarked_userinfo _, nofun⟩
    · exact ⟨Percent.unmarked_userinfo _, nofun⟩
    · refine ⟨Percent.unmarked_userinfo _, fun word hword => ?_⟩
      obtain rfl := Option.some.inj hword
      exact Percent.unmarked_userinfo _

theorem orderly_afterScheme {path : Path} (hscheme : IsScheme scheme)
    (hpath : path.Orderly false) : (afterScheme scheme path).Orderly where
  scheme := hscheme
  username := unmarked_nil
  password := nofun
  host := nofun
  bare _ := ⟨rfl, rfl, rfl⟩
  path := hpath

theorem orderly_afterAuthority {credentials : String × Option String} {host : Host}
    {port : Option Nat} (hscheme : IsScheme scheme) (hcredentials : IsUserinfo credentials)
    (hhost : IsHost scheme host) : (afterAuthority scheme credentials host port text).Orderly where
  scheme := hscheme
  username := hcredentials.unmarked.1
  password := hcredentials.unmarked.2
  host := by
    intro found hfound
    obtain rfl := Option.some.inj hfound
    exact hhost.orderly
  bare := nofun
  path := orderly_pathAfterAuthority

theorem orderly_invariant : Invariant IsScheme Orderly where
  named := isScheme_of_splitScheme
  scheme := Orderly.scheme
  authority hscheme hcredentials hhost :=
    (orderly_afterAuthority hscheme hcredentials hhost).withSuffix _
  rootless {scheme text tail} hscheme htext hhead := by
    have hquestion : '?' ∉ text := fun hmem => absurd (htext '?' hmem) (by decide)
    have hpath : (Path.rootless (Percent.encode Percent.control text)).Orderly false := by
      refine ⟨rfl, ?_, Percent.not_mem_encode (by decide) (.inr hquestion)⟩
      cases text with
      | nil => nofun
      | cons c rest =>
          obtain hfirst | hfirst := Percent.head?_encode Percent.control c rest
          · rw [hfirst]
            exact hhead
          · rw [hfirst]
            decide
    exact (orderly_afterScheme hscheme hpath).withSuffix tail
  rooted {scheme text tail} hscheme := by
    have hpath : (pathFrom .other [] text).Orderly false := orderly_pathFrom false nofun
    exact (orderly_afterScheme hscheme hpath).withSuffix tail
  file hhost hpath := by
    refine orderly_fileUrl hhost.orderly ?_ _
    obtain ⟨text, rfl | rfl⟩ := hpath
    · exact orderly_pathAfterAuthority
    · exact orderly_pathFrom true nofun
  beside {base host segments text tail} orderly hfile hhost hsegments := by
    refine orderly_fileUrl ?_ (orderly_pathFrom true fun segment hmem => ?_) _
    · obtain rfl | rfl := hhost
      · exact Host.orderly_empty true
      · cases hfound : base.host with
        | none => exact Host.orderly_empty true
        | some host =>
            have hhost := orderly.host host hfound
            rwa [hfile] at hhost
    · exact isSegment_of_mem_list orderly.path segment (hsegments segment hmem)
  path {base segments text tail} orderly hsegments := by
    refine (orderly.withPath (orderly_pathFrom _ fun segment hmem => ?_)).withSuffix tail
    exact isSegment_of_mem_list orderly.path segment (hsegments segment hmem)
  suffix orderly := (orderly.withFragment none).withSuffix _
  fragment orderly := orderly.withFragment _
  withoutFragment := Orderly.withoutFragment

end Url

end OfflineAgent
