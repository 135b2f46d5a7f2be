import OfflineAgent.Proofs.Url.Plain

/-!
# What every URL that is read keeps to

A URL is put together from parts in a few ways only: after an authority, after a scheme alone, as a
file, or from the URL that it is relative to. What these ways establish and keep holds of all URLs
that are read.
-/

namespace OfflineAgent.Url

variable {url base : Url} {scheme : String} {input : List Char} {holds : Url → Prop}

/-! ### Outcomes -/

/-- A value, if there is one, is such. -/
def Gives {α : Type} (holds : α → Prop) (outcome : Except Fault α) : Prop :=
  ∀ value, outcome = .ok value → holds value

theorem gives_ok {α : Type} {holds : α → Prop} {value : α} (h : holds value) :
    Gives holds (.ok value) := by
  rintro _ hsame
  obtain rfl := Except.ok.inj hsame
  exact h

theorem gives_error {α : Type} {holds : α → Prop} {fault : Fault} :
    Gives holds (.error fault) := nofun

theorem Gives.bind {α β : Type} {holds : α → Prop} {more : β → Prop} {outcome : Except Fault α}
    {next : α → Except Fault β} (first : Gives holds outcome)
    (rest : ∀ value, holds value → Gives more (next value)) : Gives more (outcome >>= next) := by
  cases outcome with
  | error fault => exact gives_error
  | ok value => exact rest value (first value rfl)

theorem gives_guard {α β : Type} {holds : α → Prop} {condition : Prop} [Decidable condition]
    {fault : Fault} {next : β → Except Fault α} {rest : Except Fault α} (h : Gives holds rest) :
    Gives holds (if condition then throw fault >>= next else rest) := by
  split
  · exact gives_error
  · exact h

/-! ### Segments -/

section

variable {kept : String → Prop} {kind : Kind} {done segments : List String}

theorem forall_mem_shorten (hsegments : ∀ segment ∈ segments, kept segment) :
    ∀ segment ∈ shorten segments, kept segment := by
  unfold shorten
  split
  · split
    · exact hsegments
    · exact fun segment hmem => hsegments segment (List.mem_of_mem_dropLast hmem)
  · exact fun _ hmem => absurd hmem List.not_mem_nil

theorem forall_mem_resolve {pieces : List (List Char)} (hempty : kept "")
    (hpieces : ∀ piece ∈ pieces, isDot piece = false → ∀ isFirst, kept (segment kind isFirst piece))
    (hdone : ∀ segment ∈ done, kept segment) :
    ∀ segment ∈ resolve kind done pieces, kept segment := by
  have hadd {done : List String} {text : String} (hdone : ∀ segment ∈ done, kept segment)
      (htext : kept text) : ∀ segment ∈ done ++ [text], kept segment := by
    intro segment hmem
    obtain hold | hnew := List.mem_append.mp hmem
    · exact hdone segment hold
    · obtain rfl := List.mem_singleton.mp hnew
      exact htext
  fun_induction resolve kind done pieces with
  | case1 done => exact hdone
  | case2 done last hdouble => exact hadd (forall_mem_shorten hdone) hempty
  | case3 done last hdouble hdot => exact hadd hdone hempty
  | case4 done last hdouble hdot =>
      exact hadd hdone (hpieces last List.mem_cons_self (Bool.eq_false_iff.mpr hdot) _)
  | case5 done piece rest hrest hdouble ih =>
      exact ih (fun piece hmem => hpieces piece (List.mem_cons_of_mem _ hmem))
        (forall_mem_shorten hdone)
  | case6 done piece rest hrest hdouble hdot ih =>
      exact ih (fun piece hmem => hpieces piece (List.mem_cons_of_mem _ hmem)) hdone
  | case7 done piece rest hrest hdouble hdot ih =>
      refine ih (fun piece hmem => hpieces piece (List.mem_cons_of_mem _ hmem)) (hadd hdone ?_)
      exact hpieces piece List.mem_cons_self (Bool.eq_false_iff.mpr hdot) _

theorem resolve_ne_nil {kind : Kind} {done : List String} {pieces : List (List Char)}
    (hpieces : pieces ≠ []) : resolve kind done pieces ≠ [] := by
  fun_induction resolve kind done pieces with
  | case1 done => exact absurd rfl hpieces
  | case2 done last hdouble => exact List.append_ne_nil_of_right_ne_nil _ (List.cons_ne_nil _ _)
  | case3 done last hdouble hdot =>
      exact List.append_ne_nil_of_right_ne_nil _ (List.cons_ne_nil _ _)
  | case4 done last hdouble hdot =>
      exact List.append_ne_nil_of_right_ne_nil _ (List.cons_ne_nil _ _)
  | case5 done piece rest hrest hdouble ih => exact ih hrest
  | case6 done piece rest hrest hdouble hdot ih => exact ih hrest
  | case7 done piece rest hrest hdouble hdot ih => exact ih hrest

theorem forall_mem_trimEmpty (hsegments : ∀ segment ∈ segments, kept segment) :
    ∀ segment ∈ trimEmpty segments, kept segment := by
  fun_induction trimEmpty segments with
  | case1 next rest ih =>
      exact ih fun segment hmem => hsegments segment (List.mem_cons_of_mem _ hmem)
  | case2 segments hother => exact hsegments

theorem trimEmpty_ne_nil (hsegments : segments ≠ []) : trimEmpty segments ≠ [] := by
  fun_induction trimEmpty segments with
  | case1 next rest ih => exact ih (List.cons_ne_nil _ _)
  | case2 segments hother => exact hsegments

/-- A path has the segments it starts with, empty ones, and those that are read. -/
theorem exists_pathFrom {text : List Char} (hempty : kept "")
    (hpieces : ∀ piece : List Char, (∀ c ∈ piece, kind.isSeparator c = false) →
      isDot piece = false → ∀ isFirst, kept (segment kind isFirst piece))
    (hdone : ∀ segment ∈ done, kept segment) :
    ∃ list, pathFrom kind done text = .segments list ∧ list ≠ [] ∧
      ∀ segment ∈ list, kept segment := by
  have hresolved : ∀ segment ∈ resolve kind done (Text.splitWhere kind.isSeparator text),
      kept segment :=
    forall_mem_resolve hempty
      (fun piece hmem => hpieces piece (Text.not_isSeparator_of_mem_splitWhere hmem)) hdone
  have hne : resolve kind done (Text.splitWhere kind.isSeparator text) ≠ [] :=
    resolve_ne_nil (Text.splitWhere_ne_nil _ _)
  unfold pathFrom
  dsimp only
  split
  · exact ⟨_, rfl, trimEmpty_ne_nil hne, forall_mem_trimEmpty hresolved⟩
  · exact ⟨_, rfl, hne, hresolved⟩

end

/-! ### Parts as they are read -/

theorem isAlpha_eq (c : Char) : isAlpha c = c.isAlpha := by
  simp [isAlpha, Char.isAlpha, Char.isUpper, Char.isLower, Char.le_def, Bool.or_comm]

theorem isSchemeChar_toLower {c : Char} (hc : isSchemeChar c = true) :
    isSchemeChar c.toLower = true := by
  by_cases hupper : c.isUpper = true
  · have hlower : c.toLower.isLower = true := by
      rw [Char.isLower_toLower_eq_isAlpha, Char.isAlpha, hupper, Bool.true_or]
    rw [isSchemeChar, isAlpha_eq, Char.isAlpha, hlower]
    simp
  · rwa [Char.toLower_eq_of_not_isUpper (Bool.not_eq_true _ ▸ hupper)]

theorem isSchemeChar_of_splitScheme {rest : List Char}
    (hsplit : splitScheme input = some (scheme, rest)) :
    ∀ c ∈ scheme.toList, isSchemeChar c = true := by
  rw [splitScheme, List.span_eq_takeWhile_dropWhile] at hsplit
  split at hsplit
  · rename_i c front rest hspan
    obtain ⟨-, hsome⟩ := Option.ite_none_right_eq_some.mp hsplit
    obtain ⟨rfl, -⟩ := Prod.mk.inj (Option.some.inj hsome)
    obtain ⟨hfront, -⟩ := Prod.mk.inj hspan
    rw [String.toList_ofList]
    intro d hmem
    obtain ⟨letter, hletter, rfl⟩ := List.mem_map.mp hmem
    rw [← hfront] at hletter
    exact isSchemeChar_toLower (List.mem_takeWhile_imp hletter)
  · cases hsplit

/-- User name and password of an authority. -/
def IsUserinfo (credentials : String × Option String) : Prop :=
  credentials = ("", none) ∨ ∃ text, credentials = credentialsOf text

/-- A host by the rules of the scheme. -/
def IsHost (scheme : String) (host : Host) : Prop :=
  ((Kind.ofScheme scheme).isSpecial = true ∧ ∃ text, Host.parse text = .ok host) ∨
    (Kind.ofScheme scheme).isSpecial = false ∧ ∃ text, Host.parseOpen text = .ok host

/-- The URL after an authority, without query and fragment. -/
def afterAuthority (scheme : String) (credentials : String × Option String) (host : Host)
    (port : Option Nat) (path : List Char) : Url where
  scheme := scheme
  username := credentials.1
  password := credentials.2
  host := some host
  port := port
  path := pathAfterAuthority (.ofScheme scheme) path
  query := none
  fragment := none

/-- A URL without authority, query and fragment. -/
def afterScheme (scheme : String) (path : Path) : Url where
  scheme := scheme
  username := ""
  password := none
  host := none
  port := none
  path := path
  query := none
  fragment := none

theorem gives_afterAuthority
    (h : ∀ credentials host port path tail, IsUserinfo credentials → IsHost scheme host →
      holds ((afterAuthority scheme credentials host port path).withSuffix tail)) :
    Gives holds (parseAuthority scheme input) := by
  have hport (outcome : Except Fault (Option Nat × List Char)) : Gives (fun _ => True) outcome :=
    fun _ _ => trivial
  have hdone {credentials : String × Option String} (hcredentials : IsUserinfo credentials)
      (host : Host) (port : Option Nat) (path tail : List Char) (hhost : IsHost scheme host) :
      Gives holds (pure ((afterAuthority scheme credentials host port path).withSuffix tail)) :=
    gives_ok (h credentials host port path tail hcredentials hhost)
  unfold parseAuthority
  dsimp only
  refine gives_guard (gives_guard ?_)
  split
  on_goal 1 =>
    rename_i hspecial
    have hparse (text : List Char) : Gives (IsHost scheme) (Host.parse text) :=
      fun _ hhost => .inl ⟨hspecial, text, hhost⟩
    refine (hparse _).bind fun host hhost => gives_guard ?_
  on_goal 2 =>
    rename_i hordinary
    have hparse (text : List Char) : Gives (IsHost scheme) (Host.parseOpen text) :=
      fun _ hhost => .inr ⟨Bool.eq_false_iff.mpr hordinary, text, hhost⟩
    refine (hparse _).bind fun host hhost => gives_guard ?_
  -- Hosts of either kind are followed by the same port and path.
  all_goals
    split
    · refine (hport _).bind fun port _ => gives_guard (hdone ?_ host _ _ _ hhost)
      split
      · exact .inr ⟨_, rfl⟩
      · exact .inl rfl
    · refine gives_guard (hdone ?_ host _ _ _ hhost)
      split
      · exact .inr ⟨_, rfl⟩
      · exact .inl rfl

/-- A host of a file URL is read, or stands for this machine. -/
def IsFileHost (host : Host) : Prop :=
  host = .named "" ∨ ∃ text, Host.parse text = .ok host

theorem gives_parseFileHost
    (h : ∀ host path tail, IsFileHost host →
      (∃ text, path = pathAfterAuthority .file text ∨ path = pathFrom .file [] text) →
      holds (fileUrl host path tail)) :
    Gives holds (parseFileHost input) := by
  have hdone (host : Host) (hhost : IsFileHost host) (path tail : List Char) :
      Gives holds (pure (fileUrl (if host = .named "localhost" then .named "" else host)
        (pathAfterAuthority .file path) tail)) := by
    refine gives_ok (h _ _ _ ?_ ⟨path, .inl rfl⟩)
    split
    · exact .inl rfl
    · exact hhost
  unfold parseFileHost
  dsimp only
  split
  · exact gives_ok (h _ _ _ (.inl rfl) ⟨_, .inr rfl⟩)
  · split
    · exact hdone _ (.inl rfl) _ _
    · have hhost (text : List Char) : Gives IsFileHost (Host.parse text) :=
        fun _ hparse => .inr ⟨text, hparse⟩
      exact (hhost _).bind fun host hhost => hdone host hhost _ _

/-! ### URLs that are read -/

/-- The URL was read from a text, alone or from another URL, or it is one that was with its query
changed, or its path, where that `may` be. -/
inductive IsReadWhere (may : Url → Prop) : Url → Prop
  | parse {text : String} {url : Url} (hparse : Url.parse text = .ok url) : IsReadWhere may url
  | join {base url : Url} {text : String} (read : IsReadWhere may base)
      (hjoin : base.join text = .ok url) : IsReadWhere may url
  | setPath {url : Url} (read : IsReadWhere may url) (hmay : may url) (text : String) :
      IsReadWhere may (url.setPath text)
  | setQuery {url : Url} (read : IsReadWhere may url) (text : Option String) :
      IsReadWhere may (url.setQuery text)

/-- The path is changed only where it has segments. -/
abbrev IsRead : Url → Prop :=
  IsReadWhere fun url => url.isRootless = false

/-- The path is changed only behind a host. -/
abbrev IsParsed : Url → Prop :=
  IsReadWhere fun url => ∃ host, url.host = some host

theorem IsReadWhere.mono {may may' : Url → Prop} (read : url.IsReadWhere may)
    (hmay : ∀ url, url.IsReadWhere may → may url → may' url) : url.IsReadWhere may' := by
  induction read with
  | parse hparse => exact .parse hparse
  | join _ hjoin ih => exact .join ih hjoin
  | setPath read hold text ih => exact .setPath ih (hmay _ read hold) text
  | setQuery _ text ih => exact .setQuery ih text

/-! ### Invariants -/

/-- A property that is established and kept in all the ways that URLs are put together. -/
structure Invariant (isScheme : String → Prop) (holds : Url → Prop) : Prop where
  named : ∀ {input rest : List Char} {scheme : String},
    splitScheme input = some (scheme, rest) → isScheme scheme
  scheme : ∀ {url : Url}, holds url → isScheme url.scheme
  authority : ∀ {scheme : String} {credentials : String × Option String} {host : Host}
    {port : Option Nat} {path tail : List Char}, isScheme scheme → IsUserinfo credentials →
    IsHost scheme host → holds ((afterAuthority scheme credentials host port path).withSuffix tail)
  rootless : ∀ {scheme : String} {text tail : List Char}, isScheme scheme →
    (∀ c ∈ text, endsPath c = false) → text.head? ≠ some '/' →
    holds ((afterScheme scheme (.rootless (Percent.encode Percent.control text))).withSuffix tail)
  rooted : ∀ {scheme : String} {text tail : List Char}, isScheme scheme →
    holds ((afterScheme scheme (pathFrom .other [] text)).withSuffix tail)
  file : ∀ {host : Host} {path : Path} {tail : List Char}, IsFileHost host →
    (∃ text, path = pathAfterAuthority .file text ∨ path = pathFrom .file [] text) →
    holds (fileUrl host path tail)
  beside : ∀ {base : Url} {host : Host} {segments : List String} {text tail : List Char},
    holds base → base.scheme = "file" → host = .named "" ∨ host = base.host.getD (.named "") →
    (∀ segment ∈ segments, segment ∈ Path.list base.path) →
    holds (fileUrl host (pathFrom .file segments text) tail)
  path : ∀ {base : Url} {segments : List String} {text tail : List Char}, holds base →
    (∀ segment ∈ segments, segment ∈ Path.list base.path) →
    holds ({ base with path := pathFrom (.ofScheme base.scheme) segments text }.withSuffix tail)
  suffix : ∀ {base : Url} {tail : List Char}, holds base →
    holds ({ base with fragment := none }.withSuffix tail)
  fragment : ∀ {base : Url} {text : List Char}, holds base →
    holds { base with fragment := some (fragmentOf text) }
  withoutFragment : ∀ {base : Url}, holds base → holds base.withoutFragment

theorem mem_of_mem_folder {kind : Kind} {segments : List String} {segment : String}
    (hmem : segment ∈ folder kind segments) : segment ∈ segments := by
  unfold folder at hmem
  split at hmem
  · split at hmem
    · exact hmem
    · cases hmem
  · exact List.mem_of_mem_dropLast hmem

theorem endsPath_of_mem_splitPath {c : Char} (hmem : c ∈ (splitPath input).1) :
    endsPath c = false := by
  rw [splitPath, List.span_eq_takeWhile_dropWhile] at hmem
  simpa using List.mem_takeWhile_imp hmem

namespace Invariant

variable {isScheme : String → Prop} (invariant : Invariant isScheme holds)

include invariant

theorem parseAuthority (hscheme : isScheme scheme) : Gives holds (parseAuthority scheme input) :=
  gives_afterAuthority fun _ _ _ _ _ => invariant.authority hscheme

theorem relativeFile {base : Option Url}
    (hbase : ∀ url, base = some url → holds url ∧ url.scheme = "file") :
    holds (parseFile.relative base input) := by
  cases base with
  | none => exact invariant.file (.inl rfl) ⟨_, .inl rfl⟩
  | some base =>
      obtain ⟨hholds, hfile⟩ := hbase base rfl
      have hnone : ∀ segment ∈ ([] : List String), segment ∈ Path.list base.path := nofun
      cases input with
      | nil => exact invariant.withoutFragment hholds
      | cons c rest =>
          unfold parseFile.relative
          dsimp only
          split
          · split
            · exact invariant.file (.inl rfl) ⟨_, .inr rfl⟩
            · split
              · rename_i first hfirst
                split
                · refine invariant.beside hholds hfile (.inl rfl) fun segment hmem => ?_
                  obtain rfl := List.mem_singleton.mp hmem
                  exact List.mem_of_head? hfirst
                · exact invariant.beside hholds hfile (.inr rfl) hnone
              · exact invariant.beside hholds hfile (.inr rfl) hnone
          · split
            · exact invariant.suffix hholds
            · split
              · exact invariant.fragment hholds
              · split
                · exact invariant.file (.inl rfl) ⟨_, .inr rfl⟩
                · rw [show Kind.file = .ofScheme base.scheme by rw [hfile]; decide]
                  exact invariant.path hholds fun _ => mem_of_mem_folder

theorem parseFile {base : Option Url}
    (hbase : ∀ url, base = some url → holds url ∧ url.scheme = "file") :
    Gives holds (parseFile base input) := by
  unfold Url.parseFile
  split
  · split
    · exact gives_parseFileHost fun _ _ _ => invariant.file
    · exact gives_ok (invariant.relativeFile hbase)
  · exact gives_ok (invariant.relativeFile hbase)

theorem parseRelative (hbase : holds base) : Gives holds (parseRelative base input) := by
  have hrooted (rest : List Char) :
      Gives holds (parseRelative.rooted base (.ofScheme base.scheme) rest) :=
    gives_ok (invariant.path hbase nofun)
  unfold Url.parseRelative
  dsimp only
  split
  · exact gives_ok (invariant.withoutFragment hbase)
  · exact gives_ok (invariant.suffix hbase)
  · exact gives_ok (invariant.fragment hbase)
  · exact invariant.parseAuthority (invariant.scheme hbase)
  · split
    · split
      · split
        · exact invariant.parseAuthority (invariant.scheme hbase)
        · exact hrooted _
      · exact hrooted _
    · exact gives_ok (invariant.path hbase fun _ => mem_of_mem_folder)

theorem parseOther (hscheme : isScheme scheme) : Gives holds (parseOther scheme input) := by
  unfold Url.parseOther
  split
  · exact invariant.parseAuthority hscheme
  · rename_i hslashes
    dsimp only
    split
    · exact gives_ok (invariant.rooted hscheme)
    · rename_i hslash
      refine gives_ok (invariant.rootless hscheme ?_ ?_)
      · exact fun c => endsPath_of_mem_splitPath
      · intro hhead
        obtain ⟨rest, hrest⟩ := List.head?_eq_some_iff.mp hhead
        exact hslash rest hrest

theorem parseWithScheme {base : Option Url} (hbase : ∀ url, base = some url → holds url)
    (hscheme : isScheme scheme) : Gives holds (parseWithScheme base scheme input) := by
  unfold Url.parseWithScheme
  split
  · exact invariant.parseOther hscheme
  · refine invariant.parseFile fun url hurl => ?_
    obtain ⟨hsome, hfile⟩ := Option.filter_eq_some_iff.mp hurl
    exact ⟨hbase url hsome, of_decide_eq_true hfile⟩
  · dsimp only
    split
    · split
      · exact invariant.parseRelative (hbase _ rfl)
      · exact invariant.parseAuthority hscheme
    · exact invariant.parseAuthority hscheme

theorem parseInput {base : Option Url} (hbase : ∀ url, base = some url → holds url) :
    Gives holds (parseInput base input) := by
  unfold Url.parseInput
  split
  · rename_i hsplit
    exact invariant.parseWithScheme hbase (invariant.named hsplit)
  · split
    · exact gives_error
    · rename_i url
      have hurl := hbase url rfl
      split
      · exact gives_ok (invariant.fragment hurl)
      · split
        · exact gives_error
        · split
          · rename_i hfile
            refine invariant.parseFile ?_
            rintro _ hsome
            obtain rfl := Option.some.inj hsome
            exact ⟨hurl, hfile⟩
          · exact invariant.parseRelative hurl

theorem parse {text : String} (hparse : parse text = .ok url) : holds url :=
  invariant.parseInput (fun _ hnone => by cases hnone) _ hparse

theorem join (hbase : holds base) {text : String} (hjoin : base.join text = .ok url) :
    holds url := by
  refine invariant.parseInput ?_ _ hjoin
  rintro _ hsome
  obtain rfl := Option.some.inj hsome
  exact hbase

theorem read {may : Url → Prop}
    (hpath : ∀ url, holds url → may url → ∀ text, holds (url.setPath text))
    (hquery : ∀ url, holds url → ∀ text, holds (url.setQuery text)) (read : url.IsReadWhere may) :
    holds url := by
  induction read with
  | parse hparse => exact invariant.parse hparse
  | join _ hjoin ih => exact invariant.join ih hjoin
  | setPath _ hmay text ih => exact hpath _ ih hmay text
  | setQuery _ text ih => exact hquery _ ih text

end Invariant

end OfflineAgent.Url
