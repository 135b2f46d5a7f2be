import OfflineAgent.Agent.Classify
import OfflineAgent.Proofs.Settings.Values
import OfflineAgent.Proofs.Text.Split

/-!
# What the class of a request hangs on

A GET to a web server is told apart by its path and its hint about HTML alone, and of the settings
only the static extensions and the starts of API paths count. Letter case from A to Z makes no
difference in an extension, be it that of a path or one in a file, and neither do the dots before
it, the order and repeats.
-/

namespace OfflineAgent

open Text (SameButCase)

/-! ### Extensions in a file -/

namespace Settings

/-- The same extension, with any number of dots before it and up to letter case. -/
def SameExtension (text other : String) : Prop :=
  ∃ m n core core', text.toList = List.replicate m '.' ++ core ∧
    other.toList = List.replicate n '.' ++ core' ∧ SameButCase core core'

/-- The lists name the same extensions, in any order and any number of times. -/
def SameExtensions (texts others : List String) : Prop :=
  (∀ text ∈ texts, ∃ other ∈ others, SameExtension text other) ∧
    ∀ other ∈ others, ∃ text ∈ texts, SameExtension text other

/-- The static extensions as a file lists them, or those by default. -/
def extensionsIn (text : List Char) : List String :=
  (writtenFor? text .staticExtensions).getD default.staticExtensions

/-- The starts of API paths as a file lists them, or those by default. -/
def apiPrefixesIn (text : List Char) : List String :=
  (writtenFor? text .apiPrefixes).getD default.apiPrefixes

section

variable {text other : String} {texts set : List String} {file : List Char} {settings : Settings}

theorem mem_insertSorted : text ∈ insertSorted other set ↔ text = other ∨ text ∈ set := by
  induction set with
  | nil => simp [insertSorted]
  | cons head rest ih =>
      unfold insertSorted
      split
      · simp
      · split
        · rename_i hsame
          simp [hsame]
        · simp only [List.mem_cons, ih]
          exact or_left_comm

theorem mem_extensionSet :
    text ∈ extensionSet texts ↔ ∃ listed ∈ texts, extension listed = text := by
  have hfold (set : List String) :
      text ∈ texts.foldl (fun set text => insertSorted (extension text) set) set ↔
        (∃ listed ∈ texts, extension listed = text) ∨ text ∈ set := by
    induction texts generalizing set with
    | nil => simp
    | cons first rest ih =>
        rw [List.foldl_cons, ih, mem_insertSorted, eq_comm (a := text)]
        simp only [List.mem_cons, exists_eq_or_imp, or_assoc]
        exact or_left_comm
  rw [extensionSet, hfold [], or_iff_left List.not_mem_nil]

theorem extension_replicate (m : Nat) (core : List Char) (htext : text.toList =
    List.replicate m '.' ++ core) :
    extension text = Text.lower (String.ofList (core.dropWhile (· = '.'))) := by
  have hdrop : (List.replicate m '.' ++ core).dropWhile (· = '.') =
      core.dropWhile (· = '.') :=
    List.dropWhile_append_of_pos fun c hc => by simpa using List.eq_of_mem_replicate hc
  rw [extension, htext, hdrop]

theorem SameExtension.extension_eq (same : SameExtension text other) :
    extension text = extension other := by
  obtain ⟨m, n, core, core', htext, hother, hcore⟩ := same
  rw [extension_replicate m core htext, extension_replicate n core' hother]
  exact hcore.dropDots.lower_eq

theorem extension_default : ∀ text ∈ default.staticExtensions, extension text = text := by
  decide +kernel

theorem mem_staticExtensions (hsettings : ofYaml file = .ok settings) :
    text ∈ settings.staticExtensions ↔ ∃ listed ∈ extensionsIn file, extension listed = text := by
  rw [readFrom_staticExtensions.ofYaml hsettings, extensionsIn]
  cases writtenFor? file .staticExtensions with
  | some listed => exact mem_extensionSet
  | none =>
      constructor
      · intro hmem
        exact ⟨text, hmem, extension_default text hmem⟩
      · rintro ⟨listed, hmem, rfl⟩
        rw [extension_default listed hmem]
        exact hmem

theorem apiPrefixes_eq (hsettings : ofYaml file = .ok settings) :
    settings.apiPrefixes = apiPrefixesIn file := by
  rw [readFrom_apiPrefixes.ofYaml hsettings, apiPrefixesIn, Option.map_id]
  rfl

end

end Settings

/-! ### Paths and hints -/

namespace RequestClass

/-- The same path up to letter case in the extension of its last segment. -/
def SamePath (path other : String) : Prop :=
  path = other ∨ ∃ front extension extension',
    path.toList = front ++ '.' :: extension ∧ other.toList = front ++ '.' :: extension' ∧
      SameButCase extension extension' ∧ '/' ∉ extension ∧ '.' ∉ extension

/-- No hint at all, or the same one up to letter case. -/
def SameHint : Option String → Option String → Prop
  | none, none => True
  | some hint, some hint' => SameButCase hint.toList hint'.toList
  | _, _ => False

def lastSegment (path : List Char) : List Char :=
  match Text.cutLast '/' path with
  | some (_, segment) => segment
  | none => path

section

variable {settings other : Settings} {path path' : String} {front tail extension : List Char}

theorem lastSegment_append (htail : '/' ∉ tail) :
    lastSegment (front ++ tail) = lastSegment front ++ tail := by
  unfold lastSegment
  cases hcut : Text.cutLast '/' front with
  | none =>
      have hnone : Text.cutLast '/' (front ++ tail) = none := by
        rw [Text.cutLast_eq_none_iff] at hcut ⊢
        simp [hcut, htail]
      rw [hnone]
  | some parts =>
      obtain ⟨before, segment⟩ := parts
      have hsome : Text.cutLast '/' (front ++ tail) = some (before, segment ++ tail) := by
        rw [Text.cutLast_eq_some_iff] at hcut ⊢
        obtain ⟨rfl, hsegment⟩ := hcut
        simp [hsegment, htail]
      rw [hsome]

theorem extension?_of_cutLast {before : List Char}
    (hcut : Text.cutLast '.' (lastSegment path.toList) = some (before, extension)) :
    extension? path = if before = [] ∧ extension = [] then none
      else some (String.ofList extension).toLower := by
  unfold lastSegment at hcut
  unfold extension?
  cases hslash : Text.cutLast '/' path.toList with
  | none =>
      rw [hslash] at hcut
      dsimp only at hcut ⊢
      rw [hcut]
      cases before <;> cases extension <;> rfl
  | some parts =>
      rw [hslash] at hcut
      dsimp only at hcut ⊢
      rw [hcut]
      cases before <;> cases extension <;> rfl

/-- The extension is what follows the last dot, unless that dot is all there is of the segment. -/
theorem extension?_of_dot (hpath : path.toList = front ++ '.' :: extension)
    (hslash : '/' ∉ extension) (hdot : '.' ∉ extension) :
    extension? path = if lastSegment front = [] ∧ extension = [] then none
      else some (String.ofList extension).toLower := by
  refine extension?_of_cutLast (Text.cutLast_eq_some_iff.mpr ⟨?_, hdot⟩)
  rw [hpath]
  exact lastSegment_append (by simp [hslash])

theorem SamePath.extension?_eq (same : SamePath path path') :
    extension? path = extension? path' := by
  obtain rfl | ⟨front, extension, extension', hpath, hpath', hsame, hslash, hdot⟩ := same
  · rfl
  have hslash' : '/' ∉ extension' := by
    rwa [← hsame.mem_iff (by simp [Text.IsLetter])]
  have hdot' : '.' ∉ extension' := by
    rwa [← hsame.mem_iff (by simp [Text.IsLetter])]
  have hempty : extension = [] ↔ extension' = [] := by
    rw [← List.length_eq_zero_iff, ← List.length_eq_zero_iff, List.Forall₂.length_eq hsame]
  rw [extension?_of_dot hpath hslash hdot, extension?_of_dot hpath' hslash' hdot', hsame.toLower]
  simp only [hempty]

theorem SameHint.wantsHtml_eq {accept accept' : Option String} (same : SameHint accept accept') :
    wantsHtml accept = wantsHtml accept' := by
  cases accept with
  | none =>
      cases accept' with
      | none => rfl
      | some hint => exact same.elim
  | some hint =>
      cases accept' with
      | none => exact same.elim
      | some hint' =>
          have hcase : SameButCase hint.toList hint'.toList := same
          have hlower := hcase.toLower
          rw [String.ofList_toList, String.ofList_toList] at hlower
          rw [wantsHtml, wantsHtml, hlower]

/-! ### The class -/

/-- Settings count only through which static extensions and which starts of API paths they have. -/
theorem ofRequest?_congr (hextensions : ∀ text, text ∈ settings.staticExtensions ↔
      text ∈ other.staticExtensions)
    (hprefixes : ∀ start, start ∈ settings.apiPrefixes ↔ start ∈ other.apiPrefixes)
    (request : Request) : ofRequest? settings request = ofRequest? other request := by
  have hany (path : List Char) :
      (settings.apiPrefixes.any fun start => start.toList.isPrefixOf path) =
        other.apiPrefixes.any fun start => start.toList.isPrefixOf path := by
    rw [Bool.eq_iff_iff, List.any_eq_true, List.any_eq_true]
    simp only [hprefixes]
  have hcontains : settings.staticExtensions.contains = other.staticExtensions.contains := by
    funext text
    rw [Bool.eq_iff_iff, List.contains_iff_mem, List.contains_iff_mem]
    exact hextensions text
  unfold ofRequest?
  simp only [hany, hcontains]

theorem ofRequest?_of_get {request : Request} (hmethod : request.method = "GET")
    (hscheme : request.url.scheme = "http" ∨ request.url.scheme = "https")
    (hstart : ∀ start ∈ settings.apiPrefixes,
      ¬start.toList <+: request.url.path.text.toList) :
    ofRequest? settings request =
      if (extension? request.url.path.text).any settings.staticExtensions.contains then
        some staticAsset
      else if wantsHtml request.accept then some navigation
      else some .other := by
  have hplain : ¬((request.url.scheme ≠ "http" ∧ request.url.scheme ≠ "https") ∨
      !request.isGet) := by
    simp only [Request.isGet, hmethod]
    tauto
  have hnone : ¬(settings.apiPrefixes.any fun start =>
      start.toList.isPrefixOf request.url.path.text.toList) = true := by
    simpa [List.any_eq_true] using hstart
  rw [ofRequest?, if_neg hplain]
  dsimp only
  rw [if_neg hnone]

/-- **What the class hangs on.** With settings from a file, GETs to web servers whose paths begin no
API path are in the same class if their paths are the same up to letter case in the extension and
their hints up to letter case, whatever else there is to them. Settings from another file that lists
the same extensions, up to letter case and dots before them, and the same starts of API paths, in
any order and with any repeats, put every request in the same class. -/
theorem class_hangs_on {file : List Char} (hsettings : Settings.ofYaml file = .ok settings) :
    (∀ one two : Request, one.method = "GET" → two.method = "GET" →
      (one.url.scheme = "http" ∨ one.url.scheme = "https") →
      (two.url.scheme = "http" ∨ two.url.scheme = "https") →
      SamePath one.url.path.text two.url.path.text →
      (∀ start ∈ settings.apiPrefixes, ¬start.toList <+: one.url.path.text.toList ∧
        ¬start.toList <+: two.url.path.text.toList) →
      SameHint one.accept two.accept → ofRequest? settings one = ofRequest? settings two) ∧
    ∀ file' other, Settings.ofYaml file' = .ok other →
      Settings.SameExtensions (Settings.extensionsIn file) (Settings.extensionsIn file') →
      (∀ start, start ∈ Settings.apiPrefixesIn file ↔ start ∈ Settings.apiPrefixesIn file') →
      ∀ request, ofRequest? settings request = ofRequest? other request := by
  constructor
  · intro one two hone htwo hscheme hscheme' hpath hstart hhint
    rw [ofRequest?_of_get hone hscheme fun start hmem => (hstart start hmem).1,
      ofRequest?_of_get htwo hscheme' fun start hmem => (hstart start hmem).2,
      hpath.extension?_eq, hhint.wantsHtml_eq]
  · intro file' other hother hextensions hprefixes request
    refine ofRequest?_congr (fun text => ?_) (fun start => ?_) request
    · rw [Settings.mem_staticExtensions hsettings, Settings.mem_staticExtensions hother]
      constructor
      · rintro ⟨listed, hmem, rfl⟩
        obtain ⟨listed', hmem', same⟩ := hextensions.1 listed hmem
        exact ⟨listed', hmem', same.extension_eq.symm⟩
      · rintro ⟨listed', hmem', rfl⟩
        obtain ⟨listed, hmem, same⟩ := hextensions.2 listed' hmem'
        exact ⟨listed, hmem, same.extension_eq⟩
    · rw [Settings.apiPrefixes_eq hsettings, Settings.apiPrefixes_eq hother]
      exact hprefixes start

end

/-! The same two extensions in two files, and a style sheet on two servers. -/

namespace Sheets

def file : List Char :=
  "static_extensions: [css, Js]\n".toList

def respelled : List Char :=
  "api_prefixes: [/api/, /api/]\nstatic_extensions: [..jS, .CSS, css]\n".toList

def kept : Settings :=
  { Settings.default with staticExtensions := ["css", "js"] }

def sheet (scheme host name accept : String) : Request where
  method := "GET"
  url := ⟨scheme, "", none, some (.named host), none, .segments ["style", name], none, none⟩
  accept := some accept
  headers := []
  body := .empty

theorem ofYaml_file : Settings.ofYaml file = .ok kept := by
  decide +kernel

theorem ofYaml_respelled :
    Settings.ofYaml respelled = .ok { kept with apiPrefixes := ["/api/", "/api/"] } := by
  decide +kernel

theorem extensionsIn_file : Settings.extensionsIn file = ["css", "Js"] := by
  decide +kernel

theorem extensionsIn_respelled : Settings.extensionsIn respelled = ["..jS", ".CSS", "css"] := by
  decide +kernel

theorem sameExtensions_files :
    Settings.SameExtensions (Settings.extensionsIn file) (Settings.extensionsIn respelled) := by
  have hcss : Settings.SameExtension "css" ".CSS" :=
    ⟨0, 1, ['c', 's', 's'], ['C', 'S', 'S'], rfl, rfl, by decide⟩
  have hjs : Settings.SameExtension "Js" "..jS" :=
    ⟨0, 2, ['J', 's'], ['j', 'S'], rfl, rfl, by decide⟩
  have hsame : Settings.SameExtension "css" "css" :=
    ⟨0, 0, ['c', 's', 's'], ['c', 's', 's'], rfl, rfl, .refl _⟩
  rw [extensionsIn_file, extensionsIn_respelled]
  simp only [Settings.SameExtensions, List.forall_mem_cons]
  exact ⟨⟨⟨_, by simp, hcss⟩, ⟨_, by simp, hjs⟩, List.forall_mem_nil _⟩,
    ⟨_, by simp, hjs⟩, ⟨_, by simp, hcss⟩, ⟨_, by simp, hsame⟩, List.forall_mem_nil _⟩

theorem mem_apiPrefixesIn_iff (start : String) :
    start ∈ Settings.apiPrefixesIn file ↔ start ∈ Settings.apiPrefixesIn respelled := by
  have hfile : Settings.apiPrefixesIn file = ["/api/"] := by decide +kernel
  have hrespelled : Settings.apiPrefixesIn respelled = ["/api/", "/api/"] := by decide +kernel
  simp [hfile, hrespelled]

theorem same_class :
    ofRequest? kept (sheet "http" "desk" "main.CSS" "Text/HTML") =
        ofRequest? kept (sheet "https" "shelf" "main.css" "text/html") ∧
      ofRequest? kept (sheet "http" "desk" "main.CSS" "Text/HTML") =
        ofRequest? { kept with apiPrefixes := ["/api/", "/api/"] }
          (sheet "http" "desk" "main.CSS" "Text/HTML") := by
  have hhint : SameButCase "Text/HTML".toList "text/html".toList := by decide
  obtain ⟨hrequests, hfiles⟩ := class_hangs_on ofYaml_file
  constructor
  · refine hrequests _ _ rfl rfl (.inl rfl) (.inr rfl) (.inr ⟨"/style/main".toList,
      ['C', 'S', 'S'], ['c', 's', 's'], by decide, by decide, by decide, by decide, by decide⟩)
      (by decide) hhint
  · exact hfiles _ _ ofYaml_respelled sameExtensions_files mem_apiPrefixesIn_iff _

end Sheets

end RequestClass

end OfflineAgent
