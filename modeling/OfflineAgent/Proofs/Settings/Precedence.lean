import Mathlib
import OfflineAgent.Cli.Run

/-!
# Where the origin of a run comes from

A file of settings may name an origin; one in the environment takes its place, and one on the
command line the place of both. What is replaced leaves no trace in the settings of a run. It is
looked at all the same: before the command line is, the origin that is in force then must be fit.
-/

namespace OfflineAgent.Settings

open Machine (Surroundings)
open Yaml (Document Mark Misfit Node)

/-- The settings of the file, or those by default, with the origin that they came with. -/
def written (s : Surroundings) (named : Option String) : Except LoadFault Settings := do
  match ← filePath s named with
  | some path => ofFile s path
  | none => pure default

/-- Settings with the origin of the environment, if it has one. -/
def inForce (s : Surroundings) (settings : Settings) : Settings :=
  settings.withOrigin (s.valueOf? "STOWAWAY_ORIGIN")

def IsFit (settings : Settings) : Prop :=
  ∃ url, settings.originUrl = .ok url

instance (settings : Settings) : Decidable settings.IsFit :=
  match hurl : settings.originUrl with
  | .ok url => isTrue ⟨url, hurl⟩
  | .error fault => isFalse (by
      rintro ⟨url, hok⟩
      rw [hurl] at hok
      cases hok)

def SameButOrigin (settings other : Settings) : Prop :=
  settings.withOrigin (some "") = other.withOrigin (some "")

/-- Both fail, and in the same way, or both give the same settings but for the origin. -/
inductive AlikeReadings {ε : Type} : Except ε Settings → Except ε Settings → Prop
  | error (fault : ε) : AlikeReadings (.error fault) (.error fault)
  | ok {settings other : Settings} (same : SameButOrigin settings other) :
      AlikeReadings (.ok settings) (.ok other)

variable {s t : Surroundings} {named : Option String} {settings other : Settings}

/-! ### Origins in place of others -/

@[simp]
theorem withOrigin_withOrigin (settings : Settings) (origin : String) (later : Option String) :
    (settings.withOrigin (some origin)).withOrigin later =
      settings.withOrigin (later <|> some origin) := by
  cases later <;> rfl

theorem SameButOrigin.refl (settings : Settings) : SameButOrigin settings settings :=
  rfl

theorem SameButOrigin.withOrigin_eq (same : SameButOrigin settings other) (origin : String) :
    settings.withOrigin (some origin) = other.withOrigin (some origin) := by
  have hsame := congrArg (fun common => common.withOrigin (some origin)) same
  simpa using hsame

/-- What is read into the origin is forgotten, and everything else is not touched by it. -/
theorem SameButOrigin.set (same : SameButOrigin settings other) (field : Field)
    (value : field.kind.Datum) :
    SameButOrigin (settings.set field value) (other.set field value) := by
  by_cases horigin : field = .origin
  · subst horigin
    exact same
  · have hset (any : Settings) : (any.set field value).withOrigin (some "") =
        (any.withOrigin (some "")).set field value := by
      cases field <;> first | rfl | exact absurd rfl horigin
    unfold SameButOrigin at same ⊢
    rw [hset, hset, same]

theorem SameButOrigin.set_origin (same : SameButOrigin settings other) (text text' : String) :
    SameButOrigin (settings.set .origin text) (other.set .origin text') :=
  same

theorem AlikeReadings.cases {ε : Type} {reading reading' : Except ε Settings}
    (alike : AlikeReadings reading reading') :
    (∃ fault, reading = .error fault ∧ reading' = .error fault) ∨
      ∃ settings other, reading = .ok settings ∧ reading' = .ok other ∧
        SameButOrigin settings other := by
  cases alike with
  | error fault => exact .inl ⟨fault, rfl, rfl⟩
  | ok same => exact .inr ⟨_, _, rfl, rfl, same⟩

theorem AlikeReadings.bind {ε α : Type} (first : Except ε α) {next next' : α → Except ε Settings}
    (alike : ∀ value, AlikeReadings (next value) (next' value)) :
    AlikeReadings (first >>= next) (first >>= next') := by
  cases first with
  | error fault => exact .error fault
  | ok value => exact alike value

theorem AlikeReadings.mapError {ε ε' : Type} {reading reading' : Except ε Settings}
    (alike : AlikeReadings reading reading') (f : ε → ε') :
    AlikeReadings (reading.mapError f) (reading'.mapError f) := by
  cases alike with
  | error fault => exact .error (f fault)
  | ok same => exact .ok same

/-! ### Files that differ in their origins -/

/-- An entry for the origin, with a text for its value. -/
def IsOriginEntry (document : Document) (entry : Node × Node) : Prop :=
  Yaml.readText document "" "field identifier" entry.1 = .ok "origin" ∧
    ∃ text, Yaml.readText document (pathOfKey entry.1) "a string" entry.2 = .ok text

/-- The same entry, or two entries for the origin under the same key. -/
def SameButOriginText (document : Document) (entry other : Node × Node) : Prop :=
  entry = other ∨
    entry.1 = other.1 ∧ IsOriginEntry document entry ∧ IsOriginEntry document other

theorem ofEntries_origin {document : Document} {start : Mark} {given : List Field}
    {key node : Node} {rest : List (Node × Node)} {text : String}
    (hkey : Yaml.readText document "" "field identifier" key = .ok "origin")
    (htext : Yaml.readText document (pathOfKey key) "a string" node = .ok text) :
    ofEntries document start given settings ((key, node) :: rest) =
      if given.contains .origin then .error ⟨"", "duplicate field `origin`", start⟩
      else ofEntries document start (.origin :: given) (settings.set .origin text) rest := by
  have hname : Field.ofName? "origin" = some .origin := by decide
  rw [ofEntries, hkey]
  simp only [bind, Except.bind, hname]
  by_cases hgiven : given.contains .origin = true
  · rw [if_pos hgiven, if_pos hgiven]
    rfl
  · rw [if_neg hgiven, if_neg hgiven]
    simp only [datumFrom, htext]

/-- By induction on the entries: the settings read so far are the same but for the origin. -/
theorem alikeReadings_ofEntries {document : Document} {start : Mark} {given : List Field}
    {entries others : List (Node × Node)} (same : SameButOrigin settings other)
    (hentries : List.Forall₂ (SameButOriginText document) entries others) :
    AlikeReadings (ofEntries document start given settings entries)
      (ofEntries document start given other others) := by
  induction hentries generalizing given settings other with
  | nil => exact .ok same
  | cons hentry hrest ih =>
      rename_i entry entry' rest rest'
      obtain ⟨key, node⟩ := entry
      obtain heq | ⟨heq, ⟨hkey, text, htext⟩, ⟨hkey', text', htext'⟩⟩ := hentry
      · subst heq
        unfold ofEntries
        refine .bind _ fun name => ?_
        cases Field.ofName? name with
        | none => exact ih same
        | some field =>
            by_cases hgiven : given.contains field = true
            · simp only [if_pos hgiven]
              exact .error _
            · simp only [if_neg hgiven]
              exact .bind _ fun value => ih (same.set field value)
      · obtain ⟨key', node'⟩ := entry'
        obtain rfl : key = key' := heq
        rw [ofEntries_origin hkey htext, ofEntries_origin hkey' htext']
        by_cases hgiven : given.contains .origin = true
        · rw [if_pos hgiven, if_pos hgiven]
          exact .error _
        · rw [if_neg hgiven, if_neg hgiven]
          exact ih (same.set_origin text text')

/-- What a document reads as depends on its root only through what the root stands for. -/
theorem ofEntries_congr {document document' : Document} {start : Mark} {given : List Field}
    {entries : List (Node × Node)} (hanchored : document.anchored = document'.anchored) :
    ofEntries document start given settings entries =
      ofEntries document' start given settings entries := by
  obtain ⟨root, anchored⟩ := document
  obtain ⟨root', anchored'⟩ := document'
  obtain rfl : anchored = anchored' := hanchored
  induction entries generalizing given settings with
  | nil => rfl
  | cons entry rest ih =>
      obtain ⟨key, node⟩ := entry
      unfold ofEntries
      simp only [ih]
      rfl

theorem alikeReadings_ofDocument {document document' : Document} {mark : Mark}
    {entries others : List (Node × Node)} (hanchored : document.anchored = document'.anchored)
    (hroot : document.follow document.root = .mapping mark entries)
    (hroot' : document'.follow document'.root = .mapping mark others)
    (hentries : List.Forall₂ (SameButOriginText document) entries others) :
    AlikeReadings (ofDocument document) (ofDocument document') := by
  unfold ofDocument
  simp only [hroot, hroot']
  rw [← ofEntries_congr hanchored]
  exact alikeReadings_ofEntries (.refl _) hentries

/-- Files of the same entries, with the origin written otherwise, read alike. -/
theorem alikeReadings_written {path : String} {text text' : List Char}
    {document document' : Document} {mark : Mark} {entries others : List (Node × Node)}
    (hpath : filePath s named = .ok (some path)) (hpath' : filePath t named = .ok (some path))
    (htext : s.files.readText path = .ok text) (htext' : t.files.readText path = .ok text')
    (hdocument : Yaml.document? text = some (some document))
    (hdocument' : Yaml.document? text' = some (some document'))
    (hanchored : document.anchored = document'.anchored)
    (hroot : document.follow document.root = .mapping mark entries)
    (hroot' : document'.follow document'.root = .mapping mark others)
    (hentries : List.Forall₂ (SameButOriginText document) entries others) :
    AlikeReadings (written s named) (written t named) := by
  have halike := alikeReadings_ofDocument hanchored hroot hroot' hentries
  have hwritten : written s named =
      ((ofDocument document).mapError .misfit).mapError (.invalid path) := by
    simp only [written, hpath, bind, Except.bind, ofFile, htext, Except.mapError, ofYaml,
      hdocument]
  have hwritten' : written t named =
      ((ofDocument document').mapError .misfit).mapError (.invalid path) := by
    simp only [written, hpath', bind, Except.bind, ofFile, htext', Except.mapError, ofYaml,
      hdocument']
  rw [hwritten, hwritten']
  exact (halike.mapError _).mapError _

/-! ### From the file to the run -/

theorem load_eq (s : Surroundings) (named : Option String) :
    load s named = written s named >>= fun settings => (inForce s settings).checked := by
  unfold load written
  cases filePath s named with
  | error fault => rfl
  | ok path => cases path <;> rfl

theorem checked_of_isFit (hfit : settings.IsFit) : settings.checked = .ok settings := by
  obtain ⟨url, hurl⟩ := hfit
  simp only [checked, hurl]

theorem checked_of_error {fault : OriginFault} (hfault : settings.originUrl = .error fault) :
    settings.checked = .error (.origin fault) := by
  simp only [checked, hfault]

theorem checked_eq_ok_iff {result : Settings} :
    settings.checked = .ok result ↔ settings.IsFit ∧ result = settings := by
  unfold checked IsFit
  cases settings.originUrl with
  | error fault => simp
  | ok url => simp [eq_comm]

/-- An origin in the environment takes the place of any other that the file may have. -/
theorem inForce_of_same {text : String} (same : SameButOrigin settings other)
    (hs : s.valueOf? "STOWAWAY_ORIGIN" = some text)
    (ht : t.valueOf? "STOWAWAY_ORIGIN" = some text) : inForce s settings = inForce t other := by
  unfold inForce
  rw [hs, ht]
  exact same.withOrigin_eq text

theorem withOrigin_inForce (s : Surroundings) (settings : Settings) (later : Option String) :
    (inForce s settings).withOrigin later =
      settings.withOrigin (later <|> s.valueOf? "STOWAWAY_ORIGIN") := by
  unfold inForce
  cases s.valueOf? "STOWAWAY_ORIGIN" with
  | none => cases later <;> rfl
  | some origin => exact withOrigin_withOrigin settings origin later

/-- Whatever is in force, an origin on the command line takes its place. -/
theorem withOrigin_inForce_of_same (same : SameButOrigin settings other) (text : String) :
    (inForce s settings).withOrigin (some text) = (inForce t other).withOrigin (some text) := by
  rw [withOrigin_inForce, withOrigin_inForce]
  exact same.withOrigin_eq text

end OfflineAgent.Settings

namespace OfflineAgent.Cli

open Machine (Surroundings)
open Settings (AlikeReadings SameButOrigin IsFit inForce written)

variable {s t : Surroundings} {arguments : Arguments}

theorem settings_eq (s : Surroundings) (arguments : Arguments) :
    settings s arguments = written s arguments.config >>= fun file =>
      (inForce s file).checked >>= fun loaded => (loaded.withOrigin arguments.origin).checked := by
  unfold settings
  rw [Settings.load_eq]
  cases written s arguments.config <;> rfl

theorem settings_of_error {fault : Settings.LoadFault}
    (hfault : written s arguments.config = .error fault) :
    settings s arguments = .error fault := by
  rw [settings_eq, hfault]
  rfl

theorem settings_of_written {file : Settings} (hfile : written s arguments.config = .ok file) :
    settings s arguments = (inForce s file).checked >>= fun loaded =>
      (loaded.withOrigin arguments.origin).checked := by
  rw [settings_eq, hfile]
  rfl

theorem settings_of_isFit {file : Settings} (hfile : written s arguments.config = .ok file)
    (hfit : (inForce s file).IsFit) :
    settings s arguments = ((inForce s file).withOrigin arguments.origin).checked := by
  rw [settings_of_written hfile, Settings.checked_of_isFit hfit]
  rfl

/-- A run has the origin of the command line, or that of the environment, or that of the file. -/
theorem settings_eq_ok_iff {result : Settings} :
    settings s arguments = .ok result ↔
      ∃ file, written s arguments.config = .ok file ∧ (inForce s file).IsFit ∧ result.IsFit ∧
        result = file.withOrigin (arguments.origin <|> s.valueOf? "STOWAWAY_ORIGIN") := by
  constructor
  · intro hresult
    cases hfile : written s arguments.config with
    | error fault =>
        rw [settings_of_error hfile] at hresult
        cases hresult
    | ok file =>
        cases hloaded : (inForce s file).checked with
        | error fault =>
            rw [settings_of_written hfile, hloaded] at hresult
            cases hresult
        | ok loaded =>
            obtain ⟨hfit, -⟩ := Settings.checked_eq_ok_iff.mp hloaded
            rw [settings_of_isFit hfile hfit, Settings.withOrigin_inForce] at hresult
            obtain ⟨hresultFit, rfl⟩ := Settings.checked_eq_ok_iff.mp hresult
            exact ⟨file, rfl, hfit, hresultFit, rfl⟩
  · rintro ⟨file, hfile, hfit, hresult, rfl⟩
    rw [settings_of_isFit hfile hfit, Settings.withOrigin_inForce]
    exact Settings.checked_of_isFit hresult

/-- **Where the origin of a run comes from.** With an origin in the environment, what the file says
counts for nothing. With one on the command line, neither file nor environment counts for anything
in the settings, provided that their origin is fit; if it is not, that is how the run ends, whatever
the command line says. A run has the origin that comes first, and it is fit. -/
theorem origin_precedence
    (alike : AlikeReadings (written s arguments.config) (written t arguments.config)) :
    (∀ text, s.valueOf? "STOWAWAY_ORIGIN" = some text → t.valueOf? "STOWAWAY_ORIGIN" = some text →
      settings s arguments = settings t arguments) ∧
    (∀ text, arguments.origin = some text →
      (∀ file, written s arguments.config = .ok file → (inForce s file).IsFit) →
      (∀ file, written t arguments.config = .ok file → (inForce t file).IsFit) →
      settings s arguments = settings t arguments) ∧
    (∀ file fault, written s arguments.config = .ok file →
      (inForce s file).originUrl = .error fault →
      settings s arguments = .error (.origin fault)) ∧
    (∀ result, settings s arguments = .ok result ↔
      ∃ file, written s arguments.config = .ok file ∧ (inForce s file).IsFit ∧ result.IsFit ∧
        result = file.withOrigin (arguments.origin <|> s.valueOf? "STOWAWAY_ORIGIN")) := by
  refine ⟨?_, ?_, ?_, ?_⟩
  · intro text hs ht
    obtain ⟨fault, hfault, hfault'⟩ | ⟨file, file', hfile, hfile', same⟩ := alike.cases
    · rw [settings_of_error hfault, settings_of_error hfault']
    · rw [settings_of_written hfile, settings_of_written hfile',
        Settings.inForce_of_same same hs ht]
  · intro text htext hfit hfit'
    obtain ⟨fault, hfault, hfault'⟩ | ⟨file, file', hfile, hfile', same⟩ := alike.cases
    · rw [settings_of_error hfault, settings_of_error hfault']
    · rw [settings_of_isFit hfile (hfit file hfile), settings_of_isFit hfile' (hfit' file' hfile'),
        htext, Settings.withOrigin_inForce_of_same same]
  · intro file fault hfile hfault
    rw [settings_of_written hfile, Settings.checked_of_error hfault]
    rfl
  · intro result
    exact settings_eq_ok_iff

/-! Two starts with a file, and an origin on the command line. -/

namespace Crossroads

/-- A start with a file that has this text. -/
def start (text : String) : Surroundings where
  files := ⟨[], [(["stowaway.yaml"], .file text.toUTF8)]⟩
  environment := []
  accountHome := none

def barred : Surroundings :=
  start "origin: mailto:desk\n"

def clear : Surroundings :=
  start "origin: http://[::1]\n"

def listing : Arguments where
  config := none
  origin := some "http://[::2]"
  command := .stores

def barredFile : Settings :=
  Settings.default.withOrigin (some "mailto:desk")

def clearFile : Settings :=
  Settings.default.withOrigin (some "http://[::1]")

theorem written_barred : written barred listing.config = .ok barredFile := by
  decide +kernel

theorem written_clear : written clear listing.config = .ok clearFile := by
  decide +kernel

theorem sameButOrigin_files : SameButOrigin barredFile clearFile := by
  unfold SameButOrigin barredFile clearFile
  rw [Settings.withOrigin_withOrigin, Settings.withOrigin_withOrigin]
  rfl

theorem originUrl_barred : (inForce barred barredFile).originUrl = .error (.scheme "mailto") := by
  decide +kernel

/-- The files differ in their origins only, and the command line names another one, but only with
one of the files there is a run. -/
theorem listing_barred : settings barred listing = .error (.origin (.scheme "mailto")) ∧
    settings clear listing = .ok (clearFile.withOrigin (some "http://[::2]")) := by
  have alike : AlikeReadings (written barred listing.config) (written clear listing.config) := by
    rw [written_barred, written_clear]
    exact .ok sameButOrigin_files
  have alike' : AlikeReadings (written clear listing.config) (written clear listing.config) := by
    rw [written_clear]
    exact .ok (.refl clearFile)
  obtain ⟨-, -, hends, -⟩ := origin_precedence alike
  obtain ⟨-, -, -, hruns⟩ := origin_precedence alike'
  have hfit : (inForce clear clearFile).IsFit := by decide +kernel
  have hfit' : (clearFile.withOrigin (some "http://[::2]")).IsFit := by decide +kernel
  constructor
  · exact hends barredFile _ written_barred originUrl_barred
  · exact (hruns _).mpr ⟨clearFile, written_clear, hfit, hfit', rfl⟩

end Crossroads

end OfflineAgent.Cli
