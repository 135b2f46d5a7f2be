import OfflineAgent.Proofs.Text.Letters
import OfflineAgent.Settings.OfYaml

/-!
# What a file gives for a setting

A setting that is read from a file comes from the first entry with its name, and only from that: the
text of the file is read a second time here, for one setting alone.
-/

namespace OfflineAgent.Settings

open Yaml (Document Mark Misfit Node)

/-- What entries give for a field, if one of them has its name. -/
def given? (document : Document) (start : Mark) (field : Field) :
    List (Node × Node) → Option field.kind.Datum
  | [] => none
  | (key, node) :: rest =>
    match Yaml.readText document "" "field identifier" key with
    | .ok name =>
      if name = field.name then (datumFrom document (pathOfKey key) start node field.kind).toOption
      else given? document start field rest
    | .error _ => given? document start field rest

def givenIn? (document : Document) (field : Field) : Option field.kind.Datum :=
  match document.follow document.root with
  | .mapping mark entries => given? document mark field entries
  | _ => none

/-- What a file gives for a field, as it is written there. -/
def writtenFor? (text : List Char) (field : Field) : Option field.kind.Datum :=
  match Yaml.document? text with
  | some (some document) => givenIn? document field
  | _ => none

section

variable {field other : Field} {name : String} {β : Type}

theorem Field.ofName?_eq_some_iff : Field.ofName? name = some field ↔ name = field.name := by
  constructor
  · intro hfound
    have hname : decide (field.name = name) = true :=
      List.find?_some (p := fun other : Field => decide (other.name = name)) hfound
    exact (of_decide_eq_true hname).symm
  · rintro rfl
    cases field <;> decide

/-- Entries that can be read begin with one of no setting, or with one of a setting that was not
given before. -/
theorem ofEntries_cons_eq_ok {document : Document} {start : Mark} {given : List Field}
    {settings result : Settings} {key node : Node} {rest : List (Node × Node)}
    (hresult : ofEntries document start given settings ((key, node) :: rest) = .ok result) :
    ∃ name, Yaml.readText document "" "field identifier" key = .ok name ∧
      ((Field.ofName? name = none ∧ ofEntries document start given settings rest = .ok result) ∨
        ∃ field value, name = field.name ∧ field ∉ given ∧
          datumFrom document (pathOfKey key) start node field.kind = .ok value ∧
          ofEntries document start (field :: given) (settings.set field value) rest =
            .ok result) := by
  rw [ofEntries] at hresult
  cases hname : Yaml.readText document "" "field identifier" key with
  | error fault =>
      rw [hname] at hresult
      cases hresult
  | ok name =>
      refine ⟨name, rfl, ?_⟩
      rw [hname] at hresult
      simp only [bind, Except.bind] at hresult
      cases hfield : Field.ofName? name with
      | none =>
          rw [hfield] at hresult
          exact .inl ⟨rfl, hresult⟩
      | some field =>
          rw [hfield] at hresult
          dsimp only at hresult
          split at hresult
          · cases hresult
          · rename_i hgiven
            cases hvalue : datumFrom document (pathOfKey key) start node field.kind with
            | error fault =>
                rw [hvalue] at hresult
                cases hresult
            | ok value =>
                rw [hvalue] at hresult
                exact .inr ⟨field, value, Field.ofName?_eq_some_iff.mp hfield,
                  by simpa using hgiven, hvalue, hresult⟩

/-- A part of the settings that hangs on one field only. -/
structure ReadFrom (get : Settings → β) (field : Field) (read : field.kind.Datum → β) : Prop where
  set : ∀ settings value, get (Settings.set settings field value) = read value
  other : ∀ settings other value, other ≠ field → get (Settings.set settings other value) =
    get settings

theorem readFrom_staticExtensions :
    ReadFrom staticExtensions .staticExtensions extensionSet where
  set _ _ := rfl
  other settings other value hother := by cases other <;> first | rfl | exact absurd rfl hother

theorem readFrom_apiPrefixes : ReadFrom apiPrefixes .apiPrefixes id where
  set _ _ := rfl
  other settings other value hother := by cases other <;> first | rfl | exact absurd rfl hother

variable {get : Settings → β} {read : field.kind.Datum → β}

/-- By induction on the entries: a field that was given before is not given again. -/
theorem ReadFrom.ofEntries (readFrom : ReadFrom get field read) {document : Document} {start : Mark}
    {given : List Field} {settings result : Settings} {entries : List (Node × Node)}
    (hresult : Settings.ofEntries document start given settings entries = .ok result) :
    get result = if field ∈ given then get settings
      else ((given? document start field entries).map read).getD (get settings) := by
  induction entries generalizing given settings with
  | nil =>
      obtain rfl := Except.ok.inj hresult
      simp [given?]
  | cons entry rest ih =>
      obtain ⟨key, node⟩ := entry
      obtain ⟨name, hname, ⟨hnone, hrest⟩ | ⟨found, value, rfl, hnew, hvalue, hrest⟩⟩ :=
        ofEntries_cons_eq_ok hresult
      · have hother : name ≠ field.name := by
          intro hsame
          rw [Field.ofName?_eq_some_iff.mpr hsame] at hnone
          cases hnone
        rw [ih hrest, given?, hname]
        simp only [if_neg hother]
      · rw [ih hrest, given?, hname]
        by_cases hsame : found = field
        · subst hsame
          simp only [List.mem_cons_self, if_true, if_neg hnew, hvalue, readFrom.set]
          rfl
        · have hother : found.name ≠ field.name := fun heq =>
            hsame (Option.some.inj ((Field.ofName?_eq_some_iff.mpr rfl).symm.trans
              (Field.ofName?_eq_some_iff.mpr heq)))
          simp only [if_neg hother, List.mem_cons, Ne.symm hsame, false_or,
            readFrom.other _ _ _ hsame]

theorem ReadFrom.ofDocument (readFrom : ReadFrom get field read) {document : Document}
    {settings : Settings} (hsettings : Settings.ofDocument document = .ok settings) :
    get settings = ((givenIn? document field).map read).getD (get default) := by
  unfold Settings.ofDocument at hsettings
  split at hsettings
  · rename_i mark entries hroot
    rw [givenIn?, hroot]
    simpa using readFrom.ofEntries hsettings
  · rename_i hother
    have hnone : givenIn? document field = none := by
      unfold givenIn?
      split
      · rename_i hroot
        exact absurd hroot (hother _ _)
      · rfl
    split at hsettings
    · obtain rfl := Except.ok.inj hsettings
      rw [hnone]
      rfl
    · cases hsettings

/-- **A setting read from a file is what the file gives for it**, or that by default. -/
theorem ReadFrom.ofYaml (readFrom : ReadFrom get field read) {text : List Char}
    {settings : Settings} (hsettings : Settings.ofYaml text = .ok settings) :
    get settings = ((writtenFor? text field).map read).getD (get default) := by
  unfold Settings.ofYaml at hsettings
  unfold writtenFor?
  split at hsettings
  · cases hsettings
  · rename_i hnone
    obtain rfl := Except.ok.inj hsettings
    rw [hnone]
    rfl
  · rename_i document hdocument
    rw [hdocument]
    cases hresult : Settings.ofDocument document with
    | error fault =>
        rw [hresult] at hsettings
        cases hsettings
    | ok result =>
        rw [hresult] at hsettings
        obtain rfl := Except.ok.inj hsettings
        exact readFrom.ofDocument hresult

end

end OfflineAgent.Settings
