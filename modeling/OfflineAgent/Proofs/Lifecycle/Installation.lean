import OfflineAgent.Proofs.Interleaving.Jobs
import OfflineAgent.Proofs.Lifecycle.Phases

/-!
# Installations from end to end

An agent that is installed claims the installation, loads its manifest and says that it waits. Then,
or when it is asked to, it is activated: it clears the stale stores away and only then answers
requests. Each course is a path through the work of the agent, for whatever the manifest and the
stores were answered. At the end stands the agent whose runs are written out wherever a result about
runs is applied.
-/

namespace OfflineAgent

open Simulation Interleaving

namespace Lifecycle

/-! ### Activation -/

def beginning (agent : Agent) : Exchange :=
  ⟨.lifecycle agent.number (.advance .waiting .activating), true⟩

def deletions (deleted : List (String × Except Store.Failure Bool)) : List Exchange :=
  deleted.map fun (name, answer) => ⟨.storage (.delete name), answer⟩

/-- All exchanges of an activation: it begins, enumerates the stores, deletes some, and only then
says that the agent is active. -/
def activation (agent : Agent) (found : Except Store.Failure (List String))
    (deleted : List (String × Except Store.Failure Bool)) : List Exchange :=
  beginning agent :: ⟨.storage .names, found⟩ ::
    (deletions deleted ++ [⟨.lifecycle agent.number (.advance .activating .active), true⟩])

/-- The stores whose deletion did not fail. -/
def deletedNames (deleted : List (String × Except Store.Failure Bool)) : List String :=
  deleted.filterMap fun
    | (name, .ok _) => some name
    | (_, .error _) => none

section

variable {agent : Agent} {found : Except Store.Failure (List String)} {names : List String}
  {deleted : List (String × Except Store.Failure Bool)}

theorem leads_deleteStale (hstale : deleted.map Prod.fst = stale agent (.ok names)) :
    Work.Leads (Stores.deleteStale agent.settings.whitelist names) (deletions deleted)
      (.done (deletedNames deleted)) := by
  induction names generalizing deleted with
  | nil =>
      obtain rfl := List.map_eq_nil_iff.mp hstale
      exact .refl _
  | cons name rest ih =>
      by_cases hkept : agent.settings.whitelist.contains name
      · rw [stale_cons_of_kept hkept] at hstale
        rw [Stores.deleteStale_of_kept hkept]
        exact ih hstale
      · rw [stale_cons_of_stale hkept] at hstale
        obtain ⟨⟨_, answer⟩, later, rfl, rfl, hlater⟩ := List.map_eq_cons_iff.mp hstale
        rw [Stores.deleteStale, if_neg hkept]
        refine .step ?_
        cases answer with
        | ok gone => exact (ih hlater).bind_of_done _
        | error failure => exact ih hlater

/-- An activation deletes the stale stores that it finds, in order, and none if it cannot look. -/
theorem leads_activate (hstale : deleted.map Prod.fst = stale agent found) :
    Work.Leads agent.activate (activation agent found deleted)
      (.done (some (deletedNames deleted))) := by
  refine .step (.step ?_)
  cases found with
  | error failure =>
      obtain rfl := List.map_eq_nil_iff.mp hstale
      exact .step (.refl _)
  | ok names =>
      change Work.Leads (Stores.deleteStale agent.settings.whitelist names >>= _ >>= _) _ _
      rw [Work.bind_assoc]
      exact (leads_deleteStale hstale).bind (.step (.refl _))

/-! ### Installation -/

def claiming (agent : Agent) : List Exchange :=
  [⟨.lifecycle agent.number .claimInstall, false⟩, ⟨.lifecycle agent.number .read, .installing⟩]

/-- The agent waits, and looks whether an activation is to follow. -/
def publishing (agent : Agent) (asked : Bool) : List Exchange :=
  [⟨.lifecycle agent.number (.advance .installing .waiting), true⟩,
    ⟨.lifecycle agent.number .skipRequested, asked⟩]

/-- All exchanges of an installation, up to an activation. -/
def installation (agent : Agent) (loading : List Exchange) (asked : Bool) : List Exchange :=
  claiming agent ++ (loading ++ publishing agent asked)

variable {loading activating : List Exchange} {report : Report}
  {outcome : Option (List String)}

/-- What is left of an installation that is about to load the manifest. -/
theorem exists_leads_claiming (agent : Agent) : ∃ (left : Work Reply) (f : Report → Work Reply),
    Work.Leads (Activity.install agent).work (claiming agent) left ∧
      left = agent.precache >>= f ∧
      ∀ {report : Report} {activating : List Exchange} {outcome : Option (List String)},
        Work.Leads agent.activate activating (.done outcome) →
          Work.Leads (f report) (publishing agent true ++ activating)
            (.done (.report (some report))) := by
  refine ⟨_, _, .step (.step (.refl _)), Work.bind_assoc agent.precache _ _, ?_⟩
  intro report activating outcome hactivating
  refine .step (.step ?_)
  change Work.Leads (agent.activate >>= _ >>= _) _ _
  rw [Work.bind_assoc]
  exact hactivating.bind_of_done _

theorem leads_install_of_waiting (hloading : Work.Leads agent.precache loading (.done report)) :
    Work.Leads agent.install (installation agent loading false) (.done report) :=
  .step (.step (hloading.bind (.step (.step (.refl _)))))

theorem leads_install_of_asked (hloading : Work.Leads agent.precache loading (.done report))
    (hactivating : Work.Leads agent.activate activating (.done outcome)) :
    Work.Leads agent.install (installation agent loading true ++ activating) (.done report) := by
  rw [installation, List.append_assoc, List.append_assoc, claiming, publishing]
  exact .step (.step (hloading.bind (.step (.step (hactivating.bind_of_done _)))))

/-- An agent with nothing to load only opens its static store. -/
theorem leads_precache_of_nil (hnone : agent.settings.precache = [])
    (opened : Except Store.Failure Unit) :
    Work.Leads agent.precache [⟨.storage (.openStore agent.stores.static), opened⟩]
      (.done .empty) := by
  have hstarts : Work.Leads (agent.startPrecache agent.settings.precache) [] (.done []) := by
    rw [hnone]
    exact .refl _
  exact Agent.leads_precache opened hstarts (.refl _)

end

end Lifecycle

/-! ### A kiosk -/

namespace Kiosk

open Lifecycle

/-- An agent with nothing to load. -/
def kiosk : Agent where
  number := 0
  settings := { Settings.default with origin := "http://[::1]:8000", precache := [] }
  origin := ⟨"http", "", none, some (.ipv6 [0, 0, 0, 0, 0, 0, 0, 1]), some 8000, .segments [""],
    none, none⟩

/-- The kiosk if it waits until it is asked not to. -/
def patient : Agent :=
  { kiosk with settings := { kiosk.settings with skipWaiting := false } }

/-- The kiosk if it loads its front page on installation. -/
def shell : Agent :=
  { kiosk with settings := { kiosk.settings with precache := ["/"] } }

def frontPage : Request where
  method := "GET"
  url := kiosk.origin
  accept := some "text/html"
  headers := []
  body := .empty

def figures : Request where
  method := "GET"
  url := { kiosk.origin with path := .segments ["api", "figures"] }
  accept := none
  headers := []
  body := .empty

def offlineUrl : Url := { kiosk.origin with path := .segments ["offline.html"] }

def page : Response := .new 200 "front page"

def refused : FetchFailure := .noResponse kiosk.origin "connection refused"

theorem class_frontPage :
    RequestClass.ofRequest? kiosk.settings frontPage = some .navigation := by decide +kernel

theorem class_figures : RequestClass.ofRequest? kiosk.settings figures = some .api := by decide

theorem isStorable_frontPage : (Store.Key.ofRequest frontPage).isStorable :=
  Store.Key.isStorable_ofRequest rfl

theorem isStorable_figures : (Store.Key.ofRequest figures).isStorable :=
  Store.Key.isStorable_ofRequest rfl

/-- The kiosk is active, on stores that hold anything. -/
def active (tables : Store.Tables) : System :=
  { System.new [kiosk] tables with cells := fun _ => ⟨.active, true, true, 3⟩ }

theorem join_shell : shell.origin.join "/" = .ok shell.origin := by decide

def loading : List Exchange :=
  [⟨.storage (.openStore shell.stores.static), .ok ()⟩,
    ⟨.start (.precache shell.stores.static (.get shell.origin)), 0⟩,
    ⟨.await .precache 0, .ok ()⟩]

theorem leads_loading : Work.Leads shell.precache loading (.done ⟨["/"], []⟩) :=
  Agent.leads_precache (.ok ()) (Agent.leads_startPrecache_of_ok join_shell 0 (.refl _))
    (.step (.refl _))

/-- The stores cannot be enumerated, so the activation that follows deletes none. -/
def installing (opened : Except Store.Failure Unit) : List Exchange :=
  installation kiosk [⟨.storage (.openStore kiosk.stores.static), opened⟩] true ++
    activation kiosk (.error .unavailable) []

theorem leads_installing (opened : Except Store.Failure Unit) :
    Work.Leads (Activity.install kiosk).work (installing opened)
      (.done (.report (some ⟨[], []⟩))) :=
  (leads_install_of_asked (leads_precache_of_nil rfl opened) (leads_activate rfl)).bind_of_done _

/-- The kiosk after an installation with its stores out of reach. -/
def installed : System where
  tables := .empty
  cells := Function.update (System.new [kiosk] .empty).cells 0 ⟨.active, true, true, 3⟩
  posted := []
  nextTicket := 0
  tasks := [⟨.call (.install kiosk), .done (.report (some ⟨[], []⟩))⟩]

theorem installed_runs : Run (fun _ => True) (.new [kiosk] .empty)
    ([.call (.install kiosk)] ++ (installing (.error .unavailable)).map (.act 0)) installed := by
  have run : Run (fun _ => True) (.new [kiosk] .empty)
      ([.call (.install kiosk)] ++ (installing (.error .unavailable)).map (.act 0)) _ :=
    .append (.call trivial) (.of_leads (leads_installing _) rfl
      ⟨_, .moved rfl, _, .moved rfl, _, .failed _, _, .moved rfl, _, .moved rfl, _, .moved rfl,
        _, .failed _, _, .moved rfl, rfl⟩)
  simp only [Function.update_idem] at run
  exact run

/-- The kiosk is installed with its stores out of reach, and waits. -/
def settingUp : List Event :=
  [.call (.install patient)] ++
    (installation patient [⟨.storage (.openStore patient.stores.static), .error .unavailable⟩]
      false).map (.act 0)

def waiting (tables : Store.Tables) : System where
  tables := tables
  cells := Function.update (System.new [patient] tables).cells 0 ⟨.waiting, false, true, 1⟩
  posted := []
  nextTicket := 0
  tasks := [⟨.call (.install patient), .done (.report (some ⟨[], []⟩))⟩]

theorem settingUp_runs {calls : Activity → Prop} (admitted : calls (.install patient))
    (tables : Store.Tables) : Run calls (.new [patient] tables) settingUp (waiting tables) := by
  have leads : Work.Leads (Activity.install patient).work _ (.done (.report (some ⟨[], []⟩))) :=
    (leads_install_of_waiting (leads_precache_of_nil rfl (.error .unavailable))).bind_of_done _
  have run : Run calls (.new [patient] tables) settingUp _ :=
    .append (.call admitted) (.of_leads leads rfl
      ⟨_, .moved rfl, _, .moved rfl, _, .failed _, _, .moved rfl, _, .moved rfl, rfl⟩)
  simp only [Function.update_idem] at run
  exact run

end Kiosk

end OfflineAgent
