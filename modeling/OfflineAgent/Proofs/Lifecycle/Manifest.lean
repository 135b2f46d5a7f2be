import OfflineAgent.Proofs.Agent.Manifest
import OfflineAgent.Proofs.Interleaving.Stores
import OfflineAgent.Proofs.Lifecycle.Activation

/-!
# What loading the manifest leaves

In a run the jobs of a manifest are done in any order, and the network and the stores answer each
as they like. The report tells of each path what its own job was answered, and the static store has
what the jobs wrote: what it held under a key before stays if no path was cached there. An
activation spares the stores of its agent, so what is cached stands after it.
-/

namespace OfflineAgent

open Simulation Interleaving
open Lifecycle (agentOf?)
open Precache (Fate)
open Store (Key)

/-! ### What an activation spares -/

namespace Lifecycle

/-- Only stores that are not on the whitelist are yet to be deleted. -/
def Phase.SparesOwn (agent : Agent) (phase : Phase) : Prop :=
  ∀ todo, phase = .clearing (some todo) → ∀ name ∈ todo, name ∉ agent.settings.whitelist

section

variable {agent : Agent} {retires : Bool} {phase next : Phase}

theorem not_mem_whitelist_of_stale {found : Except Store.Failure (List String)} {name : String}
    (hstale : name ∈ stale agent found) : name ∉ agent.settings.whitelist := by
  cases found with
  | error failure => cases hstale
  | ok names => simpa [stale] using (List.mem_filter.mp hstale).2

/-- A step on the life of the agent leaves nothing to be deleted. -/
theorem not_clearing_of_afterStep {step : Step} {answer : step.Answer} {todo : List String}
    (hnext : phase.afterStep retires step answer = some next) : next ≠ .clearing (some todo) := by
  rintro rfl
  unfold Phase.afterStep at hnext
  split at hnext <;> simp [ite_eq_iff] at hnext

theorem Phase.SparesOwn.after {op : Op} {answer : op.Answer} (spares : phase.SparesOwn agent)
    (hnext : discipline agent retires phase op answer = some next) : next.SparesOwn agent := by
  cases op with
  | storage call =>
      have move : Move agent retires (.new false) _ _ _ _ := move_of_afterCall hnext
      cases move with
      | quiet => exact spares
      | enumerate =>
          intro todo htodo name hmem
          cases htodo
          exact not_mem_whitelist_of_stale hmem
      | delete =>
          intro todo htodo name hmem
          cases htodo
          exact spares _ rfl name (List.mem_cons_of_mem _ hmem)
  | lifecycle number step =>
      obtain ⟨-, hstep⟩ := Option.ite_none_right_eq_some.mp hnext
      exact fun todo htodo => absurd htodo (not_clearing_of_afterStep hstep)
  | _ =>
      obtain ⟨-, hphase⟩ := Option.ite_none_right_eq_some.mp hnext
      exact Option.some.inj hphase ▸ spares

/-- No call on an agent deletes a store on its whitelist. -/
theorem not_mem_whitelist_of_deleted {activity : Activity} {history : List Exchange}
    {left : Work Reply} {name : String} {answer : Except Store.Failure Bool}
    (hagent : agentOf? activity = some agent) (leads : Work.Leads activity.work history left)
    (hmem : ⟨.storage (.delete name), answer⟩ ∈ history) : name ∉ agent.settings.whitelist := by
  obtain ⟨last, hlast, -⟩ := leads.follows (follows_activity hagent fun _ => rfl)
  obtain ⟨first, second, phase, next, rfl, hfirst, hnext⟩ := Discipline.before_of_mem hlast hmem
  have spares : phase.SparesOwn agent :=
    Discipline.invariant_of_after hfirst nofun fun _ _ _ _ spares hafter => spares.after hafter
  have move : Move agent true (.new false) _ _ _ _ := move_of_afterCall hnext
  cases move with
  | quiet _ hop =>
      obtain hneutral | hread := hop
      · exact absurd rfl hneutral.2
      · cases hread
  | delete => exact spares _ rfl name List.mem_cons_self

end

end Lifecycle

/-! ### The jobs of a manifest -/

namespace Precache.Fate

/-- The path has come to this in the run: it cannot be resolved, or the task has started a job for
it, and that is through its whole course. -/
def Of (agent : Agent) (number : Nat) (events : List Event) (t : System) (path : String) :
    Fate → Prop
  | unresolved fault => agent.origin.join path = .error fault
  | loaded url ticket got kept => agent.origin.join path = .ok url ∧
      .act number ⟨.start (.precache agent.stores.static (.get url)), ticket⟩ ∈ events ∧
      ∃ job : Nat, t.tasks[job]? =
          some ⟨.background (.precache agent.stores.static (.get url)) ticket, .done .ok⟩ ∧
        history job events = Precache.course agent.stores.static (.get url) ticket got kept

/-- The response was written under the key, or its write was cut off so that it may have been. -/
def Wrote (cut : Store.Failure → Prop) (fate : Fate) (key : Key) (response : Response) : Prop :=
  ∃ url ticket kept, fate = .loaded url ticket (.ok response) kept ∧ key = .get url ∧
    response.isComplete ∧ ∀ failure, kept = .error failure → cut failure

/-- A path that resolves is loaded by the one job for its URL. -/
theorem Of.of_job {path : String} {fate : Fate} {agent : Agent} {number job : Nat}
    {events : List Event} {t : System} {url : Url} {ticket : Ticket}
    {got : Except FetchFailure Response} {kept : Except Store.Failure Unit}
    (hof : Fate.Of agent number events t path fate) (hjoin : agent.origin.join path = .ok url)
    (honly : ∀ other given, t.tasks[other]? =
      some ⟨.background (.precache agent.stores.static (.get url)) given, .done .ok⟩ → other = job)
    (hcourse : history job events = course agent.stores.static (.get url) ticket got kept) :
    ∃ answer, fate = .loaded url ticket got answer ∧ result got answer = result got kept := by
  cases fate with
  | unresolved fault => exact absurd (hjoin.symm.trans hof) nofun
  | loaded found given told answer =>
      obtain ⟨hfound, -, other, here, hown⟩ := hof
      obtain rfl : found = url := Except.ok.inj (hfound.symm.trans hjoin)
      obtain rfl := honly other given here
      obtain ⟨rfl, rfl, hresult⟩ := course_inj (hown.symm.trans hcourse)
      exact ⟨answer, rfl, hresult⟩

end Precache.Fate

/-- Some path comes to another key than this, but of the same hash. -/
def Precache.Collide (fates : List Fate) (key : Key) : Prop :=
  ∃ fate ∈ fates, ∃ other, fate.key? = some other ∧ other ≠ key ∧ other.hash = key.hash

namespace Interleaving

variable {calls : Activity → Prop} {agents : List Agent} {tables : Store.Tables}
  {start s t : System} {before events : List Event} {agent : Agent} {number : Nat}

theorem Run.nodup_tickets (run : Run calls s events t) (numbered : t.Numbered) :
    ((history number events).filterMap Exchange.ticket?).Nodup := by
  have hsub : ((history number events).filterMap Exchange.ticket?).Sublist
      ((events.filterMap Event.purpose?).filterMap Purpose.ticket?) := by
    clear run
    induction events with
    | nil => exact .slnil
    | cons event events ih =>
        rw [← List.singleton_append, history_append, List.filterMap_append, List.filterMap_append,
          List.filterMap_append]
        refine List.Sublist.append ?_ ih
        cases event with
        | call activity => exact .slnil
        | act acting exchange =>
            by_cases hsame : acting = number
            · subst hsame
              rw [history_act_self]
              cases hstarted : exchange.started? <;>
                simp [Exchange.ticket?, Event.purpose?, Purpose.ticket?, hstarted]
            · rw [history_act_of_ne hsame]
              exact List.nil_sublist _
  have hall := numbered.nodup
  rw [run.purposes, List.filterMap_append] at hall
  exact (List.nodup_append.mp hall).2.1.sublist hsub

theorem Run.history_of_started (lead : Run calls start before s) (run : Run calls s events t)
    (numbered : t.Numbered) {caller job : Nat} {running : Job} {ticket : Ticket}
    {work : Work Reply} (hstart : .act caller ⟨.start running, ticket⟩ ∈ events)
    (here : t.tasks[job]? = some ⟨.background running ticket, work⟩) : history job before = [] := by
  refine lead.history_eq_nil ?_
  by_contra hknown
  obtain ⟨task, hthere⟩ := Option.ne_none_iff_exists'.mp hknown
  obtain ⟨left, hlater, -⟩ := run.leads_of_task hthere
  obtain ⟨hpurpose, -⟩ := Task.mk.inj (Option.some.inj (hlater.symm.trans here))
  have hall := numbered.nodup
  rw [run.purposes, List.filterMap_append] at hall
  refine (List.nodup_append.mp hall).2.2 ticket ?_ ticket ?_ rfl
  · refine List.mem_filterMap.mpr ⟨task.purpose, ?_, by rw [hpurpose]; rfl⟩
    exact List.mem_map.mpr ⟨task, List.mem_of_getElem? hthere, rfl⟩
  · exact List.mem_filterMap.mpr ⟨.background running ticket,
      List.mem_filterMap.mpr ⟨_, hstart, rfl⟩, rfl⟩

/-- The job of a path is on its course, or through all of it. -/
theorem leads_loading {store : String} {url : Url} {ticket : Ticket} {history : List Exchange}
    {left : Work Reply}
    (leads : Work.Leads (Purpose.background (.precache store (.get url)) ticket).work history
      left) :
    (∃ rest, Job.IsLoading ticket history rest ∧ left = rest >>= fun _ => .done .ok) ∨
      ∃ got kept, history = Precache.course store (.get url) ticket got kept ∧
        left = .done .ok := by
  obtain ⟨rest, hrest, rfl⟩ := Work.leads_bind_done leads
  obtain hloading | ⟨got, kept, hcourse, rfl⟩ :=
    Job.leads_loading (Key.isStorable_ofRequest_get url) hrest
  · exact .inl ⟨rest, hloading, rfl⟩
  · exact .inr ⟨got, kept, hcourse, rfl⟩

theorem Run.exists_fate (lead : Run calls (.new agents tables) before s)
    (run : Run calls s events t) {path : String} {outcome : Except Precache.Failure Unit}
    {begun : Except Url.Fault Ticket}
    (hbegun : agent.Begun (history number events) path begun)
    (htold : Agent.Told (history number events) outcome begun) :
    ∃ fate, Fate.Of agent number events t path fate ∧ fate.outcome = outcome ∧
      fate.ticket? = begun.toOption := by
  cases begun with
  | error fault => exact ⟨.unresolved fault, hbegun, htold.symm, rfl⟩
  | ok ticket =>
      have whole := lead.append run
      have numbered := whole.numbered (numbered_new agents tables)
      obtain ⟨url, hjoin, hstart⟩ := hbegun
      obtain ⟨job, work, here⟩ := run.starts (mem_history.mp hstart)
      have hawait := List.mem_append_right before (mem_history.mp htold)
      have hreport := whole.told_by_job rfl rfl (numbered_new agents tables) here hawait
      obtain ⟨leads, -⟩ := whole.leads rfl job _ here
      obtain ⟨rest, hloading, -⟩ | ⟨got, kept, hcourse, rfl⟩ := leads_loading leads
      · exact absurd hreport (hloading.2.1 outcome)
      rw [hcourse, Precache.report_mem_course] at hreport
      rw [history_append, lead.history_of_started run numbered (mem_history.mp hstart) here,
        List.nil_append] at hcourse
      exact ⟨.loaded url ticket got kept, ⟨hjoin, mem_history.mp hstart, job, here, hcourse⟩,
        hreport.2.symm, rfl⟩

theorem Run.exists_fates (lead : Run calls (.new agents tables) before s)
    (run : Run calls s events t) {paths : List String} {begun : List (Except Url.Fault Ticket)}
    {outcomes : List (Except Precache.Failure Unit)}
    (hbegun : List.Forall₂ (agent.Begun (history number events)) paths begun)
    (htold : List.Forall₂ (Agent.Told (history number events)) outcomes begun) :
    ∃ fates : List Fate, List.Forall₂ (Fate.Of agent number events t) paths fates ∧
      fates.map Fate.outcome = outcomes ∧
      fates.filterMap Fate.ticket? = begun.filterMap Except.toOption := by
  induction hbegun generalizing outcomes with
  | nil =>
      cases htold
      exact ⟨[], .nil, rfl, rfl⟩
  | cons hpath _ ih =>
      cases htold with
      | cons hfirst hrest =>
          obtain ⟨fates, hall, houtcomes, htickets⟩ := ih hrest
          obtain ⟨fate, hof, houtcome, hticket⟩ := lead.exists_fate run hpath hfirst
          refine ⟨fate :: fates, .cons hof hall, ?_, ?_⟩
          · rw [List.map_cons, houtcome, houtcomes]
          · rw [List.filterMap_cons, List.filterMap_cons, hticket, htickets]

/-! ### While it is loaded -/

/-- The task, or a job that it awaits and that has not reported yet, can go on. -/
def LoadingGoesOn (calls : Activity → Prop) (agent : Agent) (before events : List Event)
    (t : System) (number : Nat) : Prop :=
  GoesOn calls t number ∨ ∃ url ticket job work,
    .act number ⟨.start (.precache agent.stores.static (.get url)), ticket⟩ ∈ events ∧
      t.tasks[job]? = some ⟨.background (.precache agent.stores.static (.get url)) ticket, work⟩ ∧
      (history job (before ++ events)).length < 3 ∧ GoesOn calls t job

theorem Run.loading_goesOn (lead : Run calls (.new agents tables) before s)
    (run : Run calls s events t) {purpose : Purpose} {op : Op} {next : op.Answer → Work Reply}
    (here : t.tasks[number]? = some ⟨purpose, .ask op next⟩)
    (hawaits : agent.AwaitsStarted (history number events) op) :
    LoadingGoesOn calls agent before events t number := by
  by_cases hposted : ∀ channel ticket, op = .await channel ticket →
      ∃ outcome : channel.Outcome, ⟨channel, ticket, outcome⟩ ∈ t.posted
  · exact .inl (System.goesOn here hposted)
  push Not at hposted
  obtain ⟨channel, ticket, hop, hnone⟩ := hposted
  obtain ⟨rfl, url, hstart⟩ := hawaits channel ticket hop
  have whole := lead.append run
  obtain ⟨job, work, hjob⟩ := run.starts (mem_history.mp hstart)
  obtain ⟨leads, -⟩ := whole.leads rfl job _ hjob
  obtain ⟨rest, ⟨hlength, -, asked, later, rfl, hnever⟩, rfl⟩ | ⟨got, kept, hcourse, rfl⟩ :=
    leads_loading leads
  · exact .inr ⟨url, ticket, job, _, mem_history.mp hstart, hjob, hlength,
      System.goesOn hjob fun channel ticket hsame => absurd hsame (hnever channel ticket)⟩
  · have hreport : ⟨.report .precache ticket (Precache.result got kept), ()⟩ ∈
        history job (before ++ events) := by
      rw [hcourse, Precache.report_mem_course]
      exact ⟨rfl, rfl⟩
    refine absurd ?_ (hnone (Precache.result got kept))
    rw [whole.posted]
    exact List.mem_append_right _ (List.mem_filterMap.mpr ⟨_, mem_history.mp hreport, rfl⟩)

/-! ### What the static store has then -/

/-- Nobody but the jobs of the paths puts anything under the key in the static store, and nobody but
calls on its agent deletes that store. -/
structure Undisturbed (agent : Agent) (events : List Event) (t : System) (fates : List Fate)
    (key : Key) : Prop where
  writers : ∀ acting other response answer,
    .act acting ⟨.storage (.put agent.stores.static other response), answer⟩ ∈ events →
      other.hash = key.hash → ∃ fate ∈ fates, ∃ ticket job work,
        fate.ticket? = some ticket ∧ t.tasks[acting]? = some ⟨.background job ticket, work⟩
  deleters : ∀ acting answer,
    .act acting ⟨.storage (.delete agent.stores.static), answer⟩ ∈ events →
      ∃ activity work, t.tasks[acting]? = some ⟨.call activity, work⟩ ∧
        agentOf? activity = some agent

/-- Under the key the static store has what it had, and no path was cached there, or it has what
came of a path. -/
def Stored (cut : Store.Failure → Prop) (agent : Agent) (s t : System) (fates : List Fate)
    (key : Key) : Prop :=
  (t.tables.find? agent.stores.static key.hash = s.tables.find? agent.stores.static key.hash ∧
      ∀ fate ∈ fates, ∀ other, fate.key? = some other → other.hash = key.hash →
        fate.outcome ≠ .ok ()) ∨
    ∃ fate ∈ fates, ∃ other response now, fate.Wrote cut other response ∧ other.hash = key.hash ∧
      now.IsClock ∧ t.tables.get agent.stores.static key = .ok (some ⟨other, response, now⟩)

section

variable {fates : List Fate} {key : Key} {cut : Store.Failure → Prop} {url : Url} {ticket : Ticket}
  {got : Except FetchFailure Response} {kept : Except Store.Failure Unit}

theorem exists_of_mem_fates {paths : List String}
    (hfates : List.Forall₂ (Fate.Of agent number events t) paths fates) {fate : Fate}
    (hmem : fate ∈ fates) : ∃ path, Fate.Of agent number events t path fate := by
  induction hfates with
  | nil => cases hmem
  | cons hpath _ ih =>
      obtain rfl | hrest := List.mem_cons.mp hmem
      · exact ⟨_, hpath⟩
      · exact ih hrest

theorem history_of_ticket {fate : Fate} {path : String} {acting : Nat} {ticket : Ticket} {job : Job}
    {work : Work Reply} (hof : Fate.Of agent number events t path fate) (numbered : t.Numbered)
    (hticket : fate.ticket? = some ticket)
    (here : t.tasks[acting]? = some ⟨.background job ticket, work⟩) :
    ∃ url got kept, fate = .loaded url ticket got kept ∧
      history acting events = Precache.course agent.stores.static (.get url) ticket got kept := by
  cases fate with
  | unresolved fault => cases hticket
  | loaded url given got kept =>
      obtain rfl : given = ticket := Option.some.inj hticket
      obtain ⟨-, -, own, hthere, hcourse⟩ := hof
      obtain rfl := numbered.unique here hthere rfl rfl
      exact ⟨url, got, kept, rfl, hcourse⟩

/-- While nobody disturbs it, what stands under the key was there or came of a path. -/
theorem Undisturbed.stored (undisturbed : Undisturbed agent events t fates key)
    (whole : Run calls (.new agents tables) (before ++ events) t)
    (run : RunOf calls (FailsCleanly cut) s events t) {paths : List String}
    (hfates : List.Forall₂ (Fate.Of agent number events t) paths fates) :
    Stored cut agent s t fates key := by
  have hkept (acting : Nat) (answer : Except Store.Failure Bool) :
      .act acting ⟨.storage (.delete agent.stores.static), answer⟩ ∉ events := by
    intro hmem
    obtain ⟨activity, work, here, hagent⟩ := undisturbed.deleters acting answer hmem
    obtain ⟨leads, -⟩ := whole.leads rfl acting _ here
    have hdeleted := mem_history.mpr (List.mem_append_right before hmem)
    exact Lifecycle.not_mem_whitelist_of_deleted hagent leads hdeleted Agent.static_mem_whitelist
  have numbered := whole.numbered (numbered_new agents tables)
  obtain ⟨hsame, hnone⟩ | ⟨acting, other, response, answer, now, hput, hhash, hcut, hclock, hrow⟩ :=
    run.stands hkept key.hash
  · refine .inl ⟨hsame, fun fate hfate other hkey hhash hcached => ?_⟩
    obtain ⟨path, hof⟩ := exists_of_mem_fates hfates hfate
    obtain ⟨url, ticket, response, rfl, hwhole⟩ := Precache.Fate.outcome_eq_ok_iff.mp hcached
    obtain rfl : Key.get url = other := Option.some.inj hkey
    obtain ⟨-, -, job, -, hcourse⟩ := hof
    have hput : ⟨.storage (.put agent.stores.static (.get url) response), .ok ()⟩ ∈
        history job events := by
      rw [hcourse, Precache.put_mem_course]
      exact ⟨rfl, (Key.ofRequest_get url).symm, rfl, hwhole, rfl⟩
    exact hnone job (.get url) response (mem_history.mp hput) hhash
  · obtain ⟨fate, hfate, ticket, job, work, hticket, here⟩ :=
      undisturbed.writers acting other response answer hput hhash
    obtain ⟨path, hof⟩ := exists_of_mem_fates hfates hfate
    obtain ⟨url, got, kept, rfl, hcourse⟩ := history_of_ticket hof numbered hticket here
    have hmem := mem_history.mpr hput
    rw [hcourse, Precache.put_mem_course, Key.ofRequest_get] at hmem
    obtain ⟨-, rfl, rfl, hwhole, rfl⟩ := hmem
    refine .inr ⟨_, hfate, .get url, response, now, ?_, hhash, hclock, ?_⟩
    · exact ⟨url, ticket, answer, rfl, rfl, hwhole, hcut⟩
    · exact Store.Tables.get_of_find? hclock hrow

/-- Under a key that only one path comes to, the store has the response of the path if that is
cached, and what it had if that failed. -/
theorem Stored.of_unique (stored : Stored cut agent s t fates (.get url)) {i : Nat}
    (hfate : fates[i]? = some (.loaded url ticket got kept))
    (honly : ∀ j other, fates[j]? = some other → other.key? = some (.get url) → j = i)
    (free : ¬Precache.Collide fates (.get url)) :
    (Precache.result got kept = .ok () → ∃ response now, got = .ok response ∧ now.IsClock ∧
        t.tables.get agent.stores.static (.get url) = .ok (some ⟨.get url, response, now⟩)) ∧
      ∀ failure, Precache.result got kept = .error failure →
        (∀ fault, failure = .storage fault → ¬cut fault) →
        t.tables.find? agent.stores.static (Key.get url).hash =
          s.tables.find? agent.stores.static (Key.get url).hash := by
  obtain ⟨hsame, hnone⟩ | ⟨fate, hmem, _, response, now, wrote, hhash, hclock, hget⟩ := stored
  · refine ⟨fun hcached => ?_, fun _ _ _ => hsame⟩
    exact absurd hcached (hnone _ (List.mem_of_getElem? hfate) _ rfl rfl)
  · obtain ⟨other, given, answer, rfl, rfl, hwhole, hcut⟩ := wrote
    obtain hkey | hkey := eq_or_ne (Key.get other) (.get url)
    · obtain ⟨j, hj⟩ := List.getElem?_of_mem hmem
      obtain rfl := honly j _ hj (congrArg some hkey)
      obtain ⟨rfl, rfl, rfl, rfl⟩ := Fate.loaded.inj (Option.some.inj (hj.symm.trans hfate))
      refine ⟨fun _ => ⟨response, now, rfl, hclock, hget⟩, fun failure hfailed hspared => ?_⟩
      rw [Precache.result, if_pos hwhole] at hfailed
      cases answer with
      | ok done => cases hfailed
      | error fault =>
          obtain rfl := Except.error.inj hfailed
          exact absurd (hcut fault rfl) (hspared fault rfl)
    · exact absurd ⟨_, hmem, _, rfl, hkey, hhash⟩ free

end

/-! ### The report -/

theorem outcome_eq_foretold {path : String} {fate : Fate}
    {network : Request → Except FetchFailure Response} {fault : Except Store.Failure Unit}
    (hof : Fate.Of agent number events t path fate) (agrees : fate.Agrees network fault) :
    fate.outcome = Precache.foretold (agent.origin.join path) network fault := by
  cases fate with
  | unresolved fault =>
      rw [show agent.origin.join path = .error fault from hof]
      rfl
  | loaded url ticket got kept =>
      obtain ⟨rfl, hkept⟩ := agrees
      rw [hof.1]
      exact Precache.result_congr hkept

theorem zip_eq_mapIdx {fates : List Fate} {network : Request → Except FetchFailure Response}
    {faults : Nat → Except Store.Failure Unit}
    (hfates : List.Forall₂ (Fate.Of agent number events t) agent.settings.precache fates)
    (agrees : ∀ (i : Nat) fate, fates[i]? = some fate → fate.Agrees network (faults i)) :
    Report.of (agent.settings.precache.zip (fates.map Fate.outcome)) =
      agent.foretold network faults := by
  obtain ⟨hlength, hof⟩ := List.forall₂_iff_get.mp hfates
  refine congrArg Report.of (List.ext_getElem (by simp [hlength]) fun i hzip hindexed => ?_)
  have hpath : i < agent.settings.precache.length := by simpa using hindexed
  have hfate : i < fates.length := hlength ▸ hpath
  have houtcome := outcome_eq_foretold (hof i hpath hfate)
    (agrees i _ (List.getElem?_eq_getElem hfate))
  simpa using houtcome

/-- A run in which every call on the stores that fails leaves them as they are. -/
abbrev CleanRun (calls : Activity → Prop) : System → List Event → System → Prop :=
  RunOf calls (FailsCleanly fun _ => False)

/-- How the manifest was loaded. -/
structure Loaded (calls : Activity → Prop) (agent : Agent) (s : System) (events : List Event)
    (t : System) (number : Nat) (fates : List Fate) (report : Report) : Prop where
  /-- Each path has its own fate, in the order of the manifest. -/
  each : List.Forall₂ (Fate.Of agent number events t) agent.settings.precache fates
  /-- No two paths share a job. -/
  apart : (fates.filterMap Fate.ticket?).Nodup
  told : report = .of (agent.settings.precache.zip (fates.map Fate.outcome))
  lists : report.Lists agent.settings.precache
  /-- A path is cached if it resolves, comes whole and is written, and only then. -/
  cached : ∀ fate ∈ fates, fate.outcome = .ok () ↔ ∃ url ticket response,
    fate = .loaded url ticket (.ok response) (.ok ()) ∧ response.isComplete
  /-- Else it has failed with the first of these that went wrong. -/
  failed : ∀ fate ∈ fates, ∀ failure, fate.outcome = .error failure ↔ fate.FailsWith failure
  /-- The order in which the jobs were done has no part in the report. -/
  foretold : ∀ network faults,
    (∀ (i : Nat) fate, fates[i]? = some fate → fate.Agrees network (faults i)) →
      report = agent.foretold network faults
  /-- Under a key of its own a path that is cached is found, and one that failed has changed
  nothing. -/
  unique : ∀ (i : Nat) url ticket got kept, fates[i]? = some (.loaded url ticket got kept) →
    (∀ j other, fates[j]? = some other → other.key? = some (.get url) → j = i) →
    Undisturbed agent events t fates (.get url) → Precache.Collide fates (.get url) ∨
      (Precache.result got kept = .ok () → ∃ response now, got = .ok response ∧ now.IsClock ∧
        t.tables.get agent.stores.static (.get url) = .ok (some ⟨.get url, response, now⟩)) ∧
      ∀ failure, Precache.result got kept = .error failure →
        failure ≠ .storage .abandoned ∨ CleanRun calls s events t →
        t.tables.find? agent.stores.static (Key.get url).hash =
          s.tables.find? agent.stores.static (Key.get url).hash
  /-- Whatever is cached stands, as the response to one of the paths. -/
  stands : ∀ fate ∈ fates, ∀ key, fate.key? = some key → fate.outcome = .ok () →
    Undisturbed agent events t fates key →
      ∃ other ∈ fates, ∃ written response now, other.Wrote (· = .abandoned) written response ∧
        written.hash = key.hash ∧ now.IsClock ∧
        t.tables.get agent.stores.static key = .ok (some ⟨written, response, now⟩)

theorem Run.loaded (lead : Run calls (.new agents tables) before s) (run : Run calls s events t)
    {first second : List Exchange} {report : Report}
    (hhistory : history number events = first ++ second)
    (leads : Work.Leads agent.precache first (.done report)) :
    ∃ fates, Loaded calls agent s events t number fates report := by
  have whole := lead.append run
  have numbered := whole.numbered (numbered_new agents tables)
  have hsub : first ⊆ history number events := hhistory ▸ List.subset_append_left _ _
  obtain ⟨begun, outcomes, hbegun, htold, htickets, rfl⟩ := Agent.exists_of_leads_precache leads
  obtain ⟨fates, hfates, rfl, hsame⟩ := lead.exists_fates run
    (hbegun.imp fun _ _ hpath => hpath.mono hsub) (htold.imp fun _ _ hpath => hpath.mono hsub)
  have hstored {key : Key} (undisturbed : Undisturbed agent events t fates key) :
      Stored (· = .abandoned) agent s t fates key :=
    undisturbed.stored whole (run.runOf fun _ _ _ step => step.failsCleanly) hfates
  refine ⟨fates, hfates, ?_, rfl, ?_, fun _ _ => Precache.Fate.outcome_eq_ok_iff,
    fun _ _ _ => Precache.Fate.outcome_eq_error_iff, fun network faults => zip_eq_mapIdx hfates,
    ?_, ?_⟩
  · rw [hsame]
    have hfront : first.Sublist (history number events) :=
      hhistory ▸ List.sublist_append_left _ _
    exact (run.nodup_tickets numbered).sublist (htickets.trans (hfront.filterMap _))
  · have hlists := Report.lists_of (agent.settings.precache.zip (fates.map Fate.outcome))
    rwa [List.map_fst_zip (by simp [hfates.length_eq])] at hlists
  · intro i url ticket got kept hfate honly undisturbed
    by_cases hcollide : Precache.Collide fates (.get url)
    · exact .inl hcollide
    obtain ⟨hcached, hfailed⟩ := (hstored undisturbed).of_unique hfate honly hcollide
    refine .inr ⟨hcached, fun failure hfailure hspared => ?_⟩
    obtain hwhole | clean := hspared
    · exact hfailed failure hfailure fun fault hfault hcut => hwhole (hcut ▸ hfault)
    · have hclean := undisturbed.stored whole clean hfates
      exact (hclean.of_unique hfate honly hcollide).2 failure hfailure fun _ _ => id
  · intro fate hfate key hkey hcached undisturbed
    obtain ⟨-, hnone⟩ | hwritten := hstored undisturbed
    · exact absurd hcached (hnone fate hfate key hkey rfl)
    · exact hwritten

/-- **The manifest is loaded path by path.** Take any run, and in it any task that is about to load
the manifest of its agent. As long as it has not come to a report, it or a job that it awaits can go
on, and each of them does so only a few times. When it has come to a report, that lists every path
once and in order, as cached or with what went wrong first, and is a function of what the network
and the writes answered, in whatever order the jobs were done. If nobody else writes there, then at
any later time the static store has under the key of a path what came of the path, or what it had
before if the path failed; deletions by calls on the same agent, as in an activation, do not
matter. -/
theorem manifest_loaded {purpose : Purpose} {f : Report → Work Reply}
    (lead : Run calls (.new agents tables) before s)
    (here : s.tasks[number]? = some ⟨purpose, agent.precache >>= f⟩)
    (run : Run calls s events t) :
    ((history number events).length ≤ 2 * agent.settings.precache.length ∧
        LoadingGoesOn calls agent before events t number) ∨
      ∃ first second report left fates, history number events = first ++ second ∧
        Work.Leads agent.precache first (.done report) ∧
        t.tasks[number]? = some ⟨purpose, left⟩ ∧ Work.Leads (f report) second left ∧
        Loaded calls agent s events t number fates report := by
  obtain ⟨work, hthere, leads⟩ := run.leads_of_task here
  obtain ⟨rest, hrest, rfl⟩ | ⟨first, second, report, hhistory, hfirst, hsecond⟩ :=
    Work.leads_bind leads
  · cases rest with
    | ask op next =>
        obtain ⟨hlength, hawaits⟩ := Agent.awaits_of_leads_precache hrest
        exact .inl ⟨hlength, lead.loading_goesOn run hthere hawaits⟩
    | done report =>
        have hall := (List.append_nil (history number events)).symm
        obtain ⟨fates, loaded⟩ := lead.loaded run hall hrest
        exact .inr ⟨_, [], report, _, fates, hall, hrest, hthere, .refl _, loaded⟩
  · obtain ⟨fates, loaded⟩ := lead.loaded run hhistory hfirst
    exact .inr ⟨first, second, report, work, fates, hhistory, hfirst, hthere, hsecond, loaded⟩

end Interleaving

/-! ### A manifest with a page that is gone -/

namespace Rack

open Kiosk (kiosk page)
open Lifecycle (claiming publishing activation)
open Moment (noon isClock_noon)
open Store (Tables)

/-- The kiosk if its manifest has the front page, a page that is gone, and no path at all. -/
def rack : Agent :=
  { kiosk with
    settings := { kiosk.settings with precache := ["/", "/gone.html", "http://["] } }

def goneUrl : Url := { rack.origin with path := .segments ["gone.html"] }

def gone : Response := .new 404 "gone"

/-- The static store has a copy of the page from when it was there. -/
def older : Tables :=
  Tables.empty.put rack.stores.static (.get goneUrl) page noon

def claimed : List Event :=
  [.call (.install rack)] ++ (claiming rack).map (.act 0)

def starting : List Exchange :=
  [⟨.storage (.openStore rack.stores.static), .ok ()⟩,
    ⟨.start (.precache rack.stores.static (.get rack.origin)), 0⟩,
    ⟨.start (.precache rack.stores.static (.get goneUrl)), 1⟩]

def awaiting : List Exchange :=
  [⟨.await .precache 0, .ok ()⟩, ⟨.await .precache 1, .error (.status 404)⟩]

def loadingGone : List Exchange :=
  Precache.course rack.stores.static (.get goneUrl) 1 (.ok gone) (.ok ())

def loadingOrigin : List Exchange :=
  Precache.course rack.stores.static (.get rack.origin) 0 (.ok page) (.ok ())

def activating : List Exchange :=
  publishing rack true ++ activation rack (.ok [rack.stores.static]) []

/-- The job that was started last is done first, and the rack is activated in the end. -/
def stocking : List Event :=
  starting.map (.act 0) ++
    loadingGone.map (.act 2) ++ loadingOrigin.map (.act 1) ++
    (awaiting ++ activating).map (.act 0)

def told : Report :=
  ⟨["/"], [("/gone.html", .status 404), ("http://[", .invalidUrl .invalidIpv6)]⟩

theorem goneUrl_ne : goneUrl ≠ rack.origin := by decide

theorem join_root : rack.origin.join "/" = .ok rack.origin := by decide

theorem join_gone : rack.origin.join "/gone.html" = .ok goneUrl := by decide

theorem join_bracket : rack.origin.join "http://[" = .error .invalidIpv6 := by decide

theorem leads_loadingRack : Work.Leads rack.precache (starting ++ awaiting) (.done told) :=
  Agent.leads_precache (.ok ())
    (Agent.leads_startPrecache_of_ok join_root 0
      (Agent.leads_startPrecache_of_ok join_gone 1
        (Agent.leads_startPrecache_of_error join_bracket (.refl _))))
    (.step (.step (.refl _)))

theorem intact_older : older.Intact := Store.Tables.intact_empty.put _ _ _ isClock_noon

theorem names_stocked :
    ((older.openStore rack.stores.static).put rack.stores.static
      (.ofRequest (.get rack.origin)) page noon).names = [rack.stores.static] := by
  have hlisted : older.names = [rack.stores.static] := by
    rw [older, Store.Tables.intact_empty.names_put, Store.Tables.names_empty,
      if_neg List.not_mem_nil, List.nil_append]
  have hopen : (older.openStore rack.stores.static).names = [rack.stores.static] := by
    rw [intact_older.names_openStore, hlisted, if_pos (List.mem_singleton.mpr rfl)]
  rw [(intact_older.openStore _).names_put, hopen, if_pos (List.mem_singleton.mpr rfl)]

def jobs : List Task :=
  [⟨.background (.precache rack.stores.static (.get rack.origin)) 0, .done .ok⟩,
    ⟨.background (.precache rack.stores.static (.get goneUrl)) 1, .done .ok⟩]

theorem stocking_runs : ∃ s f t, Run (fun _ => True) (.new [rack] older) claimed s ∧
    s.tables = older ∧ s.tasks[0]? = some ⟨.call (.install rack), rack.precache >>= f⟩ ∧
    Run (fun _ => True) s stocking t ∧ (t.cells 0).state = .active ∧
    t.tasks = ⟨.call (.install rack), .done (.report (some told))⟩ :: jobs := by
  obtain ⟨_, f, hclaiming, rfl, hpublishing⟩ := Lifecycle.exists_leads_claiming rack
  have hactivating : Work.Leads rack.activate (activation rack (.ok [rack.stores.static]) [])
      (.done (some [])) := Lifecycle.leads_activate (by decide)
  have hall : Work.Leads (rack.precache >>= f)
      (starting ++ (awaiting ++ activating)) (.done (.report (some told))) := by
    rw [← List.append_assoc]
    exact leads_loadingRack.bind (hpublishing hactivating)
  obtain ⟨left, hstarting, hrest⟩ := Work.leads_append_iff.mp hall
  exact ⟨_, f, _, .append (.call trivial)
    (.of_leads hclaiming rfl ⟨_, .moved rfl, _, .moved rfl, rfl⟩), rfl, rfl,
    .append (.append (.append
      (.of_leads hstarting rfl
        ⟨_, .performed isClock_noon rfl, _, .begun rfl, _, .begun rfl, rfl⟩)
      (.of_leads (Purpose.leads_precache (Key.isStorable_ofRequest_get goneUrl) (.ok gone)
        (.ok ())) rfl ⟨_, .fetched _, _, .reported, rfl⟩))
      (.of_leads (Purpose.leads_precache (Key.isStorable_ofRequest_get rack.origin) (.ok page)
        (.ok ())) rfl ⟨_, .fetched _, _, .performed isClock_noon rfl, _, .reported, rfl⟩))
      (.of_leads hrest rfl ⟨_, .awaited rfl, _, .awaited rfl, _, .moved rfl, _, .moved rfl,
        _, .moved rfl, _, .enumerated names_stocked, _, .moved rfl, rfl⟩), rfl, rfl⟩

/-- What became of the three paths, as far as the run tells: nothing is written of a page that is
gone, so nothing is known of what would come of that. -/
def fates (kept : Except Store.Failure Unit) : List Fate :=
  [.loaded rack.origin 0 (.ok page) (.ok ()), .loaded goneUrl 1 (.ok gone) kept,
    .unresolved .invalidIpv6]

section

variable {t : System} {work : Work Reply} {kept : Except Store.Failure Unit}

theorem number_of_job (htasks : t.tasks = ⟨.call (.install rack), work⟩ :: jobs) {other : Nat}
    {url : Url} {given : Ticket} (here : t.tasks[other]? =
      some ⟨.background (.precache rack.stores.static (.get url)) given, .done .ok⟩) :
    (url = rack.origin → other = 1) ∧ (url = goneUrl → other = 2) := by
  rw [htasks] at here
  obtain _ | _ | _ | other := other
  · simp at here
  · obtain ⟨hurl, -⟩ : rack.origin = url ∧ 0 = given := by
      simpa [jobs, Request.get, Request.new] using here
    exact ⟨fun _ => rfl, fun hgone => absurd (hurl.trans hgone).symm goneUrl_ne⟩
  · obtain ⟨hurl, -⟩ : goneUrl = url ∧ 1 = given := by
      simpa [jobs, Request.get, Request.new] using here
    exact ⟨fun horigin => absurd (hurl.trans horigin) goneUrl_ne, fun _ => rfl⟩
  · simp [jobs] at here

theorem exists_fates (htasks : t.tasks = ⟨.call (.install rack), work⟩ :: jobs)
    {found : List Fate} (hfound : List.Forall₂ (Fate.Of rack 0 stocking t) rack.settings.precache
      found) : ∃ kept, found = fates kept := by
  obtain ⟨root, _, hroot, hlater, rfl⟩ := List.forall₂_cons_left_iff.mp hfound
  obtain ⟨lost, _, hlost, hlatest, rfl⟩ := List.forall₂_cons_left_iff.mp hlater
  obtain ⟨last, _, hlast, hnone, rfl⟩ := List.forall₂_cons_left_iff.mp hlatest
  obtain rfl := List.forall₂_nil_left_iff.mp hnone
  obtain ⟨answer, rfl, hresult⟩ :=
    hroot.of_job join_root (fun _ _ here => (number_of_job htasks here).1 rfl) rfl
  obtain ⟨kept, rfl, -⟩ :=
    hlost.of_job join_gone (fun _ _ here => (number_of_job htasks here).2 rfl) rfl
  obtain rfl : answer = .ok () := (Precache.result_eq_ok_iff.mp (hresult.trans rfl)).2
  cases last with
  | unresolved fault =>
      obtain rfl : fault = .invalidIpv6 := Except.error.inj (hlast.symm.trans join_bracket)
      exact ⟨kept, rfl⟩
  | loaded url ticket got kept => exact absurd (join_bracket.symm.trans hlast.1) nofun

theorem hash_ne : (Key.get goneUrl).hash ≠ (Key.get rack.origin).hash := by decide +kernel

theorem index_of_key {j : Nat} {other : Fate} (hother : (fates kept)[j]? = some other) :
    (other.key? = some (.get rack.origin) → j = 0) ∧
      (other.key? = some (.get goneUrl) → j = 1) := by
  match j with
  | 0 =>
    obtain rfl := Option.some.inj hother
    exact ⟨fun _ => rfl, fun hkey =>
      absurd (congrArg Key.hash (Option.some.inj hkey)) hash_ne.symm⟩
  | 1 =>
    obtain rfl := Option.some.inj hother
    exact ⟨fun hkey => absurd (congrArg Key.hash (Option.some.inj hkey)) hash_ne, fun _ => rfl⟩
  | 2 =>
    obtain rfl := Option.some.inj hother
    exact ⟨nofun, nofun⟩
  | j + 3 => cases hother

theorem not_collide {url : Url} (hurl : url = rack.origin ∨ url = goneUrl) :
    ¬Precache.Collide (fates kept) (.get url) := by
  rintro ⟨fate, hmem, other, hkey, hne, hhash⟩
  simp only [fates, List.mem_cons, List.not_mem_nil, or_false] at hmem
  obtain rfl | rfl := hurl <;> obtain rfl | rfl | rfl := hmem <;>
    simp only [Fate.key?, Option.some.injEq, reduceCtorEq] at hkey <;> subst hkey
  · exact hne rfl
  · exact hash_ne hhash
  · exact hash_ne hhash.symm
  · exact hne rfl

theorem undisturbed_stocking (htasks : t.tasks = ⟨.call (.install rack), work⟩ :: jobs)
    (key : Key) : Undisturbed rack stocking t (fates kept) key := by
  have hgone : loadingGone = [⟨.fetch (.get goneUrl), .ok gone⟩,
      ⟨.report .precache 1 (.error (.status 404)), ()⟩] := rfl
  have horigin : loadingOrigin = [⟨.fetch (.get rack.origin), .ok page⟩, ⟨.storage (.put
      rack.stores.static (.ofRequest (.get rack.origin)) page), .ok ()⟩,
      ⟨.report .precache 0 (.ok ()), ()⟩] := rfl
  refine ⟨fun acting other response answer hput _ => ?_, fun acting answer hdelete => ?_⟩
  · obtain ⟨rfl, -⟩ : acting = 1 ∧ _ := by
      simpa [stocking, hgone, horigin, starting, awaiting, activating, publishing, activation,
        Lifecycle.beginning, Lifecycle.deletions] using hput
    exact ⟨_, List.mem_cons_self, 0, _, _, rfl, by rw [htasks]; rfl⟩
  · simp [stocking, hgone, horigin, starting, awaiting, activating, publishing, activation,
      Lifecycle.beginning, Lifecycle.deletions] at hdelete

end

/-- One path is cached, one failed and one did not resolve; the front page stands after the
activation, and the copy of the page that is gone is as it was. -/
theorem manifest_loaded_rack : ∃ s t kept, Run (fun _ => True) (.new [rack] older) claimed s ∧
    Run (fun _ => True) s stocking t ∧ (t.cells 0).state = .active ∧
    Loaded (fun _ => True) rack s stocking t 0 (fates kept) told ∧
    (∃ now, t.tables.get rack.stores.static (.get rack.origin) =
      .ok (some ⟨.get rack.origin, page, now⟩)) ∧
    t.tables.find? rack.stores.static (Key.get goneUrl).hash =
      older.find? rack.stores.static (Key.get goneUrl).hash := by
  obtain ⟨s, f, t, lead, hbefore, here, run, hactive, htasks⟩ := stocking_runs
  obtain ⟨hlength, -⟩ | ⟨first, second, report, left, found, -, -, -, -, loaded⟩ :=
    manifest_loaded lead here run
  · exact absurd hlength (by decide)
  obtain ⟨kept, rfl⟩ := exists_fates htasks loaded.each
  obtain ⟨hcached, -⟩ := (loaded.unique 0 _ _ _ _ rfl (fun _ _ hother => (index_of_key hother).1)
    (undisturbed_stocking htasks _)).resolve_left (not_collide (.inl rfl))
  obtain ⟨-, hfailed⟩ := (loaded.unique 1 _ _ _ _ rfl (fun _ _ hother => (index_of_key hother).2)
    (undisturbed_stocking htasks _)).resolve_left (not_collide (.inr rfl))
  obtain ⟨response, now, hresponse, -, hstands⟩ := hcached rfl
  obtain rfl := Except.ok.inj hresponse
  obtain rfl : report = told := loaded.told
  exact ⟨s, t, kept, lead, run, hactive, loaded, ⟨now, hstands⟩,
    hbefore ▸ hfailed (.status 404) rfl (.inl nofun)⟩

end Rack

end OfflineAgent
