import OfflineAgent.Proofs.Interleaving.Stores
import OfflineAgent.Proofs.Lifecycle.Installation

/-!
# What is served after a refresh

A response that a strategy keeps goes to the dynamic store, but a later call looks in all stores, in
the order in which they were created. So the refreshed copy is served from then on, unless an older
store holds one: that one is served, however often the dynamic store is refreshed.
-/

namespace OfflineAgent.Strategy

open Interleaving Simulation

variable {stores : StorePair} {request : Request} {entry : Store.Entry}
  {f : Except Failure Served → Work Reply}

/-! ### What a later call finds -/

/-- How far a call has come that can find nothing but `entry`: what it exchanged, and what is left
of it, where `f` is what its answer is for. Nothing is said of a call whose lookup fails, which is a
miss to it, or whose request is answered first. -/
inductive Serving (stores : StorePair) (request : Request) (entry : Store.Entry)
    (f : Except Failure Served → Work Reply) : Strategy → List Exchange → Work Reply → Prop
  | begun (order : Strategy) :
      Serving stores request entry f order [] (order.run stores request >>= f)
  | found :
      Serving stores request entry f .staleWhileRevalidate [lookedUp request (.ok (some entry))]
        (.ask (.start (.revalidate stores.dynamic request)) fun _ => f (.ok (.ofCache entry)))
  | served {ticket : Ticket} {rest : List Exchange} {left : Work Reply}
      (leads : Work.Leads (f (.ok (.ofCache entry))) rest left) :
      Serving stores request entry f .staleWhileRevalidate
        (lookedUp request (.ok (some entry)) ::
          ⟨.start (.revalidate stores.dynamic request), ticket⟩ :: rest) left
  | missed {failure : Store.Failure} {rest : List Exchange} {left : Work Reply} :
      Serving stores request entry f .staleWhileRevalidate
        (lookedUp request (.error failure) :: rest) left
  | online {response : Response} {rest : List Exchange} {left : Work Reply} :
      Serving stores request entry f .networkFirst (⟨.fetch request, .ok response⟩ :: rest) left
  | offline {failure : FetchFailure}
      {next : Except Store.Failure (Option Store.Entry) → Work Reply} :
      Serving stores request entry f .networkFirst [⟨.fetch request, .error failure⟩]
        (.ask (.storage (.matchAny (.ofRequest request))) next)
  | servedOffline {failure : FetchFailure} {rest : List Exchange} {left : Work Reply}
      (leads : Work.Leads (f (.ok (.ofCache entry))) rest left) :
      Serving stores request entry f .networkFirst
        (⟨.fetch request, .error failure⟩ :: lookedUp request (.ok (some entry)) :: rest) left
  | missedOffline {failure : FetchFailure} {lost : Store.Failure} {rest : List Exchange}
      {left : Work Reply} :
      Serving stores request entry f .networkFirst
        (⟨.fetch request, .error failure⟩ :: lookedUp request (.error lost) :: rest) left

/-- All lookups of the request among the exchanges find the entry, if they do not fail. -/
def Finds (request : Request) (entry : Store.Entry) (history : List Exchange) : Prop :=
  ∀ answer, lookedUp request answer ∈ history →
    answer = .ok (some entry) ∨ ∃ failure, answer = .error failure

theorem serving_staleWhileRevalidate {history : List Exchange} {left : Work Reply}
    (leads : Work.Leads (staleWhileRevalidate.run stores request >>= f) history left)
    (finds : Finds request entry history) :
    Serving stores request entry f .staleWhileRevalidate history left := by
  obtain ⟨rfl, rfl⟩ | ⟨answer, rest, rfl, afterLookup⟩ := Work.leads_ask_iff.mp leads
  · exact .begun _
  obtain rfl | ⟨failure, rfl⟩ := finds answer List.mem_cons_self
  · obtain ⟨rfl, rfl⟩ | ⟨ticket, rest, rfl, afterStart⟩ := Work.leads_ask_iff.mp afterLookup
    · exact .found
    · exact .served afterStart
  · exact .missed

theorem serving_networkFirst {history : List Exchange} {left : Work Reply}
    (leads : Work.Leads (networkFirst.run stores request >>= f) history left)
    (finds : Finds request entry history) :
    Serving stores request entry f .networkFirst history left := by
  obtain ⟨rfl, rfl⟩ | ⟨failure | response, rest, rfl, afterFetch⟩ := Work.leads_ask_iff.mp leads
  · exact .begun _
  · obtain ⟨rfl, rfl⟩ | ⟨answer, rest, rfl, afterLookup⟩ := Work.leads_ask_iff.mp afterFetch
    · exact .offline
    · obtain rfl | ⟨lost, rfl⟩ := finds answer (List.mem_cons_of_mem _ List.mem_cons_self)
      · exact .servedOffline afterLookup
      · exact .missedOffline
  · exact .online

/-- **A refresh is visible unless an older store hides it.** In stores that only calls have written
to: once a response is written under the key of a request, and as long as nobody writes under the
same hash or deletes a store, every call that begins later and looks in all stores finds what an
older store held at the time of the write, and if there is none, the response. -/
theorem serving_of_refreshed {calls : Activity → Prop} {agents : List Agent}
    {tables : Store.Tables} {order : Strategy} {response : Response} {store : String}
    {writer number : Nat} {purpose : Purpose} {work : Work Reply}
    {before between after : List Event} {mid t : System} (horder : order ≠ .cacheFirst)
    (intact : tables.Intact)
    (lead : Run calls (.new agents tables) (before ++
      .act writer ⟨.storage (.put store (.ofRequest request) response), .ok ()⟩ :: between) mid)
    (begins : mid.tasks[number]? = some ⟨purpose, order.run stores request >>= f⟩)
    (run : Run calls mid after t)
    (here : t.tasks[number]? = some ⟨purpose, work⟩)
    (hquiet : ∀ event ∈ between ++ after, ¬event.Disturbs (Store.Key.ofRequest request).hash) :
    ∃ old now, Run calls (.new agents tables) before old ∧ now.IsClock ∧
      Serving stores request
        ((old.tables.olderCopy? store (.ofRequest request)).getD
          ⟨.ofRequest request, response, now⟩)
        f order (history number after) work := by
  obtain ⟨old, first, next, write, rest⟩ := run_append.mp lead
  have hold := first.intact intact
  obtain ⟨now, hclock, hwritten⟩ := write.matchAny_put hold
  have hnext := write.intact hold
  have hmid := rest.matchAny hnext
    (fun event hmem => hquiet event (List.mem_append_left _ hmem)) hwritten
  have finds : Finds request _ (history number after) := fun answer hmem =>
    run.answer_matchAny (rest.intact hnext)
      (fun event hmem => hquiet event (List.mem_append_right _ hmem)) hmid (mem_history.mp hmem)
  obtain ⟨left, hleft, leads⟩ := run.leads_of_task begins
  obtain ⟨-, rfl⟩ := Task.mk.inj (Option.some.inj (hleft.symm.trans here))
  refine ⟨old, now, first, hclock, ?_⟩
  cases order with
  | networkFirst => exact serving_networkFirst leads finds
  | staleWhileRevalidate => exact serving_staleWhileRevalidate leads finds
  | cacheFirst => exact absurd rfl horder

/-- What an active agent makes of a strategy's answer. -/
def delivered (agent : Agent) (request : Request) (kind : RequestClass) :
    Except Failure Served → Work Reply
  | .ok served => .done (.served served)
  | .error _ => do return .served (← Fallback.resolve agent.settings.offlinePage request kind)

/-- A call of an active agent is a call of the strategy for the class of the request. -/
theorem fetch_work {agent : Agent} {kind : RequestClass}
    (hkind : RequestClass.ofRequest? agent.settings request = some kind) :
    ∃ next : Lifecycle.State → Work Reply,
      (Activity.fetch agent request).work = .ask (.lifecycle agent.number .read) next ∧
        next .active = kind.strategy.run agent.stores request >>= delivered agent request kind := by
  refine ⟨_, rfl, ?_⟩
  simp only [Work.bind, ne_eq, not_true_eq_false, if_false, hkind]
  refine (Work.bind_assoc _ _ _).trans (congrArg _ (funext fun outcome => ?_))
  cases outcome with
  | ok served => rfl
  | error failure => exact Work.bind_assoc _ _ _

theorem leads_reading {agent : Agent} {kind : RequestClass}
    (hkind : RequestClass.ofRequest? agent.settings request = some kind) :
    Work.Leads (Activity.fetch agent request).work [⟨.lifecycle agent.number .read, .active⟩]
      (kind.strategy.run agent.stores request >>= delivered agent request kind) := by
  obtain ⟨next, hwork, hactive⟩ := fetch_work hkind
  rw [hwork]
  refine .step ?_
  rw [hactive]
  exact .refl _

/-! ### A precached page that is refreshed -/

namespace Shell

open Kiosk (shell frontPage class_frontPage isStorable_frontPage loading leads_loading)
open Lifecycle (installation activation)
open Moment (noon isClock_noon)

def edition (number : String) : Response := .new 200 number

theorem class_shell : RequestClass.ofRequest? shell.settings frontPage = some .navigation :=
  class_frontPage

theorem key_shell_origin : Store.Key.ofRequest (.get shell.origin) = .ofRequest frontPage := by
  decide +kernel

theorem shell_stores_ne : shell.stores.static ≠ shell.stores.dynamic := by decide

theorem edition_ne : edition "first" ≠ edition "second" := by decide

/-- The static store is all there is to be found. -/
def activating : List Exchange :=
  activation shell (.ok [shell.stores.static]) []

def installing : List Exchange :=
  installation shell loading true ++ activating

theorem leads_activating : Work.Leads shell.activate activating (.done (some [])) :=
  Lifecycle.leads_activate (by decide)

theorem leads_installing :
    Work.Leads (Activity.install shell).work installing (.done (.report (some ⟨["/"], []⟩))) :=
  (Lifecycle.leads_install_of_asked leads_loading leads_activating).bind_of_done _

def precached : Store.Entry := ⟨.ofRequest frontPage, edition "first", noon⟩

def precaching : List Exchange :=
  Precache.course shell.stores.static (.get shell.origin) 0 (.ok (edition "first")) (.ok ())

def visiting (ticket : Ticket) : List Exchange :=
  ⟨.lifecycle 0 .read, .active⟩ :: inquiring shell.stores frontPage (.ok (some precached)) ticket

def revalidating (ticket : Ticket) (response : Response) : List Exchange :=
  [⟨.fetch frontPage, .ok response⟩, ⟨.report .revalidation ticket (.ok response), ()⟩]

def keeping (response : Response) : Exchange :=
  ⟨.storage (.put shell.stores.dynamic (.ofRequest frontPage) response), .ok ()⟩

theorem leads_precaching :
    Work.Leads (Purpose.background (.precache shell.stores.static (.get shell.origin)) 0).work
      precaching (.done .ok) :=
  Purpose.leads_precache (key_shell_origin ▸ isStorable_frontPage) _ _

theorem leads_visiting (ticket : Ticket) :
    Work.Leads (Activity.fetch shell frontPage).work (visiting ticket)
      (.done (.served (.ofCache precached))) :=
  Work.leads_append_iff.mpr ⟨_, leads_reading class_shell,
    (leads_inquiring_hit precached ticket).bind_of_done _⟩

theorem leads_revalidating (ticket : Ticket) (number : String) :
    Work.Leads (Purpose.background (.revalidate shell.stores.dynamic frontPage) ticket).work
      (revalidating ticket (edition number) ++ [keeping (edition number)]) (.done .ok) :=
  Purpose.leads_revalidate isStorable_frontPage (.ok (edition number)) (.ok ())

def stocked : Store.Tables :=
  (Store.Tables.empty.openStore shell.stores.static).put shell.stores.static
    (.ofRequest (.get shell.origin)) (edition "first") noon

theorem stocked_intact : stocked.Intact :=
  (Store.Tables.intact_empty.openStore _).put _ _ _ isClock_noon

theorem names_stocked : stocked.names = [shell.stores.static] := by
  have hopen := Store.Tables.intact_empty.openStore shell.stores.static
  rw [stocked, hopen.names_put, Store.Tables.names_empty_openStore,
    if_pos (List.mem_singleton.mpr rfl)]

theorem held?_stocked :
    stocked.held? (.ofRequest frontPage) shell.stores.static = some precached := by
  rw [stocked, key_shell_origin]
  exact Store.Tables.held?_put_self isClock_noon

theorem matchAny_stocked : stocked.matchAny (.ofRequest frontPage) = .ok (some precached) := by
  rw [stocked_intact.matchAny_eq, names_stocked, List.findSome?_cons, held?_stocked]

theorem olderCopy?_stocked :
    stocked.olderCopy? shell.stores.dynamic (.ofRequest frontPage) = some precached := by
  rw [Store.Tables.olderCopy?, names_stocked,
    List.takeWhile_cons_of_pos (by simpa using shell_stores_ne), List.findSome?_cons, held?_stocked]

def visited : List Event :=
  [.call (.install shell)] ++ (installing.take 4).map (.act 0) ++ precaching.map (.act 1) ++
    (installing.drop 4).map (.act 0) ++ [.call (.fetch shell frontPage)] ++
    (visiting 1).map (.act 2) ++ (revalidating 1 (edition "second")).map (.act 3)

/-- The second visit begins when the refreshed page is stored. -/
def returning : List Event :=
  [.call (.fetch shell frontPage), .act 4 ⟨.lifecycle 0 .read, .active⟩]

theorem returning_runs : ∃ mid, Run (fun _ => True) (.new [shell] .empty)
      (visited ++ .act 3 (keeping (edition "second")) :: returning) mid ∧
    mid.tasks[4]? = some ⟨.call (.fetch shell frontPage),
      staleWhileRevalidate.run shell.stores frontPage >>= delivered shell frontPage .navigation⟩ ∧
    mid.tables.matchAny (.ofRequest frontPage) = .ok (some precached) ∧
    mid.nextTicket = 2 ∧ mid.tasks.length = 5 ∧
    mid.posted = [⟨.precache, 0, .ok ()⟩, ⟨.revalidation, 1, .ok (edition "second")⟩] := by
  obtain ⟨loaded, hloading, hloaded⟩ := Work.leads_append_iff.mp
    (show Work.Leads _ (installing.take 4 ++ installing.drop 4) _ from leads_installing)
  obtain ⟨left, hrevalidating, hkeeping⟩ := Work.leads_append_iff.mp (leads_revalidating 1 "second")
  refine ⟨_, .append (.append (.append (.append (.append (.append (.append (.call trivial)
    (.of_leads hloading rfl
      ⟨_, .moved rfl, _, .moved rfl, _, .performed isClock_noon rfl, _, .begun rfl, rfl⟩))
    (.of_leads leads_precaching rfl
      ⟨_, .fetched _, _, .performed isClock_noon rfl, _, .reported, rfl⟩))
    (.of_leads hloaded rfl
      ⟨_, .awaited rfl, _, .moved rfl, _, .moved rfl, _, .moved rfl,
        _, .enumerated names_stocked, _, .moved rfl, rfl⟩))
    (.call trivial))
    (.of_leads (leads_visiting 1) rfl
      ⟨_, .moved rfl, _, .matched matchAny_stocked, _, .begun rfl, rfl⟩))
    (.of_leads hrevalidating rfl ⟨_, .fetched _, _, .reported, rfl⟩))
    (.append (.of_leads hkeeping rfl ⟨_, .performed isClock_noon rfl, rfl⟩)
      (.append (.call trivial)
        (.of_leads (leads_reading class_shell) rfl ⟨_, .moved rfl, rfl⟩))),
    rfl, ?_, rfl, rfl, rfl⟩
  change (stocked.put shell.stores.dynamic (.ofRequest frontPage) (edition "second")
    noon).matchAny (.ofRequest frontPage) = _
  rw [stocked_intact.matchAny_put isClock_noon, olderCopy?_stocked]
  rfl

/-- A lookup that finds what was loaded on installation. -/
def reading : List Exchange :=
  inquiring shell.stores frontPage (.ok (some precached)) 2

theorem reading_runs {mid : System} (hticket : mid.nextTicket = 2)
    (hfound : mid.tables.matchAny (.ofRequest frontPage) = .ok (some precached))
    (here : mid.tasks[4]? = some ⟨.call (.fetch shell frontPage),
      staleWhileRevalidate.run shell.stores frontPage >>= delivered shell frontPage .navigation⟩) :
    ∃ t, Run (fun _ => True) mid (reading.map (.act 4)) t ∧
      t.tasks[4]? = some ⟨.call (.fetch shell frontPage),
        .done (.served (.ofCache precached))⟩ := by
  have hlt := (List.getElem?_eq_some_iff.mp here).1
  refine ⟨_, .of_leads (.step (.step (.refl _))) here
    ⟨_, .matched hfound, _, .begun hticket.symm, rfl⟩,
    List.getElem?_set_self ?_⟩
  rw [List.length_append]
  exact Nat.lt_add_right _ hlt

/-- A lookup that fails, and the network's response in its place. -/
def missing : List Exchange :=
  inquiring shell.stores frontPage (.error .unavailable) 2 ++
    [⟨.await .revalidation 2, .ok (edition "third")⟩]

theorem leads_missing : Work.Leads
    (staleWhileRevalidate.run shell.stores frontPage >>= delivered shell frontPage .navigation)
    missing (.done (.served (.ofNetwork (edition "third")))) :=
  .step (.step (.step (.refl _)))

/-- The lookup fails, and the visitor waits for the network. -/
def waiting : List Event :=
  (missing.take 2).map (.act 4) ++ (revalidating 2 (edition "third")).map (.act 5) ++
    (missing.drop 2).map (.act 4)

theorem waiting_runs {mid : System} (hticket : mid.nextTicket = 2) (hlength : mid.tasks.length = 5)
    (hposted : mid.posted =
      [⟨.precache, 0, .ok ()⟩, ⟨.revalidation, 1, .ok (edition "second")⟩])
    (here : mid.tasks[4]? = some ⟨.call (.fetch shell frontPage),
      staleWhileRevalidate.run shell.stores frontPage >>= delivered shell frontPage .navigation⟩) :
    ∃ t, Run (fun _ => True) mid waiting t ∧
      t.tasks[4]? = some ⟨.call (.fetch shell frontPage),
        .done (.served (.ofNetwork (edition "third")))⟩ := by
  obtain ⟨asking, hlookup, hawait⟩ := Work.leads_append_iff.mp
    (show Work.Leads _ (missing.take 2 ++ missing.drop 2) _ from leads_missing)
  obtain ⟨left, hrevalidating, -⟩ := Work.leads_append_iff.mp (leads_revalidating 2 "third")
  obtain ⟨started, run, hasking, hjob, hbefore⟩ :
      ∃ s, Run (fun _ => True) mid ((missing.take 2).map (.act 4)) s ∧
        s.tasks[4]? = some ⟨.call (.fetch shell frontPage), asking⟩ ∧
        s.tasks[5]? =
          some (Purpose.background (.revalidate shell.stores.dynamic frontPage) 2).task ∧
        s.posted = mid.posted := by
    refine ⟨_, .of_leads hlookup here ⟨_, .failed _, _, .begun hticket.symm, rfl⟩,
      ?_, ?_, rfl⟩
    · exact List.getElem?_set_self (by simp [hlength])
    · simp [System.setTask, hlength, hticket]
  have hwaiting (job : Task) : (started.setTask 5 job).tasks[4]? =
      some ⟨.call (.fetch shell frontPage), asking⟩ := by
    rwa [System.setTask, List.getElem?_set_ne (by decide)]
  refine ⟨_, (run.append (.of_leads hrevalidating hjob ⟨_, .fetched _, _, .reported, rfl⟩)).append
    (.of_leads hawait (hwaiting _) ⟨_, .awaited ?_, rfl⟩), List.getElem?_set_self ?_⟩
  · simp [System.setTask, hbefore, hposted, World.Posted.outcome?]
  · exact (List.getElem?_eq_some_iff.mp (hwaiting _)).1

theorem not_disturbs : ∀ event ∈ returning ++ (reading.map (.act 4) ++ waiting),
    ¬event.Disturbs (Store.Key.ofRequest frontPage).hash := by
  simp [returning, reading, waiting, missing, revalidating, inquiring, lookedUp, Event.Disturbs,
    Store.Call.Disturbs]

/-- Nothing comes between the refresh and the second visit. The visit is served the copy of the
older store and not the refreshed one, or the network's response, if its lookup fails. -/
theorem refreshed_not_served :
    ∃ mid, Run (fun _ => True) (.new [shell] .empty)
        (visited ++ .act 3 (keeping (edition "second")) :: returning) mid ∧
      (∀ event ∈ returning ++ (reading.map (.act 4) ++ waiting),
        ¬event.Disturbs (Store.Key.ofRequest frontPage).hash) ∧
      (∃ t, Run (fun _ => True) mid (reading.map (.act 4)) t ∧
        t.tasks[4]? = some ⟨.call (.fetch shell frontPage), .done (.served (.ofCache precached))⟩ ∧
        precached.response ≠ edition "second") ∧
      ∃ t, Run (fun _ => True) mid waiting t ∧
        t.tasks[4]? = some ⟨.call (.fetch shell frontPage),
          .done (.served (.ofNetwork (edition "third")))⟩ := by
  obtain ⟨mid, run, here, hfound, hticket, hlength, hposted⟩ := returning_runs
  obtain ⟨t, hreading, hserved⟩ := reading_runs hticket hfound here
  exact ⟨mid, run, not_disturbs, ⟨t, hreading, hserved, edition_ne⟩,
    waiting_runs hticket hlength hposted here⟩

/-- The second visit as a call that begins after a refresh. -/
theorem serving_second_visit :
    ∃ (old t : System) (now : Moment),
      Run (fun _ => True) (.new [shell] .empty) visited old ∧ now.IsClock ∧
      t.tasks[4]? = some ⟨.call (.fetch shell frontPage), .done (.served (.ofCache precached))⟩ ∧
      Serving shell.stores frontPage
        ((old.tables.olderCopy? shell.stores.dynamic (.ofRequest frontPage)).getD
          ⟨.ofRequest frontPage, edition "second", now⟩)
        (delivered shell frontPage .navigation) .staleWhileRevalidate
        (history 4 (reading.map (.act 4))) (.done (.served (.ofCache precached))) := by
  obtain ⟨mid, run, here, hfound, hticket, -⟩ := returning_runs
  obtain ⟨t, hreading, hserved⟩ := reading_runs hticket hfound here
  obtain ⟨old, now, lead, hclock, serving⟩ := serving_of_refreshed (by decide)
    Store.Tables.intact_empty run here hreading hserved fun event hmem =>
      not_disturbs event (by
        obtain hbetween | hafter := List.mem_append.mp hmem
        · exact List.mem_append_left _ hbetween
        · exact List.mem_append_right _ (List.mem_append_left _ hafter))
  exact ⟨old, t, now, lead, hclock, hserved, serving⟩

end Shell

end OfflineAgent.Strategy
