import OfflineAgent.Proofs.Lifecycle.Activation
import OfflineAgent.Proofs.Strategies.Answer

/-!
# An agent keeps to its own two stores

An agent never adds to any store but its own two. So when its activation could enumerate the stores
and delete all others, these two are all there is from then on, and every stored copy that the agent
serves was read from one of them.
-/

namespace OfflineAgent

open Simulation Interleaving

/-! ### What the server hands its agent -/

/-- What the server makes of what becomes of a request. -/
def Server.relay (request : Request) : Verdict → Work Server.Answer
  | .respond served => .done (.ofResponse served.response (some served.source))
  | .passThrough => do
    match ← .fetch request with
    | .ok response => return .ofResponse response none
    | .error failure => return .text 502 failure.message

theorem Server.answer_eq {agent : Agent} {incoming : Server.Incoming} {request : Request}
    (hpath : Server.Endpoint.ofPath? incoming.target.path = none)
    (hrequest : incoming.toRequest? agent.origin = some request) :
    Server.answer agent incoming = agent.handle request >>= Server.relay request := by
  have hrelay : Server.intercept agent incoming =
      agent.handle request >>= Server.relay request := by
    rw [Server.intercept, hrequest]
    refine congrArg (agent.handle request >>= ·) (funext fun verdict => ?_)
    cases verdict <;> rfl
  rw [← hrelay, Server.answer, hpath]

theorem serve_work_eq {agent : Agent} {incoming : Server.Incoming} {request : Request}
    (hrequest : (Activity.serve agent incoming).request? = some request) :
    (Activity.serve agent incoming).work =
      (agent.handle request >>= Server.relay request) >>= fun answer => .done (.answer answer) := by
  obtain ⟨hpath, hincoming⟩ := Option.ite_none_right_eq_some.mp hrequest
  rw [← Server.answer_eq hpath hincoming]
  rfl

/-! ### What is added to which stores -/

def Op.store? : Op → Option String
  | .storage (.openStore name) => some name
  | .storage (.put store _ _) => some store
  | .start job => some job.store
  | _ => none

def Op.KeepsTo (stores : List String) (op : Op) : Prop :=
  ∀ name, op.store? = some name → name ∈ stores

theorem Op.Opens.store?_eq {op : Op} {name : String} (opens : op.Opens name) :
    op.store? = some name := by
  cases op with
  | storage call =>
      cases call with
      | openStore | put => exact congrArg some opens
      | get | matchAny | names | delete => exact opens.elim
  | fetch | lifecycle | start | report | await => exact opens.elim

theorem Op.IsQuiet.store?_eq {op : Op} (quiet : op.IsQuiet) : op.store? = none := by
  cases op with
  | storage call =>
      cases call with
      | openStore | put => exact quiet.elim
      | get | matchAny | names | delete => rfl
  | start | report => exact quiet.elim
  | fetch | lifecycle | await => rfl

theorem Op.IsQuiet.keepsTo {op : Op} {stores : List String} (quiet : op.IsQuiet) :
    op.KeepsTo stores := by
  intro name hstore
  rw [quiet.store?_eq] at hstore
  cases hstore

theorem Op.keepsTo_of_mem {op : Op} {stores : List String} {name : String}
    (hstore : op.store? = some name) (hmem : name ∈ stores) : op.KeepsTo stores := by
  intro other hother
  obtain rfl := Option.some.inj (hstore.symm.trans hother)
  exact hmem

theorem Agent.admits_keepsTo (agent : Agent) :
    agent.Admits True (fun _ => True) (Op.KeepsTo agent.settings.whitelist) where
  quiet _ quiet := quiet.keepsTo
  opens _ := Op.keepsTo_of_mem rfl static_mem_whitelist
  loads _ _ _ _ := Op.keepsTo_of_mem rfl static_mem_whitelist
  keeps _ _ _ _ hstore _ _ := Op.keepsTo_of_mem rfl hstore
  revalidates _ _ := Op.keepsTo_of_mem rfl dynamic_mem_whitelist

theorem Job.keepsTo {job : Job} {ticket : Ticket} {stores : List String}
    (hstore : job.store ∈ stores) : (job.work ticket).Asks (Op.KeepsTo stores) :=
  job.asks_work nofun (fun _ _ => nofun) fun _ _ _ => Op.keepsTo_of_mem rfl hstore

namespace Lifecycle

/-! ### What an activation leaves -/

/-- A store that an activation had to delete, and could, is listed only if somebody listed it after
the enumeration. -/
theorem opened_after_activation {calls : Activity → Prop} {s t : System} {events : List Event}
    (run : Run calls s events t) {agent : Agent} {number : Nat} {found : List String}
    {deleted : List (String × Except Store.Failure Bool)}
    (hactivation : activation agent (.ok found) deleted <:+: history number events)
    (hstale : deleted.map Prod.fst = stale agent (.ok found))
    (hdeleted : ∀ deletion ∈ deleted, ∃ gone, deletion.2 = .ok gone) {name : String}
    (hforeign : name ∉ agent.settings.whitelist) (hlisted : name ∈ t.tables.names) :
    ∃ before after, events = before ++ .act number ⟨.storage .names, .ok found⟩ :: after ∧
      ∃ acting exchange, .act acting exchange ∈ after ∧ exchange.op.Opens name := by
  obtain ⟨lead, tail, hhistory⟩ := hactivation
  have hsplit : history number events =
      (lead ++ [beginning agent]) ++ ⟨.storage .names, .ok found⟩ ::
        (deletions deleted ++
          [⟨.lifecycle agent.number (.advance .activating .active), true⟩] ++ tail) := by
    rw [← hhistory, activation]
    simp
  obtain ⟨first, second, rfl, -, hsecond⟩ := history_eq_append hsplit
  obtain ⟨skipped, after, rfl, -, hafter⟩ := history_eq_cons hsecond
  rw [← List.append_assoc] at run ⊢
  refine ⟨first ++ skipped, after, rfl, run.opened_of_cleared (fun hfound => ?_) hlisted⟩
  have hmem : name ∈ deleted.map Prod.fst := by
    rw [hstale]
    exact List.mem_filter.mpr ⟨hfound, by simpa using hforeign⟩
  obtain ⟨⟨gone, answer⟩, hdeletion, rfl⟩ := List.mem_map.mp hmem
  obtain ⟨value, rfl⟩ := hdeleted _ hdeletion
  refine ⟨number, value, mem_history.mp ?_⟩
  rw [hafter]
  have hexchange : (⟨.storage (.delete gone), .ok value⟩ : Exchange) ∈ deletions deleted :=
    List.mem_map.mpr ⟨_, hdeletion, rfl⟩
  exact List.mem_append_left _ (List.mem_append_left _ hexchange)

/-- Whenever the agent has gone through an activation, it could enumerate the stores and delete
every one that it had to. -/
def Thorough (agent : Agent) (events : List Event) : Prop :=
  ∀ number found deleted, activation agent found deleted <:+: history number events →
    (∃ names, found = .ok names) ∧ ∀ deletion ∈ deleted, ∃ gone, deletion.2 = .ok gone

/-- A call hands the agent the request, and the agent responds. -/
structure Serves (agent : Agent) (events : List Event) (t : System) (number : Nat)
    (request : Request) (served : Served) : Prop where
  called : ∃ activity work, t.tasks[number]? = some ⟨.call activity, work⟩ ∧
    activity.request? = some request
  responds : Work.Leads (agent.handle request) (history number events) (.done (.respond served))

/-- What is served is an entry that the task read when a row of one of these stores held it. -/
def ReadFrom (calls : Activity → Prop) (s : System) (events : List Event) (number : Nat)
    (stores : List String) (served : Served) : Prop :=
  ∃ entry recourse exchange before after mid row,
    served = .ofCache entry ∧ exchange.attempt? = some ⟨recourse, some served⟩ ∧
      events = before ++ .act number exchange :: after ∧ Run calls s before mid ∧
      row ∈ mid.tables.entries ∧ row.store ∈ stores ∧ row.Holds entry

section

variable {agent : Agent} {tables : Store.Tables} {before after events : List Event}
  {s mid t : System} {number : Nat}

theorem keepsTo_of_run (run : Run (fun activity => agentOf? activity = some agent) s events t)
    (fresh : s.tasks = []) {exchange : Exchange} (hmem : .act number exchange ∈ events) :
    exchange.op.KeepsTo agent.settings.whitelist :=
  run.asks fresh
    (fun _ hagent => agent.admits_keepsTo.activity hagent (fun _ => trivial) fun _ _ => trivial)
    (fun _ _ keeps => Job.keepsTo (keeps _ rfl)) hmem

theorem Thorough.of_append (thorough : Thorough agent (before ++ after)) :
    Thorough agent before := by
  intro number found deleted hactivation
  refine thorough number found deleted ?_
  rw [history_append]
  exact hactivation.trans (List.prefix_append _ _).isInfix

/-- From the moment on in which the agent is active only its own stores are listed. -/
theorem names_of_active
    (lead : Run (fun activity => agentOf? activity = some agent) (.new [agent] tables) before mid)
    (hactive : (mid.cells agent.number).state = .active) (thorough : Thorough agent before)
    (rest : Run (fun activity => agentOf? activity = some agent) mid after t) {name : String}
    (hlisted : name ∈ t.tables.names) : name ∈ agent.settings.whitelist := by
  have moves : Run (On agent true) (.new [agent] tables) before mid :=
    lead.mono fun activity hagent => ⟨hagent, fun _ => rfl⟩
  obtain ⟨number, found, deleted, hstale, hactivation⟩ := reconciled_of_run moves hactive
  obtain ⟨⟨names, rfl⟩, hdeleted⟩ := thorough number found deleted hactivation
  have run := lead.append rest
  have hlater : activation agent (.ok names) deleted <:+: history number (before ++ after) := by
    rw [history_append]
    exact hactivation.trans (List.prefix_append _ _).isInfix
  by_contra hforeign
  obtain ⟨first, last, hevents, acting, exchange, hmem, hopens⟩ :=
    opened_after_activation run hlater hstale hdeleted hforeign hlisted
  have hopener : .act acting exchange ∈ before ++ after := by
    rw [hevents]
    exact List.mem_append_right _ (List.mem_cons_of_mem _ hmem)
  exact hforeign (keepsTo_of_run run rfl hopener name hopens.store?_eq)

/-- The one store that the agent looks into on its own is its static store. -/
theorem store_of_recourse {request : Request} {kind : RequestClass} {store : String}
    {key : Store.Key} (hmem : .stored (some store) key ∈ agent.recourses request kind) :
    store = agent.stores.static := by
  have hpage : .stored (some store) key ∉
      Fallback.pageRecourses agent.settings.offlinePage request kind := by
    unfold Fallback.pageRecourses
    split <;> simp
  cases kind with
  | staticAsset =>
      have hboth : store = agent.stores.static ∧ key = .ofRequest request := by
        simpa [Agent.recourses, hpage] using hmem
      exact hboth.1
  | api | navigation | other => simp [Agent.recourses, hpage] at hmem

/-- A response from the stores is what the call found with one of its recourses, after it had read
that the agent is active. -/
theorem Serves.found {request : Request} {served : Served}
    (serves : Serves agent events t number request served) (hsource : served.source = .cache) :
    ∃ kind rest recourse exchange,
      history number events = ⟨.lifecycle agent.number .read, .active⟩ :: rest ∧
        exchange ∈ rest ∧ recourse ∈ agent.recourses request kind ∧
        exchange.attempt? = some ⟨recourse, some served⟩ := by
  obtain ⟨-, hdone⟩ | ⟨state, rest, hhistory, ⟨-, hpass, -⟩ | ⟨kind, rfl, -, hsettling⟩⟩ :=
    leads_handle serves.responds
  · rw [handle_eq] at hdone
    cases hdone
  · cases hpass
  obtain ⟨course, hafter, found, hfound, settles⟩ := hsettling.follows (follows_settle kind)
  obtain rfl := Verdict.respond.inj hfound
  obtain tried | ⟨-, offline⟩ := (answered_of_settles hafter settles).first
  · obtain ⟨recourse, hrecourse, hattempt⟩ := tried.of_hit
    obtain ⟨exchange, hmem, hexchange⟩ := List.mem_filterMap.mp hattempt
    exact ⟨kind, rest, recourse, exchange, hhistory, hmem, hrecourse, hexchange⟩
  · rw [offline.source] at hsource
    cases hsource

theorem serves_of_served {calls : Activity → Prop} (run : Run calls s events t)
    (fresh : s.tasks = []) {request : Request} {served : Served}
    (here : t.tasks[number]? = some ⟨.call (.fetch agent request), .done (.served served)⟩) :
    Serves agent events t number request served := by
  obtain ⟨leads, -⟩ := run.leads fresh number _ here
  refine ⟨⟨_, _, here, rfl⟩, ?_⟩
  have hwork : (Purpose.call (.fetch agent request)).work =
      agent.handle request >>= fun verdict => .done verdict.reply := fetch_work_eq
  rw [hwork] at leads
  obtain ⟨verdict, hverdict, hreply⟩ := Work.exists_of_leads_bind_done leads
  cases verdict with
  | passThrough => cases hreply
  | respond found =>
      obtain rfl : served = found := Reply.served.inj hreply
      exact hverdict

theorem thorough_of_answered
    (hnames : ∀ number found, .act number ⟨.storage .names, found⟩ ∈ events →
      ∃ names, found = .ok names)
    (hdeletes : ∀ number name answer, .act number ⟨.storage (.delete name), answer⟩ ∈ events →
      ∃ gone, answer = .ok gone) : Thorough agent events := by
  intro number found deleted hactivation
  refine ⟨hnames number found (mem_history.mp (hactivation.subset ?_)), ?_⟩
  · exact List.mem_cons_of_mem _ List.mem_cons_self
  · rintro ⟨name, answer⟩ hdeletion
    have hexchange : (⟨.storage (.delete name), answer⟩ : Exchange) ∈ deletions deleted :=
      List.mem_map.mpr ⟨_, hdeletion, rfl⟩
    refine hdeletes number name answer (mem_history.mp (hactivation.subset ?_))
    exact List.mem_cons_of_mem _ (List.mem_cons_of_mem _ (List.mem_append_left _ hexchange))

/-- What is read with a recourse of the agent, while it has no other stores, comes from its own. -/
theorem readFrom_of_attempt {calls : Activity → Prop} {request : Request} {kind : RequestClass}
    {recourse : Recourse} {exchange : Exchange} {served : Served} (lead : Run calls s before mid)
    (step : Interleaving.Step calls mid (.act number exchange) t)
    (hrecourse : recourse ∈ agent.recourses request kind)
    (hattempt : exchange.attempt? = some ⟨recourse, some served⟩)
    (hsource : served.source = .cache)
    (hlisted : ∀ name ∈ mid.tables.names, name ∈ agent.settings.whitelist) :
    ReadFrom calls s (before ++ .act number exchange :: after) number agent.settings.whitelist
      served := by
  obtain ⟨entry, hserved, ⟨store, key, rfl, rfl⟩ | ⟨key, rfl, -⟩⟩ | ⟨response, rfl⟩ :=
    of_attempt_found hattempt
  · obtain ⟨now, -, hanswer, -⟩ := step.answered
    obtain ⟨row, hrow, hstore, holds⟩ := Store.Tables.holds_of_get hanswer
    refine ⟨entry, _, _, before, after, mid, row, hserved, hattempt, rfl, lead, hrow, ?_, holds⟩
    rw [hstore, store_of_recourse hrecourse]
    exact Agent.static_mem_whitelist
  · obtain ⟨now, -, hanswer, -⟩ := step.answered
    obtain ⟨row, hrow, hstore, holds⟩ := Store.Tables.holds_of_matchAny hanswer
    exact ⟨entry, _, _, before, after, mid, row, hserved, hattempt, rfl, lead, hrow,
      hlisted _ hstore, holds⟩
  · cases hsource

/-- **An agent keeps to its own two stores.** In every run of any number of calls on one agent, on
stores that hold anything at first, with any faults and in any order, where the activation of the
agent could enumerate the stores and delete each that it had to: from the moment on in which the
agent is active only its two stores are listed, and whatever it serves from the stores is an entry
that was read when a row of one of the two held it. -/
theorem own_stores_once_active
    (run : Run (fun activity => agentOf? activity = some agent) (.new [agent] tables) events t)
    (thorough : Thorough agent events) :
    (∀ before after mid, events = before ++ after →
        Run (fun activity => agentOf? activity = some agent) (.new [agent] tables) before mid →
        (mid.cells agent.number).state = .active →
        Run (fun activity => agentOf? activity = some agent) mid after t →
        ∀ name ∈ t.tables.names, name ∈ agent.settings.whitelist) ∧
      ∀ number request served, Serves agent events t number request served →
        served.source = .cache →
        ReadFrom (fun activity => agentOf? activity = some agent) (.new [agent] tables) events
          number agent.settings.whitelist served := by
  refine ⟨?_, fun number request served serves hsource => ?_⟩
  · rintro before after mid rfl lead hactive rest name hlisted
    exact names_of_active lead hactive thorough.of_append rest hlisted
  obtain ⟨kind, rest, recourse, exchange, hhistory, hmem, hrecourse, hattempt⟩ :=
    serves.found hsource
  obtain ⟨before, after, rfl, -, rfl⟩ := history_eq_cons hhistory
  obtain ⟨first, last, rfl⟩ := List.append_of_mem (mem_history.mp hmem)
  obtain ⟨mid, lead, further⟩ := run_append.mp run
  have hactive : (mid.cells agent.number).state = .active := by
    obtain ⟨_, step, -⟩ := further
    cases step with
    | act here answers => exact answers.1.symm
  rw [← List.cons_append] at further ⊢
  obtain ⟨reading, between, next, step, -⟩ := run_append.mp further
  rw [← List.append_assoc]
  exact readFrom_of_attempt (lead.append between) step hrecourse hattempt hsource
    fun name hname => names_of_active lead hactive thorough.of_append between hname

end

/-! ### A visit after an update -/

open Kiosk (patient frontPage page class_frontPage settingUp settingUp_runs)
open Moment (noon isClock_noon)

def remembered : Store.Entry := ⟨.ofRequest frontPage, page, noon⟩

/-- The stores hold the front page, and one of another version is left over. -/
def leftover : Store.Tables :=
  (Store.Tables.empty.put patient.stores.dynamic (.ofRequest frontPage) page noon).openStore
    "stowaway-static-v0"

def updating : List Exchange :=
  activation patient (.ok [patient.stores.dynamic, "stowaway-static-v0"])
    [("stowaway-static-v0", .ok true)]

def visiting : List Exchange :=
  ⟨.lifecycle 0 .read, .active⟩ ::
    Strategy.inquiring patient.stores frontPage (.ok (some remembered)) 0

/-- The agent is installed with its stores out of reach, and deletes the leftover store. -/
def update : List Event :=
  settingUp ++ [.call (.activate patient)] ++ updating.map (.act 1)

def visitAfterUpdate : List Event :=
  update ++ ([.call (.fetch patient frontPage)] ++ visiting.map (.act 2))

theorem leads_updating :
    Work.Leads (Activity.activate patient).work updating
      (.done (.deleted (some ["stowaway-static-v0"]))) :=
  (leads_activate (by decide)).bind_of_done _

theorem leads_visiting :
    Work.Leads (Activity.fetch patient frontPage).work visiting
      (.done (.served (.ofCache remembered))) := by
  have hclass : RequestClass.ofRequest? patient.settings frontPage = some .navigation :=
    class_frontPage
  rw [fetch_work_eq]
  exact (responds_of_run hclass (Strategy.leads_inquiring_hit remembered 0)).bind_of_done _

theorem intact_leftover : leftover.Intact :=
  (Store.Tables.intact_empty.put _ _ _ isClock_noon).openStore _

theorem names_leftover : leftover.names = [patient.stores.dynamic, "stowaway-static-v0"] := by
  have hput := Store.Tables.intact_empty.put patient.stores.dynamic (.ofRequest frontPage) page
    isClock_noon
  have hother : "stowaway-static-v0" ∉ [patient.stores.dynamic] := by decide
  rw [leftover, hput.names_openStore, Store.Tables.intact_empty.names_put,
    Store.Tables.names_empty, if_neg List.not_mem_nil, List.nil_append, if_neg hother]
  rfl

theorem matchAny_leftover :
    (leftover.delete "stowaway-static-v0").matchAny (.ofRequest frontPage) =
      .ok (some remembered) := by
  have hne : patient.stores.dynamic ≠ "stowaway-static-v0" := by decide
  have hnames : (leftover.delete "stowaway-static-v0").names = [patient.stores.dynamic] := by
    rw [intact_leftover.names_delete, names_leftover, List.filter_cons_of_pos (by simpa using hne)]
    rfl
  have hheld : (leftover.delete "stowaway-static-v0").held? (.ofRequest frontPage)
      patient.stores.dynamic = some remembered := by
    rw [Store.Tables.held?_delete_of_ne hne, leftover, Store.Tables.held?_openStore]
    exact Store.Tables.held?_put_self isClock_noon
  rw [(intact_leftover.delete _).matchAny_eq, hnames, List.findSome?_cons, hheld]

theorem update_runs :
    ∃ mid, Run (fun activity => agentOf? activity = some patient) (.new [patient] leftover)
        update mid ∧
      (mid.cells patient.number).state = .active ∧
      ∃ t, Run (fun activity => agentOf? activity = some patient) mid
          ([.call (.fetch patient frontPage)] ++ visiting.map (.act 2)) t ∧
        t.tasks[2]? = some ⟨.call (.fetch patient frontPage),
          .done (.served (.ofCache remembered))⟩ := by
  have hlisted : leftover.isListed "stowaway-static-v0" = true := by
    rw [intact_leftover.isListed_iff_mem, names_leftover]
    exact List.mem_cons_of_mem _ List.mem_cons_self
  exact ⟨_, .append (.append (settingUp_runs (by rfl) leftover) (.call rfl))
    (.of_leads leads_updating rfl ⟨_, .moved rfl, _, .enumerated names_leftover,
      _, .performed isClock_noon (congrArg Except.ok hlisted.symm), _, .moved rfl, rfl⟩), rfl,
    _, .append (.call rfl) (.of_leads leads_visiting rfl ⟨_, .moved rfl,
      _, .matched matchAny_leftover, _, .begun rfl, rfl⟩), rfl⟩

theorem thorough_visitAfterUpdate : Thorough patient visitAfterUpdate := by
  refine thorough_of_answered ?_ ?_
  · intro number found hmem
    have hfound : number = 1 ∧ found = .ok [patient.stores.dynamic, "stowaway-static-v0"] := by
      simpa [visitAfterUpdate, update, updating, visiting, settingUp, installation, claiming,
        publishing, activation, beginning, deletions, Strategy.inquiring, Strategy.lookedUp]
        using hmem
    exact ⟨_, hfound.2⟩
  · intro number name answer hmem
    have hanswer : number = 1 ∧ (⟨.storage (.delete name), answer⟩ : Exchange) =
        ⟨.storage (.delete "stowaway-static-v0"), .ok true⟩ := by
      simpa [visitAfterUpdate, update, updating, visiting, settingUp, installation, claiming,
        publishing, activation, beginning, deletions, Strategy.inquiring, Strategy.lookedUp]
        using hmem
    obtain ⟨-, hsame⟩ := hanswer
    cases hsame
    exact ⟨true, rfl⟩

theorem own_stores_after_update :
    ∃ t, Run (fun activity => agentOf? activity = some patient) (.new [patient] leftover)
        visitAfterUpdate t ∧
      (∀ name ∈ t.tables.names, name ∈ patient.settings.whitelist) ∧
      ReadFrom (fun activity => agentOf? activity = some patient) (.new [patient] leftover)
        visitAfterUpdate 2 patient.settings.whitelist (.ofCache remembered) := by
  obtain ⟨mid, lead, hactive, t, rest, here⟩ := update_runs
  have run := lead.append rest
  obtain ⟨hnames, hserved⟩ := own_stores_once_active run thorough_visitAfterUpdate
  exact ⟨t, run, hnames _ _ mid rfl lead hactive rest,
    hserved 2 frontPage _ (serves_of_served run rfl here) rfl⟩

end Lifecycle

end OfflineAgent
