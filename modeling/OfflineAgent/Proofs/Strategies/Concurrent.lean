import OfflineAgent.Proofs.Interleaving.Calm
import OfflineAgent.Proofs.Strategies.Stages

/-!
# Requests at the same time

An active agent is called with any number of requests whose keys differ from each other and from
those of the offline pages. Nothing else is under way, the network has one answer for each of them,
and the stores work. Then every task stands at some stage of one of the requests, all that is put is
put for one of them, and what is looked up for a request is what was there before any of them.
-/

namespace OfflineAgent

open Simulation Interleaving
open Store (Key Tables)

variable {agent : Agent} {request : Request} {requests : List Request}
  {network : Request → Except FetchFailure Response} {s t : System} {events : List Event}

/-! ### What a call asks for -/

/-- The key of the offline page that a navigation may fall back to. -/
def Agent.pageKey? (agent : Agent) (request : Request) : Option Key :=
  match RequestClass.ofRequest? agent.settings request,
    request.url.join agent.settings.offlinePage with
  | some .navigation, .ok url => some (.get url)
  | _, _ => none

def Store.Call.lookedUp? : Store.Call → Option Key
  | get _ key | matchAny key => some key
  | openStore _ | put _ _ _ | names | delete _ => none

/-- The key is that of the request, or of the offline page that it may fall back to. -/
def Agent.Seeks (agent : Agent) (request : Request) (key : Key) : Prop :=
  key = .ofRequest request ∨ agent.pageKey? request = some key

/-- What is looked up is the very request, or its offline page. -/
def Op.LooksFor (agent : Agent) (request : Request) : Op → Prop
  | .storage call => ∀ key, call.lookedUp? = some key → agent.Seeks request key
  | _ => True

theorem fetch_asks {allowed : Op → Prop} (hhandle : (agent.handle request).Asks allowed) :
    (Activity.fetch agent request).work.Asks allowed := by
  rw [fetch_work_eq]
  exact hhandle.bind fun _ => trivial

theorem looksFor_fetch (agent : Agent) (request : Request) :
    (Activity.fetch agent request).work.Asks (Op.LooksFor agent request) := by
  have hexact {key : Key} (hkey : some (Key.ofRequest request) = some key) :
      agent.Seeks request key := .inl (Option.some.inj hkey).symm
  refine fetch_asks (Agent.asks_handle trivial (fun kind _ => ?_) fun kind hkind => ?_)
  · cases kind with
    | api | other =>
        exact Strategy.asks_networkFirst trivial (fun _ => hexact) fun _ _ _ _ hput => nomatch hput
    | staticAsset =>
        exact Strategy.asks_cacheFirst (fun _ => hexact) trivial fun _ _ _ _ hput => nomatch hput
    | navigation =>
        exact Strategy.asks_staleWhileRevalidate (fun _ => hexact) trivial fun _ => trivial
  · refine Fallback.asks_resolve (fun _ => hexact) fun url hnavigation hjoin key hkey => .inr ?_
    rw [Agent.pageKey?, hkind, hnavigation, hjoin]
    exact hkey

theorem isTame_fetch {tables : Tables} (hstatic : tables.isListed agent.stores.static)
    (hdynamic : tables.isListed agent.stores.dynamic) :
    (Activity.fetch agent request).work.Asks (Op.IsTame tables) := by
  refine fetch_asks (Agent.asks_handle rfl (fun kind _ => ?_) fun kind _ =>
    Fallback.asks_resolve trivial fun _ _ _ => trivial)
  cases kind with
  | api | other => exact Strategy.asks_networkFirst trivial trivial fun _ _ _ => hdynamic
  | staticAsset => exact Strategy.asks_cacheFirst trivial trivial fun _ _ _ => hstatic
  | navigation => exact Strategy.asks_staleWhileRevalidate trivial hdynamic fun _ => trivial

/-! ### Only requests are under way -/

/-- The agent is active, its two stores are there, and nothing is under way. -/
structure Agent.Ready (agent : Agent) (s : System) : Prop where
  active : (s.cells agent.number).state = .active
  static : s.tables.isListed agent.stores.static
  dynamic : s.tables.isListed agent.stores.dynamic
  idle : s.tasks = []
  unposted : s.posted = []
  unnumbered : s.nextTicket = 0

def Interleaving.Purpose.fetched? : Purpose → Option Request
  | .call (.fetch _ request) => some request
  | _ => none

def Interleaving.System.called (s : System) : List Request :=
  s.purposes.filterMap Purpose.fetched?

/-- The agent is called with one of the requests, and nothing else is called. -/
def Agent.CalledWith (agent : Agent) (requests : List Request) (activity : Activity) : Prop :=
  ∃ request ∈ requests, activity = .fetch agent request

/-- In a calm run the agent is called with some of the requests, with none of them twice. -/
structure Fetching (agent : Agent) (requests : List Request)
    (network : Request → Except FetchFailure Response) (s : System) (events : List Event)
    (t : System) : Prop where
  ready : agent.Ready s
  calm : CalmRun (agent.CalledWith requests) network s events t
  once : t.called.Nodup

/-- How far a task has come with a request of a class. -/
structure Standing (agent : Agent) (request : Request) (kind : RequestClass) (task : Task)
    (history : List Exchange) (first stage : Stage) : Prop where
  class_eq : RequestClass.ofRequest? agent.settings request = some kind
  purpose : (task.purpose = .call (.fetch agent request) ∧ first = kind.first) ∨
    ∃ ticket, task.purpose = .background (.revalidate agent.stores.dynamic request) ticket ∧
      kind = .navigation ∧ first = .asking
  past : Stage.Past (agent.home kind) request first stage history
  follows : task.work.Follows (serving (agent.home kind) request) (fun stage _ => stage.IsOver)
    stage

/-- What becomes of a call: it has not looked at the agent yet, or it passes the request through, or
it handles the request. -/
theorem standing_of_call {work : Work Reply} {history : List Exchange}
    (leads : Work.Leads (Activity.fetch agent request).work history work)
    (hactive : ∀ state, ⟨.lifecycle agent.number .read, state⟩ ∈ history → state = .active) :
    (history = [] ∧ ∃ next, work = .ask (.lifecycle agent.number .read) next) ∨
      (RequestClass.ofRequest? agent.settings request = none ∧
        history = [⟨.lifecycle agent.number .read, .active⟩] ∧ work = .done .passThrough) ∨
      ∃ kind rest stage, history = ⟨.lifecycle agent.number .read, .active⟩ :: rest ∧
        Standing agent request kind ⟨.call (.fetch agent request), work⟩ history kind.first
          stage := by
  rw [fetch_work_eq] at leads
  obtain ⟨left, hleft, rfl⟩ := Work.leads_bind_done leads
  obtain ⟨rfl, rfl⟩ | ⟨state, rest, rfl, hrest⟩ := leads_handle hleft
  · exact .inl ⟨rfl, _, by rw [handle_eq]; rfl⟩
  obtain rfl : state = .active := hactive state List.mem_cons_self
  obtain ⟨rfl, rfl, hnone⟩ | ⟨kind, -, hkind, hrest⟩ := hrest
  · exact .inr (.inl ⟨hnone rfl, rfl, rfl⟩)
  · obtain ⟨stage, hafter, hfollows⟩ := hrest.follows (serves_settle agent request kind)
    have hnotes := Stage.notes_of_after kind.isFirst_first hafter
    exact .inr (.inr ⟨kind, rest, stage, rfl, hkind, .inl ⟨rfl, rfl⟩,
      .of_filter (Stage.past_of_notes hnotes), hfollows.bind fun after _ hover => hover⟩)

theorem standing_of_revalidation {ticket : Ticket} {work : Work Reply} {history : List Exchange}
    (hkind : RequestClass.ofRequest? agent.settings request = some .navigation)
    (leads : Work.Leads
      (Purpose.background (.revalidate agent.stores.dynamic request) ticket).work history work) :
    ∃ stage, Standing agent request .navigation
      ⟨.background (.revalidate agent.stores.dynamic request) ticket, work⟩ history .asking
      stage := by
  obtain ⟨stage, hafter, hfollows⟩ := leads.follows (serves_revalidation _ _ _)
  refine ⟨stage, hkind, .inr ⟨ticket, rfl, rfl, rfl⟩, ?_, hfollows⟩
  exact .of_filter (Stage.past_of_notes (Stage.notes_of_after trivial hafter))

namespace Fetching

theorem run (fetching : Fetching agent requests network s events t) :
    Run (agent.CalledWith requests) s events t :=
  fetching.calm.run

theorem numbered (fetching : Fetching agent requests network s events t) : s.Numbered := by
  rw [System.Numbered, System.purposes, fetching.ready.idle, fetching.ready.unnumbered]
  rfl

theorem split {before after : List Event}
    (fetching : Fetching agent requests network s (before ++ after) t) :
    ∃ mid, Fetching agent requests network s before mid ∧
      CalmRun (agent.CalledWith requests) network mid after t := by
  obtain ⟨mid, lead, rest⟩ := calmRun_append.mp fetching.calm
  refine ⟨mid, ⟨fetching.ready, lead, fetching.once.sublist ?_⟩, rest⟩
  rw [System.called, System.called, rest.run.purposes, List.filterMap_append]
  exact List.sublist_append_left _ _

theorem tame (fetching : Fetching agent requests network s events t) :
    ∀ number exchange, .act number exchange ∈ events → exchange.op.IsTame s.tables := by
  refine fun number exchange hmem => fetching.run.asks fetching.ready.idle ?_ ?_ hmem
  · rintro _ ⟨request, -, rfl⟩
    exact isTame_fetch fetching.ready.static fetching.ready.dynamic
  · exact fun job ticket hlisted => job.asks_work trivial (fun _ _ => trivial) fun _ _ _ => hlisted

theorem unique (fetching : Fetching agent requests network s events t) {first second : Nat}
    {work left : Work Reply}
    (hfirst : t.tasks[first]? = some ⟨.call (.fetch agent request), work⟩)
    (hsecond : t.tasks[second]? = some ⟨.call (.fetch agent request), left⟩) : first = second :=
  System.unique fetching.once hfirst hsecond rfl rfl

theorem call (fetching : Fetching agent requests network s events t) {number : Nat}
    {activity : Activity} {work : Work Reply}
    (here : t.tasks[number]? = some ⟨.call activity, work⟩) :
    ∃ request ∈ requests, activity = .fetch agent request ∧
      ((history number events = [] ∧ ∃ next, work = .ask (.lifecycle agent.number .read) next) ∨
        (RequestClass.ofRequest? agent.settings request = none ∧
          history number events = [⟨.lifecycle agent.number .read, .active⟩] ∧
          work = .done .passThrough) ∨
        ∃ kind rest stage,
          history number events = ⟨.lifecycle agent.number .read, .active⟩ :: rest ∧
          Standing agent request kind ⟨.call (.fetch agent request), work⟩
            (history number events) kind.first stage) := by
  obtain ⟨leads, request, hrequest, rfl⟩ := fetching.run.leads fetching.ready.idle number _ here
  refine ⟨request, hrequest, rfl, standing_of_call leads fun state hmem => ?_⟩
  rw [← fetching.ready.active]
  exact (fetching.run.reads fetching.tame).2 number _ state (mem_history.mp hmem)

theorem call_of_request (fetching : Fetching agent requests network s events t) {number : Nat}
    {work : Work Reply} (here : t.tasks[number]? = some ⟨.call (.fetch agent request), work⟩) :
    request ∈ requests ∧
      ((history number events = [] ∧ ∃ next, work = .ask (.lifecycle agent.number .read) next) ∨
        (RequestClass.ofRequest? agent.settings request = none ∧
          history number events = [⟨.lifecycle agent.number .read, .active⟩] ∧
          work = .done .passThrough) ∨
        ∃ kind rest stage,
          history number events = ⟨.lifecycle agent.number .read, .active⟩ :: rest ∧
          Standing agent request kind ⟨.call (.fetch agent request), work⟩
            (history number events) kind.first stage) := by
  obtain ⟨asked, hasked, hsame, hstands⟩ := fetching.call here
  obtain ⟨-, rfl⟩ := Activity.fetch.inj hsame
  exact ⟨hasked, hstands⟩

theorem handles (fetching : Fetching agent requests network s events t) {number : Nat}
    {activity : Activity} {work : Work Reply} {exchange : Exchange}
    (here : t.tasks[number]? = some ⟨.call activity, work⟩)
    (hmem : .act number exchange ∈ events)
    (hacts : ∀ owner step, exchange.op ≠ .lifecycle owner step) :
    ∃ request ∈ requests, activity = .fetch agent request ∧ ∃ kind stage,
      Standing agent request kind ⟨.call (.fetch agent request), work⟩ (history number events)
        kind.first stage := by
  obtain ⟨request, hrequest, rfl, hstands⟩ := fetching.call here
  rw [← mem_history] at hmem
  obtain ⟨hnone, -⟩ | ⟨-, hone, -⟩ | ⟨kind, rest, stage, -, standing⟩ := hstands
  · rw [hnone] at hmem
    exact absurd hmem List.not_mem_nil
  · rw [hone] at hmem
    obtain rfl := List.mem_singleton.mp hmem
    exact absurd rfl (hacts _ _)
  · exact ⟨request, hrequest, rfl, kind, stage, standing⟩

/-- A revalidation was started by the call with its request. -/
theorem job (fetching : Fetching agent requests network s events t) {number : Nat} {job : Job}
    {ticket : Ticket} {work : Work Reply}
    (here : t.tasks[number]? = some ⟨.background job ticket, work⟩) :
    ∃ request ∈ requests, job = .revalidate agent.stores.dynamic request ∧
      (∃ stage, Standing agent request .navigation ⟨.background job ticket, work⟩
        (history number events) .asking stage) ∧
      ∃ (caller : Nat) (left : Work Reply),
        t.tasks[caller]? = some ⟨.call (.fetch agent request), left⟩ ∧
        .act caller ⟨.start job, ticket⟩ ∈ events := by
  obtain ⟨caller, hstart⟩ := fetching.run.started fetching.ready.idle here
  obtain ⟨activity, left, hcaller⟩ := fetching.run.call_of_started fetching.ready.idle hstart
  obtain ⟨leads, -⟩ := fetching.run.leads fetching.ready.idle number _ here
  obtain ⟨request, hrequest, rfl, kind, stage, standing⟩ := fetching.handles hcaller hstart nofun
  obtain ⟨hfirst, rfl, -⟩ := standing.past.starts _ _ (mem_history.mpr hstart)
  obtain rfl := RequestClass.eq_navigation_of_first hfirst
  exact ⟨request, hrequest, rfl, standing_of_revalidation standing.class_eq leads, caller, left,
    hcaller, hstart⟩

theorem standing (fetching : Fetching agent requests network s events t) {number : Nat}
    {exchange : Exchange} (hmem : .act number exchange ∈ events)
    (hacts : ∀ owner step, exchange.op ≠ .lifecycle owner step) :
    ∃ request ∈ requests, ∃ kind first stage task, t.tasks[number]? = some task ∧
      Standing agent request kind task (history number events) first stage := by
  obtain ⟨⟨purpose, work⟩, here⟩ := fetching.run.exists_task hmem
  cases purpose with
  | background job ticket =>
      obtain ⟨request, hrequest, -, ⟨stage, standing⟩, -⟩ := fetching.job here
      exact ⟨request, hrequest, _, _, stage, _, here, standing⟩
  | call activity =>
      obtain ⟨request, hrequest, rfl, kind, stage, standing⟩ := fetching.handles here hmem hacts
      exact ⟨request, hrequest, kind, _, stage, _, here, standing⟩

theorem unique_job (fetching : Fetching agent requests network s events t) {first second : Nat}
    {job other : Job} {ticket given : Ticket} {work left : Work Reply}
    (hfirst : t.tasks[first]? = some ⟨.background job ticket, work⟩)
    (hsecond : t.tasks[second]? = some ⟨.background other given, left⟩)
    (hsame : job.request = other.request) : first = second := by
  obtain ⟨request, -, rfl, -, caller, _, hcaller, hstart⟩ := fetching.job hfirst
  obtain ⟨asked, -, rfl, -, again, _, hagain, hrestart⟩ := fetching.job hsecond
  obtain rfl : request = asked := hsame
  obtain rfl := fetching.unique hcaller hagain
  obtain ⟨_, -, -, _, _, standing⟩ := fetching.handles hcaller hstart nofun
  obtain rfl := standing.past.once _ _ _ _ (mem_history.mpr hstart) (mem_history.mpr hrestart)
  exact (fetching.run.numbered fetching.numbered).unique hfirst hsecond rfl rfl

end Fetching

/-! ### Requests that do not meet -/

/-- The keys of the requests differ from each other, and from those of the offline pages. -/
structure Independent (agent : Agent) (requests : List Request) : Prop where
  distinct : (requests.map Key.ofRequest).Nodup
  apart : ∀ request ∈ requests, ∀ other ∈ requests,
    agent.pageKey? other ≠ some (.ofRequest request)

/-- A key that is looked up has the digest of another one that belongs to a request. -/
def Collide (agent : Agent) (requests : List Request) : Prop :=
  ∃ request ∈ requests, ∃ other ∈ requests, ∃ key, agent.Seeks other key ∧
    key ≠ .ofRequest request ∧ key.hash = (Key.ofRequest request).hash

theorem Independent.eq_of_hash (independent : Independent agent requests)
    (free : ¬Collide agent requests) {other : Request} {key : Key} (hrequest : request ∈ requests)
    (hother : other ∈ requests) (hseeks : agent.Seeks other key)
    (hhash : (Key.ofRequest request).hash = key.hash) : request = other := by
  have hkey : key = .ofRequest request := by
    by_contra hne
    exact free ⟨request, hrequest, other, hother, key, hseeks, hne, hhash.symm⟩
  subst hkey
  obtain hsame | hpage := hseeks
  · exact List.inj_on_of_nodup_map independent.distinct hrequest hother hsame
  · exact absurd hpage (independent.apart request hrequest other hother)

namespace Fetching

/-- When a call looks something up, nobody has put anything under that hash. Another request would
have another hash, the call itself looks nothing up any more after it has put something, and if its
revalidation did, then the call found out and has no need to. -/
theorem untouched (independent : Independent agent requests) (free : ¬Collide agent requests)
    {mid : System} {number : Nat} {call : Store.Call} {key : Key}
    {next : (Op.storage call).Answer → Work Reply}
    (fetching : Fetching agent requests network s events mid)
    (here : mid.tasks[number]? = some ⟨.call (.fetch agent request), .ask (.storage call) next⟩)
    (hlookup : call.lookedUp? = some key) :
    ∀ writer store written response answer,
      .act writer ⟨.storage (.put store written response), answer⟩ ∈ events →
        written.hash ≠ key.hash := by
  intro writer store written response answer hput hhash
  obtain ⟨hrequest, ⟨-, _, hread⟩ | ⟨-, -, hdone⟩ | ⟨kind, -, stage, -, standing⟩⟩ :=
    fetching.call_of_request here
  · cases hread
  · cases hdone
  obtain ⟨leads, -⟩ := fetching.run.leads fetching.ready.idle number _ here
  have hseeks := leads.asks_next (looksFor_fetch agent request) key hlookup
  obtain ⟨other, hother, _, _, _, ⟨purpose, work⟩, hthere, writing⟩ := fetching.standing hput nofun
  obtain ⟨-, rfl, rfl, -, hfetch⟩ := writing.past.puts _ _ _ _ (mem_history.mpr hput)
  obtain rfl := independent.eq_of_hash free hother hrequest hseeks hhash
  obtain ⟨answer⟩ := Work.nonempty_answer (.storage call)
  obtain ⟨after, hallowed, -⟩ := standing.follows answer
  obtain ⟨hopen, hwaits⟩ := Stage.busy_of_storage hallowed
  obtain ⟨rfl, -⟩ | ⟨ticket, rfl, -, -⟩ := writing.purpose
  · obtain rfl := fetching.unique hthere here
    exact hopen (standing.past.puts _ _ _ _ (mem_history.mpr hput)).1
  · obtain ⟨_, -, hjob, -, caller, left, hcaller, hstart⟩ := fetching.job hthere
    obtain ⟨-, rfl⟩ := Job.revalidate.inj hjob
    obtain rfl := fetching.unique hcaller here
    obtain ⟨-, -, hawaits | hcloses | ⟨-, failure, hawait⟩⟩ :=
      standing.past.starts _ _ (mem_history.mpr hstart)
    · exact hwaits ticket hawaits
    · exact hopen hcloses
    · have hfailed := fetching.calm.awaited fetching.ready.idle fetching.ready.unposted
        fetching.numbered hstart (mem_history.mp hawait)
      rw [← fetching.calm.fetched (mem_history.mp hfetch)] at hfailed
      cases hfailed

/-- So a lookup finds what was there before any of the calls. -/
theorem answer_eq (independent : Independent agent requests) (free : ¬Collide agent requests)
    (fetching : Fetching agent requests network s events t) {number : Nat} {work : Work Reply}
    {call : Store.Call} {key : Key} {answer : (Op.storage call).Answer}
    (here : t.tasks[number]? = some ⟨.call (.fetch agent request), work⟩)
    (hmem : .act number ⟨.storage call, answer⟩ ∈ events) (hlookup : call.lookedUp? = some key) :
    ∃ now, answer = (call.run now s.tables).1 := by
  obtain ⟨before, after, rfl⟩ := List.append_of_mem hmem
  obtain ⟨mid, lead, later⟩ := fetching.split
  obtain ⟨next, step, ⟨now, -, hanswer, -⟩, -⟩ := id later
  refine ⟨now, hanswer.trans ?_⟩
  have hnone : ∀ writer store written response answer,
      .act writer ⟨.storage (.put store written response), answer⟩ ∈ before →
        written.hash ≠ key.hash := by
    cases step with
    | act asks answers =>
        obtain ⟨left, hleft, -⟩ := later.run.leads_of_task asks
        obtain ⟨rfl, -⟩ := Task.mk.inj (Option.some.inj (hleft.symm.trans here))
        exact lead.untouched independent free asks hlookup
  cases call with
  | get store found =>
      obtain rfl := Option.some.inj hlookup
      exact lead.calm.get_eq lead.tame hnone store
  | matchAny found =>
      obtain rfl := Option.some.inj hlookup
      exact lead.calm.matchAny_eq lead.tame hnone
  | openStore | put | names | delete => cases hlookup

end Fetching

/-! ### What a call answers -/

/-- What a recourse has to serve that is taken to before anything has changed. -/
def Recourse.found (tables : Tables) (outcome : Except FetchFailure Response) :
    Recourse → Option Served
  | stored (some store) key => foundIn (tables.get store key)
  | stored none key => foundIn (tables.matchAny key)
  | .network => fetchedIn outcome

theorem Tried.eq_findSome? {tables : Tables} {outcome : Except FetchFailure Response}
    {recourses : List Recourse} {attempts : List Attempt} {served : Option Served}
    (tried : Tried recourses attempts served)
    (hfound : ∀ recourse found, ⟨recourse, found⟩ ∈ attempts →
      found = recourse.found tables outcome) :
    served = recourses.findSome? (Recourse.found tables outcome) := by
  induction recourses generalizing attempts with
  | nil => exact tried.2
  | cons recourse rest ih =>
      obtain ⟨found, more, rfl, hserved⟩ := tried
      rw [List.findSome?_cons, ← hfound recourse found List.mem_cons_self]
      cases found with
      | some hit => exact hserved.2
      | none => exact ih hserved fun _ _ hmem => hfound _ _ (List.mem_cons_of_mem _ hmem)

theorem found_of_attempt {tables : Tables} {outcome : Except FetchFailure Response}
    {exchange : Exchange} {store : Option String} {key : Key} {found : Option Served}
    (hattempt : exchange.attempt? = some ⟨.stored store key, found⟩)
    (hanswer : ∀ (call : Store.Call) (answer : (Op.storage call).Answer),
      exchange = ⟨.storage call, answer⟩ → call.lookedUp? = some key →
        ∃ now, answer = (call.run now tables).1) :
    found = (Recourse.stored store key).found tables outcome := by
  obtain ⟨op, answer⟩ := exchange
  cases op with
  | storage call =>
      cases call with
      | get name asked =>
          obtain ⟨hsame, rfl⟩ := Attempt.mk.inj (Option.some.inj hattempt)
          obtain ⟨rfl, rfl⟩ := Recourse.stored.inj hsame
          obtain ⟨now, rfl⟩ := hanswer _ _ rfl rfl
          rfl
      | matchAny asked =>
          obtain ⟨hsame, rfl⟩ := Attempt.mk.inj (Option.some.inj hattempt)
          obtain ⟨rfl, rfl⟩ := Recourse.stored.inj hsame
          obtain ⟨now, rfl⟩ := hanswer _ _ rfl rfl
          rfl
      | openStore | put | names | delete => cases hattempt
  | fetch asked => cases hattempt
  | await channel ticket => cases channel <;> cases hattempt
  | lifecycle | start | report => cases hattempt

/-- What an active agent answers to a request when the stores hold that and the network says that,
and nobody else does anything. -/
def Agent.replyTo (agent : Agent) (tables : Tables) (outcome : Except FetchFailure Response)
    (request : Request) : Reply :=
  match RequestClass.ofRequest? agent.settings request with
  | none => .passThrough
  | some kind =>
    .served (((agent.recourses request kind).findSome? (Recourse.found tables outcome)).getD
      (.ofFallback (Fallback.offlineResponse request.url)))

namespace Fetching

theorem found_eq (independent : Independent agent requests) (free : ¬Collide agent requests)
    (fetching : Fetching agent requests network s events t) {number : Nat} {work : Work Reply}
    (here : t.tasks[number]? = some ⟨.call (.fetch agent request), work⟩) {first : Exchange}
    {rest : List Exchange} (hrest : history number events = first :: rest)
    {recourses : List Recourse} {course : Course}
    (hafter : (trying agent request).after ⟨recourses, none, none⟩ rest = some course)
    {recourse : Recourse} {found : Option Served}
    (hmem : ⟨recourse, found⟩ ∈ rest.filterMap Exchange.attempt?) :
    found = recourse.found s.tables (network request) := by
  have hevents {exchange : Exchange} (hmem : exchange ∈ rest) : .act number exchange ∈ events := by
    rw [← mem_history, hrest]
    exact List.mem_cons_of_mem _ hmem
  cases recourse with
  | network =>
      obtain ⟨outcome, rfl, hfetch | ⟨ticket, hawait, hstart⟩⟩ := network_of_after rfl hafter hmem
      · rw [fetching.calm.fetched (hevents hfetch)]
        rfl
      · rw [fetching.calm.awaited fetching.ready.idle fetching.ready.unposted fetching.numbered
          (hevents hstart) (hevents hawait)]
        rfl
  | stored store key =>
      obtain ⟨exchange, hexchange, hattempt⟩ := List.mem_filterMap.mp hmem
      exact found_of_attempt hattempt fun call answer hsame hlookup =>
        fetching.answer_eq independent free here (hsame ▸ hevents hexchange) hlookup

/-- A call answers as if it were alone. -/
theorem reply_eq (independent : Independent agent requests) (free : ¬Collide agent requests)
    (fetching : Fetching agent requests network s events t) {number : Nat} {reply : Reply}
    (here : t.tasks[number]? = some ⟨.call (.fetch agent request), .done reply⟩) :
    reply = agent.replyTo s.tables (network request) request := by
  obtain ⟨-, ⟨-, _, hread⟩ | ⟨hkind, -, hdone⟩ | ⟨kind, rest, _, hrest, standing⟩⟩ :=
    fetching.call_of_request here
  · cases hread
  · rw [Agent.replyTo, hkind]
    exact Work.done.inj hdone
  obtain ⟨leads, -⟩ := fetching.run.leads fetching.ready.idle number _ here
  obtain ⟨left, hwork, hleft⟩ := leads_of_active leads hrest standing.class_eq
  obtain ⟨course, hafter, hends⟩ := hleft.follows (follows_settle kind)
  cases left with
  | ask op next => cases hwork
  | done verdict =>
      obtain ⟨served, rfl, rfl, hdone⟩ := hends
      obtain rfl := Work.done.inj hwork
      have hserved : course.served = _ := (tried_of_after rfl hafter hdone).eq_findSome?
        fun _ _ => fetching.found_eq independent free here hrest hafter
      rw [Agent.replyTo, standing.class_eq, hserved]
      rfl

end Fetching

end OfflineAgent
