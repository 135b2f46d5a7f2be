import OfflineAgent.Proofs.Lifecycle.OwnStores

/-!
# One request upstream

For a request that the server hands its agent one request at most is put on the network, by the call
itself or by the revalidation that it starts, whatever the state of the agent, the stores and the
network. A stored copy of a static asset makes that needless.
-/

namespace OfflineAgent

open Simulation Interleaving

/-! ### Who fetches -/

/-- How a piece of work stands that has to have its request fetched. -/
inductive Debt where
  | owed
  /-- A stored copy made it needless. -/
  | spared
  | paid
  /-- A job does it. -/
  | passed (ticket : Ticket)
deriving DecidableEq

/-- The operation neither fetches, nor starts or awaits a job, nor looks into one store. -/
def Op.isIdle : Op → Bool
  | .fetch _ | .start _ | .await _ _ | .storage (.get _ _) => false
  | _ => true

/-- A request is fetched once, or a revalidation is started that does so, and only that one is
awaited. Nothing is fetched any more when a stored copy was found in the store that was asked. -/
def paying : Discipline Debt
  | .owed, .fetch _, _ => some .paid
  | .owed, .start (.revalidate _ _), ticket => some (.passed ticket)
  | .owed, .storage (.get _ _), .ok (some _) => some .spared
  | .owed, .storage (.get _ _), _ => some .owed
  | .passed own, .await .revalidation ticket, _ => if own = ticket then some (.passed own) else none
  | debt, op, _ => if op.isIdle then some debt else none

namespace Exchange

def isFetch : Exchange → Bool
  | ⟨.fetch _, _⟩ => true
  | _ => false

/-- Whether one store was asked and had a copy. -/
def isHit : Exchange → Bool
  | ⟨.storage (.get _ _), .ok (some _)⟩ => true
  | _ => false

end Exchange

namespace Debt

def ticket? : Debt → Option Ticket
  | passed ticket => some ticket
  | _ => none

/-- What was done to settle a debt. -/
structure Accounts (debt : Debt) (history : List Exchange) : Prop where
  fetches : history.countP Exchange.isFetch = if debt = paid then 1 else 0
  tickets : history.filterMap Exchange.ticket? = debt.ticket?.toList
  hits : history.any Exchange.isHit = decide (debt = spared)

theorem Accounts.step {debt next : Debt} {history : List Exchange} {op : Op} {answer : op.Answer}
    (accounts : debt.Accounts history) (hallowed : paying debt op answer = some next) :
    next.Accounts (history ++ [⟨op, answer⟩]) := by
  obtain ⟨hfetches, htickets, hhits⟩ := accounts
  have hidle (hsame : (if op.isIdle then some debt else none) = some next) :
      next.Accounts (history ++ [⟨op, answer⟩]) := by
    obtain ⟨hidle, hnext⟩ := Option.ite_none_right_eq_some.mp hsame
    obtain rfl := Option.some.inj hnext
    have hfetch : Exchange.isFetch ⟨op, answer⟩ = false := by
      cases op <;> first | rfl | cases hidle
    have hticket : Exchange.ticket? ⟨op, answer⟩ = none := by
      cases op <;> first | rfl | cases hidle
    have hhit : Exchange.isHit ⟨op, answer⟩ = false := by
      cases op with
      | storage call => cases call <;> first | rfl | cases hidle
      | _ => rfl
    exact ⟨by simp [hfetches, hfetch], by simp [htickets, hticket], by simp [hhits, hhit]⟩
  unfold paying at hallowed
  split at hallowed
  case h_6 => exact hidle hallowed
  case h_5 =>
    obtain ⟨-, hnext⟩ := Option.ite_none_right_eq_some.mp hallowed
    obtain rfl := Option.some.inj hnext
    constructor <;> simp [hfetches, htickets, hhits, Exchange.isFetch, Exchange.ticket?,
      Exchange.started?, Exchange.isHit]
  all_goals
    obtain rfl := Option.some.inj hallowed
    constructor <;> simp_all [Exchange.isFetch, Exchange.ticket?, Exchange.started?,
      Exchange.isHit, Debt.ticket?]

theorem accounts_of_after {debt : Debt} {history : List Exchange}
    (hafter : paying.after .owed history = some debt) : debt.Accounts history := by
  induction history using List.reverseRecOn generalizing debt with
  | nil =>
      obtain rfl := Option.some.inj hafter
      exact ⟨rfl, rfl, rfl⟩
  | append_singleton history exchange ih =>
      rw [Discipline.after_concat] at hafter
      obtain ⟨before, hbefore, hallowed⟩ := Option.bind_eq_some_iff.mp hafter
      exact (ih hbefore).step hallowed

theorem passed_of_await {debt next : Debt} {channel : Channel} {ticket : Ticket}
    {outcome : channel.Outcome}
    (hallowed : paying debt (.await channel ticket) outcome = some next) :
    channel = .revalidation ∧ debt = .passed ticket := by
  unfold paying at hallowed
  split at hallowed <;> simp_all [Op.isIdle]

theorem revalidates_of_start {debt next : Debt} {job : Job} {ticket : Ticket}
    (hallowed : paying debt (.start job) ticket = some next) :
    ∃ store request, job = .revalidate store request := by
  unfold paying at hallowed
  split at hallowed <;> simp_all [Op.isIdle]

theorem owed_of_fetch {debt next : Debt} {request : Request}
    {outcome : Except FetchFailure Response}
    (hallowed : paying debt (.fetch request) outcome = some next) : debt = .owed := by
  unfold paying at hallowed
  split at hallowed <;> simp_all [Op.isIdle]

end Debt

/-! ### What pays -/

section

variable {α : Type} {debt : Debt} {agent : Agent} {request : Request} {kind : RequestClass}

theorem paying_of_idle {op : Op} (hidle : op.isIdle) (answer : op.Answer) :
    paying debt op answer = some debt := by
  unfold paying
  split <;> first | cases hidle | exact if_pos hidle

theorem follows_of_idle {work : Work α} (asks : work.Asks fun op => op.isIdle) :
    work.Follows paying (fun after _ => after = debt) debt :=
  asks.follows fun _ answer hidle => paying_of_idle hidle answer

theorem pays_networkFirst {stores : StorePair} :
    (Strategy.networkFirst.run stores request).Follows paying (fun after _ => after ≠ .owed)
      .owed := by
  intro answer
  refine ⟨.paid, rfl, ?_⟩
  cases answer with
  | ok response =>
      refine (follows_of_idle (Stores.asks_keep fun _ _ => rfl)).bind fun after _ hafter => ?_
      subst hafter
      nofun
  | error failure =>
      refine (follows_of_idle (Stores.asks_lookup_none rfl)).bind fun after found hafter => ?_
      subst hafter
      cases found <;> nofun

/-- A copy in the static store spares the request. -/
theorem pays_cacheFirst {stores : StorePair} :
    (Strategy.cacheFirst.run stores request).Follows paying (fun after _ => after ≠ .owed)
      .owed := by
  have hlookup : (Stores.lookup (some stores.static) (.ofRequest request)).Follows paying
      (fun after found => after = if found.isSome then .spared else .owed) .owed := by
    intro answer
    obtain failure | (_ | entry) := answer
    · exact ⟨.owed, rfl, rfl⟩
    · exact ⟨.owed, rfl, rfl⟩
    · exact ⟨.spared, rfl, rfl⟩
  refine hlookup.bind fun after found hafter => ?_
  subst hafter
  cases found with
  | some entry => nofun
  | none =>
      intro answer
      refine ⟨.paid, rfl, ?_⟩
      cases answer with
      | ok response =>
          refine (follows_of_idle (Stores.asks_keep fun _ _ => rfl)).bind fun after _ hafter => ?_
          subst hafter
          nofun
      | error failure => nofun

theorem pays_staleWhileRevalidate {stores : StorePair} :
    (Strategy.staleWhileRevalidate.run stores request).Follows paying (fun after _ => after ≠ .owed)
      .owed := by
  refine (follows_of_idle (Stores.asks_lookup_none rfl)).bind fun after found hafter => ?_
  subst hafter
  intro ticket
  refine ⟨.passed ticket, rfl, ?_⟩
  cases found with
  | some entry => nofun
  | none =>
      intro outcome
      refine ⟨.passed ticket, if_pos rfl, ?_⟩
      cases outcome <;> nofun

theorem pays_strategy (order : Strategy) (stores : StorePair) :
    (order.run stores request).Follows paying (fun after _ => after ≠ .owed) .owed := by
  cases order with
  | networkFirst => exact pays_networkFirst
  | cacheFirst => exact pays_cacheFirst
  | staleWhileRevalidate => exact pays_staleWhileRevalidate

/-- The agent responds once it owes nothing, or it passes the request through and still owes. -/
theorem pays_handle (agent : Agent) (request : Request) :
    (agent.handle request).Follows paying
      (fun after verdict => after = .owed ↔ verdict = .passThrough) .owed := by
  have hpass : (Work.done Verdict.passThrough).Follows paying
      (fun after verdict => after = .owed ↔ verdict = .passThrough) .owed :=
    ⟨fun _ => rfl, fun _ => rfl⟩
  rw [handle_eq]
  intro state
  refine ⟨.owed, rfl, ?_⟩
  dsimp only
  split
  · exact hpass
  · split
    · exact hpass
    · rename_i kind _
      refine (pays_strategy _ _).bind fun after outcome hafter => ?_
      cases outcome with
      | ok served => exact ⟨fun howed => absurd howed hafter, nofun⟩
      | error failure =>
          have hresolve : (Fallback.resolve agent.settings.offlinePage request kind).Asks
              fun op => op.isIdle :=
            Fallback.asks_resolve rfl fun _ _ _ => rfl
          refine (follows_of_idle hresolve).bind fun now served hnow => ?_
          subst hnow
          exact ⟨fun howed => absurd howed hafter, nofun⟩

/-- When the request that the server hands its agent is answered, nothing is owed. -/
theorem pays_serve {incoming : Server.Incoming}
    (hrequest : (Activity.serve agent incoming).request? = some request) :
    (Activity.serve agent incoming).work.Follows paying (fun after _ => after ≠ .owed) .owed := by
  have hanswer : (agent.handle request >>= Server.relay request).Follows paying
      (fun after _ => after ≠ .owed) .owed := by
    refine (pays_handle agent request).bind fun after verdict hafter => ?_
    cases verdict with
    | respond served => exact fun howed => Verdict.noConfusion (hafter.mp howed)
    | passThrough =>
        rw [hafter.mpr rfl]
        intro answer
        refine ⟨.paid, rfl, ?_⟩
        cases answer <;> nofun
  rw [serve_work_eq hrequest]
  exact hanswer.bind fun after _ hafter => hafter

theorem pays_entry (store : String) (request : Request) :
    (Precache.entry store request).Follows paying (fun after _ => after = .paid) .owed := by
  intro answer
  refine ⟨.paid, rfl, ?_⟩
  cases answer with
  | error failure => rfl
  | ok response =>
      change Work.Follows _ _ (if response.isComplete then _ else _) _
      split
      · refine (follows_of_idle (Stores.asks_put fun _ _ => rfl)).bind fun after stored hafter => ?_
        subst hafter
        cases stored <;> rfl
      · rfl

theorem pays_job (job : Job) (ticket : Ticket) :
    (Purpose.background job ticket).work.Follows paying (fun after _ => after = .paid) .owed := by
  have hjob : (job.work ticket).Follows paying (fun after _ => after = .paid) .owed := by
    cases job with
    | revalidate store request =>
        intro answer
        refine ⟨.paid, rfl, ?_⟩
        cases answer with
        | error failure => exact fun _ => ⟨.paid, rfl, rfl⟩
        | ok response =>
            exact fun _ => ⟨.paid, rfl, follows_of_idle (Stores.asks_keep fun _ _ => rfl)⟩
    | precache store request =>
        refine (pays_entry store request).bind fun after outcome hafter => ?_
        subst hafter
        exact fun _ => ⟨.paid, rfl, rfl⟩
  exact hjob.bind fun after _ hafter => hafter

/-- If one store is asked, it is the static store for the very request of a static asset. -/
def Op.LooksUp (agent : Agent) (request : Request) : Op → Prop
  | .storage (.get store key) =>
    RequestClass.ofRequest? agent.settings request = some .staticAsset ∧
      store = agent.stores.static ∧ key = .ofRequest request
  | _ => True

theorem looksUp_serve {incoming : Server.Incoming}
    (hrequest : (Activity.serve agent incoming).request? = some request) :
    (Activity.serve agent incoming).work.Asks (Op.LooksUp agent request) := by
  have hhandle : (agent.handle request).Asks (Op.LooksUp agent request) := by
    refine Agent.asks_handle trivial (fun kind hkind => ?_) fun kind _ =>
      Fallback.asks_resolve trivial fun _ _ _ => trivial
    cases kind with
    | api | other => exact Strategy.asks_networkFirst trivial trivial fun _ _ _ => trivial
    | navigation => exact Strategy.asks_staleWhileRevalidate trivial trivial fun _ => trivial
    | staticAsset => exact Strategy.asks_cacheFirst ⟨hkind, rfl, rfl⟩ trivial fun _ _ _ => trivial
  rw [serve_work_eq hrequest]
  refine (hhandle.bind fun verdict => ?_).bind fun _ => trivial
  cases verdict with
  | respond served => trivial
  | passThrough =>
      refine ⟨trivial, fun answer => ?_⟩
      cases answer <;> trivial

end

/-! ### How much is fetched for a call -/

namespace Interleaving

def Task.isFetching (task : Task) : Bool :=
  match task.work with
  | .ask (.fetch _) _ => true
  | _ => false

/-- How many requests a task has put on the network, or is about to put there. -/
def fetches (events : List Event) (t : System) (number : Nat) : Nat :=
  (history number events).countP Exchange.isFetch +
    if t.tasks[number]?.any Task.isFetching then 1 else 0

def isStartedBy (caller : Nat) (events : List Event) (t : System) (number : Nat) : Bool :=
  match t.tasks[number]? with
  | some ⟨.background _ ticket, _⟩ =>
    ((history caller events).filterMap Exchange.ticket?).contains ticket
  | _ => false

/-- How many requests are put on the network for a call, by itself and by the jobs that it has
started. -/
def upstream (caller : Nat) (events : List Event) (t : System) : Nat :=
  fetches events t caller +
    ∑ number ∈ Finset.range t.tasks.length with isStartedBy caller events t number,
      fetches events t number

/-- The call itself, and the jobs that it has started, are done. -/
def Handled (caller : Nat) (events : List Event) (t : System) : Prop :=
  ∀ number task, t.tasks[number]? = some task →
    number = caller ∨ isStartedBy caller events t number → ∃ reply, task.work = .done reply

variable {calls : Activity → Prop} {s t : System} {events : List Event} {number caller : Nat}
  {agents : List Agent} {tables : Store.Tables}

theorem isStartedBy_iff : isStartedBy caller events t number ↔
    ∃ job ticket work, t.tasks[number]? = some ⟨.background job ticket, work⟩ ∧
      ticket ∈ (history caller events).filterMap Exchange.ticket? := by
  unfold isStartedBy
  split
  · rename_i job ticket work here
    rw [List.contains_iff_mem]
    refine ⟨fun hmem => ⟨job, ticket, work, here, hmem⟩, ?_⟩
    rintro ⟨_, _, _, hsame, hmem⟩
    rw [here] at hsame
    cases hsame
    exact hmem
  · rename_i hother
    refine ⟨nofun, ?_⟩
    rintro ⟨job, ticket, work, here, -⟩
    exact absurd here (hother job ticket work)

/-- How a task stands that has to have its request fetched, and what it has put on the network. -/
theorem Run.debt {ends : Debt → Reply → Prop} {task : Task} (run : Run calls s events t)
    (fresh : s.tasks = []) (here : t.tasks[number]? = some task)
    (pays : task.purpose.work.Follows paying ends .owed) :
    ∃ debt, paying.after .owed (history number events) = some debt ∧
      task.work.Follows paying ends debt ∧
      (fetches events t number = (if debt = .paid then 1 else 0) ∨
        debt = .owed ∧ fetches events t number = 1) := by
  obtain ⟨leads, -⟩ := run.leads fresh number task here
  obtain ⟨debt, hafter, hleft⟩ := leads.follows pays
  refine ⟨debt, hafter, hleft, ?_⟩
  rw [fetches, (Debt.accounts_of_after hafter).fetches, here]
  cases hfetching : task.isFetching with
  | false => exact .inl (by simp [hfetching])
  | true =>
      obtain ⟨purpose, work⟩ := task
      have howed : debt = .owed := by
        cases work with
        | done reply => cases hfetching
        | ask op next =>
            cases op with
            | fetch request =>
                obtain ⟨after, hallowed, -⟩ := hleft (.error (.noResponse request.url ""))
                exact Debt.owed_of_fetch hallowed
            | _ => cases hfetching
      subst howed
      exact .inr ⟨rfl, by simp [hfetching]⟩

theorem fetches_job (run : Run calls s events t) (fresh : s.tasks = []) {job : Job}
    {ticket : Ticket} {work : Work Reply}
    (here : t.tasks[number]? = some ⟨.background job ticket, work⟩) :
    fetches events t number ≤ 1 ∧
      ((∃ reply, work = .done reply) → fetches events t number = 1) := by
  obtain ⟨debt, -, hleft, hfetches⟩ := run.debt fresh here (pays_job job ticket)
  refine ⟨?_, ?_⟩
  · obtain hpaid | ⟨-, hone⟩ := hfetches
    · rw [hpaid]
      split <;> decide
    · exact hone.le
  · rintro ⟨reply, rfl⟩
    obtain rfl : debt = .paid := hleft
    exact hfetches.elim id (·.2)

theorem sum_of_no_ticket
    (htickets : (history caller events).filterMap Exchange.ticket? = []) :
    ∑ number ∈ Finset.range t.tasks.length with isStartedBy caller events t number,
      fetches events t number = 0 := by
  refine Finset.sum_eq_zero fun number hmem => ?_
  obtain ⟨-, hstarted⟩ := Finset.mem_filter.mp hmem
  obtain ⟨job, ticket, work, -, hticket⟩ := isStartedBy_iff.mp hstarted
  rw [htickets] at hticket
  cases hticket

theorem sum_of_ticket (run : Run calls (.new agents tables) events t) {ticket : Ticket}
    (htickets : (history caller events).filterMap Exchange.ticket? = [ticket]) :
    ∃ (number : Nat) (job : Job) (work : Work Reply),
      t.tasks[number]? = some ⟨.background job ticket, work⟩ ∧
        isStartedBy caller events t number ∧
        ∑ number ∈ Finset.range t.tasks.length with isStartedBy caller events t number,
          fetches events t number = fetches events t number := by
  have hin : ticket ∈ (history caller events).filterMap Exchange.ticket? := by simp [htickets]
  obtain ⟨exchange, hexchange, hticket⟩ := List.mem_filterMap.mp hin
  obtain ⟨⟨job, _⟩, hstarted, rfl⟩ := Option.map_eq_some_iff.mp hticket
  obtain rfl := Exchange.started?_eq_some hstarted
  obtain ⟨number, work, here⟩ := run.starts (mem_history.mp hexchange)
  have hby : isStartedBy caller events t number := isStartedBy_iff.mpr ⟨job, _, work, here, hin⟩
  refine ⟨number, job, work, here, hby, Finset.sum_eq_single_of_mem number ?_ ?_⟩
  · exact Finset.mem_filter.mpr
      ⟨Finset.mem_range.mpr (List.getElem?_eq_some_iff.mp here).1, hby⟩
  · intro other hother hne
    obtain ⟨-, hstarted⟩ := Finset.mem_filter.mp hother
    obtain ⟨held, given, left, hthere, hgiven⟩ := isStartedBy_iff.mp hstarted
    obtain rfl : given = _ := by simpa [htickets] using hgiven
    exact absurd ((run.numbered (numbered_new agents tables)).unique hthere here rfl rfl) hne

/-! ### Coming to an end -/

theorem goesOn_of_job (run : Run calls s events t) (fresh : s.tasks = []) {job : Job}
    {ticket : Ticket} {work : Work Reply}
    (here : t.tasks[number]? = some ⟨.background job ticket, work⟩)
    (hleft : ¬∃ reply, work = .done reply) : GoesOn calls t number := by
  cases work with
  | done reply => exact absurd ⟨reply, rfl⟩ hleft
  | ask op next =>
      obtain ⟨leads, -⟩ := run.leads fresh number _ here
      exact System.goesOn here fun channel number hop =>
        absurd hop (leads.asks_next (asks_unawaiting job ticket) channel number)

/-- A call that is not done can go on, or the job can that it has started. -/
theorem goesOn_of_paying {ends : Debt → Reply → Prop} {debt : Debt} {purpose : Purpose}
    {work : Work Reply} (run : Run calls (.new agents tables) events t)
    (here : t.tasks[caller]? = some ⟨purpose, work⟩)
    (hafter : paying.after .owed (history caller events) = some debt)
    (hfollows : work.Follows paying ends debt) (hleft : ¬∃ reply, work = .done reply) :
    GoesOn calls t caller ∨
      ∃ number, isStartedBy caller events t number ∧ GoesOn calls t number := by
  cases work with
  | done reply => exact absurd ⟨reply, rfl⟩ hleft
  | ask op next =>
      by_cases hawait : ∃ channel ticket, op = .await channel ticket
      · obtain ⟨channel, ticket, rfl⟩ := hawait
        obtain ⟨answer⟩ := Work.nonempty_answer (.await channel ticket)
        obtain ⟨after, hallowed, -⟩ := hfollows answer
        obtain ⟨rfl, rfl⟩ := Debt.passed_of_await hallowed
        have hin : ticket ∈ (history caller events).filterMap Exchange.ticket? := by
          rw [(Debt.accounts_of_after hafter).tickets]
          exact List.mem_singleton_self _
        obtain ⟨exchange, hexchange, hticket⟩ := List.mem_filterMap.mp hin
        obtain ⟨⟨job, _⟩, hstarted, rfl⟩ := Option.map_eq_some_iff.mp hticket
        obtain rfl := Exchange.started?_eq_some hstarted
        obtain ⟨_, _, before, mid, -, -, hstart⟩ := Discipline.before_of_mem hafter hexchange
        obtain ⟨store, request, rfl⟩ := Debt.revalidates_of_start hstart
        obtain ⟨outcome, hposted⟩ | ⟨number, left, hthere, -, hgo⟩ :=
          run.revalidation_reports rfl (mem_history.mp hexchange)
        · refine .inl (System.goesOn here fun channel other hsame => ?_)
          obtain ⟨rfl, rfl⟩ := Op.await.inj hsame
          exact ⟨outcome, hposted⟩
        · exact .inr ⟨number, isStartedBy_iff.mpr ⟨_, _, left, hthere, hin⟩, hgo⟩
      · exact .inl (System.goesOn here fun channel ticket hsame =>
          absurd ⟨channel, ticket, hsame⟩ hawait)

end Interleaving

open Interleaving

section

variable {calls : Activity → Prop} {t : System} {events : List Event} {caller : Nat}
  {agents : List Agent} {tables : Store.Tables} {agent : Agent} {incoming : Server.Incoming}
  {request : Request} {work : Work Reply}

/-- How a call that hands the agent a request stands, and what was put on the network for it. -/
theorem upstream_of_serve (run : Run calls (.new agents tables) events t)
    (here : t.tasks[caller]? = some ⟨.call (.serve agent incoming), work⟩)
    (hrequest : (Activity.serve agent incoming).request? = some request) :
    ∃ debt : Debt, debt.Accounts (history caller events) ∧ upstream caller events t ≤ 1 ∧
      (debt = .spared → upstream caller events t = 0) ∧
      (Handled caller events t → debt ≠ .spared → upstream caller events t = 1) ∧
      (¬Handled caller events t → GoesOn calls t caller ∨
        ∃ number, isStartedBy caller events t number ∧ GoesOn calls t number) := by
  obtain ⟨debt, hafter, hfollows, hfetches⟩ := run.debt rfl here (pays_serve hrequest)
  have accounts := Debt.accounts_of_after hafter
  have hdone : Handled caller events t → debt ≠ .owed := by
    intro handled
    obtain ⟨reply, rfl⟩ := handled caller _ here (.inl rfl)
    exact hfollows
  have hgoes : ¬Handled caller events t → GoesOn calls t caller ∨
      ∃ number, isStartedBy caller events t number ∧ GoesOn calls t number := by
    intro hnot
    by_cases hleft : ∃ reply, work = .done reply
    · simp only [Handled, not_forall] at hnot
      obtain ⟨number, ⟨purpose, rest⟩, hthere, rfl | hstarted, hrest⟩ := hnot
      · obtain ⟨-, rfl⟩ := Task.mk.inj (Option.some.inj (here.symm.trans hthere))
        exact absurd hleft hrest
      · obtain ⟨job, ticket, other, hjob, -⟩ := isStartedBy_iff.mp hstarted
        rw [hthere] at hjob
        obtain ⟨rfl, rfl⟩ := Task.mk.inj (Option.some.inj hjob)
        exact .inr ⟨number, hstarted, goesOn_of_job run rfl hthere hrest⟩
    · exact goesOn_of_paying run here hafter hfollows hleft
  refine ⟨debt, accounts, ?_⟩
  unfold upstream
  cases debt with
  | passed ticket =>
      obtain ⟨number, job, left, hthere, hstarted, hsum⟩ := sum_of_ticket run accounts.tickets
      obtain ⟨hle, hone⟩ := fetches_job run rfl hthere
      have hnone : fetches events t caller = 0 := hfetches.elim id nofun
      rw [hsum, hnone, Nat.zero_add]
      exact ⟨hle, nofun, fun handled _ => hone (handled number _ hthere (.inr hstarted)), hgoes⟩
  | owed | spared | paid =>
      rw [sum_of_no_ticket accounts.tickets, Nat.add_zero]
      obtain hsame | ⟨hdebt, hone⟩ := hfetches
      · simp_all
      · simp_all

theorem Exchange.isHit_iff {exchange : Exchange} : exchange.isHit ↔
    ∃ store key entry, exchange = ⟨.storage (.get store key), .ok (some entry)⟩ := by
  unfold isHit
  split
  · exact ⟨fun _ => ⟨_, _, _, rfl⟩, fun _ => rfl⟩
  · rename_i hother
    refine ⟨nofun, ?_⟩
    rintro ⟨store, key, entry, rfl⟩
    exact absurd rfl (hother store key entry)

/-- The static store was asked for the request, which is one of a static asset, and had a copy. -/
def HadCopy (agent : Agent) (request : Request) (history : List Exchange) : Prop :=
  RequestClass.ofRequest? agent.settings request = some .staticAsset ∧ ∃ entry,
    (⟨.storage (.get agent.stores.static (.ofRequest request)), .ok (some entry)⟩ : Exchange) ∈
      history

/-- Only a copy in the static store spares a request. -/
theorem hadCopy_iff {debt : Debt} (run : Run calls (.new agents tables) events t)
    (here : t.tasks[caller]? = some ⟨.call (.serve agent incoming), work⟩)
    (hrequest : (Activity.serve agent incoming).request? = some request)
    (accounts : debt.Accounts (history caller events)) :
    HadCopy agent request (history caller events) ↔ debt = .spared := by
  have hany : (history caller events).any Exchange.isHit = true ↔ debt = .spared := by
    rw [accounts.hits, decide_eq_true_iff]
  rw [← hany, List.any_eq_true]
  constructor
  · rintro ⟨-, entry, hmem⟩
    exact ⟨_, hmem, rfl⟩
  · rintro ⟨exchange, hmem, hhit⟩
    obtain ⟨store, key, entry, rfl⟩ := Exchange.isHit_iff.mp hhit
    obtain ⟨leads, -⟩ := run.leads rfl caller _ here
    obtain ⟨hclass, rfl, rfl⟩ := leads.asks (looksUp_serve hrequest) _ hmem
    exact ⟨hclass, entry, hmem⟩

/-- A call whose request cannot be read is refused at once. -/
theorem refused_of_serve (run : Run calls (.new agents tables) events t)
    (here : t.tasks[caller]? = some ⟨.call (.serve agent incoming), work⟩)
    (hpath : Server.Endpoint.ofPath? incoming.target.path = none)
    (hrefused : incoming.toRequest? agent.origin = none) :
    upstream caller events t = 0 ∧
      ∃ answer, work = .done (.answer answer) ∧ answer.status = 400 := by
  obtain ⟨leads, -⟩ := run.leads rfl caller _ here
  have hwork : (Purpose.call (.serve agent incoming)).work = .done (.answer
      (.text 400 "Failed to read request body: length limit exceeded")) := by
    change Server.answer agent incoming >>= _ = _
    rw [Server.answer, hpath]
    change Server.intercept agent incoming >>= _ = _
    rw [Server.intercept, hrefused]
    rfl
  rw [hwork] at leads
  obtain ⟨hnone, rfl⟩ := Work.leads_done_iff.mp leads
  refine ⟨?_, _, rfl, rfl⟩
  rw [upstream, sum_of_no_ticket (by rw [hnone]; rfl), fetches, hnone, here]
  rfl

/-- **One request upstream.** In every run of any calls, on stores that hold anything, with any
faults of the stores and the network and in any order: for a request to the server that is for none
of its own endpoints, one request at most is put on the network, by the call or by the revalidation
that it starts. None is if the body is too long, which is refused with a 400, or for a static asset
that the static store had when it was asked. For all others it is one when the call and the
revalidation are done, and until then one of them can go on. -/
theorem one_request_upstream (run : Run calls (.new agents tables) events t)
    (here : t.tasks[caller]? = some ⟨.call (.serve agent incoming), work⟩)
    (hpath : Server.Endpoint.ofPath? incoming.target.path = none) :
    upstream caller events t ≤ 1 ∧
      (incoming.toRequest? agent.origin = none →
        upstream caller events t = 0 ∧
          ∃ answer, work = .done (.answer answer) ∧ answer.status = 400) ∧
      ∀ request, incoming.toRequest? agent.origin = some request →
        (HadCopy agent request (history caller events) → upstream caller events t = 0) ∧
        (Handled caller events t → ¬HadCopy agent request (history caller events) →
          upstream caller events t = 1) ∧
        (¬Handled caller events t → GoesOn calls t caller ∨
          ∃ number, isStartedBy caller events t number ∧ GoesOn calls t number) := by
  have hrequest (request : Request) (hsome : incoming.toRequest? agent.origin = some request) :
      (Activity.serve agent incoming).request? = some request := by
    rw [Activity.request?, if_pos hpath, hsome]
  refine ⟨?_, refused_of_serve run here hpath, fun request hsome => ?_⟩
  · cases hread : incoming.toRequest? agent.origin with
    | none =>
        rw [(refused_of_serve run here hpath hread).1]
        decide
    | some request =>
        obtain ⟨debt, -, hle, -⟩ := upstream_of_serve run here (hrequest request hread)
        exact hle
  · obtain ⟨debt, accounts, -, hspared, hone, hgoes⟩ :=
      upstream_of_serve run here (hrequest request hsome)
    rw [hadCopy_iff run here (hrequest request hsome) accounts]
    exact ⟨hspared, hone, hgoes⟩

end

/-! ### A visit through the server -/

namespace Visit

open Kiosk (kiosk frontPage page looking leads_looking visit visit_runs)

def incoming : Server.Incoming where
  method := "GET"
  target := ⟨"/", none⟩
  headers := [("accept", "text/html".toUTF8.toList)]
  body := .empty

def request : Request := { frontPage with headers := [("accept", "text/html")] }

theorem read_incoming : incoming.toRequest? kiosk.origin = some request := by decide +kernel

theorem class_request :
    RequestClass.ofRequest? kiosk.settings request = some .navigation := by decide +kernel

theorem leads_serving : Work.Leads (Activity.serve kiosk incoming).work
    (looking request (.error .unavailable) ++ [⟨.await .revalidation 0, .ok page⟩])
    (.done (.answer (.ofResponse page (some .network)))) := by
  have hrequest : (Activity.serve kiosk incoming).request? = some request := read_incoming
  rw [serve_work_eq hrequest]
  exact ((leads_looking class_request (by nofun) page).bind_of_done
    (Server.relay request)).bind_of_done _

/-- Nothing is stored, so the call waits for the revalidation that it starts, and that is all. -/
theorem one_request_in_visit : ∃ t,
    Run (fun _ => True) (.new [kiosk] .empty)
        (visit (.serve kiosk incoming) request (.ok page) []) t ∧
      Handled 1 (visit (.serve kiosk incoming) request (.ok page) []) t ∧
      upstream 1 (visit (.serve kiosk incoming) request (.ok page) []) t = 1 := by
  obtain ⟨t, run, here, hdone⟩ :=
    visit_runs (Store.Key.isStorable_ofRequest rfl) leads_serving fun _ _ => rfl
  have handled : Handled 1 (visit (.serve kiosk incoming) request (.ok page) []) t :=
    fun number task hthere _ => hdone task (List.mem_of_getElem? hthere)
  obtain ⟨-, -, hread⟩ := one_request_upstream run here (by decide)
  obtain ⟨-, hone, -⟩ := hread request read_incoming
  refine ⟨t, run, handled, hone handled ?_⟩
  rintro ⟨hclass, -⟩
  rw [class_request] at hclass
  cases hclass

end Visit

end OfflineAgent
