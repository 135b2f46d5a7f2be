import OfflineAgent.Proofs.Interleaving.Jobs
import OfflineAgent.Proofs.Lifecycle.Phases

/-!
# What calls ask for

All calls on an agent add to the outside world in the same few ways: they open its static store,
start the loading of its manifest, and write or revalidate what they were asked to handle. A set of
operations that admits these and all quiet ones admits every call on the agent; calls on the stores
alone need no more.
-/

namespace OfflineAgent

/-- The operation adds nothing: no store, no row, no job and no report. -/
def Op.IsQuiet : Op → Prop
  | .storage (.openStore _) | .storage (.put _ _ _) | .start _ | .report _ _ _ => False
  | _ => True

/-- The operations that an agent needs for its life, for loading its manifest if it has to, and for
the requests that it handles. -/
structure Agent.Admits (agent : Agent) (loading : Prop) (handled : Request → Prop)
    (allowed : Op → Prop) : Prop where
  quiet : ∀ op, op.IsQuiet → allowed op
  opens : loading → allowed (.storage (.openStore agent.stores.static))
  loads : loading → ∀ path url, agent.origin.join path = .ok url →
    allowed (.start (.precache agent.stores.static (.get url)))
  keeps : ∀ store request response, handled request → store ∈ agent.settings.whitelist →
    (Store.Key.ofRequest request).isStorable → response.isComplete →
    allowed (.storage (.put store (.ofRequest request) response))
  revalidates : ∀ request, handled request →
    allowed (.start (.revalidate agent.stores.dynamic request))

variable {agent : Agent} {loading : Prop} {handled : Request → Prop} {allowed : Op → Prop}

namespace Agent

theorem static_mem_whitelist : agent.stores.static ∈ agent.settings.whitelist :=
  List.mem_cons_self

theorem dynamic_mem_whitelist : agent.stores.dynamic ∈ agent.settings.whitelist :=
  List.mem_cons_of_mem _ List.mem_cons_self

namespace Admits

theorem precache (admits : agent.Admits loading handled allowed) (hloading : loading) :
    agent.precache.Asks allowed :=
  asks_precache (admits.opens hloading) (fun path url _ => admits.loads hloading path url)
    fun _ => admits.quiet _ trivial

theorem activate (admits : agent.Admits loading handled allowed) : agent.activate.Asks allowed :=
  asks_activate (admits.quiet _ trivial) (admits.quiet _ trivial)
    (fun _ => admits.quiet _ trivial) (admits.quiet _ trivial)

theorem install (admits : agent.Admits loading handled allowed) (hloading : loading) :
    agent.install.Asks allowed := by
  refine ⟨admits.quiet _ trivial, fun before => ?_⟩
  cases before with
  | true => exact trivial
  | false =>
      refine ⟨admits.quiet _ trivial, fun state => ?_⟩
      change Work.Asks allowed (if state ≠ .installing then _ else _)
      split
      · exact trivial
      · refine (admits.precache hloading).bind fun report =>
          ⟨admits.quiet _ trivial, fun moved => ?_⟩
        cases moved with
        | false => exact trivial
        | true =>
            refine ⟨admits.quiet _ trivial, fun asked => ?_⟩
            cases asked with
            | false => exact trivial
            | true => exact admits.activate.bind fun _ => trivial

theorem skipWaiting (admits : agent.Admits loading handled allowed) :
    agent.skipWaiting.Asks allowed := by
  refine ⟨admits.quiet _ trivial, fun _ => ⟨admits.quiet _ trivial, fun state => ?_⟩⟩
  change Work.Asks allowed (if state = .waiting then _ else _)
  split
  · exact admits.activate.bind fun _ => trivial
  · exact trivial

theorem control (admits : agent.Admits loading handled allowed) (message : ControlMessage) :
    (agent.control message).Asks allowed := by
  cases message with
  | skipWaiting => exact admits.skipWaiting.bind fun _ => trivial
  | getVersion => exact trivial
  | unknown => exact trivial

theorem sync (admits : agent.Admits loading handled allowed) (hloading : loading) (tag : String) :
    (agent.sync tag).Asks allowed :=
  asks_sync (admits.precache hloading)

theorem strategy (admits : agent.Admits loading handled allowed) {request : Request}
    (hhandled : handled request) (order : Strategy) :
    (order.run agent.stores request).Asks allowed := by
  have hmatch : allowed (.storage (.matchAny (.ofRequest request))) := admits.quiet _ trivial
  have hkeep (store : String) (hstore : store ∈ agent.settings.whitelist) (response : Response) :=
    admits.keeps store request response hhandled hstore
  cases order with
  | networkFirst =>
      exact Strategy.asks_networkFirst (admits.quiet _ trivial) hmatch
        (hkeep _ dynamic_mem_whitelist)
  | cacheFirst =>
      exact Strategy.asks_cacheFirst (admits.quiet _ trivial)
        (admits.quiet _ trivial) (hkeep _ static_mem_whitelist)
  | staleWhileRevalidate =>
      exact Strategy.asks_staleWhileRevalidate hmatch (admits.revalidates request hhandled)
        fun _ => admits.quiet _ trivial

theorem handle (admits : agent.Admits loading handled allowed) {request : Request}
    (hhandled : handled request) : (agent.handle request).Asks allowed :=
  asks_handle (admits.quiet _ trivial) (fun kind _ => admits.strategy hhandled kind.strategy)
    fun _ _ => Fallback.asks_resolve (admits.quiet _ trivial)
      fun _ _ _ => admits.quiet _ trivial

end Admits

end Agent

/-- The request that a call has its agent handle. -/
def Simulation.Activity.request? : Simulation.Activity → Option Request
  | .fetch _ request => some request
  | .serve agent incoming =>
    if Server.Endpoint.ofPath? incoming.target.path = none then incoming.toRequest? agent.origin
    else none
  | _ => none

/-- The call has its agent load the manifest. -/
def Simulation.Activity.Loads : Simulation.Activity → Prop
  | .install _ | .precache _ | .sync _ _ => True
  | .serve _ incoming => Server.Endpoint.ofPath? incoming.target.path = some .sync
  | _ => False

open Simulation (Activity)
open Lifecycle (agentOf?)

theorem Agent.Admits.intercept (admits : agent.Admits loading handled allowed)
    {incoming : Server.Incoming}
    (hhandled : ∀ request, incoming.toRequest? agent.origin = some request → handled request) :
    (Server.intercept agent incoming).Asks allowed := by
  unfold Server.intercept
  split
  · exact trivial
  · rename_i request hrequest
    refine (admits.handle (hhandled request hrequest)).bind fun verdict => ?_
    cases verdict with
    | respond served => exact trivial
    | passThrough =>
        refine ⟨admits.quiet _ trivial, fun answer => ?_⟩
        cases answer <;> exact trivial

theorem Agent.Admits.answerState (admits : agent.Admits loading handled allowed) :
    (Server.answerState agent).Asks allowed :=
  ⟨admits.quiet _ trivial, fun _ => trivial⟩

theorem Agent.Admits.answerMessage (admits : agent.Admits loading handled allowed)
    (body : ByteArray) : (Server.answerMessage agent body).Asks allowed := by
  unfold Server.answerMessage
  split
  · exact trivial
  · refine (admits.control _).bind fun reply => ?_
    cases reply <;> exact trivial

theorem Agent.Admits.answerSync (admits : agent.Admits loading handled allowed)
    (hloading : loading) (incoming : Server.Incoming) :
    (Server.answerSync agent incoming).Asks allowed := by
  unfold Server.answerSync
  split
  · exact trivial
  · split
    · exact trivial
    · dsimp only
      split
      · exact trivial
      · refine (admits.sync hloading _).bind fun report => ?_
        cases report <;> exact trivial

theorem Agent.Admits.answer (admits : agent.Admits loading handled allowed)
    {incoming : Server.Incoming} (hloads : (Activity.serve agent incoming).Loads → loading)
    (hhandled : ∀ request, (Activity.serve agent incoming).request? = some request →
      handled request) :
    (Server.answer agent incoming).Asks allowed := by
  unfold Server.answer
  split
  · rename_i hpath
    refine admits.intercept fun request hrequest => hhandled request ?_
    rw [Activity.request?, if_pos hpath, hrequest]
  · split
    · exact admits.answerState
    · split
      · exact admits.answerState.bind fun _ => trivial
      · exact trivial
  · rename_i endpoint _ hpath
    split
    · exact trivial
    · split
      · exact admits.answerMessage _
      · exact admits.answerSync (hloads hpath) _
      · exact trivial

/-- Every call on an agent asks only for what the agent needs. -/
theorem Agent.Admits.activity (admits : agent.Admits loading handled allowed) {activity : Activity}
    (hagent : agentOf? activity = some agent) (hloads : activity.Loads → loading)
    (hhandled : ∀ request, activity.request? = some request → handled request) :
    activity.work.Asks allowed := by
  cases activity <;> simp only [agentOf?, Option.some.injEq, reduceCtorEq] at hagent <;>
    subst hagent
  case install => exact (admits.install (hloads trivial)).bind fun _ => trivial
  case precache => exact (admits.precache (hloads trivial)).bind fun _ => trivial
  case activate => exact admits.activate.bind fun _ => trivial
  case skipWaiting => exact admits.skipWaiting.bind fun _ => trivial
  case supersede => exact ⟨admits.quiet _ trivial, fun _ => trivial⟩
  case state => exact ⟨admits.quiet _ trivial, fun _ => trivial⟩
  case message => exact (admits.control _).bind fun _ => trivial
  case sync => exact (admits.sync (hloads trivial) _).bind fun _ => trivial
  case push => exact trivial
  case fetch =>
    refine (admits.handle (hhandled _ rfl)).bind fun verdict => ?_
    cases verdict <;> exact trivial
  case serve => exact (admits.answer hloads hhandled).bind fun _ => trivial

/-! ### Calls of every kind -/

/-- The operations that all calls need that write under no other keys. -/
structure Permits (written : Store.Key → Prop) (allowed : Op → Prop) : Prop where
  quiet : ∀ op, op.IsQuiet → allowed op
  opens : ∀ name, allowed (.storage (.openStore name))
  puts : ∀ store key response, written key → key.isStorable → response.isComplete →
    allowed (.storage (.put store key response))
  starts : ∀ job : Job, written (.ofRequest job.request) → allowed (.start job)

/-- Whatever a call writes, it writes under keys of these. -/
def Simulation.Activity.WritesTo (written : Store.Key → Prop) (activity : Activity) : Prop :=
  (∀ agent, agentOf? activity = some agent →
      ∀ path url, agent.origin.join path = .ok url → written (.ofRequest (.get url))) ∧
    (∀ request, activity.request? = some request → written (.ofRequest request)) ∧
    match activity with
    | .put _ key _ | .keep _ key _ => written key
    | .strategy _ _ request => written (.ofRequest request)
    | _ => True

variable {written : Store.Key → Prop}

theorem Permits.job {job : Job} {ticket : Ticket} (permits : Permits written allowed)
    (hreport : ∀ channel outcome, allowed (.report channel ticket outcome))
    (hwritten : written (.ofRequest job.request)) : (job.work ticket).Asks allowed :=
  job.asks_work (permits.quiet _ trivial) hreport
    fun response => permits.puts job.store _ response hwritten

theorem Permits.strategy (permits : Permits written allowed) {order : Strategy}
    {stores : StorePair} {request : Request} (hwritten : written (.ofRequest request)) :
    (order.run stores request).Asks allowed := by
  have hmatch : allowed (.storage (.matchAny (.ofRequest request))) :=
    permits.quiet _ trivial
  have hput (store : String) (response : Response) := permits.puts store _ response hwritten
  cases order with
  | networkFirst => exact Strategy.asks_networkFirst (permits.quiet _ trivial) hmatch (hput _)
  | cacheFirst =>
      exact Strategy.asks_cacheFirst (permits.quiet _ trivial) (permits.quiet _ trivial)
        (hput _)
  | staleWhileRevalidate =>
      exact Strategy.asks_staleWhileRevalidate hmatch (permits.starts (.revalidate _ _) hwritten)
        fun _ => permits.quiet _ trivial

theorem Permits.activity (permits : Permits written allowed) {activity : Activity}
    (hwrites : activity.WritesTo written) : activity.work.Asks allowed := by
  obtain ⟨hloads, hhandles, hown⟩ := hwrites
  cases hagent : agentOf? activity with
  | some agent =>
      have admits : agent.Admits True (fun request => written (.ofRequest request)) allowed :=
        ⟨permits.quiet, fun _ => permits.opens _,
          fun _ path url hjoin =>
            permits.starts (.precache _ _) (hloads agent hagent path url hjoin),
          fun store request response hhandled _ => permits.puts store _ response hhandled,
          fun request => permits.starts (.revalidate _ _)⟩
      exact admits.activity hagent (fun _ => trivial) hhandles
  | none =>
      cases activity <;> simp only [agentOf?, reduceCtorEq] at hagent
      case openStore name => exact ⟨permits.opens name, fun _ => trivial⟩
      case get | matchAny | names | delete => exact ⟨permits.quiet _ trivial, fun _ => trivial⟩
      case put => exact (Stores.asks_put (permits.puts _ _ _ hown)).bind fun _ => trivial
      case keep => exact (Stores.asks_keep (permits.puts _ _ _ hown)).bind fun _ => trivial
      case reconcile whitelist =>
        have hreconcile : (Stores.reconcile whitelist).Asks allowed :=
          Stores.asks_reconcile (permits.quiet _ trivial) fun _ => permits.quiet _ trivial
        exact hreconcile.bind fun _ => trivial
      case strategy =>
        refine (permits.strategy hown).bind fun outcome => ?_
        cases outcome <;> exact trivial
      case fallback page request kind =>
        have hresolve : (Fallback.resolve page request kind).Asks allowed :=
          Fallback.asks_resolve (permits.quiet _ trivial) fun _ _ _ => permits.quiet _ trivial
        exact hresolve.bind fun _ => trivial

end OfflineAgent
