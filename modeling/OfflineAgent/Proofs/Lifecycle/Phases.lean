import OfflineAgent.Proofs.Agent.Operations
import OfflineAgent.Proofs.Interleaving.System

/-!
# Phases of work on the life of an agent

Every call on an agent is in one of a few phases with respect to its life: it owes nothing, or it is
on its way through an installation or an activation and has yet to say so. The discipline below says
when a call may change the state, enumerate the stores or delete one; all calls on the agent keep to
it (`follows`), whatever they are answered. A call that is done owes nothing.
-/

namespace OfflineAgent.Lifecycle

open Simulation

inductive Phase where
  | idle
  /-- Claimed the installation; has to look whether there still is one to do. -/
  | claimed
  /-- Loads the manifest; has to say that the agent waits. -/
  | loading
  /-- Said that the agent waits; has to ask whether it should activate. -/
  | published
  /-- Asked to skip waiting; has to look whether the agent waits. -/
  | flagged
  /-- Has to try to activate. -/
  | wanting
  /-- Activates. `todo` are the stores that are yet to be deleted, once they are enumerated. -/
  | clearing (todo : Option (List String))
deriving DecidableEq, Repr

/-- The stores that an activation has to delete; none if they cannot be enumerated. -/
def stale (agent : Agent) : Except Store.Failure (List String) → List String
  | .ok names => names.filter fun name => !agent.settings.whitelist.contains name
  | .error _ => []

namespace Phase

/-- Whether work that does not touch the life of the agent may be done in the phase. -/
def isFree : Phase → Bool
  | idle | loading => true
  | _ => false

/-- Stores are enumerated once in an activation, and then each stale one is deleted, in order. -/
def afterCall (agent : Agent) (phase : Phase) (call : Store.Call)
    (answer : Except Store.Failure call.Answer) : Option Phase :=
  match phase, call, answer with
  | clearing none, .names, found => some (clearing (some (stale agent found)))
  | clearing (some (name :: rest)), .delete gone, _ =>
    if gone = name then some (clearing (some rest)) else none
  | phase, call, _ =>
    if phase.isFree ∧ call.kind ≠ .names ∧ call.kind ≠ .delete then some phase else none

/-- Only an agent that may retire is superseded. -/
def afterStep (retires : Bool) (phase : Phase) (step : Step) (answer : step.Answer) :
    Option Phase :=
  match phase, step, answer with
  | idle, .read, _ => some idle
  | idle, .claimInstall, before => some (if before then idle else claimed)
  | idle, .requestSkip, _ => some flagged
  | idle, .supersede, _ => if retires then some idle else none
  | idle, .advance .waiting .activating, moved => some (if moved then clearing none else idle)
  | claimed, .read, state => some (if state = .installing then loading else idle)
  | loading, .advance .installing .waiting, moved => some (if moved then published else idle)
  | published, .skipRequested, asked => some (if asked then wanting else idle)
  | flagged, .read, state => some (if state = .waiting then wanting else idle)
  | wanting, .advance .waiting .activating, moved => some (if moved then clearing none else idle)
  | clearing (some []), .advance .activating .active, _ => some idle
  | _, _, _ => none

end Phase

/-- How calls on an agent deal with its life. -/
def discipline (agent : Agent) (retires : Bool) : Discipline Phase
  | phase, .storage call, answer => phase.afterCall agent call answer
  | phase, .lifecycle number step, answer =>
    if number = agent.number then phase.afterStep retires step answer else none
  | phase, _, _ => if phase.isFree then some phase else none

/-- Operations that have nothing to do with the life of an agent. -/
def Neutral : Op → Prop
  | .storage call => call.kind ≠ .names ∧ call.kind ≠ .delete
  | .lifecycle _ _ => False
  | _ => True

section

variable {agent : Agent} {retires : Bool} {phase : Phase} {α : Type}

theorem discipline_of_neutral (hfree : phase.isFree) (op : Op) (answer : op.Answer)
    (neutral : Neutral op) : discipline agent retires phase op answer = some phase := by
  cases op with
  | storage call =>
      obtain ⟨hnames, hdelete⟩ := neutral
      cases phase <;> cases call <;>
        simp_all [discipline, Phase.afterCall, Phase.isFree, Store.Call.kind]
  | lifecycle number step => exact neutral.elim
  | _ => simp [discipline, hfree]

theorem follows_of_neutral {work : Work α} (neutral : work.Asks Neutral) (hfree : phase.isFree) :
    work.Follows (discipline agent retires) (fun after _ => after = phase) phase :=
  neutral.follows (discipline_of_neutral hfree)

/-! ### Neutral work -/

theorem neutral_storage {call : Store.Call} (hnames : call.kind ≠ .names)
    (hdelete : call.kind ≠ .delete) : Neutral (.storage call) :=
  ⟨hnames, hdelete⟩

theorem neutral_job (job : Job) (ticket : Ticket) : (job.work ticket).Asks Neutral := by
  cases job with
  | revalidate store request =>
      exact Job.asks_revalidate trivial (fun _ => trivial)
        fun _ _ _ => neutral_storage nofun nofun
  | precache store request =>
      exact Job.asks_precache trivial (fun _ => trivial)
        fun _ _ _ => neutral_storage nofun nofun

theorem neutral_strategy (order : Strategy) (stores : StorePair) (request : Request) :
    (order.run stores request).Asks Neutral := by
  cases order with
  | networkFirst =>
      exact Strategy.asks_networkFirst trivial (neutral_storage nofun nofun)
        fun _ _ _ => neutral_storage nofun nofun
  | cacheFirst =>
      exact Strategy.asks_cacheFirst (neutral_storage nofun nofun) trivial
        fun _ _ _ => neutral_storage nofun nofun
  | staleWhileRevalidate =>
      exact Strategy.asks_staleWhileRevalidate (neutral_storage nofun nofun) trivial
        fun _ => trivial

theorem neutral_fallback (page : String) (request : Request) (kind : RequestClass) :
    (Fallback.resolve page request kind).Asks Neutral :=
  Fallback.asks_resolve (neutral_storage nofun nofun) fun _ _ _ => neutral_storage nofun nofun

theorem neutral_precache (agent : Agent) : agent.precache.Asks Neutral :=
  Agent.asks_precache (neutral_storage nofun nofun) (fun _ _ _ _ => trivial) fun _ => trivial

/-! ### Activation -/

theorem stale_cons_of_kept {name : String} {rest : List String}
    (hkept : agent.settings.whitelist.contains name = true) :
    stale agent (.ok (name :: rest)) = stale agent (.ok rest) := by
  dsimp only [stale]
  rw [List.filter_cons_of_neg (by rw [hkept]; decide)]

theorem stale_cons_of_stale {name : String} {rest : List String}
    (hstale : ¬agent.settings.whitelist.contains name = true) :
    stale agent (.ok (name :: rest)) = name :: stale agent (.ok rest) := by
  dsimp only [stale]
  rw [List.filter_cons_of_pos (by rw [Bool.eq_false_iff.mpr hstale]; decide)]

theorem follows_deleteStale (names : List String) :
    (Stores.deleteStale agent.settings.whitelist names).Follows (discipline agent retires)
      (fun after _ => after = .clearing (some []))
      (.clearing (some (stale agent (.ok names)))) := by
  induction names with
  | nil => rfl
  | cons name rest ih =>
      unfold Stores.deleteStale
      split
      · rename_i hkept
        rw [stale_cons_of_kept hkept]
        exact ih
      · rename_i hstale
        rw [stale_cons_of_stale hstale]
        intro answer
        refine ⟨.clearing (some (stale agent (.ok rest))),
          by simp [discipline, Phase.afterCall], ?_⟩
        cases answer with
        | ok found =>
            exact ih.bind fun after _ hafter => hafter
        | error failure => exact ih

theorem follows_reconcile :
    (Stores.reconcile agent.settings.whitelist).Follows (discipline agent retires)
      (fun after _ => after = .clearing (some [])) (.clearing none) := by
  intro found
  refine ⟨.clearing (some (stale agent found)), rfl, ?_⟩
  cases found with
  | ok names => exact (follows_deleteStale names).bind fun after _ hafter => hafter
  | error failure => rfl

theorem follows_activate (hphase : phase = .idle ∨ phase = .wanting) :
    agent.activate.Follows (discipline agent retires) (fun after _ => after = .idle) phase := by
  intro moved
  refine ⟨if moved then .clearing none else .idle, ?_, ?_⟩
  · obtain rfl | rfl := hphase <;> simp [discipline, Phase.afterStep]
  · cases moved with
    | false => rfl
    | true =>
        refine follows_reconcile.bind fun after deleted hafter => ?_
        subst hafter
        cases deleted <;>
          exact fun _ => ⟨.idle, by simp [discipline, Phase.afterStep], rfl⟩

/-! ### Calls on an agent -/

theorem follows_skipWaiting :
    agent.skipWaiting.Follows (discipline agent retires) (fun after _ => after = .idle) .idle := by
  intro _
  refine ⟨.flagged, by simp [discipline, Phase.afterStep], fun state => ?_⟩
  refine ⟨if state = .waiting then .wanting else .idle, by simp [discipline, Phase.afterStep], ?_⟩
  change Work.Follows _ _ (if state = .waiting then _ else _) _
  split
  · exact (follows_activate (.inr rfl)).bind fun after _ hafter => hafter
  · rfl

theorem follows_install :
    agent.install.Follows (discipline agent retires) (fun after _ => after = .idle) .idle := by
  intro before
  refine ⟨if before then .idle else .claimed, by simp [discipline, Phase.afterStep], ?_⟩
  cases before with
  | true => rfl
  | false =>
      intro state
      refine ⟨if state = .installing then .loading else .idle,
        by simp [discipline, Phase.afterStep], ?_⟩
      change Work.Follows _ _ (if state ≠ .installing then _ else _) _
      by_cases hstate : state = .installing
      · simp only [hstate, ne_eq, not_true_eq_false, if_false, if_true]
        refine (follows_of_neutral (neutral_precache agent) rfl).bind fun after report hafter => ?_
        subst hafter
        intro moved
        refine ⟨if moved then .published else .idle, by simp [discipline, Phase.afterStep], ?_⟩
        cases moved with
        | false => rfl
        | true =>
            intro asked
            refine ⟨if asked then .wanting else .idle, by simp [discipline, Phase.afterStep], ?_⟩
            cases asked with
            | false => rfl
            | true => exact (follows_activate (.inr rfl)).bind fun after _ hafter => hafter
      · simp only [hstate, ne_eq, not_false_eq_true, if_true, if_false]
        rfl

theorem follows_control (message : ControlMessage) :
    (agent.control message).Follows (discipline agent retires) (fun after _ => after = .idle)
      .idle := by
  cases message with
  | skipWaiting => exact follows_skipWaiting.bind fun after _ hafter => hafter
  | getVersion => rfl
  | unknown => rfl

theorem follows_sync (tag : String) :
    (agent.sync tag).Follows (discipline agent retires) (fun after _ => after = .idle) .idle :=
  follows_of_neutral (Agent.asks_sync (neutral_precache agent)) rfl

theorem follows_read {f : State → Work α}
    (hnext : ∀ state, (f state).Follows (discipline agent retires) (fun after _ => after = .idle)
      .idle) :
    (agent.step .read >>= f).Follows (discipline agent retires) (fun after _ => after = .idle)
      .idle :=
  fun state => ⟨.idle, by simp [discipline, Phase.afterStep], hnext state⟩

theorem follows_handle (request : Request) :
    (agent.handle request).Follows (discipline agent retires) (fun after _ => after = .idle)
      .idle := by
  refine follows_read fun state => ?_
  split
  · rfl
  · split
    · rfl
    · rename_i kind _
      refine follows_of_neutral ?_ rfl
      refine (neutral_strategy _ _ _).bind fun outcome => ?_
      cases outcome with
      | ok served => exact trivial
      | error failure => exact (neutral_fallback _ _ _).bind fun _ => trivial

theorem follows_intercept (request : Server.Incoming) :
    (Server.intercept agent request).Follows (discipline agent retires)
      (fun after _ => after = .idle) .idle := by
  unfold Server.intercept
  split
  · rfl
  · refine (follows_handle _).bind fun after verdict hafter => ?_
    subst hafter
    cases verdict with
    | respond served => rfl
    | passThrough =>
        refine follows_of_neutral ⟨trivial, fun answer => ?_⟩ rfl
        cases answer <;> exact trivial

theorem follows_answerMessage (body : ByteArray) :
    (Server.answerMessage agent body).Follows (discipline agent retires)
      (fun after _ => after = .idle) .idle := by
  unfold Server.answerMessage
  split
  · rfl
  · refine (follows_control _).bind fun after reply hafter => ?_
    cases reply <;> exact hafter

theorem follows_answerSync (request : Server.Incoming) :
    (Server.answerSync agent request).Follows (discipline agent retires)
      (fun after _ => after = .idle) .idle := by
  unfold Server.answerSync
  split
  · rfl
  · split
    · rfl
    · dsimp only
      split
      · rfl
      · refine (follows_sync _).bind fun after report hafter => ?_
        cases report <;> exact hafter

theorem follows_answer (request : Server.Incoming) :
    (Server.answer agent request).Follows (discipline agent retires) (fun after _ => after = .idle)
      .idle := by
  unfold Server.answer
  split
  · exact follows_intercept request
  · split
    · exact follows_read fun state => rfl
    · split
      · exact follows_read fun state => rfl
      · rfl
  · split
    · rfl
    · split
      · exact follows_answerMessage _
      · exact follows_answerSync request
      · rfl

end

def agentOf? : Activity → Option Agent
  | .install agent | .precache agent | .activate agent | .skipWaiting agent | .supersede agent
  | .state agent | .message agent _ _ | .sync agent _ | .push agent _ | .fetch agent _
  | .serve agent _ => some agent
  | _ => none

/-- Every call on an agent keeps to the discipline, and owes nothing when it is done. Only an agent
that may retire is superseded. -/
theorem follows_activity {agent : Agent} {retires : Bool} {activity : Activity}
    (hagent : agentOf? activity = some agent)
    (hretires : activity = .supersede agent → retires = true) :
    activity.work.Follows (discipline agent retires) (fun after _ => after = .idle) .idle := by
  cases activity <;> simp only [agentOf?, Option.some.injEq, reduceCtorEq] at hagent <;>
    subst hagent
  case install => exact follows_install.bind fun after _ hafter => hafter
  case precache =>
    exact (follows_of_neutral (neutral_precache _) rfl).bind fun after _ hafter => hafter
  case activate => exact (follows_activate (.inl rfl)).bind fun after _ hafter => hafter
  case skipWaiting => exact follows_skipWaiting.bind fun after _ hafter => hafter
  case supersede =>
    exact fun _ => ⟨.idle, by simp [discipline, Phase.afterStep, hretires rfl], rfl⟩
  case state => exact follows_read fun state => rfl
  case message => exact (follows_control _).bind fun after _ hafter => hafter
  case sync => exact (follows_sync _).bind fun after _ hafter => hafter
  case push => rfl
  case fetch =>
    refine (follows_handle _).bind fun after verdict hafter => ?_
    cases verdict <;> exact hafter
  case serve => exact (follows_answer _).bind fun after _ hafter => hafter

end OfflineAgent.Lifecycle
