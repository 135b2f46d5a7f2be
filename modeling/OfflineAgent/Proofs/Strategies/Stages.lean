import OfflineAgent.Proofs.Strategies.Answer

/-!
# What becomes of the network's response

A call on an active agent asks the network once at most, itself or by a revalidation, and whoever
asked keeps the response that is worth it, under the key of the request. The stages below say who
has still to do what. Nothing is looked up any more once the network had a response.
-/

namespace OfflineAgent

open Simulation Interleaving

/-- Only whole responses to GET are kept. -/
def Request.keeps (request : Request) (response : Response) : Bool :=
  (Store.Key.ofRequest request).isStorable && response.isComplete

inductive Stage where
  /-- The store has to be asked, and then the network. -/
  | probing
  /-- What is stored anywhere is looked up, and then a revalidation has to be started. -/
  | looking
  /-- The network has to be asked. -/
  | asking
  /-- A revalidation was started. -/
  | awaiting (ticket : Ticket)
  /-- The network's response has to be kept. -/
  | holding (response : Response)
  /-- The network had no response. -/
  | failed
  | closed

namespace Stage

/-- Work begins to handle a request in one of these. -/
def IsFirst : Stage → Prop
  | probing | looking | asking => True
  | awaiting _ | holding _ | failed | closed => False

/-- Nothing has to be done any more. -/
def IsOver : Stage → Prop
  | awaiting _ | failed | closed => True
  | probing | looking | asking | holding _ => False

end Stage

/-- How a request is handled whose response is kept in a store. -/
def serving (store : String) (request : Request) : Discipline Stage
  | .probing, .storage (.get asked key), answer =>
    if asked = store ∧ key = .ofRequest request then
      some (if (foundIn answer).isSome then .closed else .asking)
    else none
  | .looking, .storage (.matchAny _), _ => some .looking
  | .looking, .start job, ticket =>
    if job = .revalidate store request then some (.awaiting ticket) else none
  | .asking, .fetch asked, .ok response =>
    if asked = request then some (if request.keeps response then .holding response else .closed)
    else none
  | .asking, .fetch asked, .error _ => if asked = request then some .failed else none
  | .awaiting own, .await .revalidation ticket, .ok _ => if own = ticket then some .closed else none
  | .awaiting own, .await .revalidation ticket, .error _ =>
    if own = ticket then some .failed else none
  | .holding response, .storage (.put kept key given), _ =>
    if kept = store ∧ key = .ofRequest request ∧ given = response then some .closed else none
  | .failed, .storage (.matchAny _), _ => some .failed
  | stage, .report _ _ _, _ => some stage
  | _, _, _ => none

/-! ### What was done before a stage -/

/-- The exchange may bring a request from one stage to another. -/
def Exchange.isNoted : Exchange → Bool
  | ⟨.storage (.matchAny _), _⟩ | ⟨.report _ _ _, _⟩ | ⟨.lifecycle _ _, _⟩ => false
  | _ => true

namespace Stage

/-- What leads to the network being asked by the one who has to handle the request. -/
def Lead (store : String) (request : Request) (first : Stage) (notes : List Exchange) : Prop :=
  (first = .asking ∧ notes = []) ∨
    ∃ answer, first = .probing ∧ foundIn answer = none ∧
      notes = [⟨.storage (.get store (.ofRequest request)), answer⟩]

/-- What was done between two stages. -/
def Notes (store : String) (request : Request) (first : Stage) (notes : List Exchange) :
    Stage → Prop
  | probing => first = .probing ∧ notes = []
  | looking => first = .looking ∧ notes = []
  | asking => Lead store request first notes
  | awaiting ticket =>
    first = .looking ∧ notes = [⟨.start (.revalidate store request), ticket⟩]
  | holding response =>
    request.keeps response ∧
      ∃ lead, Lead store request first lead ∧ notes = lead ++ [⟨.fetch request, .ok response⟩]
  | failed =>
    (∃ failure lead, Lead store request first lead ∧
        notes = lead ++ [⟨.fetch request, .error failure⟩]) ∨
      ∃ ticket failure, first = .looking ∧
        notes = [⟨.start (.revalidate store request), ticket⟩,
          ⟨.await .revalidation ticket, .error failure⟩]
  | closed =>
    (∃ answer, first = .probing ∧ (foundIn answer).isSome ∧
        notes = [⟨.storage (.get store (.ofRequest request)), answer⟩]) ∨
      (∃ ticket response, first = .looking ∧
        notes = [⟨.start (.revalidate store request), ticket⟩,
          ⟨.await .revalidation ticket, .ok response⟩]) ∨
      (∃ response lead, Lead store request first lead ∧ ¬request.keeps response ∧
        notes = lead ++ [⟨.fetch request, .ok response⟩]) ∨
      ∃ response answer lead, Lead store request first lead ∧ request.keeps response ∧
        notes = lead ++ [⟨.fetch request, .ok response⟩,
          ⟨.storage (.put store (.ofRequest request) response), answer⟩]

variable {store : String} {request : Request} {first stage next : Stage}
  {history notes : List Exchange}

/-- An exchange that is allowed is noted and brings on the next stage, or leaves the stage as it
is. -/
theorem Notes.step {op : Op} {answer : op.Answer} (before : Notes store request first notes stage)
    (hallowed : serving store request stage op answer = some next) :
    Notes store request first (notes ++ [⟨op, answer⟩].filter Exchange.isNoted) next := by
  have hnoted (hnoted : Exchange.isNoted ⟨op, answer⟩ = true)
      (hnext : Notes store request first (notes ++ [⟨op, answer⟩]) next) :
      Notes store request first (notes ++ [⟨op, answer⟩].filter Exchange.isNoted) next := by
    rwa [List.filter_singleton, hnoted]
  have hquiet (hquiet : Exchange.isNoted ⟨op, answer⟩ = false) (hsame : stage = next) :
      Notes store request first (notes ++ [⟨op, answer⟩].filter Exchange.isNoted) next := by
    rwa [List.filter_singleton, hquiet, cond_false, List.append_nil, ← hsame]
  unfold serving at hallowed
  split at hallowed <;>
    simp only [Option.ite_none_right_eq_some, Option.some.injEq, reduceCtorEq] at hallowed
  -- Lookups in all stores, and reports.
  case h_2 | h_9 | h_10 => exact hquiet rfl hallowed
  -- The one store has a copy, or it has none.
  case h_1 =>
    obtain ⟨⟨rfl, rfl⟩, rfl⟩ := hallowed
    obtain ⟨hfirst, rfl⟩ := before
    refine hnoted rfl ?_
    split
    · rename_i hfound
      exact .inl ⟨_, hfirst, hfound, rfl⟩
    · rename_i hmissed
      exact .inr ⟨_, hfirst, Option.not_isSome_iff_eq_none.mp hmissed, rfl⟩
  -- A revalidation is started.
  case h_3 =>
    obtain ⟨rfl, rfl⟩ := hallowed
    obtain ⟨hfirst, rfl⟩ := before
    exact hnoted rfl ⟨hfirst, rfl⟩
  -- The network answers the one who asked it.
  case h_4 =>
    obtain ⟨rfl, rfl⟩ := hallowed
    refine hnoted rfl ?_
    split
    · rename_i hkeeps
      exact ⟨hkeeps, notes, before, rfl⟩
    · rename_i hdrops
      exact .inr (.inr (.inl ⟨_, notes, before, hdrops, rfl⟩))
  case h_5 =>
    obtain ⟨rfl, rfl⟩ := hallowed
    exact hnoted rfl (.inl ⟨_, notes, before, rfl⟩)
  -- The revalidation comes to something, or to nothing.
  case h_6 =>
    obtain ⟨rfl, rfl⟩ := hallowed
    obtain ⟨hfirst, rfl⟩ := before
    exact hnoted rfl (.inr (.inl ⟨_, _, hfirst, rfl⟩))
  case h_7 =>
    obtain ⟨rfl, rfl⟩ := hallowed
    obtain ⟨hfirst, rfl⟩ := before
    exact hnoted rfl (.inr ⟨_, _, hfirst, rfl⟩)
  -- The response is kept.
  case h_8 =>
    obtain ⟨⟨rfl, rfl, rfl⟩, rfl⟩ := hallowed
    obtain ⟨hkeeps, lead, hlead, rfl⟩ := before
    exact hnoted rfl (.inr (.inr (.inr ⟨_, _, lead, hlead, hkeeps, List.append_assoc _ _ _⟩)))

theorem notes_of_after (hfirst : first.IsFirst)
    (hafter : (serving store request).after first history = some stage) :
    Notes store request first (history.filter Exchange.isNoted) stage := by
  induction history using List.reverseRecOn generalizing stage with
  | nil =>
      obtain rfl := Option.some.inj hafter
      cases first with
      | probing | looking => exact ⟨rfl, rfl⟩
      | asking => exact .inl ⟨rfl, rfl⟩
      | awaiting | holding | failed | closed => exact hfirst.elim
  | append_singleton history exchange ih =>
      rw [Discipline.after_concat] at hafter
      obtain ⟨before, hbefore, hallowed⟩ := Option.bind_eq_some_iff.mp hafter
      rw [List.filter_append]
      exact (ih hbefore).step hallowed

/-! ### What follows from it -/

/-- What the history of a stage tells. -/
structure Past (store : String) (request : Request) (first stage : Stage)
    (history : List Exchange) : Prop where
  /-- Only the network's response to the request is put, and then the request is handled. -/
  puts : ∀ kept key response answer,
    (⟨.storage (.put kept key response), answer⟩ : Exchange) ∈ history →
      stage = .closed ∧ kept = store ∧ key = .ofRequest request ∧ request.keeps response ∧
        (⟨.fetch request, .ok response⟩ : Exchange) ∈ history
  awaits : ∀ ticket, stage = .awaiting ticket →
    (⟨.start (.revalidate store request), ticket⟩ : Exchange) ∈ history
  once : ∀ job other ticket given, (⟨.start job, ticket⟩ : Exchange) ∈ history →
    (⟨.start other, given⟩ : Exchange) ∈ history → ticket = given
  /-- Nothing but the failure of a revalidation leads on from it. -/
  starts : ∀ job ticket, (⟨.start job, ticket⟩ : Exchange) ∈ history →
    first = .looking ∧ job = .revalidate store request ∧
      (stage = .awaiting ticket ∨ stage = .closed ∨ stage = .failed ∧
        ∃ failure, (⟨.await .revalidation ticket, .error failure⟩ : Exchange) ∈ history)
  /-- Whoever asks the store first fetches only what it does not hold. -/
  fetches : ∀ asked outcome, (⟨.fetch asked, outcome⟩ : Exchange) ∈ history →
    first = .asking ∨ first = .probing ∧ ∃ answer, foundIn answer = none ∧
      (⟨.storage (.get store (.ofRequest request)), answer⟩ : Exchange) ∈ history
  ends : stage.IsOver →
    (first = .probing ∧ ∃ answer, (foundIn answer).isSome ∧
        (⟨.storage (.get store (.ofRequest request)), answer⟩ : Exchange) ∈ history) ∨
      (first = .looking ∧ ∃ ticket,
        (⟨.start (.revalidate store request), ticket⟩ : Exchange) ∈ history) ∨
      ∃ outcome, (⟨.fetch request, outcome⟩ : Exchange) ∈ history ∧
        ∀ response, outcome = .ok response → request.keeps response → ∃ answer,
          (⟨.storage (.put store (.ofRequest request) response), answer⟩ : Exchange) ∈ history

theorem past_of_notes (hnotes : Notes store request first notes stage) :
    Past store request first stage notes := by
  cases stage with
  | probing | looking | awaiting =>
      obtain ⟨hfirst, rfl⟩ := hnotes
      constructor <;> simp_all [IsOver]
  | asking =>
      obtain ⟨-, rfl⟩ | ⟨_, -, -, rfl⟩ := hnotes <;> constructor <;> simp [IsOver]
  | holding =>
      obtain ⟨-, _, ⟨hfirst, rfl⟩ | ⟨_, hfirst, hmissed, rfl⟩, rfl⟩ := hnotes <;> constructor <;>
        simp_all [IsOver]
  | failed =>
      obtain ⟨_, _, ⟨hfirst, rfl⟩ | ⟨_, hfirst, hmissed, rfl⟩, rfl⟩ |
        ⟨_, _, hfirst, rfl⟩ := hnotes <;> constructor <;> simp_all
  | closed =>
      obtain ⟨_, hfirst, hfound, rfl⟩ | ⟨_, _, hfirst, rfl⟩ |
        ⟨_, _, ⟨hfirst, rfl⟩ | ⟨_, hfirst, hmissed, rfl⟩, hdrops, rfl⟩ |
        ⟨_, _, _, ⟨hfirst, rfl⟩ | ⟨_, hfirst, hmissed, rfl⟩, hkeeps, rfl⟩ := hnotes <;>
        constructor <;> simp_all

/-- Only what is noted tells. -/
theorem Past.of_filter (past : Past store request first stage (history.filter Exchange.isNoted)) :
    Past store request first stage history := by
  obtain ⟨puts, awaits, once, starts, fetches, ends⟩ := past
  constructor
  · simpa [Exchange.isNoted] using puts
  · simpa [Exchange.isNoted] using awaits
  · simpa [Exchange.isNoted] using once
  · simpa [Exchange.isNoted] using starts
  · simpa [Exchange.isNoted] using fetches
  · simpa [Exchange.isNoted] using ends

/-- The stores are left alone while a revalidation is awaited and once the request is handled. -/
theorem busy_of_storage {call : Store.Call} {answer : (Op.storage call).Answer}
    (hallowed : serving store request stage (.storage call) answer = some next) :
    stage ≠ .closed ∧ ∀ ticket, stage ≠ .awaiting ticket := by
  constructor
  · rintro rfl
    cases hallowed
  · rintro ticket rfl
    cases hallowed

theorem awaiting_of_await {channel : Channel} {ticket : Ticket} {outcome : channel.Outcome}
    (hallowed : serving store request stage (.await channel ticket) outcome = some next) :
    channel = .revalidation ∧ stage = .awaiting ticket := by
  unfold serving at hallowed
  split at hallowed <;> simp_all

end Stage

/-! ### Who goes through the stages -/

/-- The store in which the response to a request of a class is kept. -/
def Agent.home (agent : Agent) : RequestClass → String
  | .staticAsset => agent.stores.static
  | .api | .navigation | .other => agent.stores.dynamic

def RequestClass.first : RequestClass → Stage
  | staticAsset => .probing
  | navigation => .looking
  | api | other => .asking

theorem RequestClass.isFirst_first (kind : RequestClass) : kind.first.IsFirst := by
  cases kind <;> trivial

theorem RequestClass.eq_staticAsset_of_first {kind : RequestClass}
    (hfirst : kind.first = .probing) : kind = .staticAsset := by
  cases kind <;> first | rfl | cases hfirst

theorem RequestClass.eq_navigation_of_first {kind : RequestClass}
    (hfirst : kind.first = .looking) : kind = .navigation := by
  cases kind <;> first | rfl | cases hfirst

/-- A strategy that comes to nothing leaves it to others to find something. -/
def Stage.Leaves (stage : Stage) : Except Strategy.Failure Served → Prop
  | .ok _ => stage.IsOver
  | .error _ => stage = .failed

section

variable {store : String} {request : Request} {stores : StorePair}

theorem serves_keep (store : String) (request : Request) (response : Response) :
    (Stores.keep store (.ofRequest request) response).Follows (serving store request)
      (fun after _ => after = .closed)
      (if request.keeps response then .holding response else .closed) := by
  split
  · rename_i hkeeps
    obtain ⟨hkey, hresponse⟩ := Bool.and_eq_true_iff.mp hkeeps
    unfold Stores.keep
    rw [Stores.put_of_storable hkey hresponse]
    intro answer
    refine ⟨.closed, by simp [serving], ?_⟩
    cases answer <;> rfl
  · rename_i hdrops
    unfold Stores.keep
    rw [Stores.put_of_refused (by rwa [Request.keeps, Bool.and_eq_true] at hdrops)]
    rfl

theorem serves_lookups {α : Type} {work : Work α} {stage : Stage}
    (asks : work.Asks fun op => ∃ key, op = .storage (.matchAny key))
    (hstage : stage = .looking ∨ stage = .failed) :
    work.Follows (serving store request) (fun after _ => after = stage) stage := by
  refine asks.follows fun op answer hmatch => ?_
  obtain ⟨key, rfl⟩ := hmatch
  obtain rfl | rfl := hstage <;> rfl

theorem serves_networkFirst : (Strategy.networkFirst.run stores request).Follows
    (serving stores.dynamic request) Stage.Leaves .asking := by
  intro answer
  cases answer with
  | ok response =>
      refine ⟨_, if_pos rfl, (serves_keep _ _ _).bind fun after _ hafter => ?_⟩
      subst hafter
      exact trivial
  | error failure =>
      refine ⟨.failed, if_pos rfl, ?_⟩
      refine (serves_lookups (Stores.asks_lookup_none ⟨_, rfl⟩) (.inr rfl)).bind
        fun after entry hafter => ?_
      subst hafter
      cases entry with
      | some entry => exact trivial
      | none => rfl

theorem serves_cacheFirst : (Strategy.cacheFirst.run stores request).Follows
    (serving stores.static request) Stage.Leaves .probing := by
  have hlookup : (Stores.lookup (some stores.static) (.ofRequest request)).Follows
      (serving stores.static request)
      (fun after entry => after = if entry.isSome then .closed else .asking) .probing := by
    intro answer
    refine ⟨_, if_pos ⟨rfl, rfl⟩, ?_⟩
    obtain failure | (_ | entry) := answer <;> rfl
  refine hlookup.bind fun after entry hafter => ?_
  subst hafter
  cases entry with
  | some entry => exact trivial
  | none =>
      intro answer
      cases answer with
      | ok response =>
          refine ⟨_, if_pos rfl, (serves_keep _ _ _).bind fun after _ hafter => ?_⟩
          subst hafter
          exact trivial
      | error failure => exact ⟨.failed, if_pos rfl, rfl⟩

theorem serves_staleWhileRevalidate : (Strategy.staleWhileRevalidate.run stores request).Follows
    (serving stores.dynamic request) Stage.Leaves .looking := by
  refine (serves_lookups (Stores.asks_lookup_none ⟨_, rfl⟩) (.inl rfl)).bind
    fun after entry hafter => ?_
  subst hafter
  intro ticket
  refine ⟨.awaiting ticket, if_pos rfl, ?_⟩
  cases entry with
  | some entry => exact trivial
  | none =>
      intro outcome
      cases outcome with
      | ok response => exact ⟨.closed, if_pos rfl, trivial⟩
      | error failure => exact ⟨.failed, if_pos rfl, rfl⟩

theorem serves_settle (agent : Agent) (request : Request) (kind : RequestClass) :
    (kind.strategy.run agent.stores request >>= agent.settle request kind).Follows
      (serving (agent.home kind) request) (fun stage _ => stage.IsOver) kind.first := by
  have hsettle (stage : Stage) (outcome : Except Strategy.Failure Served)
      (hleaves : stage.Leaves outcome) :
      (agent.settle request kind outcome).Follows (serving (agent.home kind) request)
        (fun stage _ => stage.IsOver) stage := by
    cases outcome with
    | ok served => exact hleaves
    | error failure =>
        obtain rfl : stage = .failed := hleaves
        have hresolve : (Fallback.resolve agent.settings.offlinePage request kind).Asks
            fun op => ∃ key, op = .storage (.matchAny key) :=
          Fallback.asks_resolve ⟨_, rfl⟩ fun _ _ _ => ⟨_, rfl⟩
        refine (serves_lookups hresolve (.inr rfl)).bind fun after served hafter => ?_
        subst hafter
        exact trivial
  cases kind with
  | api => exact serves_networkFirst.bind hsettle
  | staticAsset => exact serves_cacheFirst.bind hsettle
  | navigation => exact serves_staleWhileRevalidate.bind hsettle
  | other => exact serves_networkFirst.bind hsettle

theorem serves_revalidation (store : String) (request : Request) (ticket : Ticket) :
    (Purpose.background (.revalidate store request) ticket).work.Follows (serving store request)
      (fun stage _ => stage.IsOver) .asking := by
  have hjob : ((Job.revalidate store request).work ticket).Follows (serving store request)
      (fun stage _ => stage.IsOver) .asking := by
    intro answer
    cases answer with
    | ok response =>
        refine ⟨_, if_pos rfl, fun _ => ⟨_, by split <;> rfl, (serves_keep _ _ _).mono ?_⟩⟩
        rintro _ _ rfl
        exact trivial
    | error failure => exact ⟨.failed, if_pos rfl, fun _ => ⟨_, rfl, trivial⟩⟩
  exact hjob.bind fun after _ hafter => hafter

end

end OfflineAgent
