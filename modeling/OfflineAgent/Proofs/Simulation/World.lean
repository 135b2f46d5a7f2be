import OfflineAgent.Proofs.Interleaving.Stores
import OfflineAgent.Proofs.Lifecycle.SkipWaiting
import OfflineAgent.Proofs.Simulation.Threads

/-!
# A scripted world as a run

A world takes its work in one order, with one network and one disk. Whatever is done in it, it is as
a system that a run of interleaved work leads to, so what holds of all runs holds of all worlds.
-/

namespace OfflineAgent.Simulation

open Interleaving (Purpose Run System)
open Lifecycle (agentOf?)

/-! ### What a world shows -/

def jobThread (job : Job) (ticket : Ticket) : Work (Option (Nat × Reply)) := do
  job.work ticket
  return none

def callThread (number : Nat) (activity : Activity) : Work (Option (Nat × Reply)) := do
  return some (number, ← activity.work)

def WaitingFetch.thread (waiting : WaitingFetch Reply) : Thread Reply :=
  .ask (.fetch waiting.request) waiting.next

def WaitingCall.thread (waiting : WaitingCall Reply) : Thread Reply :=
  .ask (.storage waiting.call) waiting.next

def WaitingOutcome.thread (waiting : WaitingOutcome Reply) : Thread Reply :=
  .ask (.await waiting.channel waiting.ticket) waiting.next

/-- A list is gone through, and what holds of the rest is kept. -/
theorem foldl_of_rest {α β : Type} {motive : List α → β → Prop} {f : β → α → β}
    (step : ∀ a rest b, motive (a :: rest) b → motive rest (f b a)) {list : List α} {b : β}
    (first : motive list b) : motive [] (list.foldl f b) := by
  induction list generalizing b with
  | nil => exact first
  | cons a rest ih => exact ih (step a rest b first)

namespace World

/-- Whatever is not done yet. -/
def pending (world : World Reply) : List (Thread Reply) :=
  world.ready ++ world.fetches.map (·.thread) ++ world.calls.map (·.thread) ++
    world.awaiting.map (·.thread)

section

variable {world : World Reply} {held : List (Thread Reply)}

/-! Threads change places. -/

theorem pending_wake {thread : Thread Reply} :
    (thread :: held ++ world.pending).Perm (held ++ (world.wake thread).pending) := by
  classical
  simp only [pending, wake, List.perm_iff_count, List.count_append, List.count_cons,
    List.count_nil]
  omega

theorem pending_fetch (waiting : WaitingFetch Reply) :
    (waiting.thread :: held ++ world.pending).Perm
      (held ++ pending { world with fetches := world.fetches ++ [waiting] }) := by
  classical
  simp only [pending, List.perm_iff_count, List.count_append, List.count_cons, List.count_nil,
    List.map_append, List.map_cons, List.map_nil]
  omega

theorem pending_call (waiting : WaitingCall Reply) :
    (waiting.thread :: held ++ world.pending).Perm
      (held ++ pending { world with calls := world.calls ++ [waiting] }) := by
  classical
  simp only [pending, List.perm_iff_count, List.count_append, List.count_cons, List.count_nil,
    List.map_append, List.map_cons, List.map_nil]
  omega

theorem pending_await (waiting : WaitingOutcome Reply) :
    (waiting.thread :: held ++ world.pending).Perm
      (held ++ pending { world with awaiting := world.awaiting ++ [waiting] }) := by
  classical
  simp only [pending, List.perm_iff_count, List.count_append, List.count_cons, List.count_nil,
    List.map_append, List.map_cons, List.map_nil]
  omega

theorem pending_without_awaiting : (held ++ world.pending).Perm
    (world.awaiting.map (·.thread) ++ held ++ pending { world with awaiting := [] }) := by
  classical
  simp only [pending, List.perm_iff_count, List.count_append, List.count_nil, List.map_nil]
  omega

theorem pending_of_ready {thread : Thread Reply} {rest : List (Thread Reply)}
    (hready : world.ready = thread :: rest) : (held ++ world.pending).Perm
      (thread :: held ++ pending { world with ready := rest }) := by
  classical
  simp only [pending, hready, List.perm_iff_count, List.count_append, List.count_cons]
  omega

theorem pending_of_calls {waiting : WaitingCall Reply} {rest : List (WaitingCall Reply)}
    (hcalls : world.calls = waiting :: rest) : (held ++ world.pending).Perm
      (waiting.thread :: held ++ pending { world with calls := rest }) := by
  classical
  simp only [pending, hcalls, List.perm_iff_count, List.count_append, List.count_cons,
    List.map_cons]
  omega

theorem pending_without_fetches : (held ++ world.pending).Perm
    (world.fetches.map (·.thread) ++ held ++ pending { world with fetches := [] }) := by
  classical
  simp only [pending, List.perm_iff_count, List.count_append, List.count_nil, List.map_nil]
  omega

end

/-- Nothing was posted yet that the waiting thread waits for. -/
def IsAwaiting (world : World Reply) (waiting : WaitingOutcome Reply) : Prop :=
  world.posted.findSome? (Posted.outcome? · waiting.channel waiting.ticket) = none

/-- The world has the stores, states and posted outcomes of the system. -/
structure Mirrors (world : World Reply) (s : System) : Prop where
  clock : world.now.IsClock
  tables : s.tables = world.tables
  cells : ∀ number < world.cells.length, s.cells number = world.cell number
  posted : s.posted = world.posted
  nextTicket : s.nextTicket = world.nextTicket

/-- A run leads to a system that is as the world. Some threads may be out of their places, to be run
next. -/
def IsReached (calls : Activity → Prop) (origin : System) (world : World Reply)
    (held : List (Thread Reply)) : Prop :=
  ∃ events s, Run calls origin events s ∧ world.Mirrors s ∧
    Carries (Within world.cells.length) s.tasks (held ++ world.pending) ∧
    ∀ waiting ∈ world.awaiting, world.IsAwaiting waiting

namespace IsReached

variable {calls : Activity → Prop} {origin : System} {world other : World Reply}
  {held others : List (Thread Reply)} {thread : Thread Reply}

theorem awaiting (reached : world.IsReached calls origin held) :
    ∀ waiting ∈ world.awaiting, world.IsAwaiting waiting := by
  obtain ⟨_, _, _, _, _, hawaiting⟩ := reached
  exact hawaiting

/-- Only the stores, the states, and what is under way or was posted are shown. -/
theorem scenery (reached : world.IsReached calls origin held) {agents : List Agent}
    {watchers : List Lifecycle.Watcher} {network : Network} {gates : List Gate}
    {faults : List Fault} {gatedCalls : List Store.Call.Kind} {callPermits : Nat}
    {written : List Store.Key} {requests : List Request} {finished : List (Nat × Reply)} :
    IsReached calls origin { world with
      agents, watchers, network, gates, faults, gatedCalls, callPermits, written, requests,
      finished } held := by
  obtain ⟨events, s, run, mirrors, carries, hawaiting⟩ := reached
  exact ⟨events, s, run, ⟨mirrors.clock, mirrors.tables, mirrors.cells, mirrors.posted,
    mirrors.nextTicket⟩, carries, hawaiting⟩

/-- Threads may be put in other places. -/
theorem move (reached : world.IsReached calls origin held) {ready : List (Thread Reply)}
    {fetches : List (WaitingFetch Reply)} {waitingCalls : List (WaitingCall Reply)}
    {awaiting : List (WaitingOutcome Reply)}
    (hperm : (held ++ world.pending).Perm (others ++
      pending { world with ready, fetches, calls := waitingCalls, awaiting }))
    (hawaiting : ∀ waiting ∈ awaiting, world.IsAwaiting waiting) :
    IsReached calls origin { world with ready, fetches, calls := waitingCalls, awaiting }
      others := by
  obtain ⟨events, s, run, mirrors, carries, -⟩ := reached
  exact ⟨events, s, run, ⟨mirrors.clock, mirrors.tables, mirrors.cells, mirrors.posted,
    mirrors.nextTicket⟩, carries.perm hperm, hawaiting⟩

theorem of_done {result : Option (Nat × Reply)}
    (reached : world.IsReached calls origin (.done result :: held)) :
    world.IsReached calls origin held := by
  obtain ⟨events, s, run, mirrors, carries, hawaiting⟩ := reached
  exact ⟨events, s, run, mirrors, carries.of_done, hawaiting⟩

/-- A thread goes on with an answer that the system may give too. -/
theorem answer {op : Op} {next : op.Answer → Thread Reply} {answer : op.Answer}
    (reached : world.IsReached calls origin (.ask op next :: held))
    (answers : ∀ s, world.Mirrors s → Within world.cells.length op →
      ∃ t, s.Answers op answer t ∧ t.tasks = s.tasks ∧ other.Mirrors t)
    (hcells : other.cells.length = world.cells.length) (hpending : other.pending = world.pending)
    (hawaiting : ∀ waiting ∈ other.awaiting, other.IsAwaiting waiting) :
    other.IsReached calls origin (next answer :: held) := by
  obtain ⟨events, s, run, mirrors, carries, -⟩ := reached
  obtain ⟨number, purpose, rest, here, hwithin, hrest⟩ := carries.of_ask
  obtain ⟨t, hanswers, htasks, hmirrors⟩ := answers s mirrors hwithin
  refine ⟨events ++ [.act number ⟨op, answer⟩], t.setTask number ⟨purpose, rest answer⟩,
    run.append ⟨_, .act here hanswers, rfl⟩, ⟨hmirrors.clock, hmirrors.tables, hmirrors.cells,
      hmirrors.posted, hmirrors.nextTicket⟩, ?_, hawaiting⟩
  rw [hcells, hpending, System.setTask, htasks]
  exact hrest answer

theorem lifecycle {agent : Nat} {step : Lifecycle.Step} {next : step.Answer → Thread Reply}
    (reached : world.IsReached calls origin (.ask (.lifecycle agent step) next :: held)) :
    (world.lifecycle agent step).2.IsReached calls origin
      (next (world.lifecycle agent step).1 :: held) := by
  refine reached.answer (fun s mirrors hwithin => ?_) List.length_set rfl reached.awaiting
  have hcell := mirrors.cells agent hwithin
  refine ⟨{ s with cells := Function.update s.cells agent (step.run (s.cells agent)).2 },
    .moved (by rw [hcell]; rfl), rfl, mirrors.clock, mirrors.tables, fun number hlt => ?_,
    mirrors.posted, mirrors.nextTicket⟩
  have hnumber : number < world.cells.length := by rwa [← List.length_set]
  by_cases hsame : agent = number
  · subst hsame
    simp [World.lifecycle, World.cell, hcell, hnumber]
  · simp [World.lifecycle, World.cell, hsame, mirrors.cells number hnumber,
      Function.update_of_ne (Ne.symm hsame)]

theorem startJob {job : Job} {next : Ticket → Thread Reply}
    (reached : world.IsReached calls origin (.ask (.start job) next :: held)) :
    IsReached calls origin
      { world.wake (jobThread job world.nextTicket) with
        nextTicket := world.nextTicket + 1 }
      (next world.nextTicket :: held) := by
  obtain ⟨events, s, run, mirrors, carries, hawaiting⟩ := reached
  obtain ⟨number, purpose, rest, here, -, hrest⟩ := carries.of_ask
  have hticket := mirrors.nextTicket
  refine ⟨events ++ [.act number ⟨.start job, world.nextTicket⟩],
    System.setTask { s with
      nextTicket := s.nextTicket + 1
      tasks := s.tasks ++ [(Purpose.background job s.nextTicket).task] } number
        ⟨purpose, rest world.nextTicket⟩,
    run.append ⟨_, .act here (.begun hticket.symm), rfl⟩, ⟨mirrors.clock, mirrors.tables,
      mirrors.cells, mirrors.posted, congrArg (· + 1) hticket⟩, ?_, hawaiting⟩
  have hdoes : Does (jobThread job world.nextTicket)
      (Purpose.background job s.nextTicket).task.work := by
    rw [← hticket]
    exact ⟨fun _ => none, (Work.bind_assoc _ (fun _ => .done Reply.ok) fun _ => .done none).symm⟩
  have hasks : (Purpose.background job s.nextTicket).task.work.Asks (Within world.cells.length) :=
    ((Lifecycle.neutral_job job s.nextTicket).mono fun _ => within_of_neutral).bind fun _ => trivial
  have hlt := (List.getElem?_eq_some_iff.mp here).1
  rw [System.setTask, List.set_append, if_pos hlt]
  refine ((hrest world.nextTicket).begin hdoes hasks).perm ?_
  exact (List.Perm.swap _ _ _).trans (pending_wake.cons _)

theorem fetch {request : Request} {next : Except FetchFailure Response → Thread Reply}
    (reached : world.IsReached calls origin (.ask (.fetch request) next :: held)) :
    (world.fetch request).2.IsReached calls origin (next (world.fetch request).1 :: held) :=
  reached.answer (fun s mirrors _ => ⟨s, .fetched _, rfl, mirrors.clock, mirrors.tables,
    mirrors.cells, mirrors.posted, mirrors.nextTicket⟩) rfl rfl reached.awaiting

theorem await {channel : Channel} {ticket : Ticket} {next : channel.Outcome → Thread Reply}
    {outcome : channel.Outcome}
    (reached : world.IsReached calls origin (.ask (.await channel ticket) next :: held))
    (hposted : world.posted.findSome? (Posted.outcome? · channel ticket) = some outcome) :
    world.IsReached calls origin (next outcome :: held) :=
  reached.answer (fun s mirrors _ => ⟨s, .awaited (by rw [mirrors.posted, hposted]), rfl, mirrors⟩)
    rfl rfl reached.awaiting

/-- A thread may be left to wait for what was not posted yet. -/
theorem suspend {waiting : WaitingOutcome Reply}
    (reached : world.IsReached calls origin (waiting.thread :: held))
    (hnone : world.IsAwaiting waiting) :
    IsReached calls origin { world with awaiting := world.awaiting ++ [waiting] } held := by
  refine reached.move (pending_await waiting) fun other hmem => ?_
  obtain hbefore | hlast := List.mem_append.mp hmem
  · exact reached.awaiting other hbefore
  · obtain rfl := List.mem_singleton.mp hlast
    exact hnone

theorem wake (reached : world.IsReached calls origin (thread :: held)) :
    (world.wake thread).IsReached calls origin held := by
  exact reached.move pending_wake reached.awaiting

theorem deliver {channel : Channel} {ticket : Ticket} {outcome : channel.Outcome}
    {next : Unit → Thread Reply}
    (reached : world.IsReached calls origin (.ask (.report channel ticket outcome) next :: held)) :
    (world.deliver ⟨channel, ticket, outcome⟩).IsReached calls origin (next () :: held) := by
  have taken : IsReached calls origin { world with awaiting := [] }
      (.ask (.report channel ticket outcome) next :: (world.awaiting.map (·.thread) ++ held)) := by
    exact reached.move (pending_without_awaiting.cons _) nofun
  have posted : IsReached calls origin
      { world with
        posted := world.posted ++ [⟨channel, ticket, outcome⟩]
        awaiting := [] } (next () :: (world.awaiting.map (·.thread) ++ held)) :=
    taken.answer (fun s mirrors _ => ⟨_, .reported, rfl, mirrors.clock, mirrors.tables,
      mirrors.cells, congrArg (· ++ [⟨channel, ticket, outcome⟩]) mirrors.posted,
      mirrors.nextTicket⟩) rfl rfl nofun
  refine (foldl_of_rest (motive := fun rest (mid : World Reply) =>
    mid.posted = world.posted ++ [⟨channel, ticket, outcome⟩] ∧
      (∀ waiting ∈ rest, world.IsAwaiting waiting) ∧
      mid.IsReached calls origin (rest.map (·.thread) ++ (next () :: held))) ?_
    ⟨rfl, reached.awaiting,
      posted.move (List.perm_middle.symm.append_right _) posted.awaiting⟩).2.2
  rintro waiting rest mid ⟨hposted, hrest, here⟩
  have hfound : mid.posted.findSome? (Posted.outcome? · waiting.channel waiting.ticket) =
      Posted.outcome? ⟨channel, ticket, outcome⟩ waiting.channel waiting.ticket := by
    have hnone := hrest waiting List.mem_cons_self
    rw [hposted, List.findSome?_append, hnone, Option.none_or, List.findSome?_singleton]
  have hlater := fun waiting hmem => hrest waiting (List.mem_cons_of_mem _ hmem)
  split
  · rename_i found hsome
    exact ⟨hposted, hlater, (here.await (hfound.trans hsome)).wake⟩
  · rename_i hnone
    exact ⟨hposted, hlater, here.suspend (hfound.trans hnone)⟩

/-- A thread that runs until it is done or has to wait goes on as its task may. -/
theorem run (reached : world.IsReached calls origin (thread :: held)) :
    (world.run thread).IsReached calls origin held := by
  induction thread generalizing world with
  | done result =>
      cases result with
      | none => exact reached.of_done
      | some reply => exact reached.of_done.scenery
  | ask op next ih =>
      cases op with
      | storage call =>
          exact reached.move (pending_call ⟨call, next⟩) reached.awaiting
      | lifecycle agent step => exact ih _ reached.lifecycle
      | start job => exact ih _ reached.startJob
      | report channel ticket outcome => exact ih _ reached.deliver
      | fetch request =>
          have asked : IsReached calls origin
              { world with requests := world.requests ++ [request] }
              (.ask (.fetch request) next :: held) := reached.scenery
          rw [World.run]
          split
          · exact ih _ asked.fetch
          · exact asked.move (pending_fetch ⟨request, next⟩) asked.awaiting
      | await channel ticket =>
          rw [World.run]
          split
          · rename_i outcome hposted
            exact ih _ (reached.await hposted)
          · rename_i hnone
            have waits : IsReached calls origin world
                (WaitingOutcome.thread ⟨channel, ticket, next⟩ :: held) := reached
            exact waits.suspend hnone

theorem perform {call : Store.Call} {next : Except Store.Failure call.Answer → Thread Reply}
    (reached : world.IsReached calls origin (.ask (.storage call) next :: held)) :
    (world.perform call).2.IsReached calls origin (next (world.perform call).1 :: held) := by
  unfold World.perform
  split
  · rename_i failure hfailure
    exact reached.answer (fun s mirrors _ => ⟨s, .failed failure, rfl, mirrors⟩) rfl rfl
      reached.awaiting
  · refine reached.answer (fun s mirrors _ => ⟨s.store call world.now,
      .performed mirrors.clock ?_, rfl, mirrors.clock, ?_, mirrors.cells,
      mirrors.posted, mirrors.nextTicket⟩) rfl rfl reached.awaiting
    · rw [mirrors.tables]
    · rw [System.store, mirrors.tables]

theorem performNext {after : World Reply} (reached : world.IsReached calls origin held)
    (hnext : world.performNext? = some after) : after.IsReached calls origin held := by
  unfold performNext? at hnext
  split at hnext
  · cases hnext
  · rename_i call next rest hcalls
    dsimp only at hnext
    split at hnext
    · cases hnext
    · obtain rfl := Option.some.inj hnext
      have taken := reached.move (pending_of_calls hcalls) reached.awaiting
      exact IsReached.wake (IsReached.perform taken.scenery)

theorem move? {after : World Reply} (reached : world.IsReached calls origin [])
    (hmove : world.move? = some after) : after.IsReached calls origin [] := by
  unfold World.move? at hmove
  split at hmove
  · rename_i thread rest hready
    obtain rfl := Option.some.inj hmove
    exact IsReached.run (reached.move (pending_of_ready hready) reached.awaiting)
  · exact reached.performNext hmove

theorem settleWithin {fuel : Nat} (reached : world.IsReached calls origin []) :
    (world.settleWithin fuel).IsReached calls origin [] := by
  induction fuel generalizing world with
  | zero => exact reached
  | succ fuel ih =>
      rw [World.settleWithin]
      split
      · rename_i after hmove
        exact ih (reached.move? hmove)
      · exact reached

theorem start {number : Nat} {activity : Activity} (reached : world.IsReached calls origin [])
    (admitted : calls activity)
    (known : ∀ agent, agentOf? activity = some agent → agent.number < world.cells.length) :
    (world.start number activity.work).IsReached calls origin [] := by
  obtain ⟨events, s, run, mirrors, carries, hawaiting⟩ := reached
  have begun : world.IsReached calls origin [callThread number activity] := by
    refine ⟨events ++ [.call activity], s.begin activity, run.append (.call admitted),
      ⟨mirrors.clock, mirrors.tables, mirrors.cells, mirrors.posted, mirrors.nextTicket⟩,
      carries.begin ⟨fun reply => some (number, reply), rfl⟩ (asks_activity known), hawaiting⟩
  exact begun.wake.settleWithin

theorem releaseFetches (reached : world.IsReached calls origin []) :
    world.releaseFetches.IsReached calls origin [] := by
  have taken : IsReached calls origin { world with fetches := [] }
      (world.fetches.map (·.thread) ++ []) :=
    reached.move pending_without_fetches reached.awaiting
  refine foldl_of_rest (motive := fun rest (mid : World Reply) =>
    mid.IsReached calls origin (rest.map WaitingFetch.thread ++ [])) ?_ taken
  intro waiting rest mid here
  split
  · exact (IsReached.fetch here).wake
  · exact here.move (pending_fetch _) here.awaiting

end IsReached

/-! ### Sessions -/

/-- What may be done in a world whose agents are there. -/
inductive Action (calls : Activity → Prop) : World Reply → World Reply → Prop
  | start {world : World Reply} {number : Nat} {activity : Activity} (admitted : calls activity)
      (known : ∀ agent, agentOf? activity = some agent → agent.number < world.cells.length) :
      Action calls world (world.start number activity.work)
  | release {world : World Reply} (url : String) (count : Nat) :
      Action calls world (world.release url count)
  | releaseCalls {world : World Reply} (count : Nat) : Action calls world (world.releaseCalls count)
  | setOutcomes {world : World Reply} (url : String) (outcomes : List Outcome) :
      Action calls world (world.setOutcomes url outcomes)
  | gate {world : World Reply} (url : String) : Action calls world (world.gate url)
  | setFaults {world : World Reply} (faults : List Fault) :
      Action calls world (world.setFaults faults)
  | gateCalls {world : World Reply} (kind : Store.Call.Kind) :
      Action calls world (world.gateCalls kind)
  | subscribe {world : World Reply} (agent : Nat) : Action calls world (world.subscribe agent).2
  | look {world after : World Reply} {watcher : Nat} {seen : Bool × Lifecycle.State}
      (hlook : world.look? watcher = some (seen, after)) : Action calls world after
  | clearEvents {world : World Reply} : Action calls world world.clearEvents

theorem IsReached.action {calls : Activity → Prop} {origin : System} {world after : World Reply}
    (reached : world.IsReached calls origin []) (action : Action calls world after) :
    after.IsReached calls origin [] := by
  cases action with
  | start admitted known => exact reached.start admitted known
  | release url count => exact (IsReached.releaseFetches reached.scenery).settleWithin
  | releaseCalls count => exact IsReached.settleWithin reached.scenery
  | setOutcomes url outcomes => exact reached.scenery
  | gate url =>
      unfold World.gate
      split
      · exact reached
      · exact reached.scenery
  | setFaults faults => exact reached.scenery
  | gateCalls kind => exact reached.scenery
  | subscribe agent => exact reached.scenery
  | look hlook =>
      obtain ⟨watcher, -, hafter⟩ := Option.map_eq_some_iff.mp hlook
      obtain ⟨-, rfl⟩ := Prod.mk.inj hafter
      exact reached.scenery
  | clearEvents => exact reached.scenery

/-- Agents that were just added, on stores that hold anything. -/
def opened (now : Moment) (network : Network) (agents : List Agent) (tables : Store.Tables) :
    World Reply :=
  { World.new now network with
    tables
    agents
    cells := agents.map fun agent => .new agent.settings.skipWaiting }

variable {now : Moment} {network : Network} {agents : List Agent} {tables : Store.Tables}

theorem addAgent_opened {settings : Settings} {number : Nat} {after : World Reply}
    (hadd : (opened now network agents tables).addAgent settings = .ok (number, after)) :
    ∃ agent : Agent, agent.number = agents.length ∧
      after = opened now network (agents ++ [agent]) tables := by
  unfold addAgent at hadd
  cases horigin : settings.originUrl with
  | error fault =>
      rw [horigin] at hadd
      cases hadd
  | ok origin =>
      rw [horigin] at hadd
      obtain ⟨-, rfl⟩ := Prod.mk.inj (Except.ok.inj hadd)
      exact ⟨⟨agents.length, settings, origin⟩, rfl, by simp [opened]⟩

theorem isReached_opened {calls : Activity → Prop} (hclock : now.IsClock)
    (hnumbers : agents.map (·.number) = List.range agents.length) :
    (opened now network agents tables).IsReached calls (.new agents tables) [] := by
  have hnumber {i : Nat} (hlt : i < agents.length) : agents[i].number = i := by
    simpa [hlt] using congrArg (·[i]?) hnumbers
  have howns : Owns (Within (opened now network agents tables).cells.length) [] [] :=
    ⟨.nil, nofun, fun _ _ here => by cases here⟩
  refine ⟨[], _, rfl, ⟨hclock, rfl, fun number hlt => ?_, rfl, rfl⟩, ⟨[], .nil, howns⟩, nofun⟩
  rw [opened, List.length_map] at hlt
  have hfind : agents.find? (·.number = number) = some agents[number] :=
    List.find?_eq_some_iff_getElem.mpr ⟨decide_eq_true (hnumber hlt), number, hlt, rfl,
      fun j hj => by simpa [hnumber (hj.trans hlt)] using hj.ne⟩
  simp [System.new, hfind, cell, opened, hlt]

section

variable {calls : Activity → Prop} {world : World Reply} (hclock : now.IsClock)
  (hnumbers : agents.map (·.number) = List.range agents.length)
  (session : Relation.ReflTransGen (Action calls) (opened now network agents tables) world)

include hclock hnumbers session

/-- **What is done in a world is a run.** -/
theorem isReached_of_session : world.IsReached calls (.new agents tables) [] := by
  induction session with
  | refl => exact isReached_opened hclock hnumbers
  | tail before last ih => exact ih.action last

theorem intact_of_session (intact : tables.Intact) : world.tables.Intact := by
  obtain ⟨events, s, run, mirrors, -⟩ := isReached_of_session hclock hnumbers session
  rw [← mirrors.tables]
  exact run.intact intact

/-- When nothing is pending, the world is as a system in which all calls have returned. -/
theorem returned_of_session (hpending : world.pending = []) :
    ∃ events s, Run calls (.new agents tables) events s ∧ world.Mirrors s ∧
      Lifecycle.Returned s := by
  obtain ⟨events, s, run, mirrors, carries, -⟩ := isReached_of_session hclock hnumbers session
  rw [hpending] at carries
  refine ⟨events, s, run, mirrors, fun task hmem activity _ => ?_⟩
  obtain ⟨number, here⟩ := List.getElem?_of_mem hmem
  obtain ⟨owners, hperm, owns⟩ := carries
  obtain rfl : owners = [] := List.map_eq_nil_iff.mp hperm.eq_nil
  exact (owns.covers number task here).resolve_left List.not_mem_nil

end

end World

end OfflineAgent.Simulation
