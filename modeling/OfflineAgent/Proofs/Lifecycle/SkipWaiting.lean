import OfflineAgent.Proofs.Lifecycle.Activation

/-!
# No request to skip waiting is lost

An installation says that the agent waits and then looks at the flag; a request sets the flag and
then looks at the state. Whichever comes first, one of the two sees the other, so once all calls
have returned an installed agent with its flag set is active.
-/

namespace OfflineAgent.Lifecycle

open Simulation Interleaving

section

variable {agent : Agent} {retires : Bool} {cell next : Cell} {phase after : Phase}
  {exchange : Exchange}

/-! ### The flags -/

theorem Move.claimed (move : Move agent retires cell phase exchange after next)
    (hclaimed : cell.installClaimed = true ∨
      exchange.op = .lifecycle agent.number .claimInstall) :
    next.installClaimed = true := by
  cases move with
  | claim => rfl
  | quiet _ hop =>
      refine hclaimed.resolve_right fun hclaim => ?_
      rw [hclaim] at hop
      simp [Neutral] at hop
  | _ => simpa using hclaimed

theorem Move.skips (move : Move agent retires cell phase exchange after next)
    (hskip : cell.skipWaiting = true ∨ exchange.op = .lifecycle agent.number .requestSkip) :
    next.skipWaiting = true := by
  cases move with
  | request => rfl
  | quiet _ hop =>
      refine hskip.resolve_right fun hrequest => ?_
      rw [hrequest] at hop
      simp [Neutral] at hop
  | _ => simpa using hskip

theorem Move.not_redundant (move : Move agent false cell phase exchange after next)
    (hstate : cell.state ≠ .redundant) : next.state ≠ .redundant := by
  cases move with
  | publish | begin | finish => nofun
  | supersede hretires => cases hretires
  | _ => exact hstate

end

section

variable {agent : Agent} {retires : Bool} {tables : Store.Tables} {events : List Event} {t : System}
  {number : Nat} {exchange : Exchange}

theorem claimed_of_run (run : Run (On agent retires) (.new [agent] tables) events t)
    (hmem : .act number exchange ∈ events)
    (hop : exchange.op = .lifecycle agent.number .claimInstall) :
    (t.cells agent.number).installClaimed = true := by
  refine moves_induction (motive := fun events cell _ => ∀ number exchange,
    exchange.op = .lifecycle agent.number .claimInstall → .act number exchange ∈ events →
      cell.installClaimed = true) run ?_ ?_ ?_ number exchange hop hmem
  · intro number exchange hop hmem
    exact absurd hmem List.not_mem_nil
  · intro events cell phases activity ih number exchange hop hmem
    exact ih number exchange hop (by simpa using hmem)
  · intro events cell phases acting acted after next ih move number exchange hop hmem
    obtain hbefore | hlast := List.mem_append.mp hmem
    · exact move.claimed (.inl (ih number exchange hop hbefore))
    · obtain ⟨rfl, rfl⟩ : number = acting ∧ exchange = acted := by simpa using hlast
      exact move.claimed (.inr hop)

theorem skips_of_run (run : Run (On agent retires) (.new [agent] tables) events t)
    (hrequested : agent.settings.skipWaiting = true ∨
      ∃ number exchange, exchange.op = .lifecycle agent.number .requestSkip ∧
        .act number exchange ∈ events) :
    (t.cells agent.number).skipWaiting = true := by
  refine moves_induction (motive := fun events cell _ => (agent.settings.skipWaiting = true ∨
    ∃ number exchange, exchange.op = .lifecycle agent.number .requestSkip ∧
      .act number exchange ∈ events) → cell.skipWaiting = true) run ?_ ?_ ?_ hrequested
  · intro hrequested
    exact hrequested.resolve_right (by simp)
  · intro events cell phases activity ih hrequested
    exact ih (by simpa using hrequested)
  · intro events cell phases acting acted after next ih move hrequested
    obtain hconfigured | ⟨number, exchange, hop, hmem⟩ := hrequested
    · exact move.skips (.inl (ih (.inl hconfigured)))
    · obtain hbefore | hlast := List.mem_append.mp hmem
      · exact move.skips (.inl (ih (.inr ⟨number, exchange, hop, hbefore⟩)))
      · obtain ⟨rfl, rfl⟩ : number = acting ∧ exchange = acted := by simpa using hlast
        exact move.skips (.inr hop)

theorem not_redundant_of_run (run : Run (On agent false) (.new [agent] tables) events t) :
    (t.cells agent.number).state ≠ .redundant := by
  refine moves_induction (motive := fun _ cell _ => cell.state ≠ .redundant) run nofun ?_ ?_
  · intro events cell phases activity ih
    exact ih
  · intro events cell phases number exchange after next ih move
    exact move.not_redundant ih

/-! ### When all calls have returned -/

/-- Every call has returned. Background jobs may still be under way. -/
def Returned (s : System) : Prop :=
  ∀ task ∈ s.tasks, ∀ activity, task.purpose = .call activity → ∃ reply, task.work = .done reply

theorem phaseOf_background (run : Run (On agent retires) (.new [agent] tables) events t) {job : Job}
    {ticket : Ticket} {work : Work Reply}
    (here : t.tasks[number]? = some ⟨.background job ticket, work⟩) :
    phaseOf agent retires events number = .idle := by
  obtain ⟨leads, -⟩ := run.leads rfl number _ here
  have hneutral := leads.asks ((neutral_job job ticket).bind fun _ => trivial)
  have hstays : ∀ exchanges : List Exchange, (∀ exchange ∈ exchanges, Neutral exchange.op) →
      (discipline agent retires).after .idle exchanges = some .idle := by
    intro exchanges hall
    induction exchanges with
    | nil => rfl
    | cons exchange rest ih =>
        rw [Discipline.after_cons,
          discipline_of_neutral rfl _ _ (hall exchange List.mem_cons_self), Option.bind_some]
        exact ih fun other hmem => hall other (List.mem_cons_of_mem _ hmem)
  unfold phaseOf
  rw [hstays _ hneutral, Option.getD_some]

theorem phaseOf_of_returned (run : Run (On agent retires) (.new [agent] tables) events t)
    (returned : Returned t) (number : Nat) : phaseOf agent retires events number = .idle := by
  cases here : t.tasks[number]? with
  | none =>
      unfold phaseOf
      rw [run.history_eq_nil here]
      rfl
  | some task =>
      obtain ⟨purpose, work⟩ := task
      cases purpose with
      | background job ticket => exact phaseOf_background run here
      | call activity =>
          obtain ⟨reply, hdone⟩ := returned _ (List.mem_of_getElem? here) activity rfl
          obtain ⟨-, hfollows⟩ := follows_phaseOf run rfl here
          rw [show work = .done reply from hdone] at hfollows
          exact hfollows

/-- A call on the agent that has returned began with the first operation of its work. -/
theorem first_of_returned {calls : Activity → Prop} (run : Run calls (.new [agent] tables) events t)
    (returned : Returned t) {activity : Activity} {op : Op} {rest : op.Answer → Work Reply}
    (hwork : activity.work = .ask op rest) (hcalled : .call activity ∈ events) :
    ∃ number answer, .act number ⟨op, answer⟩ ∈ events := by
  obtain ⟨number, work, here⟩ := run.called hcalled
  obtain ⟨leads, -⟩ := run.leads rfl number _ here
  obtain ⟨reply, hdone⟩ := returned _ (List.mem_of_getElem? here) activity rfl
  have hleads : Work.Leads (.ask op rest) (history number events) (.done reply) := by
    have hpurpose : (Purpose.call activity).work = .ask op rest := hwork
    rw [← hpurpose, ← hdone]
    exact leads
  obtain ⟨-, hask⟩ | ⟨answer, exchanges, hhistory, -⟩ := Work.leads_ask_iff.mp hleads
  · cases hask
  · exact ⟨number, answer, mem_history.mp (hhistory ▸ List.mem_cons_self)⟩

/-- **No request to skip waiting is lost.** In every run of any number of calls on one agent that is
never superseded, with any faults and in any order: when all calls have returned, the agent was
installed and somebody asked it not to wait, it is active. -/
theorem active_of_skip_requested
    (run : Run (fun activity => agentOf? activity = some agent ∧ activity ≠ .supersede agent)
      (.new [agent] tables) events t)
    (returned : Returned t) (hinstalled : .call (.install agent) ∈ events)
    (hrequested : agent.settings.skipWaiting = true ∨ .call (.skipWaiting agent) ∈ events ∨
      ∃ wantsReply, .call (.message agent .skipWaiting wantsReply) ∈ events) :
    (t.cells agent.number).state = .active := by
  have moves : Run (On agent false) (.new [agent] tables) events t :=
    run.mono fun activity ⟨hagent, hnot⟩ => ⟨hagent, fun hsame => absurd hsame hnot⟩
  have hclaimed : (t.cells agent.number).installClaimed = true := by
    obtain ⟨number, answer, hmem⟩ := first_of_returned run returned rfl hinstalled
    exact claimed_of_run moves hmem rfl
  have hskip : (t.cells agent.number).skipWaiting = true := by
    refine skips_of_run moves (hrequested.imp_right fun hcalled => ?_)
    obtain hcalled | ⟨wantsReply, hcalled⟩ := hcalled
    · obtain ⟨number, answer, hmem⟩ := first_of_returned run returned rfl hcalled
      exact ⟨number, _, rfl, hmem⟩
    · obtain ⟨number, answer, hmem⟩ := first_of_returned run returned rfl hcalled
      exact ⟨number, _, rfl, hmem⟩
  have coherent := coherent_of_run moves
  have hidle := phaseOf_of_returned moves returned
  cases hstate : (t.cells agent.number).state with
  | active => rfl
  | redundant => exact absurd hstate (not_redundant_of_run moves)
  | installing =>
      obtain ⟨number, hinstalls⟩ := coherent.installs hstate hclaimed
      rw [hidle number] at hinstalls
      exact hinstalls.elim
  | waiting =>
      obtain ⟨number, hpresses⟩ := coherent.presses hstate hskip
      rw [hidle number] at hpresses
      exact hpresses.elim
  | activating =>
      obtain ⟨number, hclears⟩ := coherent.activates hstate
      rw [hidle number] at hclears
      exact hclears.elim

end

open Kiosk (patient)

/-- The request comes while the agent installs, and its stores are out of reach. -/
def requestDuringInstall : List Event :=
  [.call (.install patient), .call (.skipWaiting patient),
    .act 0 ⟨.lifecycle 0 .claimInstall, false⟩,
    .act 0 ⟨.lifecycle 0 .read, .installing⟩,
    .act 1 ⟨.lifecycle 0 .requestSkip, ()⟩,
    .act 1 ⟨.lifecycle 0 .read, .installing⟩,
    .act 0 ⟨.storage (.openStore "stowaway-static-v1"), .error .unavailable⟩,
    .act 0 ⟨.lifecycle 0 (.advance .installing .waiting), true⟩,
    .act 0 ⟨.lifecycle 0 .skipRequested, true⟩,
    .act 0 ⟨.lifecycle 0 (.advance .waiting .activating), true⟩,
    .act 0 ⟨.storage .names, .error .unavailable⟩,
    .act 0 ⟨.lifecycle 0 (.advance .activating .active), true⟩]

theorem requestDuringInstall_returns :
    ∃ t, Run (fun activity => agentOf? activity = some patient ∧ activity ≠ .supersede patient)
      (.new [patient] .empty) requestDuringInstall t ∧ Returned t := by
  refine ⟨_, ⟨_, .call ⟨rfl, nofun⟩, _, .call ⟨rfl, nofun⟩, _, .act rfl (.moved rfl),
    _, .act rfl (.moved rfl), _, .act rfl (.moved rfl), _, .act rfl (.moved rfl),
    _, .act rfl (.failed _), _, .act rfl (.moved rfl), _, .act rfl (.moved rfl),
    _, .act rfl (.moved rfl), _, .act rfl (.failed _), _, .act rfl (.moved rfl), rfl⟩, ?_⟩
  exact List.forall_mem_cons.mpr ⟨fun _ _ => ⟨_, rfl⟩, List.forall_mem_singleton.mpr
    fun _ _ => ⟨_, rfl⟩⟩

theorem active_of_request_during_install :
    ∃ t, Run (fun activity => agentOf? activity = some patient ∧ activity ≠ .supersede patient)
        (.new [patient] .empty) requestDuringInstall t ∧
      Returned t ∧ (t.cells 0).state = .active := by
  obtain ⟨t, run, returned⟩ := requestDuringInstall_returns
  exact ⟨t, run, returned, active_of_skip_requested run returned (by simp [requestDuringInstall])
    (.inr (.inl (by simp [requestDuringInstall])))⟩

end OfflineAgent.Lifecycle
