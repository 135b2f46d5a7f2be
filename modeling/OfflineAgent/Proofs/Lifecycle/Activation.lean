import OfflineAgent.Proofs.Lifecycle.Installation
import OfflineAgent.Proofs.Lifecycle.Moves
import OfflineAgent.Proofs.Store.Tables

/-!
# Requests wait for the stale stores to go

An agent handles requests only when its one activation has the answer to every deletion it asked
for, and then none of its work deletes a store again.
-/

namespace OfflineAgent.Lifecycle

open Simulation Interleaving

/-- Some task went through a whole activation and had an answer for every stale store it found. -/
def Reconciled (agent : Agent) (events : List Event) : Prop :=
  ∃ number found deleted, deleted.map Prod.fst = stale agent found ∧
    activation agent found deleted <:+: history number events

/-- Whether an activation of the agent begins with an event. -/
def begins (agent : Agent) : Event → Bool
  | .act _ ⟨.lifecycle number (.advance .waiting .activating), moved⟩ =>
    number == agent.number && moved
  | _ => false

/-- What has to be so from the moment on in which an agent handles a request. -/
structure Cleared (agent : Agent) (before after : List Event) (t : System) : Prop where
  reconciled : Reconciled agent before
  single : (before ++ after).countP (begins agent) = 1
  silent : ∀ number name answer, .act number ⟨.storage (.delete name), answer⟩ ∉ after
  nonePending : ∀ task ∈ t.tasks, ∀ name next, task.work ≠ .ask (.storage (.delete name)) next

section

variable {agent : Agent} {retires : Bool} {cell next : Cell} {phase after : Phase}
  {exchange : Exchange} {exchanges : List Exchange} {events more : List Event} {number : Nat}

/-! ### The course of an activation -/

theorem Reconciled.append (reconciled : Reconciled agent events) :
    Reconciled agent (events ++ more) := by
  obtain ⟨number, found, deleted, hstale, hinfix⟩ := reconciled
  refine ⟨number, found, deleted, hstale, ?_⟩
  rw [history_append]
  exact hinfix.trans (List.prefix_append _ _).isInfix

/-- What a task that is in an activation has exchanged. -/
def Underway (agent : Agent) (exchanges : List Exchange) : Phase → Prop
  | .clearing none => ∃ lead, exchanges = lead ++ [beginning agent]
  | .clearing (some todo) => ∃ lead found deleted,
    deleted.map Prod.fst ++ todo = stale agent found ∧
      exchanges = lead ++ beginning agent :: ⟨.storage .names, found⟩ :: deletions deleted
  | _ => True

theorem underway_of_isFree (hfree : phase.isFree) : Underway agent exchanges phase := by
  cases phase <;> trivial

theorem Underway.move (underway : Underway agent exchanges phase)
    (move : Move agent retires cell phase exchange after next) :
    Underway agent (exchanges ++ [exchange]) after := by
  cases move with
  | quiet hfree => exact underway_of_isFree hfree
  | begin => exact ⟨exchanges, rfl⟩
  | enumerate =>
      obtain ⟨lead, rfl⟩ := underway
      exact ⟨lead, _, [], rfl, by simp [deletions]⟩
  | @delete name rest answer =>
      obtain ⟨lead, found, deleted, hstale, rfl⟩ := underway
      refine ⟨lead, found, deleted ++ [(name, answer)], ?_, ?_⟩
      · rw [← hstale]
        simp
      · simp [deletions]
  | claim | look | ask | check => split <;> trivial
  | _ => trivial

theorem Underway.reconciled (underway : Underway agent exchanges (.clearing (some []))) :
    ∃ found deleted, deleted.map Prod.fst = stale agent found ∧
      activation agent found deleted <:+:
        exchanges ++ [⟨.lifecycle agent.number (.advance .activating .active), true⟩] := by
  obtain ⟨lead, found, deleted, hstale, rfl⟩ := underway
  exact ⟨found, deleted, by simpa using hstale, lead, [], by simp [activation]⟩

/-- An agent becomes active only at the end of an activation. -/
theorem Move.active (move : Move agent retires cell phase exchange after next)
    (hstate : next.state = .active) :
    cell.state = .active ∨ (phase = .clearing (some []) ∧
      exchange = ⟨.lifecycle agent.number (.advance .activating .active), true⟩) := by
  cases move with
  | finish => exact .inr ⟨rfl, rfl⟩
  | publish => cases hstate
  | begin => cases hstate
  | supersede => cases hstate
  | _ => exact .inl hstate

/-! ### How many there are -/

/-- How many activations there may have been in a state. -/
def Counts (count : Nat) : State → Prop
  | .installing | .waiting => count = 0
  | .activating | .active => count = 1
  | .redundant => count ≤ 1

theorem Move.begins (number : Nat) (move : Move agent retires cell phase exchange after next) :
    (begins agent (.act number exchange) = true ∧ cell.state = .waiting ∧
        next.state = .activating) ∨
      (begins agent (.act number exchange) = false ∧
        ((cell.state = .installing ∧ next.state = .waiting) ∨
          (cell.state = .activating ∧ next.state = .active) ∨
          next.state = .redundant ∨ next.state = cell.state)) := by
  cases move with
  | quiet _ hop =>
      refine .inr ⟨?_, .inr (.inr (.inr rfl))⟩
      obtain ⟨op, answer⟩ := exchange
      obtain hneutral | rfl : Neutral op ∨ op = .lifecycle agent.number .read := hop
      · cases op <;> first | rfl | exact hneutral.elim
      · rfl
  | begin _ hstate => exact .inl ⟨by simp [Lifecycle.begins], hstate, rfl⟩
  | publish hstate => exact .inr ⟨rfl, .inl ⟨hstate, rfl⟩⟩
  | finish hstate => exact .inr ⟨rfl, .inr (.inl ⟨hstate, rfl⟩)⟩
  | supersede => exact .inr ⟨rfl, .inr (.inr (.inl rfl))⟩
  | refuse => exact .inr ⟨by simp [Lifecycle.begins], .inr (.inr (.inr rfl))⟩
  | _ => exact .inr ⟨rfl, .inr (.inr (.inr rfl))⟩

theorem Counts.move {count : Nat} (counts : Counts count cell.state)
    (move : Move agent retires cell phase exchange after next) :
    Counts (count + if begins agent (.act number exchange) then 1 else 0) next.state := by
  obtain ⟨hbegins, hbefore, hafter⟩ | ⟨hbegins, hstate⟩ := move.begins number
  · rw [hbefore] at counts
    rw [hafter, hbegins, show count = 0 from counts]
    rfl
  · rw [hbegins]
    obtain ⟨hbefore, hafter⟩ | ⟨hbefore, hafter⟩ | hafter | hafter := hstate
    · rw [hbefore] at counts
      rw [hafter]
      exact counts
    · rw [hbefore] at counts
      rw [hafter]
      exact counts
    · rw [hafter]
      have hle : count ≤ 1 := by
        cases hstate : cell.state <;> rw [hstate] at counts <;>
          simp only [Counts] at counts <;> omega
      exact hle
    · rw [hafter]
      exact counts

/-! ### What holds of runs -/

variable {tables : Store.Tables} {t mid : System} {before : List Event}

theorem history_act_append (number acting : Nat) (exchange : Exchange) :
    history number (events ++ [.act acting exchange]) =
      if acting = number then history number events ++ [exchange] else history number events := by
  rw [history_append]
  split
  · rename_i hsame
    subst hsame
    rw [history_act_self]
  · rename_i hne
    rw [history_act_of_ne hne, List.append_nil]

theorem underway_update {phases : Nat → Phase} {acting : Nat}
    (underway : ∀ number, Underway agent (history number events) (phases number))
    (move : Move agent retires cell (phases acting) exchange after next) (number : Nat) :
    Underway agent (history number (events ++ [.act acting exchange]))
      (Function.update phases acting after number) := by
  rw [history_act_append]
  by_cases hsame : acting = number
  · subst hsame
    rw [if_pos rfl, Function.update_self]
    exact (underway acting).move move
  · rw [if_neg hsame, Function.update_of_ne (Ne.symm hsame)]
    exact underway number

theorem counts_of_run (run : Run (On agent retires) (.new [agent] tables) events t) :
    Counts (events.countP (begins agent)) (t.cells agent.number).state := by
  refine moves_induction (motive := fun events cell _ =>
    Counts (events.countP (begins agent)) cell.state) run rfl ?_ ?_
  · intro events cell phases activity ih
    rw [List.countP_append]
    exact ih
  · intro events cell phases number exchange after next ih move
    rw [List.countP_append, List.countP_singleton]
    exact ih.move move

/-- An agent that is active went through a whole activation. -/
theorem reconciled_of_run (run : Run (On agent retires) (.new [agent] tables) events t)
    (hactive : (t.cells agent.number).state = .active) : Reconciled agent events := by
  refine (moves_induction (motive := fun events cell phases =>
    (∀ number, Underway agent (history number events) (phases number)) ∧
      (cell.state = .active → Reconciled agent events))
    run ⟨fun _ => trivial, nofun⟩ ?_ ?_).2 hactive
  · rintro events cell phases activity ⟨underway, hreconciled⟩
    refine ⟨fun number => ?_, fun hstate => (hreconciled hstate).append⟩
    rw [history_append, history_call, List.append_nil]
    exact underway number
  · rintro events cell phases number exchange after next ⟨underway, hreconciled⟩ move
    refine ⟨underway_update underway move, fun hstate => ?_⟩
    obtain hbefore | ⟨hphase, rfl⟩ := move.active hstate
    · exact (hreconciled hbefore).append
    · have hcourse := underway number
      rw [hphase] at hcourse
      obtain ⟨found, deleted, hstale, hinfix⟩ := hcourse.reconciled
      refine ⟨number, found, deleted, hstale, ?_⟩
      rwa [history_act_append, if_pos rfl]

theorem Move.clears_of_delete {name : String} {answer : Except Store.Failure Bool}
    (move : Move agent retires cell phase ⟨.storage (.delete name), answer⟩ after next) :
    phase.Clears := by
  cases move with
  | quiet _ hop =>
      obtain hneutral | hread := hop
      · exact absurd rfl hneutral.2
      · cases hread
  | delete => trivial

/-- Since the agent was active nothing has begun an activation or deleted a store, and no task is in
an activation. -/
structure Still (agent : Agent) (events : List Event) (cell : Cell) (phases : Nat → Phase) :
    Prop where
  state : cell.state = .active ∨ cell.state = .redundant
  idle : ∀ number, ¬(phases number).Clears
  silent : ∀ number exchange, .act number exchange ∈ events →
    begins agent (.act number exchange) = false ∧
      ∀ name answer, exchange ≠ ⟨.storage (.delete name), answer⟩

theorem Still.move {phases : Nat → Phase} (still : Still agent events cell phases)
    (move : Move agent retires cell (phases number) exchange after next) :
    Still agent (events ++ [.act number exchange]) next (Function.update phases number after) := by
  obtain ⟨hstate, hidle, hsilent⟩ := still
  have hafter : ¬after.Clears := by
    intro hclears
    obtain ⟨hphase, -⟩ | ⟨hwaiting, -⟩ := move.clears hclears
    · exact hidle number hphase
    · simp [hwaiting] at hstate
  obtain ⟨-, hwaiting, -⟩ | ⟨hbegins, hnext⟩ := move.begins number
  · simp [hwaiting] at hstate
  refine ⟨?_, fun other => ?_, fun acting done hmem => ?_⟩
  · obtain ⟨hbefore, -⟩ | ⟨hbefore, -⟩ | hredundant | hsame := hnext
    · simp [hbefore] at hstate
    · simp [hbefore] at hstate
    · exact .inr hredundant
    · rwa [hsame]
  · by_cases hsame : other = number
    · subst hsame
      rwa [Function.update_self]
    · rw [Function.update_of_ne hsame]
      exact hidle other
  · obtain hbefore | hlast := List.mem_append.mp hmem
    · exact hsilent acting done hbefore
    · obtain ⟨rfl, rfl⟩ : acting = number ∧ done = exchange := by simpa using hlast
      refine ⟨hbegins, ?_⟩
      rintro name answer rfl
      exact hidle acting move.clears_of_delete

/-- From the moment on in which the agent is active. -/
theorem still_of_active (lead : Run (On agent retires) (.new [agent] tables) before mid)
    (hactive : (mid.cells agent.number).state = .active)
    (run : Run (On agent retires) mid events t) :
    Still agent events (t.cells agent.number) (phaseOf agent retires (before ++ events)) := by
  refine moves_induction_from lead rfl run ?_ ?_ ?_
  · refine ⟨.inl hactive, fun number hclears => ?_, fun _ _ hmem => absurd hmem List.not_mem_nil⟩
    have hstate := (coherent_of_run lead).clears number hclears
    simp [hactive] at hstate
  · rintro events cell phases activity ⟨hstate, hidle, hsilent⟩
    refine ⟨hstate, hidle, fun number exchange hmem => ?_⟩
    exact hsilent number exchange (by simpa using hmem)
  · exact fun events cell phases number exchange after next still move => still.move move

theorem clears_of_pending (run : Run (On agent retires) (.new [agent] tables) events t)
    {task : Task} (here : t.tasks[number]? = some task) {name : String}
    {next : Except Store.Failure Bool → Work Reply}
    (hpending : task.work = .ask (.storage (.delete name)) next) :
    (phaseOf agent retires events number).Clears := by
  obtain ⟨-, hfollows⟩ := follows_phaseOf run rfl here
  rw [hpending] at hfollows
  obtain ⟨after, hallowed, -⟩ := hfollows (.error .unavailable)
  have move : Move agent retires (.new false) _ _ _ _ := move_of_afterCall hallowed
  exact move.clears_of_delete

/-- Whenever anybody reads that the agent is active, its stale stores are gone for good. -/
theorem cleared_of_read_active {reader : Nat}
    (run : Run (On agent retires) (.new [agent] tables)
      (before ++ .act reader ⟨.lifecycle agent.number .read, .active⟩ :: more) t) :
    Cleared agent before (.act reader ⟨.lifecycle agent.number .read, .active⟩ :: more) t := by
  obtain ⟨mid, lead, rest⟩ := run_append.mp run
  have hactive : (mid.cells agent.number).state = .active := by
    obtain ⟨_, step, -⟩ := rest
    cases step with
    | act here answers => exact answers.1.symm
  obtain ⟨-, hidle, hsilent⟩ := still_of_active lead hactive rest
  refine ⟨reconciled_of_run lead hactive, ?_, ?_, ?_⟩
  · have hbefore := counts_of_run lead
    rw [hactive] at hbefore
    rw [List.countP_append, show before.countP (begins agent) = 1 from hbefore]
    rw [List.countP_eq_zero.mpr]
    rintro (activity | ⟨number, exchange⟩) hmem
    · exact Bool.false_ne_true
    · rw [(hsilent number exchange hmem).1]
      exact Bool.false_ne_true
  · intro number name answer hmem
    exact (hsilent number _ hmem).2 name answer rfl
  · intro task hmem name next hpending
    obtain ⟨number, here⟩ := List.getElem?_of_mem hmem
    exact hidle number (clears_of_pending run here hpending)

/-- **No request is handled before the stale stores are gone.** In every run of any number of calls
on one agent, with any faults and in any order, a call to handle a request first reads the state. If
it reads that the agent is active, the one activation of the agent has the answers to all deletions
it asked for, and no task deletes or waits to delete a store ever after. If it reads anything else,
the call passes the request through and does nothing else. -/
theorem handles_only_when_cleared {request : Request} {work : Work Reply}
    (run : Run (fun activity => agentOf? activity = some agent) (.new [agent] tables) events t)
    (here : t.tasks[number]? = some ⟨.call (.fetch agent request), work⟩) :
    (history number events = [] ∧ work = (Activity.fetch agent request).work) ∨
      ∃ before after mid,
        events = before ++
          .act number ⟨.lifecycle agent.number .read, (mid.cells agent.number).state⟩ :: after ∧
        Run (fun activity => agentOf? activity = some agent) (.new [agent] tables) before mid ∧
        history number before = [] ∧
        ((mid.cells agent.number).state = .active →
          Cleared agent before
            (.act number ⟨.lifecycle agent.number .read, (mid.cells agent.number).state⟩ :: after)
            t) ∧
        ((mid.cells agent.number).state ≠ .active →
          history number after = [] ∧ work = .done .passThrough) := by
  obtain ⟨leads, -⟩ := run.leads rfl number _ here
  obtain ⟨hnone, hwork⟩ | ⟨state, rest, hhistory, leads⟩ := Work.leads_ask_iff.mp leads
  · exact .inl ⟨hnone, hwork⟩
  refine .inr ?_
  obtain ⟨before, after, rfl, hbefore, rfl⟩ := history_eq_cons hhistory
  obtain ⟨mid, lead, tail⟩ := run_append.mp run
  obtain rfl : state = (mid.cells agent.number).state := by
    obtain ⟨_, step, -⟩ := tail
    cases step with
    | act here answers => exact answers.1
  refine ⟨before, after, mid, rfl, lead, hbefore, fun hactive => ?_, fun hother => ?_⟩
  · have all : Run (On agent true) (.new [agent] tables) _ t :=
      run.mono fun activity hagent => ⟨hagent, fun _ => rfl⟩
    rw [hactive] at all ⊢
    exact cleared_of_read_active all
  · change Work.Leads (Work.bind (if (mid.cells agent.number).state ≠ .active then _ else _) _) _ _
      at leads
    rw [if_pos hother] at leads
    exact Work.leads_done_iff.mp leads

end

/-! ### A request after an activation -/

open Kiosk (patient frontPage settingUp settingUp_runs)
open Moment (isClock_noon)

/-- The stores hold one of another version. -/
def ofOlder : Store.Tables := ⟨[⟨1, "stowaway-static-v0"⟩], []⟩

theorem names_ofOlder : ofOlder.names = ["stowaway-static-v0"] :=
  Store.Tables.names_single _ _

/-- All of the activation that deletes it. -/
def clearing : List Exchange :=
  activation patient (.ok ["stowaway-static-v0"]) [("stowaway-static-v0", .ok true)]

/-- A request comes once the store is deleted. -/
def requestAfterActivation : List Event :=
  settingUp ++ [.call (.activate patient)] ++ clearing.map (.act 1) ++
    [.call (.fetch patient frontPage), .act 2 ⟨.lifecycle 0 .read, .active⟩]

theorem leads_clearing : Work.Leads (Activity.activate patient).work clearing
    (.done (.deleted (some ["stowaway-static-v0"]))) :=
  (leads_activate (by decide)).bind_of_done _

theorem requestAfterActivation_runs :
    ∃ t work, Run (fun activity => agentOf? activity = some patient) (.new [patient] ofOlder)
        requestAfterActivation t ∧
      t.tasks[2]? = some ⟨.call (.fetch patient frontPage), work⟩ :=
  ⟨_, _, .append (.append (.append (settingUp_runs (by rfl) ofOlder) (.call rfl))
    (.of_leads leads_clearing rfl ⟨_, .moved rfl, _, .enumerated names_ofOlder,
      _, .performed isClock_noon rfl, _, .moved rfl, rfl⟩))
    ⟨_, .call rfl, _, .act rfl (.moved rfl), rfl⟩, rfl⟩

theorem cleared_before_requestAfterActivation :
    ∃ before after t,
      requestAfterActivation = before ++ .act 2 ⟨.lifecycle 0 .read, .active⟩ :: after ∧
      Run (fun activity => agentOf? activity = some patient)
        (.new [patient] ofOlder) requestAfterActivation t ∧
      Cleared patient before (.act 2 ⟨.lifecycle 0 .read, .active⟩ :: after) t := by
  obtain ⟨t, work, run, here⟩ := requestAfterActivation_runs
  obtain ⟨hnone, -⟩ | ⟨before, after, mid, hevents, -, -, hcleared, -⟩ :=
    handles_only_when_cleared run here
  · cases hnone
  · have hactive : (mid.cells patient.number).state = .active := by
      have hmem : .act 2 ⟨.lifecycle 0 .read, (mid.cells patient.number).state⟩ ∈
          requestAfterActivation := hevents ▸ List.mem_append_right _ List.mem_cons_self
      simpa [requestAfterActivation, settingUp, installation, claiming, publishing, clearing,
        activation, beginning, deletions] using hmem
    rw [hactive] at hevents hcleared
    exact ⟨before, after, t, hevents, run, hcleared rfl⟩

end OfflineAgent.Lifecycle
