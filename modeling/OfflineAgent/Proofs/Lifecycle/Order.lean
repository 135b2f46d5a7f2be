import OfflineAgent.Proofs.Interleaving.Jobs
import OfflineAgent.Proofs.Lifecycle.Activation
import OfflineAgent.Proofs.Simulation.Threads
import OfflineAgent.Proofs.Strategies.Answer

/-!
# The order of states

An agent goes from installing to waiting, activating and active, and from any of these to redundant.
Whatever calls are under way at the same time, no step takes it back. So somebody who looks at the
state from time to time sees it move on as well, and has news exactly when something happened to the
state since the last look.
-/

namespace OfflineAgent.Lifecycle

open Simulation Interleaving

/-! ### States in order -/

namespace State

/-- One state may directly follow another. -/
inductive Next : State → State → Prop
  | wait : Next installing waiting
  | begin : Next waiting activating
  | finish : Next activating active
  | retire {state : State} (hstate : state ≠ redundant) : Next state redundant

/-- One state may follow another, directly or not, or is the same. -/
def Onward : State → State → Prop :=
  Relation.ReflTransGen Next

def rank : State → Nat
  | installing => 0
  | waiting => 1
  | activating => 2
  | active => 3
  | redundant => 4

variable {before mid after : State}

theorem Next.rank_lt (next : Next before after) : before.rank < after.rank := by
  cases next with
  | wait | begin | finish => decide
  | retire hstate => cases before <;> first | decide | exact absurd rfl hstate

theorem Onward.refl (state : State) : Onward state state :=
  Relation.ReflTransGen.refl

theorem Onward.trans (first : Onward before mid) (second : Onward mid after) :
    Onward before after :=
  Relation.ReflTransGen.trans first second

theorem Onward.of_next (next : Next before after) : Onward before after :=
  Relation.ReflTransGen.single next

theorem Onward.rank_le (onward : Onward before after) : before.rank ≤ after.rank := by
  induction onward with
  | refl => exact Nat.le_refl _
  | tail _ next ih => exact ih.trans next.rank_lt.le

/-- No way leads back. -/
theorem Onward.antisymm (onward : Onward before after) (back : Onward after before) :
    before = after := by
  obtain rfl | ⟨mid, next, rest⟩ := onward.cases_head
  · rfl
  · have hlt := next.rank_lt
    have hle := (Onward.trans rest back).rank_le
    omega

theorem Onward.of_redundant (onward : Onward redundant after) : after = redundant := by
  obtain hsame | ⟨mid, next, -⟩ := onward.cases_head
  · exact hsame.symm
  · cases next with
    | retire hstate => exact absurd rfl hstate

end State

/-! ### One step -/

/-- Whether a step that is answered so is a change of state in the eyes of a watcher. -/
def Step.isChange : (step : Step) → step.Answer → Bool
  | advance _ _, moved => moved
  | supersede, _ => true
  | _, _ => false

/-- Whether the agent of a number makes a transition, or is superseded. -/
def changes (number : Nat) : Event → Bool
  | .act _ ⟨.lifecycle owner step, answer⟩ => owner == number && step.isChange answer
  | _ => false

/-- What may become of a cell in one step. -/
structure MovesOn (changed : Bool) (cell next : Cell) : Prop where
  state : next.state = cell.state ∨ cell.state.Next next.state
  changes : next.changes = cell.changes + if changed then 1 else 0

theorem MovesOn.refl (cell : Cell) : MovesOn false cell cell :=
  ⟨.inl rfl, rfl⟩

theorem MovesOn.onward {changed : Bool} {cell next : Cell} (moves : MovesOn changed cell next) :
    cell.state.Onward next.state := by
  obtain hsame | hnext := moves.state
  · rw [hsame]
    exact .refl _
  · exact .of_next hnext

/-- A transition is asked for only from a state to the next. -/
def Orderly : Op → Prop
  | .lifecycle _ (.advance source target) => source.Next target
  | _ => True

theorem Step.movesOn {number : Nat} {step : Step} (orderly : Orderly (.lifecycle number step))
    (cell : Cell) : MovesOn (step.isChange (step.run cell).1) cell (step.run cell).2 := by
  cases step with
  | advance source target =>
      by_cases hstate : cell.state = source
      · rw [run_advance_of_eq hstate]
        exact ⟨.inr (hstate ▸ orderly), rfl⟩
      · rw [run_advance_of_ne hstate]
        exact .refl cell
  | supersede =>
      refine ⟨?_, rfl⟩
      by_cases hstate : cell.state = .redundant
      · exact .inl hstate.symm
      · exact .inr (.retire hstate)
  | read | claimInstall | requestSkip | skipRequested => exact ⟨.inl rfl, rfl⟩

theorem orderly_of_discipline {agent : Agent} {retires : Bool} {phase after : Phase} {op : Op}
    {answer : op.Answer} (hallowed : discipline agent retires phase op answer = some after) :
    Orderly op := by
  cases op with
  | lifecycle number step =>
      cases step with
      | advance source target =>
          obtain ⟨-, hstep⟩ := Option.ite_none_right_eq_some.mp hallowed
          unfold Phase.afterStep at hstep
          split at hstep <;> rename_i hop
          case h_5 | h_10 =>
            cases hop
            exact .begin
          case h_7 =>
            cases hop
            exact .wait
          case h_11 =>
            cases hop
            exact .finish
          all_goals contradiction
      | _ => trivial
  | _ => trivial

/-- Whatever is called, transitions are asked for in order only. -/
theorem asks_orderly (activity : Activity) : activity.work.Asks Orderly := by
  cases hagent : agentOf? activity with
  | some agent =>
      exact (follows_activity hagent fun _ => (rfl : true = true)).asks fun _ _ _ _ =>
        orderly_of_discipline
  | none =>
      have hwithin : activity.work.Asks (Within 0) :=
        asks_activity fun agent hsome => by rw [hagent] at hsome; cases hsome
      refine hwithin.mono fun op within => ?_
      cases op with
      | lifecycle number step => exact absurd within (Nat.not_lt_zero _)
      | _ => trivial

variable {calls : Activity → Prop} {s mid t : System} {before events : List Event} {event : Event}

/-- No step of any work takes the state of an agent back. -/
theorem movesOn_of_step (lead : Run calls s before mid) (fresh : s.tasks = [])
    (step : Interleaving.Step calls mid event t) (number : Nat) :
    MovesOn (changes number event) (mid.cells number) (t.cells number) := by
  have run := run_concat.mpr ⟨mid, lead, step⟩
  cases step with
  | call admitted => exact .refl _
  | @act t task purpose op next answer here answers =>
      have orderly : Orderly op := run.asks fresh (fun activity _ => asks_orderly activity)
        (fun job ticket _ => job.asks_work trivial (fun _ _ => trivial) fun _ _ _ => trivial)
        (List.mem_append_right _ List.mem_cons_self)
      change MovesOn _ _ (t.cells number)
      cases op with
      | lifecycle owner step =>
          obtain ⟨rfl, rfl⟩ := answers
          by_cases howner : owner = number
          · subst howner
            simpa [changes] using step.movesOn orderly (mid.cells owner)
          · rw [show changes number _ = false by simp [changes, howner]]
            simpa [Function.update_of_ne (Ne.symm howner)] using MovesOn.refl (mid.cells number)
      | _ =>
          rw [answers.cells.resolve_right (by rintro ⟨_, _, hop, -⟩; cases hop)]
          exact .refl _

/-! ### Runs -/

theorem onward_of_run (lead : Run calls s before mid) (fresh : s.tasks = [])
    (run : Run calls mid events t) (number : Nat) :
    (mid.cells number).state.Onward (t.cells number).state ∧
      (t.cells number).changes = (mid.cells number).changes + events.countP (changes number) := by
  refine run.induction (motive := fun events t =>
    (mid.cells number).state.Onward (t.cells number).state ∧
      (t.cells number).changes = (mid.cells number).changes + events.countP (changes number))
    ⟨.refl _, rfl⟩ ?_
  rintro events now event t sofar ⟨onward, hcount⟩ step
  have moves := movesOn_of_step (lead.append sofar) fresh step number
  refine ⟨onward.trans moves.onward, ?_⟩
  rw [moves.changes, hcount, List.countP_append, List.countP_singleton, Nat.add_assoc]

/-! ### Watchers -/

/-- One look of a watcher: what happened since the last one, whether the watcher has news, and the
state it reads. -/
structure Sighting where
  since : List Event
  news : Bool
  state : State

/-- A watcher looks from time to time while a run goes on. -/
def Watches (calls : Activity → Prop) (s : System) (watcher : Watcher) :
    List Sighting → System → Prop
  | [], t => s = t
  | sighting :: rest, t =>
    ∃ mid, Run calls s sighting.since mid ∧
      sighting.news = watcher.hasNews (mid.cells watcher.agent) ∧
      sighting.state = (mid.cells watcher.agent).state ∧
      Watches calls mid (watcher.look (mid.cells watcher.agent)) rest t

/-- What a watcher that is up to date sees from then on. -/
theorem sightings_onward {number : Nat} {sightings : List Sighting} (lead : Run calls s before mid)
    (fresh : s.tasks = [])
    (watches : Watches calls mid ⟨number, (mid.cells number).changes⟩ sightings t) :
    (∀ sighting ∈ sightings,
        (sighting.news = true ↔ ∃ event ∈ sighting.since, changes number event = true)) ∧
      ((mid.cells number).state :: sightings.map (·.state)).Pairwise State.Onward := by
  induction sightings generalizing before mid with
  | nil => exact ⟨fun _ hmem => absurd hmem List.not_mem_nil, List.pairwise_singleton _ _⟩
  | cons sighting rest ih =>
      obtain ⟨now, run, hnews, hstate, later⟩ := watches
      obtain ⟨onward, hcount⟩ := onward_of_run lead fresh run number
      obtain ⟨hrest, hpairwise⟩ := ih (lead.append run) later
      refine ⟨fun looked hmem => ?_, ?_⟩
      · obtain rfl | hmem := List.mem_cons.mp hmem
        · rw [hnews, ← List.countP_pos_iff]
          simp only [Watcher.hasNews, hcount, bne_iff_ne, ne_eq]
          omega
        · exact hrest looked hmem
      · rw [List.map_cons, hstate]
        refine List.pairwise_cons.mpr ⟨fun state hmem => ?_, hpairwise⟩
        obtain rfl | hmem := List.mem_cons.mp hmem
        · exact onward
        · exact onward.trans ((List.pairwise_cons.mp hpairwise).1 state hmem)

/-! ### Control -/

/-- A call that looked passes its request through, and does nothing else, exactly if the agent was
not active when it looked. -/
def ControlledWhenActive (calls : Activity → Prop) (s : System) (events : List Event)
    (agent : Agent) (number : Nat) (work : Work Reply) : Prop :=
  ∃ before after mid,
    events = before ++
      .act number ⟨.lifecycle agent.number .read, (mid.cells agent.number).state⟩ :: after ∧
    Run calls s before mid ∧ history number before = [] ∧
    (work = .done .passThrough ↔ (mid.cells agent.number).state ≠ .active) ∧
    ((mid.cells agent.number).state ≠ .active → history number after = [])

theorem controlled_of_looked {agent : Agent} {request : Request} {kind : RequestClass}
    {number : Nat} {work : Work Reply} (run : Run calls s events t) (fresh : s.tasks = [])
    (hkind : RequestClass.ofRequest? agent.settings request = some kind)
    (here : t.tasks[number]? = some ⟨.call (.fetch agent request), work⟩)
    (hlooked : history number events ≠ []) :
    ControlledWhenActive calls s events agent number work := by
  obtain ⟨leads, -⟩ := run.leads fresh number _ here
  change Work.Leads (Activity.fetch agent request).work _ _ at leads
  rw [fetch_work_eq] at leads
  obtain ⟨left, hleft, rfl⟩ := Work.leads_bind_done leads
  obtain ⟨hnone, -⟩ | ⟨state, rest, hhistory, hrest⟩ := leads_handle hleft
  · exact absurd hnone hlooked
  obtain ⟨before, after, rfl, hbefore, rfl⟩ := history_eq_cons hhistory
  obtain ⟨mid, lead, _, step, -⟩ := run_append.mp run
  obtain rfl : state = (mid.cells agent.number).state := by
    cases step with
    | act here answers => exact answers.1
  refine ⟨before, after, mid, rfl, lead, hbefore, ?_⟩
  obtain ⟨hquiet, rfl, hother⟩ | ⟨found, hactive, -, hsettle⟩ := hrest
  · refine ⟨⟨fun _ hactive => ?_, fun _ => rfl⟩, fun _ => hquiet⟩
    rw [hother hactive] at hkind
    cases hkind
  · refine ⟨⟨fun hdone => ?_, fun hnot => absurd hactive hnot⟩, fun hnot => absurd hactive hnot⟩
    obtain ⟨course, -, hfollows⟩ := hsettle.follows (follows_settle found)
    cases left with
    | ask op next => cases hdone
    | done verdict =>
        obtain ⟨served, rfl, -⟩ := hfollows
        cases hdone

/-- **An agent never goes back.** In every run of any calls, with any faults and in any order: every
step leaves the state of an agent, or takes it to the next one or to redundant, from where there is
no way. A watcher that was up to date has news at a look exactly if a transition was made, or the
agent superseded, since the look before, and the states it reads follow one another. A call on a
request for the agent passes it through exactly if the agent is not active when the call looks. -/
theorem state_never_goes_back {agents : List Agent} {tables : Store.Tables}
    (run : Run calls (.new agents tables) events t) (number : Nat) :
    (∀ event u, Interleaving.Step calls t event u →
        (u.cells number).state = (t.cells number).state ∨
          (t.cells number).state.Next (u.cells number).state) ∧
      (∀ more u, Run calls t more u →
        (t.cells number).state.Onward (u.cells number).state ∧
          ((u.cells number).state.Onward (t.cells number).state →
            (u.cells number).state = (t.cells number).state) ∧
          ((t.cells number).state = .redundant → (u.cells number).state = .redundant)) ∧
      (∀ sightings u, Watches calls t ⟨number, (t.cells number).changes⟩ sightings u →
        (∀ sighting ∈ sightings,
            (sighting.news = true ↔ ∃ event ∈ sighting.since, changes number event = true)) ∧
          ((t.cells number).state :: sightings.map (·.state)).Pairwise State.Onward) ∧
      ∀ agent request kind task work,
        RequestClass.ofRequest? agent.settings request = some kind →
        t.tasks[task]? = some ⟨.call (.fetch agent request), work⟩ → history task events ≠ [] →
          ControlledWhenActive calls (.new agents tables) events agent task work := by
  refine ⟨fun event u step => ?_, fun more u later => ?_, fun sightings u watches => ?_, ?_⟩
  · exact (movesOn_of_step run rfl step number).state
  · obtain ⟨onward, -⟩ := onward_of_run run rfl later number
    refine ⟨onward, fun back => back.antisymm onward, fun hredundant => ?_⟩
    rw [hredundant] at onward
    exact onward.of_redundant
  · exact sightings_onward run rfl watches
  · intro agent request kind task work hkind here hlooked
    exact controlled_of_looked run rfl hkind here hlooked

/-! ### Superseded in the middle of an activation -/

open Kiosk (patient frontPage settingUp settingUp_runs)
open Moment (isClock_noon)

/-- The agent has found a store of another version and has yet to delete it. -/
def untilDeletion : List Event :=
  settingUp ++ [.call (.activate patient),
    .act 1 ⟨.lifecycle 0 (.advance .waiting .activating), true⟩,
    .call (.fetch patient frontPage),
    .act 2 ⟨.lifecycle 0 .read, .activating⟩,
    .act 1 ⟨.storage .names, .ok ["stowaway-static-v0"]⟩]

/-- It is superseded, and a watcher looks; then the activation comes to its end without it. -/
def fromSupersede : List Sighting :=
  [⟨[.call (.supersede patient), .act 3 ⟨.lifecycle 0 .supersede, ()⟩], true, .redundant⟩,
    ⟨[.act 1 ⟨.storage (.delete "stowaway-static-v0"), .ok true⟩,
      .act 1 ⟨.lifecycle 0 (.advance .activating .active), false⟩], false, .redundant⟩]

theorem untilDeletion_runs :
    ∃ t u, Run (fun _ => True) (.new [patient] ofOlder) untilDeletion t ∧
      t.tasks[2]? = some ⟨.call (.fetch patient frontPage), .done .passThrough⟩ ∧
      (t.cells 0).state = .activating ∧
      Watches (fun _ => True) t ⟨0, (t.cells 0).changes⟩ fromSupersede u :=
  ⟨_, _, .append (settingUp_runs trivial ofOlder)
    ⟨_, .call trivial, _, .act rfl (.moved rfl), _, .call trivial, _, .act rfl (.moved rfl),
      _, .act rfl (.enumerated names_ofOlder), rfl⟩, rfl, rfl,
    _, ⟨_, .call trivial, _, .act rfl (.moved rfl), rfl⟩, rfl, rfl,
    _, ⟨_, .act rfl (.performed isClock_noon rfl), _, .act rfl (.moved rfl), rfl⟩, rfl, rfl, rfl⟩

theorem superseded_while_deleting :
    ∃ t u, Run (fun _ => True) (.new [patient] ofOlder) untilDeletion t ∧
      Watches (fun _ => True) t ⟨0, (t.cells 0).changes⟩ fromSupersede u ∧
      (∀ sighting ∈ fromSupersede,
        (sighting.news = true ↔ ∃ event ∈ sighting.since, changes 0 event = true)) ∧
      [State.activating, .redundant, .redundant].Pairwise State.Onward ∧
      ControlledWhenActive (fun _ => True) (.new [patient] ofOlder)
        untilDeletion patient 2 (.done .passThrough) := by
  obtain ⟨t, u, run, here, hstate, watches⟩ := untilDeletion_runs
  obtain ⟨-, -, hwatch, hcontrol⟩ := state_never_goes_back run 0
  obtain ⟨hnews, hpairwise⟩ := hwatch fromSupersede u watches
  rw [hstate] at hpairwise
  exact ⟨t, u, run, watches, hnews, hpairwise,
    hcontrol patient frontPage .navigation 2 _ (by decide +kernel) here (List.cons_ne_nil _ _)⟩

end OfflineAgent.Lifecycle
