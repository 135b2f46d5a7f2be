import OfflineAgent.Proofs.Lifecycle.Phases

/-!
# Moves on the life of an agent

What one step of any work can do to the life of an agent: `Move` lists it once, with the state and
the flags before and after. Every invariant of the life is proved of moves, and so of every run in
which only calls on the agent are under way.
-/

namespace OfflineAgent.Lifecycle

open Simulation Interleaving

/-- What one operation of a task can do to the life of an agent, and to the phase of the task. -/
inductive Move (agent : Agent) (retires : Bool) : Cell → Phase → Exchange → Phase → Cell → Prop
  | quiet {cell : Cell} {phase : Phase} {exchange : Exchange} (hfree : phase.isFree)
      (hop : Neutral exchange.op ∨ exchange.op = .lifecycle agent.number .read) :
      Move agent retires cell phase exchange phase cell
  | claim {cell : Cell} :
      Move agent retires cell .idle ⟨.lifecycle agent.number .claimInstall, cell.installClaimed⟩
        (if cell.installClaimed then .idle else .claimed) { cell with installClaimed := true }
  | look {cell : Cell} :
      Move agent retires cell .claimed ⟨.lifecycle agent.number .read, cell.state⟩
        (if cell.state = .installing then .loading else .idle) cell
  | publish {cell : Cell} (hstate : cell.state = .installing) :
      Move agent retires cell .loading
        ⟨.lifecycle agent.number (.advance .installing .waiting), true⟩ .published
        { cell with state := .waiting, changes := cell.changes + 1 }
  | abandon {cell : Cell} (hstate : cell.state ≠ .installing) :
      Move agent retires cell .loading
        ⟨.lifecycle agent.number (.advance .installing .waiting), false⟩ .idle cell
  | ask {cell : Cell} :
      Move agent retires cell .published ⟨.lifecycle agent.number .skipRequested, cell.skipWaiting⟩
        (if cell.skipWaiting then .wanting else .idle) cell
  | request {cell : Cell} :
      Move agent retires cell .idle ⟨.lifecycle agent.number .requestSkip, ()⟩ .flagged
        { cell with skipWaiting := true }
  | check {cell : Cell} :
      Move agent retires cell .flagged ⟨.lifecycle agent.number .read, cell.state⟩
        (if cell.state = .waiting then .wanting else .idle) cell
  | begin {cell : Cell} {phase : Phase} (hphase : phase = .idle ∨ phase = .wanting)
      (hstate : cell.state = .waiting) :
      Move agent retires cell phase
        ⟨.lifecycle agent.number (.advance .waiting .activating), true⟩ (.clearing none)
        { cell with state := .activating, changes := cell.changes + 1 }
  | refuse {cell : Cell} {phase : Phase} (hphase : phase = .idle ∨ phase = .wanting)
      (hstate : cell.state ≠ .waiting) :
      Move agent retires cell phase
        ⟨.lifecycle agent.number (.advance .waiting .activating), false⟩ .idle cell
  | enumerate {cell : Cell} {found : Except Store.Failure (List String)} :
      Move agent retires cell (.clearing none) ⟨.storage .names, found⟩
        (.clearing (some (stale agent found))) cell
  | delete {cell : Cell} {name : String} {rest : List String}
      {answer : Except Store.Failure Bool} :
      Move agent retires cell (.clearing (some (name :: rest))) ⟨.storage (.delete name), answer⟩
        (.clearing (some rest)) cell
  | finish {cell : Cell} (hstate : cell.state = .activating) :
      Move agent retires cell (.clearing (some []))
        ⟨.lifecycle agent.number (.advance .activating .active), true⟩ .idle
        { cell with state := .active, changes := cell.changes + 1 }
  | retired {cell : Cell} (hstate : cell.state ≠ .activating) :
      Move agent retires cell (.clearing (some []))
        ⟨.lifecycle agent.number (.advance .activating .active), false⟩ .idle cell
  | supersede {cell : Cell} (hretires : retires = true) :
      Move agent retires cell .idle ⟨.lifecycle agent.number .supersede, ()⟩ .idle
        { cell with state := .redundant, changes := cell.changes + 1 }

section

variable {agent : Agent} {retires : Bool} {cell : Cell} {phase after : Phase}

theorem Step.run_advance_of_eq {source target : State} (hstate : cell.state = source) :
    (Step.advance source target).run cell =
      (true, { cell with state := target, changes := cell.changes + 1 }) :=
  if_pos hstate

theorem Step.run_advance_of_ne {source target : State} (hstate : cell.state ≠ source) :
    (Step.advance source target).run cell = (false, cell) :=
  if_neg hstate

/-- Whoever may activate begins an activation or is refused. -/
theorem move_of_activate (hphase : phase = .idle ∨ phase = .wanting) :
    Move agent retires cell phase
      ⟨.lifecycle agent.number (.advance .waiting .activating),
        ((Step.advance .waiting .activating).run cell).1⟩
      (if ((Step.advance .waiting .activating).run cell).1 then .clearing none else .idle)
      ((Step.advance .waiting .activating).run cell).2 := by
  by_cases hstate : cell.state = .waiting
  · rw [Step.run_advance_of_eq hstate]
    exact .begin hphase hstate
  · rw [Step.run_advance_of_ne hstate]
    exact .refuse hphase hstate

theorem move_of_afterStep {step : Step}
    (hafter : phase.afterStep retires step (step.run cell).1 = some after) :
    Move agent retires cell phase ⟨.lifecycle agent.number step, (step.run cell).1⟩ after
      (step.run cell).2 := by
  unfold Phase.afterStep at hafter
  split at hafter
  case h_1 =>
    obtain rfl := Option.some.inj hafter
    exact .quiet rfl (.inr rfl)
  case h_2 =>
    obtain rfl := Option.some.inj hafter
    exact .claim
  case h_3 =>
    obtain rfl := Option.some.inj hafter
    exact .request
  case h_4 =>
    obtain ⟨hretires, hidle⟩ := Option.ite_none_right_eq_some.mp hafter
    obtain rfl := Option.some.inj hidle
    exact .supersede hretires
  case h_5 =>
    obtain rfl := Option.some.inj hafter
    exact move_of_activate (.inl rfl)
  case h_6 =>
    obtain rfl := Option.some.inj hafter
    exact .look
  case h_7 =>
    obtain rfl := Option.some.inj hafter
    by_cases hstate : cell.state = .installing
    · rw [Step.run_advance_of_eq hstate]
      exact .publish hstate
    · rw [Step.run_advance_of_ne hstate]
      exact .abandon hstate
  case h_8 =>
    obtain rfl := Option.some.inj hafter
    exact .ask
  case h_9 =>
    obtain rfl := Option.some.inj hafter
    exact .check
  case h_10 =>
    obtain rfl := Option.some.inj hafter
    exact move_of_activate (.inr rfl)
  case h_11 =>
    obtain rfl := Option.some.inj hafter
    by_cases hstate : cell.state = .activating
    · rw [Step.run_advance_of_eq hstate]
      exact .finish hstate
    · rw [Step.run_advance_of_ne hstate]
      exact .retired hstate
  case h_12 => cases hafter

theorem move_of_afterCall {call : Store.Call} {answer : Except Store.Failure call.Answer}
    (hafter : phase.afterCall agent call answer = some after) :
    Move agent retires cell phase ⟨.storage call, answer⟩ after cell := by
  unfold Phase.afterCall at hafter
  split at hafter
  · obtain rfl := Option.some.inj hafter
    exact .enumerate
  · obtain ⟨rfl, hrest⟩ := Option.ite_none_right_eq_some.mp hafter
    obtain rfl := Option.some.inj hrest
    exact .delete
  · obtain ⟨⟨hfree, hnames, hdelete⟩, hsame⟩ := Option.ite_none_right_eq_some.mp hafter
    obtain rfl := Option.some.inj hsame
    exact .quiet hfree (.inl ⟨hnames, hdelete⟩)

/-- Every operation that the discipline allows is a move, whatever it is answered. -/
theorem move_of_answers {s t : System} {op : Op} {answer : op.Answer}
    (answers : s.Answers op answer t)
    (hallowed : discipline agent retires phase op answer = some after) :
    Move agent retires (s.cells agent.number) phase ⟨op, answer⟩ after (t.cells agent.number) := by
  have hquiet (hneutral : Neutral op) (hcells : t.cells = s.cells)
      (hsame : (if phase.isFree then some phase else none) = some after) :
      Move agent retires (s.cells agent.number) phase ⟨op, answer⟩ after
        (t.cells agent.number) := by
    obtain ⟨hfree, hphase⟩ := Option.ite_none_right_eq_some.mp hsame
    obtain rfl := Option.some.inj hphase
    rw [hcells]
    exact .quiet hfree (.inl hneutral)
  cases op with
  | storage call =>
      have hcells : t.cells = s.cells := by
        obtain ⟨_, -, rfl⟩ | ⟨now, -, -, rfl⟩ := answers <;> rfl
      rw [hcells]
      exact move_of_afterCall hallowed
  | lifecycle number step =>
      obtain ⟨rfl, rfl⟩ := answers
      obtain ⟨rfl, hstep⟩ := Option.ite_none_right_eq_some.mp hallowed
      simp only [Function.update_self]
      exact move_of_afterStep hstep
  | fetch request => exact hquiet trivial (by rw [show t = s from answers]) hallowed
  | start job => exact hquiet trivial (by rw [answers.2]) hallowed
  | report channel ticket outcome => exact hquiet trivial (by rw [show t = _ from answers]) hallowed
  | await channel ticket => exact hquiet trivial (by rw [answers.2]) hallowed

end

/-! ### Runs as moves -/

/-- The calls on one agent, which is superseded only if it may retire. -/
def On (agent : Agent) (retires : Bool) (activity : Activity) : Prop :=
  agentOf? activity = some agent ∧ (activity = .supersede agent → retires = true)

/-- The phase that a task is in after a run. -/
def phaseOf (agent : Agent) (retires : Bool) (events : List Event) (number : Nat) : Phase :=
  ((discipline agent retires).after .idle (history number events)).getD .idle

@[simp]
theorem cells_new (agent : Agent) (tables : Store.Tables) :
    (System.new [agent] tables).cells agent.number = .new agent.settings.skipWaiting := by
  simp [System.new]

section

variable {agent : Agent} {retires : Bool} {s mid t : System} {events before : List Event}

theorem follows_purpose {purpose : Purpose} (admitted : Admitted (On agent retires) purpose) :
    purpose.work.Follows (discipline agent retires) (fun after _ => after = .idle) .idle := by
  cases purpose with
  | call activity => exact follows_activity admitted.1 admitted.2
  | background job ticket =>
      exact follows_of_neutral ((neutral_job job ticket).bind fun _ => trivial) rfl

theorem follows_phaseOf (run : Run (On agent retires) s events t) (fresh : s.tasks = [])
    {number : Nat} {task : Task} (here : t.tasks[number]? = some task) :
    (discipline agent retires).after .idle (history number events) =
        some (phaseOf agent retires events number) ∧
      task.work.Follows (discipline agent retires) (fun after _ => after = .idle)
        (phaseOf agent retires events number) := by
  obtain ⟨leads, admitted⟩ := run.leads fresh number task here
  obtain ⟨after, hafter, hleft⟩ := leads.follows (follows_purpose admitted)
  have hphase : phaseOf agent retires events number = after := by
    unfold phaseOf
    rw [hafter, Option.getD_some]
  rw [hphase]
  exact ⟨hafter, hleft⟩

theorem phaseOf_concat {event : Event} {number : Nat} (hquiet : history number [event] = []) :
    phaseOf agent retires (events ++ [event]) number = phaseOf agent retires events number := by
  unfold phaseOf
  rw [history_append, hquiet, List.append_nil]

/-- A step begins a call, or it is a move of one task that leaves the phases of the others alone. -/
theorem move_of_step {event : Event} (run : Run (On agent retires) s events mid)
    (fresh : s.tasks = []) (step : Interleaving.Step (On agent retires) mid event t) :
    (∃ activity, event = .call activity ∧ t.cells = mid.cells ∧
        phaseOf agent retires (events ++ [event]) = phaseOf agent retires events) ∨
      ∃ number exchange after, event = .act number exchange ∧
        Move agent retires (mid.cells agent.number) (phaseOf agent retires events number) exchange
          after (t.cells agent.number) ∧
        phaseOf agent retires (events ++ [event]) =
          Function.update (phaseOf agent retires events) number after := by
  cases step with
  | @call activity admitted =>
      exact .inl ⟨activity, rfl, rfl, funext fun number => phaseOf_concat rfl⟩
  | @act t number purpose op next answer here answers =>
      obtain ⟨hphase, hfollows⟩ := follows_phaseOf run fresh here
      obtain ⟨after, hallowed, -⟩ := hfollows answer
      have hmove := move_of_answers answers hallowed
      refine .inr ⟨number, ⟨op, answer⟩, after, rfl, hmove, ?_⟩
      funext other
      by_cases hsame : other = number
      · subst hsame
        rw [Function.update_self]
        unfold phaseOf
        rw [history_append, history_act_self, Discipline.after_concat, hphase]
        simp [hallowed]
      · rw [Function.update_of_ne hsame]
        exact phaseOf_concat (history_act_of_ne (Ne.symm hsame) _)

/-- What holds after some run and is kept by every call and every move still holds at the end. -/
theorem moves_induction_from {motive : List Event → Cell → (Nat → Phase) → Prop}
    (lead : Run (On agent retires) s before mid) (fresh : s.tasks = [])
    (run : Run (On agent retires) mid events t)
    (start : motive [] (mid.cells agent.number) (phaseOf agent retires before))
    (call : ∀ events cell phases activity, motive events cell phases →
      motive (events ++ [.call activity]) cell phases)
    (move : ∀ events cell phases number exchange after next, motive events cell phases →
      Move agent retires cell (phases number) exchange after next →
      motive (events ++ [.act number exchange]) next (Function.update phases number after)) :
    motive events (t.cells agent.number) (phaseOf agent retires (before ++ events)) := by
  refine run.induction (motive := fun events t =>
    motive events (t.cells agent.number) (phaseOf agent retires (before ++ events))) ?_ ?_
  · simpa using start
  · intro events mid event t run ih step
    have whole : Run (On agent retires) s (before ++ events) mid := run_append.mpr ⟨_, lead, run⟩
    rw [← List.append_assoc]
    obtain ⟨activity, rfl, hcells, hphases⟩ | ⟨number, exchange, after, rfl, hmove, hphases⟩ :=
      move_of_step whole fresh step
    · rw [hcells, hphases]
      exact call _ _ _ _ ih
    · rw [hphases]
      exact move _ _ _ _ _ _ _ ih hmove

/-- What holds of a new agent and is kept by every call and every move holds in every run. -/
theorem moves_induction {motive : List Event → Cell → (Nat → Phase) → Prop} {tables : Store.Tables}
    (run : Run (On agent retires) (.new [agent] tables) events t)
    (start : motive [] (.new agent.settings.skipWaiting) fun _ => .idle)
    (call : ∀ events cell phases activity, motive events cell phases →
      motive (events ++ [.call activity]) cell phases)
    (move : ∀ events cell phases number exchange after next, motive events cell phases →
      Move agent retires cell (phases number) exchange after next →
      motive (events ++ [.act number exchange]) next (Function.update phases number after)) :
    motive events (t.cells agent.number) (phaseOf agent retires events) := by
  have lead : Run (On agent retires) (.new [agent] tables) [] (.new [agent] tables) := rfl
  refine moves_induction_from lead rfl run ?_ call move
  rw [cells_new]
  exact start

end

/-! ### The state and the phases -/

namespace Phase

/-- On the way from the claim of an installation to the loaded manifest. -/
def Installs : Phase → Prop
  | claimed | loading => True
  | _ => False

/-- Bound to look at the flag, at the state, or to activate. -/
def Presses : Phase → Prop
  | published | flagged | wanting => True
  | _ => False

/-- In an activation that has begun. -/
def Clears : Phase → Prop
  | clearing _ => True
  | _ => False

end Phase

/-- How the state of an agent and the phases of its calls belong together: whatever the agent is
still bound to do, some call is bound to do. -/
structure Coherent (cell : Cell) (phases : Nat → Phase) : Prop where
  installs : cell.state = .installing → cell.installClaimed = true →
    ∃ number, (phases number).Installs
  presses : cell.state = .waiting → cell.skipWaiting = true → ∃ number, (phases number).Presses
  activates : cell.state = .activating → ∃ number, (phases number).Clears
  clears : ∀ number, (phases number).Clears → cell.state = .activating ∨ cell.state = .redundant
  single : ∀ first second, (phases first).Clears → (phases second).Clears → first = second

theorem coherent_new (skipWaiting : Bool) : Coherent (.new skipWaiting) fun _ => .idle where
  installs _ hclaimed := by cases hclaimed
  presses hstate := by cases hstate
  activates hstate := by cases hstate
  clears _ hclears := hclears.elim
  single _ _ hclears := hclears.elim

section

variable {agent : Agent} {retires : Bool} {cell next : Cell} {phases : Nat → Phase} {number : Nat}
  {exchange : Exchange} {after : Phase}

theorem exists_update {P : Phase → Prop} (hexists : ∃ number, P (phases number))
    (hkeeps : P (phases number) → P after) :
    ∃ other, P (Function.update phases number after other) := by
  obtain ⟨other, hother⟩ := hexists
  by_cases hsame : other = number
  · subst hsame
    exact ⟨other, by rw [Function.update_self]; exact hkeeps hother⟩
  · exact ⟨other, by rwa [Function.update_of_ne hsame]⟩

theorem exists_update_self {P : Phase → Prop} (hafter : P after) :
    ∃ other, P (Function.update phases number after other) :=
  ⟨number, by rwa [Function.update_self]⟩

theorem Coherent.installs_move (coherent : Coherent cell phases)
    (move : Move agent retires cell (phases number) exchange after next)
    (hstate : next.state = .installing) (hclaimed : next.installClaimed = true) :
    ∃ other, (Function.update phases number after other).Installs := by
  generalize hphase : phases number = phase at move
  cases move with
  | claim =>
      split
      · rename_i hbefore
        exact exists_update (coherent.installs hstate hbefore) (by simp [hphase])
      · exact exists_update_self trivial
  | look =>
      rw [if_pos hstate]
      exact exists_update_self trivial
  | publish => cases hstate
  | abandon hne => exact absurd hstate hne
  | begin => cases hstate
  | finish => cases hstate
  | supersede => cases hstate
  | refuse hidle =>
      refine exists_update (coherent.installs hstate hclaimed) ?_
      obtain rfl | rfl := hidle <;> simp [hphase, Phase.Installs]
  | _ => exact exists_update (coherent.installs hstate hclaimed) (by simp [hphase, Phase.Installs])

theorem Coherent.presses_move (coherent : Coherent cell phases)
    (move : Move agent retires cell (phases number) exchange after next)
    (hstate : next.state = .waiting) (hskip : next.skipWaiting = true) :
    ∃ other, (Function.update phases number after other).Presses := by
  generalize hphase : phases number = phase at move
  cases move with
  | publish | request => exact exists_update_self trivial
  | ask =>
      rw [if_pos hskip]
      exact exists_update_self trivial
  | check =>
      rw [if_pos hstate]
      exact exists_update_self trivial
  | begin => cases hstate
  | finish => cases hstate
  | supersede => cases hstate
  | refuse _ hne => exact absurd hstate hne
  | _ => exact exists_update (coherent.presses hstate hskip) (by simp [hphase, Phase.Presses])

theorem Coherent.activates_move (coherent : Coherent cell phases)
    (move : Move agent retires cell (phases number) exchange after next)
    (hstate : next.state = .activating) :
    ∃ other, (Function.update phases number after other).Clears := by
  generalize hphase : phases number = phase at move
  cases move with
  | begin | enumerate | delete => exact exists_update_self trivial
  | publish => cases hstate
  | finish => cases hstate
  | supersede => cases hstate
  | retired hne => exact absurd hstate hne
  | refuse hidle =>
      refine exists_update (coherent.activates hstate) ?_
      obtain rfl | rfl := hidle <;> simp [hphase, Phase.Clears]
  | _ => exact exists_update (coherent.activates hstate) (by simp [hphase, Phase.Clears])

theorem Move.clears (move : Move agent retires cell (phases number) exchange after next)
    (hclears : after.Clears) :
    ((phases number).Clears ∧ next = cell) ∨
      (cell.state = .waiting ∧ next.state = .activating) := by
  generalize phases number = phase at move ⊢
  cases move with
  | quiet => exact .inl ⟨hclears, rfl⟩
  | enumerate | delete => exact .inl ⟨trivial, rfl⟩
  | begin _ hstate => exact .inr ⟨hstate, rfl⟩
  | claim | look | ask | check => split at hclears <;> exact hclears.elim
  | _ => exact hclears.elim

theorem Move.stays (move : Move agent retires cell (phases number) exchange after next)
    (hnot : ¬(phases number).Clears)
    (hstate : cell.state = .activating ∨ cell.state = .redundant) :
    next.state = .activating ∨ next.state = .redundant := by
  generalize phases number = phase at move hnot
  cases move with
  | publish hin | begin _ hin => simp [hin] at hstate
  | finish => exact absurd trivial hnot
  | supersede => exact .inr rfl
  | _ => exact hstate

theorem Coherent.move (coherent : Coherent cell phases)
    (move : Move agent retires cell (phases number) exchange after next) :
    Coherent next (Function.update phases number after) where
  installs := coherent.installs_move move
  presses := coherent.presses_move move
  activates := coherent.activates_move move
  clears other hclears := by
    by_cases hsame : other = number
    · subst hsame
      rw [Function.update_self] at hclears
      obtain ⟨hbefore, rfl⟩ | ⟨-, hstate⟩ := move.clears hclears
      · exact coherent.clears other hbefore
      · exact .inl hstate
    · rw [Function.update_of_ne hsame] at hclears
      refine move.stays (fun hnumber => hsame ?_) (coherent.clears other hclears)
      exact coherent.single other number hclears hnumber
  single first second hfirst hsecond := by
    have hother : ∀ other, (phases other).Clears → after.Clears → other = number := by
      intro other hclears hafter
      obtain ⟨hnumber, -⟩ | ⟨hwaiting, -⟩ := move.clears hafter
      · exact coherent.single other number hclears hnumber
      · have hstate := coherent.clears other hclears
        simp [hwaiting] at hstate
    by_cases hone : first = number <;> by_cases htwo : second = number
    · exact hone.trans htwo.symm
    · subst hone
      rw [Function.update_self] at hfirst
      rw [Function.update_of_ne htwo] at hsecond
      exact (hother second hsecond hfirst).symm
    · subst htwo
      rw [Function.update_self] at hsecond
      rw [Function.update_of_ne hone] at hfirst
      exact hother first hfirst hsecond
    · rw [Function.update_of_ne hone] at hfirst
      rw [Function.update_of_ne htwo] at hsecond
      exact coherent.single first second hfirst hsecond

end

section

variable {agent : Agent} {retires : Bool} {tables : Store.Tables} {events : List Event} {t : System}

/-- In every run of one agent, whatever it is still bound to do, some call is bound to do. -/
theorem coherent_of_run (run : Run (On agent retires) (.new [agent] tables) events t) :
    Coherent (t.cells agent.number) (phaseOf agent retires events) := by
  refine moves_induction (motive := fun _ cell phases => Coherent cell phases) run
    (coherent_new _) ?_ ?_
  · intro events cell phases activity coherent
    exact coherent
  · intro events cell phases number exchange after next coherent move
    exact coherent.move move

end

end OfflineAgent.Lifecycle
