import OfflineAgent.Proofs.Interleaving.Awaiting
import OfflineAgent.Proofs.Lifecycle.Activation

/-!
# Only once

However many calls install and activate an agent at the same time, one of them loads the manifest
and one clears the stores away: whoever installs first claims the installation, and whoever
activates first takes the agent from waiting.
-/

namespace OfflineAgent.Lifecycle

open Simulation Interleaving

/-- Whether the installation of the agent is claimed by an event. -/
def claims (agent : Agent) : Event → Bool
  | .act _ ⟨.lifecycle number .claimInstall, before⟩ => number == agent.number && !before
  | _ => false

def enumerates : Event → Bool
  | .act _ ⟨.storage .names, _⟩ => true
  | _ => false

/-- A call to install that has done nothing but ask for the state of its agent, and gives an empty
report, if it has not done so already. -/
def StandsBy (calls : Activity → Prop) (agent : Agent) (events : List Event) (t : System)
    (number : Nat) (work : Work Reply) : Prop :=
  (∀ exchange ∈ history number events, ∃ step, exchange.op = .lifecycle agent.number step) ∧
    (work = .done (.report (some .empty)) ∨
      ((history number events).length < 2 ∧ GoesOn calls t number))

def WaitsToEnumerate (t : System) (number : Nat) : Prop :=
  ∃ purpose next, t.tasks[number]? = some ⟨purpose, .ask (.storage .names) next⟩

/-- What calls on an agent do at most once. -/
structure OnlyOnce (calls : Activity → Prop) (agent : Agent) (events : List Event) (t : System) :
    Prop where
  /-- All calls to install stand by, but one at most, which found the agent installing. -/
  loads : ∃ loader, ∀ (number : Nat) (work : Work Reply),
    t.tasks[number]? = some ⟨.call (.install agent), work⟩ →
      StandsBy calls agent events t number work ∨ (number = loader ∧
        ⟨.lifecycle agent.number .read, .installing⟩ ∈ history number events)
  enumerated : events.countP enumerates ≤ 1
  /-- Whoever is about to enumerate the stores is the first and the only one. -/
  enumerating : ∀ number, WaitsToEnumerate t number →
    events.countP enumerates = 0 ∧ ∀ other, WaitsToEnumerate t other → other = number
  begun : events.countP (begins agent) ≤ 1
  /-- Only one call to activate gives a list. -/
  activates : ∀ (first second : Nat) (deleted found : List String),
    t.tasks[first]? = some ⟨.call (.activate agent), .done (.deleted (some deleted))⟩ →
    t.tasks[second]? = some ⟨.call (.activate agent), .done (.deleted (some found))⟩ →
      first = second

/-! ### One claim and one enumeration -/

section

variable {agent : Agent} {retires : Bool} {cell next : Cell} {phase after : Phase}
  {exchange : Exchange} {number : Nat}

theorem Move.claims (number : Nat) (move : Move agent retires cell phase exchange after next) :
    (Lifecycle.claims agent (.act number exchange) = true ∧ cell.installClaimed = false ∧
        next.installClaimed = true) ∨
      (Lifecycle.claims agent (.act number exchange) = false ∧
        next.installClaimed = cell.installClaimed) := by
  cases move with
  | claim =>
      cases hclaimed : cell.installClaimed with
      | false => exact .inl ⟨by simp [Lifecycle.claims], rfl, rfl⟩
      | true => exact .inr ⟨by simp [Lifecycle.claims], rfl⟩
  | quiet _ hop =>
      refine .inr ⟨?_, rfl⟩
      obtain ⟨op, answer⟩ := exchange
      obtain hneutral | rfl : Neutral op ∨ op = .lifecycle agent.number .read := hop
      · cases op <;> first | rfl | exact hneutral.elim
      · rfl
  | _ => exact .inr ⟨rfl, rfl⟩

/-- Only an activation that has just begun enumerates the stores. -/
theorem Move.enumerates (number : Nat) (move : Move agent retires cell phase exchange after next) :
    (Lifecycle.enumerates (.act number exchange) = true ∧ phase = .clearing none ∧
        Lifecycle.begins agent (.act number exchange) = false ∧
        ∃ todo, after = .clearing (some todo)) ∨
      (Lifecycle.enumerates (.act number exchange) = false ∧
        (after = .clearing none → Lifecycle.begins agent (.act number exchange) = true)) := by
  cases move with
  | enumerate => exact .inl ⟨rfl, rfl, rfl, _, rfl⟩
  | quiet hfree hop =>
      refine .inr ⟨?_, fun hafter => ?_⟩
      · obtain ⟨op, answer⟩ := exchange
        obtain hneutral | rfl : Neutral op ∨ op = .lifecycle agent.number .read := hop
        · cases op with
          | storage call => cases call <;> first | rfl | exact absurd rfl hneutral.1
          | _ => rfl
        · rfl
      · subst hafter
        cases hfree
  | begin => exact .inr ⟨rfl, fun _ => by simp [Lifecycle.begins]⟩
  | claim | look | ask | check =>
      exact .inr ⟨rfl, fun hafter => by split at hafter <;> cases hafter⟩
  | _ => exact .inr ⟨rfl, fun hafter => by cases hafter⟩

variable {tables : Store.Tables} {events : List Event} {t : System}

theorem claims_of_run (run : Run (On agent retires) (.new [agent] tables) events t) :
    events.countP (claims agent) = if (t.cells agent.number).installClaimed then 1 else 0 := by
  refine moves_induction (motive := fun events cell _ =>
    events.countP (claims agent) = if cell.installClaimed then 1 else 0) run rfl ?_ ?_
  · intro events cell phases activity ih
    rw [List.countP_append]
    exact ih
  · intro events cell phases number exchange after next ih move
    rw [List.countP_append, List.countP_singleton, ih]
    obtain ⟨hclaims, hbefore, hafter⟩ | ⟨hclaims, hsame⟩ := move.claims number
    · simp [hclaims, hbefore, hafter]
    · simp [hclaims, hsame]

/-- An activation that has yet to enumerate the stores is one that began for each that has. -/
theorem enumerates_of_run (run : Run (On agent retires) (.new [agent] tables) events t) :
    events.countP enumerates ≤ events.countP (begins agent) ∧
      ∀ number, phaseOf agent retires events number = .clearing none →
        events.countP enumerates < events.countP (begins agent) := by
  refine (moves_induction (motive := fun events cell phases => Coherent cell phases ∧
    events.countP enumerates ≤ events.countP (begins agent) ∧
      ∀ number, phases number = .clearing none →
        events.countP enumerates < events.countP (begins agent))
    run ⟨coherent_new _, Nat.le_refl _, nofun⟩ ?_ ?_).2
  · rintro events cell phases activity ⟨coherent, hle, hlt⟩
    simp only [List.countP_append, List.countP_singleton, enumerates, begins, Bool.false_eq_true,
      if_false, Nat.add_zero]
    exact ⟨coherent, hle, hlt⟩
  · rintro events cell phases acting exchange after next ⟨coherent, hle, hlt⟩ move
    refine ⟨coherent.move move, ?_⟩
    simp only [List.countP_append, List.countP_singleton]
    obtain ⟨henumerates, hphase, hbegins, todo, rfl⟩ | ⟨henumerates, hafter⟩ :=
      move.enumerates acting
    · have hyet := hlt acting hphase
      refine ⟨by simp only [henumerates, hbegins]; simpa using hyet, fun number hclearing => ?_⟩
      by_cases hsame : number = acting
      · subst hsame
        rw [Function.update_self] at hclearing
        cases hclearing
      · rw [Function.update_of_ne hsame] at hclearing
        exact absurd (coherent.single number acting (hclearing ▸ trivial) (hphase ▸ trivial)) hsame
    · rw [henumerates]
      refine ⟨by simpa using Nat.le_add_right_of_le hle, fun number hclearing => ?_⟩
      by_cases hsame : number = acting
      · subst hsame
        rw [Function.update_self] at hclearing
        simp only [hafter hclearing, if_true]
        simpa using Nat.lt_succ_of_le hle
      · rw [Function.update_of_ne hsame] at hclearing
        simpa using Nat.lt_add_right _ (hlt number hclearing)

/-! ### What a call has done -/

theorem eq_of_countP_le_one {p : Event → Bool} (hle : events.countP p ≤ 1) {one other : Event}
    (hone : one ∈ events) (hother : other ∈ events) (hp : p one = true) (hq : p other = true) :
    one = other := by
  have hin := List.mem_filter.mpr ⟨hone, hp⟩
  have hin' := List.mem_filter.mpr ⟨hother, hq⟩
  rw [List.countP_eq_length_filter] at hle
  obtain ⟨only, honly⟩ := List.length_eq_one_iff.mp (hle.antisymm (List.length_pos_of_mem hin))
  rw [honly, List.mem_singleton] at hin hin'
  exact hin.trans hin'.symm

/-- A call to install stands by, unless it claimed the installation and found it still to do. -/
theorem leads_install {history : List Exchange} {left : Work Reply}
    (leads : Work.Leads (Activity.install agent).work history left) :
    (∃ rest, history = ⟨.lifecycle agent.number .claimInstall, false⟩ ::
        ⟨.lifecycle agent.number .read, .installing⟩ :: rest) ∨
      ((∀ exchange ∈ history, ∃ step, exchange.op = .lifecycle agent.number step) ∧
        (left = .done (.report (some .empty)) ∨ (history.length < 2 ∧
          ∃ step next, left = .ask (.lifecycle agent.number step) next))) := by
  obtain ⟨rfl, rfl⟩ | ⟨before, rest, rfl, hrest⟩ := Work.leads_ask_iff.mp leads
  · exact .inr ⟨by simp, .inr ⟨Nat.zero_lt_two, _, _, rfl⟩⟩
  cases before with
  | true =>
      obtain ⟨rfl, rfl⟩ := Work.leads_done_iff.mp (show Work.Leads (.done _) rest left from hrest)
      exact .inr ⟨by simp, .inl rfl⟩
  | false =>
      obtain ⟨rfl, rfl⟩ | ⟨state, later, rfl, hlater⟩ := Work.leads_ask_iff.mp hrest
      · exact .inr ⟨by simp, .inr ⟨Nat.one_lt_two, _, _, rfl⟩⟩
      by_cases hstate : state = .installing
      · exact .inl ⟨later, by rw [hstate]⟩
      · change Work.Leads (Work.bind (if state ≠ .installing then _ else _) _) _ _ at hlater
        rw [if_pos hstate] at hlater
        obtain ⟨rfl, rfl⟩ := Work.leads_done_iff.mp hlater
        exact .inr ⟨by simp, .inl rfl⟩

theorem beginning_of_deleted {history : List Exchange} {deleted : List String}
    (leads : Work.Leads (Activity.activate agent).work history
      (.done (.deleted (some deleted)))) : beginning agent ∈ history := by
  obtain ⟨-, hleft⟩ | ⟨moved, rest, rfl, hrest⟩ := Work.leads_ask_iff.mp leads
  · cases hleft
  cases moved with
  | true => exact List.mem_cons_self
  | false =>
      obtain ⟨-, hleft⟩ := Work.leads_done_iff.mp hrest
      cases hleft

theorem phaseOf_of_waits (run : Run (On agent retires) (.new [agent] tables) events t)
    (hwaits : WaitsToEnumerate t number) :
    phaseOf agent retires events number = .clearing none := by
  obtain ⟨purpose, next, here⟩ := hwaits
  obtain ⟨-, hfollows⟩ := follows_phaseOf run rfl here
  obtain ⟨after, hallowed, -⟩ := hfollows (.error .unavailable)
  have move : Move agent retires (.new false) _ _ _ _ := move_of_afterCall hallowed
  obtain ⟨-, hphase, -⟩ | ⟨hnot, -⟩ := move.enumerates number
  · exact hphase
  · cases hnot

/-! ### Runs -/

theorem begins_le_one (run : Run (On agent retires) (.new [agent] tables) events t) :
    events.countP (begins agent) ≤ 1 := by
  have counts := counts_of_run run
  cases hstate : (t.cells agent.number).state <;> rw [hstate] at counts <;>
    simp only [Counts] at counts <;> omega

/-- All calls to install stand by, but the one that claimed the installation and found it still to
do. -/
theorem standsBy_of_run {calls : Activity → Prop}
    (run : Run (On agent retires) (.new [agent] tables) events t) :
    ∃ loader, ∀ (number : Nat) (work : Work Reply),
      t.tasks[number]? = some ⟨.call (.install agent), work⟩ →
        StandsBy calls agent events t number work ∨ (number = loader ∧
          ⟨.lifecycle agent.number .read, .installing⟩ ∈ history number events) := by
  let claim : Exchange := ⟨.lifecycle agent.number .claimInstall, false⟩
  have honce : ∀ first second, .act first claim ∈ events → .act second claim ∈ events →
      first = second := by
    intro first second hfirst hsecond
    have hle : events.countP (claims agent) ≤ 1 := by
      rw [claims_of_run run]
      split <;> decide
    have hclaims (number : Nat) : claims agent (.act number claim) = true := by
      simp [claim, claims]
    exact (Event.act.inj (eq_of_countP_le_one hle hfirst hsecond (hclaims _) (hclaims _))).1
  obtain ⟨loader, hloader⟩ : ∃ loader, ∀ number, .act number claim ∈ events → number = loader := by
    by_cases hclaimed : ∃ loader, .act loader claim ∈ events
    · obtain ⟨loader, hmem⟩ := hclaimed
      exact ⟨loader, fun number hnumber => honce number loader hnumber hmem⟩
    · exact ⟨0, fun number hnumber => absurd ⟨number, hnumber⟩ hclaimed⟩
  refine ⟨loader, fun number work here => ?_⟩
  obtain ⟨leads, -⟩ := run.leads rfl number _ here
  obtain ⟨rest, hhistory⟩ | ⟨hlifecycle, hwork⟩ := leads_install leads
  · refine .inr ⟨hloader number ?_, ?_⟩
    · rw [← mem_history, hhistory]
      exact List.mem_cons_self
    · rw [hhistory]
      exact List.mem_cons_of_mem _ List.mem_cons_self
  · refine .inl ⟨hlifecycle, hwork.imp_right fun ⟨hlt, step, next, hleft⟩ => ⟨hlt, ?_⟩⟩
    obtain rfl : work = _ := hleft
    exact System.goesOn here fun _ _ hop => by cases hop

end

/-- **Installed, cleared away and activated only once.** In every run of any number of calls on one
agent, with any faults and in any order: all calls to install but one ask for the state of the
agent at most and give an empty report, the stores are enumerated for one activation at most, and
one call to activate at most gives a list. -/
theorem only_once {agent : Agent} {tables : Store.Tables} {events : List Event} {t : System}
    (run : Run (fun activity => agentOf? activity = some agent) (.new [agent] tables) events t) :
    OnlyOnce (fun activity => agentOf? activity = some agent) agent events t := by
  have all : Run (On agent true) (.new [agent] tables) events t :=
    run.mono fun activity hagent => ⟨hagent, fun _ => rfl⟩
  have hbegun := begins_le_one all
  obtain ⟨hle, hlt⟩ := enumerates_of_run all
  have hpending : ∀ number, WaitsToEnumerate t number →
      phaseOf agent true events number = .clearing none := fun _ => phaseOf_of_waits all
  have hbegan : ∀ (number : Nat) (deleted : List String),
      t.tasks[number]? = some ⟨.call (.activate agent), .done (.deleted (some deleted))⟩ →
        .act number (beginning agent) ∈ events := by
    intro number deleted here
    exact mem_history.mp (beginning_of_deleted (run.leads rfl number _ here).1)
  refine ⟨standsBy_of_run all, hle.trans hbegun, fun number hwaits => ⟨?_, ?_⟩, hbegun, ?_⟩
  · have hyet := hlt number (hpending number hwaits)
    omega
  · intro other hother
    exact (coherent_of_run all).single other number (hpending other hother ▸ trivial)
      (hpending number hwaits ▸ trivial)
  · intro first second deleted found hfirst hsecond
    have hbegins (number : Nat) : begins agent (.act number (beginning agent)) = true := by
      simp [begins, beginning]
    exact (Event.act.inj (eq_of_countP_le_one hbegun (hbegan _ _ hfirst) (hbegan _ _ hsecond)
      (hbegins _) (hbegins _))).1

open Kiosk (patient)
open Moment (isClock_noon)

/-- Two calls install the agent and two activate it, all at the same time. -/
def crowd : List Event :=
  [.call (.install patient), .call (.install patient), .call (.activate patient),
    .call (.activate patient),
    .act 1 ⟨.lifecycle 0 .claimInstall, false⟩,
    .act 0 ⟨.lifecycle 0 .claimInstall, true⟩,
    .act 1 ⟨.lifecycle 0 .read, .installing⟩,
    .act 1 ⟨.storage (.openStore "stowaway-static-v1"), .error .unavailable⟩,
    .act 1 ⟨.lifecycle 0 (.advance .installing .waiting), true⟩,
    .act 3 ⟨.lifecycle 0 (.advance .waiting .activating), true⟩,
    .act 2 ⟨.lifecycle 0 (.advance .waiting .activating), false⟩,
    .act 3 ⟨.storage .names, .ok ["stowaway-static-v0"]⟩,
    .act 3 ⟨.storage (.delete "stowaway-static-v0"), .ok true⟩,
    .act 3 ⟨.lifecycle 0 (.advance .activating .active), true⟩]

theorem crowd_runs :
    ∃ t, Run (fun activity => agentOf? activity = some patient)
        (.new [patient] ofOlder) crowd t ∧
      t.tasks[0]? = some ⟨.call (.install patient), .done (.report (some .empty))⟩ ∧
      t.tasks[3]? =
        some ⟨.call (.activate patient), .done (.deleted (some ["stowaway-static-v0"]))⟩ :=
  ⟨_, ⟨_, .call rfl, _, .call rfl, _, .call rfl, _, .call rfl,
    _, .act rfl (.moved rfl), _, .act rfl (.moved rfl), _, .act rfl (.moved rfl),
    _, .act rfl (.failed _), _, .act rfl (.moved rfl), _, .act rfl (.moved rfl),
    _, .act rfl (.moved rfl), _, .act rfl (.enumerated names_ofOlder),
    _, .act rfl (.performed isClock_noon rfl), _, .act rfl (.moved rfl), rfl⟩, rfl, rfl⟩

theorem only_once_in_crowd :
    ∃ t, Run (fun activity => agentOf? activity = some patient)
        (.new [patient] ofOlder) crowd t ∧
      OnlyOnce (fun activity => agentOf? activity = some patient) patient crowd t := by
  obtain ⟨t, run, -⟩ := crowd_runs
  exact ⟨t, run, only_once run⟩

end OfflineAgent.Lifecycle
