import Mathlib
import OfflineAgent.Proofs.Calendar
import OfflineAgent.Proofs.Work.Discipline
import OfflineAgent.Simulation.Session

/-!
# Interleaved work

All the work that is under way at the same time: calls from outside and the jobs that they start in
the background. One step lets any one task go on by one operation, which takes effect at once. The
surroundings are free: every request may be answered anything, every call on the stores may fail,
the clock may show any time. So what holds of every run holds of every order in which a scheduler
may take the work, and of every network and disk.
-/

namespace OfflineAgent

namespace Interleaving

open Simulation

inductive Purpose where
  | call (activity : Activity)
  | background (job : Job) (ticket : Ticket)

def Purpose.work : Purpose → Work Reply
  | call activity => activity.work
  | background job ticket => do
    job.work ticket
    return .ok

/-- A piece of work under way: what it was started for and what is left of it. -/
structure Task where
  purpose : Purpose
  work : Work Reply

def Purpose.task (purpose : Purpose) : Task := ⟨purpose, purpose.work⟩

/-- Tasks are numbered in the order in which they were started. -/
structure System where
  tables : Store.Tables
  cells : Nat → Lifecycle.Cell
  posted : List Posted
  nextTicket : Ticket
  tasks : List Task

namespace System

def new (agents : List Agent) (tables : Store.Tables) : System where
  tables := tables
  cells := fun number =>
    match agents.find? (·.number = number) with
    | some agent => .new agent.settings.skipWaiting
    | none => .new false
  posted := []
  nextTicket := 0
  tasks := []

def store (s : System) (call : Store.Call) (now : Moment) : System :=
  { s with tables := (call.run now s.tables).2 }

/-- The operation may be answered so, and leaves the system so. A call on the stores that fails has
no effect, unless it was cut off: then it may have been done. -/
def Answers (s : System) : (op : Op) → op.Answer → System → Prop
  | .storage call, answer, t =>
    (∃ failure, answer = .error failure ∧ t = s) ∨
      ∃ now : Moment, now.IsClock ∧
        (answer = (call.run now s.tables).1 ∨ answer = .error .abandoned) ∧ t = s.store call now
  | .fetch _, _, t => t = s
  | .lifecycle agent step, answer, t =>
    answer = (step.run (s.cells agent)).1 ∧
      t = { s with cells := Function.update s.cells agent (step.run (s.cells agent)).2 }
  | .start job, ticket, t =>
    ticket = s.nextTicket ∧
      t = { s with
        nextTicket := s.nextTicket + 1
        tasks := s.tasks ++ [(Purpose.background job s.nextTicket).task] }
  | .report channel ticket outcome, _, t =>
    t = { s with posted := s.posted ++ [⟨channel, ticket, outcome⟩] }
  | .await channel ticket, outcome, t =>
    s.posted.findSome? (World.Posted.outcome? · channel ticket) = some outcome ∧ t = s

/-! ### One answer of each kind -/

namespace Answers

variable {s : System}

theorem performed {call : Store.Call} {now : Moment} {answer : Except Store.Failure call.Answer}
    (hclock : now.IsClock) (hanswer : answer = (call.run now s.tables).1) :
    s.Answers (.storage call) answer (s.store call now) :=
  .inr ⟨now, hclock, .inl hanswer, rfl⟩

theorem enumerated {names : List String} (hnames : s.tables.names = names) :
    s.Answers (.storage .names) (.ok names) s :=
  .inr ⟨.noon, Moment.isClock_noon, .inl (congrArg Except.ok hnames.symm), rfl⟩

theorem matched {key : Store.Key} {answer : Except Store.Failure (Option Store.Entry)}
    (hfound : s.tables.matchAny key = answer) : s.Answers (.storage (.matchAny key)) answer s :=
  .inr ⟨.noon, Moment.isClock_noon, .inl hfound.symm, rfl⟩

theorem failed {call : Store.Call} (failure : Store.Failure) :
    s.Answers (.storage call) (.error failure) s :=
  .inl ⟨failure, rfl, rfl⟩

theorem fetched {request : Request} (outcome : Except FetchFailure Response) :
    s.Answers (.fetch request) outcome s := rfl

theorem moved {agent : Nat} {step : Lifecycle.Step} {answer : step.Answer}
    (hanswer : answer = (step.run (s.cells agent)).1) :
    s.Answers (.lifecycle agent step) answer
      { s with cells := Function.update s.cells agent (step.run (s.cells agent)).2 } :=
  ⟨hanswer, rfl⟩

theorem begun {job : Job} {ticket : Ticket} (hticket : ticket = s.nextTicket) :
    s.Answers (.start job) ticket
      { s with
        nextTicket := s.nextTicket + 1
        tasks := s.tasks ++ [(Purpose.background job s.nextTicket).task] } :=
  ⟨hticket, rfl⟩

theorem reported {channel : Channel} {ticket : Ticket} {outcome : channel.Outcome} :
    s.Answers (.report channel ticket outcome) ()
      { s with posted := s.posted ++ [⟨channel, ticket, outcome⟩] } := rfl

theorem awaited {channel : Channel} {ticket : Ticket} {outcome : channel.Outcome}
    (hposted : s.posted.findSome? (World.Posted.outcome? · channel ticket) = some outcome) :
    s.Answers (.await channel ticket) outcome s :=
  ⟨hposted, rfl⟩

end Answers

/-! ### Steps and runs -/

def begin (s : System) (activity : Activity) : System :=
  { s with tasks := s.tasks ++ [(Purpose.call activity).task] }

def setTask (s : System) (number : Nat) (task : Task) : System :=
  { s with tasks := s.tasks.set number task }

end System

/-- What one step was: a call began, or a task got an operation done. -/
inductive Event where
  | call (activity : Activity)
  | act (task : Nat) (exchange : Exchange)

/-- One step. Only calls that `calls` admits are started from outside. -/
inductive Step (calls : Activity → Prop) : System → Event → System → Prop
  | call {s : System} {activity : Activity} (admitted : calls activity) :
      Step calls s (.call activity) (s.begin activity)
  | act {s t : System} {number : Nat} {purpose : Purpose} {op : Op} {next : op.Answer → Work Reply}
      {answer : op.Answer} (here : s.tasks[number]? = some ⟨purpose, .ask op next⟩)
      (answers : s.Answers op answer t) :
      Step calls s (.act number ⟨op, answer⟩) (t.setTask number ⟨purpose, next answer⟩)

/-- A run from one system to another, with all that happened in it, in order. -/
def Run (calls : Activity → Prop) : System → List Event → System → Prop
  | s, [], t => s = t
  | s, event :: events, t => ∃ mid, Step calls s event mid ∧ Run calls mid events t

/-- What a task exchanged in a run, in order. -/
def history (number : Nat) (events : List Event) : List Exchange :=
  events.filterMap fun
    | .act task exchange => if task = number then some exchange else none
    | .call _ => none

variable {calls : Activity → Prop} {s t : System} {events : List Event}

@[simp]
theorem history_nil (number : Nat) : history number [] = [] := rfl

theorem history_append (number : Nat) (first second : List Event) :
    history number (first ++ second) = history number first ++ history number second := by
  simp [history]

@[simp]
theorem history_call (number : Nat) (activity : Activity) :
    history number [.call activity] = [] := rfl

@[simp]
theorem history_act_self (number : Nat) (exchange : Exchange) :
    history number [.act number exchange] = [exchange] := by
  simp [history]

theorem history_act_of_ne {number task : Nat} (hne : task ≠ number) (exchange : Exchange) :
    history number [.act task exchange] = [] := by
  simp [history, hne]

theorem mem_history {number : Nat} {exchange : Exchange} :
    exchange ∈ history number events ↔ Event.act number exchange ∈ events := by
  simp only [history, List.mem_filterMap]
  constructor
  · rintro ⟨event, hmem, hevent⟩
    cases event with
    | call activity => cases hevent
    | act task found =>
        obtain ⟨rfl, rfl⟩ : task = number ∧ found = exchange := by simpa using hevent
        exact hmem
  · intro hmem
    exact ⟨_, hmem, by simp⟩

theorem history_eq_cons {number : Nat} {first : Exchange} {rest : List Exchange}
    (hhistory : history number events = first :: rest) :
    ∃ before after, events = before ++ .act number first :: after ∧
      history number before = [] ∧ history number after = rest := by
  induction events with
  | nil => cases hhistory
  | cons event events ih =>
      rw [← List.singleton_append, history_append] at hhistory
      have hskip (hquiet : history number [event] = []) :
          ∃ before after, event :: events = before ++ .act number first :: after ∧
            history number before = [] ∧ history number after = rest := by
        rw [hquiet, List.nil_append] at hhistory
        obtain ⟨before, after, rfl, hbefore, hafter⟩ := ih hhistory
        refine ⟨event :: before, after, rfl, ?_, hafter⟩
        rw [← List.singleton_append, history_append, hquiet, hbefore, List.nil_append]
      cases event with
      | call activity => exact hskip rfl
      | act task exchange =>
          by_cases hsame : task = number
          · subst hsame
            rw [history_act_self] at hhistory
            obtain ⟨rfl, rfl⟩ := List.cons.inj hhistory
            exact ⟨[], events, rfl, rfl, rfl⟩
          · exact hskip (history_act_of_ne hsame _)

/-- What a task exchanged up to some point and from there on splits the whole run in two. -/
theorem history_eq_append {number : Nat} {first second : List Exchange}
    (hhistory : history number events = first ++ second) :
    ∃ before after, events = before ++ after ∧ history number before = first ∧
      history number after = second := by
  induction first generalizing events with
  | nil => exact ⟨[], events, rfl, rfl, hhistory⟩
  | cons exchange first ih =>
      obtain ⟨skipped, rest, rfl, hskipped, hrest⟩ := history_eq_cons hhistory
      obtain ⟨before, after, rfl, hbefore, hafter⟩ := ih hrest
      refine ⟨skipped ++ .act number exchange :: before, after, by simp, ?_, hafter⟩
      rw [← List.singleton_append, history_append, history_append, hskipped, hbefore,
        history_act_self]
      rfl

/-! ### Runs in parts -/

@[simp]
theorem run_nil : Run calls s [] t ↔ s = t := Iff.rfl

theorem run_append {first second : List Event} :
    Run calls s (first ++ second) t ↔ ∃ mid, Run calls s first mid ∧ Run calls mid second t := by
  induction first generalizing s with
  | nil => simp [Run]
  | cons event first ih =>
      simp only [List.cons_append, Run, ih]
      constructor
      · rintro ⟨next, step, mid, run, rest⟩
        exact ⟨mid, ⟨next, step, run⟩, rest⟩
      · rintro ⟨mid, ⟨next, step, run⟩, rest⟩
        exact ⟨next, step, mid, run, rest⟩

theorem Run.append {mid : System} {first second : List Event} (lead : Run calls s first mid)
    (rest : Run calls mid second t) : Run calls s (first ++ second) t :=
  run_append.mpr ⟨mid, lead, rest⟩

theorem Run.call {activity : Activity} (admitted : calls activity) :
    Run calls s [.call activity] (s.begin activity) :=
  ⟨_, .call admitted, rfl⟩

theorem run_concat {event : Event} :
    Run calls s (events ++ [event]) t ↔ ∃ mid, Run calls s events mid ∧ Step calls mid event t := by
  rw [run_append]
  simp [Run]

/-- What holds at the start and is kept by every step, whatever happened before it, holds at the
end. -/
theorem Run.induction {motive : List Event → System → Prop} (run : Run calls s events t)
    (start : motive [] s)
    (step : ∀ events mid event t, Run calls s events mid → motive events mid →
      Step calls mid event t → motive (events ++ [event]) t) :
    motive events t := by
  induction events using List.reverseRecOn generalizing t with
  | nil => exact run ▸ start
  | append_singleton events event ih =>
      obtain ⟨mid, before, last⟩ := run_concat.mp run
      exact step events mid event t before (ih before) last

theorem Run.mono {more : Activity → Prop} (run : Run calls s events t)
    (himp : ∀ activity, calls activity → more activity) : Run more s events t := by
  induction events generalizing s with
  | nil => exact run
  | cons event events ih =>
      obtain ⟨mid, step, rest⟩ := run
      refine ⟨mid, ?_, ih rest⟩
      cases step with
      | call admitted => exact .call (himp _ admitted)
      | act here answers => exact .act here answers

/-! ### Runs of a kind -/

def RunOf (calls : Activity → Prop) (kind : System → Event → System → Prop) :
    System → List Event → System → Prop
  | s, [], t => s = t
  | s, event :: events, t =>
    ∃ mid, Step calls s event mid ∧ kind s event mid ∧ RunOf calls kind mid events t

section

variable {kind : System → Event → System → Prop}

theorem RunOf.run (run : RunOf calls kind s events t) : Run calls s events t := by
  induction events generalizing s with
  | nil => exact run
  | cons event events ih =>
      obtain ⟨mid, step, -, rest⟩ := run
      exact ⟨mid, step, ih rest⟩

theorem Run.runOf (run : Run calls s events t)
    (every : ∀ u event v, Step calls u event v → kind u event v) : RunOf calls kind s events t := by
  induction events generalizing s with
  | nil => exact run
  | cons event events ih =>
      obtain ⟨mid, step, rest⟩ := run
      exact ⟨mid, step, every s event mid step, ih rest⟩

theorem RunOf.imp {more : System → Event → System → Prop} (run : RunOf calls kind s events t)
    (himp : ∀ u event v, kind u event v → more u event v) : RunOf calls more s events t := by
  induction events generalizing s with
  | nil => exact run
  | cons event events ih =>
      obtain ⟨mid, step, hkind, rest⟩ := run
      exact ⟨mid, step, himp s event mid hkind, ih rest⟩

theorem runOf_append {first second : List Event} :
    RunOf calls kind s (first ++ second) t ↔
      ∃ mid, RunOf calls kind s first mid ∧ RunOf calls kind mid second t := by
  induction first generalizing s with
  | nil => simp [RunOf]
  | cons event first ih =>
      simp only [List.cons_append, RunOf, ih]
      constructor
      · rintro ⟨next, step, hkind, mid, run, rest⟩
        exact ⟨mid, ⟨next, step, hkind, run⟩, rest⟩
      · rintro ⟨mid, ⟨next, step, hkind, run⟩, rest⟩
        exact ⟨next, step, hkind, mid, run, rest⟩

theorem RunOf.induction {motive : List Event → System → Prop} (run : RunOf calls kind s events t)
    (start : motive [] s)
    (step : ∀ events mid event t, RunOf calls kind s events mid → motive events mid →
      Step calls mid event t → kind mid event t → motive (events ++ [event]) t) :
    motive events t := by
  induction events using List.reverseRecOn generalizing t with
  | nil => exact run ▸ start
  | append_singleton events event ih =>
      obtain ⟨mid, before, _, last, hkind, rfl⟩ := runOf_append.mp run
      exact step events mid event _ before (ih before) last hkind

end

/-! ### Tasks -/

theorem System.Answers.tasks {op : Op} {answer : op.Answer} (answers : s.Answers op answer t) :
    t.tasks = s.tasks ∨
      ∃ job, t.tasks = s.tasks ++ [(Purpose.background job s.nextTicket).task] := by
  cases op with
  | storage call =>
      obtain ⟨_, -, rfl⟩ | ⟨now, -, -, rfl⟩ := answers <;> exact .inl rfl
  | fetch request =>
      obtain rfl := answers
      exact .inl rfl
  | lifecycle agent step =>
      obtain ⟨-, rfl⟩ := answers
      exact .inl rfl
  | start job =>
      obtain ⟨-, rfl⟩ := answers
      exact .inr ⟨job, rfl⟩
  | report channel ticket outcome =>
      obtain rfl := answers
      exact .inl rfl
  | await channel ticket =>
      obtain ⟨-, rfl⟩ := answers
      exact .inl rfl

theorem System.Answers.lt_length {op : Op} {answer : op.Answer} (answers : s.Answers op answer t)
    {number : Nat} (hlt : number < s.tasks.length) : number < t.tasks.length := by
  obtain heq | ⟨job, heq⟩ := answers.tasks <;> rw [heq]
  · exact hlt
  · rw [List.length_append]
    omega

theorem System.Answers.kept {op : Op} {answer : op.Answer} (answers : s.Answers op answer t)
    {number : Nat} {task : Task} (here : s.tasks[number]? = some task) :
    t.tasks[number]? = some task := by
  have hlt : number < s.tasks.length := (List.getElem?_eq_some_iff.mp here).1
  obtain heq | ⟨job, heq⟩ := answers.tasks
  · rw [heq, here]
  · rw [heq, List.getElem?_append_left hlt, here]

/-- Only a step on the life of an agent changes a cell, and only that of its agent. -/
theorem System.Answers.cells {op : Op} {answer : op.Answer} (answers : s.Answers op answer t) :
    t.cells = s.cells ∨ ∃ owner step, op = .lifecycle owner step ∧
      t.cells = Function.update s.cells owner (step.run (s.cells owner)).2 := by
  cases op with
  | storage call => obtain ⟨_, -, rfl⟩ | ⟨now, -, -, rfl⟩ := answers <;> exact .inl rfl
  | fetch request => exact .inl (congrArg System.cells answers)
  | lifecycle owner step =>
      obtain ⟨-, rfl⟩ := answers
      exact .inr ⟨owner, step, rfl, rfl⟩
  | start job =>
      obtain ⟨-, rfl⟩ := answers
      exact .inl rfl
  | report channel ticket outcome =>
      obtain rfl := answers
      exact .inl rfl
  | await channel ticket => exact .inl (congrArg System.cells answers.2)

theorem of_getElem?_concat {tasks : List Task} {last task : Task} {number : Nat}
    (here : (tasks ++ [last])[number]? = some task) :
    tasks[number]? = some task ∨ tasks[number]? = none ∧ task = last := by
  rw [List.getElem?_append] at here
  split at here
  · exact .inl here
  · refine .inr ⟨List.getElem?_eq_none (by omega), ?_⟩
    rw [List.getElem?_singleton] at here
    split at here
    · exact (Option.some.inj here).symm
    · cases here

/-- Where the tasks of a system after a step come from: they were there and are left alone, they
went on by the exchange of the step, or they are new. -/
theorem Step.task {event : Event} (step : Step calls s event t) {number : Nat} {task : Task}
    (here : t.tasks[number]? = some task) :
    (s.tasks[number]? = some task ∧ history number [event] = []) ∨
      (∃ op next answer, s.tasks[number]? = some ⟨task.purpose, .ask op next⟩ ∧
        event = .act number ⟨op, answer⟩ ∧ task.work = next answer) ∨
      (s.tasks[number]? = none ∧ task.work = task.purpose.work ∧
        history number [event] = [] ∧
        ((∃ activity, calls activity ∧ task.purpose = .call activity) ∨
          ∃ job ticket, task.purpose = .background job ticket)) := by
  cases step with
  | @call activity admitted =>
      obtain hkept | ⟨hnone, rfl⟩ := of_getElem?_concat here
      · exact .inl ⟨hkept, rfl⟩
      · exact .inr (.inr ⟨hnone, rfl, rfl, .inl ⟨activity, admitted, rfl⟩⟩)
  | @act mid acting purpose op next answer found answers =>
      simp only [System.setTask] at here
      by_cases hsame : acting = number
      · subst hsame
        have hlt := answers.lt_length (List.getElem?_eq_some_iff.mp found).1
        rw [List.getElem?_set_self hlt] at here
        obtain rfl := Option.some.inj here
        exact .inr (.inl ⟨op, next, answer, found, rfl, rfl⟩)
      · rw [List.getElem?_set_ne hsame] at here
        have hquiet := history_act_of_ne hsame ⟨op, answer⟩
        obtain heq | ⟨job, heq⟩ := answers.tasks
        · exact .inl ⟨heq ▸ here, hquiet⟩
        · rw [heq] at here
          obtain hkept | ⟨hnone, rfl⟩ := of_getElem?_concat here
          · exact .inl ⟨hkept, hquiet⟩
          · exact .inr (.inr ⟨hnone, rfl, hquiet, .inr ⟨job, _, rfl⟩⟩)

theorem Step.purpose {event : Event} (step : Step calls s event t) {number : Nat} {task : Task}
    (here : s.tasks[number]? = some task) :
    ∃ work, t.tasks[number]? = some ⟨task.purpose, work⟩ := by
  cases step with
  | @call activity admitted =>
      have hlt : number < s.tasks.length := (List.getElem?_eq_some_iff.mp here).1
      exact ⟨task.work, by simp [System.begin, List.getElem?_append_left hlt, here]⟩
  | @act mid acting purpose op next answer found answers =>
      have hkept := answers.kept here
      simp only [System.setTask]
      by_cases hsame : acting = number
      · subst hsame
        have hmid := (List.getElem?_eq_some_iff.mp hkept).1
        obtain rfl : ⟨purpose, .ask op next⟩ = task := Option.some.inj (found.symm.trans here)
        exact ⟨next answer, List.getElem?_set_self hmid⟩
      · exact ⟨task.work, by rw [List.getElem?_set_ne hsame, hkept]⟩

/-- What a task was started for, for calls that are admitted and the jobs they start. -/
def Admitted (calls : Activity → Prop) : Purpose → Prop
  | .call activity => calls activity
  | .background _ _ => True

theorem Run.history_eq_nil (run : Run calls s events t) {number : Nat}
    (hnone : t.tasks[number]? = none) : history number events = [] := by
  refine run.induction (motive := fun events t =>
    t.tasks[number]? = none → history number events = []) (fun _ => rfl) ?_ hnone
  intro events mid event t _ ih step hnone
  have hbefore : mid.tasks[number]? = none := by
    cases hfound : mid.tasks[number]? with
    | none => rfl
    | some task =>
        obtain ⟨work, hwork⟩ := step.purpose hfound
        rw [hnone] at hwork
        cases hwork
  rw [history_append, ih hbefore, List.nil_append]
  cases step with
  | call admitted => rfl
  | act here answers =>
      refine history_act_of_ne ?_ _
      rintro rfl
      rw [hbefore] at here
      cases here

theorem Run.exists_task (run : Run calls s events t) {number : Nat} {exchange : Exchange}
    (hmem : .act number exchange ∈ events) : ∃ task, t.tasks[number]? = some task := by
  cases here : t.tasks[number]? with
  | some task => exact ⟨task, rfl⟩
  | none =>
      have hnone := run.history_eq_nil here
      rw [← mem_history, hnone] at hmem
      exact absurd hmem List.not_mem_nil

/-- The exchanges of a task are a path through the work it was started for, and nobody but the calls
that are admitted and their jobs has tasks. -/
theorem Run.leads (run : Run calls s events t) (fresh : s.tasks = []) :
    ∀ number task, t.tasks[number]? = some task →
      Work.Leads task.purpose.work (history number events) task.work ∧
        Admitted calls task.purpose := by
  refine run.induction (motive := fun events t => ∀ number task, t.tasks[number]? = some task →
    Work.Leads task.purpose.work (history number events) task.work ∧
      Admitted calls task.purpose) (by simp [fresh]) ?_
  intro events mid event t before ih step number task here
  rw [history_append]
  obtain ⟨hkept, hquiet⟩ | ⟨op, next, answer, hkept, rfl, hwork⟩ |
    ⟨hnone, hwork, hquiet, horigin⟩ := step.task here
  · rw [hquiet, List.append_nil]
    exact ih number task hkept
  · obtain ⟨leads, admitted⟩ := ih number _ hkept
    rw [history_act_self, hwork]
    exact ⟨leads.concat answer, admitted⟩
  · rw [before.history_eq_nil hnone, hquiet, hwork]
    refine ⟨.refl _, ?_⟩
    obtain ⟨activity, admitted, heq⟩ | ⟨job, ticket, heq⟩ := horigin <;> rw [heq]
    · exact admitted
    · exact trivial

/-- What a task exchanges in a run leads from the work that was left of it to what is left then. -/
theorem Run.leads_of_task (run : Run calls s events t) {number : Nat} {task : Task}
    (start : s.tasks[number]? = some task) :
    ∃ work, t.tasks[number]? = some ⟨task.purpose, work⟩ ∧
      Work.Leads task.work (history number events) work := by
  refine run.induction (motive := fun events t =>
    ∃ work, t.tasks[number]? = some ⟨task.purpose, work⟩ ∧
      Work.Leads task.work (history number events) work) ⟨task.work, start, .refl _⟩ ?_
  rintro events mid event t - ⟨work, before, leads⟩ step
  obtain ⟨after, here⟩ := step.purpose before
  refine ⟨after, here, ?_⟩
  rw [history_append]
  obtain ⟨hkept, hquiet⟩ | ⟨op, next, answer, hkept, rfl, rfl⟩ | ⟨hnone, -⟩ := step.task here
  · obtain ⟨-, rfl⟩ := Task.mk.inj (Option.some.inj (hkept.symm.trans before))
    rwa [hquiet, List.append_nil]
  · obtain ⟨-, rfl⟩ := Task.mk.inj (Option.some.inj (hkept.symm.trans before))
    rw [history_act_self]
    exact leads.concat answer
  · rw [hnone] at before
    cases before

theorem Run.called (run : Run calls s events t) {activity : Activity}
    (hmem : .call activity ∈ events) :
    ∃ (number : Nat) (work : Work Reply), t.tasks[number]? = some ⟨.call activity, work⟩ := by
  refine run.induction (motive := fun events t => .call activity ∈ events →
    ∃ (number : Nat) (work : Work Reply), t.tasks[number]? = some ⟨.call activity, work⟩)
    nofun ?_ hmem
  intro events mid event t _ ih step hmem
  obtain hbefore | hlast := List.mem_append.mp hmem
  · obtain ⟨number, work, here⟩ := ih hbefore
    obtain ⟨after, hafter⟩ := step.purpose here
    exact ⟨number, after, hafter⟩
  · obtain rfl := List.mem_singleton.mp hlast
    cases step with
    | call admitted =>
        exact ⟨mid.tasks.length, _, by simp [System.begin, Purpose.task]; rfl⟩

/-! ### One task after the other -/

/-- The exchanges can be had in this order, whoever asks. -/
def System.Grants : System → List Exchange → System → Prop
  | s, [], t => s = t
  | s, exchange :: rest, t =>
    ∃ mid, s.Answers exchange.op exchange.answer mid ∧ mid.Grants rest t

/-- What is left of a task has no part in what an operation is answered. -/
theorem System.Answers.setTask {op : Op} {answer : op.Answer} (answers : s.Answers op answer t)
    {number : Nat} (hlt : number < s.tasks.length) (task : Task) :
    (s.setTask number task).Answers op answer (t.setTask number task) := by
  cases op with
  | storage call =>
      obtain ⟨failure, hfailed, rfl⟩ | ⟨now, hclock, hanswer, rfl⟩ := answers
      · exact .inl ⟨failure, hfailed, rfl⟩
      · exact .inr ⟨now, hclock, hanswer, rfl⟩
  | fetch request => exact congrArg (·.setTask number task) answers
  | lifecycle agent step =>
      obtain ⟨hanswer, rfl⟩ := answers
      exact ⟨hanswer, rfl⟩
  | start job =>
      obtain ⟨hticket, rfl⟩ := answers
      refine ⟨hticket, ?_⟩
      simp only [System.setTask, List.set_append, if_pos hlt]
  | report channel ticket outcome => exact congrArg (·.setTask number task) answers
  | await channel ticket =>
      obtain ⟨hposted, rfl⟩ := answers
      exact ⟨hposted, rfl⟩

theorem System.Grants.setTask {history : List Exchange} (grants : s.Grants history t) {number : Nat}
    (hlt : number < s.tasks.length) (task : Task) :
    (s.setTask number task).Grants history (t.setTask number task) := by
  induction history generalizing s with
  | nil => exact congrArg (·.setTask number task) grants
  | cons exchange history ih =>
      obtain ⟨mid, answers, rest⟩ := grants
      exact ⟨_, answers.setTask hlt task, ih rest (answers.lt_length hlt)⟩

/-- A task that asks for what is granted goes on in a run. -/
theorem Run.of_leads {number : Nat} {purpose : Purpose} {work left : Work Reply}
    {history : List Exchange} (leads : Work.Leads work history left)
    (here : s.tasks[number]? = some ⟨purpose, work⟩) (grants : s.Grants history t) :
    Run calls s (history.map (.act number)) (t.setTask number ⟨purpose, left⟩) := by
  induction leads generalizing s t with
  | refl work =>
      obtain rfl := grants
      obtain ⟨hlt, hget⟩ := List.getElem?_eq_some_iff.mp here
      change s = { s with tasks := s.tasks.set number ⟨purpose, work⟩ }
      rw [← hget, List.set_getElem_self]
  | @step op next answer history left rest ih =>
      obtain ⟨mid, answers, later⟩ := grants
      have hlt := answers.lt_length (List.getElem?_eq_some_iff.mp here).1
      have hnext := ih (List.getElem?_set_self hlt) (later.setTask hlt ⟨purpose, next answer⟩)
      refine ⟨_, .act here answers, ?_⟩
      simpa only [System.setTask, List.set_set] using hnext

end Interleaving

end OfflineAgent
