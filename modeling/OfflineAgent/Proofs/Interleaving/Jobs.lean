import OfflineAgent.Proofs.Agent.Operations
import OfflineAgent.Proofs.Interleaving.System

/-!
# Jobs and their tickets

What a run leaves can be read off its events: the tasks are the calls that began and the jobs that
were started, and what is posted is what was reported. No two jobs have the same ticket, so whoever
awaits one is told what the job with that ticket reported.
-/

namespace OfflineAgent

/-! ### What a job does -/

namespace Job

def store : Job → String
  | revalidate store _ | precache store _ => store

def request : Job → Request
  | revalidate _ request | precache _ request => request

/-- A job fetches its request, reports under its ticket, and writes to its store. -/
theorem asks_work {allowed : Op → Prop} {job : Job} {ticket : Ticket}
    (hfetch : allowed (.fetch job.request))
    (hreport : ∀ channel outcome, allowed (.report channel ticket outcome))
    (hput : ∀ response, (Store.Key.ofRequest job.request).isStorable → response.isComplete →
      allowed (.storage (.put job.store (.ofRequest job.request) response))) :
    (job.work ticket).Asks allowed := by
  cases job with
  | revalidate store request => exact asks_revalidate hfetch (hreport _) hput
  | precache store request => exact asks_precache hfetch (hreport _) hput

end Job

/-- A job starts no other, and reports under its own ticket. -/
def Op.UnderTicket (ticket : Ticket) : Op → Prop
  | .start _ => False
  | .report _ number _ => number = ticket
  | _ => True

namespace Exchange

def started? : Exchange → Option (Job × Ticket)
  | ⟨.start job, ticket⟩ => some (job, ticket)
  | _ => none

def ticket? (exchange : Exchange) : Option Ticket :=
  exchange.started?.map Prod.snd

def posted? : Exchange → Option Simulation.Posted
  | ⟨.report channel ticket outcome, _⟩ => some ⟨channel, ticket, outcome⟩
  | _ => none

theorem started?_eq_some {exchange : Exchange} {job : Job} {ticket : Ticket}
    (hstarted : exchange.started? = some (job, ticket)) : exchange = ⟨.start job, ticket⟩ := by
  obtain ⟨op, answer⟩ := exchange
  cases op with
  | start other =>
      obtain ⟨rfl, rfl⟩ := Prod.mk.inj (Option.some.inj hstarted)
      rfl
  | _ => cases hstarted

theorem posted?_eq_some {exchange : Exchange} {channel : Channel} {ticket : Ticket}
    {outcome : channel.Outcome} (hposted : exchange.posted? = some ⟨channel, ticket, outcome⟩) :
    exchange = ⟨.report channel ticket outcome, ()⟩ := by
  obtain ⟨op, answer⟩ := exchange
  cases op with
  | report found number told =>
      obtain ⟨rfl, rfl, hsame⟩ := Simulation.Posted.mk.inj (Option.some.inj hposted)
      obtain rfl := eq_of_heq hsame
      rfl
  | _ => cases hposted

end Exchange

namespace Interleaving

open Simulation

variable {calls : Activity → Prop} {s t : System} {events : List Event}

/-! ### The course of a job -/

namespace Purpose

variable {store : String} {request : Request} {ticket : Ticket}

theorem leads_revalidate (hkey : (Store.Key.ofRequest request).isStorable)
    (got : Except FetchFailure Response) (kept : Except Store.Failure Unit) :
    Work.Leads (background (.revalidate store request) ticket).work
      (Job.refreshing store request ticket got kept) (.done .ok) :=
  (Job.leads_revalidate hkey got kept).bind_of_done _

theorem leads_precache (hkey : (Store.Key.ofRequest request).isStorable)
    (got : Except FetchFailure Response) (kept : Except Store.Failure Unit) :
    Work.Leads (background (.precache store request) ticket).work
      (Precache.course store request ticket got kept) (.done .ok) :=
  (Job.leads_precache hkey got kept).bind_of_done _

end Purpose

/-! ### Tasks and tickets -/

def Event.purpose? : Event → Option Purpose
  | .call activity => some (.call activity)
  | .act _ exchange => exchange.started?.map fun (job, ticket) => .background job ticket

def Event.posted? : Event → Option Posted
  | .call _ => none
  | .act _ exchange => exchange.posted?

def Purpose.ticket? : Purpose → Option Ticket
  | .call _ => none
  | .background _ ticket => some ticket

def System.purposes (s : System) : List Purpose :=
  s.tasks.map (·.purpose)

/-- The jobs have had the tickets from zero on. -/
def System.Numbered (s : System) : Prop :=
  s.purposes.filterMap Purpose.ticket? = List.range s.nextTicket

/-- The task is the call itself, or a job that the call has started. -/
def WorksFor (events : List Event) (t : System) (caller acting : Nat) : Prop :=
  acting = caller ∨ ∃ job ticket work, .act caller ⟨.start job, ticket⟩ ∈ events ∧
    t.tasks[acting]? = some ⟨.background job ticket, work⟩

/-! ### What a step adds -/

/-- An operation starts a job, or it adds no task and gives away no ticket. -/
theorem System.Answers.started {op : Op} {answer : op.Answer} (answers : s.Answers op answer t) :
    (Exchange.started? ⟨op, answer⟩ = none ∧ t.tasks = s.tasks ∧ t.nextTicket = s.nextTicket) ∨
      ∃ job, Exchange.started? ⟨op, answer⟩ = some (job, s.nextTicket) ∧
        t.tasks = s.tasks ++ [(Purpose.background job s.nextTicket).task] ∧
        t.nextTicket = s.nextTicket + 1 := by
  cases op with
  | storage call =>
      obtain ⟨-, -, rfl⟩ | ⟨now, -, -, rfl⟩ := answers <;> exact .inl ⟨rfl, rfl, rfl⟩
  | fetch request =>
      obtain rfl := answers
      exact .inl ⟨rfl, rfl, rfl⟩
  | lifecycle agent step =>
      obtain ⟨-, rfl⟩ := answers
      exact .inl ⟨rfl, rfl, rfl⟩
  | start job =>
      obtain ⟨rfl, rfl⟩ := answers
      exact .inr ⟨job, rfl, rfl, rfl⟩
  | report channel ticket outcome =>
      obtain rfl := answers
      exact .inl ⟨rfl, rfl, rfl⟩
  | await channel ticket =>
      obtain ⟨-, rfl⟩ := answers
      exact .inl ⟨rfl, rfl, rfl⟩

theorem System.Answers.posted {op : Op} {answer : op.Answer} (answers : s.Answers op answer t) :
    t.posted = s.posted ++ (Exchange.posted? ⟨op, answer⟩).toList := by
  have hquiet (hsame : t.posted = s.posted) : t.posted = s.posted ++ [] := by
    rw [hsame, List.append_nil]
  cases op with
  | storage call =>
      obtain ⟨-, -, rfl⟩ | ⟨now, -, -, rfl⟩ := answers <;> exact hquiet rfl
  | fetch request => exact hquiet (congrArg System.posted answers)
  | lifecycle agent step =>
      obtain ⟨-, rfl⟩ := answers
      exact hquiet rfl
  | start job =>
      obtain ⟨-, rfl⟩ := answers
      exact hquiet rfl
  | report channel ticket outcome => exact congrArg System.posted answers
  | await channel ticket => exact hquiet (congrArg System.posted answers.2)

theorem System.purposes_setTask {number : Nat} {purpose : Purpose} {work next : Work Reply}
    (here : s.tasks[number]? = some ⟨purpose, work⟩) :
    (s.setTask number ⟨purpose, next⟩).purposes = s.purposes := by
  obtain ⟨hlt, hget⟩ := List.getElem?_eq_some_iff.mp here
  have hlength : number < (s.tasks.map (·.purpose)).length := by simpa using hlt
  have hpurpose : (s.tasks.map (·.purpose))[number] = purpose := by simp [hget]
  unfold System.purposes System.setTask
  rw [List.map_set, ← hpurpose, List.set_getElem_self]

/-- A step adds the task that its event begins, and gives it the next ticket if it is a job. -/
theorem Step.purposes {event : Event} (step : Step calls s event t) :
    t.purposes = s.purposes ++ event.purpose?.toList ∧ (s.Numbered → t.Numbered) := by
  cases step with
  | call admitted =>
      have hpurposes {activity : Activity} :
          (s.begin activity).purposes = s.purposes ++ [.call activity] := List.map_append
      refine ⟨hpurposes, fun numbered => ?_⟩
      unfold System.Numbered
      rw [hpurposes, List.filterMap_append, numbered]
      exact List.append_nil _
  | @act mid number purpose op next answer here answers =>
      unfold System.Numbered
      rw [System.purposes_setTask (answers.kept here)]
      obtain ⟨hnone, htasks, hticket⟩ | ⟨job, hsome, htasks, hticket⟩ := answers.started
      · have hpurposes : mid.purposes = s.purposes := by
          rw [System.purposes, htasks]
          rfl
        rw [hpurposes, Event.purpose?, hnone]
        refine ⟨(List.append_nil _).symm, fun numbered => ?_⟩
        rw [numbered]
        exact congrArg List.range hticket.symm
      · have hpurposes : mid.purposes = s.purposes ++ [.background job s.nextTicket] := by
          rw [System.purposes, htasks, List.map_append]
          rfl
        rw [hpurposes, Event.purpose?, hsome]
        refine ⟨rfl, fun numbered => ?_⟩
        have hnext : (mid.setTask number ⟨purpose, next answer⟩).nextTicket = s.nextTicket + 1 :=
          hticket
        rw [List.filterMap_append, numbered, hnext, List.range_succ]
        rfl

/-- A new task is for what the event of the step begins. -/
theorem Step.purpose?_of_new {event : Event} (step : Step calls s event t) {number : Nat}
    {task : Task} (hnone : s.tasks[number]? = none) (here : t.tasks[number]? = some task) :
    event.purpose? = some task.purpose := by
  have hlength : s.purposes.length ≤ number := by
    simpa [System.purposes] using List.getElem?_eq_none_iff.mp hnone
  have hlast : t.purposes[number]? = some task.purpose := by
    simp [System.purposes, here]
  rw [step.purposes.1, List.getElem?_append_right hlength] at hlast
  simpa using List.mem_of_getElem? hlast

theorem Event.starts_of_purpose? {event : Event} {job : Job} {ticket : Ticket}
    (hpurpose : event.purpose? = some (.background job ticket)) :
    ∃ caller, event = .act caller ⟨.start job, ticket⟩ := by
  cases event with
  | call activity => cases hpurpose
  | act caller exchange =>
      obtain ⟨⟨found, given⟩, hstarted, hsame⟩ := Option.map_eq_some_iff.mp hpurpose
      obtain ⟨rfl, rfl⟩ := Purpose.background.inj hsame
      exact ⟨caller, congrArg (Event.act caller) (Exchange.started?_eq_some hstarted)⟩

theorem Step.posted {event : Event} (step : Step calls s event t) :
    t.posted = s.posted ++ event.posted?.toList := by
  cases step with
  | call admitted => exact (List.append_nil _).symm
  | act here answers => exact answers.posted

/-! ### What a run adds -/

theorem Run.purposes (run : Run calls s events t) :
    t.purposes = s.purposes ++ events.filterMap Event.purpose? := by
  refine run.induction (motive := fun events t =>
    t.purposes = s.purposes ++ events.filterMap Event.purpose?) (List.append_nil _).symm ?_
  intro events mid event t _ ih step
  rw [step.purposes.1, ih, List.filterMap_append, List.append_assoc]
  cases hpurpose : event.purpose? <;> simp [hpurpose]

theorem Run.purposes_of_fresh (run : Run calls s events t) (fresh : s.tasks = []) :
    t.purposes = events.filterMap Event.purpose? := by
  rw [run.purposes, System.purposes, fresh]
  rfl

theorem Run.posted (run : Run calls s events t) :
    t.posted = s.posted ++ events.filterMap Event.posted? := by
  refine run.induction (motive := fun events t =>
    t.posted = s.posted ++ events.filterMap Event.posted?) (List.append_nil _).symm ?_
  intro events mid event t _ ih step
  rw [step.posted, ih, List.filterMap_append, List.append_assoc]
  cases hposted : event.posted? <;> simp [hposted]

theorem Run.numbered (run : Run calls s events t) (numbered : s.Numbered) : t.Numbered :=
  run.induction (motive := fun _ t => t.Numbered) numbered
    fun _ _ _ _ _ before step => step.purposes.2 before

theorem System.Numbered.nodup (numbered : s.Numbered) :
    (s.purposes.filterMap Purpose.ticket?).Nodup :=
  numbered ▸ List.nodup_range

theorem numbered_new (agents : List Agent) (tables : Store.Tables) :
    (System.new agents tables).Numbered := rfl

/-- A task is told by what it is for, if what is read off that differs for all tasks. -/
theorem System.unique {β : Type} {f : Purpose → Option β}
    (distinct : (s.purposes.filterMap f).Nodup) {first second : Nat} {one other : Task} {value : β}
    (hfirst : s.tasks[first]? = some one) (hsecond : s.tasks[second]? = some other)
    (hone : f one.purpose = some value) (hother : f other.purpose = some value) :
    first = second := by
  have hdistinct := List.pairwise_filterMap.mp distinct
  have hnever {i j : Nat} {a b : Task} (hlt : i < j) (hi : s.tasks[i]? = some a)
      (hj : s.tasks[j]? = some b) (ha : f a.purpose = some value) (hb : f b.purpose = some value) :
      False := by
    obtain ⟨hilt, rfl⟩ := List.getElem?_eq_some_iff.mp hi
    obtain ⟨hjlt, rfl⟩ := List.getElem?_eq_some_iff.mp hj
    have hpair := List.pairwise_iff_getElem.mp hdistinct i j (by simpa [purposes] using hilt)
      (by simpa [purposes] using hjlt) hlt
    exact hpair value (by simpa [purposes] using ha) value (by simpa [purposes] using hb) rfl
  obtain hlt | hsame | hlt := Nat.lt_trichotomy first second
  · exact (hnever hlt hfirst hsecond hone hother).elim
  · exact hsame
  · exact (hnever hlt hsecond hfirst hother hone).elim

theorem System.Numbered.unique (numbered : s.Numbered) {first second : Nat} {one other : Task}
    {job held : Job} {ticket : Ticket} (hfirst : s.tasks[first]? = some one)
    (hsecond : s.tasks[second]? = some other) (hone : one.purpose = .background job ticket)
    (hother : other.purpose = .background held ticket) : first = second := by
  have hticket {task : Task} {running : Job}
      (hpurpose : task.purpose = .background running ticket) :
      task.purpose.ticket? = some ticket := by
    rw [hpurpose]
    rfl
  exact System.unique numbered.nodup hfirst hsecond (hticket hone) (hticket hother)

theorem Run.started (run : Run calls s events t) (fresh : s.tasks = []) {number : Nat} {job : Job}
    {ticket : Ticket} {work : Work Reply}
    (here : t.tasks[number]? = some ⟨.background job ticket, work⟩) :
    ∃ caller, .act caller ⟨.start job, ticket⟩ ∈ events := by
  have hmem : .background job ticket ∈ events.filterMap Event.purpose? := by
    rw [← run.purposes_of_fresh fresh]
    exact List.mem_map.mpr ⟨_, List.mem_of_getElem? here, rfl⟩
  obtain ⟨event, hevent, hpurpose⟩ := List.mem_filterMap.mp hmem
  obtain ⟨caller, rfl⟩ := Event.starts_of_purpose? hpurpose
  exact ⟨caller, hevent⟩

theorem Run.starts (run : Run calls s events t) {caller : Nat} {job : Job} {ticket : Ticket}
    (hmem : .act caller ⟨.start job, ticket⟩ ∈ events) :
    ∃ (number : Nat) (work : Work Reply),
      t.tasks[number]? = some ⟨.background job ticket, work⟩ := by
  have hpurpose : .background job ticket ∈ t.purposes := by
    rw [run.purposes]
    exact List.mem_append_right _ (List.mem_filterMap.mpr ⟨_, hmem, rfl⟩)
  obtain ⟨⟨purpose, work⟩, htask, hsame⟩ := List.mem_map.mp hpurpose
  obtain rfl : purpose = .background job ticket := hsame
  obtain ⟨number, here⟩ := List.getElem?_of_mem htask
  exact ⟨number, work, here⟩

theorem asks_underTicket (job : Job) (ticket : Ticket) :
    (Purpose.background job ticket).work.Asks (Op.UnderTicket ticket) :=
  (job.asks_work trivial (fun _ _ => rfl) fun _ _ _ => trivial).bind fun _ => trivial

theorem asks_unawaiting (job : Job) (ticket : Ticket) :
    (Purpose.background job ticket).work.Asks fun op =>
      ∀ channel number, op ≠ .await channel number :=
  (job.asks_work nofun (fun _ _ => nofun) fun _ _ _ => nofun).bind fun _ => trivial

theorem Run.call_of_started (run : Run calls s events t) (fresh : s.tasks = []) {caller : Nat}
    {job : Job} {ticket : Ticket} (hmem : .act caller ⟨.start job, ticket⟩ ∈ events) :
    ∃ activity work, t.tasks[caller]? = some ⟨.call activity, work⟩ := by
  obtain ⟨⟨purpose, work⟩, here⟩ := run.exists_task hmem
  cases purpose with
  | call activity => exact ⟨activity, work, here⟩
  | background running own =>
      obtain ⟨leads, -⟩ := run.leads fresh caller _ here
      exact (leads.asks (asks_underTicket running own) _ (mem_history.mpr hmem)).elim

/-! ### What is asked for -/

/-- If all calls ask only for what is allowed, and so do the jobs that may be started, nothing else
is done in a run. -/
theorem Run.asks {allowed : Op → Prop} (run : Run calls s events t) (fresh : s.tasks = [])
    (hcalls : ∀ activity, calls activity → activity.work.Asks allowed)
    (hjobs : ∀ job ticket, allowed (.start job) → (job.work ticket).Asks allowed) {number : Nat}
    {exchange : Exchange} (hmem : .act number exchange ∈ events) : allowed exchange.op := by
  refine (run.induction (motive := fun events t =>
    (∀ task ∈ t.tasks, task.work.Asks allowed) ∧
      ∀ number exchange, .act number exchange ∈ events → allowed exchange.op)
    ⟨by simp [fresh], fun _ _ hmem => absurd hmem List.not_mem_nil⟩ ?_).2 number exchange hmem
  rintro events mid event t - ⟨hwork, hdone⟩ step
  have hnow : ∀ number exchange, .act number exchange ∈ events ++ [event] →
      allowed exchange.op := by
    intro number exchange hmem
    obtain hbefore | hlast := List.mem_append.mp hmem
    · exact hdone number exchange hbefore
    · obtain rfl := List.mem_singleton.mp hlast
      cases step with
      | act here answers => exact (hwork _ (List.mem_of_getElem? here)).1
  refine ⟨fun task htask => ?_, hnow⟩
  obtain ⟨number, here⟩ := List.getElem?_of_mem htask
  obtain ⟨hkept, -⟩ | ⟨op, next, answer, hkept, -, hnext⟩ | ⟨hnone, hnew, -, horigin⟩ :=
    step.task here
  · exact hwork task (List.mem_of_getElem? hkept)
  · rw [hnext]
    exact (hwork _ (List.mem_of_getElem? hkept)).2 answer
  · rw [hnew]
    obtain ⟨activity, admitted, hpurpose⟩ | ⟨job, ticket, hpurpose⟩ := horigin
    · rw [hpurpose]
      exact hcalls activity admitted
    · obtain ⟨caller, rfl⟩ :=
        Event.starts_of_purpose? ((step.purpose?_of_new hnone here).trans (congrArg some hpurpose))
      have hallowed : allowed (.start job) := hnow caller _ List.mem_concat_self
      rw [hpurpose]
      exact (hjobs job ticket hallowed).bind fun _ => trivial

/-! ### How long a run is -/

def Event.actor? : Event → Option Nat
  | .call _ => none
  | .act number _ => some number

theorem count_actor (number : Nat) (events : List Event) :
    (events.filterMap Event.actor?).count number = (history number events).length := by
  induction events with
  | nil => rfl
  | cons event events ih =>
      rw [← List.singleton_append, history_append, List.filterMap_append, List.count_append,
        List.length_append, ih]
      cases event with
      | call activity => rfl
      | act acting exchange =>
          by_cases hsame : acting = number
          · subst hsame
            simp [Event.actor?]
          · simp [Event.actor?, hsame, history_act_of_ne hsame]

/-- Every event begins a task, or some task goes on. -/
theorem length_le_begun_add_acted (events : List Event) : events.length ≤
    (events.filterMap Event.purpose?).length + (events.filterMap Event.actor?).length := by
  induction events with
  | nil => rfl
  | cons event events ih =>
      have hbegun := ((List.sublist_cons_self event events).filterMap Event.purpose?).length_le
      have hacted := ((List.sublist_cons_self event events).filterMap Event.actor?).length_le
      cases event with
      | call activity =>
          have hone : ((Event.call activity :: events).filterMap Event.purpose?).length =
              (events.filterMap Event.purpose?).length + 1 := rfl
          rw [List.length_cons]
          omega
      | act acting exchange =>
          have hone : ((Event.act acting exchange :: events).filterMap Event.actor?).length =
              (events.filterMap Event.actor?).length + 1 := rfl
          rw [List.length_cons]
          omega

theorem Run.actor_lt_length (run : Run calls s events t) {number : Nat}
    (hmem : number ∈ events.filterMap Event.actor?) : number < t.tasks.length := by
  obtain ⟨event, hevent, hactor⟩ := List.mem_filterMap.mp hmem
  cases event with
  | call activity => cases hactor
  | act acting exchange =>
      obtain rfl := Option.some.inj hactor
      obtain ⟨task, here⟩ := run.exists_task hevent
      exact (List.getElem?_eq_some_iff.mp here).1

/-- The steps of all tasks are counted task by task. -/
theorem Run.length_actors_le (run : Run calls s events t) {limit : Nat}
    (hlimit : ∀ number, (history number events).length ≤ limit) :
    (events.filterMap Event.actor?).length ≤ t.tasks.length * limit := by
  have hsub : (events.filterMap Event.actor?).toFinset ⊆ Finset.range t.tasks.length :=
    fun number hmem => Finset.mem_range.mpr (run.actor_lt_length (List.mem_toFinset.mp hmem))
  calc (events.filterMap Event.actor?).length
      = ∑ number ∈ (events.filterMap Event.actor?).toFinset,
          (events.filterMap Event.actor?).count number :=
        (List.sum_toFinset_count_eq_length _).symm
    _ ≤ (events.filterMap Event.actor?).toFinset.card • limit :=
        Finset.sum_le_card_nsmul _ _ _ fun number _ => count_actor number events ▸ hlimit number
    _ ≤ t.tasks.length * limit := by
        have hcard := Finset.card_le_card hsub
        rw [Finset.card_range] at hcard
        exact Nat.mul_le_mul_right limit hcard

/-- A run is not long in which there are few tasks and each does little. -/
theorem Run.length_le (run : Run calls s events t) (fresh : s.tasks = []) {limit : Nat}
    (hlimit : ∀ number, (history number events).length ≤ limit) :
    events.length ≤ t.tasks.length * (limit + 1) := by
  have hbegun : (events.filterMap Event.purpose?).length = t.tasks.length := by
    rw [← run.purposes_of_fresh fresh, System.purposes, List.length_map]
  have hacted := run.length_actors_le hlimit
  have hevents := length_le_begun_add_acted events
  rw [Nat.mul_succ]
  omega

end Interleaving

end OfflineAgent
