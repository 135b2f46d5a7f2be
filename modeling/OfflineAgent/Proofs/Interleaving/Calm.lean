import OfflineAgent.Proofs.Interleaving.Awaiting
import OfflineAgent.Proofs.Interleaving.Stores

/-!
# Calm runs

Runs in which nothing is left to chance but the order: the network has one answer for every request,
and the stores do what they are asked. If only responses are put, into stores that are there, then
what is found under a hash stays what it was until somebody puts something under that very hash.
-/

namespace OfflineAgent

open Simulation
open Store (Key Tables)

/-- The operation neither adds nor removes a store, and leaves the life of every agent alone. -/
def Op.IsTame (tables : Tables) : Op → Prop
  | .storage (.put store _ _) => tables.isListed store
  | .storage (.openStore _) | .storage (.delete _) => False
  | .lifecycle _ step => step = .read
  | .start job => tables.isListed job.store
  | _ => True

namespace Interleaving

/-- In the step the network answers as it always does, and a call on the stores is done, with the
answer that they have for it. -/
def Calm (network : Request → Except FetchFailure Response) (s : System) (event : Event)
    (t : System) : Prop :=
  match event with
  | .act _ ⟨.fetch request, outcome⟩ => outcome = network request
  | .act _ ⟨.storage call, answer⟩ => ∃ now : Moment, now.IsClock ∧
      answer = (call.run now s.tables).1 ∧ t.tables = (call.run now s.tables).2
  | _ => True

def CalmRun (calls : Activity → Prop) (network : Request → Except FetchFailure Response) :
    System → List Event → System → Prop
  | s, [], t => s = t
  | s, event :: events, t =>
    ∃ mid, Step calls s event mid ∧ Calm network s event mid ∧ CalmRun calls network mid events t

variable {calls : Activity → Prop} {network : Request → Except FetchFailure Response}
  {s t : System} {events : List Event}

/-! ### Runs in parts -/

theorem calmRun_iff :
    CalmRun calls network s events t ↔ RunOf calls (Calm network) s events t := by
  induction events generalizing s with
  | nil => rfl
  | cons event events ih => simp only [CalmRun, RunOf, ih]

theorem CalmRun.run (calm : CalmRun calls network s events t) : Run calls s events t :=
  (calmRun_iff.mp calm).run

theorem calmRun_append {first second : List Event} :
    CalmRun calls network s (first ++ second) t ↔
      ∃ mid, CalmRun calls network s first mid ∧ CalmRun calls network mid second t := by
  simp only [calmRun_iff]
  exact runOf_append

theorem CalmRun.append {mid : System} {first second : List Event}
    (lead : CalmRun calls network s first mid) (rest : CalmRun calls network mid second t) :
    CalmRun calls network s (first ++ second) t :=
  calmRun_append.mpr ⟨mid, lead, rest⟩

/-- What holds at the start and is kept by every calm step holds at the end. -/
theorem CalmRun.induction {motive : List Event → System → Prop}
    (calm : CalmRun calls network s events t) (start : motive [] s)
    (step : ∀ events mid event t, CalmRun calls network s events mid → motive events mid →
      Step calls mid event t → Calm network mid event t → motive (events ++ [event]) t) :
    motive events t :=
  (calmRun_iff.mp calm).induction start fun events mid event t before =>
    step events mid event t (calmRun_iff.mpr before)

theorem CalmRun.fetched (calm : CalmRun calls network s events t) {number : Nat}
    {request : Request} {outcome : Except FetchFailure Response}
    (hmem : .act number ⟨.fetch request, outcome⟩ ∈ events) : outcome = network request := by
  obtain ⟨before, after, rfl⟩ := List.append_of_mem hmem
  obtain ⟨_, -, _, -, hcalm, -⟩ := calmRun_append.mp calm
  exact hcalm

theorem CalmRun.answered {before after : List Event} {number : Nat} {call : Store.Call}
    {answer : Except Store.Failure call.Answer}
    (calm : CalmRun calls network s (before ++ .act number ⟨.storage call, answer⟩ :: after) t) :
    ∃ mid now, CalmRun calls network s before mid ∧ now.IsClock ∧
      answer = (call.run now mid.tables).1 := by
  obtain ⟨mid, lead, -, -, ⟨now, hclock, hanswer, -⟩, -⟩ := calmRun_append.mp calm
  exact ⟨mid, now, lead, hclock, hanswer⟩

theorem CalmRun.awaited (calm : CalmRun calls network s events t) (fresh : s.tasks = [])
    (posted : s.posted = []) (numbered : s.Numbered) {store : String} {request : Request}
    {ticket : Ticket} {caller number : Nat} {outcome : Except FetchFailure Response}
    (hstart : .act caller ⟨.start (.revalidate store request), ticket⟩ ∈ events)
    (hawait : .act number ⟨.await .revalidation ticket, outcome⟩ ∈ events) :
    outcome = network request := by
  obtain ⟨fetcher, -, -, -, hfetch⟩ :=
    calm.run.revalidated fresh posted numbered hstart hawait
  exact calm.fetched hfetch

/-! ### What is read -/

/-- If nobody changes the state of an agent, whoever reads it reads what it was at first. -/
theorem Run.reads (run : Run calls s events t)
    (tame : ∀ number exchange, .act number exchange ∈ events → exchange.op.IsTame s.tables) :
    t.cells = s.cells ∧ ∀ number agent state,
      .act number ⟨.lifecycle agent .read, state⟩ ∈ events → state = (s.cells agent).state := by
  refine run.induction (motive := fun events t =>
    (∀ number exchange, .act number exchange ∈ events → exchange.op.IsTame s.tables) →
      t.cells = s.cells ∧ ∀ number agent state,
        .act number ⟨.lifecycle agent .read, state⟩ ∈ events → state = (s.cells agent).state)
    (fun _ => ⟨rfl, fun _ _ _ hmem => absurd hmem List.not_mem_nil⟩) ?_ tame
  intro events mid event t _ ih step tame
  obtain ⟨hcells, hreads⟩ := ih fun number exchange hmem =>
    tame number exchange (List.mem_append_left _ hmem)
  refine ⟨?_, fun number agent state hmem => ?_⟩
  · rw [← hcells]
    cases step with
    | call admitted => rfl
    | @act next number purpose op rest answer here answers =>
        obtain hsame | ⟨owner, move, rfl, hmoved⟩ := answers.cells
        · exact hsame
        · obtain rfl : move = .read := tame number _ (List.mem_append_right _ List.mem_cons_self)
          exact hmoved.trans (Function.update_eq_self _ _)
  · obtain hbefore | hlast := List.mem_append.mp hmem
    · exact hreads number agent state hbefore
    · obtain rfl := List.mem_singleton.mp hlast
      cases step with
      | act here answers =>
          rw [← hcells]
          exact answers.1

/-! ### What is found -/

/-- What the tables hold for a store and a hash is what they held at first, or what was put there
last. -/
def Holds (s : System) (events : List Event) (t : System) (store hash : String) : Prop :=
  (t.tables.find? store hash = s.tables.find? store hash ∧
      ∀ number key response answer,
        .act number ⟨.storage (.put store key response), answer⟩ ∈ events → key.hash ≠ hash) ∨
    ∃ number key response answer now,
      .act number ⟨.storage (.put store key response), answer⟩ ∈ events ∧ key.hash = hash ∧
        now.IsClock ∧ t.tables.find? store hash = some (.encode store key response now)

theorem Calm.failsCleanly {event : Event} (hcalm : Calm network s event t) :
    FailsCleanly (fun _ => False) s event t := by
  rintro number call failure rfl
  obtain ⟨now, -, hanswer, htables⟩ := hcalm
  cases call with
  | openStore | put | delete => cases hanswer
  | get | matchAny | names => exact .inl htables

/-- In a calm run in which stores are neither added nor removed they stay the same stores. -/
theorem CalmRun.stores_eq (calm : CalmRun calls network s events t)
    (tame : ∀ number exchange, .act number exchange ∈ events → exchange.op.IsTame s.tables) :
    t.tables.stores = s.tables.stores := by
  refine calm.induction (motive := fun events t =>
    (∀ number exchange, .act number exchange ∈ events → exchange.op.IsTame s.tables) →
      t.tables.stores = s.tables.stores) (fun _ => rfl) ?_ tame
  intro events mid event t _ ih step _ tame
  have hstores := ih fun number exchange hmem =>
    tame number exchange (List.mem_append_left _ hmem)
  obtain hsame | ⟨number, call, answer, now, rfl, -, -, htables⟩ := step.tables
  · rw [hsame, hstores]
  · have htame := tame number _ (List.mem_append_right _ List.mem_cons_self)
    cases call with
    | put store key response =>
        have hlisted : mid.tables.isListed store = true := by
          rw [Tables.isListed, hstores]
          exact htame
        rw [htables]
        change (mid.tables.openStore store).stores = _
        rw [Tables.openStore, if_pos hlisted, hstores]
    | openStore | delete => exact htame.elim
    | get | matchAny | names => rw [htables]; exact hstores

theorem CalmRun.holds (calm : CalmRun calls network s events t)
    (tame : ∀ number exchange, .act number exchange ∈ events → exchange.op.IsTame s.tables) :
    t.tables.stores = s.tables.stores ∧ ∀ store hash, Holds s events t store hash := by
  refine ⟨calm.stores_eq tame, fun store hash => ?_⟩
  have clean := (calmRun_iff.mp calm).imp fun _ _ _ => Calm.failsCleanly
  obtain ⟨hsame, hnone⟩ | ⟨number, key, response, answer, now, hmem, hhash, -, hclock, hrow⟩ :=
    clean.stands (fun number answer hmem => tame number _ hmem) hash
  · refine .inl ⟨hsame, fun number key response answer hmem => ?_⟩
    obtain ⟨before, after, rfl⟩ := List.append_of_mem hmem
    obtain ⟨mid, now, -, -, rfl⟩ := calm.answered
    exact hnone number key response hmem
  · exact .inr ⟨number, key, response, answer, now, hmem, hhash, hclock, hrow⟩

/-- What is found under a hash is what was found at first, if nothing was put under it. -/
theorem CalmRun.find?_eq (calm : CalmRun calls network s events t)
    (tame : ∀ number exchange, .act number exchange ∈ events → exchange.op.IsTame s.tables)
    {hash : String} (hnone : ∀ number store key response answer,
      .act number ⟨.storage (.put store key response), answer⟩ ∈ events → key.hash ≠ hash)
    (store : String) : t.tables.find? store hash = s.tables.find? store hash := by
  obtain ⟨hsame, -⟩ | ⟨number, key, response, answer, now, hmem, hhash, -⟩ :=
    (calm.holds tame).2 store hash
  · exact hsame
  · exact absurd hhash (hnone number store key response answer hmem)

theorem CalmRun.get_eq (calm : CalmRun calls network s events t)
    (tame : ∀ number exchange, .act number exchange ∈ events → exchange.op.IsTame s.tables)
    {key : Key} (hnone : ∀ number store other response answer,
      .act number ⟨.storage (.put store other response), answer⟩ ∈ events → other.hash ≠ key.hash)
    (store : String) : t.tables.get store key = s.tables.get store key := by
  rw [Tables.get, calm.find?_eq tame hnone store, Tables.get]

theorem CalmRun.matchAny_eq (calm : CalmRun calls network s events t)
    (tame : ∀ number exchange, .act number exchange ∈ events → exchange.op.IsTame s.tables)
    {key : Key} (hnone : ∀ number store other response answer,
      .act number ⟨.storage (.put store other response), answer⟩ ∈ events →
        other.hash ≠ key.hash) :
    t.tables.matchAny key = s.tables.matchAny key := by
  have hnames : t.tables.names = s.tables.names := by
    rw [Tables.names, Tables.ordered, calm.stores_eq tame]
    rfl
  rw [Tables.matchAny, Tables.findAny?, hnames, funext (calm.find?_eq tame hnone)]
  rfl

/-! ### Going on -/

/-- Every operation can be answered calmly, unless it awaits what is not reported yet. -/
theorem exists_calm {number : Nat} {purpose : Purpose} {op : Op} {next : op.Answer → Work Reply}
    (here : s.tasks[number]? = some ⟨purpose, .ask op next⟩)
    (hposted : ∀ channel ticket, op = .await channel ticket →
      ∃ outcome : channel.Outcome, ⟨channel, ticket, outcome⟩ ∈ s.posted) :
    ∃ exchange t, Step calls s (.act number exchange) t ∧
      Calm network s (.act number exchange) t := by
  cases op with
  | storage call =>
      exact ⟨_, _, .act here (.performed Moment.isClock_noon rfl), .noon, Moment.isClock_noon, rfl,
        rfl⟩
  | fetch request => exact ⟨⟨.fetch request, network request⟩, _, .act here rfl, rfl⟩
  | _ =>
      obtain ⟨answer, t, answers⟩ := s.exists_answers _ hposted
      exact ⟨_, _, .act here answers, trivial⟩

end Interleaving

end OfflineAgent
