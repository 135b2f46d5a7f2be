import OfflineAgent.Proofs.Agent.Activities

/-!
# What is awaited

Only jobs report, each under its own ticket. So whoever awaits a revalidation is told what the
network answered that very revalidation, and never waits in vain: as long as it has not reported,
the revalidation can go on.
-/

namespace OfflineAgent

def Op.IsReport : Op → Prop
  | .report _ _ _ => True
  | _ => False

theorem Op.IsQuiet.not_isReport {op : Op} (quiet : op.IsQuiet) : ¬op.IsReport := by
  cases op with
  | report channel ticket outcome => exact quiet.elim
  | _ => exact not_false

theorem silent_activity (activity : Simulation.Activity) :
    activity.work.Asks fun op => ¬op.IsReport := by
  have permits : Permits (fun _ => True) fun op => ¬op.IsReport :=
    ⟨fun _ => Op.IsQuiet.not_isReport, fun _ => not_false, fun _ _ _ _ _ _ => not_false,
      fun _ _ => not_false⟩
  refine permits.activity ⟨fun _ _ _ _ _ => trivial, fun _ _ => trivial, ?_⟩
  split <;> exact trivial

/-- The exchange is the write that a revalidation ends with. -/
def Exchange.Keeps (store : String) (request : Request) (exchange : Exchange) : Prop :=
  ∃ response, exchange.op = .storage (.put store (.ofRequest request) response)

namespace Interleaving

open Simulation

variable {calls : Activity → Prop} {s t : System} {events : List Event} {store : String}
  {request : Request} {ticket : Ticket}

/-! ### Revalidations -/

/-- A revalidation fetches its request and then reports what it got, before it writes anything. -/
theorem leads_revalidation {history : List Exchange} {left : Work Reply}
    (leads : Work.Leads (Purpose.background (.revalidate store request) ticket).work history
      left) :
    (history = [] ∧ ∃ next, left = .ask (.fetch request) next) ∨
      ∃ outcome, (history = [⟨.fetch request, outcome⟩] ∧
          ∃ next, left = .ask (.report .revalidation ticket outcome) next) ∨
        ∃ rest, history =
            ⟨.fetch request, outcome⟩ :: ⟨.report .revalidation ticket outcome, ()⟩ :: rest ∧
          ∀ exchange ∈ rest, exchange.Keeps store request := by
  obtain ⟨rfl, rfl⟩ | ⟨outcome, rest, rfl, hrest⟩ := Work.leads_ask_iff.mp leads
  · exact .inl ⟨rfl, _, rfl⟩
  refine .inr ⟨outcome, ?_⟩
  cases outcome with
  | error failure =>
      obtain ⟨rfl, rfl⟩ | ⟨_, later, rfl, hlater⟩ := Work.leads_ask_iff.mp hrest
      · exact .inl ⟨rfl, _, rfl⟩
      · obtain ⟨rfl, -⟩ := Work.leads_done_iff.mp hlater
        exact .inr ⟨[], rfl, fun _ hmem => absurd hmem List.not_mem_nil⟩
  | ok response =>
      obtain ⟨rfl, rfl⟩ | ⟨_, later, rfl, hlater⟩ := Work.leads_ask_iff.mp hrest
      · exact .inl ⟨rfl, _, rfl⟩
      · have hkeep : (Stores.keep store (.ofRequest request) response >>= fun _ =>
            Work.done Reply.ok).Asks fun op =>
              ∃ response, op = .storage (.put store (.ofRequest request) response) :=
          (Stores.asks_keep fun _ _ => ⟨response, rfl⟩).bind fun _ => trivial
        exact .inr ⟨later, rfl, Work.Leads.asks hlater hkeep⟩

/-! ### Whoever reports -/

/-- What is reported under a ticket is reported by the job with that ticket. -/
theorem Run.reporter (run : Run calls s events t) (fresh : s.tasks = []) {number : Nat}
    {channel : Channel} {ticket : Ticket} {outcome : channel.Outcome}
    (hmem : .act number ⟨.report channel ticket outcome, ()⟩ ∈ events) :
    ∃ job work, t.tasks[number]? = some ⟨.background job ticket, work⟩ := by
  obtain ⟨⟨purpose, work⟩, here⟩ := run.exists_task hmem
  obtain ⟨leads, -⟩ := run.leads fresh number _ here
  cases purpose with
  | call activity =>
      have hsilent := leads.asks (silent_activity activity) _ (mem_history.mpr hmem)
      exact absurd trivial hsilent
  | background job own =>
      obtain rfl : ticket = own :=
        leads.asks (asks_underTicket job own) _ (mem_history.mpr hmem)
      exact ⟨job, work, here⟩

/-! ### Whoever awaits -/

theorem outcome?_eq_some {posted : Posted} {channel : Channel} {ticket : Ticket}
    {outcome : channel.Outcome} :
    World.Posted.outcome? posted channel ticket = some outcome ↔
      posted = ⟨channel, ticket, outcome⟩ := by
  obtain ⟨found, number, told⟩ := posted
  unfold World.Posted.outcome?
  constructor
  · intro hposted
    obtain ⟨rfl, hsame⟩ := Option.ite_none_right_eq_some.mp hposted
    cases channel <;> cases found <;> simp_all
  · intro hposted
    obtain ⟨rfl, rfl, hsame⟩ := Posted.mk.inj hposted
    obtain rfl := eq_of_heq hsame
    cases found <;> simp

theorem Run.reported (run : Run calls s events t) (fresh : s.posted = []) {number : Nat}
    {channel : Channel} {ticket : Ticket} {outcome : channel.Outcome}
    (hmem : .act number ⟨.await channel ticket, outcome⟩ ∈ events) :
    ∃ reporter, .act reporter ⟨.report channel ticket outcome, ()⟩ ∈ events := by
  obtain ⟨before, after, rfl⟩ := List.append_of_mem hmem
  obtain ⟨mid, lead, next, step, -⟩ := run_append.mp run
  have hposted : mid.posted.findSome? (World.Posted.outcome? · channel ticket) = some outcome := by
    cases step with
    | act here answers => exact answers.1
  obtain ⟨posted, hin, hsame⟩ := List.exists_of_findSome?_eq_some hposted
  obtain rfl := outcome?_eq_some.mp hsame
  rw [lead.posted, fresh, List.nil_append] at hin
  obtain ⟨event, hevent, hevented⟩ := List.mem_filterMap.mp hin
  cases event with
  | call activity => cases hevented
  | act reporter exchange =>
      refine ⟨reporter, List.mem_append_left _ ?_⟩
      rwa [← Exchange.posted?_eq_some hevented]

theorem Run.told_by_job (run : Run calls s events t) (fresh : s.tasks = []) (posted : s.posted = [])
    (numbered : s.Numbered) {job : Job} {number acting : Nat} {work : Work Reply}
    {channel : Channel} {outcome : channel.Outcome}
    (here : t.tasks[number]? = some ⟨.background job ticket, work⟩)
    (hawait : .act acting ⟨.await channel ticket, outcome⟩ ∈ events) :
    ⟨.report channel ticket outcome, ()⟩ ∈ history number events := by
  obtain ⟨reporter, hreport⟩ := run.reported posted hawait
  obtain ⟨reporting, left, hthere⟩ := run.reporter fresh hreport
  obtain rfl := (run.numbered numbered).unique hthere here rfl rfl
  exact mem_history.mpr hreport

def Task.Revalidates (store : String) (request : Request) (task : Task) : Prop :=
  ∃ ticket, task.purpose = .background (.revalidate store request) ticket

/-- A revalidation reports what the network answered it, and reports once. -/
theorem Run.fetched_of_reported (run : Run calls s events t) (fresh : s.tasks = []) {number : Nat}
    {work : Work Reply} {outcome : Except FetchFailure Response}
    (here : t.tasks[number]? = some ⟨.background (.revalidate store request) ticket, work⟩)
    (hreport : ⟨.report .revalidation ticket outcome, ()⟩ ∈ history number events) :
    ∃ rest, history number events =
        ⟨.fetch request, outcome⟩ :: ⟨.report .revalidation ticket outcome, ()⟩ :: rest ∧
      ∀ exchange ∈ rest, exchange.Keeps store request := by
  obtain ⟨leads, -⟩ := run.leads fresh number _ here
  obtain ⟨hnone, -⟩ | ⟨told, ⟨hone, -⟩ | ⟨rest, hall, hrest⟩⟩ := leads_revalidation leads
  · rw [hnone] at hreport
    exact absurd hreport List.not_mem_nil
  · rw [hone] at hreport
    simp at hreport
  · rw [hall] at hreport
    obtain hfetch | hlater := List.mem_cons.mp hreport
    · cases hfetch
    obtain hreported | hlater := List.mem_cons.mp hlater
    · obtain rfl : outcome = told := by simpa using (Exchange.mk.inj hreported).1
      exact ⟨rest, hall, hrest⟩
    · obtain ⟨response, hput⟩ := hrest _ hlater
      cases hput

theorem Run.revalidated (run : Run calls s events t) (fresh : s.tasks = []) (posted : s.posted = [])
    (numbered : s.Numbered) {caller number : Nat} {outcome : Except FetchFailure Response}
    (hstart : .act caller ⟨.start (.revalidate store request), ticket⟩ ∈ events)
    (hawait : .act number ⟨.await .revalidation ticket, outcome⟩ ∈ events) :
    ∃ fetcher task, t.tasks[fetcher]? = some task ∧ task.Revalidates store request ∧
      .act fetcher ⟨.fetch request, outcome⟩ ∈ events := by
  obtain ⟨fetcher, work, here⟩ := run.starts hstart
  have hreport := run.told_by_job fresh posted numbered here hawait
  obtain ⟨rest, hall, -⟩ := run.fetched_of_reported fresh here hreport
  refine ⟨fetcher, _, here, ⟨ticket, rfl⟩, ?_⟩
  rw [← mem_history, hall]
  exact List.mem_cons_self

/-! ### Going on -/

def GoesOn (calls : Activity → Prop) (t : System) (number : Nat) : Prop :=
  ∃ exchange u, Step calls t (.act number exchange) u

/-- Every operation can be answered, unless it awaits what is not reported yet. -/
theorem System.exists_answers (s : System) (op : Op)
    (hposted : ∀ channel ticket, op = .await channel ticket →
      ∃ outcome : channel.Outcome, ⟨channel, ticket, outcome⟩ ∈ s.posted) :
    ∃ answer t, s.Answers op answer t := by
  cases op with
  | storage call => exact ⟨.error .unavailable, s, .inl ⟨_, rfl, rfl⟩⟩
  | fetch request => exact ⟨.error (.noResponse request.url ""), s, rfl⟩
  | lifecycle agent step => exact ⟨_, _, rfl, rfl⟩
  | start job => exact ⟨_, _, rfl, rfl⟩
  | report channel ticket outcome => exact ⟨(), _, rfl⟩
  | await channel ticket =>
      obtain ⟨outcome, hmem⟩ := hposted channel ticket rfl
      have hsome : (s.posted.findSome? (World.Posted.outcome? · channel ticket)).isSome := by
        rw [List.findSome?_isSome_iff]
        exact ⟨_, hmem, by rw [outcome?_eq_some.mpr rfl]; rfl⟩
      obtain ⟨told, htold⟩ := Option.isSome_iff_exists.mp hsome
      exact ⟨told, s, htold, rfl⟩

/-- A task that has something left to ask for can go on, unless it awaits what is not reported. -/
theorem System.goesOn {number : Nat} {purpose : Purpose} {op : Op}
    {next : op.Answer → Work Reply} (here : s.tasks[number]? = some ⟨purpose, .ask op next⟩)
    (hposted : ∀ channel ticket, op = .await channel ticket →
      ∃ outcome : channel.Outcome, ⟨channel, ticket, outcome⟩ ∈ s.posted) :
    GoesOn calls s number := by
  obtain ⟨answer, t, answers⟩ := s.exists_answers op hposted
  exact ⟨_, _, .act here answers⟩

/-- A revalidation that was started has reported, or it can go on and soon will have. -/
theorem Run.revalidation_reports (run : Run calls s events t) (fresh : s.tasks = [])
    {caller : Nat}
    (hstart : .act caller ⟨.start (.revalidate store request), ticket⟩ ∈ events) :
    (∃ outcome : Channel.revalidation.Outcome, ⟨.revalidation, ticket, outcome⟩ ∈ t.posted) ∨
      ∃ (number : Nat) (work : Work Reply),
        t.tasks[number]? = some ⟨.background (.revalidate store request) ticket, work⟩ ∧
          (history number events).length < 2 ∧ GoesOn calls t number := by
  obtain ⟨number, work, here⟩ := run.starts hstart
  obtain ⟨leads, -⟩ := run.leads fresh number _ here
  have hgo (hlength : (history number events).length < 2)
      (hwork : ∃ op next, work = .ask op next ∧ ∀ channel ticket, op ≠ .await channel ticket) :
      ∃ (number : Nat) (work : Work Reply),
        t.tasks[number]? = some ⟨.background (.revalidate store request) ticket, work⟩ ∧
          (history number events).length < 2 ∧ GoesOn calls t number := by
    obtain ⟨op, next, rfl, hop⟩ := hwork
    exact ⟨number, _, here, hlength,
      System.goesOn here fun channel ticket hsame => absurd hsame (hop channel ticket)⟩
  obtain ⟨hnone, next, hfetch⟩ | ⟨outcome, ⟨hone, next, hreport⟩ | ⟨rest, hall, -⟩⟩ :=
    leads_revalidation leads
  · exact .inr (hgo (by simp [hnone]) ⟨_, _, hfetch, nofun⟩)
  · exact .inr (hgo (by simp [hone]) ⟨_, _, hreport, nofun⟩)
  · have hmem : .act number ⟨.report .revalidation ticket outcome, ()⟩ ∈ events := by
      rw [← mem_history, hall]
      exact List.mem_cons_of_mem _ List.mem_cons_self
    refine .inl ⟨outcome, ?_⟩
    rw [run.posted]
    exact List.mem_append_right _ (List.mem_filterMap.mpr ⟨_, hmem, rfl⟩)

end Interleaving

end OfflineAgent
