import OfflineAgent.Proofs.Lifecycle.OwnStores
import OfflineAgent.Proofs.Strategies.Stages

/-!
# What handling a request writes

A call that has an agent handle a request, and the revalidation that it may start, write once at
most, all together: the network's response, if it is worth keeping, under the key of the request and
in the one store that is for its class. So whatever fails, and whatever the network says, handling a
request takes nothing away, and touches no other entry of any store.
-/

namespace OfflineAgent

open Simulation Interleaving
open Lifecycle (agentOf?)

/-! ### Writes among exchanges -/

def Exchange.isWrite : Exchange → Bool
  | ⟨.storage (.openStore _), _⟩ | ⟨.storage (.put _ _ _), _⟩ | ⟨.storage (.delete _), _⟩ => true
  | _ => false

theorem Exchange.isNoted_of_isWrite {exchange : Exchange} (writes : exchange.isWrite) :
    exchange.isNoted := by
  unfold isWrite at writes
  split at writes <;> first | rfl | cases writes

def Writeless (history : List Exchange) : Prop :=
  ∀ exchange ∈ history, exchange.isWrite = false

@[simp]
theorem writeless_nil : Writeless [] := fun _ hmem => absurd hmem List.not_mem_nil

@[simp]
theorem writeless_cons {exchange : Exchange} {history : List Exchange} :
    Writeless (exchange :: history) ↔ exchange.isWrite = false ∧ Writeless history :=
  List.forall_mem_cons

@[simp]
theorem writeless_append {first second : List Exchange} :
    Writeless (first ++ second) ↔ Writeless first ∧ Writeless second :=
  List.forall_mem_append

theorem Writeless.of_filter {history : List Exchange}
    (writeless : Writeless (history.filter Exchange.isNoted)) : Writeless history := by
  intro exchange hmem
  by_contra hwrites
  rw [Bool.not_eq_false] at hwrites
  have hnoted := List.mem_filter.mpr ⟨hmem, Exchange.isNoted_of_isWrite hwrites⟩
  rw [writeless exchange hnoted] at hwrites
  cases hwrites

/-- Nothing is written but the network's response to a request, in a store, if it is worth it. -/
def WritesOnce (store : String) (request : Request) (history : List Exchange) : Prop :=
  Writeless history ∨
    ∃ response answer before after, request.keeps response ∧
      history = before ++ ⟨.storage (.put store (.ofRequest request) response), answer⟩ :: after ∧
      ⟨.fetch request, .ok response⟩ ∈ before ∧ Writeless before ∧ Writeless after

section

variable {store : String} {request : Request} {history first last : List Exchange}

theorem WritesOnce.append (once : WritesOnce store request history) (hfirst : Writeless first)
    (hlast : Writeless last) : WritesOnce store request (first ++ history ++ last) := by
  obtain hquiet | ⟨response, answer, before, after, hkeeps, rfl, hfetch, hbefore, hafter⟩ := once
  · exact .inl (by simp [hfirst, hquiet, hlast])
  · exact .inr ⟨response, answer, first ++ before, after ++ last, hkeeps, by simp,
      List.mem_append_right _ hfetch, by simp [hfirst, hbefore], by simp [hafter, hlast]⟩

theorem WritesOnce.of_filter (once : WritesOnce store request (history.filter Exchange.isNoted)) :
    WritesOnce store request history := by
  obtain hquiet | ⟨response, answer, before, after, hkeeps, hnotes, hfetch, hbefore, hafter⟩ := once
  · exact .inl hquiet.of_filter
  · obtain ⟨early, late, rfl, rfl, hlate⟩ := List.filter_eq_append_iff.mp hnotes
    obtain ⟨skipped, rest, rfl, hskipped, -, rfl⟩ := List.filter_eq_cons_iff.mp hlate
    have hnone : skipped.filter Exchange.isNoted = [] := List.filter_eq_nil_iff.mpr hskipped
    have hquiet : Writeless skipped := .of_filter (hnone ▸ writeless_nil)
    refine .inr ⟨response, answer, early ++ skipped, rest, hkeeps, by simp,
      List.mem_append_left _ (List.mem_of_mem_filter hfetch), ?_, hafter.of_filter⟩
    exact writeless_append.mpr ⟨hbefore.of_filter, hquiet⟩

theorem Stage.Lead.writeless {start : Stage} {lead : List Exchange}
    (hlead : Lead store request start lead) : Writeless lead := by
  obtain ⟨-, rfl⟩ | ⟨_, -, -, rfl⟩ := hlead <;> simp [Exchange.isWrite]

/-- Only a response that is held is written, and then nothing is held any more. -/
theorem Stage.Notes.writesOnce {start stage : Stage} {notes : List Exchange}
    (hnotes : Notes store request start notes stage) : WritesOnce store request notes := by
  cases stage with
  | probing | looking | awaiting =>
      obtain ⟨-, rfl⟩ := hnotes
      exact .inl (by simp [Exchange.isWrite])
  | asking => exact .inl (Lead.writeless hnotes)
  | holding =>
      obtain ⟨-, lead, before, rfl⟩ := hnotes
      exact .inl (by simp [Exchange.isWrite, before.writeless])
  | failed =>
      obtain ⟨_, lead, before, rfl⟩ | ⟨_, _, -, rfl⟩ := hnotes
      · exact .inl (by simp [Exchange.isWrite, before.writeless])
      · exact .inl (by simp [Exchange.isWrite])
  | closed =>
      obtain ⟨_, -, -, rfl⟩ | ⟨_, _, -, rfl⟩ | ⟨_, lead, before, -, rfl⟩ |
        ⟨response, answer, lead, before, hkeeps, rfl⟩ := hnotes
      · exact .inl (by simp [Exchange.isWrite])
      · exact .inl (by simp [Exchange.isWrite])
      · exact .inl (by simp [Exchange.isWrite, before.writeless])
      · exact .inr ⟨response, answer, lead ++ [⟨.fetch request, .ok response⟩], [], hkeeps,
          by simp, by simp, by simp [Exchange.isWrite, before.writeless], writeless_nil⟩

end

/-! ### What a call and its revalidation write -/

section

variable {agent : Agent} {request : Request} {activity : Activity} {history : List Exchange}
  {left : Work Reply}

def Op.IsFetch (op : Op) : Prop :=
  ∃ asked, op = .fetch asked

/-- A call with a request has its agent handle it, and after that only puts requests on the
network. -/
theorem work_of_request (hagent : agentOf? activity = some agent)
    (hrequest : activity.request? = some request) :
    ∃ f : Verdict → Work Reply, activity.work = agent.handle request >>= f ∧
      ∀ verdict, (f verdict).Asks Op.IsFetch := by
  cases activity <;> simp only [agentOf?, Option.some.injEq, reduceCtorEq] at hagent <;>
    subst hagent
  case fetch agent asked =>
    obtain rfl : asked = request := Option.some.inj hrequest
    exact ⟨_, fetch_work_eq, fun _ => trivial⟩
  case serve =>
    refine ⟨_, (serve_work_eq hrequest).trans (Work.bind_assoc _ _ _), fun verdict => ?_⟩
    have hrelay : (Server.relay request verdict).Asks Op.IsFetch := by
      cases verdict with
      | respond served => trivial
      | passThrough =>
          refine ⟨⟨request, rfl⟩, fun answer => ?_⟩
          cases answer <;> trivial
    exact hrelay.bind fun _ => trivial
  all_goals cases hrequest

/-- What a call with a request of a class writes and starts. If it starts a job, that is one
revalidation, and the call itself writes nothing. -/
structure Footprint (agent : Agent) (request : Request) (kind : RequestClass)
    (history : List Exchange) : Prop where
  once : WritesOnce (agent.home kind) request history
  starts : ∀ job ticket, (⟨.start job, ticket⟩ : Exchange) ∈ history →
    job = .revalidate (agent.home kind) request ∧ Writeless history
  single : ∀ job other ticket given, (⟨.start job, ticket⟩ : Exchange) ∈ history →
    (⟨.start other, given⟩ : Exchange) ∈ history → ticket = given

theorem footprint_of_settle {kind : RequestClass} {rest : List Exchange} {verdict : Work Verdict}
    (leads : Work.Leads (kind.strategy.run agent.stores request >>= agent.settle request kind) rest
      verdict) : Footprint agent request kind rest := by
  obtain ⟨stage, hafter, -⟩ := leads.follows (serves_settle agent request kind)
  have hnotes := Stage.notes_of_after kind.isFirst_first hafter
  have past := (Stage.past_of_notes hnotes).of_filter
  have once := hnotes.writesOnce.of_filter
  refine ⟨once, fun job ticket hstart => ?_, past.once⟩
  obtain ⟨hfirst, hjob, -⟩ := past.starts job ticket hstart
  refine ⟨hjob, ?_⟩
  obtain hquiet | ⟨response, answer, before, after, -, rfl, hfetch, -⟩ := once
  · exact hquiet
  · -- Whoever starts a revalidation does not ask the network, and has no response to write.
    obtain hasking | ⟨hprobing, -⟩ := past.fetches _ _ (List.mem_append_left _ hfetch)
    · rw [hfirst] at hasking
      cases hasking
    · rw [hfirst] at hprobing
      cases hprobing

/-- Reading the state at first and fetching at last adds nothing to it. -/
theorem Footprint.around {kind : RequestClass} {rest later : List Exchange}
    {state : Lifecycle.State} (footprint : Footprint agent request kind rest)
    (hlater : ∀ exchange ∈ later, exchange.op.IsFetch) :
    Footprint agent request kind (⟨.lifecycle agent.number .read, state⟩ :: (rest ++ later)) := by
  have hquiet : Writeless later := by
    intro exchange hmem
    obtain ⟨op, answer⟩ := exchange
    obtain ⟨asked, rfl⟩ := hlater _ hmem
    rfl
  have hstart {job : Job} {ticket : Ticket} (hmem : (⟨.start job, ticket⟩ : Exchange) ∈
      (⟨.lifecycle agent.number .read, state⟩ : Exchange) :: (rest ++ later)) :
      (⟨.start job, ticket⟩ : Exchange) ∈ rest := by
    obtain hread | hmem := List.mem_cons.mp hmem
    · cases hread
    obtain hrest | hmem := List.mem_append.mp hmem
    · exact hrest
    · obtain ⟨asked, hfetch⟩ := hlater _ hmem
      cases hfetch
  refine ⟨?_, fun job ticket hmem => ?_, fun job other ticket given hone hother =>
    footprint.single job other ticket given (hstart hone) (hstart hother)⟩
  · have hread : Writeless [⟨.lifecycle agent.number .read, state⟩] := by simp [Exchange.isWrite]
    exact footprint.once.append hread hquiet
  · obtain ⟨hjob, hrest⟩ := footprint.starts job ticket (hstart hmem)
    exact ⟨hjob, by simp [Exchange.isWrite, hrest, hquiet]⟩

theorem footprint_of_call (hagent : agentOf? activity = some agent)
    (hrequest : activity.request? = some request)
    (leads : Work.Leads activity.work history left) :
    (Writeless history ∧ ∀ job ticket, (⟨.start job, ticket⟩ : Exchange) ∉ history) ∨
      ∃ kind, RequestClass.ofRequest? agent.settings request = some kind ∧
        Footprint agent request kind history := by
  obtain ⟨f, hwork, hasks⟩ := work_of_request hagent hrequest
  rw [hwork] at leads
  obtain ⟨first, later, mid, rfl, hfirst, hlater⟩ : ∃ first later mid, history = first ++ later ∧
      Work.Leads (agent.handle request) first mid ∧
      ∀ exchange ∈ later, exchange.op.IsFetch := by
    obtain ⟨mid, hmid, -⟩ | ⟨first, later, verdict, rfl, hfirst, hlater⟩ := Work.leads_bind leads
    · exact ⟨history, [], mid, (List.append_nil _).symm, hmid,
        fun _ hmem => absurd hmem List.not_mem_nil⟩
    · exact ⟨first, later, .done verdict, rfl, hfirst, hlater.asks (hasks verdict)⟩
  have hfetches : Writeless later ∧ ∀ job ticket, (⟨.start job, ticket⟩ : Exchange) ∉ later := by
    refine ⟨fun exchange hmem => ?_, fun job ticket hmem => ?_⟩
    · obtain ⟨op, answer⟩ := exchange
      obtain ⟨asked, rfl⟩ := hlater _ hmem
      rfl
    · obtain ⟨asked, hfetch⟩ := hlater _ hmem
      cases hfetch
  obtain ⟨rfl, -⟩ | ⟨state, rest, rfl, ⟨rfl, -⟩ | ⟨kind, -, hkind, hrest⟩⟩ := leads_handle hfirst
  · exact .inl hfetches
  · exact .inl ⟨by simp [Exchange.isWrite, hfetches.1], by simpa using hfetches.2⟩
  · exact .inr ⟨kind, hkind, (footprint_of_settle hrest).around hlater⟩

theorem writesOnce_of_revalidation {store : String} {ticket : Ticket}
    (leads : Work.Leads (Purpose.background (.revalidate store request) ticket).work history left) :
    WritesOnce store request history := by
  obtain ⟨stage, hafter, -⟩ := leads.follows (serves_revalidation _ _ _)
  have hfirst : Stage.asking.IsFirst := trivial
  exact (Stage.notes_of_after hfirst hafter).writesOnce.of_filter

end

/-! ### Tables with one more entry -/

namespace Store.Tables

/-- What comes of putting an entry: it is read back, every other row is found as it was, and no
store comes or goes but the one that is put to. -/
structure HasEntry (before after : Tables) (store : String) (key : Key) (response : Response)
    (now : Moment) : Prop where
  eq_put : after = before.put store key response now
  entry : after.get store key = .ok (some ⟨key, response, now⟩)
  others : ∀ name hash, ¬(name = store ∧ hash = key.hash) →
    after.find? name hash = before.find? name hash
  names : ∀ name, name ∈ after.names ↔ name ∈ before.names ∨ name = store

theorem hasEntry_put (tables : Tables) (store : String) (key : Key) (response : Response)
    {now : Moment} (hclock : now.IsClock) :
    tables.HasEntry (tables.put store key response now) store key response now where
  eq_put := rfl
  entry := get_of_find? hclock find?_put_self
  others name hash hne :=
    find?_put_of_ne fun ⟨hstore, hhash⟩ => hne ⟨hstore.symm, hhash.symm⟩
  names name := by
    rw [put, names_writeRow, mem_names_openStore]
    exact or_congr_right eq_comm

end Store.Tables

/-! ### What all of it writes in a run -/

namespace Interleaving

variable {calls : Activity → Prop} {s t : System} {events : List Event} {number acting : Nat}
  {agent : Agent} {request : Request} {activity : Activity} {work : Work Reply}

/-- Of a call with a request and what it has started, one task may write. -/
theorem Run.one_writer (run : Run calls s events t) (fresh : s.tasks = []) (numbered : s.Numbered)
    (here : t.tasks[number]? = some ⟨.call activity, work⟩)
    (hagent : agentOf? activity = some agent) (hrequest : activity.request? = some request) :
    (∀ acting, WorksFor events t number acting → Writeless (history acting events)) ∨
      ∃ kind acting, RequestClass.ofRequest? agent.settings request = some kind ∧
        WorksFor events t number acting ∧
        WritesOnce (agent.home kind) request (history acting events) ∧
        ∀ other, WorksFor events t number other → other ≠ acting →
          Writeless (history other events) := by
  obtain ⟨leads, -⟩ := run.leads fresh number _ here
  obtain ⟨hquiet, hnone⟩ | ⟨kind, hkind, footprint⟩ := footprint_of_call hagent hrequest leads
  · refine .inl fun acting hworks => ?_
    obtain rfl | ⟨job, ticket, _, hstart, -⟩ := hworks
    · exact hquiet
    · exact absurd (mem_history.mpr hstart) (hnone job ticket)
  by_cases hstarted : ∃ job ticket, (⟨.start job, ticket⟩ : Exchange) ∈ history number events
  · obtain ⟨job, ticket, hstart⟩ := hstarted
    obtain ⟨rfl, hquiet⟩ := footprint.starts job ticket hstart
    obtain ⟨writer, left, hthere⟩ := run.starts (mem_history.mp hstart)
    obtain ⟨hjob, -⟩ := run.leads fresh writer _ hthere
    refine .inr ⟨kind, writer, hkind, .inr ⟨_, ticket, left, mem_history.mp hstart, hthere⟩,
      writesOnce_of_revalidation hjob, fun other hworks hne => ?_⟩
    obtain rfl | ⟨found, given, _, hfound, hother⟩ := hworks
    · exact hquiet
    · obtain rfl := footprint.single _ found ticket given hstart (mem_history.mpr hfound)
      exact absurd ((run.numbered numbered).unique hother hthere rfl rfl) hne
  · refine .inr ⟨kind, number, hkind, .inl rfl, footprint.once, fun other hworks hne => ?_⟩
    obtain hsame | ⟨job, ticket, _, hstart, -⟩ := hworks
    · exact absurd hsame hne
    · exact absurd ⟨job, ticket, mem_history.mpr hstart⟩ hstarted

theorem Step.tables_of_writeless {exchange : Exchange}
    (step : Step calls s (.act acting exchange) t) (hquiet : exchange.isWrite = false) :
    t.tables = s.tables := by
  obtain hsame | ⟨_, call, answer, now, hevent, -, -, hafter⟩ := step.tables
  · exact hsame
  · obtain ⟨rfl, rfl⟩ := Event.act.inj hevent
    rw [hafter]
    cases call with
    | openStore | put | delete => cases hquiet
    | get | matchAny | names => rfl

theorem Run.tables_of_writeless (run : Run calls s events t)
    (hquiet : ∀ acting, Writeless (history acting events)) : t.tables = s.tables := by
  refine run.induction (motive := fun events t => (∀ acting, Writeless (history acting events)) →
    t.tables = s.tables) (fun _ => rfl) ?_ hquiet
  intro events mid event t _ ih step hquiet
  have hparts (acting : Nat) := writeless_append.mp (history_append acting events _ ▸ hquiet acting)
  rw [← ih fun acting => (hparts acting).1]
  cases event with
  | call activity =>
      cases step
      rfl
  | act acting exchange =>
      refine step.tables_of_writeless ((hparts acting).2 exchange ?_)
      rw [history_act_self]
      exact List.mem_singleton_self _

theorem writeless_around {before after : List Event} {event : Event}
    (hquiet : Writeless (history acting (before ++ event :: after))) :
    Writeless (history acting before) ∧ Writeless (history acting after) := by
  rw [history_append, ← List.singleton_append, history_append, writeless_append,
    writeless_append] at hquiet
  exact ⟨hquiet.1, hquiet.2.2⟩

/-- The one write of a task splits the run, and there is none before and none after it. -/
theorem exists_split_of_writesOnce {store : String}
    (once : WritesOnce store request (history acting events)) :
    Writeless (history acting events) ∨ ∃ response answer before after,
      request.keeps response ∧
      events = before ++
        .act acting ⟨.storage (.put store (.ofRequest request) response), answer⟩ :: after ∧
      .act acting ⟨.fetch request, .ok response⟩ ∈ before ∧
      Writeless (history acting before) ∧ Writeless (history acting after) := by
  refine once.imp_right fun ⟨response, answer, early, late, hkeeps, hhistory, hfetch, hearly,
    hlate⟩ => ?_
  obtain ⟨before, rest, rfl, rfl, hrest⟩ := history_eq_append hhistory
  obtain ⟨between, after, rfl, hbetween, rfl⟩ := history_eq_cons hrest
  refine ⟨response, answer, before ++ between, after, hkeeps, by simp,
    List.mem_append_left _ (mem_history.mp hfetch), ?_, hlate⟩
  rw [history_append, hbetween, List.append_nil]
  exact hearly

/-- Of all that works for a call one task has written, and once: it asked the network for the
request and put the response, which is worth keeping. -/
structure WroteEntry (events : List Event) (t : System) (number : Nat) (store : String)
    (request : Request) (acting : Nat) (response : Response) : Prop where
  works : WorksFor events t number acting
  keeps : request.keeps response
  split : ∃ answer before after,
    events = before ++
      .act acting ⟨.storage (.put store (.ofRequest request) response), answer⟩ :: after ∧
    .act acting ⟨.fetch request, .ok response⟩ ∈ before ∧
    ∀ other, WorksFor events t number other →
      Writeless (history other before) ∧ Writeless (history other after)

theorem Step.hasEntry {store : String} {key : Store.Key} {response : Response}
    {answer : Except Store.Failure Unit}
    (step : Step calls s (.act acting ⟨.storage (.put store key response), answer⟩) t) :
    t.tables = s.tables ∨
      ∃ now : Moment, now.IsClock ∧ s.tables.HasEntry t.tables store key response now := by
  cases step with
  | act here answers =>
      obtain ⟨failure, -, rfl⟩ | ⟨now, hclock, -, rfl⟩ := answers
      · exact .inl rfl
      · exact .inr ⟨now, hclock, s.tables.hasEntry_put store key response hclock⟩

theorem WroteEntry.tables {store : String} {response : Response}
    (wrote : WroteEntry events t number store request acting response) (run : Run calls s events t)
    (alone : ∀ acting, WorksFor events t number acting ∨ Writeless (history acting events)) :
    t.tables = s.tables ∨ ∃ now : Moment, now.IsClock ∧
      s.tables.HasEntry t.tables store (.ofRequest request) response now := by
  obtain ⟨-, -, answer, before, after, rfl, -, hothers⟩ := wrote
  obtain ⟨mid, lead, next, step, rest⟩ := run_append.mp run
  have hquiet (other : Nat) :
      Writeless (history other before) ∧ Writeless (history other after) := by
    obtain hworks | hquiet := alone other
    · exact hothers other hworks
    · exact writeless_around hquiet
  rw [rest.tables_of_writeless fun other => (hquiet other).2,
    ← lead.tables_of_writeless fun other => (hquiet other).1]
  exact step.hasEntry

/-- **Handling a request writes one entry at most.** In every run, of all that a call with a request
does and of all that it starts, one operation at most changes the stores: it puts the network's
response to the request, which is a whole one to a GET, under the key of the request in the store
for its class. If nobody else writes, the stores are what they were, or they have that entry and are
otherwise what they were; and they are what they were if the network gave no whole response. -/
theorem one_entry_written (run : Run calls s events t) (fresh : s.tasks = [])
    (numbered : s.Numbered) (here : t.tasks[number]? = some ⟨.call activity, work⟩)
    (hagent : agentOf? activity = some agent) (hrequest : activity.request? = some request) :
    ((∀ acting, WorksFor events t number acting → Writeless (history acting events)) ∨
      ∃ kind acting response, RequestClass.ofRequest? agent.settings request = some kind ∧
        WroteEntry events t number (agent.home kind) request acting response) ∧
    ((∀ acting, WorksFor events t number acting ∨ Writeless (history acting events)) →
      (t.tables = s.tables ∨ ∃ kind acting response now,
        RequestClass.ofRequest? agent.settings request = some kind ∧
          WroteEntry events t number (agent.home kind) request acting response ∧ now.IsClock ∧
          s.tables.HasEntry t.tables (agent.home kind) (.ofRequest request) response now) ∧
      ((∀ acting response, WorksFor events t number acting →
          .act acting ⟨.fetch request, .ok response⟩ ∈ events → response.isComplete = false) →
        t.tables = s.tables)) := by
  have hwrites : (∀ acting, WorksFor events t number acting → Writeless (history acting events)) ∨
      ∃ kind acting response, RequestClass.ofRequest? agent.settings request = some kind ∧
        WroteEntry events t number (agent.home kind) request acting response := by
    obtain hquiet | ⟨kind, acting, hkind, works, once, hothers⟩ :=
      run.one_writer fresh numbered here hagent hrequest
    · exact .inl hquiet
    obtain hquiet | ⟨response, answer, before, after, hkeeps, rfl, hfetch, hbefore, hafter⟩ :=
      exists_split_of_writesOnce once
    · refine .inl fun other hworks => ?_
      by_cases hsame : other = acting
      · exact hsame ▸ hquiet
      · exact hothers other hworks hsame
    · refine .inr ⟨kind, acting, response, hkind, works, hkeeps, answer, before, after, rfl, hfetch,
        fun other hworks => ?_⟩
      by_cases hsame : other = acting
      · exact hsame ▸ ⟨hbefore, hafter⟩
      · exact writeless_around (hothers other hworks hsame)
  refine ⟨hwrites, fun alone => ?_⟩
  have hsame (hquiet : ∀ acting, WorksFor events t number acting →
      Writeless (history acting events)) : t.tables = s.tables :=
    run.tables_of_writeless fun acting => (alone acting).elim (hquiet acting) id
  obtain hquiet | ⟨kind, acting, response, hkind, wrote⟩ := hwrites
  · exact ⟨.inl (hsame hquiet), fun _ => hsame hquiet⟩
  · refine ⟨?_, fun hpartial => ?_⟩
    · refine (wrote.tables run alone).imp_right fun ⟨now, hclock, entry⟩ => ?_
      exact ⟨kind, acting, response, now, hkind, wrote, hclock, entry⟩
    · obtain ⟨works, hkeeps, _, before, after, rfl, hfetch, -⟩ := wrote
      have hwhole : response.isComplete = true := (Bool.and_eq_true_iff.mp hkeeps).2
      rw [hpartial acting response works (List.mem_append_left _ hfetch)] at hwhole
      cases hwhole

end Interleaving

/-! ### A first visit -/

namespace Kiosk

open Moment (isClock_noon)

/-- The page is not stored, and the revalidation that is started for it stores it. -/
def firstVisit : List Event :=
  [.call (.fetch kiosk frontPage)] ++ (looking frontPage (.ok none)).map (.act 0) ++
    (Job.refreshing kiosk.stores.dynamic frontPage 0 (.ok page) (.ok ())).map (.act 1)

theorem run_firstVisit : ∃ t work left, Run (fun _ => True) (active .empty) firstVisit t ∧
    t.tasks = [⟨.call (.fetch kiosk frontPage), work⟩,
      ⟨.background (.revalidate kiosk.stores.dynamic frontPage) 0, left⟩] ∧
    t.tables.entries ≠ [] := by
  obtain ⟨left, hlooking⟩ := exists_leads_looking (.ok none) nofun
  have hempty : Store.Tables.empty.matchAny (.ofRequest frontPage) = .ok none := by
    simp [Store.Tables.matchAny, Store.Tables.findAny?]
  refine ⟨_, left, .done .ok, .append (.append (.call trivial)
    (.of_leads hlooking rfl ⟨_, .moved rfl, _, .matched hempty, _, .begun rfl, rfl⟩))
    (.of_leads (Purpose.leads_revalidate isStorable_frontPage (.ok page) (.ok ())) rfl
      ⟨_, .fetched _, _, .reported, _, .performed isClock_noon rfl, rfl⟩), rfl, ?_⟩
  exact List.cons_ne_nil _ _

theorem works_or_writeless {t : System} {work left : Work Reply}
    (htasks : t.tasks = [⟨.call (.fetch kiosk frontPage), work⟩,
      ⟨.background (.revalidate kiosk.stores.dynamic frontPage) 0, left⟩]) (acting : Nat) :
    WorksFor firstVisit t 0 acting ∨ Writeless (history acting firstVisit) := by
  obtain _ | _ | acting := acting
  · exact .inl (.inl rfl)
  · refine .inl (.inr ⟨_, 0, left, ?_, by rw [htasks]; rfl⟩)
    exact List.mem_append_left _ (List.mem_append_right _ (.tail _ (.tail _ (.head _))))
  · refine .inr fun exchange hmem => ?_
    have hevent := mem_history.mp hmem
    simp [firstVisit] at hevent

/-- After the first visit the page is stored, and nothing else. -/
theorem one_entry_written_firstVisit : ∃ t kind acting response now,
    Run (fun _ => True) (active .empty) firstVisit t ∧
      RequestClass.ofRequest? kiosk.settings frontPage = some kind ∧
      WroteEntry firstVisit t 0 (kiosk.home kind) frontPage acting response ∧
      Store.Tables.empty.HasEntry t.tables (kiosk.home kind) (.ofRequest frontPage) response
        now := by
  obtain ⟨t, work, left, run, htasks, hstored⟩ := run_firstVisit
  have here : t.tasks[0]? = some ⟨.call (.fetch kiosk frontPage), work⟩ := by
    rw [htasks]
    rfl
  obtain ⟨-, hboth⟩ := one_entry_written run rfl rfl here rfl rfl
  obtain hsame | ⟨kind, acting, response, now, hkind, wrote, -, entry⟩ := (hboth (works_or_writeless htasks)).1
  · rw [hsame] at hstored
    exact absurd rfl hstored
  · exact ⟨t, kind, acting, response, now, run, hkind, wrote, entry⟩

end Kiosk

end OfflineAgent
