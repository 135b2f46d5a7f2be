import OfflineAgent.Proofs.Interleaving.Awaiting
import OfflineAgent.Proofs.Strategies.Refresh

/-!
# What a call leaves to the background

A call that serves what is stored and revalidates it has its lookup, starts the revalidation, and is
done if it found something: what it serves was settled by the lookup, and nothing the network or any
other call does can change it. If it found nothing it awaits the revalidation, which reports its
outcome before it writes. So the call comes back as soon as there is an outcome, and the write is
nothing to it.
-/

namespace OfflineAgent.Strategy

open Interleaving Simulation

variable {stores : StorePair} {request : Request} {ticket : Ticket}

/-! ### What the call asks -/

/-- What a call makes of what its revalidation was answered. -/
def relayed (request : Request) : Except FetchFailure Response → Except Failure Served
  | .ok response => .ok (.ofNetwork response)
  | .error failure => .error (.missed (Store.Key.ofRequest request).url failure)

/-- A call that has started its revalidation waits for it only if it found nothing. -/
def onceStarted (request : Request) (ticket : Ticket) :
    Option Store.Entry → Work (Except Failure Served)
  | some entry => .done (.ok (.ofCache entry))
  | none => .ask (.await .revalidation ticket) fun outcome => .done (relayed request outcome)

theorem staleWhileRevalidate_eq (stores : StorePair) (request : Request) :
    staleWhileRevalidate.run stores request =
      .ask (.storage (.matchAny (.ofRequest request))) fun answer =>
        .ask (.start (.revalidate stores.dynamic request)) fun ticket =>
          onceStarted request ticket answer.toOption.join := by
  refine congrArg (Work.ask _) (funext fun answer => ?_)
  obtain failure | none | entry := answer
  case ok.some => rfl
  all_goals
    refine congrArg (Work.ask _) (funext fun ticket => congrArg (Work.ask _) (funext ?_))
    intro outcome
    cases outcome <;> rfl

theorem leads_found {answer : Except Store.Failure (Option Store.Entry)} {entry : Store.Entry}
    (hfound : answer.toOption.join = some entry) (ticket : Ticket) :
    Work.Leads (staleWhileRevalidate.run stores request)
      [lookedUp request answer, ⟨.start (.revalidate stores.dynamic request), ticket⟩]
      (.done (.ok (.ofCache entry))) := by
  rw [staleWhileRevalidate_eq]
  refine .step (.step ?_)
  rw [hfound]
  exact .refl _

theorem leads_missed {answer : Except Store.Failure (Option Store.Entry)}
    (hmissed : answer.toOption.join = none) (ticket : Ticket)
    (told : Except FetchFailure Response) :
    Work.Leads (staleWhileRevalidate.run stores request)
      [lookedUp request answer, ⟨.start (.revalidate stores.dynamic request), ticket⟩,
        ⟨.await .revalidation ticket, told⟩]
      (.done (relayed request told)) := by
  rw [staleWhileRevalidate_eq]
  refine .step (.step ?_)
  rw [hmissed]
  exact .step (.refl _)

/-- The call came back with an outcome, somewhere in the exchanges of the task that made it. -/
def Returned (stores : StorePair) (request : Request) (history : List Exchange)
    (outcome : Except Failure Served) : Prop :=
  ∃ first second, history = first ++ second ∧
    Work.Leads (staleWhileRevalidate.run stores request) first (.done outcome)

/-- A call that came back has looked and started one revalidation. What it found is what it came
back with, or it found nothing and came back with what it was told. -/
theorem of_leads_done {history : List Exchange} {outcome : Except Failure Served}
    (leads : Work.Leads (staleWhileRevalidate.run stores request) history (.done outcome)) :
    ∃ answer ticket,
      (∃ entry, answer.toOption.join = some entry ∧ outcome = .ok (.ofCache entry) ∧
        history = [lookedUp request answer,
          ⟨.start (.revalidate stores.dynamic request), ticket⟩]) ∨
      (answer.toOption.join = none ∧ ∃ told, outcome = relayed request told ∧
        history = [lookedUp request answer, ⟨.start (.revalidate stores.dynamic request), ticket⟩,
          ⟨.await .revalidation ticket, told⟩]) := by
  rw [staleWhileRevalidate_eq] at leads
  obtain ⟨-, hdone⟩ | ⟨answer, rest, rfl, afterLookup⟩ := Work.leads_ask_iff.mp leads
  · cases hdone
  obtain ⟨-, hdone⟩ | ⟨ticket, rest, rfl, afterStart⟩ := Work.leads_ask_iff.mp afterLookup
  · cases hdone
  refine ⟨answer, ticket, ?_⟩
  cases hfound : answer.toOption.join with
  | some entry =>
      rw [hfound] at afterStart
      obtain ⟨rfl, hdone⟩ := Work.leads_done_iff.mp afterStart
      exact .inl ⟨entry, rfl, Work.done.inj hdone, rfl⟩
  | none =>
      rw [hfound] at afterStart
      obtain ⟨-, hdone⟩ | ⟨told, rest, rfl, afterAwait⟩ := Work.leads_ask_iff.mp afterStart
      · cases hdone
      · obtain ⟨rfl, hdone⟩ := Work.leads_done_iff.mp afterAwait
        exact .inr ⟨rfl, told, Work.done.inj hdone, rfl⟩

theorem lookedUp_injective {one other : Except Store.Failure (Option Store.Entry)}
    (hsame : lookedUp request one = lookedUp request other) : one = other :=
  eq_of_heq (Exchange.mk.inj hsame).2

theorem Returned.of_found {answer : Except Store.Failure (Option Store.Entry)}
    {rest : List Exchange} {outcome : Except Failure Served} {entry : Store.Entry}
    (returned : Returned stores request (lookedUp request answer :: rest) outcome)
    (hfound : answer.toOption.join = some entry) : outcome = .ok (.ofCache entry) := by
  obtain ⟨first, second, hfirst, leads⟩ := returned
  obtain ⟨other, ticket, ⟨kept, hkept, rfl, rfl⟩ | ⟨hmissed, told, -, rfl⟩⟩ := of_leads_done leads
  · obtain rfl := lookedUp_injective (List.cons.inj hfirst).1
    rw [Option.some.inj (hfound.symm.trans hkept)]
  · obtain rfl := lookedUp_injective (List.cons.inj hfirst).1
    rw [hfound] at hmissed
    cases hmissed

/-- A call whose lookup was answered has still to start its revalidation, or it has started it. -/
theorem of_leads_looked {f : Except Failure Served → Work Reply}
    {answer : Except Store.Failure (Option Store.Entry)} {rest : List Exchange} {left : Work Reply}
    (leads : Work.Leads (staleWhileRevalidate.run stores request >>= f)
      (lookedUp request answer :: rest) left) :
    (rest = [] ∧ ∃ next, left = .ask (.start (.revalidate stores.dynamic request)) next) ∨
      ∃ ticket later, rest = ⟨.start (.revalidate stores.dynamic request), ticket⟩ :: later ∧
        Work.Leads (onceStarted request ticket answer.toOption.join >>= f) later left := by
  rw [staleWhileRevalidate_eq] at leads
  obtain ⟨hnone, -⟩ | ⟨other, later, hlater, afterLookup⟩ := Work.leads_ask_iff.mp leads
  · cases hnone
  obtain ⟨hsame, rfl⟩ := List.cons.inj hlater
  obtain rfl : answer = other := lookedUp_injective hsame
  obtain ⟨rfl, rfl⟩ | ⟨ticket, later, rfl, afterStart⟩ := Work.leads_ask_iff.mp afterLookup
  · exact .inl ⟨rfl, _, rfl⟩
  · exact .inr ⟨ticket, later, rfl, afterStart⟩

/-! ### How far the call and its revalidation are -/

section

variable {calls : Activity → Prop} {agents : List Agent} {tables : Store.Tables}
  {before after : List Event} {mid t : System} {number : Nat} {purpose : Purpose}
  {f : Except Failure Served → Work Reply} {answer : Except Store.Failure (Option Store.Entry)}
  {rest : List Exchange}

/-- How far a revalidation is, by what it exchanged and what is left of it, and with it a call that
found nothing, by what it exchanged since it started the revalidation. As long as there is no
outcome, or it is not reported, the revalidation can go on; from then on the call can, whatever was
or is still to be written. -/
inductive Awaits (calls : Activity → Prop) (t : System) (number fetcher : Nat) (store : String)
    (request : Request) (ticket : Ticket) :
    List Exchange → Work Reply → List Exchange → Prop
  | unanswered {next} (goes : GoesOn calls t fetcher) :
      Awaits calls t number fetcher store request ticket [] (.ask (.fetch request) next) []
  | unreported {outcome next} (goes : GoesOn calls t fetcher) :
      Awaits calls t number fetcher store request ticket [⟨.fetch request, outcome⟩]
        (.ask (.report .revalidation ticket outcome) next) []
  | reported {outcome written left} (keeps : ∀ exchange ∈ written, exchange.Keeps store request)
      (ready : ∃ u, Step calls t (.act number ⟨.await .revalidation ticket, outcome⟩) u) :
      Awaits calls t number fetcher store request ticket
        (⟨.fetch request, outcome⟩ :: ⟨.report .revalidation ticket outcome, ()⟩ :: written) left []
  | told {outcome written left others}
      (keeps : ∀ exchange ∈ written, exchange.Keeps store request) :
      Awaits calls t number fetcher store request ticket
        (⟨.fetch request, outcome⟩ :: ⟨.report .revalidation ticket outcome, ()⟩ :: written) left
        (⟨.await .revalidation ticket, outcome⟩ :: others)

theorem awaits_of_told {events : List Event} {fetcher : Nat} {work : Work Reply}
    {told : Except FetchFailure Response} {others : List Exchange}
    (run : Run calls (.new agents tables) events t)
    (here : t.tasks[fetcher]? =
      some ⟨.background (.revalidate stores.dynamic request) ticket, work⟩)
    (hawait : .act number ⟨.await .revalidation ticket, told⟩ ∈ events) :
    Awaits calls t number fetcher stores.dynamic request ticket (history fetcher events) work
      (⟨.await .revalidation ticket, told⟩ :: others) := by
  have hreport := run.told_by_job rfl rfl (numbered_new agents tables) here hawait
  obtain ⟨written, hall, hkeeps⟩ := run.fetched_of_reported rfl here hreport
  rw [hall]
  exact .told hkeeps

theorem awaits_of_waiting {events : List Event} {fetcher : Nat} {work : Work Reply}
    {next : Channel.revalidation.Outcome → Work Reply}
    (run : Run calls (.new agents tables) events t)
    (here : t.tasks[fetcher]? =
      some ⟨.background (.revalidate stores.dynamic request) ticket, work⟩)
    (waiting : t.tasks[number]? = some ⟨purpose, .ask (.await .revalidation ticket) next⟩) :
    Awaits calls t number fetcher stores.dynamic request ticket (history fetcher events) work
      [] := by
  obtain ⟨leads, -⟩ := run.leads rfl fetcher _ here
  obtain ⟨hnone, more, rfl⟩ | ⟨outcome, ⟨hone, more, rfl⟩ | ⟨written, hall, hkeeps⟩⟩ :=
    leads_revalidation leads
  · rw [hnone]
    exact .unanswered (System.goesOn here nofun)
  · rw [hone]
    exact .unreported (System.goesOn here nofun)
  · have hreport : .act fetcher ⟨.report .revalidation ticket outcome, ()⟩ ∈ events := by
      rw [← mem_history, hall]
      exact List.mem_cons_of_mem _ List.mem_cons_self
    have hposted : ⟨.revalidation, ticket, outcome⟩ ∈ t.posted := by
      rw [run.posted]
      exact List.mem_append_right _ (List.mem_filterMap.mpr ⟨_, hreport, rfl⟩)
    obtain ⟨told, u, answers⟩ := t.exists_answers (.await .revalidation ticket)
      fun channel other hsame => by
        obtain ⟨rfl, rfl⟩ := Op.await.inj hsame
        exact ⟨outcome, hposted⟩
    -- Whatever it is told now is what the revalidation reported.
    have step : Step calls t (.act number ⟨.await .revalidation ticket, told⟩) _ :=
      .act waiting answers
    have whole := run_concat.mpr ⟨t, run, step⟩
    obtain ⟨left, hleft⟩ := step.purpose here
    have htold := whole.told_by_job rfl rfl (numbered_new agents tables) hleft
      (List.mem_append_right _ List.mem_cons_self)
    obtain ⟨rest, hagain, -⟩ := whole.fetched_of_reported rfl hleft htold
    rw [history_append, hall, List.cons_append] at hagain
    obtain rfl : outcome = told := by simpa using (List.cons.inj hagain).1
    rw [hall]
    exact .reported hkeeps ⟨_, step⟩

/-- One revalidation was started among the exchanges and nothing was fetched, and the revalidation
asks the network once. -/
def StartsOne (events : List Event) (t : System) (store : String) (request : Request)
    (exchanges : List Exchange) : Prop :=
  (∀ asked got, (⟨.fetch asked, got⟩ : Exchange) ∉ exchanges) ∧
    ∃ ticket fetcher work,
      exchanges.filterMap Exchange.started? = [(.revalidate store request, ticket)] ∧
      t.tasks[fetcher]? = some ⟨.background (.revalidate store request) ticket, work⟩ ∧
      (history fetcher events = [] ∨ ∃ got rest,
        history fetcher events = ⟨.fetch request, got⟩ :: rest ∧
          ∀ asked other, (⟨.fetch asked, other⟩ : Exchange) ∉ rest)

theorem startsOne_of_leads_done {events : List Event} {exchanges : List Exchange}
    {outcome : Except Failure Served} (run : Run calls (.new agents tables) events t)
    (done : ∀ exchange ∈ exchanges, .act number exchange ∈ events)
    (leads : Work.Leads (staleWhileRevalidate.run stores request) exchanges (.done outcome)) :
    StartsOne events t stores.dynamic request exchanges := by
  obtain ⟨answer, ticket, hexchanges⟩ := of_leads_done leads
  have hstart : .act number ⟨.start (.revalidate stores.dynamic request), ticket⟩ ∈ events := by
    apply done
    obtain ⟨entry, -, -, rfl⟩ | ⟨-, told, -, rfl⟩ := hexchanges <;> simp
  have hasks : (∀ asked got, (⟨.fetch asked, got⟩ : Exchange) ∉ exchanges) ∧
      exchanges.filterMap Exchange.started? = [(.revalidate stores.dynamic request, ticket)] := by
    obtain ⟨entry, -, -, rfl⟩ | ⟨-, told, -, rfl⟩ := hexchanges <;>
      exact ⟨by simp [lookedUp], rfl⟩
  obtain ⟨fetcher, work, here⟩ := run.starts hstart
  refine ⟨hasks.1, ticket, fetcher, work, hasks.2, here, ?_⟩
  obtain ⟨job, -⟩ := run.leads rfl fetcher _ here
  obtain ⟨hnone, -⟩ | ⟨got, ⟨hone, -⟩ | ⟨written, hall, hkeeps⟩⟩ := leads_revalidation job
  · exact .inl hnone
  · exact .inr ⟨got, [], hone, fun _ _ => List.not_mem_nil⟩
  · refine .inr ⟨got, _, hall, fun asked other hmem => ?_⟩
    obtain hreport | hwritten := List.mem_cons.mp hmem
    · cases hreport
    · obtain ⟨response, hput⟩ := hkeeps _ hwritten
      cases hput

/-- **What a call serves does not wait for the background.** Once its lookup was answered, a call
that found something comes back with that after one more operation, which it can always do: so all
runs that agree up to the lookup serve the same, whatever becomes of the network and of any write. A
call that found nothing comes back with what the network answered its revalidation, response or
failure, and as soon as that is reported it can, whatever becomes of the write, which comes later.
In both cases one revalidation is started, which asks the network once, and the call asks it for
nothing. -/
theorem returns_without_background
    (lead : Run calls (.new agents tables) before mid)
    (begins : mid.tasks[number]? =
      some ⟨purpose, staleWhileRevalidate.run stores request >>= f⟩)
    (run : Run calls mid after t)
    (looked : history number after = lookedUp request answer :: rest) :
    (∀ entry, answer.toOption.join = some entry →
      ((rest = [] ∧ GoesOn calls t number) ∨
        Returned stores request (history number after) (.ok (.ofCache entry))) ∧
      ∀ later u outcome, Run calls t later u →
        Returned stores request (history number (after ++ later)) outcome →
        outcome = .ok (.ofCache entry)) ∧
    (answer.toOption.join = none →
      (rest = [] ∧ GoesOn calls t number) ∨
        ∃ ticket later fetcher work,
          rest = ⟨.start (.revalidate stores.dynamic request), ticket⟩ :: later ∧
            t.tasks[fetcher]? =
              some ⟨.background (.revalidate stores.dynamic request) ticket, work⟩ ∧
            Awaits calls t number fetcher stores.dynamic request ticket
              (history fetcher (before ++ after)) work later ∧
            ∀ outcome others, later = ⟨.await .revalidation ticket, outcome⟩ :: others →
              Returned stores request (history number after) (relayed request outcome)) ∧
    ∀ first second outcome, history number after = first ++ second →
      Work.Leads (staleWhileRevalidate.run stores request) first (.done outcome) →
      StartsOne (before ++ after) t stores.dynamic request first := by
  have whole : Run calls (.new agents tables) (before ++ after) t := lead.append run
  obtain ⟨left, here, leads⟩ := run.leads_of_task begins
  rw [looked] at leads
  refine ⟨fun entry hfound => ⟨?_, fun later u outcome _ returned => ?_⟩, fun hmissed => ?_,
    fun first second outcome hfirst hdone => ?_⟩
  · obtain ⟨rfl, next, rfl⟩ | ⟨ticket, later, rfl, -⟩ := of_leads_looked leads
    · exact .inl ⟨rfl, System.goesOn here nofun⟩
    · exact .inr ⟨[_, _], later, looked, leads_found hfound ticket⟩
  · rw [history_append, looked] at returned
    exact returned.of_found hfound
  · obtain ⟨rfl, next, rfl⟩ | ⟨ticket, later, rfl, afterStart⟩ := of_leads_looked leads
    · exact .inl ⟨rfl, System.goesOn here nofun⟩
    · have hstart : .act number ⟨.start (.revalidate stores.dynamic request), ticket⟩ ∈
          before ++ after := by
        rw [List.mem_append, ← mem_history, ← mem_history, looked]
        exact .inr (List.mem_cons_of_mem _ List.mem_cons_self)
      obtain ⟨fetcher, work, hjob⟩ := whole.starts hstart
      rw [hmissed] at afterStart
      obtain ⟨rfl, rfl⟩ | ⟨told, others, rfl, -⟩ := Work.leads_ask_iff.mp afterStart
      · exact .inr ⟨ticket, [], fetcher, work, rfl, hjob, awaits_of_waiting whole hjob here, nofun⟩
      · have hawait : .act number ⟨.await .revalidation ticket, told⟩ ∈ before ++ after := by
          rw [List.mem_append, ← mem_history, ← mem_history, looked]
          exact .inr (List.mem_cons_of_mem _ (List.mem_cons_of_mem _ List.mem_cons_self))
        refine .inr ⟨ticket, _, fetcher, work, rfl, hjob, awaits_of_told whole hjob hawait, ?_⟩
        rintro outcome rest hsame
        obtain ⟨hsame, rfl⟩ := List.cons.inj hsame
        obtain rfl : told = outcome := by simpa using hsame
        exact ⟨[_, _, _], others, looked, leads_missed hmissed ticket told⟩
  · have asked : ∀ exchange ∈ first, .act number exchange ∈ before ++ after := by
      intro exchange hmem
      rw [List.mem_append, ← mem_history, ← mem_history, hfirst]
      exact .inr (List.mem_append_left _ hmem)
    exact startsOne_of_leads_done whole asked hdone

end

/-! ### A reader with and without a copy -/

namespace Shell

open Kiosk (shell frontPage)

def reader : Activity := .strategy .staleWhileRevalidate shell.stores frontPage

/-- The copy is found, and the revalidation has not begun. -/
def finding : List Event :=
  (inquiring shell.stores frontPage (.ok (some precached)) 0).map (.act 0)

/-- The lookup fails, and the page is served before it is written. -/
def fetching : List Event :=
  (inquiring shell.stores frontPage (.error .unavailable) 0).map (.act 0) ++
    (revalidating 0 (edition "first")).map (.act 1) ++
    [.act 0 ⟨.await .revalidation 0, .ok (edition "first")⟩]

theorem run_finding : ∃ t, Run (fun _ => True) ((System.new [shell] stocked).begin reader) finding
    t :=
  ⟨_, _, .act rfl (.matched matchAny_stocked),
    _, .act rfl (.begun rfl), rfl⟩

theorem run_fetching : ∃ t, Run (fun _ => True) ((System.new [shell] .empty).begin reader) fetching
    t ∧ t.tables = .empty :=
  ⟨_, ⟨_, .act rfl (.failed _), _, .act rfl (.begun rfl), _, .act rfl (.fetched _),
    _, .act rfl .reported, _, .act rfl (.awaited rfl), rfl⟩, rfl⟩

/-- The reader is served the copy in every run from here on; or, if there is none, the network's
response, of which nothing is written yet. -/
theorem returns_without_background_reader :
    (∃ t, Run (fun _ => True) ((System.new [shell] stocked).begin reader) finding t ∧
      Returned shell.stores frontPage (history 0 finding) (.ok (.ofCache precached)) ∧
      ∀ later u outcome, Run (fun _ => True) t later u →
        Returned shell.stores frontPage (history 0 (finding ++ later)) outcome →
        outcome = .ok (.ofCache precached)) ∧
    ∃ t, Run (fun _ => True) ((System.new [shell] .empty).begin reader) fetching t ∧
      t.tables = .empty ∧
      Returned shell.stores frontPage (history 0 fetching)
        (.ok (.ofNetwork (edition "first"))) := by
  constructor
  · obtain ⟨t, run⟩ := run_finding
    have looked : history 0 finding = lookedUp frontPage (.ok (some precached)) ::
        [⟨.start (.revalidate shell.stores.dynamic frontPage), 0⟩] := rfl
    obtain ⟨hfound, -, -⟩ := returns_without_background (.call trivial) (by rfl) run looked
    obtain ⟨hreturned, hsame⟩ := hfound precached rfl
    exact ⟨t, run, hreturned.resolve_left fun hwaits => List.cons_ne_nil _ _ hwaits.1, hsame⟩
  · obtain ⟨t, run, hempty⟩ := run_fetching
    have looked : history 0 fetching = lookedUp frontPage (.error .unavailable) ::
        [⟨.start (.revalidate shell.stores.dynamic frontPage), 0⟩,
          ⟨.await .revalidation 0, .ok (edition "first")⟩] := rfl
    obtain ⟨-, hmissed, -⟩ := returns_without_background (.call trivial) (by rfl) run looked
    obtain ⟨hnone, -⟩ | ⟨ticket, later, fetcher, work, hrest, -, -, htold⟩ := hmissed rfl
    · cases hnone
    · obtain ⟨hstart, rfl⟩ := List.cons.inj hrest
      obtain rfl : 0 = ticket := eq_of_heq (Exchange.mk.inj hstart).2
      exact ⟨t, run, hempty, htold (.ok (edition "first")) [] rfl⟩

end Shell

end OfflineAgent.Strategy
