import OfflineAgent.Proofs.Strategies.Concurrent

/-!
# Independent requests commute

An active agent is called with requests whose keys differ from each other and from those of the
offline pages. Whatever the order in which the calls and their revalidations take turns, each call
answers the same, and in the end the stores hold the same responses.
-/

namespace OfflineAgent

open Simulation Interleaving
open Store (Key Tables)

variable {agent : Agent} {request : Request} {requests : List Request}
  {network : Request → Except FetchFailure Response} {s t : System} {events : List Event}

/-! ### Going on -/

theorem endsWithin_fetch (agent : Agent) (request : Request) :
    (Activity.fetch agent request).work.EndsWithin 6 := by
  have hhandle : (agent.handle request).EndsWithin 6 := by
    rw [handle_eq]
    intro state
    dsimp only
    split
    · exact Work.endsWithin_done
    · split
      · exact Work.endsWithin_done
      · exact endsWithin_settle _
  rw [fetch_work_eq]
  exact hhandle.bind fun _ => (Work.endsWithin_done : Work.EndsWithin 0 _)

theorem endsWithin_revalidation (store : String) (request : Request) (ticket : Ticket) :
    (Purpose.background (.revalidate store request) ticket).work.EndsWithin 3 := by
  intro answer
  cases answer with
  | ok response =>
      intro _
      exact (endsWithin_keep _ _ _).bind fun _ => (Work.endsWithin_done : Work.EndsWithin 0 _)
  | error failure => exact fun _ => Work.endsWithin_done

/-- What a task is for: a call with a request, or a job for one. -/
def Interleaving.Purpose.errand : Purpose → Bool × Option Request
  | .call (.fetch _ request) => (true, some request)
  | .call _ => (true, none)
  | .background job _ => (false, some job.request)

namespace Fetching

theorem history_le (fetching : Fetching agent requests network s events t) (number : Nat) :
    (history number events).length ≤ 6 := by
  cases here : t.tasks[number]? with
  | none => rw [fetching.run.history_eq_nil here]; exact Nat.zero_le _
  | some task =>
      obtain ⟨leads, -⟩ := fetching.run.leads fetching.ready.idle number _ here
      obtain ⟨purpose, work⟩ := task
      cases purpose with
      | call activity =>
          obtain ⟨request, -, rfl, -⟩ := fetching.call here
          exact leads.length_le (endsWithin_fetch agent request)
      | background job ticket =>
          obtain ⟨request, -, rfl, -⟩ := fetching.job here
          exact leads.length_le ((endsWithin_revalidation _ _ _).mono (by decide))

theorem unique_errand (fetching : Fetching agent requests network s events t) {first second : Nat}
    {one other : Task} (hfirst : t.tasks[first]? = some one)
    (hsecond : t.tasks[second]? = some other)
    (hsame : one.purpose.errand = other.purpose.errand) : first = second := by
  obtain ⟨purpose, work⟩ := one
  obtain ⟨aim, left⟩ := other
  cases purpose with
  | call activity =>
      obtain ⟨request, -, rfl, -⟩ := fetching.call hfirst
      cases aim with
      | call again =>
          obtain ⟨asked, -, rfl, -⟩ := fetching.call hsecond
          obtain rfl : request = asked := by simpa [Purpose.errand] using hsame
          exact fetching.unique hfirst hsecond
      | background job ticket => cases hsame
  | background job ticket =>
      cases aim with
      | call again =>
          obtain ⟨asked, -, rfl, -⟩ := fetching.call hsecond
          cases hsame
      | background other given =>
          exact fetching.unique_job hfirst hsecond (by simpa [Purpose.errand] using hsame)

/-- There are no tasks but a call for each request, and a revalidation of it. -/
theorem tasks_le (fetching : Fetching agent requests network s events t) :
    t.tasks.length ≤ 2 * requests.length := by
  have herrand {number : Nat} {task : Task} (here : t.tasks[number]? = some task) :
      ∃ request ∈ requests, ∃ called, task.purpose.errand = (called, some request) := by
    obtain ⟨purpose, work⟩ := task
    cases purpose with
    | call activity =>
        obtain ⟨request, hrequest, rfl, -⟩ := fetching.call here
        exact ⟨request, hrequest, true, rfl⟩
    | background job ticket =>
        obtain ⟨request, hrequest, rfl, -⟩ := fetching.job here
        exact ⟨request, hrequest, false, rfl⟩
  have hdistinct : (t.tasks.map (·.purpose.errand)).Nodup := by
    rw [List.Nodup, List.pairwise_map, List.pairwise_iff_getElem]
    intro first second hfirst hsecond hlt hsame
    exact hlt.ne (fetching.unique_errand (List.getElem?_eq_getElem hfirst)
      (List.getElem?_eq_getElem hsecond) hsame)
  have hsub : t.tasks.map (·.purpose.errand) ⊆
      requests.flatMap fun request => [(true, some request), (false, some request)] := by
    intro errand hmem
    obtain ⟨task, htask, rfl⟩ := List.mem_map.mp hmem
    obtain ⟨number, here⟩ := List.getElem?_of_mem htask
    obtain ⟨request, hrequest, called, hcalled⟩ := herrand here
    refine List.mem_flatMap.mpr ⟨request, hrequest, ?_⟩
    rw [hcalled]
    cases called <;> simp
  have hlength := (List.subperm_of_subset hdistinct hsub).length_le
  rw [List.length_map, List.length_flatMap] at hlength
  simpa [Nat.mul_comm] using hlength

theorem length_le (fetching : Fetching agent requests network s events t) :
    events.length ≤ 14 * requests.length := by
  have htasks := fetching.tasks_le
  have hevents := fetching.run.length_le fetching.ready.idle fetching.history_le
  omega

/-- Whatever is not done can go on, or the revalidation can that it awaits. -/
theorem goes_on (fetching : Fetching agent requests network s events t) {number : Nat}
    {purpose : Purpose} {op : Op} {next : op.Answer → Work Reply}
    (here : t.tasks[number]? = some ⟨purpose, .ask op next⟩) :
    ∃ acting exchange u, Step (agent.CalledWith requests) t (.act acting exchange) u ∧
      Calm network t (.act acting exchange) u := by
  by_cases hawait : ∃ channel ticket, op = .await channel ticket
  · obtain ⟨channel, ticket, rfl⟩ := hawait
    have hjob {worker : Nat} {job : Job} {own : Ticket} {op : Op} {left : op.Answer → Work Reply}
        (hthere : t.tasks[worker]? = some ⟨.background job own, .ask op left⟩) :
        ∀ channel number, op ≠ .await channel number :=
      (fetching.run.leads fetching.ready.idle worker _ hthere).1.asks_next (asks_unawaiting job own)
    cases purpose with
    | background job own => exact absurd rfl (hjob here channel ticket)
    | call activity =>
        obtain ⟨request, -, rfl, hstands⟩ := fetching.call here
        obtain ⟨-, _, hread⟩ | ⟨-, -, hdone⟩ | ⟨kind, -, stage, -, standing⟩ := hstands
        · cases hread
        · cases hdone
        obtain ⟨answer⟩ := Work.nonempty_answer (.await channel ticket)
        obtain ⟨after, hallowed, -⟩ := standing.follows answer
        obtain ⟨rfl, hstage⟩ := Stage.awaiting_of_await hallowed
        have hstart := mem_history.mp (standing.past.awaits ticket hstage)
        obtain ⟨outcome, hposted⟩ | ⟨worker, work, hthere, -, exchange, u, hstep⟩ :=
          fetching.run.revalidation_reports fetching.ready.idle hstart
        · refine ⟨number, exists_calm here fun channel other hsame => ?_⟩
          obtain ⟨rfl, rfl⟩ := Op.await.inj hsame
          exact ⟨outcome, hposted⟩
        · cases hstep with
          | act asks answers =>
              obtain ⟨rfl, rfl⟩ := Task.mk.inj (Option.some.inj (asks.symm.trans hthere))
              exact ⟨worker, exists_calm asks fun channel other hsame =>
                absurd hsame (hjob asks channel other)⟩
  · exact ⟨number, exists_calm here fun channel ticket hsame =>
      absurd ⟨channel, ticket, hsame⟩ hawait⟩

end Fetching

/-- The agent was called with each request, and all that was begun is done. -/
structure Completed (agent : Agent) (requests : List Request)
    (network : Request → Except FetchFailure Response) (s : System) (events : List Event)
    (t : System) : Prop where
  calm : CalmRun (agent.CalledWith requests) network s events t
  called : t.called.Perm requests
  done : ∀ task ∈ t.tasks, ∃ reply, task.work = .done reply

theorem Completed.fetching (completed : Completed agent requests network s events t)
    (ready : agent.Ready s) (independent : Independent agent requests) :
    Fetching agent requests network s events t :=
  ⟨ready, completed.calm, completed.called.nodup_iff.mpr (.of_map _ independent.distinct)⟩

namespace Fetching

theorem exists_call (fetching : Fetching agent requests network s events t)
    (hmem : request ∈ t.called) :
    request ∈ requests ∧ ∃ (number : Nat) (work : Work Reply),
      t.tasks[number]? = some ⟨.call (.fetch agent request), work⟩ := by
  obtain ⟨purpose, hpurpose, hfetched⟩ := List.mem_filterMap.mp hmem
  obtain ⟨⟨aim, work⟩, htask, rfl⟩ := List.mem_map.mp hpurpose
  obtain ⟨number, here⟩ := List.getElem?_of_mem htask
  cases aim with
  | background job ticket => cases hfetched
  | call activity =>
      obtain ⟨asked, hasked, rfl, -⟩ := fetching.call here
      obtain rfl := Option.some.inj hfetched
      exact ⟨hasked, number, work, here⟩

theorem called_call (activity : Activity) :
    (t.begin activity).called = t.called ++ (Purpose.call activity).fetched?.toList := by
  unfold System.called System.purposes System.begin
  rw [List.map_append, List.filterMap_append]
  cases hfetched : (Purpose.call activity).fetched? with
  | none => simp [Purpose.task, hfetched]
  | some request => simp [Purpose.task, hfetched]

theorem called_act {calls : Activity → Prop} {u : System} {number : Nat} {exchange : Exchange}
    (step : Step calls t (.act number exchange) u) : u.called = t.called := by
  unfold System.called
  rw [step.purposes.1, List.filterMap_append, Event.purpose?]
  cases exchange.started? with
  | none => exact List.append_nil _
  | some started => exact List.append_nil _

theorem advance (fetching : Fetching agent requests network s events t)
    (distinct : requests.Nodup) :
    Completed agent requests network s events t ∨
      ∃ event u, Fetching agent requests network s (events ++ [event]) u := by
  by_cases hcalled : ∀ request ∈ requests, request ∈ t.called
  · by_cases hdone : ∀ task ∈ t.tasks, ∃ reply, task.work = .done reply
    · refine .inl ⟨fetching.calm, ?_, hdone⟩
      exact (List.perm_ext_iff_of_nodup fetching.once distinct).mpr fun request =>
        ⟨fun hmem => (fetching.exists_call hmem).1, hcalled request⟩
    · push Not at hdone
      obtain ⟨⟨purpose, work⟩, htask, hleft⟩ := hdone
      obtain ⟨number, here⟩ := List.getElem?_of_mem htask
      cases work with
      | done reply => exact absurd rfl (hleft reply)
      | ask op next =>
          obtain ⟨acting, exchange, u, step, hcalm⟩ := fetching.goes_on here
          exact .inr ⟨_, u, fetching.ready, fetching.calm.append ⟨u, step, hcalm, rfl⟩,
            (called_act step).symm ▸ fetching.once⟩
  · push Not at hcalled
    obtain ⟨request, hrequest, hnew⟩ := hcalled
    refine .inr ⟨.call (.fetch agent request), _, fetching.ready,
      fetching.calm.append ⟨_, .call ⟨request, hrequest, rfl⟩, trivial, rfl⟩, ?_⟩
    rw [called_call]
    exact List.concat_eq_append ▸ fetching.once.concat hnew

/-- In whatever order the work is taken, all of it gets done. -/
theorem completes {events : List Event} {t : System}
    (fetching : Fetching agent requests network s events t) (distinct : requests.Nodup) :
    ∃ more u, Completed agent requests network s (events ++ more) u := by
  obtain completed | ⟨event, u, further⟩ := fetching.advance distinct
  · exact ⟨[], t, (List.append_nil events).symm ▸ completed⟩
  · have hcloser : events.length < 14 * requests.length := by
      have hlength := further.length_le
      rwa [List.length_append] at hlength
    obtain ⟨more, v, completed⟩ := further.completes distinct
    exact ⟨event :: more, v, by simpa using completed⟩
termination_by 14 * requests.length - events.length

end Fetching

/-! ### What the stores hold in the end -/

def Store.Tables.response (tables : Tables) (store : String) (key : Key) :
    Except Store.Failure (Option Response) :=
  (tables.get store key).map (Option.map Store.Entry.response)

/-- The network's response to a request is kept in a store, unless a static asset is there
already. -/
def Agent.Keeps (agent : Agent) (tables : Tables) (outcome : Except FetchFailure Response)
    (request : Request) (store : String) (response : Response) : Prop :=
  ∃ kind, RequestClass.ofRequest? agent.settings request = some kind ∧ store = agent.home kind ∧
    outcome = .ok response ∧ request.keeps response ∧
    (kind = .staticAsset → foundIn (tables.get store (.ofRequest request)) = none)

theorem Fetching.keeps_of_put (independent : Independent agent requests)
    (free : ¬Collide agent requests) (fetching : Fetching agent requests network s events t)
    {number : Nat} {store : String} {key : Key} {response : Response}
    {answer : Except Store.Failure Unit}
    (hput : .act number ⟨.storage (.put store key response), answer⟩ ∈ events) :
    ∃ request ∈ requests, key = .ofRequest request ∧
      agent.Keeps s.tables (network request) request store response := by
  obtain ⟨request, hrequest, kind, first, stage, ⟨purpose, work⟩, here, standing⟩ :=
    fetching.standing hput nofun
  obtain ⟨-, rfl, rfl, hkeeps, hfetch⟩ := standing.past.puts _ _ _ _ (mem_history.mpr hput)
  refine ⟨request, hrequest, rfl, kind, standing.class_eq, rfl,
    (fetching.calm.fetched (mem_history.mp hfetch)).symm, hkeeps, ?_⟩
  rintro rfl
  obtain ⟨rfl, rfl⟩ | ⟨ticket, -, hkind, -⟩ := standing.purpose
  · obtain hasks | ⟨-, answer, hmissed, hget⟩ := standing.past.fetches _ _ hfetch
    · cases hasks
    · obtain ⟨now, rfl⟩ :=
        fetching.answer_eq independent free here (mem_history.mp hget) rfl
      exact hmissed
  · cases hkind

theorem Completed.put_of_keeps (independent : Independent agent requests)
    (free : ¬Collide agent requests) (ready : agent.Ready s)
    (completed : Completed agent requests network s events t) {store : String}
    {response : Response} (hrequest : request ∈ requests)
    (hkeeps : agent.Keeps s.tables (network request) request store response) :
    ∃ number answer,
      .act number ⟨.storage (.put store (.ofRequest request) response), answer⟩ ∈ events := by
  have fetching := completed.fetching ready independent
  obtain ⟨kind, hkind, rfl, hresponse, hkept, hmissed⟩ := hkeeps
  obtain ⟨-, number, work, here⟩ := fetching.exists_call (completed.called.mem_iff.mpr hrequest)
  obtain ⟨reply, rfl⟩ : ∃ reply, work = .done reply := completed.done _ (List.mem_of_getElem? here)
  obtain ⟨-, ⟨-, _, hread⟩ | ⟨hnone, -⟩ | ⟨found, -, stage, -, standing⟩⟩ :=
    fetching.call_of_request here
  · cases hread
  · rw [hkind] at hnone
    cases hnone
  obtain rfl := Option.some.inj (hkind.symm.trans standing.class_eq)
  have hput {number : Nat} {outcome : Except FetchFailure Response}
      (hfetch : ⟨.fetch request, outcome⟩ ∈ history number events)
      (hputs : ∀ response, outcome = .ok response → request.keeps response → ∃ answer,
        (⟨.storage (.put (agent.home kind) (.ofRequest request) response), answer⟩ : Exchange) ∈
          history number events) :
      ∃ number answer, .act number
        ⟨.storage (.put (agent.home kind) (.ofRequest request) response), answer⟩ ∈ events := by
    have houtcome := (completed.calm.fetched (mem_history.mp hfetch)).trans hresponse
    obtain ⟨answer, hmem⟩ := hputs response houtcome hkept
    exact ⟨number, answer, mem_history.mp hmem⟩
  obtain ⟨hfirst, answer, hfound, hget⟩ | ⟨hfirst, ticket, hstart⟩ | ⟨outcome, hfetch, hputs⟩ :=
    standing.past.ends standing.follows
  · obtain rfl := RequestClass.eq_staticAsset_of_first hfirst
    obtain ⟨now, rfl⟩ := fetching.answer_eq independent free here (mem_history.mp hget) rfl
    exact absurd (hmissed rfl) (Option.isSome_iff_ne_none.mp hfound)
  · obtain rfl := RequestClass.eq_navigation_of_first hfirst
    obtain ⟨worker, left, hthere⟩ := fetching.run.starts (mem_history.mp hstart)
    obtain ⟨told, rfl⟩ : ∃ told, left = .done told :=
      completed.done _ (List.mem_of_getElem? hthere)
    obtain ⟨asked, -, hjob, ⟨last, working⟩, -⟩ := fetching.job hthere
    obtain ⟨-, rfl⟩ := Job.revalidate.inj hjob
    obtain ⟨hother, -⟩ | ⟨hother, -⟩ | ⟨outcome, hfetch, hputs⟩ :=
      working.past.ends working.follows
    · cases hother
    · cases hother
    · exact hput hfetch hputs
  · exact hput hfetch hputs

/-- A store holds under a key what it held before, or what is kept for a request with that hash. -/
theorem Completed.response (independent : Independent agent requests)
    (free : ¬Collide agent requests) (ready : agent.Ready s)
    (completed : Completed agent requests network s events t) (store : String) (key : Key) :
    (t.tables.response store key = s.tables.response store key ∧
        ∀ request ∈ requests, ∀ response,
          agent.Keeps s.tables (network request) request store response →
            (Key.ofRequest request).hash ≠ key.hash) ∨
      ∃ request ∈ requests, ∃ response,
        agent.Keeps s.tables (network request) request store response ∧
          (Key.ofRequest request).hash = key.hash ∧
          t.tables.response store key = .ok (some response) := by
  have fetching := completed.fetching ready independent
  obtain ⟨hsame, hnone⟩ | ⟨number, written, response, answer, now, hput, hhash, hclock, hrow⟩ :=
    (completed.calm.holds fetching.tame).2 store key.hash
  · refine .inl ⟨?_, fun request hrequest response hkeeps => ?_⟩
    · rw [Store.Tables.response, Store.Tables.get, hsame]
      rfl
    · obtain ⟨number, answer, hput⟩ :=
        completed.put_of_keeps independent free ready hrequest hkeeps
      exact hnone _ _ _ _ hput
  · obtain ⟨request, hrequest, rfl, hkeeps⟩ := fetching.keeps_of_put independent free hput
    refine .inr ⟨request, hrequest, response, hkeeps, hhash, ?_⟩
    rw [Store.Tables.response, Store.Tables.get, hrow]
    simp only [Store.Row.read_encode hclock]
    rfl

/-! ### In every order -/

/-- There is a call with the request, and every such call is answered so. -/
def Interleaving.System.Replies (t : System) (agent : Agent) (request : Request) (reply : Reply) :
    Prop :=
  (∃ (number : Nat) (work : Work Reply),
      t.tasks[number]? = some ⟨.call (.fetch agent request), work⟩) ∧
    ∀ (number : Nat) (work : Work Reply),
      t.tasks[number]? = some ⟨.call (.fetch agent request), work⟩ → work = .done reply

theorem Completed.replies (independent : Independent agent requests)
    (free : ¬Collide agent requests) (ready : agent.Ready s)
    (completed : Completed agent requests network s events t) (hrequest : request ∈ requests) :
    t.Replies agent request (agent.replyTo s.tables (network request) request) := by
  have fetching := completed.fetching ready independent
  refine ⟨(fetching.exists_call (completed.called.mem_iff.mpr hrequest)).2, ?_⟩
  intro number work here
  obtain ⟨reply, rfl⟩ : ∃ reply, work = .done reply := completed.done _ (List.mem_of_getElem? here)
  rw [fetching.reply_eq independent free here]

/-- **Independent requests commute.** An active agent whose stores are there is called with requests
whose keys differ from each other and from those of the offline pages, the network has one answer
for each of them, and the stores work. Then every run comes to an end, however the calls and their
revalidations take turns, and all runs that have come to their end agree on what each call answers
and on the responses that the stores hold. Stores tell keys apart by their SHA-256 digests alone, so
the one exception is a key that is looked up and has the digest of another one that is written. -/
theorem same_in_every_order (ready : agent.Ready s) (independent : Independent agent requests) :
    (∀ events t, Fetching agent requests network s events t →
        events.length ≤ 14 * requests.length ∧
          ∃ more u, Completed agent requests network s (events ++ more) u) ∧
      (Collide agent requests ∨ ∀ events more t u,
        Completed agent requests network s events t → Completed agent requests network s more u →
          (∀ request ∈ requests, ∃ reply,
              t.Replies agent request reply ∧ u.Replies agent request reply) ∧
            t.tables.names = u.tables.names ∧
            ∀ store key, t.tables.response store key = u.tables.response store key) := by
  have hdistinct : requests.Nodup := .of_map _ independent.distinct
  refine ⟨fun events t fetching => ⟨fetching.length_le, fetching.completes hdistinct⟩, ?_⟩
  refine or_iff_not_imp_left.mpr fun free events more t u one other => ⟨?_, ?_, ?_⟩
  · intro request hrequest
    exact ⟨_, one.replies independent free ready hrequest,
      other.replies independent free ready hrequest⟩
  · have hone := (one.calm.holds (one.fetching ready independent).tame).1
    have hother := (other.calm.holds (other.fetching ready independent).tame).1
    rw [Store.Tables.names, Store.Tables.ordered, hone, ← hother]
    rfl
  · intro store key
    obtain ⟨hone, hnone⟩ | ⟨request, hrequest, response, hkeeps, hhash, hone⟩ :=
      one.response independent free ready store key <;>
    obtain ⟨hother, hneither⟩ | ⟨asked, hasked, given, hkept, hsame, hother⟩ :=
      other.response independent free ready store key
    · rw [hone, hother]
    · exact absurd hsame (hnone asked hasked given hkept)
    · exact absurd hhash (hneither request hrequest response hkeeps)
    · obtain rfl := independent.eq_of_hash free hrequest hasked (.inl rfl) (hhash.trans hsame.symm)
      obtain ⟨_, -, -, hresponse, -⟩ := hkeeps
      obtain ⟨_, -, -, hgiven, -⟩ := hkept
      rw [hone, hother, Except.ok.inj (hresponse.symm.trans hgiven)]

/-! ### A page and figures -/

namespace Kiosk

/-- The front page is served, the figures are not. -/
def halfway (request : Request) : Except FetchFailure Response :=
  if request = frontPage then .ok page else .error refused

/-- The stores of the kiosk are there and hold nothing. -/
def opened : System :=
  active ⟨[⟨1, kiosk.stores.static⟩, ⟨2, kiosk.stores.dynamic⟩], []⟩

theorem ready_opened : kiosk.Ready opened where
  active := rfl
  static := by decide
  dynamic := by decide
  idle := rfl
  unposted := rfl
  unnumbered := rfl

theorem digests_apart :
    ([Key.ofRequest frontPage, .ofRequest figures, .get offlineUrl].map Key.hash).Nodup := by
  decide +kernel

theorem mem_of_seeks {key : Key} (hrequest : request ∈ [frontPage, figures])
    (hseeks : kiosk.Seeks request key) :
    key ∈ [Key.ofRequest frontPage, .ofRequest figures, .get offlineUrl] := by
  obtain rfl | hrequest := List.mem_cons.mp hrequest
  · obtain rfl | hpage := hseeks
    · exact List.mem_cons_self
    · rw [Agent.pageKey?, class_frontPage, join_offlinePage] at hpage
      obtain rfl := Option.some.inj hpage
      simp
  · obtain rfl := List.mem_singleton.mp hrequest
    obtain rfl | hpage := hseeks
    · simp
    · rw [Agent.pageKey?, class_figures] at hpage
      cases hpage

theorem not_collide : ¬Collide kiosk [frontPage, figures] := by
  rintro ⟨request, hrequest, other, hother, key, hseeks, hne, hhash⟩
  exact hne (List.inj_on_of_nodup_map digests_apart (mem_of_seeks hother hseeks)
    (mem_of_seeks hrequest (.inl rfl)) hhash)

theorem independent_requests : Independent kiosk [frontPage, figures] := by
  have hkeys : ([frontPage, figures].map Key.ofRequest ++ [Key.get offlineUrl]).Nodup :=
    .of_map _ digests_apart
  obtain ⟨hdistinct, -, hapart⟩ := List.nodup_append.mp hkeys
  refine ⟨hdistinct, ?_⟩
  intro request hrequest other hother hpage
  obtain rfl | hother := List.mem_cons.mp hother
  · rw [Agent.pageKey?, class_frontPage, join_offlinePage] at hpage
    exact hapart _ (List.mem_map_of_mem hrequest) _ List.mem_cons_self (Option.some.inj hpage).symm
  · obtain rfl := List.mem_singleton.mp hother
    rw [Agent.pageKey?, class_figures] at hpage
    cases hpage

/-- It is all the same which of them is called first. -/
theorem same_for_page_and_figures :
    kiosk.Ready opened ∧ Independent kiosk [frontPage, figures] ∧
      ¬Collide kiosk [frontPage, figures] ∧ ∃ first second t u,
        Completed kiosk [frontPage, figures] halfway opened
            (.call (.fetch kiosk frontPage) :: first) t ∧
          Completed kiosk [frontPage, figures] halfway opened
            (.call (.fetch kiosk figures) :: second) u ∧
          (∀ request ∈ [frontPage, figures], ∃ reply,
            t.Replies kiosk request reply ∧ u.Replies kiosk request reply) ∧
          ∀ store key, t.tables.response store key = u.tables.response store key := by
  obtain ⟨hends, hsame⟩ : (∀ events t, Fetching kiosk [frontPage, figures] halfway opened events t →
      _) ∧ _ := same_in_every_order ready_opened independent_requests
  have hbegins {request : Request} (hrequest : request ∈ [frontPage, figures]) :
      Fetching kiosk [frontPage, figures] halfway opened [.call (.fetch kiosk request)]
        (opened.begin (.fetch kiosk request)) :=
    ⟨ready_opened, ⟨_, .call ⟨request, hrequest, rfl⟩, trivial, rfl⟩, List.nodup_singleton _⟩
  obtain ⟨-, first, t, one⟩ := hends _ _ (hbegins List.mem_cons_self)
  obtain ⟨-, second, u, other⟩ := hends _ _ (hbegins (List.mem_cons_of_mem _ List.mem_cons_self))
  obtain ⟨hreplies, -, hstores⟩ := hsame.resolve_left not_collide _ _ t u one other
  exact ⟨ready_opened, independent_requests, not_collide, first, second, t, u, one, other, hreplies,
    hstores⟩

end Kiosk

end OfflineAgent
