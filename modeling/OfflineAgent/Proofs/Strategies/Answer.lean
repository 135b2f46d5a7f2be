import OfflineAgent.Proofs.Interleaving.Awaiting
import OfflineAgent.Proofs.Interleaving.Listing
import OfflineAgent.Proofs.Json.Values
import OfflineAgent.Proofs.Lifecycle.Installation
import OfflineAgent.Proofs.Strategies.Recourses

/-!
# An active agent always has an answer

Whatever the network and the stores do, a call on an active agent comes to an end, and it ends with
a response: that of the first recourse that has one, or else one that says it is offline.
-/

namespace OfflineAgent

open Simulation Interleaving

/-- The client is told that there is neither network nor a stored copy. -/
structure SaysOffline (url : Url) (served : Served) : Prop where
  source : served.source = .fallback
  status : served.response.status = 503
  body : ∃ message, url.text.toList <:+: message.toList ∧
    Json.Value.parse served.response.body.toList = .ok (.object
      [("error", .string "offline"), ("message", .string message), ("offline", .bool true)])

theorem body_offlineResponse (url : Url) : (Fallback.offlineResponse url).body =
    (Fallback.offlineBody url).compact.toUTF8 := by
  simp only [Fallback.offlineResponse, Response.withHeader, Response.new]

theorem parse_offlineResponse (url : Url) :
    Json.Value.parse (Fallback.offlineResponse url).body.toList =
      .ok (Fallback.offlineBody url) := by
  have hfits : (Fallback.offlineBody url).Fits (126 + 1) := by
    unfold Fallback.offlineBody
    refine .object fun member hmem => ?_
    simp only [List.mem_cons, List.not_mem_nil, or_false] at hmem
    obtain rfl | rfl | rfl := hmem
    · exact .string _
    · exact .string _
    · exact .bool _
  rw [body_offlineResponse]
  exact hfits.parse_compact

theorem saysOffline_offlineResponse (url : Url) :
    SaysOffline url (.ofFallback (Fallback.offlineResponse url)) where
  source := rfl
  status := rfl
  body := by
    refine ⟨"Network unavailable and no cached copy of " ++ url.text, ?_,
      parse_offlineResponse url⟩
    rw [String.toList_append]
    exact (List.suffix_append _ _).isInfix

/-- The response is that of the first recourse that has one, or else says that it is offline; only
stored copies have an age. -/
structure Answered (recourses : List Recourse) (url : Url) (attempts : List Attempt)
    (served : Served) : Prop where
  first : Tried recourses attempts (some served) ∨
    (Tried recourses attempts none ∧ SaysOffline url served)
  aged : served.cachedAt.isSome ↔ served.source = .cache

/-- When a task was given the value by a call on the stores, that is what the stores held. -/
def HeldThen (calls : Activity → Prop) (s : System) (events : List Event) (number : Nat)
    {call : Store.Call} (value : call.Answer) : Prop :=
  ∃ before after mid now, events = before ++ .act number ⟨.storage call, .ok value⟩ :: after ∧
    Run calls s before mid ∧ now.IsClock ∧ (call.run now mid.tables).1 = .ok value

theorem Interleaving.Run.heldThen {calls : Activity → Prop} {s t : System} {events : List Event}
    (run : Run calls s events t) {number : Nat} {call : Store.Call} {value : call.Answer}
    (hmem : .act number ⟨.storage call, .ok value⟩ ∈ events) :
    HeldThen calls s events number value := by
  obtain ⟨before, after, rfl⟩ := List.append_of_mem hmem
  obtain ⟨mid, lead, next, step, -⟩ := run_append.mp run
  obtain ⟨now, hclock, hvalue, -⟩ := step.answered
  exact ⟨before, after, mid, now, rfl, lead, hclock, hvalue⟩

/-- The network answered the request so, to the task itself or to a revalidation of it. -/
def FetchedBy (events : List Event) (t : System) (number : Nat) (store : String)
    (request : Request) (outcome : Except FetchFailure Response) : Prop :=
  ∃ fetcher, .act fetcher ⟨.fetch request, outcome⟩ ∈ events ∧
    (fetcher = number ∨ ∃ task, t.tasks[fetcher]? = some task ∧ task.Revalidates store request)

section

variable {calls : Activity → Prop} {agents : List Agent} {tables : Store.Tables} {agent : Agent}
  {request : Request} {kind : RequestClass} {events : List Event} {t : System} {number : Nat}
  {work : Work Reply} {rest : List Exchange}

def Verdict.reply : Verdict → Reply
  | .respond served => .served served
  | .passThrough => .passThrough

theorem fetch_work_eq : (Activity.fetch agent request).work =
    agent.handle request >>= fun verdict => .done verdict.reply := by
  refine congrArg (agent.handle request >>= ·) (funext fun verdict => ?_)
  cases verdict <;> rfl

/-- What is left of a call that has read that the agent is active. -/
theorem leads_of_active {history : List Exchange}
    (leads : Work.Leads (Activity.fetch agent request).work history work)
    (hactive : history = ⟨.lifecycle agent.number .read, .active⟩ :: rest)
    (hkind : RequestClass.ofRequest? agent.settings request = some kind) :
    ∃ left, work = left >>= (fun verdict => .done verdict.reply) ∧
      Work.Leads (kind.strategy.run agent.stores request >>= agent.settle request kind) rest
        left := by
  rw [fetch_work_eq] at leads
  obtain ⟨left, hleft, rfl⟩ := Work.leads_bind_done leads
  refine ⟨left, rfl, ?_⟩
  obtain ⟨hnone, -⟩ | ⟨state, later, hlater, ⟨-, -, hother⟩ | ⟨found, -, hfound, hrest⟩⟩ :=
    leads_handle hleft
  · rw [hnone] at hactive
    cases hactive
  · rw [hlater] at hactive
    obtain ⟨hsame, -⟩ := List.cons.inj hactive
    have hstate : state = .active := by simpa using (Exchange.mk.inj hsame).2
    rw [hother hstate] at hkind
    cases hkind
  · rw [hlater] at hactive
    obtain ⟨-, rfl⟩ := List.cons.inj hactive
    obtain rfl := Option.some.inj (hfound.symm.trans hkind)
    exact hrest

theorem answered_of_settles {course : Course} {served : Served}
    (hafter : (trying agent request).after ⟨agent.recourses request kind, none, none⟩ rest =
      some course) (settles : course.Settles request served) :
    Answered (agent.recourses request kind) request.url (rest.filterMap Exchange.attempt?)
      served := by
  obtain ⟨hserved, hdone⟩ := settles
  have tried := tried_of_after rfl hafter hdone
  cases hfound : course.served with
  | none =>
      rw [hfound] at hserved tried
      obtain rfl := hserved
      exact ⟨.inr ⟨tried, saysOffline_offlineResponse _⟩, by simp [Served.ofFallback]⟩
  | some hit =>
      rw [hfound] at hserved tried
      obtain rfl : served = hit := hserved
      refine ⟨.inl tried, ?_⟩
      obtain ⟨recourse, -, hmem⟩ := tried.of_hit
      obtain ⟨exchange, -, hattempt⟩ := List.mem_filterMap.mp hmem
      obtain ⟨entry, rfl, -⟩ | ⟨response, rfl⟩ := of_attempt_found hattempt
      · simp [Served.ofCache]
      · simp [Served.ofNetwork]

/-- A call that has something left to do can go on, or the revalidation can that it awaits. -/
theorem goes_on_of_follows (run : Run calls (.new agents tables) events t) {purpose : Purpose}
    {op : Op} {next : op.Answer → Work Reply}
    (here : t.tasks[number]? = some ⟨purpose, .ask op next⟩) {course : Course}
    (hafter : (trying agent request).after ⟨agent.recourses request kind, none, none⟩ rest =
      some course)
    (hrest : ∀ exchange ∈ rest, .act number exchange ∈ events)
    (hallowed : ∀ answer, ∃ next, trying agent request course op answer = some next) :
    GoesOn calls t number ∨ ∃ fetcher task, t.tasks[fetcher]? = some task ∧
      task.Revalidates agent.stores.dynamic request ∧ (history fetcher events).length < 2 ∧
      GoesOn calls t fetcher := by
  by_cases hawait : ∃ ticket, op = .await .revalidation ticket ∧ course.revalidation = some ticket
  · obtain ⟨ticket, rfl, hticket⟩ := hawait
    have hstart := hrest _ ((started_of_after hafter hticket).resolve_left nofun)
    obtain ⟨outcome, hposted⟩ | ⟨fetcher, left, hthere, hlength, hgo⟩ :=
      run.revalidation_reports rfl hstart
    · refine .inl (System.goesOn here fun channel other hsame => ?_)
      obtain ⟨rfl, rfl⟩ := Op.await.inj hsame
      exact ⟨outcome, hposted⟩
    · exact .inr ⟨fetcher, _, hthere, ⟨ticket, rfl⟩, hlength, hgo⟩
  · refine .inl (System.goesOn here fun channel ticket hsame => ?_)
    subst hsame
    obtain ⟨answer⟩ := Work.nonempty_answer (.await channel ticket)
    obtain ⟨after, htry⟩ := hallowed answer
    cases channel with
    | precache => cases htry
    | revalidation =>
        obtain ⟨hticket, -⟩ := Option.ite_none_right_eq_some.mp htry
        exact absurd ⟨ticket, rfl, hticket⟩ hawait

/-- **An active agent always has an answer.** In every run of any calls, with any faults of the
network and the stores and in any order: a call that reads that the agent is active, on a request
that the agent does not leave alone, takes to its recourses in their order, and each has what the
stores held at its moment or what the network answered. It is done after at most five more
operations, and until then it, or the revalidation that it awaits, can go on; when it is done it
responds with what the first recourse had that had something, or says that it is offline. -/
theorem answered_while_active (run : Run calls (.new agents tables) events t)
    (here : t.tasks[number]? = some ⟨.call (.fetch agent request), work⟩)
    (hactive : history number events = ⟨.lifecycle agent.number .read, .active⟩ :: rest)
    (hkind : RequestClass.ofRequest? agent.settings request = some kind) :
    (∀ call value, (⟨.storage call, .ok value⟩ : Exchange) ∈ rest →
        HeldThen calls (.new agents tables) events number value) ∧
      (∀ found, ⟨.network, found⟩ ∈ rest.filterMap Exchange.attempt? →
        ∃ outcome, found = fetchedIn outcome ∧
          FetchedBy events t number agent.stores.dynamic request outcome) ∧
      rest.length ≤ 5 ∧
      ((∃ served, work = .done (.served served) ∧
          Answered (agent.recourses request kind) request.url (rest.filterMap Exchange.attempt?)
            served) ∨
        GoesOn calls t number ∨
        ∃ fetcher task, t.tasks[fetcher]? = some task ∧
          task.Revalidates agent.stores.dynamic request ∧
          (history fetcher events).length < 2 ∧ GoesOn calls t fetcher) := by
  obtain ⟨leads, -⟩ := run.leads rfl number _ here
  obtain ⟨left, rfl, hleft⟩ := leads_of_active leads hactive hkind
  obtain ⟨course, hafter, hfollows⟩ := hleft.follows (follows_settle kind)
  have hevents : ∀ exchange ∈ rest, .act number exchange ∈ events := by
    intro exchange hmem
    rw [← mem_history, hactive]
    exact List.mem_cons_of_mem _ hmem
  refine ⟨fun call value hmem => ?_, fun found hmem => ?_, hleft.length_le (endsWithin_settle kind),
    ?_⟩
  · exact run.heldThen (hevents _ hmem)
  · obtain ⟨outcome, hfound, hfetch | ⟨ticket, hawait, hstart⟩⟩ := network_of_after rfl hafter hmem
    · exact ⟨outcome, hfound, number, hevents _ hfetch, .inl rfl⟩
    · obtain ⟨fetcher, task, hthere, hrevalidates, hfetch⟩ :=
        run.revalidated rfl rfl (numbered_new agents tables) (hevents _ hstart) (hevents _ hawait)
      exact ⟨outcome, hfound, fetcher, hfetch, .inr ⟨task, hthere, hrevalidates⟩⟩
  · cases left with
    | done verdict =>
        obtain ⟨served, rfl, settles⟩ := hfollows
        exact .inl ⟨served, rfl, answered_of_settles hafter settles⟩
    | ask op next =>
        refine .inr (goes_on_of_follows run here hafter hevents fun answer => ?_)
        obtain ⟨after, hallowed, -⟩ := hfollows answer
        exact ⟨after, hallowed⟩

end

/-! ### A visit with everything broken -/

namespace Kiosk

theorem join_offlinePage :
    frontPage.url.join kiosk.settings.offlinePage = .ok offlineUrl := by decide

/-- A call reads that the kiosk is active, and looks the request up. -/
def looking (request : Request) (found : Except Store.Failure (Option Store.Entry)) :
    List Exchange :=
  ⟨.lifecycle 0 .read, .active⟩ :: Strategy.inquiring kiosk.stores request found 0

theorem leads_looking {request : Request} {found : Except Store.Failure (Option Store.Entry)}
    (hkind : RequestClass.ofRequest? kiosk.settings request = some .navigation)
    (hmiss : ∀ entry, found ≠ .ok (some entry)) (response : Response) :
    Work.Leads (kiosk.handle request)
      (looking request found ++ [⟨.await .revalidation 0, .ok response⟩])
      (.done (.respond (.ofNetwork response))) :=
  responds_of_run hkind (Strategy.leads_inquiring_miss hmiss 0 (.ok response))

/-- A visit that finds nothing begins so. -/
theorem exists_leads_looking (found : Except Store.Failure (Option Store.Entry))
    (hmiss : ∀ entry, found ≠ .ok (some entry)) :
    ∃ left, Work.Leads (Activity.fetch kiosk frontPage).work (looking frontPage found) left := by
  have whole : Work.Leads (Activity.fetch kiosk frontPage).work _ _ :=
    fetch_work_eq ▸ (leads_looking class_frontPage hmiss page).bind_of_done _
  obtain ⟨left, hlooking, -⟩ := Work.leads_append_iff.mp whole
  exact ⟨left, hlooking⟩

/-- A call on stores that are out of reach: it waits for the revalidation that it starts. -/
def visit (activity : Activity) (request : Request) (outcome : Except FetchFailure Response)
    (rest : List Exchange) : List Event :=
  [.call (.install kiosk)] ++ (installing (.error .unavailable)).map (.act 0) ++
    [.call activity] ++ (looking request (.error .unavailable)).map (.act 1) ++
    (Job.refreshing kiosk.stores.dynamic request 0 outcome (.error .unavailable)).map (.act 2) ++
    (⟨.await .revalidation 0, outcome⟩ :: rest).map (.act 1)

theorem grants_writing {s : System} (store : String) (request : Request)
    (got : Except FetchFailure Response) (failure : Store.Failure) :
    s.Grants (Precache.writing store request got (.error failure)) s := by
  unfold Precache.writing
  split
  · rfl
  · split
    · exact ⟨_, .failed failure, rfl⟩
    · rfl

/-- Whatever the network answers, such a call goes through if the rest of it does. -/
theorem visit_runs {activity : Activity} {request : Request}
    {outcome : Except FetchFailure Response} {rest : List Exchange} {reply : Reply}
    (hkey : (Store.Key.ofRequest request).isStorable)
    (leads : Work.Leads activity.work
      (looking request (.error .unavailable) ++ ⟨.await .revalidation 0, outcome⟩ :: rest)
      (.done reply))
    (granted : ∀ s : System, s.tables = .empty → s.Grants rest s) :
    ∃ t, Run (fun _ => True) (.new [kiosk] .empty) (visit activity request outcome rest) t ∧
      t.tasks[1]? = some ⟨.call activity, .done reply⟩ ∧
      ∀ task ∈ t.tasks, ∃ reply, task.work = .done reply := by
  obtain ⟨asked, hlooking, hanswered⟩ := Work.leads_append_iff.mp leads
  exact ⟨_, .append (.append (.append (.append installed_runs (.call trivial))
    (.of_leads hlooking rfl ⟨_, .moved rfl, _, .failed _, _, .begun rfl, rfl⟩))
    (.of_leads (Purpose.leads_revalidate hkey outcome _) rfl
      ⟨_, .fetched _, _, .reported, grants_writing _ _ _ _⟩))
    (.of_leads hanswered rfl ⟨_, .awaited rfl, granted _ rfl⟩), rfl,
    List.forall_mem_cons.mpr ⟨⟨_, rfl⟩, List.forall_mem_cons.mpr ⟨⟨_, rfl⟩,
      List.forall_mem_singleton.mpr ⟨_, rfl⟩⟩⟩⟩

/-- One read is cut off, and the other finds nothing. -/
def resolving : List Exchange :=
  [⟨.storage (.matchAny (.ofRequest frontPage)), .error .abandoned⟩,
    ⟨.storage (.matchAny (.get offlineUrl)), .ok none⟩]

theorem leads_resolve : Work.Leads
    (Fallback.resolve kiosk.settings.offlinePage frontPage .navigation) resolving
    (.done (.ofFallback (Fallback.offlineResponse frontPage.url))) := by
  refine .step ?_
  change Work.Leads (Fallback.offlinePage _ frontPage .navigation >>= _) _ _
  unfold Fallback.offlinePage
  rw [join_offlinePage]
  exact .step (.refl _)

theorem leads_brokenVisit : Work.Leads (Activity.fetch kiosk frontPage).work
    (looking frontPage (.error .unavailable) ++
      ⟨.await .revalidation 0, .error refused⟩ :: resolving)
    (.done (.served (.ofFallback (Fallback.offlineResponse frontPage.url)))) := by
  rw [fetch_work_eq]
  exact (responds_of_resolve class_frontPage
    (Strategy.leads_inquiring_miss (by nofun) 0 (.error refused)) leads_resolve).bind_of_done _

theorem not_goesOn {calls : Activity → Prop} {t : System} {number : Nat}
    (hdone : ∀ task ∈ t.tasks, ∃ reply, task.work = .done reply) : ¬GoesOn calls t number := by
  rintro ⟨exchange, u, step⟩
  cases step with
  | act here answers =>
      obtain ⟨reply, hwork⟩ := hdone _ (List.mem_of_getElem? here)
      cases hwork

/-- With the network refused and nothing to be read, the call is told that it is offline. -/
theorem answered_offline : ∃ t served, Run (fun _ => True) (.new [kiosk] .empty)
      (visit (.fetch kiosk frontPage) frontPage (.error refused) resolving) t ∧
    t.tasks[1]? = some ⟨.call (.fetch kiosk frontPage), .done (.served served)⟩ ∧
    Answered (kiosk.recourses frontPage .navigation) frontPage.url
      ((looking frontPage (.error .unavailable) ++
        ⟨.await .revalidation 0, .error refused⟩ :: resolving).filterMap Exchange.attempt?)
      served := by
  have hempty : Store.Tables.empty.matchAny (.get offlineUrl) = .ok none := by
    simp [Store.Tables.matchAny, Store.Tables.findAny?]
  obtain ⟨t, run, here, hdone⟩ := visit_runs isStorable_frontPage leads_brokenVisit
    fun s htables => ⟨_, .failed _, _, .matched (htables ▸ hempty), rfl⟩
  have hactive : history 1 (visit (.fetch kiosk frontPage) frontPage (.error refused) resolving) =
      ⟨.lifecycle kiosk.number .read, .active⟩ ::
        (Strategy.inquiring kiosk.stores frontPage (.error .unavailable) 0 ++
          ⟨.await .revalidation 0, .error refused⟩ :: resolving) := rfl
  obtain ⟨-, -, -, ⟨served, hserved, answered⟩ | hgo | ⟨_, -, -, -, -, hgo⟩⟩ :=
    answered_while_active run here hactive class_frontPage
  · exact ⟨t, served, run, hserved ▸ here, answered⟩
  · exact absurd hgo (not_goesOn hdone)
  · exact absurd hgo (not_goesOn hdone)

end Kiosk

end OfflineAgent
