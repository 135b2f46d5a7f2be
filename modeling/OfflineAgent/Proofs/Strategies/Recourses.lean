import Mathlib
import OfflineAgent.Proofs.Agent.Operations

/-!
# The recourses of an agent

An active agent answers a request from the first of a few recourses that has something to serve:
stored copies and the network, in an order that depends on the class of the request. Whatever its
reads and the network answer, a call takes to them one after the other and to nothing else; if all
of them fail it says that it is offline.
-/

namespace OfflineAgent

inductive Recourse where
  /-- What one store holds, or whatever is stored. -/
  | stored (store : Option String) (key : Store.Key)
  | network
deriving DecidableEq

/-- A recourse that was taken to, with what it had to serve. -/
structure Attempt where
  recourse : Recourse
  found : Option Served

/-- The recourses were tried in their order until one had something to serve. -/
def Tried : List Recourse → List Attempt → Option Served → Prop
  | [], attempts, served => attempts = [] ∧ served = none
  | recourse :: rest, attempts, served =>
    ∃ found more, attempts = ⟨recourse, found⟩ :: more ∧
      match found with
      | some hit => more = [] ∧ served = some hit
      | none => Tried rest more served

/-- A read that fails found nothing. -/
def foundIn (answer : Except Store.Failure (Option Store.Entry)) : Option Served :=
  answer.toOption.join.map .ofCache

def fetchedIn (answer : Except FetchFailure Response) : Option Served :=
  answer.toOption.map .ofNetwork

def Exchange.attempt? : Exchange → Option Attempt
  | ⟨.storage (.get store key), answer⟩ => some ⟨.stored (some store) key, foundIn answer⟩
  | ⟨.storage (.matchAny key), answer⟩ => some ⟨.stored none key, foundIn answer⟩
  | ⟨.fetch _, answer⟩ => some ⟨.network, fetchedIn answer⟩
  | ⟨.await .revalidation _, answer⟩ => some ⟨.network, fetchedIn answer⟩
  | _ => none

/-- The offline page is a recourse of navigations alone. -/
def Fallback.pageRecourses (page : String) (request : Request) (kind : RequestClass) :
    List Recourse :=
  match kind, request.url.join page with
  | .navigation, .ok url => [.stored none (.get url)]
  | _, _ => []

/-- Static assets and navigations are looked up before the network is asked, all others
afterwards; then comes what is stored for the very request. -/
def Agent.recourses (agent : Agent) (request : Request) (kind : RequestClass) : List Recourse :=
  let exact : Recourse := .stored none (.ofRequest request)
  let page := Fallback.pageRecourses agent.settings.offlinePage request kind
  match kind with
  | .staticAsset =>
    .stored (some agent.stores.static) (.ofRequest request) :: .network :: exact :: page
  | .navigation => exact :: .network :: exact :: page
  | .api | .other => .network :: exact :: exact :: page

/-! ### Trying in order -/

theorem Tried.of_hit {recourses : List Recourse} {attempts : List Attempt} {hit : Served}
    (tried : Tried recourses attempts (some hit)) :
    ∃ recourse ∈ recourses, ⟨recourse, some hit⟩ ∈ attempts := by
  induction recourses generalizing attempts with
  | nil => cases tried.2
  | cons recourse rest ih =>
      obtain ⟨found, more, rfl, hfound⟩ := tried
      cases found with
      | some first =>
          obtain ⟨-, hsame⟩ := hfound
          obtain rfl := Option.some.inj hsame
          exact ⟨recourse, List.mem_cons_self, List.mem_cons_self⟩
      | none =>
          obtain ⟨later, hlater, hattempt⟩ := ih hfound
          exact ⟨later, List.mem_cons_of_mem _ hlater, List.mem_cons_of_mem _ hattempt⟩

/-- What was found is an entry that was read, or the response of the network. -/
theorem of_attempt_found {exchange : Exchange} {recourse : Recourse} {served : Served}
    (hattempt : exchange.attempt? = some ⟨recourse, some served⟩) :
    (∃ entry, served = .ofCache entry ∧
        ((∃ store key, exchange = ⟨.storage (.get store key), .ok (some entry)⟩ ∧
            recourse = .stored (some store) key) ∨
          ∃ key, exchange = ⟨.storage (.matchAny key), .ok (some entry)⟩ ∧
            recourse = .stored none key)) ∨
      ∃ response, served = .ofNetwork response := by
  have hread {answer : Except Store.Failure (Option Store.Entry)}
      (hfound : foundIn answer = some served) :
      ∃ entry, served = .ofCache entry ∧ answer = .ok (some entry) := by
    cases answer with
    | error failure => cases hfound
    | ok found =>
        cases found with
        | none => cases hfound
        | some entry => exact ⟨entry, (Option.some.inj hfound).symm, rfl⟩
  have hfetch {answer : Except FetchFailure Response} (hfound : fetchedIn answer = some served) :
      ∃ response, served = .ofNetwork response := by
    cases answer with
    | error failure => cases hfound
    | ok response => exact ⟨response, (Option.some.inj hfound).symm⟩
  obtain ⟨op, answer⟩ := exchange
  cases op with
  | storage call =>
      cases call with
      | get store key =>
          obtain ⟨rfl, hfound⟩ := Attempt.mk.inj (Option.some.inj hattempt)
          obtain ⟨entry, hserved, rfl⟩ := hread hfound
          exact .inl ⟨entry, hserved, .inl ⟨store, key, rfl, rfl⟩⟩
      | matchAny key =>
          obtain ⟨rfl, hfound⟩ := Attempt.mk.inj (Option.some.inj hattempt)
          obtain ⟨entry, hserved, rfl⟩ := hread hfound
          exact .inl ⟨entry, hserved, .inr ⟨key, rfl, rfl⟩⟩
      | openStore | put | names | delete => cases hattempt
  | fetch asked => exact .inr (hfetch (Attempt.mk.inj (Option.some.inj hattempt)).2)
  | await channel ticket =>
      cases channel with
      | precache => cases hattempt
      | revalidation => exact .inr (hfetch (Attempt.mk.inj (Option.some.inj hattempt)).2)
  | lifecycle | start | report => cases hattempt

/-- How far a call has come with its recourses. -/
structure Course where
  left : List Recourse
  served : Option Served
  /-- The revalidation that the call has started. -/
  revalidation : Option Ticket

/-- The next recourse is tried, unless one before it had something to serve. -/
def Course.try (course : Course) (recourse : Recourse) (found : Option Served) : Option Course :=
  match course.served, course.left with
  | none, next :: rest =>
    if next = recourse then some { course with left := rest, served := found } else none
  | _, _ => none

/-- A call on an agent that handles the request tries one recourse after the other, asks the network
for nothing but the request, awaits only the revalidation that it started, and writes. -/
def trying (agent : Agent) (request : Request) : Discipline Course
  | course, .storage (.get store key), answer =>
    course.try (.stored (some store) key) (foundIn answer)
  | course, .storage (.matchAny key), answer => course.try (.stored none key) (foundIn answer)
  | course, .storage (.put _ _ _), _ => some course
  | course, .fetch asked, answer =>
    if asked = request then course.try .network (fetchedIn answer) else none
  | course, .start job, ticket =>
    if job = .revalidate agent.stores.dynamic request then
      some { course with revalidation := some ticket }
    else none
  | course, .await .revalidation ticket, outcome =>
    if course.revalidation = some ticket then course.try .network (fetchedIn outcome) else none
  | _, _, _ => none

section

variable {agent : Agent} {request : Request} {course next : Course} {history : List Exchange}

theorem Course.try_eq_some {recourse : Recourse} {found : Option Served}
    (htry : course.try recourse found = some next) :
    course.served = none ∧ course.left = recourse :: next.left ∧ next.served = found ∧
      next.revalidation = course.revalidation := by
  obtain ⟨left, served, revalidation⟩ := course
  cases served with
  | some hit => cases htry
  | none =>
      cases left with
      | nil => cases htry
      | cons first rest =>
          obtain ⟨rfl, hnext⟩ := Option.ite_none_right_eq_some.mp htry
          obtain rfl := Option.some.inj hnext
          exact ⟨rfl, rfl, rfl, rfl⟩

/-- An exchange is an attempt at the next recourse, or it is none and changes neither what was
served nor what is left. -/
theorem attempt_of_trying {op : Op} {answer : op.Answer}
    (htry : trying agent request course op answer = some next) :
    (∃ recourse, Exchange.attempt? ⟨op, answer⟩ = some ⟨recourse, next.served⟩ ∧
        course.served = none ∧ course.left = recourse :: next.left) ∨
      (Exchange.attempt? ⟨op, answer⟩ = none ∧ next.served = course.served ∧
        next.left = course.left) := by
  have hattempt {recourse : Recourse} {found : Option Served}
      (hcourse : course.try recourse found = some next)
      (hexchange : Exchange.attempt? ⟨op, answer⟩ = some ⟨recourse, found⟩) :
      ∃ recourse, Exchange.attempt? ⟨op, answer⟩ = some ⟨recourse, next.served⟩ ∧
        course.served = none ∧ course.left = recourse :: next.left := by
    obtain ⟨hfresh, hleft, rfl, -⟩ := Course.try_eq_some hcourse
    exact ⟨recourse, hexchange, hfresh, hleft⟩
  cases op with
  | storage call =>
      cases call with
      | get store key => exact .inl (hattempt htry rfl)
      | matchAny key => exact .inl (hattempt htry rfl)
      | put store key response =>
          obtain rfl := Option.some.inj htry
          exact .inr ⟨rfl, rfl, rfl⟩
      | openStore | names | delete => cases htry
  | fetch asked =>
      obtain ⟨-, hcourse⟩ := Option.ite_none_right_eq_some.mp htry
      exact .inl (hattempt hcourse rfl)
  | lifecycle number step => cases htry
  | start job =>
      obtain ⟨-, hnext⟩ := Option.ite_none_right_eq_some.mp htry
      obtain rfl := Option.some.inj hnext
      exact .inr ⟨rfl, rfl, rfl⟩
  | report channel ticket outcome => cases htry
  | await channel ticket =>
      cases channel with
      | precache => cases htry
      | revalidation =>
          obtain ⟨-, hcourse⟩ := Option.ite_none_right_eq_some.mp htry
          exact .inl (hattempt hcourse rfl)

theorem attempts_of_served {served : Served} (hserved : course.served = some served)
    (hafter : (trying agent request).after course history = some next) :
    history.filterMap Exchange.attempt? = [] ∧ next.served = some served := by
  induction history generalizing course with
  | nil =>
      obtain rfl := Option.some.inj hafter
      exact ⟨rfl, hserved⟩
  | cons exchange history ih =>
      obtain ⟨mid, hmid, hrest⟩ := Option.bind_eq_some_iff.mp hafter
      obtain ⟨recourse, -, hfresh, -⟩ | ⟨hnone, hsame, -⟩ := attempt_of_trying hmid
      · rw [hserved] at hfresh
        cases hfresh
      · rw [List.filterMap_cons_none hnone]
        exact ih (hsame.trans hserved) hrest

/-- A call that has something to serve, or no recourse left, has tried them in their order. -/
theorem tried_of_after (hfresh : course.served = none)
    (hafter : (trying agent request).after course history = some next)
    (hdone : next.served.isSome ∨ next.left = []) :
    Tried course.left (history.filterMap Exchange.attempt?) next.served := by
  induction history generalizing course with
  | nil =>
      obtain rfl := Option.some.inj hafter
      rw [hfresh] at hdone ⊢
      rw [hdone.resolve_left (by decide)]
      exact ⟨rfl, rfl⟩
  | cons exchange history ih =>
      obtain ⟨mid, hmid, hrest⟩ := Option.bind_eq_some_iff.mp hafter
      obtain ⟨recourse, hattempt, -, hleft⟩ | ⟨hnone, hsame, hleft⟩ := attempt_of_trying hmid
      · rw [hleft, List.filterMap_cons_some hattempt]
        refine ⟨mid.served, _, rfl, ?_⟩
        cases hserved : mid.served with
        | none => exact ih hserved hrest
        | some hit => exact attempts_of_served hserved hrest
      · rw [List.filterMap_cons_none hnone, ← hleft]
        exact ih (hsame.trans hfresh) hrest

/-- A revalidation that a call awaits is one that it started. -/
theorem started_of_after (hafter : (trying agent request).after course history = some next)
    {ticket : Ticket} (hticket : next.revalidation = some ticket) :
    course.revalidation = some ticket ∨
      (⟨.start (.revalidate agent.stores.dynamic request), ticket⟩ : Exchange) ∈ history := by
  induction history generalizing course with
  | nil =>
      obtain rfl := Option.some.inj hafter
      exact .inl hticket
  | cons exchange history ih =>
      obtain ⟨mid, hmid, hrest⟩ := Option.bind_eq_some_iff.mp hafter
      refine (ih hrest).elim (fun hbefore => ?_) fun hmem => .inr (List.mem_cons_of_mem _ hmem)
      obtain ⟨op, answer⟩ := exchange
      cases op with
      | storage call =>
          cases call with
          | get | matchAny => exact .inl ((Course.try_eq_some hmid).2.2.2 ▸ hbefore)
          | put store key response =>
              obtain rfl := Option.some.inj hmid
              exact .inl hbefore
          | openStore | names | delete => cases hmid
      | fetch asked =>
          obtain ⟨-, hcourse⟩ := Option.ite_none_right_eq_some.mp hmid
          exact .inl ((Course.try_eq_some hcourse).2.2.2 ▸ hbefore)
      | lifecycle number step => cases hmid
      | start job =>
          obtain ⟨rfl, hnext⟩ := Option.ite_none_right_eq_some.mp hmid
          obtain rfl := Option.some.inj hnext
          obtain rfl := Option.some.inj hbefore
          exact .inr List.mem_cons_self
      | report channel ticket outcome => cases hmid
      | await channel ticket =>
          cases channel with
          | precache => cases hmid
          | revalidation =>
              obtain ⟨-, hcourse⟩ := Option.ite_none_right_eq_some.mp hmid
              exact .inl ((Course.try_eq_some hcourse).2.2.2 ▸ hbefore)

end

/-- What the network had to serve is what it answered the request, or the revalidation of it that
the call has started. -/
theorem network_of_after {agent : Agent} {request : Request} {course next : Course}
    {history : List Exchange} {found : Option Served} (hfresh : course.revalidation = none)
    (hafter : (trying agent request).after course history = some next)
    (hmem : ⟨.network, found⟩ ∈ history.filterMap Exchange.attempt?) :
    ∃ outcome, found = fetchedIn outcome ∧
      ((⟨.fetch request, outcome⟩ : Exchange) ∈ history ∨
        ∃ ticket, (⟨.await .revalidation ticket, outcome⟩ : Exchange) ∈ history ∧
          (⟨.start (.revalidate agent.stores.dynamic request), ticket⟩ : Exchange) ∈ history) := by
  obtain ⟨⟨op, answer⟩, hexchange, hattempt⟩ := List.mem_filterMap.mp hmem
  obtain ⟨first, second, before, after, rfl, hbefore, htry⟩ :=
    Discipline.before_of_mem hafter hexchange
  cases op with
  | storage call => cases call <;> cases hattempt
  | fetch asked =>
      obtain ⟨rfl, -⟩ := Option.ite_none_right_eq_some.mp htry
      exact ⟨answer, (Attempt.mk.inj (Option.some.inj hattempt)).2.symm, .inl hexchange⟩
  | await channel ticket =>
      cases channel with
      | precache => cases hattempt
      | revalidation =>
          obtain ⟨hticket, -⟩ := Option.ite_none_right_eq_some.mp htry
          have hstarted := (started_of_after hbefore hticket).resolve_left (by simp [hfresh])
          exact ⟨answer, (Attempt.mk.inj (Option.some.inj hattempt)).2.symm,
            .inr ⟨ticket, hexchange, List.mem_append_left _ hstarted⟩⟩
  | lifecycle | start | report => cases hattempt

/-! ### What a call tries -/

/-- The call has something to serve, or it still has the recourses `rest`. -/
def Course.Yields (rest : List Recourse) (course : Course) (outcome : Option Served) : Prop :=
  course.served = outcome ∧ (outcome = none → course.left = rest)

section

variable {agent : Agent} {request : Request} {ticket : Option Ticket}

theorem follows_lookup (store : Option String) (key : Store.Key) (rest : List Recourse) :
    (Stores.lookup store key).Follows (trying agent request)
      (fun course entry => course = ⟨rest, entry.map .ofCache, ticket⟩)
      ⟨.stored store key :: rest, none, ticket⟩ := by
  cases store with
  | none =>
      intro answer
      refine ⟨⟨rest, foundIn answer, ticket⟩, by simp [trying, Course.try], ?_⟩
      cases answer <;> rfl
  | some store =>
      intro answer
      refine ⟨⟨rest, foundIn answer, ticket⟩, by simp [trying, Course.try], ?_⟩
      cases answer <;> rfl

theorem follows_keep (store : String) (key : Store.Key) (response : Response) (course : Course) :
    (Stores.keep store key response).Follows (trying agent request)
      (fun after _ => after = course) course := by
  have hasks : (Stores.keep store key response).Asks fun op =>
      ∃ store key response, op = .storage (.put store key response) :=
    Stores.asks_keep fun _ _ => ⟨_, _, _, rfl⟩
  refine hasks.follows fun op answer hput => ?_
  obtain ⟨store, key, response, rfl⟩ := hput
  rfl

theorem follows_networkFirst (rest : List Recourse) :
    (Strategy.networkFirst.run agent.stores request).Follows (trying agent request)
      (fun course outcome => course.Yields rest outcome.toOption)
      ⟨.network :: .stored none (.ofRequest request) :: rest, none, none⟩ := by
  intro answer
  refine ⟨⟨.stored none (.ofRequest request) :: rest, fetchedIn answer, none⟩,
    by simp [trying, Course.try], ?_⟩
  cases answer with
  | ok response =>
      refine (follows_keep _ _ _ _).bind fun after _ hafter => ?_
      subst hafter
      exact ⟨rfl, nofun⟩
  | error failure =>
      refine (follows_lookup _ _ rest).bind fun after entry hafter => ?_
      subst hafter
      cases entry with
      | some entry => exact ⟨rfl, nofun⟩
      | none => exact ⟨rfl, fun _ => rfl⟩

theorem follows_cacheFirst (rest : List Recourse) :
    (Strategy.cacheFirst.run agent.stores request).Follows (trying agent request)
      (fun course outcome => course.Yields rest outcome.toOption)
      ⟨.stored (some agent.stores.static) (.ofRequest request) :: .network :: rest, none,
        none⟩ := by
  refine (follows_lookup _ _ (.network :: rest)).bind fun after entry hafter => ?_
  subst hafter
  cases entry with
  | some entry => exact ⟨rfl, nofun⟩
  | none =>
      intro answer
      refine ⟨⟨rest, fetchedIn answer, none⟩, by simp [trying, Course.try], ?_⟩
      cases answer with
      | ok response =>
          refine (follows_keep _ _ _ _).bind fun after _ hafter => ?_
          subst hafter
          exact ⟨rfl, nofun⟩
      | error failure => exact ⟨rfl, fun _ => rfl⟩

theorem follows_staleWhileRevalidate (rest : List Recourse) :
    (Strategy.staleWhileRevalidate.run agent.stores request).Follows (trying agent request)
      (fun course outcome => course.Yields rest outcome.toOption)
      ⟨.stored none (.ofRequest request) :: .network :: rest, none, none⟩ := by
  refine (follows_lookup _ _ (.network :: rest)).bind fun after entry hafter => ?_
  subst hafter
  intro ticket
  refine ⟨⟨.network :: rest, entry.map .ofCache, some ticket⟩, by simp [trying], ?_⟩
  cases entry with
  | some entry => exact ⟨rfl, nofun⟩
  | none =>
      intro outcome
      refine ⟨⟨rest, fetchedIn outcome, some ticket⟩, by simp [trying, Course.try], ?_⟩
      cases outcome with
      | ok response => exact ⟨rfl, nofun⟩
      | error failure => exact ⟨rfl, fun _ => rfl⟩

/-- What a call serves that has something to serve, or no recourse left. -/
def Course.Settles (request : Request) (course : Course) (served : Served) : Prop :=
  served = course.served.getD (.ofFallback (Fallback.offlineResponse request.url)) ∧
    (course.served.isSome ∨ course.left = [])

theorem follows_offlinePage (page : String) (kind : RequestClass) :
    (Fallback.offlinePage page request kind).Follows (trying agent request)
      (fun course entry => course = ⟨[], entry.map .ofCache, ticket⟩)
      ⟨Fallback.pageRecourses page request kind, none, ticket⟩ := by
  unfold Fallback.offlinePage Fallback.pageRecourses
  cases request.url.join page with
  | error fault => cases kind <;> rfl
  | ok url =>
      cases kind with
      | navigation => exact follows_lookup none _ []
      | api | staticAsset | other => rfl

theorem follows_resolve (page : String) (kind : RequestClass) :
    (Fallback.resolve page request kind).Follows (trying agent request)
      (fun course served => course.Settles request served)
      ⟨.stored none (.ofRequest request) :: Fallback.pageRecourses page request kind, none,
        ticket⟩ := by
  refine (follows_lookup _ _ _).bind fun after entry hafter => ?_
  subst hafter
  cases entry with
  | some entry => exact ⟨rfl, .inl rfl⟩
  | none =>
      refine (follows_offlinePage page kind).bind fun after entry hafter => ?_
      subst hafter
      cases entry with
      | some entry => exact ⟨rfl, .inl rfl⟩
      | none => exact ⟨rfl, .inr rfl⟩

/-- What an active agent makes of a strategy's outcome. -/
def Agent.settle (agent : Agent) (request : Request) (kind : RequestClass) :
    Except Strategy.Failure Served → Work Verdict
  | .ok served => .done (.respond served)
  | .error _ => do
    return .respond (← Fallback.resolve agent.settings.offlinePage request kind)

/-- A call of an active agent takes to the recourses for the class of its request. -/
theorem follows_settle (kind : RequestClass) :
    (kind.strategy.run agent.stores request >>= agent.settle request kind).Follows
      (trying agent request)
      (fun course verdict => ∃ served, verdict = .respond served ∧ course.Settles request served)
      ⟨agent.recourses request kind, none, none⟩ := by
  have hsettle (course : Course) (outcome : Except Strategy.Failure Served)
      (hyields : course.Yields (.stored none (.ofRequest request) ::
        Fallback.pageRecourses agent.settings.offlinePage request kind) outcome.toOption) :
      (agent.settle request kind outcome).Follows (trying agent request)
        (fun course verdict => ∃ served, verdict = .respond served ∧ course.Settles request served)
        course := by
    obtain ⟨left, found, ticket⟩ := course
    obtain ⟨hserved, hleft⟩ := hyields
    cases outcome with
    | ok served =>
        obtain rfl : found = some served := hserved
        exact ⟨served, rfl, rfl, .inl rfl⟩
    | error failure =>
        obtain rfl : found = none := hserved
        obtain rfl := hleft rfl
        exact (follows_resolve _ kind).bind fun after served hafter => ⟨served, rfl, hafter⟩
  cases kind with
  | api => exact (follows_networkFirst _).bind hsettle
  | staticAsset => exact (follows_cacheFirst _).bind hsettle
  | navigation => exact (follows_staleWhileRevalidate _).bind hsettle
  | other => exact (follows_networkFirst _).bind hsettle

/-! ### How long it takes -/

theorem endsWithin_lookup (store : Option String) (key : Store.Key) :
    (Stores.lookup store key).EndsWithin 1 := by
  cases store <;>
    · intro answer
      cases answer <;> exact Work.endsWithin_done

theorem endsWithin_keep (store : String) (key : Store.Key) (response : Response) :
    (Stores.keep store key response).EndsWithin 1 := by
  have hput : (Stores.put store key response).EndsWithin 1 := by
    unfold Stores.put
    split
    · intro answer
      cases answer <;> exact Work.endsWithin_done
    · exact Work.endsWithin_done
  exact hput.bind fun _ => (Work.endsWithin_done : Work.EndsWithin 0 _)

theorem endsWithin_networkFirst {stores : StorePair} :
    (Strategy.networkFirst.run stores request).EndsWithin 2 := by
  intro answer
  change Work.EndsWithin (1 + 0) _
  cases answer with
  | ok response => exact (endsWithin_keep _ _ response).bind fun _ => Work.endsWithin_done
  | error failure =>
      refine (endsWithin_lookup _ _).bind fun entry => ?_
      cases entry <;> exact Work.endsWithin_done

theorem endsWithin_cacheFirst {stores : StorePair} :
    (Strategy.cacheFirst.run stores request).EndsWithin 3 := by
  change Work.EndsWithin (1 + 2) _
  refine (endsWithin_lookup _ _).bind fun entry => ?_
  cases entry with
  | some entry => exact Work.endsWithin_done
  | none =>
      intro answer
      change Work.EndsWithin (1 + 0) _
      cases answer with
      | ok response => exact (endsWithin_keep _ _ response).bind fun _ => Work.endsWithin_done
      | error failure => exact Work.endsWithin_done

theorem endsWithin_staleWhileRevalidate {stores : StorePair} :
    (Strategy.staleWhileRevalidate.run stores request).EndsWithin 3 := by
  change Work.EndsWithin (1 + 2) _
  refine (endsWithin_lookup _ _).bind fun entry ticket => ?_
  cases entry with
  | some entry => exact Work.endsWithin_done
  | none =>
      intro outcome
      cases outcome <;> exact Work.endsWithin_done

theorem endsWithin_strategy (order : Strategy) (stores : StorePair) :
    (order.run stores request).EndsWithin 3 := by
  cases order with
  | networkFirst => exact endsWithin_networkFirst.mono (by decide)
  | cacheFirst => exact endsWithin_cacheFirst
  | staleWhileRevalidate => exact endsWithin_staleWhileRevalidate

theorem endsWithin_resolve (page : String) (kind : RequestClass) :
    (Fallback.resolve page request kind).EndsWithin 2 := by
  have hpage : (Fallback.offlinePage page request kind).EndsWithin 1 := by
    unfold Fallback.offlinePage
    split
    · exact endsWithin_lookup _ _
    · exact Work.endsWithin_done
  change Work.EndsWithin (1 + (1 + 0)) _
  refine (endsWithin_lookup _ _).bind fun entry => ?_
  cases entry with
  | some entry => exact Work.endsWithin_done
  | none =>
      refine hpage.bind fun entry => ?_
      cases entry <;> exact Work.endsWithin_done

theorem endsWithin_settle (kind : RequestClass) :
    (kind.strategy.run agent.stores request >>= agent.settle request kind).EndsWithin 5 := by
  change Work.EndsWithin (3 + (2 + 0)) _
  refine (endsWithin_strategy _ _).bind fun outcome => ?_
  cases outcome with
  | ok served => exact Work.endsWithin_done
  | error failure => exact (endsWithin_resolve _ kind).bind fun _ => Work.endsWithin_done

end

/-! ### Handling a request -/

/-- Handling a request begins with a look at the state; only an active agent goes on, with a request
that is one for it. -/
theorem handle_eq (agent : Agent) (request : Request) :
    agent.handle request = .ask (.lifecycle agent.number .read) fun state =>
      if state ≠ .active then .done .passThrough
      else
        match RequestClass.ofRequest? agent.settings request with
        | none => .done .passThrough
        | some kind => kind.strategy.run agent.stores request >>= agent.settle request kind := by
  have hsettle (kind : RequestClass) : agent.settle request kind = fun
      | .ok served => return .respond served
      | .error _ => do
        return .respond (← Fallback.resolve agent.settings.offlinePage request kind) := by
    funext outcome
    cases outcome <;> rfl
  simp only [hsettle]
  rfl

/-- Unless a call reads that the agent is active, and the request is one for the agent, it passes
the request through and does nothing else. -/
theorem leads_handle {agent : Agent} {request : Request} {history : List Exchange}
    {left : Work Verdict} (leads : Work.Leads (agent.handle request) history left) :
    (history = [] ∧ left = agent.handle request) ∨
      ∃ state rest, history = ⟨.lifecycle agent.number .read, state⟩ :: rest ∧
        ((rest = [] ∧ left = .done .passThrough ∧
            (state = .active → RequestClass.ofRequest? agent.settings request = none)) ∨
          ∃ kind, state = .active ∧ RequestClass.ofRequest? agent.settings request = some kind ∧
            Work.Leads (kind.strategy.run agent.stores request >>= agent.settle request kind) rest
              left) := by
  rw [handle_eq] at leads ⊢
  obtain ⟨rfl, rfl⟩ | ⟨state, rest, rfl, hrest⟩ := Work.leads_ask_iff.mp leads
  · exact .inl ⟨rfl, rfl⟩
  refine .inr ⟨state, rest, rfl, ?_⟩
  split at hrest
  · rename_i hother
    obtain ⟨hnone, hleft⟩ := Work.leads_done_iff.mp hrest
    exact .inl ⟨hnone, hleft, fun hactive => absurd hactive hother⟩
  · rename_i hactive
    split at hrest
    · rename_i hkind
      obtain ⟨hnone, hleft⟩ := Work.leads_done_iff.mp hrest
      exact .inl ⟨hnone, hleft, fun _ => hkind⟩
    · rename_i kind hkind
      exact .inr ⟨kind, not_not.mp hactive, hkind, hrest⟩

/-- An active agent responds with what the strategy for the class of the request serves. -/
theorem responds_of_run {agent : Agent} {request : Request} {kind : RequestClass}
    {history : List Exchange} {served : Served}
    (hkind : RequestClass.ofRequest? agent.settings request = some kind)
    (leads : Work.Leads (kind.strategy.run agent.stores request) history (.done (.ok served))) :
    Work.Leads (agent.handle request) (⟨.lifecycle agent.number .read, .active⟩ :: history)
      (.done (.respond served)) := by
  rw [handle_eq, hkind]
  exact .step (leads.bind_of_done _)

/-- And where the strategy fails, with what is fallen back on. -/
theorem responds_of_resolve {agent : Agent} {request : Request} {kind : RequestClass}
    {history rest : List Exchange} {failure : Strategy.Failure} {served : Served}
    (hkind : RequestClass.ofRequest? agent.settings request = some kind)
    (leads : Work.Leads (kind.strategy.run agent.stores request) history (.done (.error failure)))
    (resolves : Work.Leads (Fallback.resolve agent.settings.offlinePage request kind) rest
      (.done served)) :
    Work.Leads (agent.handle request)
      (⟨.lifecycle agent.number .read, .active⟩ :: (history ++ rest))
      (.done (.respond served)) := by
  rw [handle_eq, hkind]
  exact .step (leads.bind (resolves.bind_of_done _))

end OfflineAgent
