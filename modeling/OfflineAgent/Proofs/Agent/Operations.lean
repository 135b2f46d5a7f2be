import OfflineAgent.Proofs.Work.Discipline
import OfflineAgent.Server.Router

/-!
# What the work of an agent asks for

For each piece of work the operations it may ask for: it keeps within any set of operations that
admits those. Writes are asked for only under a key that may be stored and with a whole response.
And then the courses that the work takes, for the answers that they depend on: a path through it
from its beginning to its end.
-/

namespace OfflineAgent

variable {allowed : Op → Prop}

namespace Stores

theorem asks_put {store : String} {key : Store.Key} {response : Response}
    (hput : key.isStorable → response.isComplete → allowed (.storage (.put store key response))) :
    (put store key response).Asks allowed := by
  unfold put
  split
  · rename_i hstored
    rw [Bool.and_eq_true] at hstored
    refine ⟨hput hstored.1 hstored.2, fun answer => ?_⟩
    cases answer <;> exact trivial
  · exact trivial

theorem put_of_storable {store : String} {key : Store.Key} {response : Response}
    (hkey : key.isStorable) (hresponse : response.isComplete) :
    put store key response = .ask (.storage (.put store key response)) fun
      | .ok () => .done (.ok true)
      | .error failure => .done (.error failure) := by
  rw [put, hkey, hresponse]
  rfl

theorem put_of_refused {store : String} {key : Store.Key} {response : Response}
    (hrefused : ¬(key.isStorable ∧ response.isComplete)) :
    put store key response = .done (.ok false) := by
  rw [← Bool.and_eq_true] at hrefused
  rw [put, if_neg hrefused]
  rfl

theorem asks_keep {store : String} {key : Store.Key} {response : Response}
    (hput : key.isStorable → response.isComplete → allowed (.storage (.put store key response))) :
    (keep store key response).Asks allowed :=
  (asks_put hput).bind fun _ => trivial

theorem asks_lookup_some {store : String} {key : Store.Key}
    (hget : allowed (.storage (.get store key))) : (lookup (some store) key).Asks allowed := by
  refine ⟨hget, fun answer => ?_⟩
  cases answer <;> exact trivial

theorem asks_lookup_none {key : Store.Key} (hmatch : allowed (.storage (.matchAny key))) :
    (lookup none key).Asks allowed := by
  refine ⟨hmatch, fun answer => ?_⟩
  cases answer <;> exact trivial

theorem deleteStale_of_kept {whitelist rest : List String} {name : String}
    (hkept : whitelist.contains name) :
    deleteStale whitelist (name :: rest) = deleteStale whitelist rest := by
  rw [deleteStale, if_pos hkept]

theorem asks_deleteStale {whitelist names : List String}
    (hdelete : ∀ name, allowed (.storage (.delete name))) :
    (deleteStale whitelist names).Asks allowed := by
  induction names with
  | nil => exact trivial
  | cons name rest ih =>
      unfold deleteStale
      split
      · exact ih
      · refine ⟨hdelete name, fun answer => ?_⟩
        cases answer with
        | ok found => exact ih.bind fun _ => trivial
        | error failure => exact ih

theorem asks_reconcile {whitelist : List String} (hnames : allowed (.storage .names))
    (hdelete : ∀ name, allowed (.storage (.delete name))) :
    (reconcile whitelist).Asks allowed := by
  refine ⟨hnames, fun answer => ?_⟩
  cases answer with
  | ok names => exact (asks_deleteStale hdelete).bind fun _ => trivial
  | error failure => exact trivial

end Stores

theorem toUpper_get : "GET".toUpper = "GET" := by decide +kernel

theorem Store.Key.ofRequest_get (url : Url) : Key.ofRequest (.get url) = .get url := by
  rw [Key.ofRequest, Key.get, Key.new, Key.new, Request.get, Request.new, toUpper_get, toUpper_get]

theorem Store.Key.isStorable_ofRequest {request : Request} (hmethod : request.method = "GET") :
    (Key.ofRequest request).isStorable := by
  rw [isStorable, ofRequest, new, hmethod, toUpper_get]
  exact decide_eq_true rfl

theorem Store.Key.isStorable_ofRequest_get (url : Url) : (Key.ofRequest (.get url)).isStorable :=
  isStorable_ofRequest toUpper_get

namespace Precache

/-- What comes of fetching a resource and writing it: the first that went wrong, if anything did. -/
def result (got : Except FetchFailure Response) (kept : Except Store.Failure Unit) :
    Except Failure Unit :=
  match got with
  | .error failure => .error (.network failure)
  | .ok response =>
    if response.isComplete then kept.mapError .storage else .error (.status response.status)

/-- What is written of a resource: only a whole response. -/
def writing (store : String) (request : Request) (got : Except FetchFailure Response)
    (kept : Except Store.Failure Unit) : List Exchange :=
  match got with
  | .error _ => []
  | .ok response =>
    if response.isComplete then [⟨.storage (.put store (.ofRequest request) response), kept⟩]
    else []

/-- All that a job exchanges that loads a resource. -/
def course (store : String) (request : Request) (ticket : Ticket)
    (got : Except FetchFailure Response) (kept : Except Store.Failure Unit) : List Exchange :=
  ⟨.fetch request, got⟩ :: writing store request got kept ++
    [⟨.report .precache ticket (result got kept), ()⟩]

theorem asks_entry {store : String} {request : Request} (hfetch : allowed (.fetch request))
    (hput : ∀ response, (Store.Key.ofRequest request).isStorable → response.isComplete →
      allowed (.storage (.put store (.ofRequest request) response))) :
    (entry store request).Asks allowed := by
  refine ⟨hfetch, fun answer => ?_⟩
  cases answer with
  | error failure => exact trivial
  | ok response =>
      change Work.Asks allowed (if response.isComplete then _ else _)
      split
      · refine (Stores.asks_put (hput response)).bind fun stored => ?_
        cases stored <;> exact trivial
      · exact trivial

end Precache

namespace Job

theorem asks_revalidate {store : String} {request : Request} {ticket : Ticket}
    (hfetch : allowed (.fetch request))
    (hreport : ∀ outcome, allowed (.report .revalidation ticket outcome))
    (hput : ∀ response, (Store.Key.ofRequest request).isStorable → response.isComplete →
      allowed (.storage (.put store (.ofRequest request) response))) :
    ((revalidate store request).work ticket).Asks allowed := by
  refine ⟨hfetch, fun answer => ?_⟩
  cases answer with
  | error failure => exact ⟨hreport _, fun _ => trivial⟩
  | ok response => exact ⟨hreport _, fun _ => Stores.asks_keep (hput response)⟩

theorem asks_precache {store : String} {request : Request} {ticket : Ticket}
    (hfetch : allowed (.fetch request))
    (hreport : ∀ outcome, allowed (.report .precache ticket outcome))
    (hput : ∀ response, (Store.Key.ofRequest request).isStorable → response.isComplete →
      allowed (.storage (.put store (.ofRequest request) response))) :
    ((precache store request).work ticket).Asks allowed :=
  (Precache.asks_entry hfetch hput).bind fun _ => ⟨hreport _, fun _ => trivial⟩

/-- All that a job exchanges that refreshes a resource. -/
def refreshing (store : String) (request : Request) (ticket : Ticket)
    (got : Except FetchFailure Response) (kept : Except Store.Failure Unit) : List Exchange :=
  ⟨.fetch request, got⟩ :: ⟨.report .revalidation ticket got, ()⟩ ::
    Precache.writing store request got kept

/-- A revalidation keeps what comes whole, whatever comes of the write. -/
theorem leads_revalidate {store : String} {request : Request} {ticket : Ticket}
    (hkey : (Store.Key.ofRequest request).isStorable) (got : Except FetchFailure Response)
    (kept : Except Store.Failure Unit) :
    Work.Leads ((revalidate store request).work ticket) (refreshing store request ticket got kept)
      (.done ()) := by
  cases got with
  | error failure => exact .step (.step (.refl _))
  | ok response =>
      refine .step (.step ?_)
      change Work.Leads (Work.bind (Stores.put _ (.ofRequest request) _) _) _ _
      by_cases hwhole : response.isComplete
      · rw [Stores.put_of_storable hkey hwhole, Precache.writing, if_pos hwhole]
        refine .step ?_
        cases kept <;> exact .refl _
      · rw [Stores.put_of_refused fun hstored => hwhole hstored.2, Precache.writing, if_neg hwhole]
        exact .refl _

/-- A resource of the manifest that comes whole is written before its outcome is reported. -/
theorem leads_precache {store : String} {request : Request} {ticket : Ticket}
    (hkey : (Store.Key.ofRequest request).isStorable) (got : Except FetchFailure Response)
    (kept : Except Store.Failure Unit) :
    Work.Leads ((precache store request).work ticket)
      (Precache.course store request ticket got kept) (.done ()) := by
  cases got with
  | error failure => exact .step (.step (.refl _))
  | ok response =>
      refine .step ?_
      change Work.Leads (Work.bind (if response.isComplete then _ else _) _) _ _
      rw [Precache.writing, Precache.result]
      by_cases hwhole : response.isComplete
      · rw [if_pos hwhole, if_pos hwhole, if_pos hwhole, Stores.put_of_storable hkey hwhole]
        refine .step ?_
        cases kept <;> exact .step (.refl _)
      · rw [if_neg hwhole, if_neg hwhole, if_neg hwhole]
        exact .step (.refl _)

end Job

namespace Strategy

variable {stores : StorePair} {request : Request}

theorem asks_networkFirst (hfetch : allowed (.fetch request))
    (hmatch : allowed (.storage (.matchAny (.ofRequest request))))
    (hput : ∀ response, (Store.Key.ofRequest request).isStorable → response.isComplete →
      allowed (.storage (.put stores.dynamic (.ofRequest request) response))) :
    (networkFirst.run stores request).Asks allowed := by
  refine ⟨hfetch, fun answer => ?_⟩
  cases answer with
  | ok response => exact (Stores.asks_keep (hput response)).bind fun _ => trivial
  | error failure =>
      refine (Stores.asks_lookup_none hmatch).bind fun found => ?_
      cases found <;> exact trivial

theorem asks_cacheFirst (hget : allowed (.storage (.get stores.static (.ofRequest request))))
    (hfetch : allowed (.fetch request))
    (hput : ∀ response, (Store.Key.ofRequest request).isStorable → response.isComplete →
      allowed (.storage (.put stores.static (.ofRequest request) response))) :
    (cacheFirst.run stores request).Asks allowed := by
  refine (Stores.asks_lookup_some hget).bind fun found => ?_
  cases found with
  | some entry => exact trivial
  | none =>
      refine ⟨hfetch, fun answer => ?_⟩
      cases answer with
      | ok response => exact (Stores.asks_keep (hput response)).bind fun _ => trivial
      | error failure => exact trivial

theorem asks_staleWhileRevalidate
    (hmatch : allowed (.storage (.matchAny (.ofRequest request))))
    (hstart : allowed (.start (.revalidate stores.dynamic request)))
    (hawait : ∀ ticket, allowed (.await .revalidation ticket)) :
    (staleWhileRevalidate.run stores request).Asks allowed := by
  refine (Stores.asks_lookup_none hmatch).bind fun found => ⟨hstart, fun ticket => ?_⟩
  cases found with
  | some entry => exact trivial
  | none =>
      refine ⟨hawait ticket, fun answer => ?_⟩
      cases answer <;> exact trivial

/-- A lookup in all stores, with what it was answered. -/
def lookedUp (request : Request) (answer : Except Store.Failure (Option Store.Entry)) : Exchange :=
  ⟨.storage (.matchAny (.ofRequest request)), answer⟩

/-- Whatever is found, a job is started that refreshes it. -/
def inquiring (stores : StorePair) (request : Request)
    (found : Except Store.Failure (Option Store.Entry)) (ticket : Ticket) : List Exchange :=
  [lookedUp request found, ⟨.start (.revalidate stores.dynamic request), ticket⟩]

theorem leads_inquiring_hit (entry : Store.Entry) (ticket : Ticket) :
    Work.Leads (staleWhileRevalidate.run stores request)
      (inquiring stores request (.ok (some entry)) ticket) (.done (.ok (.ofCache entry))) :=
  .step (.step (.refl _))

/-- Nothing was found, and the job has to bring it. -/
theorem leads_inquiring_miss {found : Except Store.Failure (Option Store.Entry)}
    (hmiss : ∀ entry, found ≠ .ok (some entry)) (ticket : Ticket)
    (outcome : Except FetchFailure Response) :
    Work.Leads (staleWhileRevalidate.run stores request)
      (inquiring stores request found ticket ++ [⟨.await .revalidation ticket, outcome⟩])
      (.done ((outcome.map .ofNetwork).mapError (.missed (Store.Key.ofRequest request).url))) := by
  refine .step ?_
  match found with
  | .ok (some entry) => exact absurd rfl (hmiss entry)
  | .ok none | .error _ => cases outcome <;> exact .step (.step (.refl _))

/-- A call that asks the network first and gets a whole response keeps it before it answers. -/
theorem leads_networkFirst {response : Response} (hkey : (Store.Key.ofRequest request).isStorable)
    (hresponse : response.isComplete) (answer : Except Store.Failure Unit) :
    Work.Leads (networkFirst.run stores request)
      [⟨.fetch request, .ok response⟩,
        ⟨.storage (.put stores.dynamic (.ofRequest request) response), answer⟩]
      (.done (.ok (.ofNetwork response))) := by
  refine .step ?_
  change Work.Leads (Work.bind (Work.bind (Stores.put _ (.ofRequest request) _) _) _) _ _
  rw [Stores.put_of_storable hkey hresponse]
  refine .step ?_
  cases answer <;> exact .refl _

end Strategy

theorem Fallback.asks_resolve {page : String} {request : Request} {kind : RequestClass}
    (hmatch : allowed (.storage (.matchAny (.ofRequest request))))
    (hpage : ∀ url, kind = .navigation → request.url.join page = .ok url →
      allowed (.storage (.matchAny (.get url)))) :
    (resolve page request kind).Asks allowed := by
  refine (Stores.asks_lookup_none hmatch).bind fun found => ?_
  cases found with
  | some entry => exact trivial
  | none =>
      have hoffline : (offlinePage page request kind).Asks allowed := by
        unfold offlinePage
        split
        · rename_i url hjoin
          exact Stores.asks_lookup_none (hpage url rfl hjoin)
        · exact trivial
      refine hoffline.bind fun found => ?_
      cases found <;> exact trivial

namespace Agent

variable {agent : Agent}

theorem asks_startPrecache {paths : List String}
    (hstart : ∀ path url, path ∈ paths → agent.origin.join path = .ok url →
      allowed (.start (.precache agent.stores.static (.get url)))) :
    (agent.startPrecache paths).Asks allowed := by
  induction paths with
  | nil => exact trivial
  | cons path rest ih =>
      have hrest := ih fun path url hmem => hstart path url (List.mem_cons_of_mem _ hmem)
      unfold startPrecache
      cases hjoin : agent.origin.join path with
      | error fault => exact hrest.bind fun _ => trivial
      | ok url =>
          exact ⟨hstart path url List.mem_cons_self hjoin, fun ticket =>
            hrest.bind fun _ => trivial⟩

theorem asks_collect {report : Report} {started : List (String × Except Url.Fault Ticket)}
    (hawait : ∀ path ticket, (path, .ok ticket) ∈ started → allowed (.await .precache ticket)) :
    (collect report started).Asks allowed := by
  induction started generalizing report with
  | nil => exact trivial
  | cons entry rest ih =>
      obtain ⟨path, outcome⟩ := entry
      have hrest (report : Report) : (collect report rest).Asks allowed :=
        ih fun path ticket hmem => hawait path ticket (List.mem_cons_of_mem _ hmem)
      cases outcome with
      | error fault => exact hrest _
      | ok ticket => exact ⟨hawait path ticket List.mem_cons_self, fun answer => hrest _⟩

theorem asks_precache (hopen : allowed (.storage (.openStore agent.stores.static)))
    (hstart : ∀ path url, path ∈ agent.settings.precache → agent.origin.join path = .ok url →
      allowed (.start (.precache agent.stores.static (.get url))))
    (hawait : ∀ ticket, allowed (.await .precache ticket)) :
    agent.precache.Asks allowed :=
  ⟨hopen, fun _ => (asks_startPrecache hstart).bind fun _ =>
    asks_collect fun _ ticket _ => hawait ticket⟩

theorem asks_sync {tag : String} (hprecache : agent.precache.Asks allowed) :
    (agent.sync tag).Asks allowed := by
  unfold sync
  split
  · exact hprecache.bind fun _ => trivial
  · exact trivial

theorem asks_activate
    (hbegin : allowed (.lifecycle agent.number (.advance .waiting .activating)))
    (hnames : allowed (.storage .names)) (hdelete : ∀ name, allowed (.storage (.delete name)))
    (hfinish : allowed (.lifecycle agent.number (.advance .activating .active))) :
    agent.activate.Asks allowed := by
  refine ⟨hbegin, fun moved => ?_⟩
  cases moved with
  | false => exact trivial
  | true =>
      have hreconcile : (Stores.reconcile agent.settings.whitelist).Asks allowed :=
        Stores.asks_reconcile hnames hdelete
      refine hreconcile.bind fun deleted => ?_
      cases deleted <;> exact ⟨hfinish, fun _ => trivial⟩

/-- Handling a request reads the state, and only an active agent asks for more. -/
theorem asks_handle {request : Request}
    (hread : allowed (.lifecycle agent.number .read))
    (hrun : ∀ kind, RequestClass.ofRequest? agent.settings request = some kind →
      (kind.strategy.run agent.stores request).Asks allowed)
    (hresolve : ∀ kind, RequestClass.ofRequest? agent.settings request = some kind →
      (Fallback.resolve agent.settings.offlinePage request kind).Asks allowed) :
    (agent.handle request).Asks allowed := by
  refine ⟨hread, fun state => ?_⟩
  change Work.Asks allowed (if state ≠ .active then _ else _)
  split
  · exact trivial
  · split
    · exact trivial
    · rename_i kind hkind
      refine (hrun kind hkind).bind fun outcome => ?_
      cases outcome with
      | ok served => exact trivial
      | error failure => exact (hresolve kind hkind).bind fun _ => trivial

theorem leads_startPrecache_of_ok {path : String} {rest : List String} {url : Url}
    {history : List Exchange} {started : List (String × Except Url.Fault Ticket)}
    (hjoin : agent.origin.join path = .ok url) (ticket : Ticket)
    (leads : Work.Leads (agent.startPrecache rest) history (.done started)) :
    Work.Leads (agent.startPrecache (path :: rest))
      (⟨.start (.precache agent.stores.static (.get url)), ticket⟩ :: history)
      (.done ((path, .ok ticket) :: started)) := by
  unfold startPrecache
  rw [hjoin]
  exact .step (leads.bind_of_done _)

/-- No job is started for a path that cannot be resolved. -/
theorem leads_startPrecache_of_error {path : String} {rest : List String} {fault : Url.Fault}
    {history : List Exchange} {started : List (String × Except Url.Fault Ticket)}
    (hjoin : agent.origin.join path = .error fault)
    (leads : Work.Leads (agent.startPrecache rest) history (.done started)) :
    Work.Leads (agent.startPrecache (path :: rest)) history
      (.done ((path, .error fault) :: started)) := by
  unfold startPrecache
  rw [hjoin]
  exact leads.bind_of_done _

/-- All jobs of the manifest are started before the first of them is awaited. -/
theorem leads_precache {first second : List Exchange} {report : Report}
    {started : List (String × Except Url.Fault Ticket)} (opened : Except Store.Failure Unit)
    (hstarts : Work.Leads (agent.startPrecache agent.settings.precache) first (.done started))
    (hawaits : Work.Leads (collect .empty started) second (.done report)) :
    Work.Leads agent.precache
      (⟨.storage (.openStore agent.stores.static), opened⟩ :: (first ++ second)) (.done report) :=
  .step (hstarts.bind hawaits)

end Agent

end OfflineAgent
