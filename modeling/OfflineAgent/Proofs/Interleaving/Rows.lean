import OfflineAgent.Proofs.Agent.Activities
import OfflineAgent.Proofs.Interleaving.Listing
import OfflineAgent.Proofs.Lifecycle.Installation
import OfflineAgent.Proofs.Url.NumberSign

/-!
# What is in the stores

Rows come from nothing but puts, and nobody puts anything other than a whole response to a GET. So
in stores that started empty every row holds one, under the hash of its own key and in a store that
is listed. A put that is refused for its key or its response is over before it asks for anything.
-/

namespace OfflineAgent

namespace Store

/-- A whole response to a GET, under the hash of its own key. -/
structure Row.Sound (row : Row) : Prop where
  method : row.method = "GET"
  status : 200 ≤ row.status ∧ row.status ≤ 299 ∧ row.status ≠ 206
  url : Plain row.url
  hash : row.hash = (Key.mk row.method row.url).hash

theorem Key.plain_new {url : Url} (read : url.IsRead) (method : String) :
    Plain (Key.new method url).url :=
  read.clean.plain_withoutFragment

theorem status_of_isComplete {response : Response} (hcomplete : response.isComplete) :
    200 ≤ response.status.toNat ∧ response.status.toNat ≤ 299 ∧ response.status.toNat ≠ 206 := by
  simp only [Response.isComplete, Response.isSuccess, Bool.and_eq_true, decide_eq_true_eq,
    bne_iff_ne, UInt16.le_iff_toNat_le, UInt16.lt_iff_toNat_lt] at hcomplete
  obtain ⟨⟨hlow, hhigh⟩, hpartial⟩ := hcomplete
  refine ⟨hlow, Nat.le_of_lt_succ hhigh, fun hsame => hpartial ?_⟩
  exact UInt16.toNat_inj.mp hsame

theorem Row.sound_encode {store : String} {key : Key} {response : Response} {now : Moment}
    (hkey : key.isStorable) (hresponse : response.isComplete) (hurl : Plain key.url) :
    (Row.encode store key response now).Sound := by
  obtain ⟨hlow, hhigh, hpartial⟩ := status_of_isComplete hresponse
  refine ⟨of_decide_eq_true hkey, ?_, hurl, ?_⟩
  · change 200 ≤ (response.status.toNat : Int) ∧ (response.status.toNat : Int) ≤ 299 ∧
      (response.status.toNat : Int) ≠ 206
    omega
  · have hself : key = ⟨key.method, key.url⟩ := rfl
    rw [encode_hash]
    exact congrArg Key.hash hself

end Store

/-- Puts are of whole responses to GET and under URLs without fragment, and so are those of the jobs
that are started. -/
def Op.Storable : Op → Prop
  | .storage (.put _ key response) => key.isStorable ∧ response.isComplete ∧ Plain key.url
  | .start job => Plain (Store.Key.ofRequest job.request).url
  | _ => True

theorem permits_storable : Permits (fun key => Plain key.url) Op.Storable where
  quiet op hquiet := by
    cases op with
    | storage call =>
        cases call with
        | put => exact hquiet.elim
        | openStore | get | matchAny | names | delete => exact trivial
    | start job => exact hquiet.elim
    | fetch | lifecycle | report | await => exact trivial
  opens _ := trivial
  puts _ _ _ hurl hkey hresponse := ⟨hkey, hresponse, hurl⟩
  starts _ hurl := hurl

/-- The agent has the origin that its settings name. -/
def Agent.IsMade (agent : Agent) : Prop :=
  agent.settings.originUrl = .ok agent.origin

/-- Whatever the call is given, its agent was made from settings and its URLs were read. -/
def Simulation.Activity.IsMade (activity : Simulation.Activity) : Prop :=
  (∀ agent, Lifecycle.agentOf? activity = some agent → agent.IsMade) ∧
    match activity with
    | .put _ key _ | .keep _ key _ => ∃ method url, url.IsRead ∧ key = .new method url
    | .strategy _ _ request | .fetch _ request => request.url.IsRead
    | _ => True

theorem Server.isRead_toRequest {origin : Url} {incoming : Server.Incoming} {request : Request}
    (read : origin.IsRead) (hrooted : origin.isRootless = false)
    (hrequest : incoming.toRequest? origin = some request) : request.url.IsRead := by
  unfold Server.Incoming.toRequest? at hrequest
  split at hrequest
  · cases hrequest
  · obtain rfl := Option.some.inj hrequest
    exact (read.setPath hrooted _).setQuery _

theorem Simulation.Activity.IsMade.writesTo {activity : Simulation.Activity}
    (made : activity.IsMade) : activity.WritesTo fun key => Plain key.url := by
  obtain ⟨hagent, hgiven⟩ := made
  refine ⟨fun agent hknown path url hjoin => ?_, fun request hrequest => ?_, ?_⟩
  · obtain ⟨read, -⟩ := Settings.isRead_originUrl (hagent agent hknown)
    exact Store.Key.plain_new (read.join hjoin) _
  · cases activity <;> simp only [Simulation.Activity.request?, reduceCtorEq] at hrequest
    case fetch agent handled =>
      obtain rfl := Option.some.inj hrequest
      exact Store.Key.plain_new hgiven _
    case serve agent incoming =>
      split at hrequest
      · obtain ⟨read, hrooted⟩ := Settings.isRead_originUrl (hagent agent rfl)
        exact Store.Key.plain_new (Server.isRead_toRequest read hrooted hrequest) _
      · cases hrequest
  · cases activity
    case put | keep =>
      obtain ⟨method, url, read, rfl⟩ := hgiven
      exact Store.Key.plain_new read method
    case strategy => exact Store.Key.plain_new hgiven _
    all_goals exact trivial

namespace Interleaving

open Simulation (Activity Reply)
open Store (Key Row Tables)

variable {calls : Activity → Prop} {s t : System} {events : List Event} {row : Row}

/-! ### Where rows come from -/

theorem mem_entries_run {tables : Tables} {now : Moment} {call : Store.Call}
    (hmem : row ∈ (call.run now tables).2.entries) :
    row ∈ tables.entries ∨ ∃ key response,
      call = .put row.store key response ∧ row = .encode row.store key response now := by
  have hopen (name : String) : (tables.openStore name).entries = tables.entries := by
    unfold Tables.openStore
    split <;> rfl
  cases call with
  | openStore name => exact .inl (hopen name ▸ hmem)
  | put store key response =>
      obtain hold | hnew := List.mem_append.mp hmem
      · exact .inl (hopen store ▸ List.mem_of_mem_filter hold)
      · obtain rfl := List.mem_singleton.mp hnew
        exact .inr ⟨key, response, rfl, rfl⟩
  | delete name => exact .inl (List.mem_of_mem_filter hmem)
  | get | matchAny | names => exact .inl hmem

theorem Step.written {event : Event} (step : Step calls s event t)
    (hmem : row ∈ t.tables.entries) :
    row ∈ s.tables.entries ∨ ∃ number key response answer now,
      event = .act number ⟨.storage (.put row.store key response), answer⟩ ∧
        row = .encode row.store key response now := by
  obtain hsame | ⟨number, call, answer, now, rfl, -, -, hafter⟩ := step.tables
  · exact .inl (hsame ▸ hmem)
  · rw [hafter] at hmem
    obtain hold | ⟨key, response, rfl, hrow⟩ := mem_entries_run hmem
    · exact .inl hold
    · exact .inr ⟨number, key, response, answer, now, rfl, hrow⟩

theorem Run.written (run : Run calls s events t) (hmem : row ∈ t.tables.entries) :
    row ∈ s.tables.entries ∨ ∃ number key response answer now,
      .act number ⟨.storage (.put row.store key response), answer⟩ ∈ events ∧
        row = .encode row.store key response now := by
  refine run.induction (motive := fun events t => row ∈ t.tables.entries →
    row ∈ s.tables.entries ∨ ∃ number key response answer now,
      .act number ⟨.storage (.put row.store key response), answer⟩ ∈ events ∧
        row = .encode row.store key response now) .inl ?_ hmem
  intro events mid event t _ ih step hmem
  obtain hbefore | ⟨number, key, response, answer, now, rfl, hrow⟩ := step.written hmem
  · refine (ih hbefore).imp_right fun ⟨number, key, response, answer, now, hput, hrow⟩ => ?_
    exact ⟨number, key, response, answer, now, List.mem_append_left _ hput, hrow⟩
  · exact .inr ⟨number, key, response, answer, now, by simp, hrow⟩

/-! ### What is put -/

theorem Run.storable (run : Run Activity.IsMade s events t) (fresh : s.tasks = []) {number : Nat}
    {exchange : Exchange} (hmem : .act number exchange ∈ events) : exchange.op.Storable :=
  run.asks fresh (fun _ made => permits_storable.activity made.writesTo)
    (fun _ _ hstart => permits_storable.job (fun _ _ => trivial) hstart) hmem

/-- A call that comes to its end without asking for anything has done nothing in a run. -/
theorem Run.done_of_call (run : Run calls s events t) (fresh : s.tasks = []) {activity : Activity}
    {reply : Reply} (hdone : activity.work = .done reply) {number : Nat} {work : Work Reply}
    (here : t.tasks[number]? = some ⟨.call activity, work⟩) :
    history number events = [] ∧ work = .done reply := by
  obtain ⟨leads, -⟩ := run.leads fresh number _ here
  change Work.Leads activity.work _ _ at leads
  rw [hdone] at leads
  exact Work.leads_done_iff.mp leads

/-- What holds of the stores after a run that began with none. -/
structure Kept (events : List Event) (t : System) : Prop where
  sound : ∀ row ∈ t.tables.entries, row.Sound
  listed : ∀ row ∈ t.tables.entries, row.store ∈ t.tables.names
  opened : ∀ name ∈ t.tables.names, ∃ number exchange,
    .act number exchange ∈ events ∧ exchange.op.Opens name ∧ exchange.op.Storable
  /-- Neither a call nor anyone else gets as far as asking for a put that is to be refused. -/
  refused : ∀ store key response, ¬(key.isStorable ∧ response.isComplete) →
    Stores.put store key response = .done (.ok false) ∧
      (∀ number answer, .act number ⟨.storage (.put store key response), answer⟩ ∉ events) ∧
      ∀ number work,
        (t.tasks[number]? = some ⟨.call (.put store key response), work⟩ →
          history number events = [] ∧ work = .done (.flag false)) ∧
        (t.tasks[number]? = some ⟨.call (.keep store key response), work⟩ →
          history number events = [] ∧ work = .done .ok)

/-- **Only whole responses to GET are ever stored, each under the hash of its own key and in a store
that is listed.** -/
theorem only_sound_rows {agents : List Agent}
    (run : Run Activity.IsMade (.new agents .empty) events t) : Kept events t := by
  have intact : t.tables.Intact := run.intact Tables.intact_empty
  refine ⟨fun row hmem => ?_, fun row hmem => ?_, fun name hname => ?_,
    fun store key response hrefused => ⟨?_, fun number answer hmem => ?_, fun number work => ?_⟩⟩
  · obtain hold | ⟨number, key, response, answer, now, hput, hrow⟩ := run.written hmem
    · cases hold
    · obtain ⟨hkey, hresponse, hurl⟩ := run.storable rfl hput
      rw [hrow]
      exact Row.sound_encode hkey hresponse hurl
  · rw [intact.names_eq]
    exact intact.listed row hmem
  · obtain hold | ⟨number, exchange, hmem, hopens⟩ := run.listed hname
    · exact absurd (Tables.names_empty ▸ hold) List.not_mem_nil
    · exact ⟨number, exchange, hmem, hopens, run.storable rfl hmem⟩
  · exact Stores.put_of_refused hrefused
  · obtain ⟨hkey, hresponse, -⟩ := run.storable rfl hmem
    exact hrefused ⟨hkey, hresponse⟩
  · have hput : Stores.put store key response = .done (.ok false) :=
      Stores.put_of_refused hrefused
    refine ⟨run.done_of_call rfl ?_, run.done_of_call rfl ?_⟩
    · rw [Activity.work, hput]
      rfl
    · rw [Activity.work, Stores.keep, hput]
      rfl

namespace Station

open Kiosk (shell page loading leads_loading)
open Moment (isClock_noon)

def posted : Key := .new "POST" shell.origin

def precaching : List Exchange :=
  Precache.course shell.stores.static (.get shell.origin) 0 (.ok page) (.ok ())

/-- The manifest is loaded, and something is put that was posted. -/
def morning : List Event :=
  [.call (.precache shell)] ++ (loading.take 2).map (.act 0) ++ precaching.map (.act 1) ++
    [.call (.put shell.stores.static posted page)]

theorem isMade_shell : shell.IsMade := by
  unfold Agent.IsMade
  decide

theorem isRead_shell : shell.origin.IsRead :=
  (Settings.isRead_originUrl isMade_shell).1

theorem isMade_put : (Activity.put shell.stores.static posted page).IsMade :=
  ⟨fun _ hagent => absurd hagent (Option.some_ne_none _).symm, _, _, isRead_shell, rfl⟩

theorem isMade_precache : (Activity.precache shell).IsMade :=
  ⟨fun _ hagent => Option.some.inj hagent ▸ isMade_shell, trivial⟩

theorem only_sound_rows_morning : ∃ t, Run Activity.IsMade (.new [shell] .empty) morning t ∧
    t.tables.entries ≠ [] ∧ Kept morning t := by
  have hcall : Work.Leads (Activity.precache shell).work (loading.take 2 ++ loading.drop 2)
      (.done (.report (some ⟨["/"], []⟩))) := leads_loading.bind_of_done _
  obtain ⟨left, hloading, -⟩ := Work.leads_append_iff.mp hcall
  have run : Run Activity.IsMade (.new [shell] .empty) morning _ :=
    .append (.append (.append (.call isMade_precache)
      (.of_leads hloading rfl ⟨_, .performed isClock_noon rfl, _, .begun rfl, rfl⟩))
      (.of_leads (Purpose.leads_precache (Key.isStorable_ofRequest_get _) (.ok page) (.ok ())) rfl
        ⟨_, .fetched _, _, .performed isClock_noon rfl, _, .reported, rfl⟩))
      (.call isMade_put)
  refine ⟨_, run, fun hnone => ?_, only_sound_rows run⟩
  exact List.cons_ne_nil _ _ (List.append_eq_nil_iff.mp hnone).2

end Station

end Interleaving

end OfflineAgent
