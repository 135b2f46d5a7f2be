import OfflineAgent.Proofs.Interleaving.Awaiting

/-!
# Loading the manifest

Every path of the manifest is loaded by a job of its own, unless it cannot be resolved. A job
fetches its path, writes what comes whole, and reports the first of these that went wrong; the call
awaits the jobs in the order of the manifest and puts their outcomes together. So the report is a
function of what each job was answered, and has no part of the order in which the jobs were done.
-/

namespace OfflineAgent

/-! ### Reports -/

namespace Report

/-- The report on the outcomes of some paths. -/
def of (outcomes : List (String × Except Precache.Failure Unit)) : Report where
  cached := outcomes.filterMap fun
    | (path, .ok ()) => some path
    | (_, .error _) => none
  failed := outcomes.filterMap fun
    | (_, .ok ()) => none
    | (path, .error failure) => some (path, failure)

variable {outcomes : List (String × Except Precache.Failure Unit)} {path : String}

theorem of_concat {outcome : Except Precache.Failure Unit} :
    of (outcomes ++ [(path, outcome)]) = (of outcomes).add path outcome := by
  cases outcome <;> simp [of, add]

/-- Adding outcomes one after the other gives the report on all of them. -/
theorem foldl_add (outcomes : List (String × Except Precache.Failure Unit)) :
    outcomes.foldl (fun report (path, outcome) => report.add path outcome) .empty =
      of outcomes := by
  induction outcomes using List.reverseRecOn with
  | nil => rfl
  | append_singleton outcomes last ih =>
      rw [List.foldl_append, ih, of_concat]
      rfl

/-- The report has each of the paths once, as cached or as failed, and both in their order. -/
structure Lists (report : Report) (paths : List String) : Prop where
  cached : report.cached.Sublist paths
  failed : (report.failed.map Prod.fst).Sublist paths
  each : (report.cached ++ report.failed.map Prod.fst).Perm paths

theorem lists_of (outcomes : List (String × Except Precache.Failure Unit)) :
    (of outcomes).Lists (outcomes.map Prod.fst) := by
  induction outcomes with
  | nil => exact ⟨.slnil, .slnil, .nil⟩
  | cons entry rest ih =>
      obtain ⟨path, outcome⟩ := entry
      cases outcome with
      | ok done => exact ⟨ih.cached.cons_cons path, ih.failed.cons path, ih.each.cons path⟩
      | error failure =>
          refine ⟨ih.cached.cons path, ih.failed.cons_cons path, ?_⟩
          exact List.perm_middle.trans (ih.each.cons path)

end Report

/-! ### One path -/

namespace Precache

variable {store : String} {request : Request} {ticket : Ticket}

theorem mem_writing {got : Except FetchFailure Response} {kept : Except Store.Failure Unit}
    {exchange : Exchange} :
    exchange ∈ writing store request got kept ↔ ∃ response, got = .ok response ∧
      response.isComplete ∧
        exchange = ⟨.storage (.put store (.ofRequest request) response), kept⟩ := by
  cases got with
  | error failure => simp [writing]
  | ok response =>
      by_cases hwhole : response.isComplete <;> simp [writing, hwhole]

theorem length_writing_le (store : String) (request : Request)
    (got : Except FetchFailure Response) (kept : Except Store.Failure Unit) :
    (writing store request got kept).length ≤ 1 := by
  unfold writing
  split
  · exact Nat.zero_le 1
  · split <;> simp

theorem report_not_mem_writing {got : Except FetchFailure Response}
    {kept : Except Store.Failure Unit} {channel : Channel} {outcome : channel.Outcome} :
    (⟨.report channel ticket outcome, ()⟩ : Exchange) ∉ writing store request got kept := by
  rw [mem_writing]
  rintro ⟨_, -, -, hsame⟩
  cases hsame

theorem put_mem_course {got : Except FetchFailure Response}
    {kept answer : Except Store.Failure Unit} {name : String} {key : Store.Key}
    {response : Response} :
    ⟨.storage (.put name key response), answer⟩ ∈ course store request ticket got kept ↔
      name = store ∧ key = .ofRequest request ∧ got = .ok response ∧ response.isComplete ∧
        answer = kept := by
  have hmem : (⟨.storage (.put name key response), answer⟩ : Exchange) ∈
      course store request ticket got kept ↔
        ⟨.storage (.put name key response), answer⟩ ∈ writing store request got kept := by
    simp [course]
  rw [hmem, mem_writing]
  constructor
  · rintro ⟨found, hgot, hwhole, hsame⟩
    cases hsame
    exact ⟨rfl, rfl, hgot, hwhole, rfl⟩
  · rintro ⟨rfl, rfl, hgot, hwhole, rfl⟩
    exact ⟨response, hgot, hwhole, rfl⟩

theorem report_mem_course {got : Except FetchFailure Response} {kept : Except Store.Failure Unit}
    {number : Ticket} {outcome : Except Failure Unit} :
    ⟨.report .precache number outcome, ()⟩ ∈ course store request ticket got kept ↔
      number = ticket ∧ outcome = result got kept := by
  simp [course, report_not_mem_writing]

/-- What a job was answered can be read off its course, as far as it was asked. -/
theorem course_inj {number : Ticket} {got told : Except FetchFailure Response}
    {kept answer : Except Store.Failure Unit}
    (hsame : course store request ticket got kept = course store request number told answer) :
    ticket = number ∧ got = told ∧ result got kept = result told answer := by
  have hreport : ⟨.report .precache ticket (result got kept), ()⟩ ∈
      course store request number told answer := hsame ▸ report_mem_course.mpr ⟨rfl, rfl⟩
  obtain ⟨hticket, hresult⟩ := report_mem_course.mp hreport
  obtain ⟨hfetch, -⟩ := List.cons.inj hsame
  exact ⟨hticket, eq_of_heq (Exchange.mk.inj hfetch).2, hresult⟩

theorem result_eq_ok_iff {got : Except FetchFailure Response} {kept : Except Store.Failure Unit} :
    result got kept = .ok () ↔ (∃ response, got = .ok response ∧ response.isComplete) ∧
      kept = .ok () := by
  cases got with
  | error failure => simp [result]
  | ok response =>
      by_cases hwhole : response.isComplete
      · cases kept <;> simp [result, hwhole, Except.mapError]
      · simp [result, hwhole]

/-- What became of a path of the manifest: it could not be resolved, or the job with the ticket got
an answer from the network, and from the store if it wrote. -/
inductive Fate where
  | unresolved (fault : Url.Fault)
  | loaded (url : Url) (ticket : Ticket) (got : Except FetchFailure Response)
      (kept : Except Store.Failure Unit)

namespace Fate

def outcome : Fate → Except Failure Unit
  | unresolved fault => .error (.invalidUrl fault)
  | loaded _ _ got kept => result got kept

def key? : Fate → Option Store.Key
  | unresolved _ => none
  | loaded url _ _ _ => some (.get url)

def ticket? : Fate → Option Ticket
  | unresolved _ => none
  | loaded _ ticket _ _ => some ticket

/-- The network and the store answered the path so, as far as they were asked. -/
def Agrees (network : Request → Except FetchFailure Response) (fault : Except Store.Failure Unit) :
    Fate → Prop
  | unresolved _ => True
  | loaded url _ got kept =>
    got = network (.get url) ∧ ∀ response, got = .ok response → response.isComplete → kept = fault

/-- A path is cached if it can be resolved, comes whole and is written, and only then. -/
theorem outcome_eq_ok_iff {fate : Fate} :
    fate.outcome = .ok () ↔ ∃ url ticket response,
      fate = .loaded url ticket (.ok response) (.ok ()) ∧ response.isComplete := by
  cases fate with
  | unresolved fault => simp [outcome]
  | loaded url ticket got kept =>
      rw [outcome, result_eq_ok_iff]
      constructor
      · rintro ⟨⟨response, rfl, hwhole⟩, rfl⟩
        exact ⟨url, ticket, response, rfl, hwhole⟩
      · rintro ⟨_, _, response, hsame, hwhole⟩
        cases hsame
        exact ⟨⟨response, rfl, hwhole⟩, rfl⟩

/-- What it was that went wrong, where nothing had gone wrong before. -/
def FailsWith (fate : Fate) : Failure → Prop
  | .invalidUrl fault => fate = .unresolved fault
  | .network failure => ∃ url ticket kept, fate = .loaded url ticket (.error failure) kept
  | .status status => ∃ url ticket response kept, fate = .loaded url ticket (.ok response) kept ∧
      response.isComplete = false ∧ response.status = status
  | .storage failure => ∃ url ticket response,
      fate = .loaded url ticket (.ok response) (.error failure) ∧ response.isComplete

/-- A path that is not cached has failed with the first that went wrong. -/
theorem outcome_eq_error_iff {fate : Fate} {failure : Failure} :
    fate.outcome = .error failure ↔ fate.FailsWith failure := by
  cases fate with
  | unresolved fault => cases failure <;> simp [outcome, FailsWith]
  | loaded url ticket got kept =>
      cases got with
      | error fault => cases failure <;> simp [outcome, FailsWith, result]
      | ok response =>
          by_cases hwhole : response.isComplete
          · cases kept <;> cases failure <;>
              simp [outcome, FailsWith, result, Except.mapError, hwhole]
          · cases failure <;> simp [outcome, FailsWith, result, hwhole]

end Fate

/-- What a path comes to that is resolved, or not, and then answered so. -/
def foretold (resolved : Except Url.Fault Url) (network : Request → Except FetchFailure Response)
    (fault : Except Store.Failure Unit) : Except Failure Unit :=
  match resolved with
  | .error fault => .error (.invalidUrl fault)
  | .ok url => result (network (.get url)) fault

theorem result_congr {got : Except FetchFailure Response} {kept fault : Except Store.Failure Unit}
    (hsame : ∀ response, got = .ok response → response.isComplete → kept = fault) :
    result got kept = result got fault := by
  cases got with
  | error failure => rfl
  | ok response =>
      by_cases hwhole : response.isComplete
      · rw [hsame response rfl hwhole]
      · simp [result, hwhole]

end Precache

/-! ### The job of a path -/

/-- The job has not reported yet, and has something to ask for. -/
def Job.IsLoading (ticket : Ticket) (history : List Exchange) (left : Work Unit) : Prop :=
  history.length < 3 ∧ (∀ outcome, ⟨.report .precache ticket outcome, ()⟩ ∉ history) ∧
    ∃ op next, left = .ask op next ∧ ∀ channel number, op ≠ .await channel number

/-- A job that loads a resource is on its course, or has been through all of it. -/
theorem Job.leads_loading {store : String} {request : Request} {ticket : Ticket}
    {history : List Exchange} {left : Work Unit}
    (hkey : (Store.Key.ofRequest request).isStorable)
    (leads : Work.Leads ((precache store request).work ticket) history left) :
    IsLoading ticket history left ∨
      ∃ got kept, history = Precache.course store request ticket got kept ∧ left = .done () := by
  have hreport (got : Except FetchFailure Response) (kept : Except Store.Failure Unit)
      (rest : List Exchange)
      (hrest : Work.Leads (.report .precache ticket (Precache.result got kept)) rest left) :
      IsLoading ticket
          (⟨.fetch request, got⟩ :: Precache.writing store request got kept ++ rest) left ∨
        ⟨.fetch request, got⟩ :: Precache.writing store request got kept ++ rest =
          Precache.course store request ticket got kept ∧ left = .done () := by
    obtain ⟨rfl, rfl⟩ | ⟨_, later, rfl, hlater⟩ := Work.leads_ask_iff.mp hrest
    · refine .inl ⟨?_, fun outcome => ?_, _, _, rfl, nofun⟩
      · have hle := Precache.length_writing_le store request got kept
        simp only [List.append_nil, List.length_cons]
        omega
      · simp [Precache.report_not_mem_writing]
    · obtain ⟨rfl, rfl⟩ := Work.leads_done_iff.mp hlater
      exact .inr ⟨rfl, rfl⟩
  obtain ⟨rfl, rfl⟩ | ⟨got, rest, rfl, hrest⟩ := Work.leads_ask_iff.mp leads
  · exact .inl ⟨Nat.zero_lt_succ _, fun _ => List.not_mem_nil, _, _, rfl, nofun⟩
  cases got with
  | error failure =>
      exact (hreport (.error failure) (.ok ()) rest hrest).imp_right fun all => ⟨_, _, all⟩
  | ok response =>
      change Work.Leads (Work.bind (if response.isComplete then _ else _) _) _ _ at hrest
      by_cases hwhole : response.isComplete
      · rw [if_pos hwhole, Stores.put_of_storable hkey hwhole] at hrest
        obtain ⟨rfl, rfl⟩ | ⟨kept, later, rfl, hlater⟩ := Work.leads_ask_iff.mp hrest
        · exact .inl ⟨by simp, by simp, _, _, rfl, nofun⟩
        · have hcourse := hreport (.ok response) kept later
          simp only [Precache.writing, Precache.result, if_pos hwhole] at hcourse
          refine (hcourse ?_).imp_right fun all => ⟨_, kept, all⟩
          cases kept <;> exact hlater
      · have hcourse := hreport (.ok response) (.ok ()) rest
        simp only [Precache.writing, Precache.result, if_neg hwhole] at hcourse
        rw [if_neg hwhole] at hrest
        exact (hcourse hrest).imp_right fun all => ⟨_, _, all⟩

/-! ### The whole manifest -/

namespace Agent

variable {agent : Agent} {history more : List Exchange} {paths : List String}
  {begun : List (Except Url.Fault Ticket)} {report : Report}

/-- The loading of a path has begun: its job was started, or the path could not be resolved. -/
def Begun (agent : Agent) (history : List Exchange) (path : String) :
    Except Url.Fault Ticket → Prop
  | .error fault => agent.origin.join path = .error fault
  | .ok ticket => ∃ url, agent.origin.join path = .ok url ∧
      ⟨.start (.precache agent.stores.static (.get url)), ticket⟩ ∈ history

/-- Whoever awaited the job of a path was told its outcome. -/
def Told (history : List Exchange) (outcome : Except Precache.Failure Unit) :
    Except Url.Fault Ticket → Prop
  | .error fault => outcome = .error (.invalidUrl fault)
  | .ok ticket => ⟨.await .precache ticket, outcome⟩ ∈ history

theorem Begun.mono {path : String} {start : Except Url.Fault Ticket}
    (hbegun : agent.Begun history path start) (hsub : history ⊆ more) :
    agent.Begun more path start := by
  cases start with
  | error fault => exact hbegun
  | ok ticket => exact hbegun.imp fun url ⟨hjoin, hstart⟩ => ⟨hjoin, hsub hstart⟩

theorem Told.mono {outcome : Except Precache.Failure Unit} {start : Except Url.Fault Ticket}
    (htold : Told history outcome start) (hsub : history ⊆ more) : Told more outcome start := by
  cases start with
  | error fault => exact htold
  | ok ticket => exact hsub htold

/-- When all is started, every path has begun, in order and with the tickets that were given. -/
theorem exists_of_leads_startPrecache {started : List (String × Except Url.Fault Ticket)}
    (leads : Work.Leads (agent.startPrecache paths) history (.done started)) :
    ∃ begun, started = paths.zip begun ∧ List.Forall₂ (agent.Begun history) paths begun ∧
      begun.filterMap Except.toOption = history.filterMap Exchange.ticket? := by
  induction paths generalizing history started with
  | nil =>
      obtain ⟨rfl, hdone⟩ := Work.leads_done_iff.mp leads
      exact ⟨[], Work.done.inj hdone, .nil, rfl⟩
  | cons path rest ih =>
      unfold startPrecache at leads
      cases hjoin : agent.origin.join path with
      | error fault =>
          rw [hjoin] at leads
          obtain ⟨later, hlater, hstarted⟩ := Work.exists_of_leads_bind_done leads
          obtain ⟨begun, rfl, hbegun, htickets⟩ := ih hlater
          exact ⟨.error fault :: begun, hstarted, .cons hjoin hbegun, htickets⟩
      | ok url =>
          rw [hjoin] at leads
          obtain ⟨-, hnone⟩ | ⟨ticket, later, rfl, hlater⟩ := Work.leads_ask_iff.mp leads
          · cases hnone
          obtain ⟨others, hothers, hstarted⟩ := Work.exists_of_leads_bind_done hlater
          obtain ⟨begun, rfl, hbegun, htickets⟩ := ih hothers
          refine ⟨.ok ticket :: begun, hstarted, .cons ?_ ?_, ?_⟩
          · exact ⟨url, hjoin, List.mem_cons_self⟩
          · exact hbegun.imp fun _ _ hpath => hpath.mono (List.subset_cons_self _ _)
          · exact congrArg (ticket :: ·) htickets

/-- When all is awaited, the outcomes are added to the report in order. -/
theorem exists_of_leads_collect {result : Report} (hlength : paths.length = begun.length)
    (leads : Work.Leads (collect report (paths.zip begun)) history (.done result)) :
    ∃ outcomes, List.Forall₂ (Told history) outcomes begun ∧
      result = (paths.zip outcomes).foldl (fun report (path, outcome) => report.add path outcome)
        report := by
  induction begun generalizing paths report history with
  | nil =>
      rw [List.zip_nil_right] at leads
      obtain ⟨rfl, hdone⟩ := Work.leads_done_iff.mp leads
      exact ⟨[], .nil, by rw [List.zip_nil_right]; exact Work.done.inj hdone⟩
  | cons start begun ih =>
      obtain ⟨path, rest, rfl⟩ := List.exists_cons_of_length_eq_add_one hlength
      cases start with
      | error fault =>
          obtain ⟨outcomes, htold, hresult⟩ := ih (Nat.succ.inj hlength) leads
          exact ⟨.error (.invalidUrl fault) :: outcomes, .cons rfl htold, hresult⟩
      | ok ticket =>
          obtain ⟨-, hnone⟩ | ⟨outcome, later, rfl, hlater⟩ := Work.leads_ask_iff.mp leads
          · cases hnone
          obtain ⟨outcomes, htold, hresult⟩ := ih (Nat.succ.inj hlength) hlater
          refine ⟨outcome :: outcomes, .cons List.mem_cons_self ?_, hresult⟩
          exact htold.imp fun _ _ hpath => hpath.mono (List.subset_cons_self _ _)

theorem precache_eq : agent.precache = .ask (.storage (.openStore agent.stores.static)) fun _ =>
    agent.startPrecache agent.settings.precache >>= collect .empty := rfl

/-- The report on the manifest is the report on what its jobs told. -/
theorem exists_of_leads_precache (leads : Work.Leads agent.precache history (.done report)) :
    ∃ begun outcomes, List.Forall₂ (agent.Begun history) agent.settings.precache begun ∧
      List.Forall₂ (Told history) outcomes begun ∧
      (begun.filterMap Except.toOption).Sublist (history.filterMap Exchange.ticket?) ∧
      report = .of (agent.settings.precache.zip outcomes) := by
  rw [precache_eq] at leads
  obtain ⟨-, hnone⟩ | ⟨opened, rest, rfl, hrest⟩ := Work.leads_ask_iff.mp leads
  · cases hnone
  obtain ⟨first, second, started, rfl, hfirst, hsecond⟩ := Work.exists_of_leads_bind hrest
  obtain ⟨begun, rfl, hbegun, htickets⟩ := exists_of_leads_startPrecache hfirst
  obtain ⟨outcomes, htold, rfl⟩ := exists_of_leads_collect hbegun.length_eq hsecond
  refine ⟨begun, outcomes, ?_, ?_, ?_, Report.foldl_add _⟩
  · exact hbegun.imp fun _ _ hpath => hpath.mono fun _ hmem =>
      List.mem_cons_of_mem _ (List.mem_append_left _ hmem)
  · exact htold.imp fun _ _ hpath => hpath.mono fun _ hmem =>
      List.mem_cons_of_mem _ (List.mem_append_right _ hmem)
  · rw [htickets]
    exact ((List.sublist_append_left _ _).trans (List.sublist_cons_self _ _)).filterMap _

/-- The report on the manifest if the network always answers a request so, and the write of each
path is answered so. -/
def foretold (agent : Agent) (network : Request → Except FetchFailure Response)
    (faults : Nat → Except Store.Failure Unit) : Report :=
  .of (agent.settings.precache.mapIdx fun i path =>
    (path, Precache.foretold (agent.origin.join path) network (faults i)))

/-! ### Going on -/

theorem endsWithin_startPrecache : (agent.startPrecache paths).EndsWithin paths.length := by
  induction paths with
  | nil => trivial
  | cons path rest ih =>
      have hrest (start : Except Url.Fault Ticket) :
          (agent.startPrecache rest >>= fun started => .done ((path, start) :: started)).EndsWithin
            rest.length := by
        have hdone (started : List (String × Except Url.Fault Ticket)) :
            (Work.done ((path, start) :: started)).EndsWithin 0 := Work.endsWithin_done
        exact ih.bind hdone
      unfold startPrecache
      cases agent.origin.join path with
      | error fault => exact (hrest (.error fault)).mono (Nat.le_succ _)
      | ok url => exact fun ticket => hrest (.ok ticket)

theorem endsWithin_collect {started : List (String × Except Url.Fault Ticket)} :
    (collect report started).EndsWithin started.length := by
  induction started generalizing report with
  | nil => trivial
  | cons entry rest ih =>
      obtain ⟨path, start⟩ := entry
      cases start with
      | error fault => exact ih.mono (Nat.le_succ _)
      | ok ticket => exact fun outcome => ih

/-- If a job is awaited, it is one that was started to load a path. -/
def AwaitsStarted (agent : Agent) (history : List Exchange) (op : Op) : Prop :=
  ∀ channel ticket, op = .await channel ticket → channel = .precache ∧
    ∃ url, ⟨.start (.precache agent.stores.static (.get url)), ticket⟩ ∈ history

theorem AwaitsStarted.mono {op : Op} (hawaits : agent.AwaitsStarted history op)
    (hsub : history ⊆ more) : agent.AwaitsStarted more op := fun channel ticket hop =>
  (hawaits channel ticket hop).imp_right fun ⟨url, hstart⟩ => ⟨url, hsub hstart⟩

section

variable {op : Op} {next : op.Answer → Work Report} {first second : List Exchange}
  {started : List (String × Except Url.Fault Ticket)}

theorem awaits_of_leads_startPrecache
    {later : op.Answer → Work (List (String × Except Url.Fault Ticket))}
    (leads : Work.Leads (agent.startPrecache paths) history (.ask op later)) :
    history.length < paths.length ∧ agent.AwaitsStarted history op := by
  have hasks : (agent.startPrecache paths).Asks fun op =>
      ∀ channel ticket, op ≠ .await channel ticket := asks_startPrecache fun _ _ _ _ => nofun
  obtain ⟨answer⟩ := Work.nonempty_answer op
  have hlength := (leads.concat answer).length_le endsWithin_startPrecache
  rw [List.length_append] at hlength
  refine ⟨hlength, fun channel ticket hawait => ?_⟩
  exact absurd hawait (leads.asks_next hasks channel ticket)

theorem awaits_of_leads_collect
    (hfirst : Work.Leads (agent.startPrecache paths) first (.done started))
    (hsecond : Work.Leads (collect report started) second (.ask op next)) :
    (first ++ second).length < 2 * paths.length ∧ agent.AwaitsStarted (first ++ second) op := by
  have hstarts := hfirst.length_le endsWithin_startPrecache
  obtain ⟨begun, rfl, hbegun, -⟩ := exists_of_leads_startPrecache hfirst
  constructor
  · obtain ⟨answer⟩ := Work.nonempty_answer op
    have hawaits := (hsecond.concat answer).length_le endsWithin_collect
    rw [List.length_zip, ← hbegun.length_eq, Nat.min_self] at hawaits
    simp only [List.length_append, List.length_singleton] at hawaits ⊢
    omega
  · have hasks : (collect report (paths.zip begun)).Asks fun op =>
        ∀ channel ticket, op = .await channel ticket →
          channel = .precache ∧ ∃ path, (path, .ok ticket) ∈ paths.zip begun := by
      refine asks_collect fun path ticket hmem channel number hsame => ?_
      cases hsame
      exact ⟨rfl, path, hmem⟩
    intro channel ticket hawait
    obtain ⟨hchannel, path, hmem⟩ := hsecond.asks_next hasks channel ticket hawait
    obtain ⟨url, -, hstart⟩ := List.forall₂_zip hbegun hmem
    exact ⟨hchannel, url, List.mem_append_left _ hstart⟩

/-- While the manifest is loaded the call has something to ask for, and not much more. If it awaits
a job, it has started that job. -/
theorem awaits_of_leads_precache (leads : Work.Leads agent.precache history (.ask op next)) :
    history.length ≤ 2 * agent.settings.precache.length ∧ agent.AwaitsStarted history op := by
  rw [precache_eq] at leads
  obtain ⟨rfl, hopen⟩ | ⟨opened, rest, rfl, hrest⟩ := Work.leads_ask_iff.mp leads
  · cases hopen
    exact ⟨Nat.zero_le _, nofun⟩
  have hopened (hlength : rest.length < 2 * agent.settings.precache.length)
      (hawaits : agent.AwaitsStarted rest op) :
      rest.length + 1 ≤ 2 * agent.settings.precache.length ∧
        agent.AwaitsStarted (⟨.storage (.openStore agent.stores.static), opened⟩ :: rest) op :=
    ⟨hlength, hawaits.mono (List.subset_cons_self _ _)⟩
  obtain ⟨left, hleft, hask⟩ | ⟨first, second, started, rfl, hfirst, hsecond⟩ :=
    Work.leads_bind hrest
  · cases left with
    | done started =>
        have hcollect : Work.Leads (collect .empty started) [] (.ask op next) := hask ▸ .refl _
        have hboth := awaits_of_leads_collect hleft hcollect
        rw [List.append_nil] at hboth
        exact hopened hboth.1 hboth.2
    | ask asked later =>
        cases hask
        obtain ⟨hlength, hawaits⟩ := awaits_of_leads_startPrecache hleft
        exact hopened (by omega) hawaits
  · obtain ⟨hlength, hawaits⟩ := awaits_of_leads_collect hfirst hsecond
    exact hopened hlength hawaits

end

end Agent

end OfflineAgent
