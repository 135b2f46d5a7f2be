import OfflineAgent.Proofs.Strategies.Footprint
import OfflineAgent.Proofs.Strategies.Refresh

/-!
# Rows that cannot be read

A row may be damaged: its status does not fit into 16 bits, or its headers or its time cannot be
made out. A call that looks in the static store first takes such a row for a miss. It asks the
network once, and what it keeps takes the place of the row, so the next call for the same key finds
it. Nothing is assumed of the tables: other rows may be damaged too, and rows may belong to no
listed store.
-/

namespace OfflineAgent

open Interleaving Simulation

namespace Store

/-! ### Damaged rows -/

/-- What the row says of its status, its headers or its time cannot be made out. -/
def Row.IsDamaged (row : Row) : Prop :=
  row.status? = none ∨ (∃ fault, Json.parseStringPairs row.headers.toUTF8.toList = .error fault) ∨
    ∃ fault, Moment.parse row.cachedAt = .error fault

theorem Row.read_eq_error_iff {row : Row} {badStatus : Int → Failure} :
    (∃ failure, row.read badStatus = .error failure) ↔ row.IsDamaged := by
  unfold read IsDamaged
  cases hstatus : row.status? with
  | none => simp
  | some status =>
      simp only [decode, reduceCtorEq, false_or]
      cases hheaders : Json.parseStringPairs row.headers.toUTF8.toList with
      | error fault => simp
      | ok headers =>
          cases htime : Moment.parse row.cachedAt with
          | error fault => simp
          | ok cachedAt => simp

namespace Tables

variable {tables : Tables} {store : String} {key : Key} {response : Response} {now : Moment}
  {entry : Entry}

/-- A lookup in one store fails if the row that is found there is damaged, and only then. -/
theorem get_eq_error_iff : (∃ failure, tables.get store key = .error failure) ↔
    ∃ row, tables.find? store key.hash = some row ∧ row.IsDamaged := by
  unfold get
  cases tables.find? store key.hash with
  | none => simp
  | some row =>
      simp only [Option.some.injEq, exists_eq_left']
      rw [← Row.read_eq_error_iff]
      cases row.read (.statusInStore key.url store) <;> simp [Except.map]

theorem get_of_held? (hheld : tables.held? key store = some entry) :
    tables.get store key = .ok (some entry) := by
  unfold held? at hheld
  cases hget : tables.get store key with
  | error failure => simp [hget, Except.toOption] at hheld
  | ok found =>
      obtain rfl : found = some entry := by simpa [hget, Except.toOption] using hheld
      rfl

def rowsBut (tables : Tables) (store hash : String) : List Row :=
  tables.entries.filter fun row => !(row.store = store ∧ row.hash = hash)

theorem rowsBut_openStore {name hash : String} :
    (tables.openStore name).rowsBut store hash = tables.rowsBut store hash := by
  unfold openStore
  split <;> rfl

theorem rowsBut_writeRow (tables : Tables) (row : Row) :
    (tables.writeRow row).rowsBut row.store row.hash = tables.rowsBut row.store row.hash := by
  have hothers := List.filter_eq_self.mpr
    fun other (hmem : other ∈ tables.rowsBut row.store row.hash) => (List.mem_filter.mp hmem).2
  change (tables.rowsBut row.store row.hash ++ [row]).filter _ = _
  rw [List.filter_append, hothers, List.filter_cons_of_neg (by simp), List.filter_nil,
    List.append_nil]

theorem rowsBut_put :
    (tables.put store key response now).rowsBut store key.hash = tables.rowsBut store key.hash := by
  have hwrite := (tables.openStore store).rowsBut_writeRow (.encode store key response now)
  rwa [Row.encode_store, Row.encode_hash, rowsBut_openStore] at hwrite

end Tables

end Store

namespace Strategy

variable {calls : Activity → Prop} {s t : System} {events : List Event} {number : Nat}
  {purpose : Purpose} {stores : StorePair} {request : Request} {entry : Store.Entry}
  {f : Except Failure Served → Work Reply} {work : Work Reply} {exchange : Exchange}

/-! ### A lookup that fails -/

def lookedIn (stores : StorePair) (request : Request)
    (answer : Except Store.Failure (Option Store.Entry)) : Exchange :=
  ⟨.storage (.get stores.static (.ofRequest request)), answer⟩

/-- All that a cache-first call exchanges whose lookup fails, and what it then answers: the network
is asked once, and whether its response can be kept makes no difference to the answer. -/
inductive Refetch (stores : StorePair) (request : Request) :
    List Exchange → Except Failure Served → Prop
  | failed (lost : Store.Failure) (failure : FetchFailure) :
      Refetch stores request
        [lookedIn stores request (.error lost), ⟨.fetch request, .error failure⟩]
        (.error (.network failure))
  | dropped (lost : Store.Failure) {response : Response} (hdrops : ¬request.keeps response) :
      Refetch stores request
        [lookedIn stores request (.error lost), ⟨.fetch request, .ok response⟩]
        (.ok (.ofNetwork response))
  | kept (lost : Store.Failure) {response : Response} (hkeeps : request.keeps response)
      (answer : Except Store.Failure Unit) :
      Refetch stores request
        [lookedIn stores request (.error lost), ⟨.fetch request, .ok response⟩,
          ⟨.storage (.put stores.static (.ofRequest request) response), answer⟩]
        (.ok (.ofNetwork response))

/-- A call whose lookup failed is over, or it can go on to what it has not asked for yet. -/
theorem refetch_of_leads {lost : Store.Failure} {rest : List Exchange}
    (leads : Work.Leads (cacheFirst.run stores request >>= f)
      (lookedIn stores request (.error lost) :: rest) work) :
    (∃ own later outcome, lookedIn stores request (.error lost) :: rest = own ++ later ∧
        Refetch stores request own outcome ∧ Work.Leads (f outcome) later work) ∨
      (∃ op next, work = .ask op next ∧ ∀ channel ticket, op ≠ .await channel ticket) ∧
        ∃ later outcome, later ≠ [] ∧
          Refetch stores request (lookedIn stores request (.error lost) :: rest ++ later)
            outcome := by
  cases leads with
  | step afterLookup =>
    obtain ⟨rfl, rfl⟩ | ⟨failure | response, rest, rfl, afterFetch⟩ :=
      Work.leads_ask_iff.mp afterLookup
    · exact .inr ⟨⟨_, _, rfl, nofun⟩, _, _, List.cons_ne_nil _ _,
        .failed lost (.noResponse request.url "")⟩
    · exact .inl ⟨_, rest, _, rfl, .failed lost failure, afterFetch⟩
    · change Work.Leads ((Stores.put _ _ _ >>= _ >>= _) >>= f) rest work at afterFetch
      by_cases hkeeps : request.keeps response
      · obtain ⟨hkey, hresponse⟩ := Bool.and_eq_true_iff.mp hkeeps
        rw [Stores.put_of_storable hkey hresponse] at afterFetch
        obtain ⟨rfl, rfl⟩ | ⟨answer, rest, rfl, afterPut⟩ := Work.leads_ask_iff.mp afterFetch
        · exact .inr ⟨⟨_, _, rfl, nofun⟩, _, _, List.cons_ne_nil _ _, .kept lost hkeeps (.ok ())⟩
        · refine .inl ⟨_, rest, _, rfl, .kept lost hkeeps answer, ?_⟩
          cases answer <;> exact afterPut
      · have hrefused := hkeeps
        rw [Request.keeps, Bool.and_eq_true] at hrefused
        rw [Stores.put_of_refused hrefused] at afterFetch
        exact .inl ⟨_, rest, _, rfl, .dropped lost hkeeps, afterFetch⟩

/-! ### The next calls -/

/-- The call has come to a lookup that gives it nothing: it finds a damaged row, or the disk does
not give the row to it. -/
def Unread (s : System) (stores : StorePair) (request : Request) (exchange : Exchange) : Prop :=
  (∃ row, s.tables.find? stores.static (Store.Key.ofRequest request).hash = some row ∧
      row.IsDamaged) ∨
    ∃ refusal, exchange = lookedIn stores request (.error refusal)

theorem Unread.exists_eq {mid : System} (unread : Unread s stores request exchange)
    (begins : s.tasks[number]? = some ⟨purpose, cacheFirst.run stores request >>= f⟩)
    (step : Step calls s (.act number exchange) mid) :
    ∃ lost, exchange = lookedIn stores request (.error lost) := by
  obtain damaged | hrefused := unread
  · obtain ⟨failure, hfails⟩ := Store.Tables.get_eq_error_iff.mpr damaged
    cases step with
    | act here answers =>
        obtain ⟨-, hask⟩ := Task.mk.inj (Option.some.inj (here.symm.trans begins))
        cases hask
        obtain ⟨refusal, rfl, -⟩ | ⟨now, -, rfl | rfl, -⟩ := answers
        · exact ⟨refusal, rfl⟩
        · exact ⟨failure, congrArg (lookedIn stores request) hfails⟩
        · exact ⟨.abandoned, rfl⟩
  · exact hrefused

/-- As long as nobody writes the row of an entry or deletes the static store, every cache-first call
for its key is served the entry and asks for nothing but the lookup. Nothing is said of a call whose
lookup the disk refuses. -/
def ServesFrom (calls : Activity → Prop) (s : System) (stores : StorePair) (entry : Store.Entry) :
    Prop :=
  ∀ {events : List Event} {t : System} {reader : Nat} {purpose : Purpose} {request : Request}
    {f : Except Failure Served → Work Reply} {work : Work Reply},
    Run calls s events t → (∀ event ∈ events, ¬event.Rewrites stores.static entry.key.hash) →
    .ofRequest request = entry.key →
    s.tasks[reader]? = some ⟨purpose, cacheFirst.run stores request >>= f⟩ →
    t.tasks[reader]? = some ⟨purpose, work⟩ →
      (history reader events = [] ∧ GoesOn calls t reader) ∨
      (∃ refusal rest, history reader events = lookedIn stores request (.error refusal) :: rest) ∨
      ∃ rest, history reader events = lookedIn stores request (.ok (some entry)) :: rest ∧
        Work.Leads (f (.ok (.ofCache entry))) rest work

theorem servesFrom_of_held? (hheld : s.tables.held? entry.key stores.static = some entry) :
    ServesFrom calls s stores entry := by
  intro events t reader purpose request f work run hquiet hkey begins here
  obtain ⟨left, hleft, leads⟩ := run.leads_of_task begins
  obtain ⟨-, rfl⟩ := Task.mk.inj (Option.some.inj (hleft.symm.trans here))
  obtain ⟨hnone, rfl⟩ | ⟨failure | found, rest, hhistory, afterLookup⟩ :=
    Work.leads_ask_iff.mp leads
  · exact .inl ⟨hnone, System.goesOn here nofun⟩
  · exact .inr (.inl ⟨failure, rest, hhistory⟩)
  · obtain ⟨before, after, rfl, -, -⟩ := history_eq_cons hhistory
    obtain ⟨mid, lead, next, step, -⟩ := run_append.mp run
    obtain ⟨now, -, hfound, -⟩ := step.answered
    have hthere : mid.tables.get stores.static entry.key = .ok (some entry) := by
      refine Store.Tables.get_of_held? ?_
      rw [lead.held? fun event hmem => hquiet event (List.mem_append_left _ hmem), hheld]
    obtain rfl : found = some entry := by
      rw [← hkey] at hthere
      exact Except.ok.inj (hfound.symm.trans hthere)
    exact .inr (.inr ⟨rest, hhistory, afterLookup⟩)

/-- **Damaged rows heal.** Whatever the tables hold: a cache-first call that finds a damaged row in
the static store, or is not given the row, asks the network once and answers what the network has to
say; until then it can go on. A response that it keeps takes the place of the row, and every other
row stays as it was: as the call has found it, if nobody else wrote in between. From then on every
cache-first call for the key is served that response and does not ask the network. -/
theorem healed_by_refetch
    (begins : s.tasks[number]? = some ⟨purpose, cacheFirst.run stores request >>= f⟩)
    (unread : Unread s stores request exchange)
    (run : Run calls s (.act number exchange :: events) t)
    (here : t.tasks[number]? = some ⟨purpose, work⟩) :
    ((∃ own later outcome, exchange :: history number events = own ++ later ∧
        Refetch stores request own outcome ∧ Work.Leads (f outcome) later work) ∨
      GoesOn calls t number ∧ ∃ later outcome, later ≠ [] ∧
        Refetch stores request (exchange :: history number events ++ later) outcome) ∧
    ∀ response before after, events = before ++
        .act number ⟨.storage (.put stores.static (.ofRequest request) response), .ok ()⟩ :: after →
      ∃ old new now, Run calls s (.act number exchange :: before) old ∧ Run calls new after t ∧
        now.IsClock ∧
        old.tables.HasEntry new.tables stores.static (.ofRequest request) response now ∧
        new.tables.rowsBut stores.static (Store.Key.ofRequest request).hash =
          old.tables.rowsBut stores.static (Store.Key.ofRequest request).hash ∧
        ((∀ acting, Writeless (history acting before)) → old.tables = s.tables) ∧
        ((∀ event ∈ after, ¬event.Rewrites stores.static (Store.Key.ofRequest request).hash) →
          ServesFrom calls t stores ⟨.ofRequest request, response, now⟩) := by
  obtain ⟨mid, first, rest⟩ := id run
  obtain ⟨lost, rfl⟩ := unread.exists_eq begins first
  constructor
  · obtain ⟨left, hleft, leads⟩ := run.leads_of_task begins
    obtain ⟨-, rfl⟩ := Task.mk.inj (Option.some.inj (hleft.symm.trans here))
    rw [← List.singleton_append, history_append, history_act_self] at leads
    refine (refetch_of_leads leads).imp_right fun ⟨⟨op, next, hask, hnever⟩, ahead⟩ => ⟨?_, ahead⟩
    rw [hask] at here
    exact System.goesOn here fun channel ticket hsame => absurd hsame (hnever channel ticket)
  · rintro response before after rfl
    obtain ⟨old, lead, new, write, later⟩ := run_append.mp rest
    obtain ⟨now, hclock, hafter⟩ : ∃ now : Moment, now.IsClock ∧ new.tables =
        old.tables.put stores.static (.ofRequest request) response now := by
      obtain ⟨now, hclock, -, hafter⟩ := write.answered
      exact ⟨now, hclock, hafter⟩
    have hentry := old.tables.hasEntry_put stores.static (.ofRequest request) response hclock
    refine ⟨old, new, now, ⟨mid, first, lead⟩, later, hclock, hafter ▸ hentry,
      hafter ▸ Store.Tables.rowsBut_put, fun hquiet => ?_, fun hquiet => ?_⟩
    · rw [lead.tables_of_writeless hquiet, first.tables_of_writeless rfl]
    · refine servesFrom_of_held? ?_
      rw [later.held? hquiet, hafter, Store.Tables.held?_put_self hclock]

/-! ### A style sheet of which nothing is left but the row -/

namespace Attic

open Kiosk (kiosk active)
open Moment (noon isClock_noon)

def sheet : Request where
  method := "GET"
  url := { kiosk.origin with path := .segments ["main.css"] }
  accept := none
  headers := []
  body := .empty

theorem class_sheet : RequestClass.ofRequest? kiosk.settings sheet = some .staticAsset := by
  decide +kernel

def spoiledRow : Store.Row where
  store := kiosk.stores.static
  hash := (Store.Key.ofRequest sheet).hash
  method := "GET"
  url := "http://[::1]:8000/main.css"
  status := 70000
  headers := "moth-eaten"
  body := .empty
  cachedAt := "long ago"

/-- Two spoiled rows, and no store is listed. -/
def spoiled : Store.Tables :=
  ⟨[], [{ spoiledRow with store := "lost" }, spoiledRow]⟩

def restored : Response := .new 200 "body \x7b margin: 0 \x7d"

def damage : Store.Failure :=
  .statusInStore (Store.Key.ofRequest sheet).url kiosk.stores.static 70000

theorem find?_spoiled :
    spoiled.find? kiosk.stores.static (Store.Key.ofRequest sheet).hash = some spoiledRow := by
  have hne : "lost" ≠ kiosk.stores.static := by decide
  simp [Store.Tables.find?, spoiled, spoiledRow, hne]

theorem get_spoiled : spoiled.get kiosk.stores.static (.ofRequest sheet) = .error damage := by
  rw [Store.Tables.get, find?_spoiled]
  rfl

theorem isDamaged_spoiledRow : spoiledRow.IsDamaged := .inl rfl

theorem keeps_restored : sheet.keeps restored := by
  have hkey : (Store.Key.ofRequest sheet).isStorable := Store.Key.isStorable_ofRequest rfl
  rw [Request.keeps, hkey]
  rfl

/-- A call has read that the agent is active and is about to look the sheet up. -/
def lookingUp : Task :=
  ⟨.call (.fetch kiosk sheet),
    cacheFirst.run kiosk.stores sheet >>= delivered kiosk sheet .staticAsset⟩

def fetched : Exchange := ⟨.fetch sheet, .ok restored⟩

def written : Exchange :=
  ⟨.storage (.put kiosk.stores.static (.ofRequest sheet) restored), .ok ()⟩

def visit (number : Nat) : List Event :=
  [.call (.fetch kiosk sheet), .act number ⟨.lifecycle 0 .read, .active⟩]

theorem visit_runs {s : System} (hactive : (s.cells 0).state = .active) :
    ∃ t, Run (fun _ => True) s (visit s.tasks.length) t ∧ t.tables = s.tables ∧
      (t.cells 0).state = .active ∧ t.tasks = s.tasks ++ [lookingUp] := by
  have hreading : Work.Leads (Activity.fetch kiosk sheet).work [⟨.lifecycle 0 .read, .active⟩]
      lookingUp.work := leads_reading class_sheet
  have hread : (s.begin (.fetch kiosk sheet)).Answers (.lifecycle 0 .read) .active
      (s.begin (.fetch kiosk sheet)) :=
    ⟨hactive.symm, by simp [System.begin, Lifecycle.Step.run]⟩
  refine ⟨_, .append (.call trivial) (.of_leads hreading (by simp [System.begin]; rfl)
    ⟨_, hread, rfl⟩), rfl, hactive, ?_⟩
  simp [System.begin, System.setTask, lookingUp]

theorem leads_mending : Work.Leads lookingUp.work
    [lookedIn kiosk.stores sheet (.error damage), fetched, written]
    (.done (.served (.ofNetwork restored))) := by
  refine .step (.step ?_)
  change Work.Leads ((Stores.put _ _ _ >>= _ >>= _) >>= _) [written] _
  obtain ⟨hkey, hresponse⟩ := Bool.and_eq_true_iff.mp keeps_restored
  rw [Stores.put_of_storable hkey hresponse]
  exact .step (.refl _)

theorem mending_runs {s : System} (htables : s.tables = spoiled)
    (hactive : (s.cells 0).state = .active) (htasks : s.tasks = [lookingUp]) :
    ∃ t, Run (fun _ => True) s
        ([lookedIn kiosk.stores sheet (.error damage), fetched, written].map (.act 0)) t ∧
      (t.cells 0).state = .active ∧ t.tasks.length = 1 := by
  have hlost : s.tables.get kiosk.stores.static (.ofRequest sheet) = .error damage :=
    htables ▸ get_spoiled
  refine ⟨_, .of_leads leads_mending (by rw [htasks]; rfl)
    ⟨_, .performed isClock_noon hlost.symm, _, .fetched _, _, .performed isClock_noon rfl, rfl⟩,
    hactive, ?_⟩
  change (s.tasks.set 0 _).length = 1
  rw [List.length_set, htasks]
  rfl

theorem writeless_visit (number acting : Nat) : Writeless (history acting (visit number)) := by
  intro exchange hmem
  obtain ⟨rfl, rfl⟩ : acting = number ∧ exchange = ⟨.lifecycle 0 .read, .active⟩ := by
    simpa [visit] using mem_history.mp hmem
  rfl

/-- The first visit finds the row spoiled and mends it, and the second one is served the sheet. -/
theorem second_visit_served : ∃ (s t u : System) (now : Moment),
    s.tables = spoiled ∧ s.tasks = [lookingUp] ∧
      Run (fun _ => True) s (.act 0 (lookedIn kiosk.stores sheet (.error damage)) ::
        ([fetched, written].map (.act 0) ++ visit 1)) t ∧
      t.tables.rowsBut kiosk.stores.static (Store.Key.ofRequest sheet).hash =
        spoiled.rowsBut kiosk.stores.static (Store.Key.ofRequest sheet).hash ∧
      Run (fun _ => True) t
        [.act 1 (lookedIn kiosk.stores sheet (.ok (some ⟨.ofRequest sheet, restored, now⟩)))] u ∧
      u.tasks[1]? = some ⟨.call (.fetch kiosk sheet),
        .done (.served (.ofCache ⟨.ofRequest sheet, restored, now⟩))⟩ := by
  obtain ⟨s, -, htables, hactive, htasks⟩ := visit_runs (s := active spoiled) rfl
  obtain ⟨m, mending, hactive', hlength⟩ := mending_runs htables hactive htasks
  obtain ⟨t, again, htables', -, htasks'⟩ := visit_runs hactive'
  rw [hlength] at again
  have run := mending.append again
  have begins : s.tasks[0]? = some lookingUp := by
    rw [htasks]
    rfl
  obtain ⟨work, here, -⟩ := run.leads_of_task begins
  have hreader : t.tasks[1]? = some lookingUp := by
    rw [htasks', ← hlength]
    exact List.getElem?_concat_length
  obtain ⟨-, hheals⟩ := healed_by_refetch begins
    (.inl ⟨spoiledRow, by rw [htables]; exact find?_spoiled, isDamaged_spoiledRow⟩) run here
  obtain ⟨old, new, now, -, later, -, entry, hrows, hbefore, hserves⟩ :=
    hheals restored [.act 0 fetched] (visit 1) rfl
  have hsame : t.tables = new.tables := later.tables_of_writeless (writeless_visit 1)
  have hold : old.tables = spoiled := by
    refine (hbefore fun acting exchange hmem => ?_).trans htables
    obtain ⟨-, rfl⟩ : acting = 0 ∧ exchange = fetched := by simpa using mem_history.mp hmem
    rfl
  have reading : Run (fun _ => True) t [.act 1
      (lookedIn kiosk.stores sheet (.ok (some ⟨.ofRequest sheet, restored, now⟩)))] _ :=
    .of_leads (.step (.refl _)) hreader
      ⟨_, .inr ⟨noon, isClock_noon, .inl (hsame ▸ entry.entry.symm), rfl⟩, rfl⟩
  refine ⟨s, t, _, now, htables, htasks, run, by rw [hsame, hrows, hold], reading, ?_⟩
  obtain ⟨left, hleft, -⟩ := reading.leads_of_task hreader
  have hquiet : ∀ event ∈ visit 1, ¬event.Rewrites kiosk.stores.static
      (Store.Key.ofRequest sheet).hash := by
    simp [visit, Event.Rewrites]
  obtain ⟨hnone, -⟩ | ⟨refusal, rest, hrefused⟩ | ⟨rest, hserved, leads⟩ :=
    hserves hquiet reading (by simp [lookedIn, Event.Rewrites, Store.Call.Rewrites]) rfl hreader
      hleft
  · rw [history_act_self] at hnone
    cases hnone
  · rw [history_act_self] at hrefused
    cases hrefused
  · rw [history_act_self] at hserved
    obtain rfl : rest = [] := (List.cons.inj hserved).2.symm
    obtain ⟨-, rfl⟩ := Work.leads_done_iff.mp leads
    exact hleft

end Attic

end Strategy

end OfflineAgent
