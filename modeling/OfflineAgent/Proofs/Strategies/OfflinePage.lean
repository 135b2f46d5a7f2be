import OfflineAgent.Proofs.Agent.Manifest
import OfflineAgent.Proofs.Agent.Operations
import OfflineAgent.Proofs.Interleaving.Listing
import OfflineAgent.Proofs.Lifecycle.Installation
import OfflineAgent.Proofs.Server.Origin
import OfflineAgent.Proofs.Url.References
import OfflineAgent.Proofs.Work.Alone

/-!
# Where the offline page is found

The offline page is stored under its path read from the origin, and looked up under its path read
from the request. A path from the root leaves nothing to either but the place they lead to, so the
page is found from every path; a path beside the request is found from one folder only. And what is
found is the copy of the oldest store that holds the page.
-/

namespace OfflineAgent

open Interleaving
open Store (Key Tables)

namespace Fallback

variable {page : String} {request : Request} {pageUrl : Url} {tables : Tables} {now : Moment}

/-- Serves what a lookup found, and goes on if that was nothing. -/
def foundOr (otherwise : Work Served) : Except Store.Failure (Option Store.Entry) → Work Served
  | .ok (some entry) => .done (.ofCache entry)
  | .ok none | .error _ => otherwise

/-- A navigation looks for the request, and if that is not stored for the offline page. -/
theorem resolve_navigation (hjoin : request.url.join page = .ok pageUrl) :
    resolve page request .navigation =
      .ask (.storage (.matchAny (.ofRequest request)))
        (foundOr (.ask (.storage (.matchAny (.get pageUrl)))
          (foundOr (.done (.ofFallback (offlineResponse request.url)))))) := by
  have hpage : offlinePage page request .navigation = Stores.lookup none (.get pageUrl) := by
    unfold offlinePage
    rw [hjoin]
  unfold resolve
  rw [hpage]
  refine congrArg (Work.ask _) (funext fun answer => ?_)
  -- A failure counts as nothing found, the first time as well as the second.
  obtain failure | _ | entry := answer
  case ok.some => rfl
  all_goals
    refine congrArg (Work.ask _) (funext fun answer => ?_)
    obtain failure | _ | entry := answer <;> rfl

theorem alone_resolve {found : Option Store.Entry} (hjoin : request.url.join page = .ok pageUrl)
    (hexact : tables.matchAny (.ofRequest request) = .ok none)
    (hpage : tables.matchAny (.get pageUrl) = .ok found) :
    (resolve page request .navigation).alone (fun _ => none) now tables =
      (foundOr (.done (.ofFallback (offlineResponse request.url))) (.ok found)).alone
        (fun _ => none) now tables := by
  rw [resolve_navigation hjoin, Work.alone_storage, Store.Call.attempt, Store.Call.run, hexact,
    foundOr, Work.alone_storage, Store.Call.attempt, Store.Call.run, hpage]

/-- **The offline page is found from every path that reads it like the origin.** Once a response is
stored under the page of the settings, read from the origin, and as long as nobody writes to the
static store under its hash or deletes that store, a navigation whose URL agrees with the origin on
all that the page takes over asks for this very page. Whenever that lookup does not fail the
navigation is served what is found: the copy of the oldest store that holds the page, which is the
response unless an older store than the static one holds a copy. -/
theorem offline_page_served {calls : Simulation.Activity → Prop} {settings : Settings}
    {origin : Url} {response : Response} {writer : Nat} {s t : System} {after : List Event}
    (horigin : settings.originUrl = .ok origin)
    (hpage : origin.join settings.offlinePage = .ok pageUrl)
    (hrooted : request.url.isRootless = false)
    (agrees : Url.Agrees (.of origin.scheme settings.offlinePage) origin request.url)
    (intact : s.tables.Intact)
    (run : Run calls s (.act writer
      ⟨.storage (.put settings.staticStore (.ofRequest (.get pageUrl)) response), .ok ()⟩ :: after)
        t)
    (hquiet : ∀ event ∈ after, ¬event.Rewrites settings.staticStore (Key.get pageUrl).hash) :
    ∃ next now, now.IsClock ∧
      Work.Leads (resolve settings.offlinePage request .navigation)
        [⟨.storage (.matchAny (.ofRequest request)), .ok none⟩]
        (.ask (.storage (.matchAny (.get pageUrl))) next) ∧
      ∀ before number found later,
        after = before ++ .act number ⟨.storage (.matchAny (.get pageUrl)), .ok found⟩ :: later →
        ∃ (mid : System) (entry : Store.Entry), Run calls s (.act writer
            ⟨.storage (.put settings.staticStore (.ofRequest (.get pageUrl)) response), .ok ()⟩ ::
              before) mid ∧
          entry = (mid.tables.olderCopy? settings.staticStore (.get pageUrl)).getD
            ⟨.get pageUrl, response, now⟩ ∧
          found = some entry ∧ next (.ok found) = .done (.ofCache entry) := by
  have known := Settings.isOrigin_originUrl horigin
  have hjoin : request.url.join settings.offlinePage = .ok pageUrl :=
    (Url.join_congr known.web known.rooted hrooted agrees).symm.trans hpage
  rw [Key.ofRequest_get] at run ⊢
  obtain ⟨start, write, rest⟩ := run
  obtain ⟨now, hclock, hwritten⟩ := write.held?_put
  refine ⟨foundOr (.done (.ofFallback (offlineResponse request.url))), now, hclock, ?_, ?_⟩
  · rw [resolve_navigation hjoin]
    exact .step (.refl _)
  · -- Up to the lookup the page is held in its store, so only an older store can answer instead.
    rintro before number found later rfl
    obtain ⟨mid, lead, next, read, -⟩ := run_append.mp rest
    have hmid : mid.tables.Intact := lead.intact (write.intact intact)
    have hheld : mid.tables.held? (.get pageUrl) settings.staticStore =
        some ⟨.get pageUrl, response, now⟩ :=
      (lead.held? fun event hmem => hquiet event (List.mem_append_left _ hmem)).trans hwritten
    obtain ⟨_, -, hfound, -⟩ := read.answered
    change mid.tables.matchAny (.get pageUrl) = .ok found at hfound
    rw [hmid.matchAny_of_held? hheld] at hfound
    obtain rfl := Except.ok.inj hfound
    exact ⟨mid, _, ⟨start, write, lead⟩, rfl, rfl, rfl⟩

namespace Trail

open Kiosk (kiosk offlineUrl)
open Moment (noon isClock_noon)

/-- The kiosk if it loads nothing but the offline page. -/
def trail : Agent :=
  { kiosk with settings := { kiosk.settings with precache := ["/offline.html"] } }

/-- Two folders below the root. -/
def hut : Request where
  method := "GET"
  url := { trail.origin with path := .segments ["huts", "north", "beds"], query := some "night=2" }
  accept := some "text/html"
  headers := []
  body := .empty

/-- The page is written without the slash before it. -/
def beside : Settings :=
  { trail.settings with precache := ["offline.html"], offlinePage := "offline.html" }

/-- Where it is looked for then: in the folder of the request. -/
def besideUrl : Url := { trail.origin with path := .segments ["huts", "north", "offline.html"] }

/-- The origin has a user name, which the request has not. -/
def named : Settings := { trail.settings with origin := "http://porter@[::1]:8000" }

def namedUrl : Url := { offlineUrl with username := "porter" }

def notice : Response := .new 200 "No network up here"

def saved (url : Url) : Store.Entry := ⟨.get url, notice, noon⟩

def setOut : Tables := Tables.empty.openStore trail.settings.staticStore

def packed (url : Url) : Tables :=
  setOut.put trail.settings.staticStore (.ofRequest (.get url)) notice noon

theorem origin_trail : trail.settings.originUrl = .ok trail.origin := rfl

theorem join_trail : trail.origin.join trail.settings.offlinePage = .ok offlineUrl := rfl

theorem join_hut : hut.url.join trail.settings.offlinePage = .ok offlineUrl := rfl

theorem agrees_hut :
    Url.Agrees (.of trail.origin.scheme trail.settings.offlinePage) trail.origin hut.url := by
  have hreliance : Url.Reliance.of trail.origin.scheme trail.settings.offlinePage = .place := rfl
  rw [hreliance]
  exact ⟨rfl, fun _ => rfl, nofun, by simp, nofun⟩

/-- The digests of the keys in all that follows, computed once. -/
theorem digests_apart :
    (Key.get offlineUrl).hash ≠ (Key.ofRequest hut).hash ∧
      (Key.get offlineUrl).hash ≠ (Key.get besideUrl).hash ∧
      (Key.get namedUrl).hash ≠ (Key.ofRequest hut).hash ∧
      (Key.get namedUrl).hash ≠ (Key.get offlineUrl).hash := by
  decide +kernel

theorem intact_setOut : setOut.Intact := Store.Tables.intact_empty.openStore _

theorem matchAny_setOut (key : Key) : setOut.matchAny key = .ok none := by
  have hheld : setOut.held? key = fun _ => none := by
    funext name
    rw [setOut, Store.Tables.held?_openStore]
    rfl
  rw [intact_setOut.matchAny_eq, hheld]
  simp

theorem matchAny_packed_of_ne {url : Url} {key : Key}
    (hapart : (Key.get url).hash ≠ key.hash) : (packed url).matchAny key = .ok none := by
  rw [packed, Key.ofRequest_get]
  exact intact_setOut.matchAny_put_of_ne isClock_noon hapart (matchAny_setOut _)

theorem olderCopy?_setOut (key : Key) :
    setOut.olderCopy? trail.settings.staticStore key = none := by
  have hnames : setOut.names = [trail.settings.staticStore] :=
    Store.Tables.names_empty_openStore _
  rw [Store.Tables.olderCopy?, hnames, List.takeWhile_cons_of_neg (by simp), List.findSome?_nil]

theorem matchAny_packed_self (url : Url) :
    (packed url).matchAny (.get url) = .ok (some (saved url)) := by
  rw [packed, Key.ofRequest_get, intact_setOut.matchAny_put isClock_noon, olderCopy?_setOut]
  rfl

def loading : List Exchange :=
  [⟨.storage (.openStore trail.stores.static), .ok ()⟩,
    ⟨.start (.precache trail.stores.static (.get offlineUrl)), 0⟩]

def saving : Exchange :=
  ⟨.storage (.put trail.settings.staticStore (.ofRequest (.get offlineUrl)) notice), .ok ()⟩

def finding : Exchange :=
  ⟨.storage (.matchAny (.get offlineUrl)), .ok (some (saved offlineUrl))⟩

def arriving : List Exchange :=
  [⟨.storage (.matchAny (.ofRequest hut)), .ok none⟩, finding]

/-- What happens once the page is stored, up to the lookup that finds it. -/
def onTheWay : List Event :=
  [.act 1 ⟨.report .precache 0 (.ok ()), ()⟩,
    .call (.fallback trail.settings.offlinePage hut .navigation),
    .act 2 ⟨.storage (.matchAny (.ofRequest hut)), .ok none⟩]

theorem leads_loading : Work.Leads (Simulation.Activity.precache trail).work
    (loading ++ [⟨.await .precache 0, .ok ()⟩]) (.done (.report (some ⟨["/offline.html"], []⟩))) :=
  (Agent.leads_precache (.ok ()) (Agent.leads_startPrecache_of_ok join_trail 0 (.refl _))
    (.step (.refl _))).bind_of_done _

theorem leads_saving : Work.Leads
    (Purpose.background (.precache trail.stores.static (.get offlineUrl)) 0).work
    ([⟨.fetch (.get offlineUrl), .ok notice⟩] ++ ([saving] ++
      [⟨.report .precache 0 (.ok ()), ()⟩])) (.done .ok) :=
  Purpose.leads_precache (Key.isStorable_ofRequest_get offlineUrl) (.ok notice) (.ok ())

theorem leads_arriving : Work.Leads
    (Simulation.Activity.fallback trail.settings.offlinePage hut .navigation).work arriving
    (.done (.served (.ofCache (saved offlineUrl)))) := by
  change Work.Leads (resolve trail.settings.offlinePage hut .navigation >>= _) _ _
  rw [resolve_navigation join_hut]
  exact .step (.step (.refl _))

theorem way_runs : ∃ s t, s.tables = setOut ∧
    Run (fun _ => True) (.new [trail] .empty) ([.call (.precache trail)] ++ loading.map (.act 0) ++
      [.act 1 ⟨.fetch (.get offlineUrl), .ok notice⟩]) s ∧
    Run (fun _ => True) s (.act 1 saving :: (onTheWay ++ [.act 2 finding])) t ∧
    t.tasks[2]? = some ⟨.call (.fallback trail.settings.offlinePage hut .navigation),
      .done (.served (.ofCache (saved offlineUrl)))⟩ := by
  obtain ⟨waiting, hloading, -⟩ := Work.leads_append_iff.mp leads_loading
  obtain ⟨fetched, hfetching, hrest⟩ := Work.leads_append_iff.mp leads_saving
  obtain ⟨reporting, hsaving, hreporting⟩ := Work.leads_append_iff.mp hrest
  exact ⟨_, _, rfl, .append (.append (.call trivial)
      (.of_leads hloading rfl ⟨_, .performed isClock_noon rfl, _, .begun rfl, rfl⟩))
      (.of_leads hfetching rfl ⟨_, .fetched _, rfl⟩),
    .append (.of_leads hsaving rfl ⟨_, .performed isClock_noon rfl, rfl⟩)
      (.append (.of_leads hreporting rfl ⟨_, .reported, rfl⟩) (.append (.call trivial)
        (.of_leads leads_arriving rfl
          ⟨_, .matched (matchAny_packed_of_ne digests_apart.1),
            _, .matched (matchAny_packed_self offlineUrl), rfl⟩))),
    rfl⟩

theorem not_rewrites : ∀ event ∈ onTheWay ++ [.act 2 finding],
    ¬event.Rewrites trail.settings.staticStore (Key.get offlineUrl).hash := by
  simp [onTheWay, finding, Event.Rewrites, Store.Call.Rewrites]

/-- The page is found two folders below the root. -/
theorem served_at_hut : ∃ s t next,
    Run (fun _ => True) s (.act 1 saving :: (onTheWay ++ [.act 2 finding])) t ∧
    Work.Leads (resolve trail.settings.offlinePage hut .navigation)
      [⟨.storage (.matchAny (.ofRequest hut)), .ok none⟩]
      (.ask (.storage (.matchAny (.get offlineUrl))) next) ∧
    next (.ok (some (saved offlineUrl))) = .done (.ofCache (saved offlineUrl)) := by
  obtain ⟨s, t, htables, -, run, -⟩ := way_runs
  have hrooted : hut.url.isRootless = false := rfl
  have intact : s.tables.Intact := htables ▸ intact_setOut
  obtain ⟨next, now, -, leads, hserved⟩ := offline_page_served origin_trail join_trail hrooted
    agrees_hut intact run not_rewrites
  obtain ⟨mid, entry, -, -, hfound, hnext⟩ := hserved onTheWay 2 (some (saved offlineUrl)) [] rfl
  obtain rfl := Option.some.inj hfound
  exact ⟨s, t, next, run, leads, hnext⟩

/-! ### Where it is not -/

def SameOrigin (url other : Url) : Prop :=
  url.scheme = other.scheme ∧ url.host = other.host ∧ url.port = other.port

/-- The page of the settings is in the manifest, and stored as it is read from the origin. The
request is a navigation on the same origin that no store holds. And yet it is not the stored page
that it is served. -/
structure Denied (settings : Settings) (request : Request) (tables : Tables) (saved : Store.Entry)
    (served : Served) : Prop where
  listed : settings.offlinePage ∈ settings.precache
  page : ∃ origin pageUrl, settings.originUrl = .ok origin ∧
    origin.join settings.offlinePage = .ok pageUrl ∧ saved.key = .get pageUrl ∧
    SameOrigin pageUrl origin ∧ SameOrigin request.url origin
  stored : tables.get settings.staticStore saved.key = .ok (some saved)
  navigates : RequestClass.ofRequest? settings request = some .navigation
  missing : tables.matchAny (.ofRequest request) = .ok none
  resolved : ∀ now, (resolve settings.offlinePage request .navigation).alone (fun _ => none) now
    tables = some (served, tables)
  other : served ≠ .ofCache saved

theorem ofFallback_ne_ofCache (response : Response) (entry : Store.Entry) :
    Served.ofFallback response ≠ .ofCache entry := by
  intro hsame
  cases congrArg Served.source hsame

theorem get_put_self {before : Tables} (intact : before.Intact) (url : Url) :
    (before.put trail.settings.staticStore (.ofRequest (.get url)) notice noon).get
      trail.settings.staticStore (.get url) = .ok (some ⟨.get url, notice, noon⟩) := by
  rw [Key.ofRequest_get, (intact.put _ _ _ isClock_noon).get_eq,
    Store.Tables.held?_put_self isClock_noon]

/-- A page that is looked for under another URL than it is stored under is not found. -/
theorem denied_of_missed {settings : Settings} {origin stored missed : Url}
    (hlisted : settings.offlinePage ∈ settings.precache)
    (hstore : settings.staticStore = trail.settings.staticStore)
    (horigin : settings.originUrl = .ok origin)
    (hpage : origin.join settings.offlinePage = .ok stored) (hstored : SameOrigin stored origin)
    (hjoin : hut.url.join settings.offlinePage = .ok missed) (hhut : SameOrigin hut.url origin)
    (hnavigates : RequestClass.ofRequest? settings hut = some .navigation)
    (hrequest : (Key.get stored).hash ≠ (Key.ofRequest hut).hash)
    (hmissed : (Key.get stored).hash ≠ (Key.get missed).hash) :
    Denied settings hut (packed stored) (saved stored)
      (.ofFallback (offlineResponse hut.url)) where
  listed := hlisted
  page := ⟨origin, stored, horigin, hpage, rfl, hstored, hhut⟩
  stored := hstore ▸ get_put_self intact_setOut stored
  navigates := hnavigates
  missing := matchAny_packed_of_ne hrequest
  resolved _ :=
    alone_resolve hjoin (matchAny_packed_of_ne hrequest) (matchAny_packed_of_ne hmissed)
  other := ofFallback_ne_ofCache _ _

theorem class_hut : ∀ settings ∈ [trail.settings, beside, named],
    RequestClass.ofRequest? settings hut = some .navigation := by
  decide +kernel

theorem denied_beside : Denied beside hut (packed offlineUrl) (saved offlineUrl)
    (.ofFallback (offlineResponse hut.url)) := by
  obtain ⟨hrequest, hmissed, -⟩ := digests_apart
  have hpage : trail.origin.join beside.offlinePage = .ok offlineUrl := rfl
  have hjoin : hut.url.join beside.offlinePage = .ok besideUrl := rfl
  exact denied_of_missed List.mem_cons_self rfl rfl hpage ⟨rfl, rfl, rfl⟩ hjoin ⟨rfl, rfl, rfl⟩
    (class_hut _ (by simp)) hrequest hmissed

/-- The page of an origin with a user name is looked for without it. -/
theorem denied_without_user : Denied named hut (packed namedUrl) (saved namedUrl)
    (.ofFallback (offlineResponse hut.url)) := by
  obtain ⟨-, -, hrequest, hmissed⟩ := digests_apart
  have horigin : named.originUrl = .ok { trail.origin with username := "porter" } := rfl
  have hpage : ({ trail.origin with username := "porter" } : Url).join named.offlinePage =
      .ok namedUrl := rfl
  exact denied_of_missed List.mem_cons_self rfl horigin hpage ⟨rfl, rfl, rfl⟩ join_hut
    ⟨rfl, rfl, rfl⟩ (class_hut _ (by simp)) hrequest hmissed

/-- What the static store of the version before holds. -/
def leftover : Store.Entry := ⟨.get offlineUrl, .new 203 "No network up there", noon⟩

def stale : Tables :=
  Tables.empty.put "stowaway-static-v0" (.get offlineUrl) leftover.response noon

def repacked : Tables :=
  stale.put trail.settings.staticStore (.ofRequest (.get offlineUrl)) notice noon

theorem intact_stale : stale.Intact := Store.Tables.intact_empty.put _ _ _ isClock_noon

theorem olderCopy?_stale :
    stale.olderCopy? trail.settings.staticStore (.get offlineUrl) = some leftover := by
  have hnames : stale.names = ["stowaway-static-v0"] := by
    rw [stale, Store.Tables.intact_empty.names_put, Store.Tables.names_empty,
      if_neg List.not_mem_nil, List.nil_append]
  have hother : "stowaway-static-v0" ≠ trail.settings.staticStore := by decide
  rw [Store.Tables.olderCopy?, hnames, List.takeWhile_cons_of_pos (by simpa using hother),
    List.findSome?_cons, stale, Store.Tables.held?_put_self isClock_noon]
  rfl

/-- An older store hides the page. -/
theorem denied_by_older :
    Denied trail.settings hut repacked (saved offlineUrl) (.ofCache leftover) := by
  obtain ⟨hrequest, -⟩ := digests_apart
  have hmissing : repacked.matchAny (.ofRequest hut) = .ok none := by
    rw [repacked, Key.ofRequest_get]
    refine intact_stale.matchAny_put_of_ne isClock_noon hrequest ?_
    refine Store.Tables.intact_empty.matchAny_put_of_ne isClock_noon hrequest ?_
    rw [Store.Tables.intact_empty.matchAny_eq, Store.Tables.names_empty, List.findSome?_nil]
  have hfound : repacked.matchAny (.get offlineUrl) = .ok (some leftover) := by
    rw [repacked, Key.ofRequest_get, intact_stale.matchAny_put isClock_noon, olderCopy?_stale]
    rfl
  refine ⟨List.mem_cons_self,
    ⟨_, _, origin_trail, join_trail, rfl, ⟨rfl, rfl, rfl⟩, ⟨rfl, rfl, rfl⟩⟩,
    get_put_self intact_stale _, class_hut _ List.mem_cons_self, hmissing,
    fun now => alone_resolve join_hut hmissing hfound, ?_⟩
  intro hsame
  have hstatus := congrArg (·.response.status) hsame
  revert hstatus
  decide

/-- Three ways in which a page that is stored is not the one that is served. -/
theorem stored_page_denied :
    Denied beside hut (packed offlineUrl) (saved offlineUrl)
        (.ofFallback (offlineResponse hut.url)) ∧
      Denied named hut (packed namedUrl) (saved namedUrl)
        (.ofFallback (offlineResponse hut.url)) ∧
      Denied trail.settings hut repacked (saved offlineUrl) (.ofCache leftover) :=
  ⟨denied_beside, denied_without_user, denied_by_older⟩

end Trail

end Fallback

end OfflineAgent
