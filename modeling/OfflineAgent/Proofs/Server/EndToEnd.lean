import OfflineAgent.Proofs.Http.Forwarding
import OfflineAgent.Proofs.Interleaving.Rows
import OfflineAgent.Proofs.Server.Relay
import OfflineAgent.Proofs.Strategies.Footprint

/-!
# Headers from end to end

Headers go from a client through the server to its peer, and from the peer back to the client or
into a store. On each of these ways they keep their values, by name and in order, and what belongs
to one hop is left behind. The hint that a request takes from its headers says nothing new, so it
adds nothing to them. And what is stored is what the network gave, which was rid of the headers of
its hop before.
-/

namespace OfflineAgent

open Simulation Interleaving
open Client (headersFor hinted Sent HandsOn)
open Http (EndToEnd valuesOf isText isHopByHop isHeaderName endToEnd_append)
open Lifecycle (agentOf?)

variable {agent : Agent} {request : Request} {history : List Exchange}

/-! ### What a request is sent on with -/

namespace Server

variable {incoming : Incoming} {origin : Url}

/-- The headers have names that can be written, as they have in every request that was read. -/
def Incoming.Named (incoming : Incoming) : Prop :=
  ∀ header ∈ incoming.headers, isHeaderName header.1 = true

theorem Incoming.isHeaderName_of_headerOf? {name value : List UInt8} {header : String × List UInt8}
    (hread : headerOf? name value = some header) : isHeaderName header.1 = true := by
  obtain ⟨text, -, hline⟩ := Option.bind_eq_some_iff.mp hread
  obtain ⟨hfit, hsame⟩ := Option.ite_none_right_eq_some.mp hline
  obtain rfl := Option.some.inj hsame
  exact (Http.isHeaderName_toLower text).trans (Bool.and_eq_true_iff.mp hfit).1

theorem Incoming.isHeaderName_of_mapM {lines : List (List UInt8 × List UInt8)}
    {read : Http.RawHeaders}
    (hread : lines.mapM (fun (name, value) => headerOf? name value) = some read) :
    ∀ header ∈ read, isHeaderName header.1 = true := by
  induction lines generalizing read with
  | nil =>
      obtain rfl := Option.some.inj hread
      exact List.forall_mem_nil _
  | cons line lines ih =>
      rw [List.mapM_cons] at hread
      obtain ⟨header, hheader, hmore⟩ := Option.bind_eq_some_iff.mp hread
      obtain ⟨rest, hrest, hboth⟩ := Option.bind_eq_some_iff.mp hmore
      obtain rfl := Option.some.inj hboth
      exact List.forall_mem_cons.mpr ⟨isHeaderName_of_headerOf? hheader, ih hrest⟩

theorem Incoming.named_of_parse {method target : String}
    {lines : List (List UInt8 × List UInt8)} {body : ByteArray}
    (hparse : parse? method target lines body = some incoming) : incoming.Named := by
  obtain ⟨place, -, hrest⟩ := Option.bind_eq_some_iff.mp hparse
  split at hrest
  · cases hrest
  · obtain ⟨read, hread, hall⟩ := Option.bind_eq_some_iff.mp hrest
    obtain rfl := Option.some.inj hall
    exact isHeaderName_of_mapM hread

/-- Whoever has a hint has the header that it was taken from. -/
theorem hinted_toRequest (named : incoming.Named)
    (hrequest : incoming.toRequest? origin = some request) (name : String) :
    hinted request name = [] := by
  have hheaders : request.headers = Http.received incoming.headers := by rw [of_toRequest hrequest]
  have hhint : request.accept = incoming.headerText? "accept" := by rw [of_toRequest hrequest]
  unfold hinted
  cases haccept : request.accept with
  | none => simp
  | some accept =>
      refine if_neg ?_
      rintro ⟨-, hnone⟩
      rw [hhint] at haccept
      unfold Incoming.headerText? at haccept
      split at haccept
      · rename_i found value hfound
        obtain rfl : found = "accept" := by simpa using List.find?_some hfound
        have hmem : ("accept", accept) ∈ Http.received incoming.headers := by
          have hhop : isHopByHop "accept" = false := by cbv
          refine List.mem_filterMap.mpr ⟨_, List.mem_of_find?_eq_some hfound, ?_⟩
          simp only [hhop, haccept]
          rfl
        rw [hheaders, Http.writable_received named, Http.valuesOf_eq_nil_iff] at hnone
        exact hnone _ hmem rfl
      · cases haccept

/-- What a request was given of the headers is sent on, and nothing else. -/
theorem valuesOf_headersFor (named : incoming.Named)
    (hrequest : incoming.toRequest? origin = some request) (name : String) :
    valuesOf (headersFor request) name = valuesOf request.headers name := by
  have hheaders : request.headers = Http.received incoming.headers := by rw [of_toRequest hrequest]
  rw [Client.valuesOf_headersFor, hinted_toRequest named hrequest, List.append_nil, hheaders,
    Http.writable_received named]

end Server

/-! ### Which request is sent on -/

/-- The operation puts no other request on the network, and starts no job for another one. -/
def Op.Concerns (request : Request) : Op → Prop
  | .fetch asked => asked = request
  | .start job => job.request = request
  | _ => True

theorem Job.asks_concerns (job : Job) (ticket : Ticket) :
    (job.work ticket).Asks (Op.Concerns job.request) :=
  job.asks_work rfl (fun _ _ => trivial) fun _ _ _ => trivial

theorem Strategy.asks_concerns (order : Strategy) (stores : StorePair) (request : Request) :
    (order.run stores request).Asks (Op.Concerns request) := by
  cases order with
  | networkFirst => exact asks_networkFirst rfl trivial fun _ _ _ => trivial
  | cacheFirst => exact asks_cacheFirst trivial rfl fun _ _ _ => trivial
  | staleWhileRevalidate => exact asks_staleWhileRevalidate trivial rfl fun _ => trivial

theorem Agent.asks_concerns (agent : Agent) (request : Request) :
    (agent.handle request).Asks (Op.Concerns request) :=
  asks_handle trivial (fun kind _ => kind.strategy.asks_concerns agent.stores request)
    fun _ _ => Fallback.asks_resolve trivial fun _ _ _ => trivial

namespace Server

variable {incoming : Incoming}

theorem asks_concerns (hpath : Endpoint.ofPath? incoming.target.path = none)
    (hrequest : incoming.toRequest? agent.origin = some request) :
    (answer agent incoming).Asks (Op.Concerns request) := by
  rw [answer_eq hpath hrequest]
  refine (agent.asks_concerns request).bind fun verdict => ?_
  cases verdict with
  | respond served => trivial
  | passThrough =>
      refine ⟨rfl, fun outcome => ?_⟩
      cases outcome <;> trivial

/-- A request reaches the wire as it arrived: with all values that it was given, byte for byte those
that are text and not of one hop, and without a second word on what the client takes. -/
structure Delivers (agent : Agent) (incoming : Incoming) (request : Request) : Prop where
  kept : ∀ name, valuesOf (headersFor request) name = valuesOf request.headers name
  wire : ∀ name, valuesOf request.headers name ≠ [] →
    valuesOf (Sent.ofRequest request).headers name = valuesOf request.headers name
  text : ∀ name, (valuesOf request.headers name).map (fun value => value.toUTF8.toList) =
    if isHopByHop name then [] else (valuesOf incoming.headers name).filter isText
  asked : Endpoint.ofPath? incoming.target.path = none →
    (answer agent incoming).Asks (Op.Concerns request)
  jobs : ∀ job ticket, Op.Concerns request (.start job) →
    (job.work ticket).Asks (Op.Concerns request)

theorem delivers (named : incoming.Named)
    (hrequest : incoming.toRequest? agent.origin = some request) :
    Delivers agent incoming request where
  kept := valuesOf_headersFor named hrequest
  wire name hsome := by
    have hkept := valuesOf_headersFor named hrequest name
    rw [Client.valuesOf_ofRequest, hkept, if_neg hsome]
  text := (carries_toRequest hrequest).headers
  asked hpath := asks_concerns hpath hrequest
  jobs job ticket hjob := hjob ▸ job.asks_concerns ticket

/-! ### What is answered -/

/-- Of the headers of the answer only its own length belongs to the hop. -/
def Answer.EndsHop (answer : Answer) : Prop :=
  ∃ others, EndToEnd others ∧
    answer.headers = others ++ [("content-length", toString answer.body.size)]

theorem Answer.endsHop_new {headers : Headers} (endToEnd : EndToEnd headers) (status : Nat)
    (body : ByteArray) : (Answer.new status headers body).EndsHop :=
  ⟨headers, endToEnd, rfl⟩

theorem Answer.endsHop_text (status : Nat) (body : String) : (Answer.text status body).EndsHop :=
  endsHop_new (Http.endToEnd_singleton.mpr (by cbv)) status body.toUTF8

theorem Answer.endsHop_ofResponse (response : Response) (source : Option Source) :
    (Answer.ofResponse response source).EndsHop := by
  have hforwarded := Http.endToEnd_forwarded response.headers
  have hsource : isHopByHop sourceHeader = false := by cbv
  refine endsHop_new ?_ _ _
  cases source with
  | none => exact hforwarded
  | some source =>
      exact endToEnd_append.mpr ⟨hforwarded.filter _, Http.endToEnd_singleton.mpr hsource⟩

theorem endsHop_of_answer {sent : Answer} (hpath : Endpoint.ofPath? incoming.target.path = none)
    (leads : Work.Leads (answer agent incoming) history (.done sent)) : sent.EndsHop := by
  cases hrequest : incoming.toRequest? agent.origin with
  | none =>
      rw [answer, hpath, intercept, hrequest] at leads
      obtain ⟨-, hsent⟩ := Work.leads_done_iff.mp leads
      obtain rfl := Work.done.inj hsent
      exact Answer.endsHop_text _ _
  | some request =>
      rw [answer_eq hpath hrequest] at leads
      obtain ⟨front, back, verdict, -, -, hback⟩ := Work.exists_of_leads_bind leads
      cases verdict with
      | respond served =>
          obtain ⟨-, hsent⟩ := Work.leads_done_iff.mp hback
          obtain rfl := Work.done.inj hsent
          exact Answer.endsHop_ofResponse _ _
      | passThrough =>
          obtain ⟨-, next, hleft⟩ | ⟨outcome, -, hsent⟩ := leads_relay hback
          · cases hleft
          · obtain rfl := Work.done.inj hsent
            cases outcome with
            | ok response => exact Answer.endsHop_ofResponse response none
            | error failure => exact Answer.endsHop_text _ _

end Server

/-! ### What is stored -/

/-- The call brings no response of its own to be stored. -/
def Simulation.Activity.BringsNone : Activity → Prop
  | .put _ _ _ | .keep _ _ _ => False
  | _ => True

def Op.IsPut : Op → Prop
  | .storage (.put _ _ _) => True
  | _ => False

section

variable {activity : Activity} {store kept : String} {key : Store.Key} {ticket : Ticket}
  {response : Response} {answer : Except Store.Failure Unit} {left : Work Reply}

theorem Op.IsQuiet.not_isPut {op : Op} (quiet : op.IsQuiet) : ¬op.IsPut := by
  rintro hput
  unfold IsPut at hput
  split at hput
  · exact quiet
  · exact hput

/-- A call without a request writes nothing, unless it follows a strategy. -/
theorem asks_not_isPut (brings : activity.BringsNone) (hrequest : activity.request? = none)
    (hstrategy : ∀ order stores request, activity ≠ .strategy order stores request) :
    activity.work.Asks fun op => ¬op.IsPut := by
  cases hagent : agentOf? activity with
  | some agent =>
      have admits : agent.Admits True (fun _ => False) fun op => ¬op.IsPut :=
        ⟨fun _ quiet => quiet.not_isPut, fun _ => not_false, fun _ _ _ _ => not_false,
          fun _ _ _ hnone => hnone.elim, fun _ hnone => hnone.elim⟩
      exact admits.activity hagent (fun _ => trivial) (by simp [hrequest])
  | none =>
      cases activity <;> simp only [agentOf?, reduceCtorEq] at hagent
      case openStore | get | matchAny | names | delete => exact ⟨not_false, fun _ => trivial⟩
      case put | keep => exact brings.elim
      case reconcile whitelist =>
        have hreconcile : (Stores.reconcile whitelist).Asks fun op => ¬op.IsPut :=
          Stores.asks_reconcile not_false fun _ => not_false
        exact hreconcile.bind fun _ => trivial
      case strategy order stores request => exact absurd rfl (hstrategy order stores request)
      case fallback page request kind =>
        have hresolve : (Fallback.resolve page request kind).Asks fun op => ¬op.IsPut :=
          Fallback.asks_resolve not_false fun _ _ _ => not_false
        exact hresolve.bind fun _ => trivial

theorem WritesOnce.fetched (once : WritesOnce store request history)
    (hmem : ⟨.storage (.put kept key response), answer⟩ ∈ history) :
    ⟨.fetch request, .ok response⟩ ∈ history := by
  obtain hquiet | ⟨given, told, before, after, -, rfl, hfetch, hbefore, hafter⟩ := once
  · exact absurd (hquiet _ hmem) (by simp [Exchange.isWrite])
  · obtain hearly | hlate := List.mem_append.mp hmem
    · exact absurd (hbefore _ hearly) (by simp [Exchange.isWrite])
    obtain hput | hlate := List.mem_cons.mp hlate
    · cases hput
      exact List.mem_append_left _ hfetch
    · exact absurd (hafter _ hlate) (by simp [Exchange.isWrite])

theorem writesOnce_of_strategy {order : Strategy} {stores : StorePair}
    (leads : Work.Leads (Activity.strategy order stores request).work history left) :
    ∃ store, WritesOnce store request history := by
  obtain ⟨store, first, hfirst, hserves⟩ : ∃ store first, Stage.IsFirst first ∧
      (order.run stores request).Follows (serving store request) Stage.Leaves first := by
    cases order with
    | networkFirst => exact ⟨stores.dynamic, .asking, trivial, serves_networkFirst⟩
    | cacheFirst => exact ⟨stores.static, .probing, trivial, serves_cacheFirst⟩
    | staleWhileRevalidate =>
        exact ⟨stores.dynamic, .looking, trivial, serves_staleWhileRevalidate⟩
  have hwork : (Activity.strategy order stores request).work.Follows (serving store request)
      (fun _ _ => True) first :=
    hserves.bind fun after outcome _ => by cases outcome <;> trivial
  obtain ⟨stage, hafter, -⟩ := leads.follows hwork
  exact ⟨store, (Stage.notes_of_after hfirst hafter).writesOnce.of_filter⟩

theorem serves_precache (store : String) (request : Request) (ticket : Ticket) :
    (Purpose.background (.precache store request) ticket).work.Follows (serving store request)
      (fun _ _ => True) .asking := by
  have hentry : (Precache.entry store request).Follows (serving store request)
      (fun _ _ => True) .asking := by
    intro answer
    cases answer with
    | error failure => exact ⟨.failed, if_pos rfl, trivial⟩
    | ok response =>
        refine ⟨_, if_pos rfl, ?_⟩
        change Work.Follows _ _ (if response.isComplete then _ else _) _
        split
        · refine (serves_keep store request response).of_bind.bind fun after stored _ => ?_
          cases stored <;> trivial
        · trivial
  have hjob : ((Job.precache store request).work ticket).Follows (serving store request)
      (fun _ _ => True) .asking :=
    hentry.bind fun stage outcome _ _ => ⟨stage, by cases stage <;> rfl, trivial⟩
  exact hjob.bind fun _ _ _ => trivial

theorem writesOnce_of_job {job : Job}
    (leads : Work.Leads (Purpose.background job ticket).work history left) :
    WritesOnce job.store job.request history := by
  cases job with
  | revalidate store request => exact writesOnce_of_revalidation leads
  | precache store request =>
      obtain ⟨stage, hafter, -⟩ := leads.follows (serves_precache store request ticket)
      have hfirst : Stage.asking.IsFirst := trivial
      exact (Stage.notes_of_after hfirst hafter).writesOnce.of_filter

end

/-- The row was made from a response without headers of one hop. -/
def Store.Row.EndsHop (row : Store.Row) : Prop :=
  ∃ key response now, row = .encode row.store key response now ∧ EndToEnd response.headers

namespace Interleaving

variable {s t : System} {events : List Event} {number : Nat} {store : String}
  {key : Store.Key} {response : Response} {answer : Except Store.Failure Unit}

/-- Nothing is put in a run but what was fetched in it. -/
theorem Run.fetched_of_put (run : Run Activity.BringsNone s events t) (fresh : s.tasks = [])
    (hput : .act number ⟨.storage (.put store key response), answer⟩ ∈ events) :
    ∃ request, .act number ⟨.fetch request, .ok response⟩ ∈ events := by
  obtain ⟨⟨purpose, left⟩, here⟩ := run.exists_task hput
  obtain ⟨leads, brings⟩ := run.leads fresh number _ here
  have hmem := mem_history.mpr hput
  have hfetched {home : String} {request : Request}
      (once : WritesOnce home request (history number events)) :
      ∃ request, .act number ⟨.fetch request, .ok response⟩ ∈ events :=
    ⟨request, mem_history.mp (once.fetched hmem)⟩
  -- Who puts is a job, a call with a request, or a strategy on its own; no other call puts.
  cases purpose with
  | background job ticket => exact hfetched (writesOnce_of_job leads)
  | call activity =>
      cases hrequest : activity.request? with
      | some request =>
          obtain ⟨agent, hagent⟩ : ∃ agent, agentOf? activity = some agent := by
            cases activity <;> simp only [Activity.request?, reduceCtorEq] at hrequest
            case fetch agent handled => exact ⟨agent, rfl⟩
            case serve agent incoming => exact ⟨agent, rfl⟩
          obtain ⟨hquiet, -⟩ | ⟨kind, -, footprint⟩ := footprint_of_call hagent hrequest leads
          · have hnone : WritesOnce store request (history number events) := .inl hquiet
            exact hfetched hnone
          · exact hfetched footprint.once
      | none =>
          by_cases hstrategy : ∃ order stores request, activity = .strategy order stores request
          · obtain ⟨order, stores, request, rfl⟩ := hstrategy
            obtain ⟨home, once⟩ := writesOnce_of_strategy leads
            exact hfetched once
          · have hquiet := asks_not_isPut brings hrequest fun order stores request hsame =>
              hstrategy ⟨order, stores, request, hsame⟩
            exact absurd trivial (leads.asks hquiet _ hmem)

/-- What is fetched is what a client gets from some peer. -/
def Event.ByClient : Event → Prop
  | .act _ ⟨.fetch request, outcome⟩ => ∃ peer, outcome = (Client.fetch peer request).outcome
  | _ => True

theorem Run.endToEnd_of_put (run : Run Activity.BringsNone s events t) (fresh : s.tasks = [])
    (byClient : ∀ event ∈ events, event.ByClient)
    (hput : .act number ⟨.storage (.put store key response), answer⟩ ∈ events) :
    EndToEnd response.headers := by
  obtain ⟨request, hfetch⟩ := run.fetched_of_put fresh hput
  obtain ⟨peer, houtcome⟩ := byClient _ hfetch
  exact Client.endToEnd_of_fetched houtcome.symm

theorem Run.endsHop_of_stored (run : Run Activity.BringsNone s events t) (fresh : s.tasks = [])
    (byClient : ∀ event ∈ events, event.ByClient) {row : Store.Row}
    (hmem : row ∈ t.tables.entries) : row ∈ s.tables.entries ∨ row.EndsHop := by
  refine (run.written hmem).imp_right ?_
  rintro ⟨number, key, response, answer, now, hput, hrow⟩
  exact ⟨key, response, now, hrow, run.endToEnd_of_put fresh byClient hput⟩

/-- **Headers go from end to end.** Whatever headers and whatever hint a request has, all values of
a name that can be written are handed on in their order, whatever letter case the name is in; the
hint is handed on where the headers do not say what the client takes; and nothing of one hop goes
on the wire or comes back from it. So a request that the server read goes on the wire with just the
values that it was given, and nothing but this request does. No answer passes on a header of the
hop behind it, and no such header is ever put in a store. -/
theorem headers_end_to_end :
    (∀ request, HandsOn request) ∧
    (∀ agent incoming request, incoming.Named →
      incoming.toRequest? agent.origin = some request → Server.Delivers agent incoming request) ∧
    (∀ (agent : Agent) (incoming : Server.Incoming) (history : List Exchange)
        (sent : Server.Answer), Server.Endpoint.ofPath? incoming.target.path = none →
      Work.Leads (Server.answer agent incoming) history (.done sent) → sent.EndsHop) ∧
    ∀ s events t, Run Activity.BringsNone s events t → s.tasks = [] →
      (∀ event ∈ events, event.ByClient) →
      (∀ number store key response answer,
        .act number ⟨.storage (.put store key response), answer⟩ ∈ events →
          EndToEnd response.headers) ∧
      ∀ row ∈ t.tables.entries, row ∈ s.tables.entries ∨ row.EndsHop := by
  refine ⟨Client.handsOn, fun agent incoming request named hrequest => ?_,
    fun agent incoming history sent hpath leads => ?_,
    fun s events t run fresh byClient => ⟨?_, ?_⟩⟩
  · exact Server.delivers named hrequest
  · exact Server.endsHop_of_answer hpath leads
  · intro number store key response answer hput
    exact run.endToEnd_of_put fresh byClient hput
  · intro row hmem
    exact run.endsHop_of_stored fresh byClient hmem

namespace Courier

open Kiosk (kiosk figures active)
open Moment (isClock_noon)

/-- What arrives, line by line: two values of a header in two spellings, two of another one of
which one is no text, and two that stay on their hop. -/
def lines : List (List UInt8 × List UInt8) :=
  [("Host".toUTF8.toList, "localhost".toUTF8.toList),
    ("Accept".toUTF8.toList, "text/html".toUTF8.toList),
    ("X-Name".toUTF8.toList, [0x6A, 0x6F, 0x73, 0xE9]),
    ("ACCEPT".toUTF8.toList, "*/*".toUTF8.toList),
    ("Connection".toUTF8.toList, "close".toUTF8.toList),
    ("x-name".toUTF8.toList, "jose".toUTF8.toList)]

def incoming : Server.Incoming where
  method := "GET"
  target := ⟨"/api/figures", none⟩
  headers := [("host", "localhost".toUTF8.toList), ("accept", "text/html".toUTF8.toList),
    ("x-name", [0x6A, 0x6F, 0x73, 0xE9]), ("accept", "*/*".toUTF8.toList),
    ("connection", "close".toUTF8.toList), ("x-name", "jose".toUTF8.toList)]
  body := .empty

def asked : Request :=
  { figures with
    accept := some "text/html"
    headers := [("accept", "text/html"), ("accept", "*/*"), ("x-name", "jose")] }

def rates : Response := ⟨200, [("x-unit", "EUR")], "17".toUTF8⟩

/-- The peer keeps its connection open, whatever it is asked. -/
def peer : Client.Peer := fun _ =>
  .whole 200 [("connection", "keep-alive".toUTF8.toList), ("x-unit", "EUR".toUTF8.toList),
    ("transfer-encoding", "chunked".toUTF8.toList)] "17".toUTF8

def serving : List Exchange :=
  [⟨.lifecycle 0 .read, .active⟩, ⟨.fetch asked, .ok rates⟩,
    ⟨.storage (.put kiosk.stores.dynamic (.ofRequest asked) rates), .ok ()⟩]

def delivery : List Event := [.call (.serve kiosk incoming)] ++ serving.map (.act 0)

theorem path_incoming : Server.Endpoint.ofPath? incoming.target.path = none := by decide

theorem parse_incoming :
    Server.Incoming.parse? "GET" "/api/figures" lines .empty = some incoming := by cbv

theorem toRequest_incoming : incoming.toRequest? kiosk.origin = some asked := by cbv

theorem valuesOf_asked : valuesOf asked.headers "ACCEPT" = ["text/html", "*/*"] := by
  have hname : "ACCEPT".toLower = "accept" := by cbv
  have hother : "x-name".toLower = "x-name" := by cbv
  simp [valuesOf, asked, hname, hother, Client.toLower_accept]

theorem fetch_asked : (Client.fetch peer asked).outcome = .ok rates := by decide +kernel

theorem class_asked : RequestClass.ofRequest? kiosk.settings asked = some .api := by
  decide +kernel

theorem isStorable_asked : (Store.Key.ofRequest asked).isStorable = true :=
  Store.Key.isStorable_ofRequest rfl

theorem responds_asked :
    Work.Leads (kiosk.handle asked) serving (.done (.respond (.ofNetwork rates))) :=
  responds_of_run class_asked (Strategy.leads_networkFirst isStorable_asked rfl (.ok ()))

theorem leads_answer : Work.Leads (Server.answer kiosk incoming) serving
    (.done (.ofResponse rates (some .network))) := by
  rw [Server.answer_eq path_incoming toRequest_incoming]
  exact responds_asked.bind_of_done _

theorem leads_delivery : Work.Leads (Activity.serve kiosk incoming).work serving
    (.done (.answer (.ofResponse rates (some .network)))) :=
  leads_answer.bind_of_done _

theorem run_delivery :
    ∃ t, Run Activity.BringsNone (active .empty) delivery t ∧ t.tables.entries ≠ [] := by
  refine ⟨_, .append (.call trivial) (.of_leads leads_delivery rfl
    ⟨_, .moved rfl, _, .fetched _, _, .performed isClock_noon rfl, rfl⟩), ?_⟩
  exact List.cons_ne_nil _ _

theorem byClient_delivery : ∀ event ∈ delivery, event.ByClient := by
  simp only [delivery, serving, List.map_cons, List.map_nil, List.singleton_append,
    List.forall_mem_cons]
  exact ⟨trivial, trivial, ⟨peer, fetch_asked.symm⟩, trivial, List.forall_mem_nil _⟩

/-- Both values of what the client takes arrive, once each, and nothing of the two hops is passed on
or stored. -/
theorem headers_end_to_end_figures : ∃ t, Run Activity.BringsNone (active .empty) delivery t ∧
    Server.Incoming.parse? "GET" "/api/figures" lines .empty = some incoming ∧
    HandsOn asked ∧ Server.Delivers kiosk incoming asked ∧
    valuesOf (headersFor asked) "ACCEPT" = ["text/html", "*/*"] ∧
    (Server.Answer.ofResponse rates (some .network)).EndsHop ∧
    t.tables.entries ≠ [] ∧ ∀ row ∈ t.tables.entries, row.EndsHop := by
  obtain ⟨t, run, hstored⟩ := run_delivery
  obtain ⟨handsOn, delivers, answers, stores⟩ := headers_end_to_end
  have hdelivers : Server.Delivers kiosk incoming asked :=
    delivers _ _ _ (Server.Incoming.named_of_parse parse_incoming) toRequest_incoming
  obtain ⟨-, hrows⟩ := stores _ _ _ run rfl byClient_delivery
  refine ⟨t, run, parse_incoming, handsOn asked, hdelivers,
    (hdelivers.kept "ACCEPT").trans valuesOf_asked, answers _ _ _ _ path_incoming leads_answer,
    hstored, fun row hmem => ?_⟩
  obtain hold | hends := hrows row hmem
  · exact absurd hold List.not_mem_nil
  · exact hends

end Courier

end Interleaving

end OfflineAgent
