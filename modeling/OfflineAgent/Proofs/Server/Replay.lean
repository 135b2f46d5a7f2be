import OfflineAgent.Proofs.Agent.Operations
import OfflineAgent.Proofs.Server.Relay

/-!
# The answer from the stores is the answer from the network

A response that is answered with is rendered: its status and body as they are, and of its headers
all that may be sent. A response that is stored goes through text in a row of a table and comes back
as it was, so the answer that is given later from the store renders the same.
-/

namespace OfflineAgent

open Http (valuesOf isHopByHop isHeaderName isHeaderValue)
open Interleaving

theorem Http.valuesOf_filter_of_imp {α : Type} {headers : List (String × α)} {name : String}
    {keep : String × α → Bool}
    (hkeep : ∀ header ∈ headers, header.1.toLower = name.toLower → keep header = true) :
    valuesOf (headers.filter keep) name = valuesOf headers name := by
  rw [valuesOf, List.filterMap_filter, valuesOf]
  apply List.filterMap_congr
  intro header hmem
  by_cases hsame : header.1.toLower = name.toLower
  · rw [if_pos (hkeep header hmem hsame)]
  · rw [if_neg hsame, ite_self]

theorem Response.status_of_isComplete {response : Response} (hwhole : response.isComplete = true) :
    200 ≤ response.status.toNat ∧ response.status.toNat < 300 := by
  have hsuccess := (Bool.and_eq_true_iff.mp hwhole).1
  rw [isSuccess, Bool.and_eq_true, decide_eq_true_iff, decide_eq_true_iff,
    UInt16.le_iff_toNat_le, UInt16.lt_iff_toNat_lt] at hsuccess
  exact hsuccess

namespace Server

variable {response : Response} {source : Source} {name : String}

/-- The answer is the response as far as it can be sent: without the headers of one hop, the names
and values that cannot be written, and the headers of the server itself. -/
structure Answer.Renders (answer : Answer) (response : Response) : Prop where
  status : answer.status = response.status.toNat
  body : answer.body = response.body
  headers : ∀ name, name.toLower ≠ sourceHeader → name.toLower ≠ "content-length" →
    valuesOf answer.headers name =
      if !isHopByHop name && isHeaderName name then
        (valuesOf response.headers name).filter isHeaderValue
      else []
  length : valuesOf answer.headers "content-length" = [toString response.body.size]

/-- The answers differ at most in where they say they came from. -/
structure Answer.Matches (first second : Answer) : Prop where
  status : first.status = second.status
  body : first.body = second.body
  headers : first.headers.filter (·.1.toLower ≠ sourceHeader) =
    second.headers.filter (·.1.toLower ≠ sourceHeader)

/-- Headers of the response itself are those that are passed on. -/
theorem valuesOf_ofResponse (hname : name.toLower ≠ sourceHeader) :
    valuesOf (Answer.ofResponse response (some source)).headers name =
      valuesOf (Http.forwarded response.headers) name ++
        valuesOf [("content-length", toString response.body.size)] name := by
  have hothers : valuesOf ((Http.forwarded response.headers).filter (·.1 ≠ sourceHeader)) name =
      valuesOf (Http.forwarded response.headers) name := by
    refine Http.valuesOf_filter_of_imp fun header hmem hsame => ?_
    rw [Http.toLower_of_mem_forwarded hmem] at hsame
    simpa [hsame] using hname
  have hsource : valuesOf [(sourceHeader, source.name)] name = [] := by
    refine Http.valuesOf_eq_nil (List.forall_mem_singleton.mpr fun hsame => hname ?_)
    rw [← hsame, toLower_sourceHeader]
  rw [Answer.ofResponse, Answer.new]
  simp only [Http.valuesOf_append, hothers, hsource, List.append_nil]

theorem renders_ofResponse (hwhole : response.isComplete = true) (source : Source) :
    (Answer.ofResponse response (some source)).Renders response := by
  have hlength : "content-length".toLower = "content-length" := by cbv
  refine ⟨?_, rfl, fun name hsource hname => ?_, ?_⟩
  · obtain ⟨hfrom, hto⟩ := Response.status_of_isComplete hwhole
    exact if_pos ⟨by omega, by omega⟩
  · have hnone : valuesOf [("content-length", toString response.body.size)] name = [] := by
      refine Http.valuesOf_eq_nil (List.forall_mem_singleton.mpr fun hsame => hname ?_)
      rw [← hsame, hlength]
    rw [valuesOf_ofResponse hsource, hnone, List.append_nil, Http.valuesOf_forwarded]
  · have hhop : (!isHopByHop "content-length" && isHeaderName "content-length") = false := by cbv
    have hother : "content-length".toLower ≠ sourceHeader := by cbv
    rw [valuesOf_ofResponse hother, Http.valuesOf_forwarded, hhop,
      Http.valuesOf_singleton]
    rfl

theorem matches_ofResponse (response : Response) (first second : Source) :
    (Answer.ofResponse response (some first)).Matches
      (Answer.ofResponse response (some second)) := by
  refine ⟨rfl, rfl, ?_⟩
  have hsource (source : Source) :
      [(sourceHeader, source.name)].filter (·.1.toLower ≠ sourceHeader) = [] := by
    simp [toLower_sourceHeader]
  simp only [Answer.ofResponse, Answer.new, List.filter_append, hsource, List.append_nil]

/-- The agent may be asked so, respond with what was served, and have this answer sent. -/
def Sends (agent : Agent) (incoming : Incoming) (served : Served) (sent : Answer) : Prop :=
  ∃ request history, Endpoint.ofPath? incoming.target.path = none ∧
    incoming.toRequest? agent.origin = some request ∧
    Work.Leads (agent.handle request) history (.done (.respond served)) ∧
    Work.Leads (answer agent incoming) history (.done sent)

theorem eq_of_sends {agent : Agent} {incoming : Incoming} {served : Served} {sent : Answer}
    (sends : Sends agent incoming served sent) :
    sent = .ofResponse served.response (some served.source) := by
  obtain ⟨request, history, hpath, hrequest, responds, leads⟩ := sends
  rw [answer_eq hpath hrequest, ← List.append_nil history] at leads
  have hrelay : Work.Leads (relay request (.respond served)) [] (.done sent) := responds.past leads
  exact Work.done.inj (Work.leads_done_iff.mp hrelay).2

/-- **What is replayed is what was sent.** A whole response that was written to a store is read from
it unchanged for as long as nobody writes there under the same hash or deletes the store. An answer
from the network renders the response, an answer from the store renders it too, and the two differ
only in where they say they came from. -/
theorem replayed_as_sent {calls : Simulation.Activity → Prop} {s t : System} {after : List Event}
    {writer : Nat} {store : String} {key : Store.Key} (intact : s.tables.Intact)
    (hwhole : response.isComplete = true)
    (run : Run calls s (.act writer ⟨.storage (.put store key response), .ok ()⟩ :: after) t)
    (hquiet : ∀ event ∈ after, ¬event.Rewrites store key.hash) :
    ∃ entry : Store.Entry, entry.key = key ∧ entry.response = response ∧
      t.tables.get store key = .ok (some entry) ∧
      (t.tables.olderCopy? store key = none → t.tables.matchAny key = .ok (some entry)) ∧
      (∀ agent incoming sent, Sends agent incoming (.ofNetwork response) sent →
        sent.Renders response) ∧
      ∀ agent incoming replay, Sends agent incoming (.ofCache entry) replay →
        replay.Renders response ∧
          ∀ other earlier sent, Sends other earlier (.ofNetwork response) sent →
            sent.Matches replay := by
  have hintact := run.intact intact
  -- What the put left under the key is still there, as no event since then rewrites it.
  obtain ⟨mid, write, rest⟩ := run
  obtain ⟨now, -, hwritten⟩ := write.held?_put
  have hheld := (rest.held? hquiet).trans hwritten
  refine ⟨⟨key, response, now⟩, rfl, rfl, ?_, fun holder => ?_, ?_, ?_⟩
  · rw [hintact.get_eq, hheld]
  · rw [hintact.matchAny_of_held? hheld, holder]
    rfl
  · intro agent incoming sent sends
    rw [eq_of_sends sends]
    exact renders_ofResponse hwhole .network
  · intro agent incoming replay replays
    rw [eq_of_sends replays]
    refine ⟨renders_ofResponse hwhole .cache, fun other earlier sent sends => ?_⟩
    rw [eq_of_sends sends]
    exact matches_ofResponse response .network .cache

namespace Ledger

open Kiosk (kiosk figures class_figures isStorable_figures installing installed installed_runs
  refused)
open Moment (noon isClock_noon)

def order : Incoming where
  method := "GET"
  target := ⟨"/api/figures", none⟩
  headers := []
  body := .empty

/-- A header with two values in two spellings, one that stays on its hop and one that is the
server's own. -/
def rates : Response where
  status := 203
  headers := [("X-Unit", "EUR"), ("Connection", "close"), ("x-unit", "USD"),
    (sourceHeader, "elsewhere")]
  body := "17".toUTF8

def recorded : Store.Entry := ⟨.ofRequest figures, rates, noon⟩

theorem toLower_unit : "X-UNIT".toLower = "x-unit" := by cbv

/-- The names are brought to small letters first, one by one. -/
theorem valuesOf_rates : valuesOf rates.headers "X-UNIT" = ["EUR", "USD"] := by
  have hfirst : "X-Unit".toLower = "x-unit" := by cbv
  have hsecond : "x-unit".toLower = "x-unit" := by cbv
  have hhop : "Connection".toLower = "connection" := by cbv
  have hsource : sourceHeader ≠ "x-unit" := by decide
  simp [valuesOf, rates, toLower_unit, hfirst, hsecond, hhop, toLower_sourceHeader, hsource]

theorem path_order : Endpoint.ofPath? order.target.path = none := rfl

theorem toRequest_order : order.toRequest? kiosk.origin = some figures := by cbv

def asking : List Exchange :=
  [⟨.lifecycle 0 .read, .active⟩, ⟨.fetch figures, .ok rates⟩]

def recording : Exchange :=
  ⟨.storage (.put kiosk.stores.dynamic (.ofRequest figures) rates), .ok ()⟩

def askingAgain (entry : Store.Entry) : List Exchange :=
  [⟨.lifecycle 0 .read, .active⟩, ⟨.fetch figures, .error refused⟩,
    ⟨.storage (.matchAny (.ofRequest figures)), .ok (some entry)⟩]

theorem responds_online : Work.Leads (kiosk.handle figures) (asking ++ [recording])
    (.done (.respond (.ofNetwork rates))) :=
  responds_of_run class_figures (Strategy.leads_networkFirst isStorable_figures rfl (.ok ()))

theorem responds_offline (entry : Store.Entry) :
    Work.Leads (kiosk.handle figures) (askingAgain entry) (.done (.respond (.ofCache entry))) :=
  responds_of_run class_figures (.step (.step (.refl _)))

theorem leads_of_responds {history : List Exchange} {served : Served}
    (responds : Work.Leads (kiosk.handle figures) history (.done (.respond served))) :
    Work.Leads (answer kiosk order) history
      (.done (.ofResponse served.response (some served.source))) := by
  rw [answer_eq path_order toRequest_order]
  exact responds.bind_of_done _

theorem sends_of_responds {history : List Exchange} {served : Served}
    (responds : Work.Leads (kiosk.handle figures) history (.done (.respond served))) :
    Sends kiosk order served (.ofResponse served.response (some served.source)) :=
  ⟨figures, history, path_order, toRequest_order, responds, leads_of_responds responds⟩

theorem leads_serving {history : List Exchange} {served : Served}
    (responds : Work.Leads (kiosk.handle figures) history (.done (.respond served))) :
    Work.Leads (Simulation.Activity.serve kiosk order).work history
      (.done (.answer (.ofResponse served.response (some served.source)))) :=
  (leads_of_responds responds).bind_of_done _

def after : List Event :=
  [.call (.serve kiosk order)] ++ (askingAgain recorded).map (.act 2)

/-- The network answers once, and is out of reach the next time. -/
theorem order_runs : ∃ s t, s.tables = .empty ∧
    Run (fun _ => True) (.new [kiosk] .empty)
      ([.call (.install kiosk)] ++ (installing (.error .unavailable)).map (.act 0) ++
        [.call (.serve kiosk order)] ++ asking.map (.act 1)) s ∧
    Run (fun _ => True) s (.act 1 recording :: after) t ∧
    t.tasks[1]? = some ⟨.call (.serve kiosk order),
      .done (.answer (.ofResponse rates (some .network)))⟩ ∧
    t.tasks[2]? = some ⟨.call (.serve kiosk order),
      .done (.answer (.ofResponse rates (some .cache)))⟩ := by
  obtain ⟨left, hasking, hrecording⟩ := Work.leads_append_iff.mp (leads_serving responds_online)
  have hfound : (Store.Tables.empty.put kiosk.stores.dynamic (.ofRequest figures) rates
      noon).matchAny (.ofRequest figures) = .ok (some recorded) := by
    rw [Store.Tables.intact_empty.matchAny_put isClock_noon, Store.Tables.olderCopy?,
      Store.Tables.names_empty]
    rfl
  exact ⟨_, _, rfl, .append (.append installed_runs (.call trivial))
      (.of_leads hasking rfl ⟨_, .moved rfl, _, .fetched _, rfl⟩),
    .append (.of_leads hrecording rfl ⟨_, .performed isClock_noon rfl, rfl⟩)
      (.append (.call trivial) (.of_leads (leads_serving (responds_offline recorded)) rfl
        ⟨_, .moved rfl, _, .fetched _, _, .matched hfound, rfl⟩)),
    rfl, rfl⟩

/-- The two answers in the run: the same figures with both of their units. -/
theorem replayed_figures : ∃ s t, Run (fun _ => True) s (.act 1 recording :: after) t ∧
    t.tasks[1]? = some ⟨.call (.serve kiosk order),
      .done (.answer (.ofResponse rates (some .network)))⟩ ∧
    t.tasks[2]? = some ⟨.call (.serve kiosk order),
      .done (.answer (.ofResponse rates (some .cache)))⟩ ∧
    (Answer.ofResponse rates (some .network)).Matches (.ofResponse rates (some .cache)) ∧
    valuesOf (Answer.ofResponse rates (some .cache)).headers "X-UNIT" = ["EUR", "USD"] := by
  obtain ⟨s, t, htables, -, run, hfirst, hsecond⟩ := order_runs
  have hquiet : ∀ event ∈ after,
      ¬event.Rewrites kiosk.stores.dynamic (Store.Key.ofRequest figures).hash := by
    simp [after, askingAgain, Event.Rewrites, Store.Call.Rewrites]
  obtain ⟨entry, -, hresponse, -, -, -, hreplay⟩ :=
    replayed_as_sent (htables ▸ Store.Tables.intact_empty) rfl run hquiet
  have hserved : Served.ofCache entry = ⟨rates, .cache, some entry.cachedAt⟩ := by
    rw [← hresponse]
    rfl
  have responds := responds_offline entry
  rw [hserved] at responds hreplay
  obtain ⟨renders, hmatches⟩ := hreplay _ _ _ (sends_of_responds responds)
  refine ⟨s, t, run, hfirst, hsecond, hmatches _ _ _ (sends_of_responds responds_online), ?_⟩
  have hsource : "X-UNIT".toLower ≠ sourceHeader := by
    rw [toLower_unit]
    decide
  have hlength : "X-UNIT".toLower ≠ "content-length" := by
    rw [toLower_unit]
    decide
  rw [renders.headers "X-UNIT" hsource hlength, valuesOf_rates]
  decide +kernel

end Ledger

end Server

end OfflineAgent
