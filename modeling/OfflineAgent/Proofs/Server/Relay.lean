import OfflineAgent.Proofs.Http.Headers
import OfflineAgent.Proofs.Lifecycle.OwnStores
import OfflineAgent.Proofs.Server.Origin

/-!
# What the server relays

A request that the agent leaves to the network is fetched once, as it came: with its method in upper
case, its body, and of its headers the values that are text and not of one hop. An answer that the
agent gave says where it came from, and nothing in the response can say otherwise; the answer to a
request that was passed through says what the network said.
-/

namespace OfflineAgent

open Http (valuesOf isText isHopByHop isHeaderValue)

variable {agent : Agent} {incoming : Server.Incoming} {request : Request}
  {history front back : List Exchange}

/-! ### Leaving a request to the network -/

/-- An agent that passes a request through has looked at its state, and done nothing else. -/
theorem Agent.of_passThrough
    (passes : Work.Leads (agent.handle request) history (.done .passThrough)) :
    ∃ state, history = [⟨.lifecycle agent.number .read, state⟩] := by
  obtain ⟨-, hleft⟩ | ⟨state, rest, rfl, ⟨rfl, -, -⟩ | ⟨kind, -, -, leads⟩⟩ := leads_handle passes
  · rw [handle_eq] at hleft
    cases hleft
  · exact ⟨state, rfl⟩
  · obtain ⟨course, -, served, hverdict, -⟩ := leads.follows (follows_settle kind)
    cases hverdict

namespace Server

/-- The request says what the incoming one says, in a method in upper case and in headers that are
text and not of one hop. -/
structure Carries (request : Request) (incoming : Incoming) : Prop where
  method : request.method = incoming.method.toUpper
  body : request.body = incoming.body
  headers : ∀ name, (valuesOf request.headers name).map (fun value => value.toUTF8.toList) =
    if isHopByHop name then [] else (valuesOf incoming.headers name).filter isText

theorem carries_toRequest {origin : Url} (hrequest : incoming.toRequest? origin = some request) :
    Carries request incoming := by
  rw [of_toRequest hrequest]
  exact ⟨rfl, rfl, fun name => Http.valuesOf_received incoming.headers⟩

/-- What is sent back when the network was asked. -/
def relayed : Except FetchFailure Response → Answer
  | .ok response => .ofResponse response none
  | .error failure => .text 502 failure.message

theorem leads_relay {left : Work Answer}
    (leads : Work.Leads (relay request .passThrough) history left) :
    (history = [] ∧ ∃ next, left = .ask (.fetch request) next) ∨
      ∃ outcome, history = [⟨.fetch request, outcome⟩] ∧ left = .done (relayed outcome) := by
  obtain ⟨rfl, rfl⟩ | ⟨outcome, rest, rfl, hrest⟩ := Work.leads_ask_iff.mp leads
  · exact .inl ⟨rfl, _, rfl⟩
  · refine .inr ⟨outcome, ?_⟩
    cases outcome with
    | ok response =>
        obtain ⟨rfl, hleft⟩ := Work.leads_done_iff.mp hrest
        exact ⟨rfl, hleft⟩
    | error failure =>
        obtain ⟨rfl, hleft⟩ := Work.leads_done_iff.mp hrest
        exact ⟨rfl, hleft⟩

/-- **A request that is passed through is fetched once, as it came.** After its look at the state
the agent asks for nothing but this request, and whatever it is answered is sent back. -/
theorem fetched_as_it_came {left : Work Answer}
    (hpath : Endpoint.ofPath? incoming.target.path = none)
    (hrequest : incoming.toRequest? agent.origin = some request)
    (passes : Work.Leads (agent.handle request) front (.done .passThrough))
    (leads : Work.Leads (answer agent incoming) (front ++ back) left) :
    Carries request incoming ∧ (∃ state, front = [⟨.lifecycle agent.number .read, state⟩]) ∧
      ((back = [] ∧ ∃ next, left = .ask (.fetch request) next) ∨
        ∃ outcome, back = [⟨.fetch request, outcome⟩] ∧ left = .done (relayed outcome)) := by
  rw [answer_eq hpath hrequest] at leads
  exact ⟨carries_toRequest hrequest, Agent.of_passThrough passes, leads_relay (passes.past leads)⟩

namespace Letterbox

open Kiosk (kiosk)

/-- The method is not in upper case, and one of two values of a header is no text. -/
def letter : Incoming where
  method := "patch"
  target := ⟨"/form", none⟩
  headers := [("host", "localhost".toUTF8.toList), ("x-name", [0x6A, 0x6F, 0x73, 0xE9]),
    ("x-name", "jose".toUTF8.toList)]
  body := "hello".toUTF8

def outgoing : Request where
  method := "PATCH"
  url := { kiosk.origin with path := .segments ["form"] }
  accept := none
  headers := [("x-name", "jose")]
  body := "hello".toUTF8

def looking : List Exchange := [⟨.lifecycle kiosk.number .read, .active⟩]

/-- The response to the letter says itself that it was stored. -/
def created : Response :=
  (Response.new 201 "created").withHeader sourceHeader "cache"

def answering : List Exchange := [⟨.fetch outgoing, .ok created⟩]

theorem toRequest_letter : letter.toRequest? kiosk.origin = some outgoing := by cbv

theorem class_outgoing : RequestClass.ofRequest? kiosk.settings outgoing = none := by
  decide

theorem path_letter : Endpoint.ofPath? letter.target.path = none := by decide

theorem passes_letter : Work.Leads (kiosk.handle outgoing) looking (.done .passThrough) := by
  rw [handle_eq, class_outgoing]
  exact .step (.refl _)

theorem leads_letter :
    Work.Leads (answer kiosk letter) (looking ++ answering) (.done (.ofResponse created none)) := by
  rw [answer_eq path_letter toRequest_letter]
  exact passes_letter.bind (.step (.refl _))

theorem letter_fetched : Carries outgoing letter ∧
    ∃ outcome, answering = [⟨.fetch outgoing, outcome⟩] := by
  obtain ⟨carries, -, ⟨hnone, -⟩ | ⟨outcome, hfetch, -⟩⟩ :=
    fetched_as_it_came path_letter toRequest_letter passes_letter leads_letter
  · cases hnone
  · exact ⟨carries, outcome, hfetch⟩

/-- The letter is passed through, but its method is not fetched as it came, nor are all its
values. -/
theorem letter_not_verbatim : letter.toRequest? kiosk.origin = some outgoing ∧
    Work.Leads (kiosk.handle outgoing) looking (.done .passThrough) ∧
    (∃ next, Work.Leads (answer kiosk letter) looking (.ask (.fetch outgoing) next)) ∧
    outgoing.method ≠ letter.method ∧ isHopByHop "x-name" = false ∧
    (valuesOf outgoing.headers "x-name").map (fun value => value.toUTF8.toList) ≠
      valuesOf letter.headers "x-name" := by
  refine ⟨toRequest_letter, passes_letter, ?_, by decide, by decide +kernel, by decide +kernel⟩
  rw [answer_eq path_letter toRequest_letter]
  exact ⟨_, passes_letter.bind_of_done _⟩

end Letterbox

/-! ### Where answers say they came from -/

/-- All that an answer says about where it came from. -/
def Answer.sources (answer : Answer) : List String :=
  valuesOf answer.headers sourceHeader

theorem toLower_sourceHeader : sourceHeader.toLower = sourceHeader := by cbv

theorem sources_new (status : Nat) (headers : Headers) (body : ByteArray) :
    (Answer.new status headers body).sources = valuesOf headers sourceHeader := by
  have hname : "content-length".toLower ≠ sourceHeader.toLower := by cbv
  have hlength : valuesOf [("content-length", toString body.size)] sourceHeader = [] :=
    Http.valuesOf_eq_nil (List.forall_mem_singleton.mpr hname)
  rw [Answer.sources, Answer.new, Http.valuesOf_append, hlength, List.append_nil]

theorem sources_text (status : Nat) (body : String) : (Answer.text status body).sources = [] := by
  rw [Answer.text, sources_new]
  exact Http.valuesOf_eq_nil (List.forall_mem_singleton.mpr (by cbv))

/-- A source takes the place of whatever the response said. -/
theorem sources_ofResponse_some (response : Response) (source : Source) :
    (Answer.ofResponse response (some source)).sources = [source.name] := by
  have hothers : valuesOf ((Http.forwarded response.headers).filter (·.1 ≠ sourceHeader))
      sourceHeader = [] := by
    refine Http.valuesOf_eq_nil fun header hmem hsame => ?_
    obtain ⟨hforwarded, hother⟩ := List.mem_filter.mp hmem
    rw [Http.toLower_of_mem_forwarded hforwarded, toLower_sourceHeader] at hsame
    exact of_decide_eq_true hother hsame
  rw [Answer.ofResponse, sources_new]
  simp only [Http.valuesOf_append, hothers, List.nil_append, Http.valuesOf_singleton]

/-- Without a source the answer says what the response said. -/
theorem sources_ofResponse_none (response : Response) :
    (Answer.ofResponse response none).sources =
      (valuesOf response.headers sourceHeader).filter isHeaderValue := by
  rw [Answer.ofResponse, sources_new]
  exact (Http.valuesOf_forwarded _).trans (if_pos (by cbv))

/-- What the network says about where its response came from, as far as it can be written. -/
def saidSources : Except FetchFailure Response → List String
  | .ok response => (valuesOf response.headers sourceHeader).filter isHeaderValue
  | .error _ => []

theorem sources_relayed (outcome : Except FetchFailure Response) :
    (relayed outcome).sources = saidSources outcome := by
  cases outcome with
  | ok response => exact sources_ofResponse_none response
  | error failure => exact sources_text _ _

/-- **Answers of the agent say where they came from.** If the agent responds there is one source,
whatever the response says itself. If it passes the request through, the answer says what the
network said, and otherwise nothing. -/
theorem sources_of_answer {sent : Answer} (hpath : Endpoint.ofPath? incoming.target.path = none)
    (leads : Work.Leads (answer agent incoming) history (.done sent)) :
    (incoming.toRequest? agent.origin = none ∧ sent.sources = []) ∨
      ∃ request, incoming.toRequest? agent.origin = some request ∧
        ((∃ served, Work.Leads (agent.handle request) history (.done (.respond served)) ∧
            sent.sources = [served.source.name]) ∨
          ∃ front outcome, history = front ++ [⟨.fetch request, outcome⟩] ∧
            Work.Leads (agent.handle request) front (.done .passThrough) ∧
            sent.sources = saidSources outcome) := by
  cases hrequest : incoming.toRequest? agent.origin with
  | none =>
      rw [answer, hpath, intercept, hrequest] at leads
      obtain ⟨-, hsent⟩ := Work.leads_done_iff.mp leads
      obtain rfl := Work.done.inj hsent
      exact .inl ⟨rfl, sources_text _ _⟩
  | some request =>
      refine .inr ⟨request, rfl, ?_⟩
      rw [answer_eq hpath hrequest] at leads
      obtain ⟨front, back, verdict, rfl, hfront, hback⟩ := Work.exists_of_leads_bind leads
      cases verdict with
      | respond served =>
          obtain ⟨rfl, hsent⟩ := Work.leads_done_iff.mp hback
          obtain rfl := Work.done.inj hsent
          rw [List.append_nil]
          exact .inl ⟨served, hfront, sources_ofResponse_some _ _⟩
      | passThrough =>
          obtain ⟨-, next, hleft⟩ | ⟨outcome, rfl, hsent⟩ := leads_relay hback
          · cases hleft
          · obtain rfl := Work.done.inj hsent
            exact .inr ⟨front, outcome, rfl, hfront, sources_relayed outcome⟩

namespace Letterbox

open Kiosk (kiosk)

/-- The agent did not respond to the letter, and yet the answer says that it was stored. -/
theorem sources_letter : Work.Leads (kiosk.handle outgoing) looking (.done .passThrough) ∧
    (Answer.ofResponse created none).sources = ["cache"] := by
  refine ⟨passes_letter, ?_⟩
  obtain ⟨hnone, -⟩ | ⟨request, hrequest, hsources⟩ := sources_of_answer path_letter leads_letter
  · rw [toRequest_letter] at hnone
    cases hnone
  obtain rfl := Option.some.inj (toRequest_letter.symm.trans hrequest)
  obtain ⟨served, hserved, -⟩ | ⟨front, outcome, hhistory, -, hsources⟩ := hsources
  · obtain ⟨hnone, -⟩ | ⟨state, rest, -, ⟨-, hverdict, -⟩ | ⟨kind, -, hkind, -⟩⟩ :=
      leads_handle hserved
    · exact absurd hnone (List.cons_ne_nil _ _)
    · cases hverdict
    · rw [class_outgoing] at hkind
      cases hkind
  · obtain ⟨-, hfetch⟩ := List.append_inj' hhistory rfl
    obtain rfl : .ok created = outcome :=
      eq_of_heq (Exchange.mk.inj (List.cons.inj hfetch).1).2
    have hsaid : valuesOf created.headers sourceHeader = ["cache"] :=
      Http.valuesOf_singleton "cache"
    have hvalue : ["cache"].filter isHeaderValue = ["cache"] := by decide +kernel
    exact hsources.trans ((congrArg (List.filter isHeaderValue) hsaid).trans hvalue)

end Letterbox

end Server

end OfflineAgent
