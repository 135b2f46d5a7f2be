import OfflineAgent.Proofs.Server.Relay

/-!
# Which bodies are taken

A request that the agent might answer must not have too long a body, and any other may. But whether
a body is too long is decided by the method as it is written, while the agent goes by the method in
upper case: a request whose method is a GET in other letters is answered by the agent whatever the
length of its body.
-/

namespace OfflineAgent

variable {agent : Agent} {request : Request} {history : List Exchange}

theorem RequestClass.isGet_of_ofRequest {settings : Settings} {kind : RequestClass}
    (hkind : ofRequest? settings request = some kind) : request.isGet = true := by
  unfold ofRequest? at hkind
  split at hkind
  · cases hkind
  · rename_i hservable
    simpa using (not_or.mp hservable).2

/-- The agent answers nothing but GET. -/
theorem Agent.isGet_of_respond {served : Served}
    (responds : Work.Leads (agent.handle request) history (.done (.respond served))) :
    request.isGet = true := by
  obtain ⟨-, hleft⟩ | ⟨state, rest, -, ⟨-, hleft, -⟩ | ⟨kind, -, hkind, -⟩⟩ := leads_handle responds
  · rw [handle_eq] at hleft
    cases hleft
  · cases hleft
  · exact RequestClass.isGet_of_ofRequest hkind

namespace Server

variable {incoming : Incoming} {origin : Url}

theorem toRequest_eq_none_iff : incoming.toRequest? origin = none ↔
    incoming.method = "GET" ∧ maxInterceptedBody < incoming.body.size := by
  unfold Incoming.toRequest?
  split <;> simp_all

theorem isGet_toRequest (hrequest : incoming.toRequest? origin = some request) :
    request.isGet = true ↔ incoming.method.toUpper = "GET" := by
  rw [Request.isGet, (carries_toRequest hrequest).method, decide_eq_true_iff]

/-- **Bodies are capped by the method as it is written.** A request with the method `GET` and too
long a body is turned away at once, with nothing asked of the stores or the network. Every other
goes to the agent with its whole body, which may respond only if the method is `GET` in upper
case. -/
theorem capped_as_written (agent : Agent)
    (hpath : Endpoint.ofPath? incoming.target.path = none) :
    (incoming.method = "GET" ∧ maxInterceptedBody < incoming.body.size ∧
        incoming.toRequest? agent.origin = none ∧
        answer agent incoming =
          .done (.text 400 "Failed to read request body: length limit exceeded")) ∨
      (incoming.method = "GET" → incoming.body.size ≤ maxInterceptedBody) ∧
        ∃ request, incoming.toRequest? agent.origin = some request ∧
          request.body = incoming.body ∧
          (request.isGet = true ↔ incoming.method.toUpper = "GET") ∧
          answer agent incoming = agent.handle request >>= relay request ∧
          ∀ history served, Work.Leads (agent.handle request) history (.done (.respond served)) →
            request.isGet = true := by
  cases hrequest : incoming.toRequest? agent.origin with
  | none =>
      obtain ⟨hget, hlong⟩ := toRequest_eq_none_iff.mp hrequest
      refine .inl ⟨hget, hlong, rfl, ?_⟩
      rw [answer, hpath, intercept, hrequest]
      rfl
  | some request =>
      have hshort (hget : incoming.method = "GET") :
          incoming.body.size ≤ maxInterceptedBody := by
        by_contra hlong
        have hnone : incoming.toRequest? agent.origin = none :=
          toRequest_eq_none_iff.mpr ⟨hget, not_le.mp hlong⟩
        rw [hnone] at hrequest
        cases hrequest
      exact .inr ⟨hshort, request, rfl, (carries_toRequest hrequest).body,
        isGet_toRequest hrequest, answer_eq hpath hrequest, fun _ _ => Agent.isGet_of_respond⟩

namespace Freight

open Kiosk (kiosk)

/-- A request for some page, with a body that is one byte too long. -/
def crate (method : String) : Incoming where
  method := method
  target := ⟨"/page", none⟩
  headers := []
  body := ⟨Array.replicate (maxInterceptedBody + 1) 0⟩

theorem size_crate (method : String) : (crate method).body.size = maxInterceptedBody + 1 :=
  Array.size_replicate

theorem path_crate (method : String) : Endpoint.ofPath? (crate method).target.path = none := rfl

/-- In capital letters it is turned away, and in small ones it is for the agent. -/
theorem crate_taken_in_small_letters :
    answer kiosk (crate "GET") =
        .done (.text 400 "Failed to read request body: length limit exceeded") ∧
      ∃ request, (crate "get").toRequest? kiosk.origin = some request ∧ request.isGet = true ∧
        maxInterceptedBody < request.body.size := by
  have hlong (method : String) : maxInterceptedBody < (crate method).body.size := by
    rw [size_crate]
    exact Nat.lt_succ_self _
  have hupper : "get".toUpper = "GET" := by cbv
  constructor
  · obtain ⟨-, -, -, hanswer⟩ | ⟨hshort, -⟩ := capped_as_written kiosk (path_crate "GET")
    · exact hanswer
    · exact absurd (hshort rfl) (not_le.mpr (hlong "GET"))
  · obtain ⟨hget, -⟩ | ⟨-, request, hrequest, hbody, hget, -⟩ :=
      capped_as_written kiosk (path_crate "get")
    · exact absurd hget (by decide)
    · refine ⟨request, hrequest, hget.mpr hupper, ?_⟩
      rw [hbody]
      exact hlong "get"

end Freight

end Server

end OfflineAgent
