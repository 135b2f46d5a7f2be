import Mathlib
import OfflineAgent.Http.Client

/-!
# What a fetch puts on the wire and what it comes to

A fetch sends its request once and gives what comes back, whatever its status, unless that
redirects: then it goes on from place to place, ten times at most. What it gives in the end is the
whole answer to the last request. Nothing that breaks off is ever given.
-/

namespace OfflineAgent.Client

def Reception.head? : Reception → Option (UInt16 × Http.RawHeaders)
  | nothing => none
  | truncated status headers => some (status, headers)
  | whole status headers _ => some (status, headers)

/-- What comes back for a request to a URL sends the client to another one. -/
def Reception.Redirects (reception : Reception) (url : Url) (status : UInt16) (target : Url) :
    Prop :=
  ∃ headers, reception.head? = some (status, headers) ∧ target? url status headers = some target

/-- What comes back is a whole response, from which this is made. -/
def Reception.Gives (reception : Reception) (response : Response) : Prop :=
  ∃ status headers body, reception = .whole status headers body ∧
    response = ⟨status, Http.received headers, body⟩

/-- The requests of a fetch, the last one first. Each but the first goes where what came back for
the one before it sent the client. -/
inductive Trail (peer : Peer) (first : Sent) : List Sent → Prop
  | single : Trail peer first [first]
  | follow {sent : Sent} {past : List Sent} {status : UInt16} {target : Url}
      (trail : Trail peer first (sent :: past))
      (redirects : (peer (sent :: past)).Redirects sent.url status target)
      (hsendable : isSendable target = true) :
      Trail peer first (sent.redirected status target :: sent :: past)

/-- What comes back for the last of some requests is this response, and does not redirect. -/
def Settles (peer : Peer) (requests : List Sent) (response : Response) : Prop :=
  ∃ last past, requests = last :: past ∧ (peer requests).Gives response ∧
    ∀ status target, ¬(peer requests).Redirects last.url status target

variable {peer : Peer} {request : Request} {first sent : Sent} {past : List Sent} {fuel : Nat}
  {reception : Reception} {url : Url} {status : UInt16} {headers : Http.RawHeaders}
  {response : Response}

/-! ### One answer -/

theorem target?_eq_none
    (hstays : statusRedirects status = false ∨ ∀ header ∈ headers, header.1 ≠ "location") :
    target? url status headers = none := by
  unfold target?
  cases hstays with
  | inl hstatus => simp [hstatus]
  | inr hheaders =>
      have hfind : headers.find? (·.1 = "location") = none := by
        rw [List.find?_eq_none]
        intro header hmem
        simpa using hheaders header hmem
      by_cases hredirects : statusRedirects status = true
      · simp [hredirects, hfind]
      · simp [hredirects]

theorem Reception.Redirects.target_unique {status' : UInt16} {target target' : Url}
    (redirects : reception.Redirects url status target)
    (redirects' : reception.Redirects url status' target') : target = target' := by
  obtain ⟨headers, hhead, htarget⟩ := redirects
  obtain ⟨headers', hhead', htarget'⟩ := redirects'
  obtain ⟨rfl, rfl⟩ := Prod.mk.inj (Option.some.inj (hhead.symm.trans hhead'))
  exact Option.some.inj (htarget.symm.trans htarget')

theorem react_of_redirects {target : Url} (redirects : reception.Redirects sent.url status target) :
    react request sent reception = .follow status target := by
  obtain ⟨headers, hhead, htarget⟩ := redirects
  cases reception with
  | nothing => cases hhead
  | truncated status' headers' =>
      cases hhead
      simp only [react, htarget]
  | whole status' headers' body =>
      cases hhead
      simp only [react, htarget]

/-- What comes back and does not redirect is given if it is whole. -/
theorem react_of_not_redirects (request : Request)
    (hstays : ∀ status target, ¬reception.Redirects sent.url status target) :
    ∃ outcome, react request sent reception = .finish outcome ∧
      ∀ response, outcome = .ok response ↔ reception.Gives response := by
  have hnone {status : UInt16} {headers : Http.RawHeaders}
      (hhead : reception.head? = some (status, headers)) :
      target? sent.url status headers = none := by
    by_contra hsome
    obtain ⟨target, htarget⟩ := Option.ne_none_iff_exists'.mp hsome
    exact hstays status target ⟨headers, hhead, htarget⟩
  cases reception with
  | nothing =>
      refine ⟨_, rfl, fun response => ?_⟩
      simp [Reception.Gives]
  | truncated status headers =>
      refine ⟨.error (.truncated request.url), ?_, fun response => ?_⟩
      · simp only [react, hnone rfl]
      · simp [Reception.Gives]
  | whole status headers body =>
      refine ⟨.ok ⟨status, Http.received headers, body⟩, ?_, fun response => ?_⟩
      · simp only [react, hnone rfl]
      · constructor
        · intro hresponse
          exact ⟨status, headers, body, rfl, (Except.ok.inj hresponse).symm⟩
        · rintro ⟨_, _, _, hwhole, rfl⟩
          cases hwhole
          rfl

/-! ### From answer to answer -/

/-- An exchange over a number of requests at most. It leaves off at a redirect only after the last
of them, or where nothing can be sent, and then it gives no response. -/
structure Completes (peer : Peer) (first : Sent) (limit : Nat) (result : Exchange) : Prop where
  trail : Trail peer first result.sent
  length_le : result.sent.length ≤ limit
  stops : ∀ {last past status target}, result.sent = last :: past →
    (peer result.sent).Redirects last.url status target →
    result.sent.length = limit ∨ isSendable target = false
  ok_iff : ∀ response, result.outcome = .ok response ↔ Settles peer result.sent response

variable {limit : Nat}

theorem completes_of_redirects {target : Url} {failure : FetchFailure}
    (trail : Trail peer first (sent :: past)) (hlimit : past.length < limit)
    (redirects : (peer (sent :: past)).Redirects sent.url status target)
    (hstop : past.length + 1 = limit ∨ isSendable target = false) :
    Completes peer first limit ⟨.error failure, sent :: past⟩ where
  trail := trail
  length_le := hlimit
  stops := by
    intro last past' status' target' hsame redirects'
    obtain ⟨rfl, rfl⟩ := List.cons.inj hsame
    have htarget : target' = target := redirects'.target_unique redirects
    rw [htarget]
    exact hstop
  ok_iff := by
    intro response
    constructor
    · intro herror
      cases herror
    · rintro ⟨last, rest, hsame, -, hstays⟩
      obtain ⟨rfl, rfl⟩ := List.cons.inj hsame
      exact absurd redirects (hstays status target)

theorem completes_of_not_redirects {outcome : Except FetchFailure Response}
    (trail : Trail peer first (sent :: past)) (hlimit : past.length < limit)
    (hstays : ∀ status target, ¬(peer (sent :: past)).Redirects sent.url status target)
    (hok : ∀ response, outcome = .ok response ↔ (peer (sent :: past)).Gives response) :
    Completes peer first limit ⟨outcome, sent :: past⟩ where
  trail := trail
  length_le := hlimit
  stops := by
    intro last past' status target hsame redirects
    obtain ⟨rfl, rfl⟩ := List.cons.inj hsame
    exact absurd redirects (hstays status target)
  ok_iff := by
    intro response
    constructor
    · intro hresponse
      exact ⟨sent, past, rfl, (hok response).mp hresponse, hstays⟩
    · rintro ⟨last, rest, -, hgives, -⟩
      exact (hok response).mpr hgives

/-- Whatever redirects are left, an exchange ends with an answer that does not redirect. -/
theorem completes_of_stays (trail : Trail peer first (sent :: past)) (hlimit : past.length < limit)
    (hstays : ∀ status target, ¬(peer (sent :: past)).Redirects sent.url status target) :
    Completes peer first limit (exchange peer request fuel past sent) := by
  obtain ⟨outcome, hreact, hok⟩ := react_of_not_redirects request hstays
  have hends : exchange peer request fuel past sent = ⟨outcome, sent :: past⟩ := by
    cases fuel <;> simp only [exchange, hreact]
  rw [hends]
  exact completes_of_not_redirects trail hlimit hstays hok

/-- By induction on the redirects that are left: each that is followed makes the trail longer. -/
theorem completes_exchange (trail : Trail peer first (sent :: past)) :
    Completes peer first (past.length + 1 + fuel) (exchange peer request fuel past sent) := by
  induction fuel generalizing sent past with
  | zero =>
      by_cases hredirects : ∃ status target,
          (peer (sent :: past)).Redirects sent.url status target
      · obtain ⟨status, target, redirects⟩ := hredirects
        unfold exchange
        simp only [react_of_redirects redirects]
        exact completes_of_redirects trail (by omega) redirects (.inl rfl)
      · push Not at hredirects
        exact completes_of_stays trail (by omega) hredirects
  | succ fuel ih =>
      by_cases hredirects : ∃ status target,
          (peer (sent :: past)).Redirects sent.url status target
      · obtain ⟨status, target, redirects⟩ := hredirects
        unfold exchange
        simp only [react_of_redirects redirects]
        by_cases hsendable : isSendable target = true
        · rw [if_pos hsendable]
          have hrest := ih (trail.follow redirects hsendable)
          have hlimit : (sent :: past).length + 1 + fuel = past.length + 1 + (fuel + 1) := by
            rw [List.length_cons]
            omega
          rwa [hlimit] at hrest
        · rw [if_neg hsendable]
          exact completes_of_redirects trail (by omega) redirects
            (.inr (Bool.not_eq_true _ ▸ hsendable))
      · push Not at hredirects
        exact completes_of_stays trail (by omega) hredirects

/-! ### Fetching -/

theorem fetch_of_sendable (hmethod : Http.isToken request.method = true)
    (hsendable : isSendable (Sent.ofRequest request).url = true) :
    fetch peer request = exchange peer request maxRedirects [] (.ofRequest request) := by
  simp only [fetch, hmethod, hsendable, Bool.not_true, Bool.false_eq_true, if_false]

/-- Also a fetch whose request cannot be sent gives an error, without any request. -/
theorem fetch_of_not_sendable (hunfit : Http.isToken request.method = false ∨
    isSendable (Sent.ofRequest request).url = false) :
    ∃ failure, fetch peer request = ⟨.error failure, []⟩ := by
  by_cases hmethod : Http.isToken request.method = true
  · have hsendable := hunfit.resolve_left (by simp [hmethod])
    simp only [fetch, hmethod, hsendable, Bool.not_true, Bool.not_false, Bool.false_eq_true,
      if_true, if_false]
    exact ⟨_, rfl⟩
  · simp only [fetch, Bool.not_eq_true _ ▸ hmethod, Bool.not_false, if_true]
    exact ⟨_, rfl⟩

theorem completes_fetch (hmethod : Http.isToken request.method = true)
    (hsendable : isSendable (Sent.ofRequest request).url = true) :
    Completes peer (.ofRequest request) (maxRedirects + 1) (fetch peer request) := by
  have hcompletes : Completes peer (.ofRequest request) (([] : List Sent).length + 1 + maxRedirects)
      (exchange peer request maxRedirects [] (.ofRequest request)) := completes_exchange .single
  rw [List.length_nil, Nat.zero_add, Nat.add_comm] at hcompletes
  rwa [fetch_of_sendable hmethod hsendable]

/-- **A fetch gives the answer to its one request, whatever the status, unless that redirects.**
Then it follows, ten times at most, and gives the whole answer to its last request; where that
redirects again or is not whole, it gives an error. -/
theorem fetched_unless_redirected (peer : Peer) (request : Request)
    (hmethod : Http.isToken request.method = true)
    (hsendable : isSendable (Sent.ofRequest request).url = true) :
    (∀ status headers body, peer [.ofRequest request] = .whole status headers body →
      (statusRedirects status = false ∨ ∀ header ∈ headers, header.1 ≠ "location") →
      fetch peer request =
        ⟨.ok ⟨status, Http.received headers, body⟩, [.ofRequest request]⟩) ∧
    (∀ status headers, peer [.ofRequest request] = .truncated status headers →
      (statusRedirects status = false ∨ ∀ header ∈ headers, header.1 ≠ "location") →
      fetch peer request = ⟨.error (.truncated request.url), [.ofRequest request]⟩) ∧
    (peer [.ofRequest request] = .nothing →
      ∃ failure, fetch peer request = ⟨.error failure, [.ofRequest request]⟩) ∧
    Completes peer (.ofRequest request) (maxRedirects + 1) (fetch peer request) := by
  have hfetch : fetch peer request = exchange peer request maxRedirects [] (.ofRequest request) :=
    fetch_of_sendable hmethod hsendable
  refine ⟨?_, ?_, ?_, completes_fetch hmethod hsendable⟩
  · intro status headers body hwhole hstays
    rw [hfetch]
    unfold exchange
    simp only [hwhole, react, target?_eq_none hstays]
  · intro status headers htruncated hstays
    rw [hfetch]
    unfold exchange
    simp only [htruncated, react, target?_eq_none hstays]
  · intro hnothing
    rw [hfetch]
    unfold exchange
    simp only [hnothing, react]
    exact ⟨_, rfl⟩

/-! A page that has moved. -/

namespace Detour

def oldPage : Url :=
  { scheme := "http", username := "", password := none, host := some (.named "shop"), port := none
    path := .segments ["old"], query := none, fragment := none }

def visit : Request :=
  .get oldPage

def moved : Http.RawHeaders :=
  [("location", "/new".toUTF8.toList)]

/-- The first request is answered with the new place, and the next one with what is there. -/
def shop : Peer
  | [_] => .whole 302 moved "moved".toUTF8
  | _ => .whole 200 [] "new page".toUTF8

/-- The answer that comes back first is whole, and yet it is not what the fetch gives. -/
theorem new_page_fetched :
    shop [.ofRequest visit] = .whole 302 moved "moved".toUTF8 ∧
    (fetch shop visit).outcome = .ok ⟨200, [], "new page".toUTF8⟩ ∧
    (fetch shop visit).sent.map (·.url.text) = ["http://shop/new", "http://shop/old"] ∧
    Settles shop (fetch shop visit).sent ⟨200, [], "new page".toUTF8⟩ := by
  have houtcome : (fetch shop visit).outcome = .ok ⟨200, [], "new page".toUTF8⟩ := by
    decide +kernel
  have hsent : (fetch shop visit).sent.map (·.url.text) =
      ["http://shop/new", "http://shop/old"] := by
    decide +kernel
  obtain ⟨-, -, -, hcompletes⟩ :=
    fetched_unless_redirected shop visit (by decide +kernel) (by decide +kernel)
  exact ⟨rfl, houtcome, hsent, (hcompletes.ok_iff _).mp houtcome⟩

end Detour

end OfflineAgent.Client
