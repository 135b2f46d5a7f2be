import OfflineAgent.Proofs.Http.Headers
import OfflineAgent.Proofs.Http.Redirects

/-!
# What a client forwards

A request goes on the wire with its own headers: of each name all values that can be written, in
their order, and what the client takes if no header says so. What belongs to one hop stays behind,
also when the request is redirected, and it is taken out of the response that comes back.
-/

namespace OfflineAgent

namespace Http

variable {α : Type} {headers front back : List (String × α)} {name : String}

/-! ### Headers that go on -/

def EndToEnd (headers : List (String × α)) : Prop :=
  ∀ header ∈ headers, isHopByHop header.1 = false

@[simp]
theorem endToEnd_nil : EndToEnd ([] : List (String × α)) :=
  List.forall_mem_nil _

@[simp]
theorem endToEnd_singleton {value : α} : EndToEnd [(name, value)] ↔ isHopByHop name = false :=
  List.forall_mem_singleton

@[simp]
theorem endToEnd_append : EndToEnd (front ++ back) ↔ EndToEnd front ∧ EndToEnd back :=
  List.forall_mem_append

theorem EndToEnd.filter (endToEnd : EndToEnd headers) (keep : String × α → Bool) :
    EndToEnd (headers.filter keep) :=
  fun header hmem => endToEnd header (List.mem_of_mem_filter hmem)

theorem endToEnd_received (headers : RawHeaders) : EndToEnd (received headers) := by
  intro header hmem
  obtain ⟨⟨name, value⟩, -, hread⟩ := List.mem_filterMap.mp hmem
  obtain ⟨hhop, hread⟩ := Option.ite_none_left_eq_some.mp hread
  obtain ⟨text, -, rfl⟩ := Option.map_eq_some_iff.mp hread
  exact Bool.not_eq_true _ ▸ hhop

theorem endToEnd_forwarded (headers : Headers) : EndToEnd (forwarded headers) := by
  intro header hmem
  obtain ⟨⟨name, value⟩, hkept, rfl⟩ := List.mem_map.mp hmem
  have hfit := (List.mem_filter.mp hkept).2
  simp only [Bool.and_eq_true, Bool.not_eq_true'] at hfit
  rw [isHopByHop_congr (toLower_toLower name)]
  exact hfit.1.1

/-! ### Values of a name -/

theorem valuesOf_eq_nil_iff :
    valuesOf headers name = [] ↔ ∀ header ∈ headers, header.1.toLower ≠ name.toLower := by
  simp only [valuesOf, List.filterMap_eq_nil_iff, ite_eq_right_iff, reduceCtorEq, imp_false]

theorem any_name_iff (hlower : ∀ header ∈ headers, header.1.toLower = header.1)
    (hname : name.toLower = name) :
    headers.any (·.1 = name) = true ↔ valuesOf headers name ≠ [] := by
  rw [List.any_eq_true, ne_eq, valuesOf_eq_nil_iff]
  push Not
  refine exists_congr fun header => and_congr_right fun hmem => ?_
  rw [decide_eq_true_iff, hlower header hmem, hname]

/-- The values of a name that can be written in a message to the next hop. -/
def writable (headers : Headers) (name : String) : List String :=
  if !isHopByHop name && isHeaderName name then (valuesOf headers name).filter isHeaderValue else []

/-- Headers that can be written, and do not belong to one hop, are written with all their values. -/
theorem writable_eq_valuesOf {headers : Headers} (endToEnd : EndToEnd headers)
    (hfit : ∀ header ∈ headers, isHeaderName header.1 = true ∧ isHeaderValue header.2 = true) :
    writable headers name = valuesOf headers name := by
  unfold writable
  split
  · refine List.filter_eq_self.mpr fun value hmem => ?_
    obtain ⟨header, hheader, hvalue⟩ := List.mem_filterMap.mp hmem
    obtain ⟨-, hvalue⟩ := Option.ite_none_right_eq_some.mp hvalue
    exact Option.some.inj hvalue ▸ (hfit header hheader).2
  · rename_i hunfit
    refine (valuesOf_eq_nil fun header hmem hsame => hunfit ?_).symm
    rw [← isHopByHop_congr hsame, ← isHeaderName_congr hsame, endToEnd header hmem,
      (hfit header hmem).1]
    rfl

/-- Text on the wire can be written again. -/
theorem isHeaderValue_of_valueText {value : List UInt8} {text : String}
    (htext : valueText? value = some text) : isHeaderValue text = true := by
  have hwritten : ∀ n : Fin 128, 32 ≤ n.val ∧ n.val < 127 ∨ n.val = 9 →
      isValueChar (Char.ofNat n) = true := by decide
  obtain ⟨hbytes, htext⟩ := Option.ite_none_right_eq_some.mp htext
  obtain rfl := Option.some.inj htext
  rw [isHeaderValue, String.toList_ofList, List.all_map, List.all_eq_true]
  intro b hmem
  have hb := List.all_eq_true.mp hbytes b hmem
  simp only [Bool.or_eq_true, Bool.and_eq_true, decide_eq_true_eq, UInt8.le_iff_toNat_le,
    UInt8.lt_iff_toNat_lt, ← UInt8.toNat_inj, UInt8.reduceToNat] at hb
  exact hwritten ⟨b.toNat, by omega⟩ hb

/-- Headers that were received under names can be sent on as they are. -/
theorem writable_received {headers : RawHeaders}
    (hnames : ∀ header ∈ headers, isHeaderName header.1 = true) :
    writable (received headers) name = valuesOf (received headers) name := by
  refine writable_eq_valuesOf (endToEnd_received headers) fun header hmem => ?_
  obtain ⟨⟨name, value⟩, hheader, hread⟩ := List.mem_filterMap.mp hmem
  obtain ⟨-, hread⟩ := Option.ite_none_left_eq_some.mp hread
  obtain ⟨text, htext, rfl⟩ := Option.map_eq_some_iff.mp hread
  exact ⟨hnames _ hheader, isHeaderValue_of_valueText htext⟩

end Http

namespace Client

open Http (EndToEnd writable valuesOf isHopByHop isHeaderValue endToEnd_append)

variable {peer : Peer} {request : Request} {first sent : Sent} {requests : List Sent}
  {name : String}

/-! ### The headers of a request -/

/-- What the hint of a request adds to the values of a name. -/
def hinted (request : Request) (name : String) : List String :=
  if name.toLower = "accept" ∧ writable request.headers "accept" = [] then
    request.accept.toList.filter isHeaderValue
  else []

theorem toLower_accept : "accept".toLower = "accept" := by cbv

theorem headersFor_eq (request : Request) :
    headersFor request = Http.forwarded request.headers ++
      (hinted request "accept").map ("accept", ·) := by
  have hsaid : (Http.forwarded request.headers).any (·.1 = "accept") = true ↔
      writable request.headers "accept" ≠ [] := by
    rw [Http.any_name_iff (fun _ => Http.toLower_of_mem_forwarded) toLower_accept,
      Http.valuesOf_forwarded, writable]
  unfold headersFor hinted
  cases request.accept with
  | none => simp
  | some accept =>
      by_cases hunsaid : writable request.headers "accept" = []
      · have hany : (Http.forwarded request.headers).any (·.1 = "accept") = false := by
          rw [← Bool.not_eq_true, hsaid, not_not]
          exact hunsaid
        cases hvalue : isHeaderValue accept <;> simp [hany, hunsaid, hvalue, toLower_accept]
      · simp [hsaid.mpr hunsaid, hunsaid]

theorem toLower_of_mem_headersFor {header : String × String} (hmem : header ∈ headersFor request) :
    header.1.toLower = header.1 := by
  rw [headersFor_eq, List.mem_append] at hmem
  obtain hown | hhint := hmem
  · exact Http.toLower_of_mem_forwarded hown
  · obtain ⟨value, -, rfl⟩ := List.mem_map.mp hhint
    exact toLower_accept

/-- A request is sent with its own values of each name, and with its hint where it has none. -/
theorem valuesOf_headersFor (request : Request) (name : String) :
    valuesOf (headersFor request) name = writable request.headers name ++ hinted request name := by
  have hhint : valuesOf ((hinted request "accept").map ("accept", ·)) name =
      hinted request name := by
    rw [valuesOf, List.filterMap_map]
    by_cases hname : name.toLower = "accept"
    · have hsame : hinted request name = hinted request "accept" := by
        simp only [hinted, hname, toLower_accept]
      simp [toLower_accept, hname, hsame]
    · have hnone : hinted request name = [] := if_neg fun both => hname both.1
      simp [toLower_accept, Ne.symm hname, hnone]
  rw [headersFor_eq, Http.valuesOf_append, hhint, Http.valuesOf_forwarded, writable]

theorem endToEnd_headersFor (request : Request) : EndToEnd (headersFor request) := by
  have haccept : isHopByHop "accept" = false := by cbv
  rw [headersFor_eq, endToEnd_append]
  refine ⟨Http.endToEnd_forwarded _, fun header hmem => ?_⟩
  obtain ⟨value, -, rfl⟩ := List.mem_map.mp hmem
  exact haccept

/-! ### On the wire -/

theorem toLower_authorization : "authorization".toLower = "authorization" := by cbv

theorem of_mem_authorization {url : Url} {header : String × String}
    (hmem : header ∈ authorization url) : header.1 = "authorization" := by
  simp only [authorization] at hmem
  split at hmem
  · split at hmem
    · cases hmem
    · exact List.mem_singleton.mp hmem ▸ rfl
  · cases hmem

/-- The credentials of the URL are for a request that says nothing about them; for every other name
the wire has what the request was handed on with. -/
theorem valuesOf_ofRequest (request : Request) (name : String) :
    valuesOf (Sent.ofRequest request).headers name =
      if valuesOf (headersFor request) name = [] then valuesOf (authorization request.url) name
      else valuesOf (headersFor request) name := by
  have hlower : ∀ header ∈ headersFor request, header.1.toLower = header.1 := by
    intro header hmem
    exact toLower_of_mem_headersFor hmem
  have hsaid := Http.any_name_iff hlower toLower_authorization
  have hother (hname : name.toLower ≠ "authorization") :
      valuesOf (authorization request.url) name = [] := by
    refine Http.valuesOf_eq_nil fun header hmem hsame => hname ?_
    rw [← hsame, of_mem_authorization hmem, toLower_authorization]
  have hcongr (headers : Headers) (hname : name.toLower = "authorization") :
      valuesOf headers name = valuesOf headers "authorization" := by
    simp only [valuesOf, hname, toLower_authorization]
  unfold Sent.ofRequest
  -- The credentials stand first, but only if no header of the request has their name.
  by_cases hany : (headersFor request).any (·.1 = "authorization") = true
  · simp only [hany, if_true]
    split
    · rename_i hnone
      by_cases hname : name.toLower = "authorization"
      · exact absurd (hcongr _ hname ▸ hnone) (hsaid.mp hany)
      · rw [hnone, hother hname]
    · rfl
  · simp only [hany, Bool.false_eq_true, if_false, Http.valuesOf_append]
    by_cases hname : name.toLower = "authorization"
    · have hnone : valuesOf (headersFor request) name = [] := by
        rw [hcongr _ hname]
        exact not_not.mp fun hsome => hany (hsaid.mpr hsome)
      rw [hnone, if_pos rfl, List.append_nil]
    · rw [hother hname, List.nil_append]
      split
      · assumption
      · rfl

theorem endToEnd_ofRequest (request : Request) : EndToEnd (Sent.ofRequest request).headers := by
  have hname : isHopByHop "authorization" = false := by cbv
  have hcredentials : EndToEnd (authorization request.url) :=
    fun header hmem => of_mem_authorization hmem ▸ hname
  unfold Sent.ofRequest
  dsimp only
  split
  · exact endToEnd_headersFor request
  · exact endToEnd_append.mpr ⟨hcredentials, endToEnd_headersFor request⟩

/-! ### After redirects -/

theorem endToEnd_referrer (source target : Url) : EndToEnd (referrer source target) := by
  have hname : isHopByHop "referer" = false := by cbv
  unfold referrer
  split
  · exact Http.endToEnd_nil
  · exact Http.endToEnd_singleton.mpr hname

theorem of_mem_redirected {status : UInt16} {target : Url} {header : String × String}
    (hmem : header ∈ (sent.redirected status target).headers) :
    header ∈ sent.headers ∨ header ∈ referrer sent.url target := by
  have hdrop {names : List String} {headers : Headers} (hleft : header ∈ dropNames names headers) :
      header ∈ headers := List.mem_of_mem_filter hleft
  grind [Sent.redirected]

theorem endToEnd_redirected (endToEnd : EndToEnd sent.headers) (status : UInt16) (target : Url) :
    EndToEnd (sent.redirected status target).headers := by
  intro header hmem
  obtain hkept | hreferred := of_mem_redirected hmem
  · exact endToEnd header hkept
  · exact endToEnd_referrer sent.url target header hreferred

/-- What holds of the first request and is kept by redirects holds of all. -/
theorem Trail.forall_mem {motive : Sent → Prop} (trail : Trail peer first requests)
    (start : motive first)
    (step : ∀ sent status target, motive sent → motive (sent.redirected status target)) :
    ∀ sent ∈ requests, motive sent := by
  induction trail with
  | single => exact List.forall_mem_singleton.mpr start
  | follow trail _ _ ih =>
      exact List.forall_mem_cons.mpr ⟨step _ _ _ (ih _ List.mem_cons_self), ih⟩

theorem Trail.exists_later (trail : Trail peer first requests) :
    ∃ later, requests = later ++ [first] := by
  induction trail with
  | single => exact ⟨[], rfl⟩
  | follow trail _ _ ih =>
      obtain ⟨later, hlater⟩ := ih
      exact ⟨_ :: later, congrArg (_ :: ·) hlater⟩

theorem fetch_cases (peer : Peer) (request : Request) :
    (∃ failure, fetch peer request = ⟨.error failure, []⟩) ∨
      Completes peer (.ofRequest request) (maxRedirects + 1) (fetch peer request) := by
  by_cases hfit : Http.isToken request.method = true ∧
      isSendable (Sent.ofRequest request).url = true
  · exact .inr (completes_fetch hfit.1 hfit.2)
  · refine .inl (fetch_of_not_sendable ?_)
    rwa [not_and_or, Bool.not_eq_true, Bool.not_eq_true] at hfit

theorem endToEnd_of_sent (hmem : sent ∈ (fetch peer request).sent) : EndToEnd sent.headers := by
  obtain ⟨failure, hfetch⟩ | completes := fetch_cases peer request
  · rw [hfetch] at hmem
    cases hmem
  · exact completes.trail.forall_mem (motive := fun sent => EndToEnd sent.headers)
      (endToEnd_ofRequest request)
      (fun _ status target endToEnd => endToEnd_redirected endToEnd status target) sent hmem

theorem endToEnd_of_fetched {response : Response}
    (hresponse : (fetch peer request).outcome = .ok response) : EndToEnd response.headers := by
  obtain ⟨failure, hfetch⟩ | completes := fetch_cases peer request
  · rw [hfetch] at hresponse
    cases hresponse
  · obtain ⟨-, -, -, ⟨-, headers, -, -, rfl⟩, -⟩ := (completes.ok_iff response).mp hresponse
    exact Http.endToEnd_received headers

/-- How the headers of a request are handed on: by name, in whatever letter case, and only those
that do not belong to one hop. -/
structure HandsOn (request : Request) : Prop where
  values : ∀ name, valuesOf (headersFor request) name =
    writable request.headers name ++ hinted request name
  /-- On the wire there may be credentials of the URL, but in no header that the request has. -/
  wire : ∀ name, valuesOf (Sent.ofRequest request).headers name =
    if valuesOf (headersFor request) name = [] then valuesOf (authorization request.url) name
    else valuesOf (headersFor request) name
  /-- What can be sent is sent so at first, and redirects come later. -/
  first : ∀ peer, Http.isToken request.method = true →
    isSendable (Sent.ofRequest request).url = true →
      ∃ later, (fetch peer request).sent = later ++ [.ofRequest request]
  sent : ∀ peer, ∀ sent ∈ (fetch peer request).sent, EndToEnd sent.headers
  received : ∀ peer response, (fetch peer request).outcome = .ok response →
    EndToEnd response.headers

theorem handsOn (request : Request) : HandsOn request where
  values := valuesOf_headersFor request
  wire := valuesOf_ofRequest request
  first _ hmethod hurl := (completes_fetch hmethod hurl).trail.exists_later
  sent _ _ := endToEnd_of_sent
  received _ _ := endToEnd_of_fetched

end Client

end OfflineAgent
