import Courier.Proofs.Failures
import Courier.Proofs.Http.Replies
import Courier.Proofs.Http.Sending
import Courier.Proofs.UntypedBody

/-!
# Tests on status codes

The test of a request has its say last, when the response is there. Two requests that differ in
their tests send the same message, fail alike where there is no response, and else end with the same
response, each as its own test has it. So a raw call whose status is accepted and the error body of
one whose status is refused show the same envelope.
-/

namespace Courier

/-- The request with another test on status codes, or with none. -/
def Request.withTest (test : Option StatusTest) (request : Request) : Request :=
  { request with accepts := test }

/-- The raw call with another test on status codes, or with none. -/
def RawCall.withTest (test : Option StatusTest) (raw : RawCall) : RawCall :=
  { raw with layer := { raw.layer with accepts := test } }

/-- A raw call with another test is described as it was, but for the test. -/
theorem Client.describeRaw_withTest {ε : Type} (test : Option StatusTest) (raw : RawCall) :
    (describeRaw (raw.withTest test) : Except (Failure ε) Request)
      = (describeRaw raw).map (Request.withTest test) := by
  rw [describeRaw_eq, describeRaw_eq]
  have hfill : (fillPath (raw.withTest test).url ((raw.withTest test).params.getD .null) :
      Except (Failure ε) String) = fillPath raw.url (raw.params.getD .null) := rfl
  rw [hfill]
  cases (fillPath raw.url (raw.params.getD .null) : Except (Failure ε) String) with
  | error failure => rfl
  | ok url =>
    have happly : (raw.withTest test).layer.apply (draft raw.method url raw.body raw.query)
        = (raw.layer.apply (draft raw.method url raw.body raw.query)).withTest test := by
      simp only [Layer.apply, Request.withTest, RawCall.withTest, draft, Request.bare,
        Option.or_none]
    exact congrArg Except.ok happly

namespace Http

/-! ## What a test decides -/

/-- The status codes that count as success: those that the test accepts, and without a test those
from 200 to 299. -/
def Accepts : Option StatusTest → UInt16 → Prop
  | some test, status => test status = true
  | none, status => 200 ≤ status.toNat ∧ status.toNat ≤ 299

theorem isSuccess_iff {status : UInt16} :
    isSuccess status = true ↔ 200 ≤ status.toNat ∧ status.toNat ≤ 299 := by
  rw [isSuccess, Bool.and_eq_true, decide_eq_true_iff, decide_eq_true_iff, UInt16.le_iff_toNat_le,
    UInt16.lt_iff_toNat_lt]
  exact and_congr_right fun _ => Nat.lt_succ_iff

theorem getD_isSuccess_iff {test : Option StatusTest} {status : UInt16} :
    test.getD isSuccess status = true ↔ Accepts test status := by
  cases test with
  | none => exact isSuccess_iff
  | some test => exact Iff.rfl

/-- The outcome that a response comes to under a test. -/
inductive Judged (test : Option StatusTest) (response : Response) :
    Except SendError Response → Prop
  | accepted (h : Accepts test response.status) : Judged test response (.ok response)
  | refused (h : ¬ Accepts test response.status) :
      Judged test response (.error (.status response))

theorem judged_judge (test : Option StatusTest) (response : Response) :
    Judged test response (judge test response) := by
  by_cases h : test.getD isSuccess response.status = true
  · rw [judge, if_pos h]
    exact .accepted (getD_isSuccess_iff.mp h)
  · rw [judge, if_neg h]
    exact .refused fun haccepts => h (getD_isSuccess_iff.mpr haccepts)

theorem Judged.eq_ok {test : Option StatusTest} {response : Response}
    {result : Except SendError Response} (h : Judged test response result)
    (haccepts : Accepts test response.status) : result = .ok response := by
  cases h with
  | accepted => rfl
  | refused hrefused => exact absurd haccepts hrefused

theorem Judged.eq_error {test : Option StatusTest} {response : Response}
    {result : Except SendError Response} (h : Judged test response result)
    (hrefused : ¬ Accepts test response.status) : result = .error (.status response) := by
  cases h with
  | accepted haccepts => exact absurd haccepts hrefused
  | refused => rfl

/-! ## The test comes last -/

/-- An exchange that takes any response: what leaves, and what comes back for it. -/
def received (settings : Settings) (network : Network) (request : Request) :
    Option WireRequest × Except SendError Response :=
  exchange settings network (request.withTest (some fun _ => true))

/-- An event that brings a response brings it under any test, which then judges it. -/
theorem outcome_eq_judge {patience : Option Duration} (event : NetworkEvent patience) (url : Url)
    (test : Option StatusTest) :
    event.outcome url test = (event.outcome url (some fun _ => true) >>= judge test) := by
  cases event <;> rfl

/-- An exchange is one that takes any response, with the response judged behind it. -/
theorem exchange_withTest (settings : Settings) (network : Network) (request : Request)
    (test : Option StatusTest) :
    exchange settings network (request.withTest test)
      = ((received settings network request).1,
        (received settings network request).2 >>= judge test) := by
  unfold received exchange
  -- neither the checks nor the message look at the test
  have hcheck : ∀ other, check settings (request.withTest other) = check settings request :=
    fun _ => rfl
  rw [hcheck, hcheck]
  cases check settings request with
  | error e => rfl
  | ok target => exact Prod.ext rfl (outcome_eq_judge _ _ _)

/-- What was received, if a reply came. -/
theorem received_of_answered {settings : Settings} {network : Network} {request : Request}
    {wire : WireRequest} (hsent : (exchange settings network request).1 = some wire)
    {reply : WireReply} (hreply : network wire (patience settings request) = .answered reply) :
    received settings network request = (some wire, .ok reply.toResponse) := by
  obtain ⟨t, hcheck, rfl, -⟩ := sends_iff.mp hsent
  have hcheck' : check settings (request.withTest (some fun _ => true)) = .ok t := hcheck
  have hreply' : network (message settings (request.withTest (some fun _ => true)) t)
      (patience settings (request.withTest (some fun _ => true))) = .answered reply := hreply
  simp only [received, exchange, hcheck', hreply']
  rfl

/-- An exchange that was answered ends as its test has it. -/
theorem judged_of_answered {settings : Settings} {network : Network} {request : Request}
    {wire : WireRequest} (hsent : (exchange settings network request).1 = some wire)
    {reply : WireReply} (hreply : network wire (patience settings request) = .answered reply)
    (test : Option StatusTest) :
    Judged test reply.toResponse (exchange settings network (request.withTest test)).2 := by
  rw [exchange_withTest, received_of_answered hsent hreply]
  exact judged_judge test reply.toResponse

/-- A failure that is no refused status is that of the exchange which takes any response. -/
theorem exchange_eq_error_iff {settings : Settings} {network : Network} {request : Request}
    {test : Option StatusTest} {e : SendError} (hstatus : ∀ response, e ≠ .status response) :
    (exchange settings network (request.withTest test)).2 = .error e ↔
      (received settings network request).2 = .error e := by
  rw [exchange_withTest]
  cases (received settings network request).2 with
  | error cause => exact Iff.rfl
  | ok response =>
    have hjudged := judged_judge test response
    constructor
    · intro h
      have hjudge : judge test response = .error e := h
      rw [hjudge] at hjudged
      cases hjudged with
      | refused => exact absurd rfl (hstatus response)
    · intro h
      cases h

/-! ## Two tests -/

/-- How two exchanges compare that differ in their tests only: they send the same, they judge the same
response, which shows what the reply was, and they fail alike where there is none. -/
structure DifferInVerdict (settings : Settings) (network : Network) (request : Request)
    (a b : Option StatusTest) : Prop where
  sent : (exchange settings network (request.withTest a)).1
    = (exchange settings network (request.withTest b)).1
  judged : ∀ wire reply, (exchange settings network (request.withTest a)).1 = some wire →
    network wire (patience settings request) = .answered reply →
      Shows reply reply.toResponse ∧
      Judged a reply.toResponse (exchange settings network (request.withTest a)).2 ∧
      Judged b reply.toResponse (exchange settings network (request.withTest b)).2
  failed : ∀ e, (∀ response, e ≠ .status response) →
    ((exchange settings network (request.withTest a)).2 = .error e ↔
      (exchange settings network (request.withTest b)).2 = .error e)

theorem differInVerdict (settings : Settings) (network : Network) (request : Request)
    (a b : Option StatusTest) : DifferInVerdict settings network request a b where
  sent := by rw [exchange_withTest, exchange_withTest]
  judged _ reply hsent hreply :=
    ⟨shows_toResponse reply, judged_of_answered hsent hreply a, judged_of_answered hsent hreply b⟩
  failed e hstatus := by
    rw [exchange_eq_error_iff hstatus, exchange_eq_error_iff hstatus]

/-- A raw call over a network, if its request is answered. -/
theorem runCall_rawRequest_withTest {settings : Settings} {network : Network} {raw : RawCall}
    {request : Request} (test : Option StatusTest) (before : List Request)
    (hdescribed : (Client.describeRaw raw : Except (Failure SendError) Request) = .ok request) :
    Client.runCall (Client.rawRequest (transport settings network) (raw.withTest test)) before
      = (Client.outcome (fun response => .ok response.decodeLenient)
          (exchange settings network (request.withTest test)).2,
        before ++ [request.withTest test]) := by
  rw [Client.rawRequest_eq_exchange, Client.describeRaw_withTest, hdescribed]
  exact Client.runCall_exchange_ok _ _ _ _

/-- **A test only judges**: under two tests a request sends the same message, and a reply to it is
the same response, which counts as success under a test exactly if this accepts its status, or as a
failure with the response. So of two raw calls with the same reply, the envelope of one whose status
is accepted is the error body of one whose status is refused, where error bodies are any JSON. -/
theorem status_test_only_judges (settings : Settings) (network : Network)
    (a b : Option StatusTest) :
    (∀ request, DifferInVerdict settings network request a b) ∧
    ∀ raw request wire reply before,
      (Client.describeRaw raw : Except (Failure SendError) Request) = .ok request →
      (exchange settings network request).1 = some wire →
      network wire (patience settings request) = .answered reply →
      Accepts a reply.status → ¬ Accepts b reply.status →
      ∃ envelope failure,
        Client.runCall (Client.rawRequest (transport settings network) (raw.withTest a)) before
          = (.ok envelope, before ++ [request.withTest a]) ∧
        Client.runCall (Client.rawRequest (transport settings network) (raw.withTest b)) before
          = (.error failure, before ++ [request.withTest b]) ∧
        failure.errorBody .json = some (.ok (envelope.map .json)) := by
  refine ⟨fun request => differInVerdict settings network request a b, ?_⟩
  intro raw request wire reply before hdescribed hsent hreply haccepted hrefused
  have hok := (judged_of_answered hsent hreply a).eq_ok haccepted
  have herror := (judged_of_answered hsent hreply b).eq_error hrefused
  refine ⟨reply.toResponse.decodeLenient, .transport (.status reply.toResponse), ?_, ?_, ?_⟩
  · rw [runCall_rawRequest_withTest a before hdescribed, hok]
    rfl
  · rw [runCall_rawRequest_withTest b before hdescribed, herror]
    rfl
  · rw [← Response.decode_json]
    exact (Failure.isThatOf_transport .json (SendError.status reply.toResponse)).body _ rfl

/-- A call for a page. -/
def pageCall : RawCall :=
  ⟨.get, "http://pages.test/7", none, none, none, .empty⟩

/-- The request that the call for a page stands for. -/
def pageRequest : Request :=
  .bare .get "http://pages.test/7"

theorem describeRaw_pageCall :
    (Client.describeRaw pageCall : Except (Failure SendError) Request) = .ok pageRequest := rfl

theorem sends_pageRequest {network : Network} (h : ∀ wire time, (network wire time).leaves = true) :
    ∃ wire, (exchange .default network pageRequest).1 = some wire := by
  obtain ⟨u, hparse, hhost, hsend, htarget⟩ :
      ∃ u, Url.parse (resolvedUrl .default pageRequest) = .ok u ∧ u.hasHost = true ∧
        canSend u = true ∧ isTarget (aimed u (queryOf pageRequest)) = true :=
    ⟨_, rfl, rfl, rfl, rfl⟩
  exact sends_of_parse rfl rfl h hparse hhost hsend htarget

/-- A page that is missing, to a caller who takes any status and to one who has no test. -/
theorem missing_page_judged :
    let reply : WireReply := ⟨404, [("X-Id", [55])], Utf8.encode "no such page"⟩
    let network : Network := fun _ _ => .answered reply
    Accepts (some fun _ => true) 404 ∧ ¬ Accepts none 404 ∧
      ∃ envelope failure,
        Client.runCall (Client.rawRequest (transport .default network)
          (pageCall.withTest (some fun _ => true))) []
          = (.ok envelope, [pageRequest.withTest (some fun _ => true)]) ∧
        Client.runCall (Client.rawRequest (transport .default network)
          (pageCall.withTest none)) []
          = (.error failure, [pageRequest.withTest none]) ∧
        failure.errorBody .json = some (.ok (envelope.map .json)) := by
  intro reply network
  have haccepted : Accepts (some fun _ => true) 404 := rfl
  have hrefused : ¬ Accepts none 404 := by
    unfold Accepts
    decide
  have htaken : ∀ wire time, (network wire time).leaves = true := fun _ _ => rfl
  obtain ⟨wire, hsent⟩ := sends_pageRequest htaken
  obtain ⟨-, hraw⟩ := status_test_only_judges .default network (some fun _ => true) none
  have hpage := hraw pageCall pageRequest wire reply [] describeRaw_pageCall hsent rfl
  exact ⟨haccepted, hrefused, hpage haccepted hrefused⟩

end Http

end Courier
