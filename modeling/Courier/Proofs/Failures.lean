import Courier.Http.SendError
import Courier.Proofs.Session

/-!
# Failures pass through

A call fails in three ways: it cannot be described, the transport fails, or the response cannot be
read. The failure of a transport is its error and no more: wording, response and error body are
those of the error, and the error can be taken out again. All other failures are the client's own
and carry no response.
-/

namespace Courier

/-! ## What is seen of a failure -/

namespace Failure

variable {ε : Type}

/-- The failures that the client raises itself. -/
def IsOwn : Failure ε → Prop
  | transport _ => False
  | encode _ _ | pathParams _ | decode _ _ => True

/-- The failures from before anything is handed over: an option, or a path parameter. -/
def IsEarly : Failure ε → Prop
  | encode _ _ | pathParams _ => True
  | transport _ | decode _ _ => False

variable [TransportError ε]

/-- All that is seen of a failure is seen of an error of the transport. Its error body is decoded
from the response that the error carries, under the status and the headers of that response. -/
structure IsThatOf (errorShape : Shape) (error : ε) (failure : Failure ε) : Prop where
  eq_transport : failure = .transport error
  message : failure.message = TransportError.message error
  taken : failure.intoTransport = .ok error
  response : failure.response = TransportError.response error
  noBody : failure.errorBody errorShape = none ↔ TransportError.response error = none
  body : ∀ carried, TransportError.response error = some carried →
    failure.errorBody errorShape = some ((errorShape.decodeBody carried.body).map fun data =>
      ⟨carried.status, carried.headers, data⟩)

/-- Nothing of a transport is seen of a failure. -/
structure IsBare (errorShape : Shape) (failure : Failure ε) : Prop where
  response : failure.response = none
  body : failure.errorBody errorShape = none
  kept : failure.intoTransport = .error failure

theorem isThatOf_transport (errorShape : Shape) (error : ε) :
    IsThatOf errorShape error (.transport error) where
  eq_transport := rfl
  message := rfl
  taken := rfl
  response := rfl
  noBody := Option.map_eq_none_iff
  body carried h := by
    have hcarried : (Failure.transport error).response = some carried := h
    rw [errorBody, hcarried]
    rfl

theorem IsOwn.isBare {failure : Failure ε} (h : failure.IsOwn) (errorShape : Shape) :
    failure.IsBare errorShape := by
  cases failure with
  | transport error => exact h.elim
  | encode | pathParams | decode => exact ⟨rfl, rfl, rfl⟩

end Failure

/-- Of the errors of the HTTP transport, only a refused status carries a response. -/
theorem Http.SendError.response_eq_some_iff {error : SendError} {carried : Response} :
    TransportError.response error = some carried ↔ error = .status carried := by
  cases error with
  | status response =>
    constructor
    · intro h
      exact congrArg SendError.status (Option.some.inj h)
    · intro h
      exact congrArg some (SendError.status.inj h)
  | method | header | request => simp [TransportError.response, SendError.response]

/-! ## How a call fails -/

namespace Client

variable {ε α β : Type}

/-- How a call fails after the requests `before`: its description has failed, the transport has, or
the response cannot be read. In the last two cases one request was handed over. -/
inductive FailsBy (transport : Transport ε) (description : Except (Failure ε) Request)
    (reading : Response → Except ReadError β) (before : List Request) :
    Failure ε → List Request → Prop
  | description {failure : Failure ε} (failed : description = .error failure) :
      FailsBy transport description reading before failure before
  | transport {r : Request} {error : ε} (described : description = .ok r)
      (failed : transport before r = .error error) :
      FailsBy transport description reading before (.transport error) (before ++ [r])
  | reply {r : Request} {response : Response} {error : ReadError} (described : description = .ok r)
      (answered : transport before r = .ok response) (failed : reading response = .error error) :
      FailsBy transport description reading before (.decode response.status error) (before ++ [r])

/-- A response that cannot be read gives a failure with its status. -/
def FailsAs (reading : Response → Except ReadError β)
    (read : Response → Except (Failure ε) α) : Prop :=
  ∀ response failure, read response = .error failure →
    ∃ error, reading response = .error error ∧ failure = .decode response.status error

theorem failsBy_of_runCall_exchange {transport : Transport ε}
    {description : Except (Failure ε) Request} {reading : Response → Except ReadError β}
    {read : Response → Except (Failure ε) α} (hread : FailsAs reading read)
    {before after : List Request} {failure : Failure ε}
    (h : runCall (exchange transport description read) before = (.error failure, after)) :
    FailsBy transport description reading before failure after := by
  cases hdescription : description with
  | error cause =>
    rw [hdescription, runCall_exchange_error] at h
    cases h
    exact .description rfl
  | ok r =>
    rw [hdescription, runCall_exchange_ok] at h
    obtain ⟨houtcome, rfl⟩ := Prod.mk.inj h
    cases hanswer : transport before r with
    | error error =>
      rw [hanswer] at houtcome
      cases houtcome
      exact .transport rfl hanswer
    | ok response =>
      rw [hanswer] at houtcome
      obtain ⟨error, hfailed, rfl⟩ := hread response failure houtcome
      exact .reply rfl hanswer hfailed

theorem failsAs_readReply (shape : Shape) (mode : Mode) :
    FailsAs (Response.decode shape)
      (readReply shape mode : Response → Except (Failure ε) Reply) := by
  intro response failure h
  unfold readReply at h
  cases hdecode : response.decode shape with
  | ok envelope =>
    rw [hdecode] at h
    cases h
  | error error =>
    rw [hdecode] at h
    cases h
    exact ⟨error, rfl, rfl⟩

/-! ## Descriptions fail by themselves -/

theorem FirstFailure.isEarly {options : Options} {failure : Failure ε}
    (h : FirstFailure options failure) : failure.IsEarly := by
  cases h with
  | params | shape | body | query => exact trivial

theorem isEarly_of_describe {endpoint : Endpoint} {options : Options} {failure : Failure ε}
    (h : describe endpoint options = .error failure) : failure.IsEarly := by
  rcases sendable_or_firstFailure ε options with ⟨p, b, q, hsend⟩ | ⟨first, hfirst⟩
  · have hcall : Sendable (EndpointCall.mk endpoint options .bodyOnly).options p b q := hsend
    obtain ⟨r, hr, -⟩ := describe_of_sendable ε hcall
    rw [hr] at h
    cases h
  · rw [describe_of_firstFailure endpoint hfirst] at h
    cases h
    exact hfirst.isEarly

theorem isEarly_of_describeRaw {raw : RawCall} {failure : Failure ε}
    (h : describeRaw raw = .error failure) : failure.IsEarly := by
  rw [describeRaw_eq, fillPath] at h
  cases hparams : PathParams.ofJson (raw.params.getD .null) with
  | ok values =>
    rw [hparams] at h
    cases h
  | error e =>
    rw [hparams] at h
    cases h
    exact trivial

/-! ## Calls -/

/-- What is promised of the failures of a call: the transport's error comes back after the one
request that it was made for, and comes from nowhere else; a response that cannot be read is told
by its status. -/
structure PassesFailures [TransportError ε] (errorShape : Shape) (transport : Transport ε)
    (description : Except (Failure ε) Request) (reading : Response → Except ReadError β)
    (call : Call ε α) : Prop where
  returned : ∀ before r error, description = .ok r → transport before r = .error error →
    ∃ failure, runCall call before = (.error failure, before ++ [r]) ∧
      failure.IsThatOf errorShape error
  genuine : ∀ before error after, runCall call before = (.error (.transport error), after) →
    ∃ r, description = .ok r ∧ transport before r = .error error ∧ after = before ++ [r]
  status : ∀ before status error after,
    runCall call before = (.error (.decode status error), after) →
      ∃ r response, description = .ok r ∧ transport before r = .ok response ∧
        reading response = .error error ∧ status = response.status ∧ after = before ++ [r]

theorem passesFailures_exchange [TransportError ε] (errorShape : Shape)
    {transport : Transport ε} {description : Except (Failure ε) Request}
    {reading : Response → Except ReadError β} {read : Response → Except (Failure ε) α}
    (hearly : ∀ failure, description = .error failure → failure.IsEarly)
    (hread : FailsAs reading read) :
    PassesFailures errorShape transport description reading
      (exchange transport description read) where
  returned before r error hdescribed hfailed := by
    refine ⟨.transport error, ?_, Failure.isThatOf_transport errorShape error⟩
    rw [hdescribed, runCall_exchange_ok, hfailed]
    rfl
  genuine before error after h := by
    cases failsBy_of_runCall_exchange hread h with
    | description failed => exact (hearly _ failed).elim
    | transport described failed => exact ⟨_, described, failed, rfl⟩
  status before status error after h := by
    cases failsBy_of_runCall_exchange hread h with
    | description failed => exact (hearly _ failed).elim
    | reply described answered failed =>
      exact ⟨_, _, described, answered, failed, rfl, rfl⟩

/-- **Failures pass through**: on every transport, calls of endpoints and raw calls return the
error of the transport as it is, after the one request that has failed; the failures that a client
raises itself carry no response. Of the errors of the HTTP transport, only a refused status carries
one. -/
theorem failures_pass_through [TransportError ε] (transport : Transport ε)
    (errorShape : Shape) :
    (∀ endpoint options mode,
      PassesFailures errorShape transport (describe endpoint options)
        (Response.decode endpoint.response) (request transport endpoint options mode)) ∧
    (∀ raw : RawCall,
      PassesFailures errorShape transport (describeRaw raw)
        (fun response => .ok response.decodeLenient) (rawRequest transport raw)) ∧
    (∀ failure : Failure ε, failure.IsOwn → failure.IsBare errorShape) ∧
    (∀ error carried, TransportError.response error = some carried ↔
      error = Http.SendError.status carried) := by
  refine ⟨?_, ?_, ?_, ?_⟩
  · intro endpoint options mode
    rw [request_eq_exchange]
    exact passesFailures_exchange errorShape (fun _ => isEarly_of_describe)
      (failsAs_readReply endpoint.response mode)
  · intro raw
    rw [rawRequest_eq_exchange]
    refine passesFailures_exchange errorShape (fun _ => isEarly_of_describeRaw) ?_
    -- a raw call reads any response
    intro response failure h
    cases h
  · intro failure hown
    exact hown.isBare errorShape
  · intro error carried
    exact Http.SendError.response_eq_some_iff

/-- A refused status with a message in its body that is no JSON. -/
theorem unknown_user_passes_through :
    let carried : Response := ⟨404, [("x-id", "7")], "no such user"⟩
    let transport : Transport Http.SendError := fun _ _ => .error (.status carried)
    let endpoint : Endpoint := ⟨.get, "/users/:id", .empty, .unit⟩
    let options : Options := .ofParts .unit (.json (.object [("id", .string "a b")])) (.map [])
    ∃ r, (describe endpoint options : Except (Failure Http.SendError) Request) = .ok r ∧
      transport [] r = .error (.status carried) ∧
      ∃ failure,
        runCall (request transport endpoint options .full) [] = (.error failure, [r]) ∧
        failure.response = some carried ∧
        failure.errorBody .text = some (.ok ⟨404, [("x-id", "7")], .text "no such user"⟩) := by
  intro carried transport endpoint options
  obtain ⟨hendpoint, -⟩ := failures_pass_through transport .text
  obtain ⟨r, hr⟩ : ∃ r,
    (describe endpoint options : Except (Failure Http.SendError) Request) = .ok r := ⟨_, rfl⟩
  obtain ⟨failure, hrun, hfailure⟩ :=
    (hendpoint endpoint options .full).returned [] r _ hr rfl
  have htext : Shape.text.decodeBody "no such user" = .ok (.text "no such user") := rfl
  refine ⟨r, hr, rfl, failure, hrun, hfailure.response, ?_⟩
  rw [hfailure.body carried rfl, htext]
  rfl

end Client

end Courier
