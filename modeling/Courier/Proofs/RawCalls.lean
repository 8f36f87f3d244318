import Courier.Proofs.Calls
import Courier.Proofs.UntypedBody

/-!
# Calls with and without an endpoint

A call of an endpoint says the same as a raw call with the endpoint's method and path, the values
that its options are encoded as, and both layers in one. The two are described apart and decoded
apart; here they hand over the same, fail alike, and end with the same envelope where the endpoint
takes any reply.
-/

namespace Courier.Client

variable {ε : Type}

/-- The raw call that says what a call of an endpoint says. A body of `null` is left out, and so is
a query of `null` or without members. -/
def rawCallOf (endpoint : Endpoint) (layer : Layer) (p b q : Json) : RawCall where
  method := endpoint.method
  url := endpoint.path
  params := some p
  query := sentQuery q
  body := sentBody b
  layer := endpoint.layer.merge layer

/-- How a call of an endpoint and a raw call end together, both made after the same requests: they
hand over nothing and fail by the same path parameters, or they hand over the same request. Then the
transport's failure is that of both; and its response is that of the raw call, and of the other
where this takes any reply and wants all of it. -/
inductive EndAlike (transport : Transport ε) (shape : Shape) (mode : Mode)
    (before : List Request) :
    Except (Failure ε) Reply × List Request →
      Except (Failure ε) (Envelope Json) × List Request → Prop
  | refused (e : ParamsError) :
      EndAlike transport shape mode before
        (.error (.pathParams e), before) (.error (.pathParams e), before)
  | failed {r : Request} {error : ε} (answer : transport before r = .error error) :
      EndAlike transport shape mode before
        (.error (.transport error), before ++ [r]) (.error (.transport error), before ++ [r])
  | answered {r : Request} {response : Response} {result : Except (Failure ε) Reply}
      (answer : transport before r = .ok response)
      (untyped : shape = .json → mode = .full →
        result = .ok (.full (response.decodeLenient.map .json))) :
      EndAlike transport shape mode before
        (result, before ++ [r]) (.ok response.decodeLenient, before ++ [r])

theorem describeRaw_rawCallOf {endpoint : Endpoint} {options : Options} {p b q : Json}
    (h : options.EncodesTo p b q) :
    (describeRaw (rawCallOf endpoint options.layer p b q) : Except (Failure ε) Request)
      = describe endpoint options := by
  rw [describeRaw_eq, describe_of_encodesTo h]
  rfl

/-- A description fails by its path parameters or not at all, once the options are encoded. -/
theorem describe_cases (ε : Type) {endpoint : Endpoint} {options : Options} {p b q : Json}
    (h : options.EncodesTo p b q) :
    (∃ e, (describe endpoint options : Except (Failure ε) Request) = .error (.pathParams e)) ∨
      ∃ r, (describe endpoint options : Except (Failure ε) Request) = .ok r := by
  rw [describe_of_encodesTo h, fillPath]
  cases PathParams.ofJson p with
  | error e => exact .inl ⟨e, rfl⟩
  | ok values => exact .inr ⟨_, rfl⟩

theorem readReply_json_full (response : Response) :
    (readReply .json .full response : Except (Failure ε) Reply)
      = .ok (.full (response.decodeLenient.map .json)) := by
  unfold readReply
  rw [Response.decode_json]
  rfl

/-- **One dispatch path**: a call whose options are encoded as `p`, `b` and `q` and the raw call
with these values end alike, on every transport and after any requests. -/
theorem request_endAlike_rawRequest (transport : Transport ε) (endpoint : Endpoint)
    (options : Options) (mode : Mode) (before : List Request) {p b q : Json}
    (h : options.EncodesTo p b q) :
    EndAlike transport endpoint.response mode before
      (runCall (request transport endpoint options mode) before)
      (runCall (rawRequest transport (rawCallOf endpoint options.layer p b q)) before) := by
  rw [request_eq_exchange, rawRequest_eq_exchange, describeRaw_rawCallOf h]
  rcases describe_cases ε h with ⟨e, he⟩ | ⟨r, hr⟩
  · rw [he, runCall_exchange_error, runCall_exchange_error]
    exact .refused e
  · rw [hr, runCall_exchange_ok, runCall_exchange_ok]
    cases hanswer : transport before r with
    | error error => exact .failed hanswer
    | ok response =>
      refine .answered hanswer ?_
      intro hshape hmode
      rw [hshape, hmode]
      exact readReply_json_full response

/-- An empty query and a body of `null` are left out by both, and a reply that is no JSON is a
string to both. -/
theorem putItem_endAlike :
    let transport : Transport Unit := fun _ _ => .ok ⟨200, [("x-id", "7")], "[1"⟩
    let endpoint : Endpoint :=
      ⟨.put, "/items/:id", Layer.empty.withTimeout (.ofMilliseconds 30000), .json⟩
    let id : Json := .object [("id", .string "a b")]
    let options : Options := ⟨.absent, .json id, .map [], Layer.empty.header "x-trace" "1"⟩
    options.EncodesTo id .null (.object []) ∧
      EndAlike transport .json .full []
        (runCall (request transport endpoint options .full) [])
        (runCall (rawRequest transport
          (rawCallOf endpoint options.layer id .null (.object []))) []) := by
  intro transport endpoint id options
  have h : options.EncodesTo id .null (.object []) := ⟨rfl, rfl, rfl⟩
  exact ⟨h, request_endAlike_rawRequest transport endpoint options .full [] h⟩

end Courier.Client
