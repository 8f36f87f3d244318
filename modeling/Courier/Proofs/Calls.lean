import Courier.Client
import Courier.Proofs.PathParams

/-!
# What a call does

A call is described, handed over once, and read. Here each of the three is given in closed form: the
description of a call whose options can be encoded, and the run of an exchange, which either leaves
the requests so far as they are or adds one to them.
-/

namespace Courier

/-- The options of a call are encoded as these values. -/
structure Options.EncodesTo (options : Options) (params body query : Json) : Prop where
  params_eq : options.params.encode = .ok params
  body_eq : options.body.encode = .ok body
  query_eq : options.query.encode = .ok query

namespace Client

variable {ε : Type}

/-! ## Descriptions -/

/-- The body that is sent for a value: none for `null`. -/
def sentBody : Json → Option Json
  | .null => none
  | v => some v

/-- The query that is sent for a value: none for `null` and for an object without members. -/
def sentQuery : Json → Option Json
  | .null | .object [] => none
  | v => some v

/-- A request before any layer is put on it. -/
def draft (method : Method) (url : String) (body query : Option Json) : Request :=
  { Request.bare method url with body := body, query := query }

theorem encodePart_of_ok {part : CallPart} {data : Datum} {v : Json} (h : data.encode = .ok v) :
    (encodePart part data : Except (Failure ε) (Option Json)) = .ok (sentBody v) := by
  cases v <;> simp [encodePart, h, sentBody]

theorem encodePart_of_error {part : CallPart} {data : Datum} {problem : Problem}
    (h : data.encode = .error problem) :
    (encodePart part data : Except (Failure ε) (Option Json))
      = .error (.encode part problem) := by
  simp [encodePart, h]

@[simp] theorem getD_sentBody (v : Json) : (sentBody v).getD .null = v := by
  cases v <;> rfl

theorem filter_sentBody (v : Json) :
    (sentBody v).filter (fun w => !isEmptyObject w) = sentQuery v := by
  cases v with
  | object members => cases members <;> rfl
  | null | bool | number | string | array => rfl

theorem describe_of_encodesTo {endpoint : Endpoint} {options : Options} {p b q : Json}
    (h : options.EncodesTo p b q) :
    (describe endpoint options : Except (Failure ε) Request)
      = (fillPath endpoint.path p).map fun url =>
        (endpoint.layer.merge options.layer).apply
          (draft endpoint.method url (sentBody b) (sentQuery q)) := by
  rw [describe, encodePart_of_ok h.params_eq, encodePart_of_ok h.body_eq,
    encodePart_of_ok h.query_eq]
  simp only [bind, Except.bind, pure, Except.pure, getD_sentBody, filter_sentBody]
  cases (fillPath endpoint.path p : Except (Failure ε) String) <;> rfl

theorem describeRaw_eq (raw : RawCall) :
    (describeRaw raw : Except (Failure ε) Request)
      = (fillPath raw.url (raw.params.getD .null)).map fun url =>
        raw.layer.apply (draft raw.method url raw.body raw.query) := by
  rw [describeRaw]
  cases (fillPath raw.url (raw.params.getD .null) : Except (Failure ε) String) <;> rfl

/-! ## Runs -/

/-- Hands over a described request once and reads the response. -/
def exchange {α : Type} (transport : Transport ε) (description : Except (Failure ε) Request)
    (read : Response → Except (Failure ε) α) : Call ε α := do
  let request ← offline description
  let response ← dispatch transport request
  offline (read response)

/-- What a transport's answer comes to. -/
def outcome {α : Type} (read : Response → Except (Failure ε) α) :
    Except ε Response → Except (Failure ε) α
  | .ok response => read response
  | .error error => .error (.transport error)

/-- A response read as the reply of an endpoint. -/
def readReply (shape : Shape) (mode : Mode) (response : Response) : Except (Failure ε) Reply :=
  match response.decode shape with
  | .ok envelope => .ok (mode.shape envelope)
  | .error error => .error (.decode response.status error)

/-- A call that cannot be described hands over nothing. -/
theorem runCall_exchange_error {α : Type} (transport : Transport ε) (failure : Failure ε)
    (read : Response → Except (Failure ε) α) (before : List Request) :
    runCall (exchange transport (.error failure) read) before = (.error failure, before) := rfl

/-- A call that can be described hands over its description, once, whatever the answer is. -/
theorem runCall_exchange_ok {α : Type} (transport : Transport ε) (request : Request)
    (read : Response → Except (Failure ε) α) (before : List Request) :
    runCall (exchange transport (.ok request) read) before
      = (outcome read (transport before request), before ++ [request]) := by
  -- the request is in the log before the answer is looked at
  have hrun : runCall (exchange transport (.ok request) read) before
      = runCall (do
          let response ← (match transport before request with
            | .ok response => pure response
            | .error error => throw (.transport error) : Call ε Response)
          offline (read response)) (before ++ [request]) := rfl
  rw [hrun]
  cases transport before request <;> rfl

theorem request_eq_exchange (transport : Transport ε) (endpoint : Endpoint) (options : Options)
    (mode : Mode) :
    request transport endpoint options mode
      = exchange transport (describe endpoint options) (readReply endpoint.response mode) := by
  refine bind_congr fun description => bind_congr fun response => ?_
  unfold readReply
  cases response.decode endpoint.response <;> rfl

theorem rawRequest_eq_exchange (transport : Transport ε) (raw : RawCall) :
    rawRequest transport raw
      = exchange transport (describeRaw raw) (fun response => .ok response.decodeLenient) := rfl

end Client

end Courier
