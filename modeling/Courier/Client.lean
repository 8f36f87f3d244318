import Courier.Failure
import Courier.Query
import Courier.Template

/-!
# Calls

A call is described as a request, handed to the transport once, and its reply is decoded. A
description that fails hands nothing over. Transports may remember what they were handed: a call is
a step on the list of all requests so far.
-/

namespace Courier

/-- A transport answers a request, given the requests that it was handed before. -/
abbrev Transport (ε : Type) := List Request → Request → Except ε Response

/-- A computation that may hand requests to a transport. -/
abbrev Call (ε α : Type) := ExceptT (Failure ε) (StateM (List Request)) α

/-- What is declared of an endpoint: its method, path template and layer, and the shape of its
replies. -/
structure Endpoint where
  method : Method
  path : String
  layer : Layer
  response : Shape

/-- What the caller gives. -/
structure Options where
  body : Datum
  params : Datum
  query : Datum
  layer : Layer

namespace Options

/-- Options with nothing in their layer. -/
def ofParts (body params query : Datum) : Options :=
  ⟨body, params, query, .empty⟩

end Options

/-- What the caller wants back: the data alone, or all of the response. -/
inductive Mode where
  | bodyOnly
  | full
deriving DecidableEq, Repr

/-- What comes back. -/
inductive Reply where
  | body (data : Datum)
  | full (envelope : Envelope Datum)

namespace Mode

/-- Shapes a decoded response. -/
def shape (mode : Mode) (envelope : Envelope Datum) : Reply :=
  match mode with
  | bodyOnly => .body envelope.data
  | full => .full envelope

end Mode

/-- A call without a declared endpoint. -/
structure RawCall where
  method : Method
  url : String
  params : Option Json
  query : Option Json
  body : Option Json
  layer : Layer

namespace Client

variable {ε : Type}

/-- Encodes a part of a call; `null` means that it is not sent. -/
def encodePart (part : CallPart) (data : Datum) : Except (Failure ε) (Option Json) :=
  match data.encode with
  | .error problem => .error (.encode part problem)
  | .ok .null => .ok none
  | .ok value => .ok (some value)

/-- Whether a value is an object without members. -/
def isEmptyObject : Json → Bool
  | .object [] => true
  | _ => false

/-- A template filled with the path parameters that a value holds. -/
def fillPath (path : String) (params : Json) : Except (Failure ε) String :=
  match PathParams.ofJson params with
  | .error error => .error (.pathParams error)
  | .ok values => .ok (Template.fill path values)

/-- Describes a call: parameters into the path, then body and query, then the endpoint's layer and
the caller's on top. A query without members is not sent. -/
def describe (endpoint : Endpoint) (options : Options) : Except (Failure ε) Request := do
  let params ← encodePart .params options.params
  let url ← fillPath endpoint.path (params.getD .null)
  let body ← encodePart .body options.body
  let query ← encodePart .query options.query
  let request : Request :=
    { Request.bare endpoint.method url with
      body := body
      query := query.filter fun v => !isEmptyObject v }
  pure ((endpoint.layer.merge options.layer).apply request)

/-- Describes a call without a declared endpoint. What is given is sent, also `null`. -/
def describeRaw (raw : RawCall) : Except (Failure ε) Request := do
  let url ← fillPath raw.url (raw.params.getD .null)
  let request : Request :=
    { Request.bare raw.method url with
      body := raw.body
      query := raw.query }
  pure (raw.layer.apply request)

/-- A step of a call that hands over nothing. -/
def offline {α : Type} (outcome : Except (Failure ε) α) : Call ε α :=
  ExceptT.mk (pure outcome)

/-- Hands a request to the transport. -/
def dispatch (transport : Transport ε) (request : Request) : Call ε Response := do
  let before ← getThe (List Request)
  set (before ++ [request])
  match transport before request with
  | .ok response => pure response
  | .error error => throw (.transport error)

/-- Calls an endpoint and decodes the reply. -/
def request (transport : Transport ε) (endpoint : Endpoint) (options : Options) (mode : Mode) :
    Call ε Reply := do
  let request ← offline (describe endpoint options)
  let response ← dispatch transport request
  match response.decode endpoint.response with
  | .ok envelope => pure (mode.shape envelope)
  | .error error => throw (.decode response.status error)

/-- Makes a call without a declared endpoint. A body that is not JSON comes back as a string. -/
def rawRequest (transport : Transport ε) (raw : RawCall) : Call ε (Envelope Json) := do
  let request ← offline (describeRaw raw)
  let response ← dispatch transport request
  pure response.decodeLenient

/-- The outcome of a call, and all requests handed over so far. -/
def runCall {α : Type} (call : Call ε α) (before : List Request) :
    Except (Failure ε) α × List Request :=
  call.run.run before

end Client

end Courier
