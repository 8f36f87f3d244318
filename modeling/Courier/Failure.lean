import Courier.Response
import Courier.PathParams

/-!
# Failures of a call

What a transport reports is passed on as it is. All other failures are the client's own: an option
that cannot be sent, and a reply that is not what the endpoint gives.
-/

namespace Courier

/-- The errors of a transport: each has a wording, and may carry the response that caused it. -/
class TransportError (ε : Type) where
  message : ε → String
  response : ε → Option Response

/-- The parts of a call that are encoded. -/
inductive CallPart where
  | params
  | body
  | query
deriving DecidableEq, Repr

namespace CallPart

/-- What messages call a part. -/
def label : CallPart → String
  | params => "params"
  | body => "body"
  | query => "query"

end CallPart

/-- Why a call failed. -/
inductive Failure (ε : Type) where
  | transport (error : ε)
  | encode (part : CallPart) (problem : Problem)
  | pathParams (error : ParamsError)
  | decode (status : UInt16) (error : ReadError)

/-- The wording for bad path parameters. -/
def ParamsError.message : ParamsError → String
  | notAnObject => "path parameters must serialize to an object"
  | badValue name => s!"path parameter `{name}` must be a string, number or boolean"

namespace Failure

variable {ε : Type}

/-- The wording of a failure. -/
def message [TransportError ε] : Failure ε → String
  | transport error => TransportError.message error
  | encode part problem => s!"failed to encode request {part.label}: {problem.message}"
  | pathParams error => error.message
  | decode status error => s!"failed to decode response body (HTTP {status}): {error.message}"

/-- The error of the transport, if that has failed. -/
def transport? : Failure ε → Option ε
  | transport error => some error
  | _ => none

/-- Takes the transport's error out; any other failure is handed back. -/
def intoTransport : Failure ε → Except (Failure ε) ε
  | transport error => .ok error
  | other => .error other

/-- The response that the transport's error carries. -/
def response [TransportError ε] (failure : Failure ε) : Option Response :=
  failure.transport?.bind TransportError.response

/-- The response that the transport's error carries, decoded. -/
def errorBody [TransportError ε] (shape : Shape) (failure : Failure ε) :
    Option (Except ReadError (Envelope Datum)) :=
  failure.response.map (·.decode shape)

end Failure

end Courier
