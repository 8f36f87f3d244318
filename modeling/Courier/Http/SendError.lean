import Courier.Failure
import Courier.Url.ParseError

/-!
# Errors of the HTTP transport

Before anything is sent, the method, the headers and the URL are checked. After that the connection
can fail, the body of the reply can break off, or the reply can have a status code that the request
does not accept.
-/

namespace Courier.Http

/-- Why no request can be built for a URL. -/
inductive BuildProblem where
  | url (error : Url.ParseError)
  | scheme
  | hostText
deriving DecidableEq, Repr

/-- What stopped a request: its URL, or the network. -/
inductive Cause where
  | builder (problem : BuildProblem)
  | timeout
  | connect
  | other
  /-- The body of the reply broke off, or it came to no end in time. -/
  | body (late : Bool)
deriving DecidableEq, Repr

/-- Why a request failed. -/
inductive SendError where
  | method (token : String)
  | header (name : String)
  | status (response : Response)
  /-- With the URL that the request was for, if it is one. The failure of a body does not name it. -/
  | request (cause : Cause) (url : Option String)
deriving DecidableEq, Repr

/-- The wording for a URL that no request can be built for. -/
def BuildProblem.message : BuildProblem → String
  | url error => error.message
  | scheme => "URL scheme is not allowed"
  | hostText => "Parsed Url is not a valid Uri"

/-- The wording for what a cause stopped. -/
def Cause.label : Cause → String
  | builder _ => "builder error"
  | timeout | connect | other => "error sending request"
  | body _ => "error decoding response body"

/-- The wording of an error. -/
def SendError.message : SendError → String
  | method token => s!"unsupported HTTP method `{token}`"
  | header name => s!"invalid header `{name}`"
  | status response => s!"request failed with status code {response.status}"
  | request cause url => "request failed: " ++ cause.label ++
    match url with
    | some url => s!" for url ({url})"
    | none => ""

/-- The response that an error carries: only a refused status has one. -/
def SendError.response : SendError → Option Response
  | status response => some response
  | _ => none

instance : TransportError SendError where
  message := SendError.message
  response := SendError.response

end Courier.Http
