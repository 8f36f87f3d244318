import Courier.Method
import Courier.Json.Basic

/-!
# Requests and layers

A request is described in full before it is sent. A layer gives some of the parts of a request:
layers are merged, the upper one deciding where both give a part, and applied to requests in the
same way. Headers are never replaced, only added.
-/

namespace Courier

/-- Names and values in order, repeats kept. -/
abbrev Headers := List (String × String)

/-- A test on status codes. -/
abbrev StatusTest := UInt16 → Bool

/-- A span of time: whole seconds, and the nanoseconds of the one after them. -/
structure Duration where
  seconds : UInt64
  nanoseconds : Fin 1000000000
deriving DecidableEq, Repr

namespace Duration

/-- A span of so many milliseconds. -/
def ofMilliseconds (n : UInt64) : Duration :=
  ⟨n / 1000, ⟨n.toNat % 1000 * 1000000, by omega⟩⟩

/-- How many nanoseconds a span lasts. -/
def inNanoseconds (d : Duration) : Nat :=
  d.seconds.toNat * 1000000000 + d.nanoseconds.val

theorem inNanoseconds_ofMilliseconds (n : UInt64) :
    (ofMilliseconds n).inNanoseconds = n.toNat * 1000000 := by
  have hseconds : (n / 1000).toNat = n.toNat / 1000 := UInt64.toNat_div n 1000
  simp only [inNanoseconds, ofMilliseconds, hseconds]
  omega

end Duration

/-- A request, described for a transport; `accepts` says with which status codes the request has
succeeded. -/
structure Request where
  method : Method
  url : String
  body : Option Json
  query : Option Json
  headers : Headers
  timeout : Option Duration
  baseUrl : Option String
  accepts : Option StatusTest

namespace Request

/-- A request with nothing but a method and a URL. -/
def bare (method : Method) (url : String) : Request :=
  ⟨method, url, none, none, [], none, none, none⟩

end Request

/-- Some of the parts of a request. -/
structure Layer where
  method : Option Method
  url : Option String
  body : Option Json
  query : Option Json
  headers : Headers
  timeout : Option Duration
  baseUrl : Option String
  accepts : Option StatusTest

namespace Layer

/-- The layer that gives nothing. -/
def empty : Layer :=
  ⟨none, none, none, none, [], none, none, none⟩

/-- Adds a header at the end. -/
def header (name value : String) (layer : Layer) : Layer :=
  { layer with headers := layer.headers ++ [(name, value)] }

/-- Sets the timeout. -/
def withTimeout (timeout : Duration) (layer : Layer) : Layer :=
  { layer with timeout := some timeout }

/-- Sets the base URL. -/
def withBaseUrl (url : String) (layer : Layer) : Layer :=
  { layer with baseUrl := some url }

/-- Sets the test on status codes. -/
def accepting (test : StatusTest) (layer : Layer) : Layer :=
  { layer with accepts := some test }

/-- Puts a layer on top of another. -/
def merge (lower upper : Layer) : Layer where
  method := upper.method.or lower.method
  url := upper.url.or lower.url
  body := upper.body.or lower.body
  query := upper.query.or lower.query
  headers := lower.headers ++ upper.headers
  timeout := upper.timeout.or lower.timeout
  baseUrl := upper.baseUrl.or lower.baseUrl
  accepts := upper.accepts.or lower.accepts

/-- Puts a layer on top of a request. -/
def apply (layer : Layer) (request : Request) : Request where
  method := layer.method.getD request.method
  url := layer.url.getD request.url
  body := layer.body.or request.body
  query := layer.query.or request.query
  headers := request.headers ++ layer.headers
  timeout := layer.timeout.or request.timeout
  baseUrl := layer.baseUrl.or request.baseUrl
  accepts := layer.accepts.or request.accepts

end Layer

end Courier
