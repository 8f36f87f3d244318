import Courier.Client
import Courier.Http.Wire

/-!
# Exchanges

One message goes out, and the network does something. An answer becomes a response; the test on
status codes only decides whether it counts as success.
-/

namespace Courier.Http

/-- A reply as it comes over the wire. -/
structure WireReply where
  status : UInt16
  headers : List (String × List UInt8)
  body : List UInt8
deriving DecidableEq, Repr

/-- What a network does with a message, seen from a sender who follows redirects: the reply is the
one that they lead to. Time only runs out for a sender who does not wait forever. -/
inductive NetworkEvent (patience : Option Duration) where
  /-- No connection can be made, so the message does not leave. -/
  | unreachable
  /-- No connection is made in time. -/
  | stuck (limited : patience.isSome = true)
  /-- Nothing comes back in time. -/
  | silent (limited : patience.isSome = true)
  /-- The connection ends without a reply. -/
  | closed
  /-- A reply begins, but its body breaks off. -/
  | cutOff
  /-- A reply begins, but its body does not end in time. -/
  | unfinished (limited : patience.isSome = true)
  | answered (reply : WireReply)
deriving DecidableEq, Repr

/-- A network, seen from one sender: what it does with a message within a time. -/
abbrev Network := WireRequest → (patience : Option Duration) → NetworkEvent patience

/-- Whether a message leaves. -/
def NetworkEvent.leaves {patience : Option Duration} : NetworkEvent patience → Bool
  | unreachable | stuck _ => false
  | silent _ | closed | cutOff | unfinished _ | answered _ => true

/-- Headers with all values of a name together, where the name first appears. -/
def groupHeaders : Headers → List String → Headers
  | [], _ => []
  | (name, value) :: rest, seen =>
    if name ∈ seen then groupHeaders rest seen
    else (name, value) :: (rest.filter (·.1 = name) ++ groupHeaders rest (name :: seen))

/-- A reply as a response: names in lower case, values trimmed, and all bytes read as UTF-8. -/
def WireReply.toResponse (reply : WireReply) : Response where
  status := reply.status
  headers := groupHeaders
    (reply.headers.map fun (name, value) => (lowerName name, trimValue (Utf8.decodeLossy value))) []
  body := Utf8.decodeLossy reply.body

/-- Whether a status code means success. -/
def isSuccess (status : UInt16) : Bool :=
  200 ≤ status && status < 300

/-- A response as an outcome. -/
def judge (accepts : Option StatusTest) (response : Response) : Except SendError Response :=
  if accepts.getD isSuccess response.status then .ok response else .error (.status response)

/-- How a request to a URL ends by an event. A body is read before its status is judged. -/
def NetworkEvent.outcome {patience : Option Duration} (url : Url) (accepts : Option StatusTest) :
    NetworkEvent patience → Except SendError Response
  | unreachable => .error (.request .connect (some url.text))
  | stuck _ | silent _ => .error (.request .timeout (some url.text))
  | closed => .error (.request .other (some url.text))
  | cutOff => .error (.request (.body false) none)
  | unfinished _ => .error (.request (.body true) none)
  | answered reply => judge accepts reply.toResponse

/-- What leaves, and how the request ends. -/
def exchange (settings : Settings) (network : Network) (request : Request) :
    Option WireRequest × Except SendError Response :=
  match check settings request with
  | .error e => (none, .error e)
  | .ok target =>
    let wire := message settings request target
    let event := network wire (patience settings request)
    (if event.leaves then some wire else none, event.outcome target.url request.accepts)

/-- The transport over a network. -/
def transport (settings : Settings) (network : Network) : Transport SendError :=
  fun _ request => (exchange settings network request).2

end Courier.Http
