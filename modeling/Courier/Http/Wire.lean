import Courier.Http.Form
import Courier.Http.Framing
import Courier.Http.SendError
import Courier.Query
import Courier.Settings
import Courier.Text.Base64
import Courier.Url.Resolve

/-!
# Requests on the wire

A request that passes all checks becomes one message. The checks are made in this order: the method,
the headers (those of the settings first), and the URL.
-/

namespace Courier.Http

/-- A message as it is sent. Names of headers are in lower case and in order, values are as they were
given, and the body is shown without the marks of its chunks. -/
structure WireRequest where
  method : String
  url : String
  headers : Headers
  body : Option (List UInt8)
deriving DecidableEq, Repr

/-- Finds the first header that cannot be sent: by its name as it is written if that is wrong, else
by the name as it would be sent. -/
def badHeader? : Headers → Option String
  | [] => none
  | (name, value) :: rest =>
    if !isHeaderName name then some name
    else if !isHeaderValue value then some (lowerName name)
    else badHeader? rest

/-- The texts of user name and password. They are only taken from a URL if they are UTF-8. -/
def credentials? (url : Url) : Option (String × Option String) :=
  match Utf8.decode (Percent.decodeChars url.username) with
  | .error _ => none
  | .ok username =>
    let password := url.password.bind fun p => (Utf8.decode (Percent.decodeChars p)).toOption
    if username.isEmpty && password.isNone then none else some (username, password)

/-- The header that credentials are sent in. -/
def authorization (credentials : String × Option String) : String × String :=
  let text := credentials.1 ++ ":" ++ credentials.2.getD ""
  ("authorization", "Basic " ++ String.ofList (Base64.encode (Utf8.encode text)))

/-- A URL with pairs added to its query; without pairs it stays as it is. -/
def withPairs (url : Url) (pairs : List (String × String)) : Url :=
  if pairs.isEmpty then url else { url with query := some (Form.append (url.query.getD []) pairs) }

/-- The schemes that requests can be sent with. -/
def canSend (url : Url) : Bool :=
  url.scheme = "http".toList || url.scheme = "https".toList

/-- The greatest length of the target of a request. -/
def greatestTargetLength : Nat := 65534

/-- Whether the text of a URL can be the target of a request: four characters that a host may have
cannot stand there. -/
def isTarget (url : Url) : Bool :=
  url.chars.length ≤ greatestTargetLength &&
    url.host.text.all fun c => !(c = '"' || c.toNat = 0x60 || c = '\x7b' || c = '\x7d')

/-- A URL that a request can be sent to, and the credentials taken from it. -/
structure Target where
  url : Url
  credentials : Option (String × Option String)
deriving DecidableEq

/-- An error of a URL that is one. -/
def refuseUrl {α : Type} (problem : BuildProblem) (url : Url) : Except SendError α :=
  .error (.request (.builder problem) (some url.text))

/-- Reads the URL of a request, and adds the pairs of its query. -/
def target (url : String) (pairs : List (String × String)) : Except SendError Target :=
  match Url.parse url with
  | .error e => .error (.request (.builder (.url e)) none)
  | .ok parsed =>
    if !parsed.hasHost then refuseUrl .scheme parsed
    else
      let credentials := credentials? parsed
      let bare := if credentials.isSome then { parsed with username := [], password := none }
        else parsed
      let full := withPairs bare pairs
      if !canSend full then refuseUrl .scheme full
      else if !isTarget full then refuseUrl .hostText full
      else .ok ⟨full, credentials⟩

/-- A header under the name in use, unless it is given already. -/
def addMissing (name value : String) (headers : Headers) : Headers :=
  if headers.any (·.1 = name) then headers else headers ++ [(name, value)]

/-- Headers sorted by name; those of one name stay in order. -/
def sortHeaders (headers : Headers) : Headers :=
  headers.mergeSort fun a b => a.1 ≤ b.1

/-- The headers of a message before it is framed: the credentials, those given, and those that are
added where they are missing. -/
def wireHeaders (target : Target) (given : Headers) (hasBody : Bool) : Headers :=
  let named := given.map fun (name, value) => (lowerName name, value)
  let all := (target.credentials.map authorization).toList ++ named
  let typed := if hasBody then addMissing "content-type" "application/json" all else all
  addMissing "host" (String.ofList target.url.hostAndPort) (addMissing "accept" "*/*" typed)

/-- The pairs of the query of a request. -/
def queryOf (request : Request) : List (String × String) :=
  (request.query.map Query.pairs).getD []

/-- All headers of a request: those of the settings, then its own. -/
def givenHeaders (settings : Settings) (request : Request) : Headers :=
  settings.headers ++ request.headers

/-- Checks a request and finds its target. -/
def check (settings : Settings) (request : Request) : Except SendError Target :=
  if !isToken request.method.token then .error (.method request.method.token)
  else
    match badHeader? (givenHeaders settings request) with
    | some name => .error (.header name)
    | none => target (Url.resolve (request.baseUrl.or settings.baseUrl) request.url)
        (queryOf request)

/-- What a message says of its URL. To ask for a tunnel, it names the authority and nothing else, with
credentials that could not be read as text. Any other message has all of the URL but credentials and
fragment. -/
def wireUrl (method : String) (url : Url) : String :=
  if method = "CONNECT" then String.ofList (url.credentialsText ++ url.hostAndPort)
  else { url with fragment := none, username := [], password := none }.text

/-- The message for a request with a target. -/
def message (settings : Settings) (request : Request) (target : Target) : WireRequest :=
  let body := request.body.map fun value => Utf8.encode value.text
  let (headers, sent) := frame (wireHeaders target (givenHeaders settings request) body.isSome) body
  { method := request.method.token
    url := wireUrl request.method.token target.url
    headers := sortHeaders headers
    body := sent }

/-- The time that an exchange may take: that of the request, else that of the settings. -/
def patience (settings : Settings) (request : Request) : Option Duration :=
  request.timeout.or settings.duration

end Courier.Http
