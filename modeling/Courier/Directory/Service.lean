import Courier.Directory.Rejection
import Courier.Directory.Store
import Courier.Http.Form
import Courier.Http.MediaType
import Courier.Shape.Reading

/-!
# The directory

A small service: it keeps users, accepts posts without keeping them, reflects requests, and answers
with any status. A request is a step on the users; identifiers of what it creates are given to it.
-/

namespace Courier.Directory

/-- Where a path leads. Parts of a path are as they were sent. -/
inductive Route where
  | users
  | user (id : List Char)
  | posts
  | echo
  | status (code : List Char)
deriving DecidableEq, Repr

namespace Route

/-- The rest of a path after a directory, if it is one segment. -/
def segmentAfter? (directory : String) (path : List Char) : Option (List Char) :=
  if directory.toList.isPrefixOf path then
    let rest := path.drop directory.length
    if rest.isEmpty || rest.contains '/' then none else some rest
  else none

/-- The route of a path. -/
def ofPath (path : List Char) : Option Route :=
  if path = "/users".toList then some users
  else if path = "/posts".toList then some posts
  else if path = "/echo".toList then some echo
  else if "/echo/".toList.isPrefixOf path && "/echo/".length < path.length then some echo
  else ((segmentAfter? "/users/" path).map user).or ((segmentAfter? "/status/" path).map status)

/-- The methods of a route, as an answer lists them. Any method reaches the echo. -/
def allow : Route → String
  | users => "GET,HEAD,POST"
  | user _ => "GET,HEAD,DELETE"
  | posts => "POST"
  | echo => ""
  | status _ => "GET,HEAD"

end Route

/-- The greatest size of a body in bytes. -/
def greatestBody : Nat := 2097152

/-- The shape of a new user. -/
def newUserShape : Shape :=
  .record "NewUser" false [Shape.field "name" .text]

/-- The shape of a new post. -/
def newPostShape : Shape :=
  .record "NewPost" false [Shape.field "title" .text, Shape.field "content" .text]

/-- Whether a header value is printable ASCII and tabs. -/
def isPlainValue (value : String) : Bool :=
  value.toList.all fun c => Percent.isAsciiGraphic c || c = '\t'

/-- Whether the body of a request is declared as JSON. -/
def declaresJson (inquiry : Inquiry) : Bool :=
  match inquiry.header "content-type" with
  | some value => isPlainValue value && ((Http.MediaType.parse value).map (·.isJson)).getD false
  | none => false

/-- Reads the body of a request as data of a shape. -/
def readBody (shape : Shape) (inquiry : Inquiry) : Except Rejection Datum :=
  if !declaresJson inquiry then .error .notJson
  else if greatestBody < inquiry.body.length then .error .bodyTooLarge
  else
    let text := Utf8.toSymbols inquiry.body
    match shape.parseSymbols text with
    | .ok d => .ok d
    | .error f => .error (.badBody f.trail (f.toError text))

/-- The text of a field of data. -/
def fieldText (name : String) : Datum → String
  | .record fields =>
    match Members.get? name fields with
    | some (.text s) => s
    | _ => ""
  | _ => ""

/-- The pairs of the query of a request. -/
def queryPairs (inquiry : Inquiry) : List (String × String) :=
  Http.Form.decode (inquiry.query.getD [])

/-- The value of a name in a query, read by `read`. A name may be given once. -/
def queryValue {α : Type} (name : String) (read : String → Except Rejection α) :
    List (String × String) → Except Rejection (Option α)
  | [] => .ok none
  | (n, v) :: rest =>
    if n = name then
      match read v with
      | .error r => .error r
      | .ok x => if rest.any (·.1 = name) then .error (.repeatedQuery name) else .ok (some x)
    else queryValue name read rest

/-- Reads a truth value of a query. -/
def readFlag (name value : String) : Except Rejection Bool :=
  if value = "true" then .ok true
  else if value = "false" then .ok false
  else .error (.badQueryFlag name)

/-- The text of a part of a path. -/
def pathText (name : String) (raw : List Char) : Except Rejection String :=
  match Utf8.decode (Percent.decodeChars raw) with
  | .ok s => .ok s
  | .error _ => .error (.pathNotText name)

/-- Reads an identifier in a path. -/
def pathId (raw : List Char) : Except Rejection Uuid := do
  let value ← pathText "id" raw
  match Uuid.parse value with
  | .ok id => pure id
  | .error e => throw (.badId "id" value e)

/-- Reads a number of 16 bits in a path. A plus sign may stand before it. -/
def pathCode (raw : List Char) : Except Rejection Nat := do
  let value ← pathText "code" raw
  let digits := match value.toList with
    | '+' :: rest => rest
    | cs => cs
  match readNat digits with
  | some n => if n < 65536 then pure n else throw (.badNumber value "u16")
  | none => throw (.badNumber value "u16")

/-- A user as JSON. -/
def User.toJson (user : User) : Json :=
  .object [("id", .string user.id.text), ("name", .string user.name)]

/-- A message as JSON. -/
def messageJson (text : String) : Json :=
  .object [("message", .string text)]

/-- The answer for a user that is not there. -/
def userNotFound : Answer :=
  .json 404 (messageJson "user not found")

/-- A refusal is answered by its own answer; the users stay as they are. -/
def orReject (store : Store) (outcome : Except Rejection (Answer × Store)) : Answer × Store :=
  match outcome with
  | .ok result => result
  | .error r => (r.toAnswer, store)

/-- Lists the users whose names contain the text that is searched for. -/
def listUsers (inquiry : Inquiry) (store : Store) : Except Rejection (Answer × Store) := do
  let text ← queryValue "search" .ok (queryPairs inquiry)
  pure (.json 200 (.array ((store.search (text.getD "")).map User.toJson)), store)

/-- Creates a user. -/
def createUser (fresh : Uuid) (inquiry : Inquiry) (store : Store) :
    Except Rejection (Answer × Store) := do
  let data ← readBody newUserShape inquiry
  let user : User := ⟨fresh, fieldText "name" data⟩
  pure (.json 201 user.toJson, store.add user)

/-- Shows a user. -/
def showUser (raw : List Char) (store : Store) : Except Rejection (Answer × Store) := do
  let id ← pathId raw
  match store.find? id with
  | some user => pure (.json 200 user.toJson, store)
  | none => pure (userNotFound, store)

/-- Deletes a user. -/
def deleteUser (raw : List Char) (store : Store) : Except Rejection (Answer × Store) := do
  let id ← pathId raw
  match store.find? id with
  | some _ => pure (.bare 204, store.remove id)
  | none => pure (userNotFound, store)

/-- Accepts a post. The query is looked at before the body. -/
def createPost (fresh : Uuid) (inquiry : Inquiry) (store : Store) :
    Except Rejection (Answer × Store) := do
  let publish ← queryValue "publish" (readFlag "publish") (queryPairs inquiry)
  let data ← readBody newPostShape inquiry
  let post : Json := .object [
    ("id", .string fresh.text),
    ("title", .string (fieldText "title" data)),
    ("content", .string (fieldText "content" data)),
    ("published", .bool (publish.getD false))]
  pure (.json 201 post, store)

/-- The body of a request as JSON: nothing as `null`, and a text that is not JSON as itself. -/
def reflectBody (body : String) : Json :=
  if body.isEmpty then .null else Json.parseOrString body

/-- Reflects a request. Of several headers of one name the last is shown; values that are not plain
are left out. -/
def reflect (inquiry : Inquiry) (store : Store) : Except Rejection (Answer × Store) :=
  if greatestBody < inquiry.body.length then .error .bodyTooLarge
  else
    match Utf8.decode inquiry.body with
    | .error flaw => .error (.bodyNotText flaw)
    | .ok body =>
      let headers := Members.sorted (inquiry.headers.filter fun h => isPlainValue h.2)
      .ok (.json 200 (.object [
        ("method", .string inquiry.method),
        ("path", .string (String.ofList inquiry.path)),
        ("query", inquiry.query.elim .null fun q => .string (String.ofList q)),
        ("headers", .object (headers.map fun (name, value) => (name, .string value))),
        ("body", reflectBody body)]), store)

/-- Answers with a status: that of the path, or 400 if it is none. -/
def answerStatus (raw : List Char) (store : Store) : Except Rejection (Answer × Store) := do
  let code ← pathCode raw
  let status := if 100 ≤ code ∧ code ≤ 999 then code else 400
  pure (.json status (messageJson s!"status {status}"), store)

/-- What a request does on its route, if the route has its method. -/
def handle (fresh : Uuid) (inquiry : Inquiry) (route : Route) (store : Store) :
    Option (Except Rejection (Answer × Store)) :=
  let reads := inquiry.method = "GET" || inquiry.method = "HEAD"
  match route with
  | .echo => some (reflect inquiry store)
  | .users =>
    if reads then some (listUsers inquiry store)
    else if inquiry.method = "POST" then some (createUser fresh inquiry store)
    else none
  | .user id =>
    if reads then some (showUser id store)
    else if inquiry.method = "DELETE" then some (deleteUser id store)
    else none
  | .posts => if inquiry.method = "POST" then some (createPost fresh inquiry store) else none
  | .status code => if reads then some (answerStatus code store) else none

/-- The body that an answer keeps: none in answers to `HEAD`, nor in success of `CONNECT`. -/
def trimAnswer (method : String) (answer : Answer) : Answer :=
  if method = "HEAD" ∨ (method = "CONNECT" ∧ 200 ≤ answer.status ∧ answer.status < 300) then
    { answer with body := "" }
  else answer

/-- Answers a request. What it creates gets the identifier `fresh`. -/
def step (fresh : Uuid) (inquiry : Inquiry) (store : Store) : Answer × Store :=
  let (answer, after) := match Route.ofPath inquiry.path with
    | none => (.bare 404, store)
    | some route =>
      match handle fresh inquiry route store with
      | some outcome => orReject store outcome
      | none => ({ Answer.bare 405 with allow := some route.allow }, store)
  (trimAnswer inquiry.method answer, after)

end Courier.Directory
