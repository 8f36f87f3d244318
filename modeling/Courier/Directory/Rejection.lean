import Courier.Directory.Message
import Courier.Directory.Uuid
import Courier.Json.Reading

/-!
# Rejections

Why the directory refuses a request before it looks at its users. Each cause has a status code and a
wording.
-/

namespace Courier.Directory

/-- Why a request is refused. -/
inductive Rejection where
  | notJson
  | bodyTooLarge
  | bodyNotText (flaw : Utf8.Flaw)
  /-- With the steps to the part of the body that is wrong. -/
  | badBody (trail : List Step) (error : ReadError)
  | repeatedQuery (name : String)
  | badQueryFlag (name : String)
  | pathNotText (name : String)
  | badId (name value : String) (error : UuidError)
  | badNumber (value type : String)
deriving DecidableEq

namespace Rejection

/-- The text of a step. Names are joined by dots. -/
def stepText (first : Bool) : Step → String
  | .item index => s!"[{index}]"
  | .member name => if first then name else "." ++ name

/-- The text of the steps to a part. -/
def trailText : List Step → String
  | [] => ""
  | first :: rest => stepText true first ++ String.join (rest.map (stepText false)) ++ ": "

/-- The status code: a body that is well-formed but does not fit has one of its own. -/
def status : Rejection → Nat
  | notJson => 415
  | bodyTooLarge => 413
  | badBody _ error => if error.problem.category = .data then 422 else 400
  | _ => 400

/-- The wording. -/
def message : Rejection → String
  | notJson => "Expected request with `Content-Type: application/json`"
  | bodyTooLarge => "Failed to buffer the request body: length limit exceeded"
  | bodyNotText flaw => "Request body didn't contain valid UTF-8: " ++ flaw.message
  | badBody trail error =>
    (if error.problem.category = .data then
      "Failed to deserialize the JSON body into the target type: "
    else "Failed to parse the request body as JSON: ") ++ trailText trail ++ error.message
  | repeatedQuery name =>
    "Failed to deserialize query string: " ++ (Mismatch.duplicateField name).message
  | badQueryFlag name =>
    s!"Failed to deserialize query string: {name}: provided string was not `true` or `false`"
  | pathNotText name => s!"Invalid URL: Invalid UTF-8 in `{name}`"
  | badId name value error =>
    s!"Invalid URL: Cannot parse `{name}` with value `{value}`: UUID parsing failed: " ++
      error.message
  | badNumber value type => s!"Invalid URL: Cannot parse `{value}` to a `{type}`"

/-- The answer to a refused request. -/
def toAnswer (r : Rejection) : Answer :=
  .plain r.status r.message

end Rejection

end Courier.Directory
