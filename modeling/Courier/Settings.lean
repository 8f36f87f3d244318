import Courier.Request

/-!
# Settings of a transport

What a transport adds to all requests: a base URL, a timeout, and headers in the order of their
names. Settings are read from JSON, where every part may be missing, and written to it.
-/

namespace Courier

/-- Settings of a transport. Their timeout is in milliseconds. -/
structure Settings where
  baseUrl : Option String
  timeout : Option UInt64
  headers : List (String × String)
  headers_sorted : Members.IsSorted headers
deriving DecidableEq

namespace Settings

/-- Settings that add nothing. -/
def default : Settings :=
  ⟨none, none, [], List.Pairwise.nil⟩

/-- The timeout as a span of time. -/
def duration (settings : Settings) : Option Duration :=
  settings.timeout.map Duration.ofMilliseconds

/-- The shape of settings. -/
def shape : Shape :=
  .record "TransportConfig" false
    [Shape.fieldOr "base_url" (.option .text) .absent,
      Shape.fieldOr "timeout_ms" (.option (.integer (.unsigned 64))) .absent,
      Shape.fieldOr "headers" (.map .text) (.map [])]

/-- The text that an optional text holds. -/
def textOf? : Datum → Option String
  | .present (.text s) => some s
  | _ => none

/-- The count that an optional integer holds. -/
def countOf? : Datum → Option UInt64
  | .present (.integer n) => some (UInt64.ofNat n.toNat)
  | _ => none

/-- The texts that a map holds. -/
def textsOf : Datum → List (String × String)
  | .map entries => entries.filterMap fun
    | (name, .text s) => some (name, s)
    | _ => none
  | _ => []

/-- The settings that data of their shape holds. -/
def ofDatum : Datum → Settings
  | .record fields =>
    let part (name : String) : Datum := (Members.get? name fields).getD .absent
    ⟨textOf? (part "base_url"), countOf? (part "timeout_ms"),
      Members.sorted (textsOf (part "headers")), Members.isSorted_sorted _⟩
  | _ => .default

/-- Reads settings from a JSON text. -/
def parse (s : String) : Except ReadError Settings :=
  (shape.parse s).map ofDatum

/-- Settings as a JSON value. -/
def toJson (settings : Settings) : Json :=
  .object
    [("base_url", settings.baseUrl.elim .null .string),
      ("timeout_ms", settings.timeout.elim .null .ofUInt64),
      ("headers", .object (settings.headers.map fun (name, value) => (name, .string value)))]

end Settings

end Courier
