import Courier.Client

/-!
# Options put together in steps

A caller starts with a body, parameters and a query, replaces what it wants to and says what is to
come back. Each step makes new options of those so far; a switch of the mode takes all else over.
-/

namespace Courier

/-- What the caller gives, and what it wants back. -/
structure CallOptions extends Options where
  mode : Mode

/-- A step in putting options together. -/
inductive Adjustment where
  | body (data : Datum)
  | params (data : Datum)
  | query (data : Datum)
  | layer (given : Layer)
  | fullResponse
  | bodyOnly

namespace CallOptions

/-- Options with nothing in their layer. The data alone is wanted. -/
def ofParts (body params query : Datum) : CallOptions :=
  { Options.ofParts body params query with mode := .bodyOnly }

/-- The same options in another mode. -/
def withMode (options : CallOptions) (mode : Mode) : CallOptions where
  body := options.body
  params := options.params
  query := options.query
  layer := options.layer
  mode := mode

end CallOptions

namespace Adjustment

/-- What a step makes of the options so far. -/
def apply : Adjustment → CallOptions → CallOptions
  | body data, options => { options with body := data }
  | params data, options => { options with params := data }
  | query data, options => { options with query := data }
  | layer given, options => { options with layer := given }
  | fullResponse, options => options.withMode .full
  | bodyOnly, options => options.withMode .bodyOnly

end Adjustment

namespace CallOptions

/-- What a chain of steps makes of options. -/
def adjust (options : CallOptions) (steps : List Adjustment) : CallOptions :=
  steps.foldl (fun options step => step.apply options) options

end CallOptions

namespace Client

variable {ε : Type}

/-- Calls an endpoint with options in the mode that they say. -/
def submit (transport : Transport ε) (endpoint : Endpoint) (options : CallOptions) :
    Call ε Reply :=
  request transport endpoint options.toOptions options.mode

end Client

end Courier
