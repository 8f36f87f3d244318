import Courier.Url.Parser

/-!
# Base URLs

A relative URL is joined to a base by exactly one slash; nothing else of either is looked at. A URL
is absolute if it names a host, or starts with two slashes.
-/

namespace Courier.Url

/-- Whether a text names its own host. -/
def isAbsolute (url : String) : Bool :=
  ['/', '/'].isPrefixOf url.toList ||
    match parse url with
    | .ok parsed => parsed.hasHost
    | .error _ => false

/-- A text without slashes at its end. -/
def trimEndSlashes (cs : List Char) : List Char :=
  (cs.reverse.dropWhile (· = '/')).reverse

/-- Joins two texts by one slash. -/
def join (base url : String) : String :=
  String.ofList (trimEndSlashes base.toList ++ '/' :: url.toList.dropWhile (· = '/'))

/-- The URL of a request with a base: an absolute URL is left alone, and the empty one is the
base. -/
def resolve (base : Option String) (url : String) : String :=
  match base with
  | none => url
  | some base => if isAbsolute url then url else if url.isEmpty then base else join base url

end Courier.Url
