import Courier.Url.Ipv6

/-!
# URLs

A URL in its normal form, part by part. The parts are already encoded, so the text of a URL is their
concatenation.
-/

namespace Courier

namespace Url

/-- Where a URL leads. A URL without an authority has no place for a host; one with an authority can
leave it empty. -/
inductive Host where
  | absent
  | empty
  | domain (name : List Char)
  | ipv4 (bytes : List Nat)
  | ipv6 (groups : List Nat)
deriving DecidableEq, Repr

/-- The path of a URL: a text without structure, or segments with a slash before each of them. -/
inductive Path where
  | plain (text : List Char)
  | segments (names : List (List Char))
deriving DecidableEq, Repr

end Url

/-- A URL. -/
structure Url where
  scheme : List Char
  username : List Char
  password : Option (List Char)
  host : Url.Host
  port : Option Nat
  path : Url.Path
  query : Option (List Char)
  fragment : Option (List Char)
deriving DecidableEq, Repr

namespace Url

/-- The text of a host. -/
def Host.text : Host → List Char
  | absent | empty => []
  | domain name => name
  | ipv4 bytes => Ipv4.text bytes
  | ipv6 groups => '[' :: (Ipv6.text groups ++ [']'])

/-- Whether there is a host that is not empty. -/
def Host.isPresent : Host → Bool
  | absent | empty => false
  | domain _ | ipv4 _ | ipv6 _ => true

/-- The text of a path. -/
def Path.text : Path → List Char
  | plain text => text
  | segments names => names.flatMap ('/' :: ·)

/-- The port that a scheme stands for. -/
def defaultPort (scheme : List Char) : Option Nat :=
  if scheme = ['h', 't', 't', 'p'] ∨ scheme = ['w', 's'] then some 80
  else if scheme = ['h', 't', 't', 'p', 's'] ∨ scheme = ['w', 's', 's'] then some 443
  else if scheme = ['f', 't', 'p'] then some 21
  else none

/-- The text of user name and password, with the sign that ends them. -/
def credentialsText (url : Url) : List Char :=
  match url.username, url.password with
  | [], none => []
  | username, none => username ++ ['@']
  | username, some password => username ++ ':' :: password ++ ['@']

/-- The text of host and port. -/
def hostAndPort (url : Url) : List Char :=
  url.host.text ++
    match url.port with
    | some port => ':' :: Nat.toDigits 10 port
    | none => []

/-- The text of the authority with its slashes. Where there is none, a path that would begin with
two slashes is marked by a dot. -/
def authorityText (url : Url) : List Char :=
  match url.host, url.path with
  | .absent, .segments ([] :: _ :: _) => ['/', '.']
  | .absent, _ => []
  | _, _ => '/' :: '/' :: (url.credentialsText ++ url.hostAndPort)

/-- The text of an optional part after its mark. -/
def marked (mark : Char) : Option (List Char) → List Char
  | some text => mark :: text
  | none => []

/-- The text of a URL. -/
def chars (url : Url) : List Char :=
  url.scheme ++ ':' :: (url.authorityText ++ url.path.text ++ marked '?' url.query ++
    marked '#' url.fragment)

/-- The text of a URL. -/
def text (url : Url) : String :=
  String.ofList url.chars

/-- Whether a URL has a host that is not empty. -/
def hasHost (url : Url) : Bool :=
  url.host.isPresent

end Url

end Courier
