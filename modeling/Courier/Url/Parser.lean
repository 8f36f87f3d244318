import Courier.Url.Host

/-!
# Reading URLs

A text is a URL if it starts with a scheme and its authority is sound; all else is escaped where it
must be. Six schemes have a web origin or name files: they always have an authority, and take
backslashes for slashes.
-/

namespace Courier.Url

/-- Characters that are cut from the ends of a text. -/
def isControlOrSpace (c : Char) : Bool :=
  c.toNat ≤ 0x20

/-- Characters that count as not being there. -/
def isTabOrBreak (c : Char) : Bool :=
  c = '\t' || c = '\n' || c = '\r'

/-- A text without controls and spaces at its ends. -/
def trimEnds (cs : List Char) : List Char :=
  ((cs.dropWhile isControlOrSpace).reverse.dropWhile isControlOrSpace).reverse

/-- A text as it is read. -/
def clean (cs : List Char) : List Char :=
  (trimEnds cs).filter fun c => !isTabOrBreak c

/-- The characters of a scheme after its first letter. -/
def isSchemeChar (c : Char) : Bool :=
  Percent.isAsciiAlnum c || c = '+' || c = '-' || c = '.'

/-- Splits off the scheme, in lower case. -/
def readScheme (cs : List Char) : Option (List Char × List Char) :=
  match cs with
  | first :: _ =>
    if first.isAlpha then
      match cs.dropWhile isSchemeChar with
      | ':' :: rest => some ((cs.takeWhile isSchemeChar).map Char.toLower, rest)
      | _ => none
    else none
  | [] => none

/-- The three kinds of schemes. -/
inductive SchemeKind where
  | web
  | file
  | other
deriving DecidableEq, Repr

/-- The kind of a scheme. Those with a default port have a web origin. -/
def schemeKind (scheme : List Char) : SchemeKind :=
  if scheme = ['f', 'i', 'l', 'e'] then .file
  else if (defaultPort scheme).isSome then .web
  else .other

/-- Cuts a text at the last separator, if there is one. -/
def cutLast (separator : Char) (cs : List Char) : Option (List Char × List Char) :=
  let behind := cs.reverse.takeWhile (· ≠ separator)
  if behind.length = cs.length then none
  else some (cs.take (cs.length - behind.length - 1), behind.reverse)

/-- Splits credentials into an encoded user name and an encoded password. An empty password is
none. -/
def readCredentials (cs : List Char) : List Char × Option (List Char) :=
  let encode := Percent.encodeChars keepInCredentials
  let username := encode (cs.takeWhile (· ≠ ':'))
  match cs.dropWhile (· ≠ ':') with
  | _ :: c :: password => (username, some (encode (c :: password)))
  | _ => (username, none)

/-- The length of the host at the front: up to a colon outside of brackets. -/
def hostLength : Bool → List Char → Nat
  | _, [] => 0
  | inside, c :: rest =>
    if c = ':' ∧ inside = false then 0
    else hostLength (if c = '[' then true else if c = ']' then false else inside) rest + 1

/-- Reads a port, and what follows it from a backslash on. The default port of the scheme, and no
digits at all, mean none. -/
def readPort (scheme cs : List Char) : Except ParseError (Option Nat × List Char) :=
  let digits := cs.takeWhile isDigit
  let port := natOfDigits digits
  let rest := cs.dropWhile isDigit
  if 65535 < port ∨ ¬(rest = [] ∨ rest.head? = some '\\') then .error .invalidPort
  else if digits.isEmpty ∨ defaultPort scheme = some port then .ok (none, rest)
  else .ok (some port, rest)

/-- What an authority holds, and the text that a backslash after its port begins. -/
structure Authority where
  username : List Char
  password : Option (List Char)
  host : Host
  port : Option Nat
  rest : List Char
deriving DecidableEq, Repr

/-- Reads host and port. A port needs a host. -/
def readHostAndPort (scheme : List Char) (web : Bool) (cs : List Char) :
    Except ParseError (Host × Option Nat × List Char) := do
  let length := hostLength false cs
  let hostText := cs.take length
  if web && hostText.isEmpty then throw .emptyHost
  let host ← if web then parseHost hostText else parsePlainHost hostText
  match cs.drop length with
  | [] => pure (host, none, [])
  | _ :: portText =>
    if host = .empty then throw .emptyHost
    let port ← readPort scheme portText
    pure (host, port)

/-- Reads an authority. Credentials need a host; `followed` tells whether the text goes on after the
authority. -/
def readAuthority (scheme : List Char) (web followed : Bool) (cs : List Char) :
    Except ParseError Authority :=
  match cutLast '@' cs with
  | none => (readHostAndPort scheme web cs).map fun (host, port, rest) =>
    ⟨[], none, host, port, rest⟩
  | some (credentials, located) =>
    if credentials.isEmpty && located.isEmpty && followed then .error .emptyHost
    else
      let (username, password) := readCredentials credentials
      match readHostAndPort scheme web located with
      | .error e => .error e
      | .ok (host, port, rest) =>
        if host = .empty ∧ ¬(username = [] ∧ password = none) then .error .emptyHost
        else .ok ⟨username, password, host, port, rest⟩

/-- A text cut into what comes before the query, the query and the fragment. -/
structure Cut where
  main : List Char
  query : Option (List Char)
  fragment : Option (List Char)
deriving DecidableEq, Repr

/-- Cuts a text at the first question mark and the first number sign. -/
def cut (cs : List Char) : Cut :=
  let front := cs.takeWhile (· ≠ '#')
  let fragment := (cs.dropWhile (· ≠ '#')).tail?
  ⟨front.takeWhile (· ≠ '?'), (front.dropWhile (· ≠ '?')).tail?, fragment⟩

/-- Whether something follows the main part. -/
def Cut.goesOn (c : Cut) : Bool :=
  c.query.isSome || c.fragment.isSome

/-- A URL with the encoded query and fragment of a text. -/
def withRest (c : Cut) (scheme : List Char) (authority : Authority) (path : Path) : Url where
  scheme := scheme
  username := authority.username
  password := authority.password
  host := authority.host
  port := authority.port
  path := path
  query := c.query.map (Percent.encodeChars (keepInQuery (schemeKind scheme ≠ .other)))
  fragment := c.fragment.map (Percent.encodeChars keepInFragment)

/-- Reads what follows a scheme with a web origin. All slashes before the authority are skipped. -/
def parseWeb (c : Cut) (scheme rest : List Char) : Except ParseError Url := do
  let body := rest.dropWhile (isSlash true)
  let front := body.takeWhile fun x => !isSlash true x
  let back := body.dropWhile fun x => !isSlash true x
  let authority ← readAuthority scheme true (!back.isEmpty || c.goesOn) front
  pure (withRest c scheme authority (specialPath back))

/-- Reads what follows another scheme: an authority after two slashes, a path after one, and else a
text without structure. -/
def parseOther (c : Cut) (scheme rest : List Char) : Except ParseError Url :=
  let nowhere : Authority := ⟨[], none, .absent, none, []⟩
  match rest with
  | '/' :: '/' :: body => do
    let front := body.takeWhile (· ≠ '/')
    let back := body.dropWhile (· ≠ '/')
    let authority ← readAuthority scheme false (!back.isEmpty || c.goesOn) front
    let path := if authority.rest.isEmpty then back else '/' :: (authority.rest ++ back)
    pure (withRest c scheme authority (genericPath path))
  | '/' :: _ => .ok (withRest c scheme nowhere (genericPath rest))
  | _ => .ok (withRest c scheme nowhere (.plain (Percent.encodeChars keepPlain rest)))

/-- The host of a file, between two slashes and the path. The local machine is left empty. -/
def readFileHost (cs : List Char) : Except ParseError Host :=
  if cs.isEmpty then .ok .empty
  else
    match parseHost cs with
    | .error e => .error e
    | .ok host => .ok (if host = .domain "localhost".toList then .empty else host)

/-- Reads what follows the scheme of files. A path that starts with a drive has no host. -/
def parseFile (c : Cut) (scheme rest : List Char) : Except ParseError Url :=
  let made (host : Host) (pathText : List Char) : Url :=
    let names := fileSegments pathText
    let host := if (names.head?.map isDrive).getD false then .empty else host
    withRest c scheme ⟨[], none, host, none, []⟩ (filePath names)
  match rest with
  | a :: b :: body =>
    if isSlash true a && isSlash true b then
      let front := body.takeWhile fun x => !isSlash true x
      let back := body.dropWhile fun x => !isSlash true x
      if isDrive front then .ok (made .empty body)
      else (readFileHost front).map fun host => made host back
    else .ok (made .empty rest)
  | _ => .ok (made .empty rest)

/-- Reads a URL from characters. -/
def parseChars (cs : List Char) : Except ParseError Url :=
  let c := cut (clean cs)
  match readScheme c.main with
  | none => .error .relativeWithoutBase
  | some (scheme, rest) =>
    match schemeKind scheme with
    | .web => parseWeb c scheme rest
    | .other => parseOther c scheme rest
    | .file => parseFile c scheme rest

/-- Reads a URL. -/
def parse (s : String) : Except ParseError Url :=
  parseChars s.toList

end Courier.Url
