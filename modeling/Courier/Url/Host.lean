import Courier.Url.Basic
import Courier.Url.Idna
import Courier.Url.Path

/-!
# Hosts of URLs

With a web origin, a host is an IPv6 address in brackets, an IPv4 address if its last label is a
number, or else a name, which may be escaped and international. Without one, it is any text that
breaks nothing.
-/

namespace Courier.Url

/-- The characters that no name may have. -/
def isForbiddenInName (c : Char) : Bool :=
  c.toNat ≤ 0x20 || c.toNat = 0x7F || c = '%' || c = '#' || c = '/' || c = ':' || c = '<' ||
    c = '>' || c = '?' || c = '@' || c = '[' || c = '\\' || c = ']' || c = '^' || c = '|'

/-- The characters that no host without a web origin may have. -/
def isForbiddenInPlainHost (c : Char) : Bool :=
  c.toNat = 0 || c = '\t' || c = '\n' || c = '\r' || c = ' ' || c = '#' || c = '/' || c = ':' ||
    c = '<' || c = '>' || c = '?' || c = '@' || c = '[' || c = '\\' || c = ']' || c = '^' ||
    c = '|'

/-- An address between brackets. -/
def bracketedHost (text : List Char) : Except ParseError Host :=
  match text.reverse with
  | ']' :: inner => (Ipv6.parse inner.reverse).map .ipv6
  | _ => .error .invalidIpv6

/-- The name that a text stands for, in ASCII and lower case. -/
def nameOf (text : List Char) : Except ParseError (List Char) :=
  match Utf8.decode (Percent.decodeChars text) with
  | .error _ => .error .invalidInternationalName
  | .ok decoded =>
    match Idna.toAscii decoded.toList with
    | none => .error .invalidInternationalName
    | some name =>
      if name.any isForbiddenInName then .error .invalidInternationalName else .ok name

/-- Reads a host with a web origin. -/
def parseHost (text : List Char) : Except ParseError Host :=
  match text with
  | '[' :: rest => bracketedHost rest
  | _ =>
    match nameOf text with
    | .error e => .error e
    | .ok [] => .error .emptyHost
    | .ok name =>
      if Ipv4.endsInNumber name then (Ipv4.parse name).map .ipv4 else .ok (.domain name)

/-- Reads a host without a web origin. -/
def parsePlainHost (text : List Char) : Except ParseError Host :=
  match text with
  | [] => .ok .empty
  | '[' :: rest => bracketedHost rest
  | _ =>
    if text.any isForbiddenInPlainHost then .error .invalidDomainCharacter
    else .ok (.domain (Percent.encodeChars keepPlain text))

end Courier.Url
