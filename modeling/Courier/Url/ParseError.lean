/-!
# What can be wrong with a URL
-/

namespace Courier.Url

/-- Why a text is no URL. -/
inductive ParseError where
  | relativeWithoutBase
  | emptyHost
  | invalidPort
  | invalidIpv4
  | invalidIpv6
  | invalidInternationalName
  | invalidDomainCharacter
deriving DecidableEq, Repr

/-- The wording of a problem. -/
def ParseError.message : ParseError → String
  | relativeWithoutBase => "relative URL without a base"
  | emptyHost => "empty host"
  | invalidPort => "invalid port number"
  | invalidIpv4 => "invalid IPv4 address"
  | invalidIpv6 => "invalid IPv6 address"
  | invalidInternationalName => "invalid international domain name"
  | invalidDomainCharacter => "invalid domain character"

end Courier.Url
