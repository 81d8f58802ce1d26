/-!
# Faults of urls
-/
namespace Quarry

inductive UrlError where
  | relativeWithoutBase
  | emptyHost
  | invalidDomainName
  | invalidIpv4Address
  | invalidIpv6Address
  | invalidDomainCharacter
  | invalidPort
  deriving DecidableEq

def UrlError.message : UrlError → String
  | relativeWithoutBase => "relative URL without a base"
  | emptyHost => "empty host"
  | invalidDomainName => "invalid international domain name"
  | invalidIpv4Address => "invalid IPv4 address"
  | invalidIpv6Address => "invalid IPv6 address"
  | invalidDomainCharacter => "invalid domain character"
  | invalidPort => "invalid port number"

end Quarry
