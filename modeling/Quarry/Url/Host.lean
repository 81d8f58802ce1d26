import Quarry.Domain.Basic
import Quarry.Url.Error
import Quarry.Url.Ipv4
import Quarry.Url.Ipv6
import Quarry.Url.Percent

/-!
# Hosts

A host in brackets is an IPv6 address. Any other host is a name: of a domain, where that
ends in a number an IPv4 address, or a name whose meaning only its scheme knows, in which
some characters cannot stand.
-/
namespace Quarry.Url

/-- Check a host in brackets, or else by `check`. -/
def checkBracketed (check : List Char → Except UrlError Unit) :
    List Char → Except UrlError Unit
  | '[' :: rest =>
    if rest.getLast? = some ']' ∧ isIpv6 rest.dropLast then .ok () else .error .invalidIpv6Address
  | host => check host

def isForbiddenInHost (c : Char) : Bool :=
  c ∈ ['\x00', '\t', '\n', '\r', ' ', '#', '/', ':', '<', '>', '?', '@', '[', '\\', ']', '^', '|']

def checkOpaqueHost : List Char → Except UrlError Unit :=
  checkBracketed fun host =>
    if host.any isForbiddenInHost then .error .invalidDomainCharacter else .ok ()

def checkDomainHost : List Char → Except UrlError Unit :=
  checkBracketed fun host =>
    match (percentDecode? host).bind Domain.labels? with
    | none => .error .invalidDomainName
    | some labels =>
      if labels = [[]] then .error .emptyHost
      else if endsInNumber labels ∧ ¬ isIpv4 labels then .error .invalidIpv4Address
      else .ok ()

end Quarry.Url
