import Quarry.Text.Hex
import Quarry.Text.Pieces

/-!
# Addresses in brackets

The grammar of an IPv6 address: up to eight groups of one to four hexadecimal
digits between colons, where one doubled colon stands for a run of zero groups, and
the last two groups may be written as four decimal numbers between points. Only
whether a text is an address matters here.
-/
namespace Quarry.Url

def spanHex : Nat → List Char → Nat × List Char
  | 0, cs => (0, cs)
  | _, [] => (0, [])
  | n + 1, c :: cs =>
    if (hexValue? c).isSome then
      let (k, rest) := spanHex n cs
      (k + 1, rest)
    else (0, c :: cs)

def isOctet (cs : List Char) : Bool :=
  !cs.isEmpty && cs.all Char.isDigit && (cs.length == 1 || cs.head? != some '0') &&
    cs.length ≤ 3 && (cs.foldl (fun n c => 10 * n + (c.toNat - '0'.toNat)) 0) ≤ 255

def isDotted (cs : List Char) : Bool :=
  let parts := Text.pieces '.' cs
  parts.length == 4 && parts.all isOctet

/-- Read groups up to the end, where `count` groups came before and `compressed` tells
whether zero groups were left out. -/
def groupsEnd : Nat → Nat → Bool → List Char → Bool
  | 0, _, _, _ => false
  | fuel + 1, count, compressed, cs =>
    match cs with
    | [] => compressed || count == 8
    | ':' :: rest => count < 8 && !compressed && groupsEnd fuel (count + 1) true rest
    | _ =>
      count < 8 &&
        match spanHex 4 cs with
        | (0, _) => false
        | (_, []) => groupsEnd fuel (count + 1) compressed []
        | (_, '.' :: _) =>
          count ≤ 6 && isDotted cs && (compressed || count + 2 == 8)
        | (_, ':' :: rest) => !rest.isEmpty && groupsEnd fuel (count + 1) compressed rest
        | (_, _ :: _) => false

def isIpv6 (cs : List Char) : Bool :=
  2 ≤ cs.length &&
    match cs with
    | ':' :: ':' :: rest => groupsEnd (cs.length + 1) 1 true rest
    | ':' :: _ => false
    | _ => groupsEnd (cs.length + 1) 0 false cs

end Quarry.Url
