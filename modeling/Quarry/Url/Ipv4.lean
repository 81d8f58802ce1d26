import Quarry.Text.Hex

/-!
# Addresses in numbers

A host whose last part is a number is an IPv4 address: up to four numbers between points,
each decimal, octal behind a zero or hexadecimal behind a zero and an x. All but the last
are bytes, and the last fills what they leave of four.
-/
namespace Quarry.Url

def readBase? (base : Nat) (cs : List Char) : Option Nat :=
  cs.foldlM (fun n c => (hexValue? c).bind fun d =>
    if d < base then some (base * n + d) else none) 0

def addressNumber? : List Char → Option Nat
  | [] => none
  | '0' :: 'x' :: ds => readBase? 16 ds
  | '0' :: d :: ds => readBase? 8 (d :: ds)
  | ds => readBase? 10 ds

def withoutLastPoint (parts : List (List Char)) : List (List Char) :=
  if parts.getLast? = some [] then parts.dropLast else parts

/-- Whether the last part makes the host an address. -/
def endsInNumber (parts : List (List Char)) : Bool :=
  match (withoutLastPoint parts).getLast? with
  | none => false
  | some part =>
    !part.isEmpty && part.all Char.isDigit || (addressNumber? part).isSome

def addressesBehind (n : Nat) : Nat := 0x100000000 >>> (8 * n)

def isIpv4 (parts : List (List Char)) : Bool :=
  match ((withoutLastPoint parts).mapM addressNumber?).map List.reverse with
  | some (last :: bytes) =>
    bytes.length ≤ 3 && bytes.all (· ≤ 0xFF) && last < addressesBehind bytes.length
  | _ => false

end Quarry.Url
