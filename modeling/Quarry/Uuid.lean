import Quarry.Number.Power
import Quarry.Text.Hex

/-!
# Universally unique identifiers

An identifier is a number of 128 bits. Its text is hexadecimal with hyphens; reading
also takes the form without hyphens, and the hyphenated form in braces or behind the
name of the URN, with digits of either case. A text that is not read is malformed for
one reason: a character that no form has, or else groups that do not fit.
-/
namespace Quarry

def Uuid.bits : Nat := 128

structure Uuid where
  number : Nat
  number_lt : number < 2 ^ Uuid.bits
  deriving DecidableEq

namespace Uuid

def ofDigits? (cs : List Char) : Option Uuid :=
  if cs.length = 32 then do
    let n ← readHex? cs
    if h : n < 2 ^ bits then some ⟨n, h⟩ else none
  else none

def isHyphenPlace (i : Nat) : Bool := i == 8 || i == 13 || i == 18 || i == 23

def unhyphenate? (cs : List Char) : Option (List Char) :=
  if cs.length = 36 ∧ (cs.zipIdx.all fun (c, i) => isHyphenPlace i == (c == '-')) then
    some (cs.filter (· != '-'))
  else none

def ofHyphenated? (cs : List Char) : Option Uuid := (unhyphenate? cs).bind ofDigits?

def behind? (start cs : List Char) : Option (List Char) :=
  if (cs.take start.length).map Char.toLower = start then some (cs.drop start.length) else none

def urn : List Char := "urn:uuid:".toList

def read? (cs : List Char) : Option Uuid :=
  if cs.length = 32 then ofDigits? cs
  else if cs.length = 38 ∧ cs.head? = some '{' ∧ cs.getLast? = some '}' then
    ofHyphenated? (cs.drop 1).dropLast
  else match behind? urn cs with
    | some rest => ofHyphenated? rest
    | none => ofHyphenated? cs

inductive Malformation where
  /-- The index counts the bytes before the character. -/
  | character (found : Char) (index : Nat)
  | digitCount (found : Nat)
  | groupCount (found : Nat)
  | groupLength (group expected found : Nat)
  deriving DecidableEq

def Malformation.message : Malformation → String
  | character c i =>
    "invalid character: found \x60" ++ String.singleton c ++ "\x60 at " ++ toString i
  | digitCount n =>
    "invalid length: expected length 32 for simple format, found " ++ toString n
  | groupCount n => "invalid group count: expected 5, found " ++ toString n
  | groupLength g n k =>
    "invalid group length in group " ++ toString g ++ ": expected " ++ toString n ++
      ", found " ++ toString k

def strayCharacter? (index : Nat) : List Char → Option Malformation
  | [] => none
  | c :: cs =>
    if c = '-' ∨ (hexValue? c).isSome then strayCharacter? (index + c.utf8Size) cs
    else some (.character c index)

/-- The groups but the last, each by where it starts and its length. -/
def groups : List (Nat × Nat) := [(0, 8), (9, 4), (14, 4), (19, 4)]

/-- The first group, counted from `index`, behind which no hyphen stands in its place. -/
def misfit? (index : Nat) : List (Nat × Nat) → List Nat → Option Malformation
  | (start, length) :: gs, place :: places =>
    if place = start + length then misfit? (index + 1) gs places
    else some (.groupLength index length (place - start))
  | _, _ => none

/-- What is wrong with the groups of a text of `size` bytes whose hyphens stand at `places`;
when the others fit it is the last one, which counts all that follows it. -/
def misfitOfGroups (size : Nat) (places : List Nat) : Malformation :=
  if places.length = groups.length then
    (misfit? 0 groups places).getD (.groupLength 4 12 (size - 24))
  else .groupCount (places.length + 1)

/-- The text within braces or behind the name of the URN, with what stands before it. -/
def unwrap? (cs : List Char) : Option (List Char × List Char) :=
  if cs.head? = some '{' ∧ (cs.drop 1).getLast? = some '}' then some (['{'], (cs.drop 1).dropLast)
  else (behind? urn cs).map ((urn, ·))

def malformation (cs : List Char) : Malformation :=
  let size := (String.ofList cs).utf8ByteSize
  let (before, body) := (unwrap? cs).getD ([], cs)
  match strayCharacter? before.length body with
  | some m => m
  | none =>
    let places := (body.zipIdx.filter (·.1 == '-')).map (·.2)
    if places = [] ∧ before = [] then .digitCount size else misfitOfGroups size places

def parse (s : String) : Except Malformation Uuid :=
  match read? s.toList with
  | some u => .ok u
  | none => .error (malformation s.toList)

def text (u : Uuid) : String :=
  let ds := hexDigits 32 u.number
  String.ofList (ds.take 8 ++ '-' :: (ds.drop 8).take 4 ++ '-' :: (ds.drop 12).take 4 ++
    '-' :: (ds.drop 16).take 4 ++ '-' :: ds.drop 20)

end Uuid
end Quarry
