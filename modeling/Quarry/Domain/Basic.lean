import Quarry.Domain.Direction
import Quarry.Domain.Joiner
import Quarry.Domain.Mapping
import Quarry.Domain.Punycode
import Quarry.Text.Composed
import Quarry.Text.Mark

/-!
# Domain names

A domain name is read as its labels. The text is mapped, composed and cut at the points,
labels in letters and digits are decoded, and then no label may hold what the name of a
host cannot, start with a mark, have a joiner out of place or run both ways.
-/
namespace Quarry.Domain

def encodedStart : List Char := "xn--".toList

/-- Longer labels in letters and digits are not decoded. -/
def longestEncoded : Nat := 2000

def longestLabel : Nat := 1000

def isAscii (c : Char) : Bool := c.toNat < 0x80

/-- The label that `cs` stands for. Decoding must give what mapping and composing leave as
it is. -/
def decodeLabel? (cs : List Char) : Option (List Char) :=
  if encodedStart.isPrefixOf cs then do
    let written := cs.drop encodedStart.length
    if written.all isAscii ∧ written.getLast?.any (· != '-') ∧
        written.length ≤ longestEncoded then
      let label ← Punycode.decode? written
      if label.all isFixed ∧ Text.isComposed label then some label else none
    else none
  else some cs

def isForbidden (c : Char) : Bool :=
  c.toNat ≤ 0x20 || c.toNat == 0x7F ||
    c ∈ ['%', '#', '/', ':', '<', '>', '?', '@', '[', '\\', ']', '^', '|']

def isLabel (cs : List Char) : Bool :=
  !cs.any isForbidden && !cs.head?.any Text.isMark && joinersFit [] cs &&
    (cs.all isAscii || cs.length ≤ longestLabel)

def labels? (cs : List Char) : Option (List (List Char)) := do
  let mapped ← map? cs
  let labels ← (Text.pieces '.' (Text.compose mapped)).mapM decodeLabel?
  if labels.all isLabel && directionsFit labels then some labels else none

end Quarry.Domain
