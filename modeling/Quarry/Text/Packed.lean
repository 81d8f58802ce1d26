import Quarry.Text.Pieces
import Quarry.Text.Ranges

/-!
# Packed tables

A long table of code points is written as lines of entries, with a semicolon between two
entries and a blank between two numbers, all in base 36. The entries go upwards: each
starts with its distance from the one before, which for a range is the distance from its
end. What a range leaves out is zero.
-/
namespace Quarry.Text.Packed

def base : Nat := 36

def digit (c : Char) : Nat :=
  if c.isDigit then c.toNat - '0'.toNat else c.toNat - 'a'.toNat + 10

def number (cs : List Char) : Nat := cs.foldl (fun n c => base * n + digit c) 0

def entries (lines : List String) : List (List Nat) :=
  lines.flatMap fun l => (pieces ';' l.toList).map fun e => (pieces ' ' e).map number

def rangesFrom (start : Nat) : List (List Nat) → Ranges
  | [] => []
  | e :: es =>
    let first := start + e.headD 0
    let last := first + (e.drop 1).headD 0
    (first, last) :: rangesFrom last es

def keyedFrom (start : Nat) : List (List Nat) → List (Nat × List Nat)
  | [] => []
  | e :: es =>
    let key := start + e.headD 0
    (key, e.drop 1) :: keyedFrom key es

def ranges (lines : List String) : Ranges := rangesFrom 0 (entries lines)

def keyed (lines : List String) : List (Nat × List Nat) := keyedFrom 0 (entries lines)

/-- Ranges with a number for each, which stands behind the extent. -/
def labelled (lines : List String) : List ((Nat × Nat) × Nat) :=
  (ranges lines).zip ((entries lines).map fun e => (e.drop 2).headD 0)

def label? (table : List ((Nat × Nat) × Nat)) (c : Char) : Option Nat :=
  (table.find? fun ((first, last), _) => first ≤ c.toNat && c.toNat ≤ last).map (·.2)

def behind? (table : List (Nat × List Nat)) (c : Char) : Option (List Char) :=
  (table.find? (·.1 == c.toNat)).map (·.2.map Char.ofNat)

end Quarry.Text.Packed
