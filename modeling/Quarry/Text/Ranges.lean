/-!
# Sets of characters given by ranges

A character class is a list of closed ranges of code points.
-/
namespace Quarry.Text

abbrev Ranges := List (Nat × Nat)

namespace Ranges

def contains (r : Ranges) (c : Char) : Bool :=
  r.any fun (first, last) => first ≤ c.toNat && c.toNat ≤ last

theorem contains_iff {r : Ranges} {c : Char} :
    r.contains c = true ↔ ∃ p ∈ r, p.1 ≤ c.toNat ∧ c.toNat ≤ p.2 := by
  simp [contains]

end Ranges
end Quarry.Text
