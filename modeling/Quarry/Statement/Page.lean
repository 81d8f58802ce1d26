import Quarry.Error
import Quarry.Number.Power

/-!
# Pages

Rows are cut into pages of one size, numbered from 0. A page exists when its size is
positive and its first row has an index of 64 bits.
-/
namespace Quarry

def rowBits : Nat := 64

def rowBound : Nat := 2 ^ rowBits

structure Page where
  size : Nat
  number : Nat
  size_pos : 0 < size
  offset_lt : size * number < rowBound
  deriving DecidableEq

namespace Page

def new (size number : Nat) : Except BuildError Page :=
  if h : 0 < size then
    if h' : size * number < rowBound then .ok ⟨size, number, h, h'⟩
    else .error (.pageOffsetOutOfRange number size)
  else .error .pageSizeZero

theorem new_eq_ok_iff {size number : Nat} {p : Page} :
    new size number = .ok p ↔
      0 < size ∧ size * number < rowBound ∧ p.size = size ∧ p.number = number := by
  unfold new
  obtain ⟨size', number', hpos, hlt⟩ := p
  constructor
  · intro h
    split at h <;> try cases h
    split at h <;> cases h
    exact ⟨hpos, hlt, rfl, rfl⟩
  · rintro ⟨-, -, rfl, rfl⟩
    rw [dif_pos hpos, dif_pos hlt]

def first (size : Nat) : Except BuildError Page := new size 0

def limit (p : Page) : Nat := p.size

def offset (p : Page) : Nat := p.size * p.number

def following (p : Page) : Except BuildError Page :=
  if p.number + 1 < rowBound then new p.size (p.number + 1) else .error .pageNumberOutOfRange

end Page
end Quarry
