import Mathlib.Order.Bounds.Basic
import Quarry.Proofs.Statement.Request

/-!
# Pages and rows

The pages of one size cut the rows into windows: each row whose index has 64 bits lies on one page
and on no other. Turning from the first page on reaches all of them in order, and is refused at the
first page whose first row has no such index (`Page.pages_partition_rows`).
-/

namespace Quarry

namespace Page

variable {p : Page} {size number row : Nat}

/-- The row with this index is one of the rows of the page. -/
def Holds (p : Page) (row : Nat) : Prop := p.offset ≤ row ∧ row < p.offset + p.limit

theorem holds_iff : p.Holds row ↔ p.number = row / p.size := by
  have hpos := p.size_pos
  rw [eq_comm, Nat.div_eq_iff hpos, Nat.mul_comm]
  unfold Holds offset limit
  omega

theorem new_eq_error_iff :
    (∃ e, new size number = .error e) ↔ size = 0 ∨ rowBound ≤ size * number := by
  unfold new
  split
  · next hpos =>
    split
    · next hlt =>
      refine iff_of_false ?_ (by omega)
      rintro ⟨e, he⟩
      cases he
    · next hge => exact iff_of_true ⟨_, rfl⟩ (.inr (Nat.le_of_not_lt hge))
  · next hzero => exact iff_of_true ⟨_, rfl⟩ (.inl (Nat.eq_zero_of_not_pos hzero))

/-- A row has a page of each size, whose offset is not behind the row. -/
theorem exists_new_holds (hsize : 0 < size) (hrow : row < rowBound) :
    ∃ p, new size (row / size) = .ok p ∧ p.Holds row := by
  have hlt : size * (row / size) < rowBound := Nat.lt_of_le_of_lt (Nat.mul_div_le row size) hrow
  exact ⟨⟨size, row / size, hsize, hlt⟩, new_eq_ok_iff.2 ⟨hsize, hlt, rfl, rfl⟩, holds_iff.2 rfl⟩

theorem eq_of_holds {q : Page} (hp : p.Holds row) (hq : q.Holds row) (hsize : p.size = q.size) :
    p = q := by
  have hnumber : p.number = q.number := by
    rw [holds_iff.1 hp, holds_iff.1 hq, hsize]
  cases p
  cases q
  exact mk.injEq .. ▸ ⟨hsize, hnumber⟩

/-- The page that is `k` pages behind the first one. -/
def turned (size : Nat) : Nat → Except BuildError Page
  | 0 => first size
  | k + 1 => turned size k >>= following

/-- What is wrong with a page whose first row has no index of 64 bits; its number may have none
either. -/
def refusal (size number : Nat) : BuildError :=
  if number < rowBound then .pageOffsetOutOfRange number size else .pageNumberOutOfRange

theorem following_eq_error (h : rowBound ≤ p.size * (p.number + 1)) :
    p.following = .error (refusal p.size (p.number + 1)) := by
  unfold following refusal
  split
  · rw [new, dif_pos p.size_pos, dif_neg (Nat.not_lt.2 h)]
  · rfl

theorem turned_eq_build (size k : Nat) :
    ∃ r : PageRequest, r.size = size ∧ r.number = k ∧ turned size k = r.build := by
  induction k with
  | zero => exact ⟨.first size, rfl, rfl, rfl⟩
  | succ k ih =>
    obtain ⟨r, hsize, hnumber, hbuild⟩ := ih
    refine ⟨.following r, hsize, congrArg (· + 1) hnumber, ?_⟩
    rw [turned, hbuild]
    rfl

theorem exists_turned {k : Nat} (hsize : 0 < size) (h : k * size < rowBound) :
    ∃ p, turned size k = .ok p ∧ p.size = size ∧ p.number = k ∧ p.offset = k * size := by
  obtain ⟨r, hr, hk, hbuild⟩ := turned_eq_build size k
  have hlt : size * k < rowBound := Nat.mul_comm k size ▸ h
  refine ⟨⟨size, k, hsize, hlt⟩, ?_, rfl, rfl, Nat.mul_comm size k⟩
  rw [hbuild, PageRequest.build_eq_ok_iff, hr, hk]
  exact ⟨hsize, hlt, rfl, rfl⟩

/-- Behind the first page that is out of range there is none, and its refusal stays. -/
theorem exists_turned_eq_error {k : Nat} (hsize : 0 < size) (h : rowBound ≤ k * size) :
    ∃ first, IsLeast {j | rowBound ≤ j * size} first ∧
      turned size k = .error (refusal size first) := by
  induction k with
  | zero =>
    have hpos : 0 < rowBound := by decide
    omega
  | succ k ih =>
    rcases Nat.lt_or_ge (k * size) rowBound with hlt | hge
    · obtain ⟨p, hp, hpsize, hpnumber, -⟩ := exists_turned hsize hlt
      refine ⟨k + 1, ⟨h, fun j hj => ?_⟩, ?_⟩
      · by_contra hjk
        have hle : j * size ≤ k * size := Nat.mul_le_mul_right size (by omega)
        have hj : rowBound ≤ j * size := hj
        omega
      · have hout : rowBound ≤ p.size * (p.number + 1) := by
          rwa [hpsize, hpnumber, Nat.mul_comm]
        rw [turned, hp, ← hpsize, ← hpnumber]
        exact following_eq_error hout
    · obtain ⟨first, hfirst, hrefused⟩ := ih hge
      refine ⟨first, hfirst, ?_⟩
      rw [turned, hrefused]
      rfl

/-- Each row with an index of 64 bits lies on the page whose number is the quotient of its index by
the size, and on no other page of that size. A page is refused just when its size is zero or the
index of its first row has more than 64 bits. And turned to from the first page, each page that is
not refused comes at its number, until the first one that is. -/
theorem pages_partition_rows :
    (∀ size row, 0 < size → row < rowBound →
      ∃ p, new size (row / size) = .ok p ∧ p.Holds row ∧
        ∀ number q, new size number = .ok q → q.Holds row → q = p) ∧
    (∀ size number, (∃ e, new size number = .error e) ↔ size = 0 ∨ rowBound ≤ size * number) ∧
    (∀ size, 0 < size →
      (∀ k, k * size < rowBound →
        ∃ p, turned size k = .ok p ∧ p.size = size ∧ p.number = k ∧ p.offset = k * size) ∧
      ∀ k, rowBound ≤ k * size →
        ∃ first, IsLeast {j | rowBound ≤ j * size} first ∧
          turned size k = .error (refusal size first)) := by
  refine ⟨fun size row hsize hrow => ?_, fun size number => new_eq_error_iff,
    fun size hsize => ⟨fun k => exists_turned hsize, fun k => exists_turned_eq_error hsize⟩⟩
  obtain ⟨p, hp, hholds⟩ := exists_new_holds hsize hrow
  obtain ⟨-, -, hpsize, -⟩ := new_eq_ok_iff.1 hp
  refine ⟨p, hp, hholds, fun number q hq hqholds => ?_⟩
  obtain ⟨-, -, hqsize, -⟩ := new_eq_ok_iff.1 hq
  exact eq_of_holds hqholds hholds (hqsize.trans hpsize.symm)

/-- Two pages of the greatest size reach the end of the rows, and all pages of one row do. -/
theorem pages_partition_rows_extremes :
    let widest := rowBound - 1
    (0 < widest ∧ widest < rowBound ∧ ∃ p, new widest (widest / widest) = .ok p ∧ p.Holds widest) ∧
      (1 * widest < rowBound ∧ rowBound ≤ 2 * widest ∧
        (∃ p, turned widest 1 = .ok p ∧ p.offset = 1 * widest) ∧
        turned widest 2 = .error (.pageOffsetOutOfRange 2 widest)) ∧
      (rowBound ≤ rowBound * 1 ∧ turned 1 rowBound = .error .pageNumberOutOfRange) := by
  intro widest
  have hpos : 0 < widest := by decide
  have hlt : widest < rowBound := by decide
  have hone : 1 * widest < rowBound := by decide
  have htwo : rowBound ≤ 2 * widest := by decide
  obtain ⟨hrows, -, hturns⟩ := pages_partition_rows
  obtain ⟨p, hp, hholds, -⟩ := hrows widest widest hpos hlt
  obtain ⟨q, hq, -, -, hoffset⟩ := (hturns widest hpos).1 1 hone
  obtain ⟨second, hsecond, herror⟩ := (hturns widest hpos).2 2 htwo
  obtain ⟨last, hlast, herror'⟩ := (hturns 1 Nat.one_pos).2 rowBound (Nat.mul_one _).ge
  have hleast : IsLeast {j | rowBound ≤ j * widest} 2 := by
    refine ⟨htwo, fun j hj => ?_⟩
    have hj : rowBound ≤ j * widest := hj
    by_contra hsmall
    have hle : j * widest ≤ 1 * widest := Nat.mul_le_mul_right widest (by omega)
    omega
  have hleast' : IsLeast {j | rowBound ≤ j * 1} rowBound :=
    ⟨(Nat.mul_one _).ge, fun j hj => Nat.mul_one j ▸ hj⟩
  rw [hsecond.unique hleast] at herror
  rw [hlast.unique hleast'] at herror'
  exact ⟨⟨hpos, hlt, p, hp, hholds⟩, ⟨hone, htwo, ⟨q, hq, hoffset⟩, herror⟩,
    (Nat.mul_one _).ge, herror'⟩

end Page
end Quarry
