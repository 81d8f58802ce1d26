import Mathlib.Data.List.Nodup
import Quarry.Statement.Projection
import Quarry.Statement.SortOrder

/-!
# Lists in which each column stands once

Projections, sort orders and assignments take their elements one after another and refuse an
element whose column is there (`TakesOnce`). So a list is taken as a whole when no column is
repeated in it, and is otherwise refused for the first column that is (`FirstRepeat`).
-/

namespace Quarry

theorem bind_eq_ok_iff {ε α β : Type} {x : Except ε α} {f : α → Except ε β} {b : β} :
    x >>= f = .ok b ↔ ∃ a, x = .ok a ∧ f a = .ok b := by
  cases x with
  | error e =>
    constructor
    · intro h
      cases h
    · rintro ⟨a, h, -⟩
      cases h
  | ok a => exact ⟨fun h => ⟨a, rfl, h⟩, fun ⟨a', ha, h⟩ => by cases ha; exact h⟩

theorem map_eq_ok_iff {ε α β : Type} {x : Except ε α} {f : α → β} {b : β} :
    x.map f = .ok b ↔ ∃ a, x = .ok a ∧ f a = b := by
  cases x <;> simp [Except.map]

/-- `x` is the first element of the list that stands behind an equal one. -/
def FirstRepeat {α : Type} (l : List α) (x : α) : Prop :=
  ∃ before after, l = before ++ x :: after ∧ before.Nodup ∧ x ∈ before

namespace FirstRepeat

variable {α : Type} {l : List α} {x y : α}

theorem not_nodup (h : FirstRepeat l x) : ¬ l.Nodup := by
  obtain ⟨before, after, rfl, -, hx⟩ := h
  intro hl
  exact (List.nodup_append.1 hl).2.2 x hx x List.mem_cons_self rfl

theorem unique (h : FirstRepeat l x) (h' : FirstRepeat l y) : x = y := by
  obtain ⟨before, after, rfl, hbefore, hx⟩ := h
  obtain ⟨before', after', heq, hbefore', hy⟩ := h'
  -- whichever of the two stands first is repeated in front of the other
  rcases List.append_eq_append_iff.1 heq with ⟨between, rfl, hrest⟩ | ⟨between, rfl, hrest⟩
  · cases between with
    | nil => exact (List.cons.inj hrest).1
    | cons z between =>
      obtain rfl := (List.cons.inj hrest).1
      exact absurd rfl ((List.nodup_append.1 hbefore').2.2 x hx x List.mem_cons_self)
  · cases between with
    | nil => exact (List.cons.inj hrest).1.symm
    | cons z between =>
      obtain rfl := (List.cons.inj hrest).1
      exact absurd rfl ((List.nodup_append.1 hbefore).2.2 y hy y List.mem_cons_self)

end FirstRepeat

/-- `add` appends an element to those that `elements` lists, unless one of them has its key. -/
structure TakesOnce {ε σ α κ : Type} (elements : σ → List α) (key : α → κ) (refusal : κ → ε)
    (add : σ → α → Except ε σ) : Prop where
  refuses : ∀ {s a}, key a ∈ (elements s).map key → add s a = .error (refusal (key a))
  takes : ∀ {s a}, key a ∉ (elements s).map key →
    ∃ s', add s a = .ok s' ∧ elements s' = elements s ++ [a]

namespace TakesOnce

variable {ε σ α κ : Type} {elements : σ → List α} {key : α → κ} {refusal : κ → ε}
  {add : σ → α → Except ε σ} {s s' : σ} {l : List α}

/-- A list is taken as it is, or refused for its first repetition. -/
theorem outcome (h : TakesOnce elements key refusal add) (hs : ((elements s).map key).Nodup)
    (l : List α) :
    (∃ s', l.foldlM add s = .ok s' ∧ elements s' = elements s ++ l ∧
      ((elements s ++ l).map key).Nodup) ∨
    ∃ x, FirstRepeat ((elements s ++ l).map key) x ∧ l.foldlM add s = .error (refusal x) := by
  induction l generalizing s with
  | nil =>
    rw [List.append_nil]
    exact .inl ⟨s, rfl, rfl, hs⟩
  | cons a l ih =>
    have hsplit : elements s ++ a :: l = elements s ++ [a] ++ l := by simp
    rw [List.foldlM_cons]
    by_cases ha : key a ∈ (elements s).map key
    · rw [h.refuses ha]
      exact .inr ⟨key a, ⟨_, l.map key, by simp, hs, ha⟩, rfl⟩
    · obtain ⟨s₁, hadd, helements⟩ := h.takes ha
      have hs₁ : ((elements s₁).map key).Nodup := by
        rw [helements, List.map_append, List.map_singleton, List.nodup_append]
        refine ⟨hs, List.nodup_singleton _, ?_⟩
        rintro x hx y hy rfl
        exact ha (List.mem_singleton.1 hy ▸ hx)
      rw [hadd, hsplit, ← helements]
      exact ih hs₁

theorem of_foldlM (h : TakesOnce elements key refusal add) (hs : ((elements s).map key).Nodup)
    (hok : l.foldlM add s = .ok s') :
    ((elements s ++ l).map key).Nodup ∧ elements s' = elements s ++ l := by
  rcases h.outcome hs l with ⟨s₁, hok', helements, hdistinct⟩ | ⟨x, -, herror⟩
  · rw [hok] at hok'
    exact ⟨hdistinct, Except.ok.inj hok' ▸ helements⟩
  · rw [hok] at herror
    cases herror

theorem exists_foldlM (h : TakesOnce elements key refusal add)
    (hdistinct : ((elements s ++ l).map key).Nodup) : ∃ s', l.foldlM add s = .ok s' := by
  have hs : ((elements s).map key).Nodup := by
    rw [List.map_append] at hdistinct
    exact (List.nodup_append.1 hdistinct).1
  rcases h.outcome hs l with ⟨s', hok, -⟩ | ⟨x, hx, -⟩
  · exact ⟨s', hok⟩
  · exact absurd hdistinct hx.not_nodup

theorem foldlM_eq_error_iff (h : TakesOnce elements key refusal add)
    (hs : ((elements s).map key).Nodup) {e : ε} :
    l.foldlM add s = .error e ↔
      ∃ x, FirstRepeat ((elements s ++ l).map key) x ∧ e = refusal x := by
  rcases h.outcome hs l with ⟨s', hok, -, hdistinct⟩ | ⟨x, hx, herror⟩
  · rw [hok]
    constructor
    · intro he
      cases he
    · rintro ⟨x, hx, -⟩
      exact absurd hdistinct hx.not_nodup
  · rw [herror]
    constructor
    · intro he
      exact ⟨x, hx, (Except.error.inj he).symm⟩
    · rintro ⟨y, hy, rfl⟩
      rw [hx.unique hy]

/-- Where nothing was taken before and the elements tell the rest, a list is taken just when it
repeats no key. -/
theorem foldlM_eq_ok_iff (h : TakesOnce elements key refusal add)
    (hinjective : Function.Injective elements) (hs : elements s = []) :
    l.foldlM add s = .ok s' ↔ (l.map key).Nodup ∧ elements s' = l := by
  have hstart : ((elements s).map key).Nodup := by rw [hs]; exact List.nodup_nil
  have happend : elements s ++ l = l := by rw [hs, List.nil_append]
  constructor
  · intro hok
    rw [← happend]
    exact happend.symm ▸ h.of_foldlM hstart hok
  · rintro ⟨hdistinct, hl⟩
    obtain ⟨s₁, hs₁⟩ := h.exists_foldlM (s := s) (l := l) (happend.symm ▸ hdistinct)
    have helements : elements s₁ = l := happend ▸ (h.of_foldlM hstart hs₁).2
    rw [hs₁, hinjective (helements.trans hl.symm)]

end TakesOnce

namespace Projection

variable {columns : List String}

theorem columns_injective : Function.Injective Projection.columns := by
  rintro ⟨columns⟩ ⟨_⟩ rfl
  rfl

theorem takesOnce_add : TakesOnce Projection.columns id BuildError.columnProjectedTwice add where
  refuses h := by
    rw [List.map_id] at h
    exact if_pos h
  takes h := by
    rw [List.map_id] at h
    exact ⟨_, if_neg h, rfl⟩

theorem ofColumns_eq_ok_iff {p : Projection} :
    ofColumns columns = .ok p ↔ columns.Nodup ∧ p.columns = columns := by
  have hempty : all.columns = [] := rfl
  rw [ofColumns, takesOnce_add.foldlM_eq_ok_iff columns_injective hempty, List.map_id]

theorem ofColumns_eq_error_iff {e : BuildError} :
    ofColumns columns = .error e ↔ ∃ c, FirstRepeat columns c ∧ e = .columnProjectedTwice c := by
  have hstart : (all.columns.map id).Nodup := List.nodup_nil
  rw [ofColumns, takesOnce_add.foldlM_eq_error_iff hstart, List.map_id]
  rfl

end Projection

namespace SortOrder

variable {keys : List SortKey} {s s' : SortOrder} {k : SortKey}

theorem keys_injective : Function.Injective SortOrder.keys := by
  rintro ⟨keys, _⟩ ⟨_, _⟩ rfl
  rfl

theorem takesOnce_add :
    TakesOnce SortOrder.keys SortKey.column BuildError.columnSortedTwice add where
  refuses h := dif_pos h
  takes h := ⟨_, dif_neg h, rfl⟩

theorem ofKeys_eq_ok_iff :
    ofKeys keys = .ok s ↔ (keys.map SortKey.column).Nodup ∧ s.keys = keys :=
  takesOnce_add.foldlM_eq_ok_iff keys_injective rfl

theorem ofKeys_eq_error_iff {e : BuildError} :
    ofKeys keys = .error e ↔
      ∃ c, FirstRepeat (keys.map SortKey.column) c ∧ e = .columnSortedTwice c := by
  have hstart : (unsorted.keys.map SortKey.column).Nodup := List.nodup_nil
  rw [ofKeys, takesOnce_add.foldlM_eq_error_iff hstart]
  rfl

theorem add_eq_ok_iff : s.add k = .ok s' ↔ k.column ∉ s.columns ∧ s'.keys = s.keys ++ [k] := by
  constructor
  · intro h
    by_cases hk : k.column ∈ s.columns
    · rw [takesOnce_add.refuses hk] at h
      cases h
    · obtain ⟨s₁, hadd, hkeys⟩ := takesOnce_add.takes hk
      rw [hadd] at h
      exact ⟨hk, Except.ok.inj h ▸ hkeys⟩
  · rintro ⟨hk, hkeys⟩
    obtain ⟨s₁, hadd, hkeys₁⟩ := takesOnce_add.takes hk
    rw [hadd, keys_injective (hkeys₁.trans hkeys.symm)]

end SortOrder
end Quarry
