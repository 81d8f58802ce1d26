import Quarry.Proofs.Row.Columns
import Quarry.Proofs.Text.Casing

/-!
# Columns by name

A row and its map look for a column by one rule: the label that is the name, or else the first
label that is the name but for the case. They differ in what they take for a difference of case:
for the row it is that of the letters of ASCII, for the map that of all letters. So the map finds
a column whenever the row does, and they find the same one unless the first label that folds like
the name differs from it in other letters (`ColumnMap.finds_as_row`).
-/

namespace Quarry

/-- A stricter test finds its first place where a laxer one does, just when it accepts what the
laxer one finds. -/
theorem findIdx?_eq_findIdx?_iff {α : Type} {strict lax : α → Bool} {l : List α}
    (h : ∀ x, strict x = true → lax x = true) :
    l.findIdx? strict = l.findIdx? lax ↔ ∀ x, l.find? lax = some x → strict x = true := by
  induction l with
  | nil => simp
  | cons x l ih =>
    rw [List.findIdx?_cons, List.findIdx?_cons, List.find?_cons]
    rcases hlax : lax x with _ | _
    · have hstrict : strict x = false := by
        rcases hs : strict x with _ | _
        · rfl
        · rw [h x hs] at hlax
          cases hlax
      simp only [hstrict, Bool.false_eq_true, if_false]
      rw [← ih]
      exact (Option.map_injective fun _ _ => Nat.succ.inj).eq_iff
    · rcases hstrict : strict x with _ | _ <;> simp [hstrict]

namespace Row

variable {r : Row} {name : String}

/-- The place of the label that is `name`, or else of the first label that is like it. -/
def place? (r : Row) (alike : String → String → Bool) (name : String) : Option Nat :=
  (r.labels.findIdx? (· == name)).or (r.labels.findIdx? (alike · name))

/-- Whether two names differ in the case of their letters only. -/
def foldsAlike (label name : String) : Bool := Text.fold label == Text.fold name

theorem position?_eq_place? (r : Row) (name : String) :
    r.position? name = r.place? Text.equalsIgnoringAsciiCase name := rfl

theorem place?_of_mem (h : name ∈ r.labels) (alike : String → String → Bool) :
    r.place? alike name = r.labels.findIdx? (· == name) := by
  have hsome : (r.labels.findIdx? (· == name)).isSome = true := by
    rw [List.findIdx?_isSome, List.any_eq_true]
    exact ⟨name, h, beq_self_eq_true name⟩
  obtain ⟨i, hi⟩ := Option.isSome_iff_exists.1 hsome
  rw [place?, hi, Option.some_or]

theorem place?_of_not_mem (h : name ∉ r.labels) (alike : String → String → Bool) :
    r.place? alike name = r.labels.findIdx? (alike · name) := by
  have hnone : r.labels.findIdx? (· == name) = none := by
    rw [List.findIdx?_eq_none_iff]
    intro label hlabel
    exact beq_false_of_ne fun heq => h (heq ▸ hlabel)
  rw [place?, hnone, Option.none_or]

theorem foldsAlike_of_equalsIgnoringAsciiCase {label name : String}
    (h : Text.equalsIgnoringAsciiCase label name = true) : foldsAlike label name = true :=
  beq_iff_eq.2 (Text.fold_eq_of_equalsIgnoringAsciiCase h)

theorem place?_eq_place?_iff (r : Row) (name : String) :
    r.place? Text.equalsIgnoringAsciiCase name = r.place? foldsAlike name ↔
      name ∈ r.labels ∨ ∀ label, r.labels.find? (foldsAlike · name) = some label →
        Text.equalsIgnoringAsciiCase label name = true := by
  by_cases h : name ∈ r.labels
  · rw [place?_of_mem h, place?_of_mem h]
    exact iff_of_true rfl (.inl h)
  · rw [place?_of_not_mem h, place?_of_not_mem h, or_iff_right h]
    exact findIdx?_eq_findIdx?_iff fun _ => foldsAlike_of_equalsIgnoringAsciiCase

theorem isSome_place?_mono (h : (r.place? Text.equalsIgnoringAsciiCase name).isSome = true) :
    (r.place? foldsAlike name).isSome = true := by
  rw [place?, Option.isSome_or, Bool.or_eq_true, List.findIdx?_isSome, List.findIdx?_isSome,
    List.any_eq_true, List.any_eq_true] at h ⊢
  refine h.imp_right ?_
  rintro ⟨label, hlabel, halike⟩
  exact ⟨label, hlabel, foldsAlike_of_equalsIgnoringAsciiCase halike⟩

theorem place?_lt {alike : String → String → Bool} {i : Nat} (h : r.place? alike name = some i) :
    i < r.labels.length := by
  rcases Option.or_eq_some_iff.1 h with h | ⟨-, h⟩ <;>
    exact (List.findIdx?_eq_some_iff_getElem.1 h).1

end Row

namespace ColumnMap

open Row

variable {r : Row} {m : ColumnMap}

theorem Sound.position? (h : m.Sound) (name : String) :
    m.position? name =
      (m.columns.findIdx? (· == name)).or (m.columns.findIdx? (foldsAlike · name)) := by
  have hexact : m.entries.findIdx? (·.1 == name) = m.columns.findIdx? (· == name) := by
    rw [columns, List.findIdx?_map]
    rfl
  rw [ColumnMap.position?, h.index, hexact]
  rfl

theorem position?_ofRow (h : r.Full) (hdistinct : r.labels.Nodup) (name : String) :
    (ofRow r).position? name = r.place? foldsAlike name := by
  have hcolumns : (ofRow r).columns = r.labels := by
    rw [columns, entries_ofRow h hdistinct, h.map_fst_columns]
  rw [(sound_ofRow r).position?, hcolumns]
  rfl

theorem get?_ofRow (h : r.Full) (hdistinct : r.labels.Nodup) (name : String) :
    (ofRow r).get? name = (r.place? foldsAlike name).bind (r.values[·]?) := by
  rw [get?, position?_ofRow h hdistinct, entries_ofRow h hdistinct]
  rcases r.place? foldsAlike name with _ | i
  · rfl
  · exact h.getElem?_columns i

/-- Let no label be repeated. A row and its map find the column that has exactly the name, or else
the first one whose label is like it: up to the case of ASCII letters in the row, up to folding in
the map. What the row finds the map finds too, though it may be an earlier column. They find the
same place just when there is a label that is the name, or the first label that folds like the name
differs from it in the case of ASCII letters only. -/
theorem finds_as_row (h : r.Full) (hdistinct : r.labels.Nodup) (name : String) :
    (r.get? name = (r.place? Text.equalsIgnoringAsciiCase name).bind (r.values[·]?) ∧
      (ofRow r).get? name = (r.place? foldsAlike name).bind (r.values[·]?)) ∧
    ((r.get? name).isSome = true → ((ofRow r).get? name).isSome = true) ∧
    (r.position? name = (ofRow r).position? name ↔
      name ∈ r.labels ∨ ∀ label, r.labels.find? (foldsAlike · name) = some label →
        Text.equalsIgnoringAsciiCase label name = true) ∧
    (r.position? name = (ofRow r).position? name → r.get? name = (ofRow r).get? name) := by
  have hrow : r.get? name = (r.place? Text.equalsIgnoringAsciiCase name).bind (r.values[·]?) := rfl
  have hmap := get?_ofRow h hdistinct name
  rw [position?_ofRow h hdistinct, position?_eq_place?]
  refine ⟨⟨hrow, hmap⟩, ?found, place?_eq_place?_iff r name, fun heq => by rw [hrow, hmap, heq]⟩
  case found =>
    intro hsome
    rw [hrow, Option.isSome_bind, Option.any_eq_true] at hsome
    obtain ⟨i, hi, -⟩ := hsome
    obtain ⟨j, hj⟩ := Option.isSome_iff_exists.1 (isSome_place?_mono (by rw [hi]; rfl))
    have hlt : j < r.values.length := h.symm ▸ place?_lt hj
    rw [hmap, hj, Option.bind_some, List.getElem?_eq_getElem hlt]
    rfl

def shelfRow : Row := ⟨["Titel", "Übersetzer"], [.ofString "Atlas", .ofString "anonymous"]⟩

/-- In ASCII capitals both labels are found by row and map alike, also the one that starts with
another letter. -/
theorem finds_as_row_shelfRow :
    shelfRow.Full ∧ shelfRow.labels.Nodup ∧
      shelfRow.get? "TITEL" = some (.ofString "Atlas") ∧
      shelfRow.get? "TITEL" = (ofRow shelfRow).get? "TITEL" ∧
      shelfRow.get? "ÜBERSETZER" = (ofRow shelfRow).get? "ÜBERSETZER" := by
  have hfull : shelfRow.Full := rfl
  have hdistinct : shelfRow.labels.Nodup := by decide
  obtain ⟨-, -, htitle, hget⟩ := finds_as_row hfull hdistinct "TITEL"
  obtain ⟨-, -, htranslator, hget'⟩ := finds_as_row hfull hdistinct "ÜBERSETZER"
  refine ⟨hfull, hdistinct, rfl, hget (htitle.2 (.inr ?_)), hget' (htranslator.2 (.inr ?_))⟩
  · decide +kernel
  · decide +kernel

/-- With a small first letter the name is found in the map only. -/
theorem finds_differently_shelfRow :
    shelfRow.Full ∧ shelfRow.labels.Nodup ∧
      Text.fold "übersetzer" = Text.fold "Übersetzer" ∧
      shelfRow.get? "übersetzer" = none ∧
      (ofRow shelfRow).get? "übersetzer" = some (.ofString "anonymous") := by
  have hfull : shelfRow.Full := rfl
  have hdistinct : shelfRow.labels.Nodup := by decide
  have hplace : shelfRow.place? foldsAlike "übersetzer" = some 1 := by decide +kernel
  refine ⟨hfull, hdistinct, by decide +kernel, rfl, ?_⟩
  rw [get?_ofRow hfull hdistinct, hplace]
  rfl

end ColumnMap
end Quarry
