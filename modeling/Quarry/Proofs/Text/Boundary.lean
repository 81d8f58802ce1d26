import Mathlib.Data.List.Basic

/-!
# Boundaries of characters

An offset into a text counts the bytes of its UTF-8 form. It is a boundary if a character begins
there or the text ends, and a slice can only be taken from one boundary to another. A slice that
cannot be taken is `none` here: it stops the program that asks for it.
-/

namespace Quarry.Text

theorem utf8ByteSize_ofList_append (as bs : List Char) :
    (String.ofList (as ++ bs)).utf8ByteSize =
      (String.ofList as).utf8ByteSize + (String.ofList bs).utf8ByteSize := by
  rw [String.ofList_append, String.utf8ByteSize_append]

theorem utf8ByteSize_ofList_cons (c : Char) (cs : List Char) :
    (String.ofList (c :: cs)).utf8ByteSize = c.utf8Size + (String.ofList cs).utf8ByteSize := by
  have hc : (String.ofList [c]).utf8ByteSize = c.utf8Size := by
    rw [← String.singleton_eq_ofList, String.utf8ByteSize_singleton]
  rw [← hc, ← utf8ByteSize_ofList_append, List.singleton_append]

def isBoundary (s : String) (offset : Nat) : Bool := (String.Pos.Raw.mk offset).isValid s

theorem isBoundary_iff {s : String} {offset : Nat} :
    isBoundary s offset = true ↔ ∃ a b, s = a ++ b ∧ offset = a.utf8ByteSize := by
  rw [isBoundary, String.Pos.Raw.isValid_eq_true_iff, String.Pos.Raw.isValid_iff_exists_append]
  simp only [String.Pos.Raw.ext_iff, String.byteIdx_rawEndPos]

theorem isBoundary_append (a b : String) : isBoundary (a ++ b) a.utf8ByteSize = true :=
  isBoundary_iff.2 ⟨a, b, rfl, rfl⟩

/-- The text between two offsets, which must be boundaries in this order. -/
def slice? (s : String) (start stop : Nat) : Option String :=
  if h : start ≤ stop ∧ isBoundary s start = true ∧ isBoundary s stop = true then
    some (String.extract ⟨⟨start⟩, String.Pos.Raw.isValid_eq_true_iff.1 h.2.1⟩
      ⟨⟨stop⟩, String.Pos.Raw.isValid_eq_true_iff.1 h.2.2⟩)
  else none

theorem extract_toByteArray_append (a b c : String) :
    (a ++ b ++ c).toByteArray.extract a.utf8ByteSize (a ++ b).utf8ByteSize = b.toByteArray := by
  rw [← String.size_toByteArray, ← String.size_toByteArray, String.toByteArray_append,
    ByteArray.extract_append_size_left, String.toByteArray_append]
  exact ByteArray.extract_append_eq_right rfl ByteArray.size_append

/-- A part of a text is the slice between the size of what stands before it and that size with
its own. -/
theorem slice?_append (a b c : String) :
    slice? (a ++ b ++ c) a.utf8ByteSize (a ++ b).utf8ByteSize = some b := by
  have hstart : isBoundary (a ++ b ++ c) a.utf8ByteSize = true := by
    rw [String.append_assoc]
    exact isBoundary_append a (b ++ c)
  have hle : a.utf8ByteSize ≤ (a ++ b).utf8ByteSize := by
    rw [String.utf8ByteSize_append]
    exact Nat.le_add_right _ _
  rw [slice?, dif_pos ⟨hle, hstart, isBoundary_append (a ++ b) c⟩, Option.some_inj]
  exact String.toByteArray_inj.1 (extract_toByteArray_append a b c)

theorem slice?_ofList (as bs cs : List Char) :
    slice? (String.ofList (as ++ bs ++ cs)) (String.ofList as).utf8ByteSize
        (String.ofList (as ++ bs)).utf8ByteSize = some (String.ofList bs) := by
  rw [String.ofList_append, String.ofList_append]
  exact slice?_append _ _ _

end Quarry.Text
