import Mathlib.Data.List.Basic
import Quarry.Text.Separated

/-!
# Separators behind parts

The parts of a list are written into a buffer by a writer that may write nothing for some of them,
and the length of the buffer shows whether the part before wrote something. If it did, a separator
is written before the next part, whatever that writes. So the parts that wrote something are
joined by single separators, but one more stands at the end when only empty parts follow the last
of them (`writeSeparated_text`).
-/

namespace Quarry.Text

def shown (parts : List String) : List String := parts.filter (· ≠ "")

theorem shown_cons_empty (parts : List String) : shown ("" :: parts) = shown parts := rfl

theorem shown_cons_of_ne {p : String} (hp : p ≠ "") (parts : List String) :
    shown (p :: parts) = p :: shown parts :=
  List.filter_cons_of_pos (decide_eq_true hp)

theorem getLast?_of_shown_eq_nil {p : String} {parts : List String} (h : shown (p :: parts) = []) :
    (p :: parts).getLast? = some "" := by
  have hempty : ∀ r ∈ p :: parts, r = "" := by simpa [shown] using h
  rw [List.getLast?_eq_some_getLast (List.cons_ne_nil p parts),
    hempty _ (List.getLast_mem (List.cons_ne_nil p parts))]

/-- Whether some part is not empty, and the last one is. -/
def Trails (parts : List String) : Prop := shown parts ≠ [] ∧ parts.getLast? = some ""

instance (parts : List String) : Decidable (Trails parts) :=
  inferInstanceAs (Decidable (shown parts ≠ [] ∧ parts.getLast? = some ""))

theorem not_trails_singleton (p : String) : ¬ Trails [p] := by
  rintro ⟨hshown, hlast⟩
  rw [List.getLast?_singleton, Option.some_inj] at hlast
  exact hshown (by rw [hlast]; rfl)

/-- An empty part in front changes nothing. -/
theorem trails_cons_empty (q : String) (parts : List String) :
    Trails ("" :: q :: parts) ↔ Trails (q :: parts) := by
  rw [Trails, Trails, shown_cons_empty, List.getLast?_cons_cons]

/-- Behind a part that is not empty all that counts is how the parts end. -/
theorem trails_cons_of_ne {p : String} (hp : p ≠ "") (q : String) (parts : List String) :
    Trails (p :: q :: parts) ↔ (q :: parts).getLast? = some "" := by
  rw [Trails, shown_cons_of_ne hp, List.getLast?_cons_cons]
  exact and_iff_right (List.cons_ne_nil p _)

theorem joinSeparated_nil (start separator : String) :
    joinSeparated start separator [] = start := by
  simp [joinSeparated]

theorem joinSeparated_singleton (start separator p : String) :
    joinSeparated start separator [p] = start ++ p := by
  simp [joinSeparated]

/-- What was written first is part of what the rest is written behind. -/
theorem joinSeparated_cons_cons (start separator p q : String) (parts : List String) :
    joinSeparated start separator (p :: q :: parts) =
      joinSeparated (start ++ p ++ if p = "" then "" else separator) separator (q :: parts) := by
  by_cases hp : p = ""
  · simp [joinSeparated, separated, hp]
  · have hchars : p.toList ≠ [] := by simpa using hp
    simp [joinSeparated, separated, hp, hchars, String.append_assoc]

/-- The parts that are not empty, joined, and a separator behind them if they trail. -/
theorem joinSeparated_eq (start separator : String) (parts : List String) :
    joinSeparated start separator parts =
      start ++ separator.intercalate (shown parts) ++ if Trails parts then separator else "" := by
  induction parts generalizing start with
  | nil => simp [joinSeparated_nil, Trails, shown]
  | cons p parts ih =>
    cases parts with
    | nil =>
      rw [joinSeparated_singleton, if_neg (not_trails_singleton p)]
      by_cases hp : p = "" <;> simp [shown, hp]
    | cons q parts =>
      rw [joinSeparated_cons_cons, ih]
      by_cases hp : p = ""
      · rw [hp, shown_cons_empty]
        simp only [trails_cons_empty, if_true, String.append_empty]
      · rw [shown_cons_of_ne hp, if_neg hp]
        simp only [trails_cons_of_ne hp]
        by_cases hrest : shown (q :: parts) = []
        · -- only empty parts follow, so the separator behind `p` is the last thing written
          have hnot : ¬ Trails (q :: parts) := fun h => h.1 hrest
          rw [if_neg hnot, if_pos (getLast?_of_shown_eq_nil hrest), hrest]
          simp [String.append_assoc]
        · rw [String.intercalate_cons_of_ne_nil hrest]
          simp only [Trails, ne_eq, hrest, not_false_eq_true, true_and, String.append_assoc]

section

variable {σ α : Type} (separator : String) (write : σ → String → α → String × σ)

/-- Write the rest of a list behind `out`, whose last part began at `len`. A writer has a state and
sees what is written so far; it gives the text that it writes. The result is the text that was
written for each value, and the whole text. -/
def writeSeparatedFrom (len : Nat) (state : σ) (out : String) : List α → List String × String
  | [] => ([], out)
  | v :: vs =>
    let out := if len < out.utf8ByteSize then out ++ separator else out
    let written := write state out v
    let rest := writeSeparatedFrom out.utf8ByteSize written.2 (out ++ written.1) vs
    (written.1 :: rest.1, rest.2)

def writeSeparated (state : σ) (start : String) (values : List α) : List String × String :=
  writeSeparatedFrom separator write start.utf8ByteSize state start values

/-- Each text is what the writer gives for its value, in some state and behind some text. -/
theorem forall₂_writeSeparatedFrom (len : Nat) (state : σ) (out : String) (values : List α) :
    List.Forall₂ (fun v part => ∃ state out, (write state out v).1 = part) values
      (writeSeparatedFrom separator write len state out values).1 := by
  induction values generalizing len state out with
  | nil => exact .nil
  | cons v vs ih => exact .cons ⟨_, _, rfl⟩ (ih _ _ _)

theorem lt_utf8ByteSize_append_iff {s t : String} :
    s.utf8ByteSize < (s ++ t).utf8ByteSize ↔ t ≠ "" := by
  have hzero : t.utf8ByteSize = 0 ↔ t = "" := String.utf8ByteSize_eq_zero_iff
  rw [String.utf8ByteSize_append, ne_eq, ← hzero]
  omega

/-- Once it is settled whether a separator stands before the next part, the parts are joined. -/
theorem writeSeparatedFrom_cons (len : Nat) (state : σ) (out : String) (v : α) (vs : List α) :
    (writeSeparatedFrom separator write len state out (v :: vs)).2 =
      joinSeparated (if len < out.utf8ByteSize then out ++ separator else out) separator
        (writeSeparatedFrom separator write len state out (v :: vs)).1 := by
  induction vs generalizing len state out v with
  | nil => exact (joinSeparated_singleton _ separator _).symm
  | cons w vs ih =>
    simp only [writeSeparatedFrom.eq_2 (v := v)]
    generalize (if len < out.utf8ByteSize then out ++ separator else out) = out
    generalize write state out v = written
    obtain ⟨part, state⟩ := written
    have hrest := ih out.utf8ByteSize state (out ++ part) w
    obtain ⟨q, parts, hparts⟩ : ∃ q parts,
        (writeSeparatedFrom separator write out.utf8ByteSize state (out ++ part) (w :: vs)).1 =
          q :: parts := ⟨_, _, rfl⟩
    simp only [lt_utf8ByteSize_append_iff] at hrest
    rw [hrest, hparts, joinSeparated_cons_cons]
    by_cases hpart : part = "" <;> simp [hpart]

/-- One text is written for each value. The whole is what stood there first, the texts that are not
empty joined by separators, and a separator more if the last text is empty and some text is not. -/
theorem writeSeparated_text (state : σ) (start : String) (values : List α) :
    let (parts, whole) := writeSeparated separator write state start values
    List.Forall₂ (fun v part => ∃ state out, (write state out v).1 = part) values parts ∧
      whole = joinSeparated start separator parts ∧
      whole = start ++ separator.intercalate (shown parts) ++
        if Trails parts then separator else "" := by
  have hwhole : (writeSeparated separator write state start values).2 =
      joinSeparated start separator (writeSeparated separator write state start values).1 := by
    cases values with
    | nil => exact (joinSeparated_nil start separator).symm
    | cons v vs =>
      have h := writeSeparatedFrom_cons separator write start.utf8ByteSize state start v vs
      rwa [if_neg (Nat.lt_irrefl _)] at h
  exact ⟨forall₂_writeSeparatedFrom separator write _ state start values, hwhole,
    hwhole.trans (joinSeparated_eq start separator _)⟩

end

def asItIs (state : Unit) (_ : String) (v : String) : String × Unit := (v, state)

/-- Behind the only value that writes something there is a separator, and nothing behind that. -/
theorem writeSeparated_emptyLast :
    (writeSeparated ", " asItIs () "" ["a", ""]).1 = ["a", ""] ∧
      (writeSeparated ", " asItIs () "" ["a", ""]).2 = "a, " ∧
      (writeSeparated ", " asItIs () "" ["a", ""]).2 ≠
        "" ++ ", ".intercalate (shown ["a", ""]) := by
  decide

end Quarry.Text
