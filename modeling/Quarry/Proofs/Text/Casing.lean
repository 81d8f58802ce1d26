import Quarry.Text.Ascii
import Quarry.Text.Casing

/-!
# The letters of ASCII in lower case

Lower case treats a letter of ASCII and its small form alike, also when it looks for the end of
a word. So texts that differ in the case of such letters only have the same fold
(`fold_eq_of_equalsIgnoringAsciiCase`); the converse fails.
-/

namespace Quarry.Text

def asciiCapitals : List Char := (List.range 26).map fun n => Char.ofNat (65 + n)

theorem toLower_eq_self {c : Char} (h : c ∉ asciiCapitals) : c.toLower = c := by
  refine dif_neg ?_
  rintro ⟨hlower, hupper⟩
  have hfirst : 65 ≤ c.toNat := hlower
  have hlast : c.toNat ≤ 90 := hupper
  refine h (List.mem_map.2 ⟨c.toNat - 65, List.mem_range.2 (by omega), ?_⟩)
  have hsum : 65 + (c.toNat - 65) = c.toNat := by omega
  rw [hsum, Char.ofNat_toNat]

/-- What holds of the capital letters of ASCII and of every character that is its own lower
case holds of all characters. -/
theorem forall_char_of_capitals {P : Char → Prop} [DecidablePred P]
    (hcapital : asciiCapitals.all (fun c => P c) = true)
    (hself : ∀ c : Char, c.toLower = c → P c) (c : Char) : P c := by
  by_cases h : c ∈ asciiCapitals
  · exact of_decide_eq_true (List.all_eq_true.1 hcapital c h)
  · exact hself c (toLower_eq_self h)

theorem isCased_toLower (c : Char) : isCased c.toLower = isCased c := by
  revert c
  exact forall_char_of_capitals (by decide +kernel) fun c h => congrArg isCased h

theorem isCaseIgnorable_toLower (c : Char) : isCaseIgnorable c.toLower = isCaseIgnorable c := by
  revert c
  exact forall_char_of_capitals (by decide +kernel) fun c h => congrArg isCaseIgnorable h

theorem lowerChar_toLower (c : Char) : lowerChar c.toLower = lowerChar c := by
  revert c
  exact forall_char_of_capitals (by decide +kernel) fun c h => congrArg lowerChar h

theorem toLower_eq_sigma_iff (c : Char) : c.toLower = '\u03A3' ↔ c = '\u03A3' := by
  revert c
  exact forall_char_of_capitals (by decide +kernel) fun c h => by rw [h]

theorem meetsCased_map_toLower (cs : List Char) :
    meetsCased (cs.map Char.toLower) = meetsCased cs := by
  have hignorable : isCaseIgnorable ∘ Char.toLower = isCaseIgnorable :=
    funext isCaseIgnorable_toLower
  rw [meetsCased, meetsCased, List.dropWhile_map, hignorable]
  cases cs.dropWhile isCaseIgnorable with
  | nil => rfl
  | cons c cs => exact isCased_toLower c

theorem lowerAfter_map_toLower (before cs : List Char) :
    lowerAfter (before.map Char.toLower) (cs.map Char.toLower) = lowerAfter before cs := by
  induction cs generalizing before with
  | nil => rfl
  | cons c cs ih =>
    rw [List.map_cons, lowerAfter, lowerAfter, ← List.map_cons, ih, lowerChar_toLower,
      meetsCased_map_toLower, meetsCased_map_toLower]
    simp only [toLower_eq_sigma_iff]

theorem fold_asciiLower (s : String) : fold (asciiLower s) = fold s := by
  have hchars : (asciiLower s).toList = s.toList.map Char.toLower := String.toList_ofList
  have hlower := lowerAfter_map_toLower [] s.toList
  rw [fold, fold, hchars]
  exact congrArg String.ofList hlower

theorem fold_eq_of_equalsIgnoringAsciiCase {s t : String} (h : equalsIgnoringAsciiCase s t = true) :
    fold s = fold t := by
  rw [← fold_asciiLower s, ← fold_asciiLower t, eq_of_beq h]

-- The sign of the kelvin folds like the letter, and is another character.
example : fold "\u212A" = fold "k" ∧ equalsIgnoringAsciiCase "\u212A" "k" = false := by
  decide +kernel

end Quarry.Text
