import Mathlib.Data.List.DropRight
import Quarry.Proofs.Text.Boundary
import Quarry.Sql.Query

/-!
# Truncated texts

A text is truncated by stepping back, byte by byte, from the longest size it may have to a
boundary, and slicing there. The steps never pass the beginning and the slice can always be taken;
what comes out is `takeBytes`, the longest beginning of at most that size. So the text that stands
for a query in logs and errors always exists and has at most 500 bytes.
-/

namespace Quarry.Text

theorem takeBytesChars_isPrefix (max : Nat) (cs : List Char) : takeBytesChars max cs <+: cs := by
  induction cs generalizing max with
  | nil => exact List.prefix_refl []
  | cons c cs ih =>
    rw [takeBytesChars]
    split
    · exact List.cons_prefix_cons.2 ⟨rfl, ih (max - c.utf8Size)⟩
    · exact List.nil_prefix

theorem utf8ByteSize_takeBytesChars_le (max : Nat) (cs : List Char) :
    (String.ofList (takeBytesChars max cs)).utf8ByteSize ≤ max := by
  induction cs generalizing max with
  | nil => simp [takeBytesChars]
  | cons c cs ih =>
    rw [takeBytesChars]
    split
    · have hrest := ih (max - c.utf8Size)
      rw [utf8ByteSize_ofList_cons]
      omega
    · simp

theorem isPrefix_takeBytesChars {max : Nat} {as cs : List Char} (h : as <+: cs)
    (hsize : (String.ofList as).utf8ByteSize ≤ max) : as <+: takeBytesChars max cs := by
  induction cs generalizing max as with
  | nil => exact h
  | cons c cs ih =>
    cases as with
    | nil => exact List.nil_prefix
    | cons a as =>
      obtain ⟨rfl, has⟩ := List.cons_prefix_cons.1 h
      rw [utf8ByteSize_ofList_cons] at hsize
      have hfits : a.utf8Size ≤ max := by omega
      rw [takeBytesChars, if_pos hfits]
      exact List.cons_prefix_cons.2 ⟨rfl, ih has (by omega)⟩

/-- `t` is the longest beginning of `s` that has at most `max` bytes and ends on a boundary. -/
structure IsLongestWithin (max : Nat) (s t : String) : Prop where
  begins : ∃ rest, s = t ++ rest
  size_le : t.utf8ByteSize ≤ max
  boundary : isBoundary s t.utf8ByteSize = true
  longest : ∀ offset ≤ max, isBoundary s offset = true → offset ≤ t.utf8ByteSize

theorem takeBytes_isLongestWithin (max : Nat) (s : String) :
    IsLongestWithin max s (takeBytes max s) := by
  obtain ⟨rest, hrest⟩ := takeBytesChars_isPrefix max s.toList
  have hs : s = takeBytes max s ++ String.ofList rest := by
    rw [takeBytes, ← String.ofList_append, hrest, String.ofList_toList]
  refine ⟨⟨_, hs⟩, utf8ByteSize_takeBytesChars_le max s.toList, ?_, fun offset hle hb => ?_⟩
  · have hb := isBoundary_append (takeBytes max s) (String.ofList rest)
    rwa [← hs] at hb
  · obtain ⟨a, b, hab, rfl⟩ := isBoundary_iff.1 hb
    have hprefix : a.toList <+: s.toList := ⟨b.toList, by rw [hab, String.toList_append]⟩
    have hfits : (String.ofList a.toList).utf8ByteSize ≤ max := by rwa [String.ofList_toList]
    obtain ⟨more, hmore⟩ := isPrefix_takeBytesChars hprefix hfits
    have hsize := utf8ByteSize_ofList_append a.toList more
    rw [hmore, String.ofList_toList] at hsize
    exact Nat.le_of_add_right_le hsize.ge

theorem takeBytes_of_le {max : Nat} {s : String} (h : s.utf8ByteSize ≤ max) :
    takeBytes max s = s := by
  have hprefix := isPrefix_takeBytesChars (List.prefix_refl s.toList)
    (show (String.ofList s.toList).utf8ByteSize ≤ max by rwa [String.ofList_toList])
  have hchars := (takeBytesChars_isPrefix max s.toList).eq_of_length_le hprefix.length_le
  rw [takeBytes, hchars, String.ofList_toList]

def boundaryUpTo? (s : String) : Nat → Option Nat
  | 0 => if isBoundary s 0 then some 0 else none
  | offset + 1 =>
    if isBoundary s (offset + 1) then some (offset + 1) else boundaryUpTo? s offset

theorem boundaryUpTo?_eq {s : String} {last offset : Nat} (hlast : isBoundary s last = true)
    (hle : last ≤ offset) (hmax : ∀ k ≤ offset, isBoundary s k = true → k ≤ last) :
    boundaryUpTo? s offset = some last := by
  induction offset with
  | zero =>
    obtain rfl : last = 0 := by omega
    exact if_pos hlast
  | succ offset ih =>
    by_cases hb : isBoundary s (offset + 1) = true
    · have hge := hmax (offset + 1) le_rfl hb
      obtain rfl : last = offset + 1 := by omega
      exact if_pos hb
    · have hne : last ≠ offset + 1 := by
        rintro rfl
        exact hb hlast
      rw [boundaryUpTo?, if_neg hb]
      exact ih (by omega) fun k hk => hmax k (by omega)

/-- Cut a text at the last boundary within `max` bytes. -/
def truncate? (max : Nat) (s : String) : Option String :=
  if s.utf8ByteSize ≤ max then some s
  else (boundaryUpTo? s max).bind fun stop => slice? s 0 stop

theorem truncate?_eq (max : Nat) (s : String) : truncate? max s = some (takeBytes max s) := by
  by_cases hfits : s.utf8ByteSize ≤ max
  · rw [truncate?, if_pos hfits, takeBytes_of_le hfits]
  · have h := takeBytes_isLongestWithin max s
    obtain ⟨rest, hs⟩ := h.begins
    have hslice := slice?_append "" (takeBytes max s) rest
    rw [String.empty_append, ← hs] at hslice
    rw [truncate?, if_neg hfits, boundaryUpTo?_eq h.boundary h.size_le h.longest, Option.bind_some]
    exact hslice

-- The offset 4 falls into the last character, which takes three bytes behind the first three.
example : truncate? 4 "aé日" = some "aé" := by decide +kernel

/-- `t` is `s` without the blanks at its end. -/
structure IsEndTrimmed (s t : String) : Prop where
  blanks : ∃ blanks : List Char, s.toList = t.toList ++ blanks ∧ blanks.all isBlank = true
  last : ∀ c ∈ t.toList.getLast?, isBlank c = false

theorem trimEnd_isEndTrimmed (s : String) : IsEndTrimmed s (trimEnd s) := by
  have hchars : (trimEnd s).toList = s.toList.rdropWhile isBlank := String.toList_ofList
  refine ⟨⟨s.toList.rtakeWhile isBlank, ?_, ?_⟩, fun c hc => ?_⟩
  · rw [hchars, List.rdropWhile_append_rtakeWhile]
  · exact List.all_eq_true.2 fun c hc => List.mem_rtakeWhile_imp hc
  · rw [hchars] at hc
    have hne : s.toList.rdropWhile isBlank ≠ [] := by
      intro h
      simp [h] at hc
    have hlast := List.rdropWhile_last_not isBlank s.toList hne
    rw [List.getLast?_eq_some_getLast hne, Option.mem_some_iff] at hc
    simpa [hc] using hlast

theorem IsEndTrimmed.utf8ByteSize_le {s t : String} (h : IsEndTrimmed s t) :
    t.utf8ByteSize ≤ s.utf8ByteSize := by
  obtain ⟨blanks, hs, -⟩ := h.blanks
  have hsize := utf8ByteSize_ofList_append t.toList blanks
  rw [← hs, String.ofList_toList, String.ofList_toList] at hsize
  omega

def abbreviate? (max : Nat) (s : String) : Option String :=
  (truncate? max s).map fun t => trimEnd t ++ if max < s.utf8ByteSize then "..." else ""

end Quarry.Text

namespace Quarry

open Text

/-- A truncated text is the longest beginning that fits. The text of a query always exists, has
at most 500 bytes, and is the statement without blanks at its end or a beginning of it with dots. -/
theorem Query.summary_fits (max : Nat) (s : String) (q : Query) :
    (truncate? max s = some (takeBytes max s) ∧ IsLongestWithin max s (takeBytes max s)) ∧
      abbreviate? 497 q.sql = some q.summary ∧ q.summary.utf8ByteSize ≤ 500 ∧
      if q.sql.utf8ByteSize ≤ 497 then IsEndTrimmed q.sql q.summary
      else ∃ t u, IsLongestWithin 497 q.sql t ∧ IsEndTrimmed t u ∧ q.summary = u ++ "..." := by
  have hcut := takeBytes_isLongestWithin 497 q.sql
  have htrim := trimEnd_isEndTrimmed (takeBytes 497 q.sql)
  refine ⟨⟨truncate?_eq max s, takeBytes_isLongestWithin max s⟩, ?_, ?_, ?_⟩
  · rw [abbreviate?, truncate?_eq, Option.map_some]
    rfl
  · have hsize : (trimEnd (takeBytes 497 q.sql)).utf8ByteSize ≤ 497 :=
      htrim.utf8ByteSize_le.trans hcut.size_le
    have hdots : "...".utf8ByteSize = 3 := by decide
    rw [summary, abbreviate, String.utf8ByteSize_append]
    split
    · omega
    · rw [String.utf8ByteSize_empty]
      omega
  · by_cases hfits : q.sql.utf8ByteSize ≤ 497
    · rw [if_pos hfits, summary, abbreviate, if_neg (Nat.not_lt.2 hfits), takeBytes_of_le hfits,
        String.append_empty]
      exact trimEnd_isEndTrimmed q.sql
    · rw [if_neg hfits, summary, abbreviate, if_pos (Nat.lt_of_not_le hfits)]
      exact ⟨_, _, hcut, htrim, rfl⟩

end Quarry
