import Mathlib.Data.List.TakeWhile
import Quarry.Proofs.Text.Casing
import Quarry.Text.Blank
import Quarry.Url.Basic

/-!
# Schemes of urls

The scheme of a url stands before its first colon and is read in lower case. What a reader of urls
must do for this is said by `ReadsSchemes`; nothing else of it matters to who looks at the scheme
only. Letters, digits and the three signs of a scheme are no blanks and do not contain the colon,
so a text of them before `://` is read as it stands.
-/

namespace Quarry.Url

/-- A url that is taken has the scheme before the first colon of the characters that count. -/
def ReadsSchemes (scheme : String → Except UrlError String) : Prop :=
  ∀ s name, scheme s = .ok name → ∃ rest, splitScheme? (clean s) = some (name, rest)

theorem readsSchemes_scheme : ReadsSchemes scheme := by
  intro s name h
  rw [scheme] at h
  split at h
  · cases h
  · rename_i read rest hsplit
    cases hcheck : (Manner.ofScheme read).check rest with
    | error e =>
      rw [hcheck] at h
      cases h
    | ok u =>
      rw [hcheck] at h
      cases h
      exact ⟨rest, hsplit⟩

theorem isSchemeChar_toLower (c : Char) : isSchemeChar c.toLower = isSchemeChar c := by
  revert c
  exact Text.forall_char_of_capitals (by decide +kernel) fun c h => congrArg isSchemeChar h

theorem toLower_eq_plus_iff (c : Char) : c.toLower = '+' ↔ c = '+' := by
  revert c
  exact Text.forall_char_of_capitals (by decide +kernel) fun c h => by rw [h]

theorem isAlphanum_bounds {c : Char} (h : c.isAlphanum = true) :
    0x30 ≤ c.toNat ∧ c.toNat ≤ 0x7A := by
  rcases Bool.or_eq_true_iff.1 h with halpha | hdigit
  · rcases Bool.or_eq_true_iff.1 halpha with hupper | hlower
    · obtain ⟨hfirst, hlast⟩ : 0x41 ≤ c.toNat ∧ c.toNat ≤ 0x5A := of_decide_eq_true hupper
      omega
    · obtain ⟨hfirst, hlast⟩ := Bool.and_eq_true_iff.1 hlower
      have hfirst : 0x61 ≤ c.toNat := of_decide_eq_true hfirst
      have hlast : c.toNat ≤ 0x7A := of_decide_eq_true hlast
      omega
  · obtain ⟨hfirst, hlast⟩ : 0x30 ≤ c.toNat ∧ c.toNat ≤ 0x39 := Char.isDigit_iff_toNat.1 hdigit
    omega

theorem isSchemeChar_bounds {c : Char} (h : isSchemeChar c = true) :
    0x2B ≤ c.toNat ∧ c.toNat ≤ 0x7A := by
  simp only [isSchemeChar, Bool.or_eq_true, decide_eq_true_eq] at h
  rcases h with ((h | rfl) | rfl) | rfl
  · have hbounds := isAlphanum_bounds h
    omega
  · decide
  · decide
  · decide

theorem isBlank_of_isSchemeChar {c : Char} (h : isSchemeChar c = true) :
    Text.isBlank c = false := by
  have hbounds := isSchemeChar_bounds h
  rw [← Bool.not_eq_true, Text.isBlank, Text.Ranges.contains_iff]
  rintro ⟨p, hp, hrange⟩
  have hgap : ∀ p ∈ Text.blankRanges, p.2 < 0x2B ∨ 0x7A < p.1 := by decide
  have := hgap p hp
  omega

theorem dropWhile_of_neg {p : Char → Bool} {cs : List Char} (h : ∀ c ∈ cs, p c = false) :
    cs.dropWhile p = cs :=
  List.dropWhile_eq_self_iff.2 fun hlength => by simp [h _ (List.getElem_mem hlength)]

/-- Characters that count at the beginning of a text stay there. -/
theorem clean_append {front : List Char} (hne : front ≠ []) (hfront : ∀ c ∈ front, 0x20 < c.toNat)
    (rest : List Char) : ∃ rest', clean (String.ofList (front ++ rest)) = front ++ rest' := by
  have hcontrol : ∀ c ∈ front, isControlOrSpace c = false := fun c hc =>
    decide_eq_false (Nat.not_le.2 (hfront c hc))
  have hkept : front.filter (!isTabOrNewline ·) = front := by
    refine List.filter_eq_self.2 fun c hc => ?_
    have hkeep : ∀ d, d.toNat ≤ 0x20 → c ≠ d := fun d hd h =>
      absurd hd (Nat.not_le.2 (h ▸ hfront c hc))
    simp [isTabOrNewline, hkeep '\t' (by decide), hkeep '\n' (by decide), hkeep '\r' (by decide)]
  -- at the end only characters of the rest can be dropped
  have hend : ∃ rest', ((front ++ rest).reverse.dropWhile isControlOrSpace).reverse =
      front ++ rest' := by
    have hreverse : front.reverse.dropWhile isControlOrSpace = front.reverse :=
      dropWhile_of_neg fun c hc => hcontrol c (List.mem_reverse.1 hc)
    rw [List.reverse_append, List.dropWhile_append]
    split
    · exact ⟨[], by rw [hreverse, List.reverse_reverse, List.append_nil]⟩
    · exact ⟨_, by rw [List.reverse_append, List.reverse_reverse]⟩
  obtain ⟨rest', hrest⟩ := hend
  have hstart : (front ++ rest).dropWhile isControlOrSpace = front ++ rest := by
    rw [List.dropWhile_append, dropWhile_of_neg hcontrol, if_neg (by simpa using hne)]
  rw [clean, String.toList_ofList, hstart, hrest]
  exact ⟨rest'.filter (!isTabOrNewline ·), by rw [List.filter_append, hkept]⟩

/-- A scheme that is split off is the characters of schemes at the front, in lower case. -/
theorem eq_of_splitScheme? {cs rest : List Char} {scheme : String}
    (h : splitScheme? cs = some (scheme, rest)) :
    scheme = String.ofList ((cs.takeWhile isSchemeChar).map Char.toLower) := by
  cases cs with
  | nil => cases h
  | cons c cs =>
    simp only [splitScheme?] at h
    split_ifs at h with halpha
    split at h
    · rw [Option.some_inj, Prod.mk.injEq] at h
      exact h.1.symm
    · cases h

theorem ReadsSchemes.all_isSchemeChar {parse : String → Except UrlError String}
    (h : ReadsSchemes parse) {s scheme : String} (hs : parse s = .ok scheme) :
    ∀ c ∈ scheme.toList, isSchemeChar c = true := by
  obtain ⟨rest, hsplit⟩ := h _ _ hs
  rw [eq_of_splitScheme? hsplit, String.toList_ofList]
  refine List.forall_mem_map.2 fun c hc => ?_
  rw [isSchemeChar_toLower]
  exact List.mem_takeWhile_imp hc

/-- The name of a url that is taken is the text before `://`, in lower case. -/
theorem ReadsSchemes.eq_asciiLower {parse : String → Except UrlError String}
    (h : ReadsSchemes parse) {name rest : String}
    (hname : ∀ c ∈ name.toList, isSchemeChar c = true) {scheme : String}
    (hs : parse (name ++ "://" ++ rest) = .ok scheme) : scheme = Text.asciiLower name := by
  have hfront : ∀ c ∈ name.toList ++ "://".toList, 0x20 < c.toNat := by
    intro c hc
    have hslashes : "://".toList.all (fun c => 0x20 < c.toNat) = true := by decide
    rcases List.mem_append.1 hc with hc | hc
    · exact Nat.lt_of_lt_of_le (by decide) (isSchemeChar_bounds (hname c hc)).1
    · exact of_decide_eq_true (List.all_eq_true.1 hslashes c hc)
  obtain ⟨behind, hbehind⟩ := clean_append (by simp) hfront rest.toList
  obtain ⟨tail, hsplit⟩ := h _ _ hs
  have hchars : name ++ "://" ++ rest =
      String.ofList (name.toList ++ "://".toList ++ rest.toList) := by
    simp only [String.ofList_append, String.ofList_toList]
  have htake : (name.toList ++ "://".toList ++ behind).takeWhile isSchemeChar = name.toList := by
    rw [List.append_assoc, List.takeWhile_append_of_pos hname]
    exact List.append_nil _
  rw [hchars, hbehind] at hsplit
  rw [eq_of_splitScheme? hsplit, htake, Text.asciiLower]

end Quarry.Url
