import Quarry.Proofs.Sql.Lexeme

/-!
# Reading lexemes

Readers take what they expect from the front of a list of lexemes and leave the rest. A
reader of list elements becomes a reader of lists, and takes back every list whose
elements it takes back.
-/

namespace Quarry

namespace Lexeme

theorem spell_append (s t : String) : spell (s ++ t) = spell s ++ spell t := by
  simp [spell]

def expect (s : String) (ls : List Lexeme) : Option (List Lexeme) := ls.dropPrefix? (spell s)

def clash (s t : String) : Bool :=
  !s.toList.isPrefixOf t.toList && !t.toList.isPrefixOf s.toList

@[simp]
theorem expect_spell (s : String) (ls : List Lexeme) : expect s (spell s ++ ls) = some ls :=
  List.dropPrefix?_append_of_beq ls (beq_self_eq_true _)

theorem expect_eq_some_iff {s : String} {ls rest : List Lexeme} :
    expect s ls = some rest ↔ ls = spell s ++ rest := by
  rw [expect, List.dropPrefix?_eq_some_iff]
  constructor
  · rintro ⟨p, hp, he⟩
    rw [hp, eq_of_beq he]
  · intro h
    exact ⟨_, h, beq_self_eq_true _⟩

theorem expect_append (s t : String) (ls : List Lexeme) :
    expect (s ++ t) (spell s ++ ls) = expect t ls := by
  ext rest
  rw [expect_eq_some_iff, expect_eq_some_iff, spell_append, List.append_assoc,
    List.append_cancel_left_eq]

theorem char_injective : Function.Injective Lexeme.char := fun _ _ h => by
  injection h

theorem expect_spell_of_clash {s t : String} (h : clash s t = true) (ls : List Lexeme) :
    expect s (spell t ++ ls) = none := by
  by_contra hne
  obtain ⟨rest, hr⟩ := Option.ne_none_iff_exists'.1 hne
  have he : spell t ++ ls = spell s ++ rest := expect_eq_some_iff.1 hr
  have hs : spell s <+: spell t ++ ls := ⟨rest, he.symm⟩
  simp only [clash, Bool.and_eq_true, Bool.not_eq_true', Bool.eq_false_iff, ne_eq,
    List.isPrefixOf_iff_prefix] at h
  rcases List.prefix_or_prefix_of_prefix hs (List.prefix_append _ _) with hp | hp
  · exact h.1 ((List.prefix_map_iff_of_injective char_injective).1 hp)
  · exact h.2 ((List.prefix_map_iff_of_injective char_injective).1 hp)

theorem expect_nil {s : String} (h : s.toList ≠ []) : expect s [] = none := by
  by_contra hne
  obtain ⟨rest, hr⟩ := Option.ne_none_iff_exists'.1 hne
  have he := expect_eq_some_iff.1 hr
  simp [spell, h] at he

theorem expect_cons_of_ne_char {s : String} (h : s.toList ≠ []) {x : Lexeme}
    (hx : ∀ c, x ≠ .char c) (ls : List Lexeme) : expect s (x :: ls) = none := by
  by_contra hne
  obtain ⟨rest, hr⟩ := Option.ne_none_iff_exists'.1 hne
  have he := expect_eq_some_iff.1 hr
  cases hs : s.toList with
  | nil => exact h hs
  | cons c cs =>
    rw [spell, hs, List.map_cons, List.cons_append, List.cons.injEq] at he
    exact hx c he.1

/-- What stands behind a clause: nothing, or a new line. -/
def Fresh (ls : List Lexeme) : Prop := ls = [] ∨ ∃ rest, ls = .char '\n' :: rest

theorem expect_fresh {s : String} {ls : List Lexeme} (h : Fresh ls)
    (hs : s.toList.head?.elim false (· ≠ '\n') = true) : expect s ls = none := by
  by_contra hne
  obtain ⟨rest, hr⟩ := Option.ne_none_iff_exists'.1 hne
  have he := expect_eq_some_iff.1 hr
  cases hc : s.toList with
  | nil => simp [hc] at hs
  | cons c cs =>
    rw [spell, hc, List.map_cons, List.cons_append] at he
    rw [hc] at hs
    have hs : decide (c ≠ '\n') = true := hs
    rcases h with rfl | ⟨rest', rfl⟩
    · cases he
    · rw [List.cons.injEq, Lexeme.char.injEq] at he
      exact of_decide_eq_true hs he.1.symm

/-- Nothing, or a text that begins with one of these words. -/
def Begins (words : List String) (ls : List Lexeme) : Prop :=
  ls = [] ∨ ∃ s ∈ words, ∃ rest, ls = spell s ++ rest

/-- A text that clashes with all the words is not read where one of them stands. -/
theorem Begins.expect {words : List String} {ls : List Lexeme} (h : Begins words ls)
    {s : String} (hw : ∀ t ∈ words, clash s t = true) (hs : s.toList ≠ []) :
    expect s ls = none := by
  rcases h with rfl | ⟨t, ht, rest, rfl⟩
  · exact expect_nil hs
  · exact expect_spell_of_clash (hw t ht) rest

theorem Begins.fresh {words : List String} {ls : List Lexeme} (h : Begins words ls)
    (hw : ∀ t ∈ words, t.toList.head? = some '\n') : Fresh ls := by
  rcases h with rfl | ⟨t, ht, rest, rfl⟩
  · exact Or.inl rfl
  · obtain ⟨cs, hc⟩ := List.head?_eq_some_iff.1 (hw t ht)
    exact Or.inr ⟨_, by rw [spell, hc]; rfl⟩

def readName : List Lexeme → Option (String × List Lexeme)
  | .name n :: ls => some (n, ls)
  | _ => none

def readMark : List Lexeme → Option (Nat × List Lexeme)
  | .mark k :: ls => some (k, ls)
  | _ => none

def readDigits : List Lexeme → List Char × List Lexeme
  | .char c :: ls =>
    if c.isDigit then (c :: (readDigits ls).1, (readDigits ls).2) else ([], .char c :: ls)
  | ls => ([], ls)

def readNumber (ls : List Lexeme) : Option (Nat × List Lexeme) :=
  if (readDigits ls).1 = [] then none
  else some (Nat.ofDigitChars 10 (readDigits ls).1 0, (readDigits ls).2)

def NoDigit (ls : List Lexeme) : Prop := ∀ c ∈ ls.head?, ∀ x, c = .char x → x.isDigit = false

theorem readDigits_append {cs : List Char} (hc : ∀ c ∈ cs, c.isDigit = true)
    {ls : List Lexeme} (h : NoDigit ls) : readDigits (cs.map .char ++ ls) = (cs, ls) := by
  induction cs with
  | nil =>
    cases ls with
    | nil => rfl
    | cons x ls =>
      cases x with
      | name n | mark k => rfl
      | char c =>
        have hx : c.isDigit = false := h _ rfl c rfl
        simp [readDigits, hx]
  | cons c cs ih =>
    have hd : c.isDigit = true := hc c (by simp)
    have hr := ih fun x hx => hc x (by simp [hx])
    simp [readDigits, hd, hr]

theorem noDigit_spell {s : String} (h : s.toList.head?.elim false (!·.isDigit) = true)
    (ls : List Lexeme) : NoDigit (spell s ++ ls) := by
  intro c hc x hx
  cases hs : s.toList with
  | nil =>
    rw [hs] at h
    cases h
  | cons y ys =>
    rw [spell, hs, List.map_cons, List.cons_append, List.head?_cons, Option.mem_some, hx] at hc
    rw [hs] at h
    injection hc with hc
    subst hc
    simpa using h

theorem noDigit_nil : NoDigit [] := by
  intro c hc
  cases hc

theorem readNumber_spell (n : Nat) {ls : List Lexeme} (h : NoDigit ls) :
    readNumber (spell (toString n) ++ ls) = some (n, ls) := by
  have hr : readDigits (spell (toString n) ++ ls) = (Nat.toDigits 10 n, ls) := by
    rw [spell, Nat.toString_eq_repr, Nat.toList_repr]
    exact readDigits_append
      (fun c hc => Nat.isDigit_of_mem_toDigits (by decide) (by decide) hc) h
  rw [readNumber, hr, if_neg Nat.toDigits_ne_nil, Nat.ofDigitChars_ten_toDigits]

def readList {α : Type} (item : List Lexeme → Option (α × List Lexeme)) (ls : List Lexeme) :
    Option (List α × List Lexeme) :=
  match item ls with
  | none => none
  | some (a, rest) =>
    match expect ", " rest with
    | none => some ([a], rest)
    | some rest' =>
      if rest'.length < ls.length then
        (readList item rest').map fun p => (a :: p.1, p.2)
      else none
termination_by ls.length

end Lexeme

def placed {α β : Type} (tokens : α → List Token) (read : Nat → α → β) :
    Nat → List α → List β
  | _, [] => []
  | bound, a :: as =>
    read bound a :: placed tokens read (bound + (Token.parameters (tokens a)).length) as

namespace Lexeme

theorem readList_lexemes {α β : Type} {item : List Lexeme → Option (β × List Lexeme)}
    {d : Dialect} {tokens : α → List Token} {read : Nat → α → β}
    (hi : ∀ n a ls, item (Token.lexemes d n (tokens a) ++ ls) = some (read n a, ls))
    (hne : ∀ a, tokens a ≠ []) (n : Nat) {as : List α} (has : as ≠ []) {ls : List Lexeme}
    (hl : expect ", " ls = none) :
    readList item (Token.lexemes d n (commaSeparated (as.map tokens)) ++ ls) =
      some (placed tokens read n as, ls) := by
  induction as generalizing n with
  | nil => exact absurd rfl has
  | cons a as ih =>
    cases as with
    | nil =>
      rw [List.map_cons, List.map_nil, commaSeparated, Text.separated_singleton, readList, hi]
      simp only [hl]
      rfl
    | cons b as =>
      have hlex : Token.lexemes d n (commaSeparated ((a :: b :: as).map tokens)) ++ ls =
          Token.lexemes d n (tokens a) ++ (spell ", " ++
            (Token.lexemes d (n + (Token.parameters (tokens a)).length)
              (commaSeparated ((b :: as).map tokens)) ++ ls)) := by
        rw [List.map_cons, List.map_cons, Token.commaSeparated_cons_cons (hne a),
          Token.lexemes_append, Token.lexemes]
        simp only [List.append_assoc]
      rw [hlex, readList, hi]
      simp only [expect_spell]
      rw [if_pos (by simp [spell]; omega), ih _ (by simp)]
      rfl

end Lexeme
end Quarry
