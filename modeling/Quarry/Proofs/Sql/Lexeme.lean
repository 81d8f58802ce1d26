import Mathlib.Data.List.Basic
import Quarry.Sql.Statement

/-!
# Lexemes

The text of a statement is read from left to right into lexemes: quoted names, marks of
parameters, and every other character by itself. In a legible dialect reading takes back
what `Token.render` writes, whatever characters the names contain, as long as names and
marks are kept apart from the text behind them.
-/

namespace Quarry

inductive Lexeme where
  | name (name : String)
  /-- The mark of the parameter with this number. -/
  | mark (ordinal : Nat)
  /-- A character outside of names and marks. -/
  | char (c : Char)
  deriving DecidableEq

def Lexeme.marks : Lexeme → Nat
  | mark _ => 1
  | name _ | char _ => 0

def Lexeme.ordinals : List Lexeme → List Nat
  | [] => []
  | mark k :: ls => k :: ordinals ls
  | name _ :: ls | char _ :: ls => ordinals ls

def Lexeme.spell (s : String) : List Lexeme := s.toList.map .char

theorem Lexeme.ordinals_spell_append (s : String) (ls : List Lexeme) :
    ordinals (spell s ++ ls) = ordinals ls := by
  rw [spell]
  induction s.toList with
  | nil => rfl
  | cons c cs ih => exact ih

def isPlain (c : Char) : Bool := c.isUpper || c.isDigit || " \n*,.()=!<>".toList.contains c

def isPlainText (s : String) : Bool := s.toList.all isPlain

def isBreak (c : Char) : Bool := " \n,.)".toList.contains c

/-- Read the rest of a quoted name: a doubled closing delimiter stands for one, the first
that is not doubled ends the name. -/
def readQuoted (closing : Char) : List Char → Option (List Char × List Char)
  | [] => none
  | c :: cs =>
    if c = closing then
      match cs with
      | [] => some ([], [])
      | c' :: cs' =>
        if c' = closing then (readQuoted closing cs').map fun p => (closing :: p.1, p.2)
        else some ([], c' :: cs')
    else (readQuoted closing cs).map fun p => (c :: p.1, p.2)

namespace MarkerStyle

def sign : MarkerStyle → String
  | uniform mark => mark
  | numbered sign => sign

/-- Read a mark behind `bound` others; marks that do not show their number are counted, and a
number is shown without leading zeros. -/
def read? (bound : Nat) : MarkerStyle → List Char → Option (Nat × List Char)
  | uniform mark, cs => (cs.dropPrefix? mark.toList).map fun rest => (bound + 1, rest)
  | numbered sign, cs =>
    (cs.dropPrefix? sign.toList).bind fun rest =>
      let digits := rest.takeWhile Char.isDigit
      let ordinal := Nat.ofDigitChars 10 digits 0
      if digits = Nat.toDigits 10 ordinal then some (ordinal, rest.dropWhile Char.isDigit)
      else none

end MarkerStyle

namespace Dialect

def lexeme? (d : Dialect) (bound : Nat) : List Char → Option (Lexeme × List Char)
  | [] => none
  | c :: cs =>
    if c = d.opening then
      (readQuoted d.closing cs).map fun p => (.name (String.ofList p.1), p.2)
    else
      match d.marker.read? bound (c :: cs) with
      | some (k, rest) => some (.mark k, rest)
      | none => some (.char c, cs)

/-- Read a text behind `bound` marks; a quoted name that does not end has no reading. -/
def lex (d : Dialect) (bound : Nat) (cs : List Char) : Option (List Lexeme) :=
  if cs = [] then some []
  else
    match d.lexeme? bound cs with
    | none => none
    | some (x, rest) =>
      if rest.length < cs.length then (d.lex (bound + x.marks) rest).map (x :: ·) else none
termination_by cs.length

/-- Delimiters and signs are none of the plain characters, so that names and marks show
where they begin and names where they end. -/
structure Legible (d : Dialect) : Prop where
  opening : isPlain d.opening = false
  closing : isPlain d.closing = false
  marker : ∃ c cs, d.marker.sign.toList = c :: cs ∧ isPlain c = false ∧ c ≠ d.opening
  nullWord : d.nullWord ≠ "" ∧ isPlainText d.nullWord = true

/-- Every dialect with the usual delimiters, marks and words for NULL is legible, whatever
it supports and however its combinators bind. -/
theorem legible_of_usual {d : Dialect}
    (hq : (d.opening, d.closing) ∈ [('"', '"'), ('\x60', '\x60'), ('[', ']')])
    (hm : d.marker ∈ [MarkerStyle.uniform "?", .numbered "$", .numbered "@P", .numbered ":"])
    (hn : d.nullWord ∈ ["NULL", "DEFAULT"]) : d.Legible := by
  have hquotes : isPlain d.opening = false ∧ isPlain d.closing = false ∧
      d.opening ∈ ['"', '\x60', '['] := by
    simp only [List.mem_cons, Prod.mk.injEq, List.not_mem_nil, or_false] at hq
    rcases hq with ⟨ho, hc⟩ | ⟨ho, hc⟩ | ⟨ho, hc⟩ <;> rw [ho, hc] <;> decide
  have hsign : ∀ m ∈ [MarkerStyle.uniform "?", .numbered "$", .numbered "@P", .numbered ":"],
      ∀ o ∈ ['"', '\x60', '['],
        ∃ c cs, m.sign.toList = c :: cs ∧ isPlain c = false ∧ c ≠ o := by
    intro m hm o ho
    simp only [List.mem_cons, List.not_mem_nil, or_false] at hm ho
    rcases hm with rfl | rfl | rfl | rfl <;> refine ⟨_, _, rfl, by decide, ?_⟩ <;>
      rcases ho with rfl | rfl | rfl <;> decide
  refine ⟨hquotes.1, hquotes.2.1, hsign _ hm _ hquotes.2.2, ?_⟩
  simp only [List.mem_cons, List.not_mem_nil, or_false] at hn
  rcases hn with hn | hn <;> rw [hn] <;> decide

theorem legible_of_mem {d : Dialect} (hd : d ∈ [generic, postgres, mysql, sqlserver]) :
    d.Legible := by
  simp only [List.mem_cons, List.not_mem_nil, or_false] at hd
  rcases hd with rfl | rfl | rfl | rfl <;>
    exact legible_of_usual (by decide) (by decide) (by decide)

end Dialect

/-- What may follow a name or a mark: nothing, or a character that ends it. -/
def Breaks (cs : List Char) : Prop := ∀ c ∈ cs.head?, isBreak c = true

theorem isPlain_of_isBreak {c : Char} (h : isBreak c = true) : isPlain c = true := by
  have hall : " \n,.)".toList.all isPlain = true := by decide
  exact List.all_eq_true.1 hall c (List.contains_iff_mem.1 h)

theorem isDigit_of_isBreak {c : Char} (h : isBreak c = true) : c.isDigit = false := by
  have hall : " \n,.)".toList.all (!·.isDigit) = true := by decide
  simpa using List.all_eq_true.1 hall c (List.contains_iff_mem.1 h)

theorem readQuoted_escape (closing : Char) (cs : List Char) {rest : List Char}
    (h : ∀ c ∈ rest.head?, c ≠ closing) :
    readQuoted closing (escape closing [closing, closing] cs ++ closing :: rest) =
      some (cs, rest) := by
  induction cs with
  | nil =>
    cases rest with
    | nil => simp [escape, readQuoted]
    | cons c rest =>
      have hc : c ≠ closing := h c rfl
      simp [escape, readQuoted, hc]
  | cons c cs ih =>
    have hstep : escape closing [closing, closing] (c :: cs) =
        (if c = closing then [closing, closing] else [c]) ++
          escape closing [closing, closing] cs := rfl
    rw [hstep]
    by_cases hc : c = closing
    · rw [if_pos hc]
      simp [readQuoted, ih, hc]
    · rw [if_neg hc, List.singleton_append, List.cons_append, readQuoted.eq_def]
      simp [ih, hc]

theorem takeWhile_isDigit_toDigits (n : Nat) {rest : List Char} (h : Breaks rest) :
    (Nat.toDigits 10 n ++ rest).takeWhile Char.isDigit = Nat.toDigits 10 n ∧
      (Nat.toDigits 10 n ++ rest).dropWhile Char.isDigit = rest := by
  have hd : ∀ c ∈ Nat.toDigits 10 n, c.isDigit = true := fun c hc =>
    Nat.isDigit_of_mem_toDigits (by decide) (by decide) hc
  rw [List.takeWhile_append_of_pos hd, List.dropWhile_append_of_pos hd]
  cases rest with
  | nil => simp
  | cons c rest =>
    have hc : c.isDigit = false := isDigit_of_isBreak (h c rfl)
    simp [hc]

theorem MarkerStyle.read?_text (m : MarkerStyle) (bound : Nat) {rest : List Char}
    (h : Breaks rest) :
    m.read? bound ((m.text (bound + 1)).toList ++ rest) = some (bound + 1, rest) := by
  cases m with
  | uniform mark =>
    rw [read?, text, List.dropPrefix?_append_of_beq rest (beq_self_eq_true _)]
    rfl
  | numbered sign =>
    obtain ⟨ht, hr⟩ := takeWhile_isDigit_toDigits (bound + 1) h
    have hs : (text (bound + 1) (numbered sign)).toList ++ rest =
        sign.toList ++ (Nat.toDigits 10 (bound + 1) ++ rest) := by
      simp [text]
    rw [hs, read?, List.dropPrefix?_append_of_beq _ (beq_self_eq_true _), Option.bind_some]
    simp only [ht, hr, Nat.ofDigitChars_ten_toDigits, if_true]

namespace Dialect

variable {d : Dialect}

theorem lex_nil (d : Dialect) (n : Nat) : d.lex n [] = some [] := by
  rw [lex, if_pos rfl]

theorem lex_of_lexeme? {n : Nat} {cs rest : List Char} {x : Lexeme}
    (h : d.lexeme? n cs = some (x, rest)) (hl : rest.length < cs.length) :
    d.lex n cs = (d.lex (n + x.marks) rest).map (x :: ·) := by
  have hne : cs ≠ [] := by
    rintro rfl
    simp at hl
  rw [lex, if_neg hne, h]
  exact if_pos hl

theorem Legible.read?_plain (hd : d.Legible) (n : Nat) {c : Char} (hc : isPlain c = true)
    (cs : List Char) : d.marker.read? n (c :: cs) = none := by
  obtain ⟨s, ss, hs, hp, -⟩ := hd.marker
  have hne : (c == s) = false := by
    rw [beq_eq_false_iff_ne]
    rintro rfl
    rw [hp] at hc
    cases hc
  cases hm : d.marker with
  | uniform mark =>
    rw [hm] at hs
    have hs : mark.toList = s :: ss := hs
    simp [MarkerStyle.read?, hs, List.dropPrefix?, hne]
  | numbered sign =>
    rw [hm] at hs
    have hs : sign.toList = s :: ss := hs
    simp [MarkerStyle.read?, hs, List.dropPrefix?, hne]

theorem Legible.lex_plain (hd : d.Legible) (n : Nat) {c : Char} (hc : isPlain c = true)
    (cs : List Char) : d.lex n (c :: cs) = (d.lex n cs).map (.char c :: ·) := by
  have hne : c ≠ d.opening := by
    rintro rfl
    rw [hd.opening] at hc
    cases hc
  have hx : d.lexeme? n (c :: cs) = some (.char c, cs) := by
    rw [lexeme?, if_neg hne, hd.read?_plain n hc]
  exact lex_of_lexeme? hx (by simp)

theorem Legible.lex_plainText (hd : d.Legible) (n : Nat) {s : String}
    (hs : isPlainText s = true) (cs : List Char) :
    d.lex n (s.toList ++ cs) = (d.lex n cs).map (Lexeme.spell s ++ ·) := by
  rw [isPlainText] at hs
  rw [Lexeme.spell]
  generalize s.toList = text at hs ⊢
  induction text with
  | nil => simp
  | cons c text ih =>
    obtain ⟨hc, htext⟩ : isPlain c = true ∧ text.all isPlain = true := by simpa using hs
    rw [List.cons_append, hd.lex_plain n hc, ih htext, Option.map_map]
    rfl

theorem Legible.ne_closing (hd : d.Legible) {cs : List Char} (h : Breaks cs) :
    ∀ c ∈ cs.head?, c ≠ d.closing := by
  intro c hc he
  have hp := isPlain_of_isBreak (h c hc)
  rw [he, hd.closing] at hp
  cases hp

theorem toList_quote_append (d : Dialect) (name : String) (rest : List Char) :
    (d.quote name).toList ++ rest =
      d.opening :: (escape d.closing [d.closing, d.closing] name.toList ++ d.closing :: rest) := by
  simp [quote]

theorem Legible.lex_quote (hd : d.Legible) (n : Nat) (name : String) {cs : List Char}
    (h : Breaks cs) :
    d.lex n ((d.quote name).toList ++ cs) = (d.lex n cs).map (.name name :: ·) := by
  have hq := d.toList_quote_append name cs
  have hx : d.lexeme? n ((d.quote name).toList ++ cs) = some (.name name, cs) := by
    rw [hq, lexeme?, if_pos rfl, readQuoted_escape _ _ (hd.ne_closing h)]
    simp
  refine lex_of_lexeme? hx ?_
  rw [hq]
  simp only [List.length_cons, List.length_append]
  omega

theorem Legible.lex_marker (hd : d.Legible) (n : Nat) {cs : List Char} (h : Breaks cs) :
    d.lex n ((d.markerText (n + 1)).toList ++ cs) =
      (d.lex (n + 1) cs).map (.mark (n + 1) :: ·) := by
  obtain ⟨s, ss, hs, -, hne⟩ := hd.marker
  -- every mark begins with the sign of its style, so it is not taken for a name
  obtain ⟨ms, hm⟩ : ∃ ms, (d.markerText (n + 1)).toList = s :: ms := by
    cases hk : d.marker with
    | uniform mark =>
      rw [hk] at hs
      exact ⟨ss, by rw [markerText, hk]; exact hs⟩
    | numbered sign =>
      rw [hk] at hs
      have hs : sign.toList = s :: ss := hs
      exact ⟨ss ++ (toString (n + 1)).toList, by simp [markerText, hk, MarkerStyle.text, hs]⟩
  have hread : d.marker.read? n (s :: (ms ++ cs)) = some (n + 1, cs) := by
    rw [← List.cons_append, ← hm]
    exact d.marker.read?_text n h
  have hx : d.lexeme? n ((d.markerText (n + 1)).toList ++ cs) = some (.mark (n + 1), cs) := by
    rw [hm, List.cons_append, lexeme?, if_neg hne, hread]
  refine lex_of_lexeme? hx ?_
  rw [hm]
  simp only [List.length_cons, List.length_append]
  omega

end Dialect

namespace Token

/-- Tokens before which a name or a mark may stand: none, or a word that ends it. -/
def breaks : List Token → Bool
  | [] => true
  | word s :: _ => s.toList.head?.elim false isBreak
  | name _ :: _ | parameter _ :: _ | missing :: _ => false

/-- Words are plain, and every name and every mark is followed by a break. -/
def Apart : List Token → Prop
  | [] => True
  | word s :: ts => isPlainText s = true ∧ Apart ts
  | name _ :: ts | parameter _ :: ts => breaks ts = true ∧ Apart ts
  | missing :: ts => Apart ts

def lexemes (d : Dialect) (bound : Nat) : List Token → List Lexeme
  | [] => []
  | word s :: ts => Lexeme.spell s ++ lexemes d bound ts
  | name n :: ts => .name n :: lexemes d bound ts
  | parameter _ :: ts => .mark (bound + 1) :: lexemes d (bound + 1) ts
  | missing :: ts => Lexeme.spell d.nullWord ++ lexemes d bound ts

theorem lexemes_append (d : Dialect) (n : Nat) (as bs : List Token) :
    lexemes d n (as ++ bs) = lexemes d n as ++ lexemes d (n + (parameters as).length) bs := by
  induction as generalizing n with
  | nil => rfl
  | cons a as ih =>
    cases a with
    | parameter v =>
      have h : n + ((parameters as).length + 1) = n + 1 + (parameters as).length := by omega
      simp [lexemes, parameters, ih, h]
    | word s | name s | missing => simp [lexemes, parameters, ih]

/-- The marks of tokens are numbered on, one for each parameter. -/
theorem ordinals_lexemes (d : Dialect) (n : Nat) (ts : List Token) :
    Lexeme.ordinals (lexemes d n ts) = List.range' (n + 1) (parameters ts).length := by
  induction ts generalizing n with
  | nil => rfl
  | cons t ts ih =>
    cases t with
    | word s => rw [lexemes, Lexeme.ordinals_spell_append, ih, parameters]
    | name s => exact ih n
    | parameter v =>
      rw [lexemes, Lexeme.ordinals, ih, parameters, List.length_cons, List.range'_succ]
    | missing => rw [lexemes, Lexeme.ordinals_spell_append, ih, parameters]

theorem commaSeparated_cons_cons {part : List Token} (h : part ≠ []) (next : List Token)
    (parts : List (List Token)) :
    commaSeparated (part :: next :: parts) =
      part ++ .word ", " :: commaSeparated (next :: parts) := by
  simp [commaSeparated, Text.separated, h]

section

variable {α : Type} {f : α → List Token}

theorem parameters_commaSeparated (f : α → List Token) (as : List α) :
    parameters (commaSeparated (as.map f)) = as.flatMap fun a => parameters (f a) := by
  induction as with
  | nil => rfl
  | cons a as ih =>
    cases as with
    | nil => simp [commaSeparated]
    | cons b as =>
      rw [List.flatMap_cons, ← ih]
      by_cases h : f a = []
      · rw [List.map_cons, List.map_cons, h]
        rfl
      · rw [List.map_cons, List.map_cons, commaSeparated_cons_cons h, parameters_append]
        rfl

/-- Elements without parameters make a list without parameters. -/
theorem parameters_commaSeparated_of_nil (h : ∀ a, parameters (f a) = []) (as : List α) :
    parameters (commaSeparated (as.map f)) = [] := by
  rw [parameters_commaSeparated]
  simp [h]

theorem apart_commaSeparated (hne : ∀ a, f a ≠ [])
    (hf : ∀ a ts, breaks ts = true → Apart ts → Apart (f a ++ ts)) (as : List α)
    {ts : List Token} (hb : breaks ts = true) (ht : Apart ts) :
    Apart (commaSeparated (as.map f) ++ ts) := by
  induction as with
  | nil => exact ht
  | cons a as ih =>
    cases as with
    | nil => exact hf a ts hb ht
    | cons b as =>
      rw [List.map_cons, List.map_cons, commaSeparated_cons_cons (hne a), List.append_assoc,
        List.cons_append]
      exact hf a _ rfl ⟨rfl, ih⟩

end

theorem breaks_render {ts : List Token} (h : breaks ts = true) (d : Dialect) (n : Nat) :
    Breaks (render d n ts).toList := by
  cases ts with
  | nil =>
    intro c hc
    simp [render] at hc
  | cons t ts =>
    cases t with
    | name s | parameter v | missing => cases h
    | word s =>
      have hb : s.toList.head?.elim false isBreak = true := h
      intro c hc
      rw [render, String.toList_append] at hc
      cases hs : s.toList with
      | nil =>
        rw [hs] at hb
        cases hb
      | cons x xs =>
        rw [hs, List.cons_append, List.head?_cons, Option.mem_some] at hc
        rw [hs, hc] at hb
        exact hb

theorem lex_render {d : Dialect} (hd : d.Legible) (n : Nat) {ts : List Token} (h : Apart ts) :
    d.lex n (render d n ts).toList = some (lexemes d n ts) := by
  induction ts generalizing n with
  | nil => exact Dialect.lex_nil d n
  | cons t ts ih =>
    cases t with
    | word s =>
      rw [render, String.toList_append, hd.lex_plainText n h.1, ih n h.2]
      rfl
    | name s =>
      rw [render, String.toList_append, hd.lex_quote n s (breaks_render h.1 d n), ih n h.2]
      rfl
    | parameter v =>
      rw [render, String.toList_append, hd.lex_marker n (breaks_render h.1 d _), ih _ h.2]
      rfl
    | missing =>
      rw [render, String.toList_append, hd.lex_plainText n hd.nullWord.2, ih n h]
      rfl

end Token
end Quarry
