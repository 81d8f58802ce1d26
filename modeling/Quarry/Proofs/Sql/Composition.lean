import Quarry.Proofs.Sql.StatementText
import Quarry.Proofs.Sql.Writing

/-!
# Statements behind one another

What a statement adds to a draft depends on the draft in two things only: whether there is
text to begin a new line behind, and how many values are bound before its own. A text with
marks that can be moved is a list of lexemes (`Dialect.lexemes`); behind `n` values it is the
same list with `n` added to every mark (`Token.lexemes_shift`). Statements written one after
another are therefore numbered on (`Dialect.numbered`), and their text is read as all their
lexemes with newlines between them.
-/

namespace Quarry

namespace Lexeme

def shift (n : Nat) : Lexeme → Lexeme
  | mark k => mark (n + k)
  | name s => name s
  | char c => char c

theorem map_shift_spell (n : Nat) (s : String) : (spell s).map (shift n) = spell s := by
  rw [spell, List.map_map]
  rfl

theorem ordinals_append (as bs : List Lexeme) :
    ordinals (as ++ bs) = ordinals as ++ ordinals bs := by
  induction as with
  | nil => rfl
  | cons a as ih => cases a <;> simp [ordinals, ih]

theorem ordinals_intercalate (c : Char) (lss : List (List Lexeme)) :
    ordinals ([char c].intercalate lss) = ordinals lss.flatten := by
  induction lss with
  | nil => rfl
  | cons ls lss ih =>
    cases lss with
    | nil => simp
    | cons ms lss =>
      rw [List.intercalate_cons_cons, List.flatten_cons, ordinals_append, ordinals_append,
        ordinals_append, ih]
      simp [ordinals]

end Lexeme

def Dialect.textOf (d : Dialect) : List Lexeme → String
  | [] => ""
  | .name s :: ls => d.quote s ++ d.textOf ls
  | .mark k :: ls => d.markerText k ++ d.textOf ls
  | .char c :: ls => String.singleton c ++ d.textOf ls

theorem Dialect.textOf_spell_append (d : Dialect) (s : String) (ls : List Lexeme) :
    d.textOf (Lexeme.spell s ++ ls) = s ++ d.textOf ls := by
  have h : ∀ cs : List Char, d.textOf (cs.map .char ++ ls) = String.ofList cs ++ d.textOf ls := by
    intro cs
    induction cs with
    | nil => simp
    | cons c cs ih =>
      rw [List.map_cons, List.cons_append, textOf, ih, String.ofList_cons, String.append_assoc]
  rw [Lexeme.spell, h, String.ofList_toList]

theorem Dialect.textOf_append (d : Dialect) (as bs : List Lexeme) :
    d.textOf (as ++ bs) = d.textOf as ++ d.textOf bs := by
  induction as with
  | nil => simp [textOf]
  | cons a as ih => cases a <;> simp [textOf, ih, String.append_assoc]

theorem Dialect.textOf_intercalate (d : Dialect) (c : Char) (lss : List (List Lexeme)) :
    d.textOf ([.char c].intercalate lss) = (String.singleton c).intercalate (lss.map d.textOf) := by
  induction lss with
  | nil => rfl
  | cons ls lss ih =>
    cases lss with
    | nil => simp
    | cons ms lss =>
      rw [List.intercalate_cons_cons, textOf_append, textOf_append, ih]
      simp [textOf, String.intercalate_cons_cons]

namespace Token

theorem render_eq_textOf (d : Dialect) (n : Nat) (ts : List Token) :
    render d n ts = d.textOf (lexemes d n ts) := by
  induction ts generalizing n with
  | nil => rfl
  | cons t ts ih =>
    cases t with
    | word s | missing => rw [render, lexemes, Dialect.textOf_spell_append, ih]
    | name s => rw [render, lexemes, Dialect.textOf, ih]
    | parameter v => rw [render, lexemes, Dialect.textOf, ih]

/-- Behind `n` more parameters every mark has a number that is greater by `n`. -/
theorem lexemes_shift (d : Dialect) (n m : Nat) (ts : List Token) :
    lexemes d (n + m) ts = (lexemes d m ts).map (Lexeme.shift n) := by
  induction ts generalizing m with
  | nil => rfl
  | cons t ts ih =>
    cases t with
    | word s | missing => rw [lexemes, lexemes, List.map_append, Lexeme.map_shift_spell, ih]
    | name s => rw [lexemes, lexemes, List.map_cons, ih, Lexeme.shift]
    | parameter v =>
      rw [lexemes, lexemes, List.map_cons, Nat.add_assoc, ih, Lexeme.shift]

theorem breaks_append {as bs : List Token} (ha : breaks as = true) (hb : breaks bs = true) :
    breaks (as ++ bs) = true := by
  cases as with
  | nil => exact hb
  | cons a as =>
    cases a with
    | word s => exact ha
    | name s | parameter v | missing => cases ha

theorem apart_append {as bs : List Token} (ha : Apart as) (hb : Apart bs)
    (hbreaks : breaks bs = true) : Apart (as ++ bs) := by
  induction as with
  | nil => exact hb
  | cons a as ih =>
    cases a with
    | word s => exact ⟨ha.1, ih ha.2⟩
    | name s | parameter v => exact ⟨breaks_append ha.1 hbreaks, ih ha.2⟩
    | missing => exact ih ha

end Token

namespace Dialect

def lexemes (d : Dialect) (s : Statement) : List Lexeme := Token.lexemes d 0 (d.script s).tokens

/-- What a statement leaves where nothing was written before. -/
def alone (d : Dialect) (s : Statement) : Draft × Option CompileError :=
  Draft.empty.addStatement d s

theorem alone_eq (d : Dialect) (s : Statement) :
    d.alone s =
      (⟨d.textOf (d.lexemes s), Token.parameters (d.script s).tokens⟩, (d.script s).failure) := by
  simp [alone, lexemes, Draft.addStatement, Draft.addScript, Draft.addTokens, Draft.empty,
    Token.render_eq_textOf]

theorem script_eq_of_alone {d : Dialect} {s : Statement} (h : (d.alone s).2 = none) :
    d.script s = .ofTokens (d.tokens s) := by
  rw [alone_eq] at h
  have hr : d.Returns s := by
    by_contra hr
    rw [failure_script_of_not_returns hr] at h
    cases h
  rw [failure_script_of_returns hr] at h
  exact d.script_eq hr ((d.unsupportedIn_eq_none_iff _).1 h)

theorem lexemes_of_alone {d : Dialect} {s : Statement} (h : (d.alone s).2 = none) (n : Nat) :
    Token.lexemes d n (d.tokens s) = (d.lexemes s).map (Lexeme.shift n) := by
  rw [lexemes, ← Token.lexemes_shift, script_eq_of_alone h]
  rfl

theorem parameters_of_alone {d : Dialect} {s : Statement} (h : (d.alone s).2 = none) :
    Token.parameters (d.tokens s) = (d.alone s).1.parameters := by
  rw [alone_eq, script_eq_of_alone h]
  rfl

theorem shows_word (d : Dialect) {s : String} (hs : s ≠ "") (ts : List Token) :
    Writing.Shows d (.word s :: ts) := by
  intro n h
  rw [Token.render, String.append_eq_empty_iff] at h
  exact hs h.1

theorem shows_tokens (d : Dialect) (s : Statement) : Writing.Shows d (d.tokens s) := by
  cases s with
  | select s | insert s | update s | delete s => exact d.shows_word (by decide) _

theorem isEmpty_tokens (d : Dialect) (s : Statement) : (d.tokens s).isEmpty = false :=
  List.isEmpty_eq_false_iff.2 (d.shows_tokens s).ne_nil

end Dialect

namespace Draft

/-- What a statement adds behind a draft: a new line if both write something, its lexemes with
their marks numbered on, and its values. -/
theorem addStatement_eq (d : Dialect) (b : Draft) (s : Statement) :
    b.addStatement d s =
      (⟨b.text ++ ((if b.text.isEmpty || (d.script s).tokens.isEmpty then "" else "\n") ++
            d.textOf ((d.lexemes s).map (Lexeme.shift b.parameters.length))),
          b.parameters ++ (d.alone s).1.parameters⟩, (d.alone s).2) := by
  have hrender : Token.render d b.parameters.length (d.script s).tokens =
      d.textOf ((d.lexemes s).map (Lexeme.shift b.parameters.length)) := by
    rw [Token.render_eq_textOf, Dialect.lexemes, ← Token.lexemes_shift, Nat.add_zero]
  rw [Dialect.alone_eq, addStatement]
  split
  · simp [addScript, addTokens, hrender]
  · simp [addScript, addTokens, addText, hrender, String.append_assoc]

theorem addStatement_of_alone {d : Dialect} {s : Statement} (h : (d.alone s).2 = none)
    (b : Draft) :
    b.addStatement d s =
      (b.addTokens d ((if b.text.isEmpty then [] else [.word "\n"]) ++ d.tokens s), none) := by
  rw [addStatement, Dialect.script_eq_of_alone h]
  simp only [Script.ofTokens, d.isEmpty_tokens s, Bool.or_false]
  split
  · rfl
  · rw [addTokens_append]
    simp [addScript, addText, addTokens, Token.render, Token.parameters]

theorem isEmpty_addTokens {d : Dialect} {ts : List Token} (h : Writing.Shows d ts) (b : Draft) :
    (b.addTokens d ts).text.isEmpty = false := by
  have hsize := h.size_lt b
  rw [Bool.eq_false_iff]
  intro he
  rw [String.isEmpty_iff.1 he] at hsize
  exact Nat.not_lt_zero _ hsize

/-- The draft behind statements written one after another. -/
def addStatements (d : Dialect) (b : Draft) (ss : List Statement) : Draft :=
  ss.foldl (fun b s => (b.addStatement d s).1) b

/-- Behind text, every statement begins a new line. -/
theorem addStatements_eq {d : Dialect} {ss : List Statement}
    (h : ∀ s ∈ ss, (d.alone s).2 = none) {b : Draft} (hb : b.text.isEmpty = false) :
    b.addStatements d ss = b.addTokens d (ss.flatMap fun s => .word "\n" :: d.tokens s) := by
  induction ss generalizing b with
  | nil => simp [addStatements, addTokens, Token.render]
  | cons s ss ih =>
    obtain ⟨hs, hss⟩ := List.forall_mem_cons.1 h
    have hstep : (b.addStatement d s).1 = b.addTokens d (.word "\n" :: d.tokens s) := by
      rw [addStatement_of_alone hs, hb]
      rfl
    have hb' : (b.addTokens d (.word "\n" :: d.tokens s)).text.isEmpty = false :=
      isEmpty_addTokens (d.shows_word (by decide) _) b
    rw [addStatements, List.foldl_cons, hstep, List.flatMap_cons, addTokens_append]
    exact ih hss hb'

end Draft

namespace Dialect

/-- The lexemes of statements written one after another behind `n` values. -/
def numbered (d : Dialect) (n : Nat) : List Statement → List (List Lexeme)
  | [] => []
  | s :: ss =>
    (d.lexemes s).map (Lexeme.shift n) :: d.numbered (n + (d.alone s).1.parameters.length) ss

def lines (d : Dialect) (ss : List Statement) : List Token :=
  [.word "\n"].intercalate (ss.map d.tokens)

theorem lines_cons_cons (d : Dialect) (s u : Statement) (us : List Statement) :
    d.lines (s :: u :: us) = d.tokens s ++ .word "\n" :: d.lines (u :: us) := by
  rw [lines, List.map_cons, List.map_cons, List.intercalate_cons_cons, List.append_assoc]
  rfl

theorem lines_cons (d : Dialect) (s : Statement) (ss : List Statement) :
    d.lines (s :: ss) = d.tokens s ++ ss.flatMap fun s => .word "\n" :: d.tokens s :=
  Text.intercalate_map_cons _ _ _ _

theorem apart_lines (d : Dialect) (ss : List Statement) : Token.Apart (d.lines ss) := by
  induction ss with
  | nil => trivial
  | cons s ss ih =>
    cases ss with
    | nil => simpa [lines] using d.apart_tokens s
    | cons u us =>
      rw [lines_cons_cons]
      exact Token.apart_append (d.apart_tokens s) ⟨rfl, ih⟩ rfl

section

variable {d : Dialect} {ss : List Statement}

theorem parameters_lines (h : ∀ s ∈ ss, (d.alone s).2 = none) :
    Token.parameters (d.lines ss) = ss.flatMap fun s => (d.alone s).1.parameters := by
  induction ss with
  | nil => rfl
  | cons s ss ih =>
    obtain ⟨hs, hss⟩ := List.forall_mem_cons.1 h
    cases ss with
    | nil => simpa [lines] using parameters_of_alone hs
    | cons u us =>
      rw [lines_cons_cons, Token.parameters_append, List.flatMap_cons, parameters_of_alone hs,
        ← ih hss]
      rfl

theorem lexemes_lines (h : ∀ s ∈ ss, (d.alone s).2 = none) (n : Nat) :
    Token.lexemes d n (d.lines ss) = [.char '\n'].intercalate (d.numbered n ss) := by
  induction ss generalizing n with
  | nil => rfl
  | cons s ss ih =>
    obtain ⟨hs, hss⟩ := List.forall_mem_cons.1 h
    cases ss with
    | nil => simpa [lines, numbered] using lexemes_of_alone hs n
    | cons u us =>
      have hrest := ih hss (n + (d.alone s).1.parameters.length)
      rw [numbered] at hrest
      rw [lines_cons_cons, Token.lexemes_append, parameters_of_alone hs, lexemes_of_alone hs,
        Token.lexemes, hrest, numbered, numbered, List.intercalate_cons_cons, List.append_assoc]
      rfl

end

end Dialect

namespace Draft

theorem addStatements_empty {d : Dialect} {ss : List Statement}
    (h : ∀ s ∈ ss, (d.alone s).2 = none) :
    empty.addStatements d ss = empty.addTokens d (d.lines ss) := by
  cases ss with
  | nil => rfl
  | cons s ss =>
    obtain ⟨hs, hss⟩ := List.forall_mem_cons.1 h
    have hstep : (empty.addStatement d s).1 = empty.addTokens d (d.tokens s) := by
      rw [addStatement_of_alone hs]
      rfl
    rw [addStatements, List.foldl_cons, hstep, Dialect.lines_cons, addTokens_append]
    exact addStatements_eq hss (isEmpty_addTokens (d.shows_tokens s) empty)

/-- Statements compose in one draft. Written step by step or by their scripts, they only append
to its text and its values, and fail wherever they fail alone. A statement that can be written
adds what it writes alone, on a new line behind text, with the number of the values bound before
added to each of its marks; statements one after another are lines with marks numbered from 1. -/
theorem statements_compose (d : Dialect) :
    (d.ShowsValues → ∀ s (b : Draft), (d.writeStatement s).on b = b.addStatement d s) ∧
      (∀ s (b : Draft), ∃ text, b.addStatement d s =
        (⟨b.text ++ text, b.parameters ++ (d.alone s).1.parameters⟩, (d.alone s).2)) ∧
      (∀ s, (d.alone s).2 = none →
        (d.alone s).1.text = d.textOf (d.lexemes s) ∧
          Lexeme.ordinals (d.lexemes s) = List.range' 1 (d.alone s).1.parameters.length ∧
          ∀ b : Draft, (b.addStatement d s).1.text =
            b.text ++ ((if b.text = "" then "" else "\n") ++
              d.textOf ((d.lexemes s).map (Lexeme.shift b.parameters.length)))) ∧
      ∀ ss, (∀ s ∈ ss, (d.alone s).2 = none) →
        (empty.addStatements d ss).text = "\n".intercalate ((d.numbered 0 ss).map d.textOf) ∧
          (empty.addStatements d ss).parameters =
            (ss.flatMap fun s => (d.alone s).1.parameters) ∧
          Lexeme.ordinals (d.numbered 0 ss).flatten =
            List.range' 1 (empty.addStatements d ss).parameters.length ∧
          (d.Legible → d.lex 0 (empty.addStatements d ss).text.toList =
            some ([.char '\n'].intercalate (d.numbered 0 ss))) := by
  refine ⟨fun hd => hd.on_writeStatement, fun s b => ⟨_, addStatement_eq d b s⟩, fun s hs => ?_,
    fun ss hss => ?_⟩
  · refine ⟨by rw [Dialect.alone_eq], ?_, fun b => ?_⟩
    · rw [Dialect.lexemes, Token.ordinals_lexemes, Dialect.alone_eq]
    · rw [addStatement_eq, Dialect.script_eq_of_alone hs]
      simp only [Script.ofTokens, d.isEmpty_tokens s, Bool.or_false, String.isEmpty_iff]
  · have hlexemes := Dialect.lexemes_lines hss 0
    have htext : (empty.addStatements d ss).text = Token.render d 0 (d.lines ss) := by
      rw [addStatements_empty hss]
      simp [addTokens, empty]
    have hvalues : (empty.addStatements d ss).parameters = Token.parameters (d.lines ss) := by
      rw [addStatements_empty hss]
      rfl
    refine ⟨?_, ?_, ?_, fun hd => ?_⟩
    · rw [htext, Token.render_eq_textOf, hlexemes, Dialect.textOf_intercalate]
      rfl
    · rw [hvalues, Dialect.parameters_lines hss]
    · rw [← Lexeme.ordinals_intercalate '\n', ← hlexemes, Token.ordinals_lexemes, hvalues]
    · rw [htext, Token.lex_render hd 0 (d.apart_lines ss), hlexemes]

set_option maxRecDepth 20000 in
/-- Two statements whose names contain signs of marks and delimiters, in one draft. -/
theorem statements_compose_updateAndPage :
    (∀ s ∈ [Statement.keyedUpdate, Statement.pageOf .null], (Dialect.level.alone s).2 = none) ∧
      Dialect.level.ShowsValues ∧ Dialect.level.Legible ∧
      (empty.addStatements .level [Statement.keyedUpdate, Statement.pageOf .null]).text =
        "UPDATE \"s:1\".\"t?\"\nSET \"a:9\" = NULL, \"b\" = :1\n" ++
          "WHERE \"id\" = :2 AND NOT (\"c\" IN (:3, :4))\n" ++
          "SELECT \"a]\"\nFROM \"t] WHERE\"\nWHERE \"c\" = :5\nLIMIT 2 OFFSET 6" ∧
      (empty.addStatements .level [Statement.keyedUpdate, Statement.pageOf .null]).parameters =
        [.typed .boolean (some true), .typed .text (some "k"), .typed .text (some "x"), .null,
          .null] ∧
      Lexeme.ordinals (Dialect.level.numbered 0
        [Statement.keyedUpdate, Statement.pageOf .null]).flatten = [1, 2, 3, 4, 5] := by
  have hs : ∀ s ∈ [Statement.keyedUpdate, Statement.pageOf .null],
      (Dialect.level.alone s).2 = none := by
    simp only [List.forall_mem_cons, List.not_mem_nil, false_imp_iff, implies_true, and_true]
    exact ⟨rfl, rfl⟩
  obtain ⟨-, -, -, hlist⟩ := statements_compose .level
  obtain ⟨htext, hvalues, hmarks, -⟩ := hlist _ hs
  refine ⟨hs, Dialect.legible_level.showsValues, Dialect.legible_level, ?_, ?_, ?_⟩
  · rw [htext]
    rfl
  · rw [hvalues]
    rfl
  · rw [hmarks, hvalues]
    rfl

end Draft

end Quarry
