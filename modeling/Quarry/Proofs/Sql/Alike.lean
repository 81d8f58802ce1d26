import Mathlib.Data.List.Forall2
import Quarry.Proofs.Sql.Outcome

/-!
# Texts do not depend on values

Two statements are alike when they differ in nothing but their values, and two scripts when
they differ in nothing but the values of their parameters. Alike statements are written as
alike scripts; so they compile to one text, with as many parameters on both sides, or fail
with one error (`Statement.compile_alike`). Only whether an assigned value is NULL shows in
the text, and only where the dialect does not bind it.
-/

namespace Quarry

open Text (separated)

inductive Token.Alike : Token → Token → Prop
  | word (s : String) : Alike (.word s) (.word s)
  | name (n : String) : Alike (.name n) (.name n)
  | parameter (v w : Value) : Alike (.parameter v) (.parameter w)
  | missing : Alike .missing .missing

namespace Token

@[refl]
theorem Alike.refl (t : Token) : Alike t t := by
  cases t with
  | word s => exact .word s
  | name n => exact .name n
  | parameter v => exact .parameter v v
  | missing => exact .missing

theorem forall₂_refl_tokens (ts : List Token) : List.Forall₂ Alike ts ts :=
  List.forall₂_same.2 fun t _ => .refl t

theorem length_parameters_of_alike {as bs : List Token} (h : List.Forall₂ Alike as bs) :
    (parameters as).length = (parameters bs).length := by
  induction h with
  | nil => rfl
  | cons hab _ ih => cases hab <;> simp [parameters, ih]

/-- A parameter shows in the text by its number only. -/
theorem render_eq_of_alike (d : Dialect) (n : Nat) {as bs : List Token}
    (h : List.Forall₂ Alike as bs) : render d n as = render d n bs := by
  induction h generalizing n with
  | nil => rfl
  | cons hab _ ih => cases hab <;> simp [render, ih]

end Token

theorem forall₂_separated {α : Type} {R : α → α → Prop} {s : List α} (hs : List.Forall₂ R s s)
    {ps qs : List (List α)} (h : List.Forall₂ (List.Forall₂ R) ps qs) :
    List.Forall₂ R (separated s ps) (separated s qs) := by
  induction h with
  | nil => exact .nil
  | @cons p q ps qs hpq hrest ih =>
    cases hrest with
    | nil => exact hpq
    | @cons p' q' ps qs hpq' hrest =>
      have hsep : List.Forall₂ R (if p.isEmpty then [] else s) (if q.isEmpty then [] else s) := by
        cases hpq with
        | nil => exact .nil
        | cons _ _ => exact hs
      exact List.rel_append (List.rel_append hpq hsep) ih

theorem forall₂_commaSeparated {α β : Type} {R : α → β → Prop} {f : α → List Token}
    {g : β → List Token} (hfg : ∀ a b, R a b → List.Forall₂ Token.Alike (f a) (g b))
    {as : List α} {bs : List β} (h : List.Forall₂ R as bs) :
    List.Forall₂ Token.Alike (commaSeparated (as.map f)) (commaSeparated (bs.map g)) := by
  refine forall₂_separated (Token.forall₂_refl_tokens _) ?_
  rw [List.forall₂_map_left_iff, List.forall₂_map_right_iff]
  exact h.imp hfg

structure Script.Alike (a b : Script) : Prop where
  tokens : List.Forall₂ Token.Alike a.tokens b.tokens
  failure : a.failure = b.failure

namespace Script

theorem alike_ofTokens {as bs : List Token} (h : List.Forall₂ Token.Alike as bs) :
    (ofTokens as).Alike (ofTokens bs) := ⟨h, rfl⟩

@[refl]
theorem Alike.refl (a : Script) : a.Alike a := ⟨List.forall₂_same.2 fun t _ => .refl t, rfl⟩

theorem Alike.append {a b a' b' : Script} (h : a.Alike b) (h' : a'.Alike b') :
    (a ++ a').Alike (b ++ b') := by
  obtain ⟨ta, fa⟩ := a
  obtain ⟨tb, fb⟩ := b
  obtain ⟨ht, rfl⟩ : List.Forall₂ Token.Alike ta tb ∧ fa = fb := ⟨h.tokens, h.failure⟩
  cases fa with
  | none => exact ⟨List.rel_append ht h'.tokens, h'.failure⟩
  | some e => exact ⟨ht, rfl⟩

theorem Alike.parenthesizedIf {a b : Script} (h : a.Alike b) (p : Bool) :
    (parenthesizedIf p a).Alike (parenthesizedIf p b) := by
  cases p with
  | false => exact h
  | true => exact ((Alike.refl _).append h).append (.refl _)

end Script

structure Comparison.Alike (a b : Comparison) : Prop where
  column : a.column = b.column
  operator : a.operator = b.operator
  operands : a.operands.length = b.operands.length
  negated : a.negated = b.negated

inductive Criteria.Alike : Criteria → Criteria → Prop
  | leaf {a b : Comparison} (h : a.Alike b) : Alike (.leaf a) (.leaf b)
  | combine {l r l' r' : Criteria} (o : Combinator) (hl : Alike l l') (hr : Alike r r') :
    Alike (.combine l o r) (.combine l' o r')

theorem forall₂_parameterList {vs ws : List Value} (h : vs.length = ws.length) :
    List.Forall₂ Token.Alike (parameterList vs) (parameterList ws) := by
  have hall : List.Forall₂ (fun _ _ => True) vs ws :=
    List.forall₂_iff_get.2 ⟨h, fun _ _ _ => trivial⟩
  exact forall₂_commaSeparated (fun v w _ => .cons (.parameter v w) .nil) hall

theorem Comparison.Alike.plainTokens {a b : Comparison} (h : a.Alike b) :
    List.Forall₂ Token.Alike a.plainTokens b.plainTokens := by
  obtain ⟨column, o, vs, negated⟩ := a
  obtain ⟨column', o', ws, negated'⟩ := b
  obtain ⟨rfl, rfl, hlen, -⟩ := h
  have hlist := forall₂_parameterList hlen
  cases o with
  | isNull | isNotNull => exact Token.forall₂_refl_tokens _
  | isIn | notIn =>
    -- an empty list of alternatives is written as a constant, on both sides or on none
    cases vs with
    | nil =>
      obtain rfl : ws = [] := List.length_eq_zero_iff.1 hlen.symm
      exact Token.forall₂_refl_tokens _
    | cons v vs =>
      cases ws with
      | nil => cases hlen
      | cons w ws =>
        exact List.rel_append (Token.forall₂_refl_tokens [.name column, .word " ", .word _])
          (.cons (.word " (") (List.rel_append hlist (Token.forall₂_refl_tokens [.word ")"])))
  | equal | notEqual | greater | greaterEqual | less | lessEqual | like | notLike | ilike =>
    exact List.rel_append (Token.forall₂_refl_tokens [.name column, .word " ", .word _])
      (.cons (.word " ") hlist)

theorem Comparison.Alike.tokens {a b : Comparison} (h : a.Alike b) :
    List.Forall₂ Token.Alike a.tokens b.tokens := by
  rw [Comparison.tokens, Comparison.tokens, h.negated]
  split
  · exact .cons (.word "NOT (") (List.rel_append h.plainTokens (.cons (.word ")") .nil))
  · exact h.plainTokens

namespace Dialect

variable (d : Dialect)

theorem strength_eq_of_alike {c c' : Criteria} (h : c.Alike c') :
    d.strength c = d.strength c' := by
  cases h <;> rfl

theorem alike_comparisonScript {a b : Comparison} (h : a.Alike b) :
    (d.comparisonScript a).Alike (d.comparisonScript b) := by
  rw [comparisonScript, comparisonScript, h.operator, h.column]
  split
  · exact Script.alike_ofTokens h.tokens
  · exact .refl _

theorem alike_criteriaScript {c c' : Criteria} (h : c.Alike c') :
    (d.criteriaScript c).Alike (d.criteriaScript c') := by
  induction h with
  | leaf h => exact d.alike_comparisonScript h
  | combine o hl hr ihl ihr =>
    rw [criteriaScript, criteriaScript, d.strength_eq_of_alike hl, d.strength_eq_of_alike hr]
    exact ((ihl.parenthesizedIf _).append (.refl _)).append (ihr.parenthesizedIf _)

theorem alike_filterScript {c c' : Option Criteria} (h : Option.Rel Criteria.Alike c c') :
    (d.filterScript c).Alike (d.filterScript c') := by
  cases h with
  | none => exact .refl _
  | some h => exact (Script.Alike.refl _).append (d.alike_criteriaScript h)

/-- Assignments of one column whose values look alike: both NULL or both not, unless the
dialect binds NULL. -/
def AssignsAlike (e f : String × Value) : Prop :=
  e.1 = f.1 ∧ (d.bindsNull = false → e.2.isNull = f.2.isNull)

theorem alike_assignedToken {e f : String × Value} (h : d.AssignsAlike e f) :
    Token.Alike (d.assignedToken e.2) (d.assignedToken f.2) := by
  rw [assignedToken, assignedToken]
  cases hb : d.bindsNull with
  | true => simpa using Token.Alike.parameter e.2 f.2
  | false =>
    rw [h.2 hb]
    split
    · exact .missing
    · exact .parameter e.2 f.2

end Dialect

/-- The second statement is the first with other values. -/
inductive Statement.Alike (d : Dialect) : Statement → Statement → Prop
  | select {s t : SelectStatement} (table : s.target.table = t.target.table)
    (projection : s.projection = t.projection)
    (criteria : Option.Rel Criteria.Alike s.criteria t.criteria) (sort : s.sort = t.sort)
    (page : s.page = t.page) : Alike d (.select s) (.select t)
  | insert {s t : InsertStatement} (table : s.target.table = t.target.table)
    (assignments : List.Forall₂ d.AssignsAlike s.assignments.entries t.assignments.entries)
    (returning : s.returning = t.returning) : Alike d (.insert s) (.insert t)
  | update {s t : UpdateStatement} (table : s.target.table = t.target.table)
    (assignments : List.Forall₂ d.AssignsAlike s.assignments.entries t.assignments.entries)
    (key : Option.Rel Criteria.Alike s.key t.key)
    (criteria : Option.Rel Criteria.Alike s.criteria t.criteria) :
    Alike d (.update s) (.update t)
  | delete {s t : DeleteStatement} (table : s.target.table = t.target.table)
    (criteria : Option.Rel Criteria.Alike s.criteria t.criteria) :
    Alike d (.delete s) (.delete t)

theorem UpdateStatement.alike_filter {s t : UpdateStatement}
    (hk : Option.Rel Criteria.Alike s.key t.key)
    (hc : Option.Rel Criteria.Alike s.criteria t.criteria) :
    Option.Rel Criteria.Alike s.filter t.filter := by
  obtain ⟨_, _, key, criteria⟩ := s
  obtain ⟨_, _, key', criteria'⟩ := t
  cases hk with
  | none => exact hc
  | some hk =>
    cases hc with
    | none => exact .some hk
    | some hc => exact .some (.combine .and hk hc)

namespace Statement

variable {d : Dialect} {s t : Statement}

theorem Alike.validate (h : s.Alike d t) : s.validate = t.validate := by
  have hempty : ∀ {a b : Assignments}, List.Forall₂ d.AssignsAlike a.entries b.entries →
      a.isEmpty = b.isEmpty := by
    rintro ⟨_, es, _⟩ ⟨_, fs, _⟩ h
    cases h <;> rfl
  have htarget : ∀ {a b : Target}, a.table = b.table → a.validate = b.validate := by
    intro a b hab
    rw [Target.validate, Target.validate, hab]
  cases h with
  | select table _ _ _ _ | delete table _ =>
    simp only [Statement.validate, Statement.target, htarget table]
  | insert table assignments _ | update table assignments _ _ =>
    simp only [Statement.validate, Statement.target, htarget table]
    rw [hempty assignments]

theorem Alike.script (h : s.Alike d t) : (d.script s).Alike (d.script t) := by
  cases h with
  | select table projection criteria sort page =>
    rw [Dialect.script, Dialect.script, Dialect.selectScript, Dialect.selectScript, table,
      projection, sort, page]
    exact ((Script.Alike.refl _).append (d.alike_filterScript criteria)).append (.refl _)
  | @insert s t table assignments returning =>
    have hnames : List.Forall₂ Token.Alike
        (commaSeparated (s.assignments.entries.map fun e => [.name e.1]))
        (commaSeparated (t.assignments.entries.map fun e => [.name e.1])) :=
      forall₂_commaSeparated (fun e f h => h.1 ▸ Token.forall₂_refl_tokens [.name e.1]) assignments
    have hvalues : List.Forall₂ Token.Alike
        (commaSeparated (s.assignments.entries.map fun e => [d.assignedToken e.2]))
        (commaSeparated (t.assignments.entries.map fun e => [d.assignedToken e.2])) :=
      forall₂_commaSeparated (fun e f h => .cons (d.alike_assignedToken h) .nil) assignments
    rw [Dialect.script, Dialect.script, Dialect.insertScript, Dialect.insertScript, table, returning]
    split
    · exact .refl _
    · exact Script.alike_ofTokens (List.rel_append (List.rel_append (List.rel_append
        (List.rel_append (List.rel_append (Token.forall₂_refl_tokens _) hnames)
          (Token.forall₂_refl_tokens _)) hvalues) (Token.forall₂_refl_tokens _))
            (Token.forall₂_refl_tokens _))
  | @update s t table assignments key criteria =>
    have hsettings : List.Forall₂ Token.Alike
        (commaSeparated (s.assignments.entries.map fun e =>
          [.name e.1, .word " = ", d.assignedToken e.2]))
        (commaSeparated (t.assignments.entries.map fun e =>
          [.name e.1, .word " = ", d.assignedToken e.2])) := by
      refine forall₂_commaSeparated (fun e f h => ?_) assignments
      rw [h.1]
      exact .cons (.name _) (.cons (.word " = ") (.cons (d.alike_assignedToken h) .nil))
    rw [Dialect.script, Dialect.script, Dialect.updateScript, Dialect.updateScript, table]
    exact (Script.alike_ofTokens (List.rel_append (Token.forall₂_refl_tokens _) hsettings)).append
      (d.alike_filterScript (UpdateStatement.alike_filter key criteria))
  | delete table criteria =>
    rw [Dialect.script, Dialect.script, Dialect.deleteScript, Dialect.deleteScript, table]
    exact (Script.Alike.refl _).append (d.alike_filterScript criteria)

/-- Statements that differ in their values only compile to the same text with equally many
parameters, or fail with the same error. -/
theorem compile_alike (h : s.Alike d t) :
    (∃ e, s.compile d = .error e ∧ t.compile d = .error e) ∨
      ∃ p q, s.compile d = .ok p ∧ t.compile d = .ok q ∧ p.sql = q.sql ∧
        p.parameters.length = q.parameters.length := by
  have hvalid := h.validate
  cases hv : s.validate with
  | error e =>
    exact .inl ⟨.build e, compile_of_validate_error hv, compile_of_validate_error (hvalid ▸ hv)⟩
  | ok u =>
    have hs := compile_of_valid (d := d) hv
    have ht := compile_of_valid (d := d) (hvalid ▸ hv)
    have hfailure := h.script.failure
    cases hf : (d.script t).failure with
    | some e =>
      rw [hfailure, hf] at hs
      rw [hf] at ht
      exact .inl ⟨_, hs, ht⟩
    | none =>
      rw [hfailure, hf] at hs
      rw [hf] at ht
      exact .inr ⟨_, _, hs, ht, Token.render_eq_of_alike d 0 h.script.tokens,
        Token.length_parameters_of_alike h.script.tokens⟩

def titleUpdate (title key : Value) (shelves : List Value) : Statement :=
  .update ⟨.named ⟨"", "book"⟩, ⟨.object, [("title", title)], by simp⟩,
    some (.leaf ⟨"isbn", .equal, [key], false⟩),
    some (.or (.leaf ⟨"shelf", .isIn, shelves, true⟩) (.leaf ⟨"shelf", .isNull, [], false⟩))⟩

set_option maxRecDepth 20000 in
theorem compile_alike_titleUpdate :
    (titleUpdate .null .null [.null, .ofString "?"]).Alike .postgres
        (titleUpdate (.ofString "$9") (.ofString "1\" OR 1=1") [.ofString "]", .null]) ∧
      ∃ p q, (titleUpdate .null .null [.null, .ofString "?"]).compile .postgres = .ok p ∧
        (titleUpdate (.ofString "$9") (.ofString "1\" OR 1=1") [.ofString "]", .null]).compile
          .postgres = .ok q ∧
        p.sql = "UPDATE \"book\"\nSET \"title\" = $1\nWHERE \"isbn\" = $2 AND " ++
          "(NOT (\"shelf\" IN ($3, $4)) OR \"shelf\" IS NULL)" ∧
        p.sql = q.sql ∧ p.parameters.length = q.parameters.length := by
  have h : (titleUpdate .null .null [.null, .ofString "?"]).Alike .postgres
      (titleUpdate (.ofString "$9") (.ofString "1\" OR 1=1") [.ofString "]", .null]) := by
    refine .update rfl (.cons ⟨rfl, by simp [Dialect.postgres]⟩ .nil) ?_ ?_
    · exact .some (.leaf ⟨rfl, rfl, rfl, rfl⟩)
    · exact .some (.combine .or (.leaf ⟨rfl, rfl, rfl, rfl⟩) (.leaf ⟨rfl, rfl, rfl, rfl⟩))
  refine ⟨h, ?_⟩
  rcases compile_alike h with ⟨e, he, -⟩ | ⟨p, q, hp, hq, hsql, hlen⟩
  · cases he
  · have htext : p.sql = _ := congrArg Query.sql (Except.ok.inj hp).symm
    exact ⟨p, q, hp, hq, htext, hsql, hlen⟩

end Statement
end Quarry
