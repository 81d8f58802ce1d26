import Mathlib.Data.List.Basic
import Quarry.Sql.Criteria

/-!
# Predicates and their grouping

A predicate is what the text of criteria says: the tree of the criteria in which an empty
list of alternatives has become a constant. Something of a type `α` stands in the place of
each operand: the value itself, the number of its mark, or nothing but the place.

Phrases are read into a predicate by a parser with a stack of unfinished combinations, which
closes on every combinator those that bind at least as tightly. The phrases of a predicate,
with parentheses where the writer puts them, are read back as the predicate itself, for every
two precedences.
-/

namespace Quarry

inductive Condition (α : Type) where
  | constant (value : Bool)
  | compare (column : String) (operator : Operator) (operands : List α)

namespace Condition

variable {α β : Type}

def operands : Condition α → List α
  | constant _ => []
  | compare _ _ vs => vs

def map (f : α → β) : Condition α → Condition β
  | constant b => constant b
  | compare c o vs => compare c o (vs.map f)

def number (n : Nat) : Condition α → Condition Nat
  | constant b => constant b
  | compare c o vs => compare c o (List.range' (n + 1) vs.length)

end Condition

inductive Predicate (α : Type) where
  | leaf (negated : Bool) (condition : Condition α)
  | combine (lhs : Predicate α) (combinator : Combinator) (rhs : Predicate α)

namespace Predicate

variable {α β : Type}

def operands : Predicate α → List α
  | leaf _ c => c.operands
  | combine l _ r => l.operands ++ r.operands

def map (f : α → β) : Predicate α → Predicate β
  | leaf b c => leaf b (c.map f)
  | combine l o r => combine (l.map f) o (r.map f)

def number (n : Nat) : Predicate α → Predicate Nat
  | leaf b c => leaf b (c.number n)
  | combine l o r => combine (l.number n) o (r.number (n + l.operands.length))

/-- The predicate with nothing but the places of its operands. -/
def outline (p : Predicate α) : Predicate Unit := p.map fun _ => ()

def isLeaf : Predicate α → Bool
  | leaf _ _ => true
  | combine _ _ _ => false

end Predicate

def Comparison.condition (c : Comparison) : Condition Value :=
  match c.operator, c.operands with
  | .isIn, [] => .constant false
  | .notIn, [] => .constant true
  | operator, operands => .compare c.column operator operands

def Criteria.predicate : Criteria → Predicate Value
  | leaf c => .leaf c.negated c.condition
  | combine l o r => .combine l.predicate o r.predicate

namespace Condition

variable {α : Type}

theorem operands_number (n : Nat) (c : Condition α) :
    (c.number n).operands = List.range' (n + 1) c.operands.length := by
  cases c <;> rfl

theorem map_number (n : Nat) (c : Condition α) :
    (c.number n).map (fun _ => ()) = c.map fun _ => () := by
  cases c with
  | constant b => rfl
  | compare c o vs => simp [number, map, List.map_const']

theorem map_getElem?_number {before after : List α} (c : Condition α) :
    (c.number before.length).map (fun k => (before ++ c.operands ++ after)[k - 1]?) =
      c.map some := by
  cases c with
  | constant b => rfl
  | compare c o vs =>
    have hv : (List.range' (before.length + 1) vs.length).map
        (fun k => (before ++ vs ++ after)[k - 1]?) = vs.map some := by
      apply List.ext_getElem (by simp)
      intro i h _
      have hi : i < vs.length := by simpa using h
      have hk : before.length + 1 + i - 1 = before.length + i := by omega
      simp [hk, List.getElem?_append, hi]
    simp only [number, map, operands, hv]

end Condition

namespace Predicate

variable {α : Type}

theorem operands_number (n : Nat) (p : Predicate α) :
    (p.number n).operands = List.range' (n + 1) p.operands.length := by
  induction p generalizing n with
  | leaf b c => exact c.operands_number n
  | combine l o r hl hr =>
    have hs : n + l.operands.length + 1 = n + 1 + l.operands.length := by omega
    simp [number, operands, hl, hr, hs]

@[simp]
theorem outline_number (n : Nat) (p : Predicate α) : (p.number n).outline = p.outline := by
  induction p generalizing n with
  | leaf b c => simp [number, outline, map, Condition.map_number]
  | combine l o r hl hr =>
    have hl' : (l.number n).map (fun _ => ()) = l.map fun _ => () := hl n
    have hr' := hr (n + l.operands.length)
    simp only [outline] at hr'
    simp [number, outline, map, hl', hr']

/-- Putting the values in the places of their numbers gives back the predicate. -/
theorem map_getElem?_number (p : Predicate α) (before after : List α) :
    (p.number before.length).map (fun k => (before ++ p.operands ++ after)[k - 1]?) =
      p.map some := by
  induction p generalizing before after with
  | leaf b c => simp only [number, map, operands, Condition.map_getElem?_number]
  | combine l o r hl hr =>
    have hl' := hl before (r.operands ++ after)
    have hr' := hr (before ++ l.operands) after
    simp only [List.length_append, List.append_assoc] at hl' hr'
    simp only [number, map, operands, List.append_assoc, hl', hr']

end Predicate

theorem Comparison.operands_condition (c : Comparison) : c.condition.operands = c.operands := by
  rw [condition]
  split
  · rename_i h
    exact h.symm
  · rename_i h
    exact h.symm
  · rfl

theorem Criteria.operands_predicate (c : Criteria) : c.predicate.operands = c.literals := by
  induction c with
  | leaf c => simp [predicate, Predicate.operands, Comparison.operands_condition]
  | combine l o r hl hr => simp [predicate, Predicate.operands, hl, hr]

inductive Phrase where
  | opening
  | closing
  | join (combinator : Combinator)
  | operand (leaf : Predicate Nat)

inductive Unfinished where
  /-- A group that is still open. -/
  | group
  /-- A combination that lacks its right side. -/
  | half (lhs : Predicate Nat) (combinator : Combinator)

/-- What has been read: the predicate at hand, if there is one, and the unfinished parts around
it, the innermost first. -/
inductive Grouping where
  | awaiting (around : List Unfinished)
  | holding (p : Predicate Nat) (around : List Unfinished)

def finish (closes : Combinator → Bool) :
    Predicate Nat → List Unfinished → Predicate Nat × List Unfinished
  | p, .half l o :: around =>
    if closes o then finish closes (.combine l o p) around else (p, .half l o :: around)
  | p, around => (p, around)

namespace Grouping

/-- Read one phrase. A combinator first finishes the combinations that bind at least as
tightly, since combinations of equal precedence are read from left to right. -/
def step (d : Dialect) : Grouping → Phrase → Option Grouping
  | awaiting around, .operand p => some (holding p around)
  | awaiting around, .opening => some (awaiting (.group :: around))
  | holding p around, .join o =>
    let (q, rest) := finish (fun o' => decide (d.precedence o ≤ d.precedence o')) p around
    some (awaiting (.half q o :: rest))
  | holding p around, .closing =>
    match finish (fun _ => true) p around with
    | (q, .group :: rest) => some (holding q rest)
    | _ => none
  | _, _ => none

def run (d : Dialect) : Grouping → List Phrase → Option Grouping
  | g, [] => some g
  | g, x :: xs => (step d g x).bind fun g => run d g xs

def result : Grouping → Option (Predicate Nat)
  | awaiting _ => none
  | holding p around =>
    match finish (fun _ => true) p around with
    | (q, []) => some q
    | _ => none

theorem run_append (d : Dialect) (g : Grouping) (xs ys : List Phrase) :
    run d g (xs ++ ys) = (run d g xs).bind fun g => run d g ys := by
  induction xs generalizing g with
  | nil => rfl
  | cons x xs ih =>
    rw [List.cons_append, run, run]
    cases step d g x with
    | none => rfl
    | some g' => exact ih g'

end Grouping

namespace Dialect

/-- Read phrases with the precedences of the dialect. -/
def group (d : Dialect) (xs : List Phrase) : Option (Predicate Nat) :=
  (Grouping.run d (.awaiting []) xs).bind Grouping.result

def tightness (d : Dialect) {α : Type} : Predicate α → Int
  | .leaf _ _ => leafPrecedence
  | .combine _ o _ => d.precedence o

def grouped (p : Bool) (xs : List Phrase) : List Phrase :=
  if p then .opening :: xs ++ [.closing] else xs

def phrases (d : Dialect) : Predicate Nat → List Phrase
  | .leaf b c => [.operand (.leaf b c)]
  | .combine l o r =>
    grouped (d.tightness l < d.precedence o) (d.phrases l) ++
      .join o :: grouped (d.tightness r ≤ d.precedence o) (d.phrases r)

/-- The innermost unfinished combination binds less tightly than `p`, which therefore stays
its own part of the text. -/
def Separates (d : Dialect) (p : Predicate Nat) : List Unfinished → Prop
  | .half _ o :: _ => p.isLeaf = true ∨ d.precedence o < d.tightness p
  | _ => True

/-- After the phrases of `p` the parser holds `p`, up to combinations inside of `p` that the
next phrase finishes in any case. -/
def Reads (d : Dialect) (xs : List Phrase) (p : Predicate Nat) (around : List Unfinished) : Prop :=
  ∃ q rest, Grouping.run d (.awaiting around) xs = some (.holding q rest) ∧
    ∀ closes : Combinator → Bool, (∀ o, d.tightness p ≤ d.precedence o → closes o = true) →
      finish closes q rest = finish closes p around

theorem run_grouped {d : Dialect} {xs : List Phrase} {p : Predicate Nat}
    {around : List Unfinished} (h : d.Reads xs p (.group :: around)) :
    Grouping.run d (.awaiting around) (.opening :: xs ++ [.closing]) =
      some (.holding p around) := by
  obtain ⟨q, rest, hrun, hf⟩ := h
  have hq : finish (fun _ => true) q rest = (p, .group :: around) := hf _ fun _ _ => rfl
  rw [List.cons_append, Grouping.run, Grouping.step, Option.bind_some, Grouping.run_append, hrun]
  simp [Grouping.run, Grouping.step, hq]

/-- A left side and its combinator leave a combination that lacks its right side. -/
theorem run_left {d : Dialect} {xs : List Phrase} {l : Predicate Nat} {o : Combinator}
    {around : List Unfinished}
    (hg : d.tightness l < d.precedence o → d.Reads xs l (.group :: around))
    (hx : ¬ d.tightness l < d.precedence o → d.Reads xs l around)
    (ha : ∀ l' o' rest, around = .half l' o' :: rest → d.precedence o' < d.precedence o) :
    Grouping.run d (.awaiting around) (grouped (d.tightness l < d.precedence o) xs ++ [.join o]) =
      some (.awaiting (.half l o :: around)) := by
  -- nothing around `l` is finished by its combinator
  have hkeep : finish (fun o' => decide (d.precedence o ≤ d.precedence o')) l around =
      (l, around) := by
    cases around with
    | nil => rfl
    | cons u around =>
      cases u with
      | group => rfl
      | half l' o' =>
        have hlt := ha l' o' around rfl
        have hn : ¬ d.precedence o ≤ d.precedence o' := by omega
        simp [finish, hn]
  rw [Grouping.run_append]
  by_cases ht : d.tightness l < d.precedence o
  · rw [grouped, if_pos (decide_eq_true ht), run_grouped (hg ht)]
    simp [Grouping.run, Grouping.step, hkeep]
  · obtain ⟨q, rest, hrun, hf⟩ := hx ht
    have hq : finish (fun o' => decide (d.precedence o ≤ d.precedence o')) q rest =
        (l, around) := by
      rw [hf _ fun o' ho' => decide_eq_true (by omega), hkeep]
    have hgr : grouped (decide (d.tightness l < d.precedence o)) xs = xs := by
      rw [grouped, if_neg (by simpa using ht)]
    rw [hgr, hrun]
    simp [Grouping.run, Grouping.step, hq]

theorem reads_phrases (d : Dialect) (p : Predicate Nat) (around : List Unfinished)
    (h : d.Separates p around) : d.Reads (d.phrases p) p around := by
  induction p generalizing around with
  | leaf b c => exact ⟨.leaf b c, around, rfl, fun _ _ => rfl⟩
  | combine l o r hl hr =>
    have ha : ∀ l' o' rest, around = .half l' o' :: rest → d.precedence o' < d.precedence o := by
      rintro l' o' rest rfl
      exact h.resolve_left (by simp [Predicate.isLeaf])
    have hleft : Grouping.run d (.awaiting around)
        (grouped (d.tightness l < d.precedence o) (d.phrases l) ++ [.join o]) =
          some (.awaiting (.half l o :: around)) := by
      refine run_left (fun _ => hl _ trivial) (fun ht => hl _ ?_) ha
      match around, ha with
      | [], _ | .group :: _, _ => trivial
      | .half l' o' :: rest, ha =>
        have hlt := ha l' o' rest rfl
        exact Or.inr (by omega)
    have hphrases : d.phrases (.combine l o r) =
        (grouped (d.tightness l < d.precedence o) (d.phrases l) ++ [.join o]) ++
          grouped (d.tightness r ≤ d.precedence o) (d.phrases r) := by
      simp [phrases]
    have hfinish : ∀ closes : Combinator → Bool,
        (∀ o', d.precedence o ≤ d.precedence o' → closes o' = true) →
          finish closes r (.half l o :: around) = finish closes (.combine l o r) around := by
      intro closes hc
      rw [finish, if_pos (hc o (Int.le_refl _))]
    by_cases ht : d.tightness r ≤ d.precedence o
    · refine ⟨r, .half l o :: around, ?_, hfinish⟩
      have hg : grouped (d.tightness r ≤ d.precedence o) (d.phrases r) =
          .opening :: d.phrases r ++ [.closing] := if_pos (decide_eq_true ht)
      rw [hphrases, Grouping.run_append, hleft, Option.bind_some, hg]
      exact run_grouped (hr _ trivial)
    · obtain ⟨q, rest, hrun, hf⟩ := hr (.half l o :: around) (Or.inr (by omega))
      refine ⟨q, rest, ?_, ?_⟩
      · have hg : grouped (d.tightness r ≤ d.precedence o) (d.phrases r) = d.phrases r :=
          if_neg (by simpa using ht)
        rw [hphrases, Grouping.run_append, hleft, Option.bind_some, hg, hrun]
      · intro closes hc
        have hc' : ∀ o', d.precedence o ≤ d.precedence o' → closes o' = true := hc
        rw [hf closes fun o' ho' => hc' o' (by omega), hfinish closes hc']

/-- The phrases of a predicate are read as the predicate. -/
theorem group_phrases (d : Dialect) (p : Predicate Nat) : d.group (d.phrases p) = some p := by
  obtain ⟨q, rest, hrun, hf⟩ := d.reads_phrases p [] trivial
  have hq : finish (fun _ => true) q rest = (p, []) := by
    rw [hf _ fun _ _ => rfl]
    cases p <;> rfl
  rw [group, hrun, Option.bind_some, Grouping.result, hq]

end Dialect
end Quarry
