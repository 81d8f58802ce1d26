import Quarry.Proofs.Sql.Predicate

/-!
# Groups that a text needs

Every expression is read as some predicate (`Dialect.exists_group`), and as none whose own phrases
have more groups than the expression has: a group that a predicate needs is one that the parser has
seen opened (`Dialect.groups_le_openings`). So phrases with fewer groups than those of a predicate
are read as another one.
-/

namespace Quarry

inductive Phrase.Expression : List Phrase → Prop
  | operand (negated : Bool) (c : Condition Nat) : Expression [.operand (.leaf negated c)]
  | group {xs : List Phrase} (h : Expression xs) : Expression (.opening :: xs ++ [.closing])
  | join {xs ys : List Phrase} (h : Expression xs) (o : Combinator) (h' : Expression ys) :
    Expression (xs ++ .join o :: ys)

def Phrase.isOpening : Phrase → Bool
  | opening => true
  | closing | join _ | operand _ => false

def Phrase.openings (xs : List Phrase) : Nat := xs.countP isOpening

namespace Phrase

theorem openings_append (xs ys : List Phrase) :
    openings (xs ++ ys) = openings xs + openings ys := List.countP_append

theorem openings_opening (xs : List Phrase) : openings (.opening :: xs) = openings xs + 1 :=
  List.countP_cons_of_pos rfl

theorem openings_join (o : Combinator) (xs : List Phrase) :
    openings (.join o :: xs) = openings xs := List.countP_cons_of_neg Bool.false_ne_true

theorem Expression.isLeaf_of_mem {xs : List Phrase} (h : Expression xs) {p : Predicate Nat}
    (hp : .operand p ∈ xs) : p.isLeaf = true := by
  induction h with
  | operand b c =>
    cases List.mem_singleton.1 hp
    rfl
  | group h ih =>
    refine ih ?_
    simpa using hp
  | join h o h' ih ih' =>
    rcases List.mem_append.1 hp with hp | hp
    · exact ih hp
    · exact ih' ((List.mem_cons.1 hp).resolve_left Phrase.noConfusion)

end Phrase

namespace Dialect

open Phrase (Expression openings)

theorem expression_grouped {xs : List Phrase} (h : Expression xs) (p : Bool) :
    Expression (grouped p xs) := by
  cases p with
  | false => exact h
  | true => exact .group h

theorem openings_grouped (p : Bool) (xs : List Phrase) :
    openings (grouped p xs) = openings xs + p.toNat := by
  cases p with
  | false => rfl
  | true =>
    have hclosing : openings [.closing] = 0 := rfl
    rw [grouped, if_pos rfl, List.cons_append, Phrase.openings_opening, Phrase.openings_append,
      hclosing]
    rfl

theorem expression_phrases (d : Dialect) (p : Predicate Nat) : Expression (d.phrases p) := by
  induction p with
  | leaf b c => exact .operand b c
  | combine l o r hl hr => exact .join (expression_grouped hl _) o (expression_grouped hr _)

/-- What is left when every combination has been finished up to the innermost open group. -/
def groupsOnly : List Unfinished → List Unfinished
  | .half _ _ :: around => groupsOnly around
  | around => around

theorem groupsOnly_finish (closes : Combinator → Bool) (p : Predicate Nat)
    (around : List Unfinished) : groupsOnly (finish closes p around).2 = groupsOnly around := by
  induction around generalizing p with
  | nil => rfl
  | cons u around ih =>
    cases u with
    | group => rfl
    | half l o =>
      rw [finish]
      split
      · exact ih (.combine l o p)
      · rfl

theorem finish_all (p : Predicate Nat) (around : List Unfinished) :
    (finish (fun _ => true) p around).2 = groupsOnly around := by
  induction around generalizing p with
  | nil => rfl
  | cons u around ih =>
    cases u with
    | group => rfl
    | half l o =>
      rw [finish, if_pos rfl]
      exact ih (.combine l o p)

/-- An expression is read to its end, and what is open around it stays open. -/
theorem exists_run {d : Dialect} {xs : List Phrase} (h : Expression xs)
    (around : List Unfinished) :
    ∃ p rest, Grouping.run d (.awaiting around) xs = some (.holding p rest) ∧
      groupsOnly rest = groupsOnly around := by
  induction h generalizing around with
  | operand b c => exact ⟨.leaf b c, around, rfl, rfl⟩
  | group h ih =>
    obtain ⟨p, rest, hrun, hrest⟩ := ih (.group :: around)
    obtain ⟨q, hq⟩ : ∃ q, finish (fun _ => true) p rest = (q, .group :: around) :=
      ⟨_, Prod.ext rfl ((finish_all p rest).trans hrest)⟩
    refine ⟨q, around, ?_, rfl⟩
    rw [List.cons_append, Grouping.run, Grouping.step, Option.bind_some, Grouping.run_append, hrun]
    simp [Grouping.run, Grouping.step, hq]
  | join h o h' ih ih' =>
    obtain ⟨p, rest, hrun, hrest⟩ := ih around
    obtain ⟨q, rest', hq⟩ : ∃ q rest', finish (fun o' => decide (d.precedence o ≤ d.precedence o'))
        p rest = (q, rest') := ⟨_, _, rfl⟩
    have hrest' : groupsOnly rest' = groupsOnly around := by
      rw [← hrest, ← groupsOnly_finish _ p rest, hq]
    obtain ⟨p', rest'', hrun', hrest''⟩ := ih' (.half q o :: rest')
    refine ⟨p', rest'', ?_, hrest''.trans hrest'⟩
    rw [Grouping.run_append, hrun, Option.bind_some, Grouping.run, Grouping.step, hq]
    exact hrun'

theorem exists_group (d : Dialect) {xs : List Phrase} (h : Expression xs) :
    ∃ p, d.group xs = some p := by
  obtain ⟨p, rest, hrun, hrest⟩ := exists_run (d := d) h []
  obtain ⟨q, hq⟩ : ∃ q, finish (fun _ => true) p rest = (q, []) :=
    ⟨_, Prod.ext rfl ((finish_all p rest).trans hrest)⟩
  refine ⟨q, ?_⟩
  rw [group, hrun, Option.bind_some, Grouping.result, hq]

def groups (d : Dialect) {α : Type} : Predicate α → Nat
  | .leaf _ _ => 0
  | .combine l o r =>
    d.groups l + (decide (d.tightness l < d.precedence o)).toNat +
      (d.groups r + (decide (d.tightness r ≤ d.precedence o)).toNat)

theorem tightness_map (d : Dialect) {α β : Type} (f : α → β) (p : Predicate α) :
    d.tightness (p.map f) = d.tightness p := by
  cases p <;> rfl

theorem groups_outline (d : Dialect) {α : Type} (p : Predicate α) :
    d.groups p.outline = d.groups p := by
  induction p with
  | leaf b c => rfl
  | combine l o r hl hr =>
    have hmap : (Predicate.combine l o r).outline = .combine l.outline o r.outline := rfl
    rw [hmap, groups, groups, hl, hr, Predicate.outline, Predicate.outline, tightness_map,
      tightness_map]

theorem openings_phrases (d : Dialect) (p : Predicate Nat) :
    openings (d.phrases p) = d.groups p := by
  induction p with
  | leaf b c => rfl
  | combine l o r hl hr =>
    rw [phrases, groups, Phrase.openings_append, Phrase.openings_join, openings_grouped,
      openings_grouped, hl, hr]

def groupsAround (d : Dialect) : List Unfinished → Nat
  | [] => 0
  | .group :: around => d.groupsAround around + 1
  | .half l o :: around =>
    d.groups l + (decide (d.tightness l < d.precedence o)).toNat + d.groupsAround around

/-- The group that `p` needs as the right side of the innermost combination. -/
def owed (d : Dialect) (p : Predicate Nat) : List Unfinished → Nat
  | .half _ o :: _ => (decide (d.tightness p ≤ d.precedence o)).toNat
  | _ => 0

/-- Combinations bind the more tightly the further inside they are. -/
def Rising (d : Dialect) : List Unfinished → Prop
  | [] => True
  | .group :: around => d.Rising around
  | .half _ o :: around =>
    (∀ l o' rest, around = .half l o' :: rest → d.precedence o' < d.precedence o) ∧
      d.Rising around

variable {d : Dialect} {p q : Predicate Nat} {around rest : List Unfinished}

theorem owed_combine (l : Predicate Nat) (o : Combinator) (h : d.Rising (.half l o :: around)) :
    d.owed (.combine l o p) around = 0 := by
  cases around with
  | nil => rfl
  | cons u around =>
    cases u with
    | group => rfl
    | half l' o' =>
      have hlt := h.1 l' o' around rfl
      have hn : ¬ d.precedence o ≤ d.precedence o' := by omega
      simp [owed, tightness, hn]

/-- Finishing combinations keeps the count of the groups that they need. -/
theorem finish_groups (closes : Combinator → Bool) (h : d.Rising around)
    (hq : finish closes p around = (q, rest)) :
    d.Rising rest ∧
      d.groups q + d.owed q rest + d.groupsAround rest =
        d.groups p + d.owed p around + d.groupsAround around := by
  induction around generalizing p with
  | nil =>
    cases hq
    exact ⟨h, rfl⟩
  | cons u around ih =>
    cases u with
    | group =>
      cases hq
      exact ⟨h, rfl⟩
    | half l o =>
      rw [finish] at hq
      split at hq
      · obtain ⟨hrising, hcount⟩ := ih h.2 hq
        refine ⟨hrising, hcount.trans ?_⟩
        -- the group that `p` owed is one of the combination now, which owes none itself
        rw [owed_combine l o h, groups, groupsAround, owed]
        omega
      · cases hq
        exact ⟨h, rfl⟩

/-- Where combinations are finished, what comes of them is one of those that `closes`, and the
innermost one that is left is not. -/
theorem finish_cases (closes : Combinator → Bool) (hq : finish closes p around = (q, rest)) :
    ((q = p ∧ rest = around) ∨ ∃ l o r, q = .combine l o r ∧ closes o = true) ∧
      ∀ l o rest', rest = .half l o :: rest' → closes o = false := by
  induction around generalizing p with
  | nil =>
    cases hq
    exact ⟨.inl ⟨rfl, rfl⟩, nofun⟩
  | cons u around ih =>
    cases u with
    | group =>
      cases hq
      exact ⟨.inl ⟨rfl, rfl⟩, nofun⟩
    | half l o =>
      rw [finish] at hq
      by_cases ho : closes o = true
      · rw [if_pos ho] at hq
        obtain ⟨hsame | hcombine, hleft⟩ := ih hq
        · exact ⟨.inr ⟨l, o, p, hsame.1, ho⟩, hleft⟩
        · exact ⟨.inr hcombine, hleft⟩
      · rw [if_neg ho] at hq
        cases hq
        refine ⟨.inl ⟨rfl, rfl⟩, ?_⟩
        rintro l' o' rest' heq
        cases heq
        exact Bool.not_eq_true _ ▸ ho

/-- A side that is put into a group is no leaf, since a leaf binds more tightly than any
combination. -/
theorem toNat_le_of_tightness (hd : ∀ o, d.precedence o < leafPrecedence) (p : Predicate Nat)
    (o : Combinator) {c : Prop} [Decidable c] (hc : c → d.tightness p ≤ d.precedence o) :
    (decide c).toNat ≤ (!p.isLeaf).toNat := by
  cases p with
  | leaf b k =>
    have hlt := hd o
    have hn : ¬ c := fun h => absurd (hc h) (Int.not_le.2 hlt)
    rw [decide_eq_false hn]
    exact Nat.zero_le _
  | combine l o' r => exact Bool.toNat_le _

theorem owed_le (hd : ∀ o, d.precedence o < leafPrecedence) (p : Predicate Nat)
    (around : List Unfinished) : d.owed p around ≤ (!p.isLeaf).toNat := by
  unfold owed
  split
  · exact toNat_le_of_tightness hd p _ id
  · exact Nat.zero_le _

/-- `k` groups are enough for what has been read, where a combination at hand stands in one. -/
def Affords (d : Dialect) (k : Nat) : Grouping → Prop
  | .awaiting around => d.Rising around ∧ d.groupsAround around ≤ k
  | .holding p around =>
    d.Rising around ∧ d.groups p + (!p.isLeaf).toNat + d.groupsAround around ≤ k

variable {k : Nat} {g g' : Grouping} {x : Phrase} {xs : List Phrase}

theorem Affords.of_finish (hd : ∀ o, d.precedence o < leafPrecedence)
    (hg : d.Affords k (.holding p around)) {closes : Combinator → Bool}
    (hq : finish closes p around = (q, rest)) :
    d.Rising rest ∧ d.groups q + d.owed q rest + d.groupsAround rest ≤ k := by
  obtain ⟨hrising, hcount⟩ := finish_groups closes hg.1 hq
  have howed := owed_le hd p around
  have hk := hg.2
  exact ⟨hrising, by omega⟩

theorem Affords.join (hd : ∀ o, d.precedence o < leafPrecedence)
    (hg : d.Affords k (.holding p around)) {o : Combinator}
    (hq : finish (fun o' => decide (d.precedence o ≤ d.precedence o')) p around = (q, rest)) :
    d.Affords k (.awaiting (.half q o :: rest)) := by
  obtain ⟨hrising, hcount⟩ := hg.of_finish hd hq
  obtain ⟨hcases, hleft⟩ := finish_cases _ hq
  refine ⟨⟨fun l o' rest' heq => ?_, hrising⟩, ?_⟩
  · have hnot := of_decide_eq_false (hleft l o' rest' heq)
    omega
  · have hk := hg.2
    unfold groupsAround
    rcases hcases with ⟨rfl, rfl⟩ | ⟨l, o', r, rfl, ho⟩
    · have hleaf := toNat_le_of_tightness hd q o (c := d.tightness q < d.precedence o) Int.le_of_lt
      omega
    · -- a combination that was finished binds as tightly as the new one and needs no group
      have hn : ¬ d.precedence o' < d.precedence o := Int.not_lt.2 (of_decide_eq_true ho)
      have hzero : (decide (d.tightness (.combine l o' r) < d.precedence o)).toNat = 0 := by
        rw [tightness, decide_eq_false hn]
        rfl
      omega

theorem Affords.closing (hd : ∀ o, d.precedence o < leafPrecedence)
    (hg : d.Affords k (.holding p around))
    (hq : finish (fun _ => true) p around = (q, .group :: rest)) :
    d.Affords k (.holding q rest) := by
  obtain ⟨hrising, hcount⟩ := hg.of_finish hd hq
  have hone := Bool.toNat_le (!q.isLeaf)
  unfold groupsAround at hcount
  exact ⟨hrising, by omega⟩

theorem Affords.step (hd : ∀ o, d.precedence o < leafPrecedence)
    (hx : ∀ p, x = .operand p → p.isLeaf = true) (hg : d.Affords k g)
    (h : Grouping.step d g x = some g') : d.Affords (k + openings [x]) g' := by
  cases g with
  | awaiting around =>
    obtain ⟨hrising, hk⟩ := hg
    cases x with
    | operand p =>
      cases h
      cases p with
      | leaf b c =>
        have hzero : d.groups (.leaf b c) + (!(Predicate.leaf b c).isLeaf).toNat = 0 := rfl
        refine ⟨hrising, ?_⟩
        rw [hzero, Nat.zero_add]
        exact hk
      | combine l o r => cases hx _ rfl
    | opening =>
      cases h
      exact ⟨hrising, Nat.succ_le_succ hk⟩
    | closing | join o => cases h
  | holding p around =>
    cases x with
    | operand p | opening => cases h
    | closing =>
      simp only [Grouping.step] at h
      split at h
      · rename_i q rest hq
        cases h
        exact hg.closing hd hq
      · cases h
    | join o =>
      cases h
      exact hg.join hd rfl

theorem Affords.run (hd : ∀ o, d.precedence o < leafPrecedence)
    (hxs : ∀ p, .operand p ∈ xs → p.isLeaf = true) (hg : d.Affords k g)
    (h : Grouping.run d g xs = some g') : d.Affords (k + openings xs) g' := by
  induction xs generalizing k g with
  | nil =>
    cases h
    exact hg
  | cons x xs ih =>
    rw [Grouping.run, Option.bind_eq_some_iff] at h
    obtain ⟨g₁, hstep, hrun⟩ := h
    have hsplit : k + openings (x :: xs) = k + openings [x] + openings xs := by
      rw [← List.singleton_append, Phrase.openings_append, Nat.add_assoc]
    rw [hsplit]
    refine ih (fun p hp => hxs p (List.mem_cons_of_mem x hp)) (hg.step hd ?_ hstep) hrun
    rintro p rfl
    exact hxs p List.mem_cons_self

/-- What an expression is read as needs no more groups than the expression has. -/
theorem groups_le_openings (hd : ∀ o, d.precedence o < leafPrecedence) (hxs : Expression xs)
    (h : d.group xs = some p) : d.groups p ≤ openings xs := by
  rw [group, Option.bind_eq_some_iff] at h
  obtain ⟨g, hrun, hresult⟩ := h
  have hstart : d.Affords 0 (.awaiting []) := ⟨trivial, Nat.le_refl 0⟩
  have hg := hstart.run hd (fun p => hxs.isLeaf_of_mem) hrun
  rw [Nat.zero_add] at hg
  cases g with
  | awaiting around => cases hresult
  | holding q around =>
    simp only [Grouping.result] at hresult
    split at hresult
    · rename_i q' hq
      cases hresult
      exact (hg.of_finish hd hq).2
    · cases hresult

/-- An expression with fewer groups than a predicate needs is read, but as another one. -/
theorem exists_group_of_openings_lt (hd : ∀ o, d.precedence o < leafPrecedence)
    (hxs : Expression xs) (hlt : openings xs < openings (d.phrases p)) :
    ∃ q, d.group xs = some q ∧ q.outline ≠ p.outline := by
  obtain ⟨q, hq⟩ := d.exists_group hxs
  refine ⟨q, hq, fun heq => ?_⟩
  have hle := groups_le_openings hd hxs hq
  have hgroups : d.groups q = d.groups p := by
    rw [← groups_outline, heq, groups_outline]
  rw [openings_phrases] at hlt
  omega

end Dialect
end Quarry
