import Quarry.Proofs.Sql.Readable
import Quarry.Proofs.Update.Chain

/-!
# The WHERE clause of a chain

The text of an UPDATE that was built by a chain with objects in it reads as the match of the
last key, joined by AND to the last criteria as a whole. No alternative or negation in the
criteria leads past the key (`run_where`).
-/

namespace Quarry

/-- The key alone, or the key and the criteria. -/
def keyedPredicate (key : Criteria) : Option Criteria → Predicate Value
  | none => key.predicate
  | some c => .combine key.predicate .and c.predicate

theorem truth_keyedPredicate {fs : List (String × Value)} {key : Criteria}
    (h : keyMatch fs = some key) (criteria : Option Criteria) (holds : Condition Value → Truth) :
    (keyedPredicate key criteria).truth holds = some true ↔
      (∀ f ∈ fs, holds (fieldCondition f) = some true) ∧
        ∀ c, criteria = some c → c.predicate.truth holds = some true := by
  have hkey := truth_keyMatch h holds
  cases criteria with
  | none => simpa [keyedPredicate] using hkey
  | some c =>
    rw [keyedPredicate, Predicate.truth_and_iff, hkey]
    simp

namespace UpdateStatement

variable {d : Dialect} {t : Target} {s : UpdateStatement} {steps : List UpdateStep}

theorem map_predicate_filter {key : Criteria} (h : s.key = some key) :
    s.filter.map Criteria.predicate = some (keyedPredicate key s.criteria) := by
  rw [filter, h]
  cases s.criteria <;> rfl

theorem Built.key_eq (hb : Built t steps s) {r : Record}
    (hr : (steps.filterMap UpdateStep.record?).getLast? = some r) :
    ∃ key, keyMatch r.key = some key ∧ s.key = some key := by
  have hne : r.key ≠ [] := hb.records r (List.mem_of_getLast? hr)
  have hsome : keyMatch r.key ≠ none := fun h => hne (keyMatch_eq_none_iff.1 h)
  obtain ⟨key, hkey⟩ := Option.ne_none_iff_exists'.1 hsome
  exact ⟨key, hkey, by rw [hb.key, hr, Option.bind_some, hkey]⟩

theorem wellFormed_leaves {r : Record} {key : Criteria} (hkey : keyMatch r.key = some key)
    (h : s.key = some key) (hc : ∀ c, s.criteria = some c → c.WellFormed) :
    ∀ l ∈ (Statement.update s).leaves, l.WellFormed := by
  intro l hl
  rw [Statement.leaves, h, Option.elim_some] at hl
  rcases List.mem_append.1 hl with hl | hl
  · exact wellFormed_keyMatch hkey l hl
  · cases hs : s.criteria with
    | none =>
      rw [hs] at hl
      cases hl
    | some c =>
      rw [hs] at hl
      exact hc c hs l hl

/-- What the written operands of an UPDATE that matches a key say. -/
theorem sentence_written {r : Record} {key : Criteria} (hkey : keyMatch r.key = some key)
    (h : s.key = some key) (d : Dialect) :
    d.sentence (.update s.written) = .update s.target.table (d.entries s.assignments)
      (some (keyedPredicate key (s.criteria.map Criteria.written))) := by
  have hwritten : s.written.key = some key := by
    rw [written, h, Option.map_some, Criteria.written_of_wellFormed (wellFormed_keyMatch hkey)]
  rw [Dialect.sentence, map_predicate_filter hwritten]
  rfl

/-- A complete chain compiles in a dialect that has its operators. Whatever the text is read
as, its WHERE clause is the match of the last key, or that and the last criteria; it can be
read when the criteria are well formed. So it is only true of rows that have every value of
the key. The place of criteria in the chain does not matter. -/
theorem run_where {r : Record} {criteria : Option Criteria} (hd : d.Legible)
    (h : (new t).run steps = .ok s)
    (hr : (steps.filterMap UpdateStep.record?).getLast? = some r)
    (hc : (steps.filterMap UpdateStep.criteria?).getLast? = criteria)
    (hv : (Statement.update s).validate = .ok ())
    (hs : ∀ l ∈ (Statement.update s).leaves, d.supports l.operator = true) :
    ∃ q key, (Statement.update s).compile d = .ok q ∧ keyMatch r.key = some key ∧
      (∀ w, d.read q.sql = some w → w.fill q.parameters =
        (Sentence.update t.table (d.entries s.assignments)
          (some (keyedPredicate key (criteria.map Criteria.written)))).map some) ∧
      ((∀ c, criteria = some c → c.WellFormed) →
        criteria.map Criteria.written = criteria ∧ ∃ w, d.read q.sql = some w) ∧
      (∀ holds, (keyedPredicate key (criteria.map Criteria.written)).truth holds = some true ↔
        (∀ f ∈ r.key, holds (fieldCondition f) = some true) ∧
          ∀ c, criteria = some c → c.written.predicate.truth holds = some true) ∧
      ∀ steps' : List UpdateStep,
        steps'.filter (fun step => step.criteria?.isNone) =
          steps.filter (fun step => step.criteria?.isNone) →
        (steps'.filterMap UpdateStep.criteria?).getLast? = criteria →
          (new t).run steps' = .ok s := by
  have hb := built_of_run h
  obtain ⟨key, hkey, hk⟩ := hb.key_eq hr
  have hcriteria : s.criteria = criteria := hb.criteria.trans hc
  have hreturns : d.Returns (.update s) := fun hne => absurd rfl hne
  have hq := Statement.compile_of_supports hv hreturns hs
  refine ⟨_, key, hq, hkey, ?_, ?_, ?_, ?_⟩
  · intro w hw
    rw [Statement.read_update hd hq hw, sentence_written hkey hk, hcriteria, hb.target]
  · intro hwf
    have hleaves := wellFormed_leaves hkey hk (hcriteria ▸ hwf)
    exact ⟨Criteria.map_written hwf, _, (Statement.read_compile hd hleaves hq).1⟩
  · intro holds
    rw [truth_keyedPredicate hkey]
    simp
  · intro steps' hothers hlast
    rw [run_congr hothers (hlast.trans hc.symm), h]

def unclaimed : Criteria :=
  .or (.leaf ⟨"author", .isNull, [], false⟩) (.leaf ⟨"title", .equal, [.ofString "Atlas"], true⟩)

set_option maxRecDepth 20000 in
theorem run_where_unclaimed :
    ∃ s q key, (new (.mapped bookSchema)).run [.matching (fieldMatch ("title", .null)),
        .usingRecord titledBook, .matching unclaimed, .usingRecord authoredBook] = .ok s ∧
      (Statement.update s).compile .level = .ok q ∧
      q.sql = "UPDATE \"library\".\"book\"\nSET \"title\" = :1, \"author\" = :2\n" ++
        "WHERE \"isbn\" = :3 AND \"shelf\" = :4 AND (\"author\" IS NULL OR NOT (\"title\" = :5))" ∧
      keyMatch authoredBook.key = some key ∧
      (∃ w, Dialect.level.read q.sql = some w ∧ w.fill q.parameters =
        (Sentence.update ⟨"library", "book"⟩ (Dialect.level.entries s.assignments)
          (some (keyedPredicate key (some unclaimed)))).map some) ∧
      (new (.mapped bookSchema)).run [.usingRecord titledBook, .usingRecord authoredBook,
        .matching unclaimed] = .ok s := by
  have hwf : unclaimed.WellFormed := by
    simp [unclaimed, Criteria.WellFormed, Criteria.or, Comparison.WellFormed, Operator.arity,
      Arity.Admits]
  have hrun : (new (.mapped bookSchema)).run [.matching (fieldMatch ("title", .null)),
      .usingRecord titledBook, .matching unclaimed, .usingRecord authoredBook] = .ok _ := rfl
  obtain ⟨q, key, hq, hkey, hread, hexists, -, hplace⟩ :=
    run_where (d := .level) Dialect.legible_level hrun rfl rfl rfl (by decide)
  have htext : q.sql = _ := congrArg Query.sql (Except.ok.inj hq).symm
  obtain ⟨hwritten, w, hw⟩ := hexists fun c hc => by cases hc; exact hwf
  rw [hwritten] at hread
  exact ⟨_, q, key, hrun, hq, htext, hkey, ⟨w, hw, hread w hw⟩, hplace _ rfl rfl⟩

end UpdateStatement
end Quarry
