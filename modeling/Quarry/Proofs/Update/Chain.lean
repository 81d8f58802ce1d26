import Mathlib.Data.List.Induction
import Quarry.Proofs.Update.Key

/-!
# Chains of calls on an UPDATE

A chain makes calls on a new UPDATE one after another. What it builds is told by its calls
(`Built`): the entries of all calls in order, the key of the last object, the last criteria.
So an UPDATE that matches a key takes nothing from explicit calls, but from every object that
was used (`run_assigned`), and it does not matter where in the chain criteria are set
(`run_congr`).
-/

namespace Quarry

namespace UpdateStep

def assigned : UpdateStep → List (String × Value)
  | set entries => entries
  | usingRecord r => r.nonKey
  | matching _ => []

def source : UpdateStep → AssignmentSource
  | set _ => .explicit
  | usingRecord _ => .object
  | matching _ => .none

def record? : UpdateStep → Option Record
  | usingRecord r => some r
  | set _ | matching _ => none

def criteria? : UpdateStep → Option Criteria
  | matching c => some c
  | set _ | usingRecord _ => none

theorem flatMap_assigned_of_no_set {steps : List UpdateStep} (h : ∀ es, set es ∉ steps) :
    steps.flatMap assigned = (steps.filterMap record?).flatMap Record.nonKey := by
  induction steps with
  | nil => rfl
  | cons step steps ih =>
    have hrest := ih fun es hes => h es (List.mem_cons_of_mem _ hes)
    cases step with
    | set es => exact absurd List.mem_cons_self (h es)
    | usingRecord r => exact congrArg (r.nonKey ++ ·) hrest
    | matching c => exact hrest

end UpdateStep

namespace UpdateStatement

variable {t : Target} {s s' : UpdateStatement} {steps : List UpdateStep}

def run (s : UpdateStatement) (steps : List UpdateStep) : Except BuildError UpdateStatement :=
  steps.foldlM apply s

theorem run_cons (s : UpdateStatement) (step : UpdateStep) (steps : List UpdateStep) :
    s.run (step :: steps) = s.apply step >>= fun s => s.run steps := rfl

theorem run_snoc_eq_ok_iff {step : UpdateStep} :
    s.run (steps ++ [step]) = .ok s' ↔ ∃ s₁, s.run steps = .ok s₁ ∧ s₁.apply step = .ok s' := by
  have hlast : ∀ s₁ : UpdateStatement, [step].foldlM apply s₁ = s₁.apply step := fun s₁ => by simp
  rw [run, List.foldlM_append, bind_eq_ok_iff]
  simp only [hlast]
  rfl

structure Built (t : Target) (steps : List UpdateStep) (s : UpdateStatement) : Prop where
  target : s.target = t
  source : ∀ step ∈ steps, step.source ≠ .none → s.assignments.source = step.source
  entries : s.assignments.entries = steps.flatMap UpdateStep.assigned
  key : s.key = (steps.filterMap UpdateStep.record?).getLast?.bind fun r => keyMatch r.key
  criteria : s.criteria = (steps.filterMap UpdateStep.criteria?).getLast?
  records : ∀ r ∈ steps.filterMap UpdateStep.record?, r.key ≠ []

theorem built_new (t : Target) : Built t [] (new t) where
  target := rfl
  source step h := by cases h
  entries := rfl
  key := rfl
  criteria := rfl
  records r h := by cases h

/-- The source of a call that adds entries is the source of all of them. -/
theorem Built.source_snoc (hb : Built t steps s) (step : UpdateStep) {a : Assignments}
    {es : List (String × Value)} (ha : s.assignments.add step.source es = .ok a) :
    ∀ step' ∈ steps ++ [step], step'.source ≠ .none → a.source = step'.source := by
  obtain ⟨hsource, -, hs, -⟩ := Assignments.add_eq_ok_iff.1 ha
  intro step' hstep' hne
  -- an earlier call with a source shares it with the assignments, which `add` compares
  rcases List.mem_append.1 hstep' with hold | hnew
  · have hold := hb.source step' hold hne
    rcases hsource with h | h
    · exact absurd (hold.symm.trans h) hne
    · rw [hs, ← hold, h]
  · rw [List.mem_singleton.1 hnew, hs]

theorem Built.apply (hb : Built t steps s) {step : UpdateStep} (h : s.apply step = .ok s') :
    Built t (steps ++ [step]) s' := by
  cases step with
  | set es =>
    obtain ⟨a, ha, rfl⟩ := assign_eq_ok_iff.1 h
    obtain ⟨-, -, -, he⟩ := Assignments.add_eq_ok_iff.1 ha
    exact
      { target := hb.target
        source := hb.source_snoc (.set es) ha
        entries := by simp [he, hb.entries, UpdateStep.assigned]
        key := by simpa [UpdateStep.record?] using hb.key
        criteria := by simpa [UpdateStep.criteria?] using hb.criteria
        records := by simpa [UpdateStep.record?] using hb.records }
  | usingRecord r =>
    obtain ⟨hk, a, ha, rfl⟩ := assignRecord_eq_ok_iff.1 h
    obtain ⟨-, -, -, he⟩ := Assignments.add_eq_ok_iff.1 ha
    exact
      { target := hb.target
        source := hb.source_snoc (.usingRecord r) ha
        entries := by simp [he, hb.entries, UpdateStep.assigned]
        key := by simp [UpdateStep.record?]
        criteria := by simpa [UpdateStep.criteria?] using hb.criteria
        records := by
          intro r' hr'
          rcases List.mem_append.1 (List.filterMap_append ▸ hr') with hold | hnew
          · exact hb.records r' hold
          · obtain rfl : r' = r := by simpa [UpdateStep.record?] using hnew
            exact hk }
  | matching c =>
    obtain rfl := Except.ok.inj h
    exact
      { target := hb.target
        source := by
          intro step hstep hne
          rcases List.mem_append.1 hstep with hold | hnew
          · exact hb.source step hold hne
          · rw [List.mem_singleton.1 hnew] at hne
            exact absurd rfl hne
        entries := by simp [hb.entries, UpdateStep.assigned]
        key := by simpa [UpdateStep.record?] using hb.key
        criteria := by simp [UpdateStep.criteria?]
        records := by simpa [UpdateStep.record?] using hb.records }

theorem built_of_run (h : (new t).run steps = .ok s) : Built t steps s := by
  induction steps using List.reverseRecOn generalizing s with
  | nil =>
    obtain rfl := Except.ok.inj h
    exact built_new t
  | append_singleton steps step ih =>
    obtain ⟨s₁, h₁, hstep⟩ := run_snoc_eq_ok_iff.1 h
    exact (ih h₁).apply hstep

theorem Built.no_set (hb : Built t steps s) {r : Record}
    (hr : r ∈ steps.filterMap UpdateStep.record?) : ∀ es, .set es ∉ steps := by
  intro es hes
  obtain ⟨step, hstep, hr⟩ := List.mem_filterMap.1 hr
  have hobject : s.assignments.source = .object := by
    cases step with
    | usingRecord r => exact hb.source _ hstep nofun
    | set es | matching c => cases hr
  have hexplicit : s.assignments.source = .explicit := hb.source _ hes nofun
  rw [hobject] at hexplicit
  cases hexplicit

/-- An UPDATE that matches a key matches that of the object used last, and assigns what lies
outside of the keys of all the objects that were used. So it assigns the fields of the last
one and nothing else just when the others have no field outside of their keys. -/
theorem run_assigned {key : Criteria} (h : (new t).run steps = .ok s) (hk : s.key = some key) :
    ∃ earlier r, steps.filterMap UpdateStep.record? = earlier ++ [r] ∧
      keyMatch r.key = some key ∧ (∀ es, .set es ∉ steps) ∧
      s.assignments.entries = earlier.flatMap Record.nonKey ++ r.nonKey ∧
      (s.assignments.entries = r.nonKey ↔ ∀ e ∈ earlier, e.nonKey = []) := by
  have hb := built_of_run h
  have hlast := hb.key
  rw [hk] at hlast
  obtain ⟨r, hr, hkey⟩ := Option.bind_eq_some_iff.1 hlast.symm
  obtain ⟨earlier, hrecords⟩ := List.getLast?_eq_some_iff.1 hr
  have hset := hb.no_set (List.mem_of_getLast? hr)
  have hentries : s.assignments.entries = earlier.flatMap Record.nonKey ++ r.nonKey := by
    rw [hb.entries, UpdateStep.flatMap_assigned_of_no_set hset, hrecords]
    simp
  refine ⟨earlier, r, hrecords, hkey, hset, hentries, ?_⟩
  rw [hentries, List.append_left_eq_self, List.flatMap_eq_nil_iff]

def titledBook : Record :=
  ⟨bookSchema, [("isbn", .ofString "1"), ("shelf", .ofString "A"), ("title", .ofString "Atlas")]⟩

def authoredBook : Record :=
  ⟨bookSchema, [("isbn", .ofString "2"), ("shelf", .ofString "B"), ("author", .ofString "anonymous")]⟩

theorem run_assigned_twoBooks :
    ∃ s key, (new (.mapped bookSchema)).run [.usingRecord titledBook,
        .matching (fieldMatch ("title", .null)), .usingRecord authoredBook] = .ok s ∧
      s.key = some key ∧ ∃ earlier r, earlier ++ [r] = [titledBook, authoredBook] ∧
        keyMatch r.key = some key ∧
        s.assignments.entries = earlier.flatMap Record.nonKey ++ r.nonKey := by
  have hrun : (new (.mapped bookSchema)).run [.usingRecord titledBook,
      .matching (fieldMatch ("title", .null)), .usingRecord authoredBook] = .ok _ := rfl
  obtain ⟨earlier, r, hr, hk, -, he, -⟩ := run_assigned hrun rfl
  exact ⟨_, _, hrun, rfl, earlier, r, hr.symm, hk, he⟩

/-- The title of one book is assigned to the other. -/
theorem run_mixes_books :
    ∃ s key, (new (.mapped bookSchema)).run [.usingRecord titledBook, .usingRecord authoredBook] =
        .ok s ∧
      s.key = some key ∧ keyMatch authoredBook.key = some key ∧
      ("title", .ofString "Atlas") ∈ s.assignments.entries ∧
      "title" ∉ authoredBook.fields.map Prod.fst := by
  exact ⟨_, _, rfl, rfl, rfl, List.mem_cons_self, by decide⟩

theorem apply_withCriteria {step : UpdateStep} (h : step.criteria? = none) (s : UpdateStatement)
    (c : Option Criteria) :
    { s with criteria := c }.apply step =
      (s.apply step).map fun s => { s with criteria := c } := by
  cases step with
  | set es =>
    simp only [UpdateStatement.apply, assign]
    cases s.assignments.add .explicit es <;> rfl
  | usingRecord r =>
    simp only [UpdateStatement.apply, assignRecord, assign]
    split
    · rfl
    · cases s.assignments.add .object r.nonKey <;> rfl
  | matching c => cases h

theorem criteria_of_apply {step : UpdateStep} (h : step.criteria? = none)
    (hs : s.apply step = .ok s') : s'.criteria = s.criteria := by
  have hw := apply_withCriteria h s s.criteria
  have hself : { s with criteria := s.criteria } = s := rfl
  rw [hself, hs] at hw
  have he : s' = { s' with criteria := s.criteria } := Except.ok.inj hw
  rw [he]

theorem run_withCriteria (h : ∀ step ∈ steps, step.criteria? = none) (s : UpdateStatement)
    (c : Option Criteria) :
    { s with criteria := c }.run steps = (s.run steps).map fun s => { s with criteria := c } := by
  induction steps generalizing s with
  | nil => rfl
  | cons step steps ih =>
    rw [run_cons, run_cons, apply_withCriteria (h step List.mem_cons_self)]
    cases s.apply step with
    | error e => rfl
    | ok s₁ => exact ih (fun x hx => h x (List.mem_cons_of_mem _ hx)) s₁

/-- A chain is as good as its other calls with the last criteria set in the end. -/
theorem run_eq_filter (s : UpdateStatement) (steps : List UpdateStep) :
    s.run steps = (s.run (steps.filter fun step => step.criteria?.isNone)).map fun s' =>
      { s' with criteria := (steps.filterMap UpdateStep.criteria?).getLast?.or s.criteria } := by
  induction steps generalizing s with
  | nil => rfl
  | cons step steps ih =>
    cases hc : step.criteria? with
    | some c =>
      have hothers : ∀ x ∈ steps.filter fun step => step.criteria?.isNone, x.criteria? = none :=
        fun x hx => by simpa using (List.mem_filter.1 hx).2
      have hstep : s.apply step = .ok { s with criteria := some c } := by
        cases step with
        | matching c' => rw [← Option.some.inj hc, UpdateStatement.apply]
        | set es | usingRecord r => cases hc
      have hrun : s.run (step :: steps) = { s with criteria := some c }.run steps := by
        rw [run_cons, hstep]
        rfl
      rw [hrun, ih, run_withCriteria hothers, List.filter_cons_of_neg (by simp [hc]),
        List.filterMap_cons_some hc, List.getLast?_cons]
      cases s.run (steps.filter fun step => step.criteria?.isNone) with
      | error e => rfl
      | ok s₁ => cases h : (steps.filterMap UpdateStep.criteria?).getLast? <;> rfl
    | none =>
      rw [List.filter_cons_of_pos (by simp [hc]), List.filterMap_cons_none hc, run_cons, run_cons]
      cases hs : s.apply step with
      | error e => rfl
      | ok s₁ =>
        rw [← criteria_of_apply hc hs]
        exact ih s₁

/-- Two chains with the same last criteria and otherwise the same calls build the same. -/
theorem run_congr {steps' : List UpdateStep}
    (ho : steps'.filter (fun step => step.criteria?.isNone) =
      steps.filter fun step => step.criteria?.isNone)
    (hc : (steps'.filterMap UpdateStep.criteria?).getLast? =
      (steps.filterMap UpdateStep.criteria?).getLast?) (s : UpdateStatement) :
    s.run steps' = s.run steps := by
  rw [run_eq_filter, run_eq_filter s steps, ho, hc]

end UpdateStatement
end Quarry
