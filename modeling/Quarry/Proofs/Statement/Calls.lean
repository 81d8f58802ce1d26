import Quarry.Proofs.Update.Chain
import Quarry.Statement.Insert

/-!
# Sequences of calls that assign

Statements get their assignments by calls, each with entries from one source. A sequence of calls
succeeds when all have one source and no column is repeated in any of them, and it does not matter
how the entries are spread over the calls (`run_of_source`). The statements add nothing to this:
a chain of calls on an INSERT or an UPDATE assigns what the calls on the assignments alone come to
(`InsertStatement.assignments_run`, `UpdateStatement.assignments_run`).
-/

namespace Quarry

namespace Assignments

structure Call where
  source : AssignmentSource
  entries : List (String × Value)

def Call.columns (c : Call) : List String := c.entries.map Prod.fst

variable {a b : Assignments} {c : Call} {calls : List Call} {source : AssignmentSource}

def run (a : Assignments) (calls : List Call) : Except BuildError Assignments :=
  calls.foldlM (fun a c => a.add c.source c.entries) a

theorem run_cons (a : Assignments) (c : Call) (calls : List Call) :
    a.run (c :: calls) = a.add c.source c.entries >>= fun b => b.run calls := rfl

theorem run_append (a : Assignments) (calls calls' : List Call) :
    a.run (calls ++ calls') = a.run calls >>= fun b => b.run calls' := List.foldlM_append

theorem run_singleton (a : Assignments) (c : Call) : a.run [c] = a.add c.source c.entries := by
  rw [run_cons]
  cases a.add c.source c.entries <;> rfl

theorem map_fst_flatMap (calls : List Call) :
    (calls.flatMap Call.entries).map Prod.fst = calls.flatMap Call.columns := List.map_flatMap

/-- Calls with one source are as good as a single one with all their entries. -/
theorem run_of_source (h : ∀ c ∈ calls, c.source = source) (hne : calls ≠ []) (a : Assignments) :
    a.run calls = a.add source (calls.flatMap Call.entries) := by
  induction calls generalizing a with
  | nil => exact absurd rfl hne
  | cons c calls ih =>
    obtain ⟨rfl, hcalls⟩ := List.forall_mem_cons.1 h
    rw [List.flatMap_cons, add_append, run_cons]
    by_cases hlast : calls = []
    · subst hlast
      cases hb : a.add c.source c.entries with
      | error e => rfl
      | ok b =>
        obtain ⟨-, -, hsource, -⟩ := add_eq_ok_iff.1 hb
        have hnothing : b.add c.source [] = .ok b :=
          add_eq_ok_iff.2 ⟨.inr hsource, by simpa [columns] using b.nodup, hsource, by simp⟩
        exact hnothing.symm
    · exact congrArg (a.add c.source c.entries >>= ·) (funext fun b => ih hcalls hlast b)

/-- A source that was given is kept, and every later call has it. -/
theorem source_of_run (hcalls : ∀ c ∈ calls, c.source ≠ .none) (h : a.run calls = .ok b) :
    (a.source ≠ .none → b.source = a.source) ∧ ∀ c ∈ calls, b.source = c.source := by
  induction calls generalizing a with
  | nil =>
    cases h
    exact ⟨fun _ => rfl, nofun⟩
  | cons c calls ih =>
    obtain ⟨hc, hcalls⟩ := List.forall_mem_cons.1 hcalls
    rw [run_cons, bind_eq_ok_iff] at h
    obtain ⟨a', ha', h⟩ := h
    obtain ⟨hsource, -, hc', -⟩ := add_eq_ok_iff.1 ha'
    obtain ⟨hkept, hrest⟩ := ih hcalls h
    have hb : b.source = c.source := (hkept (hc' ▸ hc)).trans hc'
    refine ⟨fun ha => ?_, List.forall_mem_cons.2 ⟨hb, hrest⟩⟩
    rw [hb, hsource.resolve_left ha]

theorem run_empty_eq_ok_iff (hcalls : ∀ c ∈ calls, c.source ≠ .none) :
    empty.run calls = .ok a ↔
      (calls.flatMap Call.columns).Nodup ∧ a.entries = calls.flatMap Call.entries ∧
        (∀ c ∈ calls, a.source = c.source) ∧ (calls = [] → a.source = .none) := by
  by_cases hne : calls = []
  · subst hne
    constructor
    · intro h
      cases h
      exact ⟨List.nodup_nil, rfl, nofun, fun _ => rfl⟩
    · rintro ⟨-, hentries, -, hsource⟩
      exact congrArg Except.ok (eq_of_entries (hsource rfl).symm hentries.symm)
  · have hempty : ∀ source es, empty.add source es = .ok a ↔
        (es.map Prod.fst).Nodup ∧ a.source = source ∧ a.entries = es := by
      intro source es
      rw [add_eq_ok_iff]
      exact and_iff_right (.inl rfl)
    constructor
    · intro h
      obtain ⟨-, hsource⟩ := source_of_run hcalls h
      rw [run_of_source (fun c hc => (hsource c hc).symm) hne, hempty, map_fst_flatMap] at h
      exact ⟨h.1, h.2.2, hsource, fun hnil => absurd hnil hne⟩
    · rintro ⟨hdistinct, hentries, hsource, -⟩
      rw [run_of_source (fun c hc => (hsource c hc).symm) hne, hempty, map_fst_flatMap]
      exact ⟨hdistinct, rfl, hentries⟩

theorem exists_run_empty_iff (hcalls : ∀ c ∈ calls, c.source ≠ .none) :
    (∃ a, empty.run calls = .ok a) ↔
      (∀ c ∈ calls, ∀ c' ∈ calls, c.source = c'.source) ∧ (calls.flatMap Call.columns).Nodup := by
  constructor
  · rintro ⟨a, h⟩
    obtain ⟨hdistinct, -, hsource, -⟩ := (run_empty_eq_ok_iff hcalls).1 h
    exact ⟨fun c hc c' hc' => (hsource c hc).symm.trans (hsource c' hc'), hdistinct⟩
  · rintro ⟨hsources, hdistinct⟩
    rw [← map_fst_flatMap] at hdistinct
    cases calls with
    | nil => exact ⟨empty, rfl⟩
    | cons c calls =>
      refine ⟨⟨c.source, (c :: calls).flatMap Call.entries, hdistinct⟩, ?_⟩
      rw [run_empty_eq_ok_iff hcalls, ← map_fst_flatMap]
      exact ⟨hdistinct, rfl, fun c' hc' => hsources c List.mem_cons_self c' hc', nofun⟩

theorem conflicts_of_run (hcalls : ∀ c ∈ calls, c.source ≠ .none) (h : empty.run calls = .ok a) :
    a.Conflicts source ↔ ∃ c ∈ calls, c.source ≠ source := by
  obtain ⟨-, -, hsource, hnone⟩ := (run_empty_eq_ok_iff hcalls).1 h
  constructor
  · rintro ⟨ha, hne⟩
    cases calls with
    | nil => exact absurd (hnone rfl) ha
    | cons c calls => exact ⟨c, List.mem_cons_self, hsource c List.mem_cons_self ▸ hne⟩
  · rintro ⟨c, hc, hne⟩
    unfold Conflicts
    rw [hsource c hc]
    exact ⟨hcalls c hc, hne⟩

/-- A call after others that succeeded is refused when one of them has another source, or else
for the first column that is repeated in all of them. -/
theorem add_after_run_eq_error_iff {e : BuildError} (hcalls : ∀ c ∈ calls, c.source ≠ .none)
    (h : empty.run calls = .ok a) :
    a.add c.source c.entries = .error e ↔
      ((∃ c' ∈ calls, c'.source ≠ c.source) ∧ e = .sourcesMixed) ∨
      ((∀ c' ∈ calls, c'.source = c.source) ∧
        ∃ column, FirstRepeat ((calls ++ [c]).flatMap Call.columns) column ∧
          e = .columnAssignedTwice column) := by
  have hcolumns : a.columns ++ c.entries.map Prod.fst = (calls ++ [c]).flatMap Call.columns := by
    obtain ⟨-, hentries, -⟩ := (run_empty_eq_ok_iff hcalls).1 h
    rw [columns, hentries, map_fst_flatMap, List.flatMap_append, List.flatMap_singleton]
    rfl
  rw [add_eq_error_iff, conflicts_of_run hcalls h, hcolumns]
  simp

/-- What a call leaves: one that fails leaves what was there. -/
def attempt (a : Assignments) (c : Call) : Assignments :=
  match a.add c.source c.entries with
  | .ok b => b
  | .error _ => a

/-- The calls that succeed when all are attempted. -/
def accepted (a : Assignments) : List Call → List Call
  | [] => []
  | c :: calls =>
    match a.add c.source c.entries with
    | .ok b => c :: b.accepted calls
    | .error _ => a.accepted calls

/-- The calls that fail leave no trace. -/
theorem run_accepted (a : Assignments) (calls : List Call) :
    a.run (a.accepted calls) = .ok (calls.foldl attempt a) := by
  induction calls generalizing a with
  | nil => rfl
  | cons c calls ih =>
    rw [List.foldl_cons]
    cases hb : a.add c.source c.entries with
    | error e => simp only [accepted, attempt, hb, ih]
    | ok b =>
      have hrun : a.run (c :: b.accepted calls) = b.run (b.accepted calls) := by
        rw [run_cons, hb]
        rfl
      simp only [accepted, attempt, hb, hrun, ih]

end Assignments

open Assignments (Call)

def InsertStep.call? : InsertStep → Option Call
  | value column v => some ⟨.explicit, [(column, v)]⟩
  | usingRecord r => some ⟨.object, r.fields⟩
  | returning _ => none

def UpdateStep.call? : UpdateStep → Option Call
  | set entries => some ⟨.explicit, entries⟩
  | usingRecord r => some ⟨.object, r.nonKey⟩
  | matching _ => none

/-- Steps of which each does to the assignments what its calls do. -/
theorem Assignments.map_foldlM_eq_run {σ τ : Type} {apply : σ → τ → Except BuildError σ}
    {assignments : σ → Assignments} {call? : τ → Option Call} {steps : List τ}
    (h : ∀ step ∈ steps, ∀ s,
      (apply s step).map assignments = (assignments s).run (call? step).toList) (s : σ) :
    (steps.foldlM apply s).map assignments = (assignments s).run (steps.filterMap call?) := by
  induction steps generalizing s with
  | nil => rfl
  | cons step steps ih =>
    obtain ⟨hstep, hsteps⟩ := List.forall_mem_cons.1 h
    have hcalls : (step :: steps).filterMap call? =
        (call? step).toList ++ steps.filterMap call? := by
      cases hc : call? step <;> simp [hc]
    rw [List.foldlM_cons, hcalls, run_append, ← hstep s]
    cases apply s step with
    | error e => rfl
    | ok s' => exact ih hsteps s'

namespace InsertStatement

def run (s : InsertStatement) (steps : List InsertStep) : Except BuildError InsertStatement :=
  steps.foldlM apply s

theorem assignments_assign (s : InsertStatement) (c : Call) :
    (s.assign c.source c.entries).map InsertStatement.assignments = s.assignments.run [c] := by
  rw [Assignments.run_singleton, assign]
  cases s.assignments.add c.source c.entries <;> rfl

theorem assignments_run (s : InsertStatement) (steps : List InsertStep) :
    (s.run steps).map InsertStatement.assignments =
      s.assignments.run (steps.filterMap InsertStep.call?) := by
  refine Assignments.map_foldlM_eq_run (fun step _ s => ?_) s
  cases step with
  | value column v => exact s.assignments_assign ⟨.explicit, [(column, v)]⟩
  | usingRecord r => exact s.assignments_assign ⟨.object, r.fields⟩
  | returning p => rfl

end InsertStatement

namespace UpdateStatement

theorem assignments_assign (s : UpdateStatement) (c : Call) :
    (s.assign c.source c.entries).map UpdateStatement.assignments = s.assignments.run [c] := by
  rw [Assignments.run_singleton, assign]
  cases s.assignments.add c.source c.entries <;> rfl

theorem assignments_run {steps : List UpdateStep}
    (hkeys : ∀ r ∈ steps.filterMap UpdateStep.record?, r.key ≠ []) (s : UpdateStatement) :
    (s.run steps).map UpdateStatement.assignments =
      s.assignments.run (steps.filterMap UpdateStep.call?) := by
  refine Assignments.map_foldlM_eq_run (fun step hstep s => ?_) s
  cases step with
  | set es => exact s.assignments_assign ⟨.explicit, es⟩
  | matching c => rfl
  | usingRecord r =>
    have hkey : ¬ r.key.isEmpty = true := fun h =>
      hkeys r (List.mem_filterMap.2 ⟨_, hstep, rfl⟩) (List.isEmpty_iff.1 h)
    refine Eq.trans ?_ (s.assignments_assign ⟨.object, r.nonKey⟩)
    rw [apply, assignRecord, if_neg hkey]
    cases s.assign .object r.nonKey <;> rfl

theorem assign_append (s : UpdateStatement) (source : AssignmentSource)
    (es es' : List (String × Value)) :
    s.assign source (es ++ es') = s.assign source es >>= fun s' => s'.assign source es' := by
  rw [assign, assign, Assignments.add_append]
  cases s.assignments.add source es <;> rfl

/-- A definition of one or more columns does what single calls for them do. -/
theorem apply_set (s : UpdateStatement) (e : String × Value) (es : List (String × Value)) :
    s.apply (.set (e :: es)) = s.run ((e :: es).map fun e => .set [e]) := by
  induction es generalizing s e with
  | nil =>
    rw [List.map_singleton, run_cons]
    cases s.apply (.set [e]) <;> rfl
  | cons e' es ih =>
    have hsplit : s.apply (.set (e :: e' :: es)) =
        s.apply (.set [e]) >>= fun s' => s'.apply (.set (e' :: es)) :=
      s.assign_append .explicit [e] (e' :: es)
    rw [hsplit, List.map_cons, run_cons]
    exact congrArg (s.apply (.set [e]) >>= ·) (funext fun s' => ih s' e')

end UpdateStatement

namespace Assignments

/-- Calls with entries of explicit values or of objects all succeed if and only if they have one
source and repeat no column; the assignments are then the entries of all of them in order. A call
that fails names the source, or else the first column that is repeated, and leaves no trace.
Entries may be spread over calls in any way, and calls on statements come to the same. -/
theorem run_calls (calls : List Call) (hcalls : ∀ c ∈ calls, c.source ≠ .none) :
    ((∃ a, empty.run calls = .ok a) ↔
      (∀ c ∈ calls, ∀ c' ∈ calls, c.source = c'.source) ∧
        (calls.flatMap Call.columns).Nodup) ∧
    (∀ a, empty.run calls = .ok a →
      a.entries = calls.flatMap Call.entries ∧ ∀ c ∈ calls, a.source = c.source) ∧
    (∀ before c after a e, calls = before ++ c :: after → empty.run before = .ok a →
      (a.add c.source c.entries = .error e ↔
        ((∃ c' ∈ before, c'.source ≠ c.source) ∧ e = .sourcesMixed) ∨
        ((∀ c' ∈ before, c'.source = c.source) ∧
          ∃ column, FirstRepeat ((before ++ [c]).flatMap Call.columns) column ∧
            e = .columnAssignedTwice column))) ∧
    empty.run (empty.accepted calls) = .ok (calls.foldl attempt empty) ∧
    (∀ (a : Assignments) source es es',
      a.add source (es ++ es') = a.add source es >>= fun b => b.add source es') ∧
    (∀ t steps, steps.filterMap InsertStep.call? = calls →
      ((InsertStatement.new t).run steps).map InsertStatement.assignments = empty.run calls) ∧
    (∀ t steps, (∀ r ∈ steps.filterMap UpdateStep.record?, r.key ≠ []) →
      steps.filterMap UpdateStep.call? = calls →
      ((UpdateStatement.new t).run steps).map UpdateStatement.assignments = empty.run calls) ∧
    ∀ (s : UpdateStatement) e es,
      s.apply (.set (e :: es)) = s.run ((e :: es).map fun e => .set [e]) := by
  refine ⟨exists_run_empty_iff hcalls, ?values, ?failure, run_accepted empty calls, add_append,
    ?insert, ?update, UpdateStatement.apply_set⟩
  case values =>
    intro a h
    obtain ⟨-, hentries, hsource, -⟩ := (run_empty_eq_ok_iff hcalls).1 h
    exact ⟨hentries, hsource⟩
  case failure =>
    rintro before c after a e rfl h
    exact add_after_run_eq_error_iff (fun c hc => hcalls c (List.mem_append_left _ hc)) h
  case insert =>
    rintro t steps rfl
    exact (InsertStatement.new t).assignments_run steps
  case update =>
    rintro t steps hkeys rfl
    exact UpdateStatement.assignments_run hkeys (.new t)

def shelving : List Call :=
  [⟨.explicit, [("title", .ofString "Atlas"), ("shelf", .ofString "A")]⟩, ⟨.explicit, []⟩,
    ⟨.explicit, [("author", .ofString "anonymous"), ("shelf", .ofString "B")]⟩]

theorem run_calls_shelving :
    (∀ c ∈ shelving, c.source ≠ .none) ∧ (¬ ∃ a, empty.run shelving = .ok a) ∧
      ∃ a, empty.run (shelving.take 2) = .ok a ∧
        a.add .explicit [("author", .ofString "anonymous"), ("shelf", .ofString "B")] =
          .error (.columnAssignedTwice "shelf") := by
  have hsources : ∀ c ∈ shelving, c.source ≠ .none := by simp [shelving]
  obtain ⟨hsucceed, -, hfail, -⟩ := run_calls shelving hsources
  have hrun : empty.run (shelving.take 2) = .ok _ := rfl
  refine ⟨hsources, ?_, _, hrun, ?_⟩
  · rw [hsucceed]
    rintro ⟨-, hdistinct⟩
    exact absurd hdistinct (by decide)
  · refine (hfail _ ⟨.explicit, _⟩ [] _ _ rfl hrun).2 (.inr ⟨by simp [shelving], "shelf", ?_, rfl⟩)
    exact ⟨["title", "shelf", "author"], [], rfl, by decide, by decide⟩

end Assignments
end Quarry
