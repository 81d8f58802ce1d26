import Quarry.Proofs.Statement.Distinct
import Quarry.Statement.Assignments

/-!
# What adding assignments gives

Adding entries succeeds when they come from the source of those before and name no column
twice; the entries are then appended as they are. Otherwise it is refused for the source, or
else for the first column that is repeated. It does not matter whether entries are added
together or in parts (`add_append`).
-/

namespace Quarry.Assignments

variable {a b : Assignments} {source : AssignmentSource} {es : List (String × Value)}

theorem eq_of_entries (hs : a.source = b.source) (he : a.entries = b.entries) : a = b := by
  obtain ⟨source, entries, _⟩ := a
  obtain ⟨source', entries', _⟩ := b
  obtain rfl : source = source' := hs
  obtain rfl : entries = entries' := he
  rfl

theorem takesOnce_assign :
    TakesOnce Assignments.entries Prod.fst BuildError.columnAssignedTwice assign where
  refuses h := dif_pos h
  takes h := ⟨_, dif_neg h, rfl⟩

theorem source_of_assign {e : String × Value} (h : a.assign e = .ok b) : b.source = a.source := by
  rw [assign] at h
  split at h
  · cases h
  · cases h
    rfl

theorem source_of_foldlM_assign (h : es.foldlM assign a = .ok b) : b.source = a.source := by
  induction es generalizing a with
  | nil =>
    cases h
    rfl
  | cons e es ih =>
    rw [List.foldlM_cons, bind_eq_ok_iff] at h
    obtain ⟨a', ha', h⟩ := h
    rw [ih h, source_of_assign ha']

theorem foldlM_assign_eq_ok_iff :
    es.foldlM assign a = .ok b ↔
      (a.columns ++ es.map Prod.fst).Nodup ∧ b.source = a.source ∧
        b.entries = a.entries ++ es := by
  have hcolumns : (a.entries ++ es).map Prod.fst = a.columns ++ es.map Prod.fst := List.map_append
  constructor
  · intro h
    obtain ⟨hdistinct, hentries⟩ := takesOnce_assign.of_foldlM a.nodup h
    exact ⟨hcolumns ▸ hdistinct, source_of_foldlM_assign h, hentries⟩
  · rintro ⟨hdistinct, hsource, hentries⟩
    obtain ⟨b', h⟩ := takesOnce_assign.exists_foldlM (hcolumns.symm ▸ hdistinct)
    obtain ⟨-, hentries'⟩ := takesOnce_assign.of_foldlM a.nodup h
    have hsource' := source_of_foldlM_assign h
    rw [h, eq_of_entries (hsource'.trans hsource.symm) (hentries'.trans hentries.symm)]

def Conflicts (a : Assignments) (source : AssignmentSource) : Prop :=
  a.source ≠ .none ∧ a.source ≠ source

theorem not_conflicts_iff : ¬ a.Conflicts source ↔ a.source = .none ∨ a.source = source := by
  rw [Conflicts, not_and_or, not_not, not_not]

theorem add_of_conflicts (h : a.Conflicts source) (es : List (String × Value)) :
    a.add source es = .error .sourcesMixed :=
  if_pos h

theorem add_of_not_conflicts (h : ¬ a.Conflicts source) (es : List (String × Value)) :
    a.add source es = es.foldlM assign { a with source } :=
  if_neg h

theorem add_eq_ok_iff :
    a.add source es = .ok b ↔
      (a.source = .none ∨ a.source = source) ∧ (a.columns ++ es.map Prod.fst).Nodup ∧
        b.source = source ∧ b.entries = a.entries ++ es := by
  rw [← not_conflicts_iff]
  by_cases h : a.Conflicts source
  · rw [add_of_conflicts h]
    constructor
    · intro hb
      cases hb
    · rintro ⟨hn, -⟩
      exact absurd h hn
  · rw [add_of_not_conflicts h, foldlM_assign_eq_ok_iff]
    exact (and_iff_right h).symm

/-- What adding entries is refused for. -/
theorem add_eq_error_iff {e : BuildError} :
    a.add source es = .error e ↔
      (a.Conflicts source ∧ e = .sourcesMixed) ∨
      (¬ a.Conflicts source ∧
        ∃ c, FirstRepeat (a.columns ++ es.map Prod.fst) c ∧ e = .columnAssignedTwice c) := by
  by_cases h : a.Conflicts source
  · rw [add_of_conflicts h, Except.error.injEq]
    simp [h, eq_comm]
  · have hcolumns : (a.entries ++ es).map Prod.fst = a.columns ++ es.map Prod.fst := List.map_append
    have hdistinct : (({ a with source } : Assignments).entries.map Prod.fst).Nodup := a.nodup
    rw [add_of_not_conflicts h, takesOnce_assign.foldlM_eq_error_iff hdistinct, hcolumns]
    simp [h]

theorem error_of_add {e : BuildError} (h : a.add source es = .error e) :
    e = .sourcesMixed ∨ ∃ c, e = .columnAssignedTwice c := by
  rcases add_eq_error_iff.1 h with ⟨-, rfl⟩ | ⟨-, c, -, rfl⟩
  · exact .inl rfl
  · exact .inr ⟨c, rfl⟩

/-- Entries that are added together are as good as the same entries added in two parts. -/
theorem add_append (a : Assignments) (source : AssignmentSource) (es es' : List (String × Value)) :
    a.add source (es ++ es') = a.add source es >>= fun b => b.add source es' := by
  by_cases h : a.Conflicts source
  · rw [add_of_conflicts h, add_of_conflicts h]
    rfl
  · rw [add_of_not_conflicts h, add_of_not_conflicts h, List.foldlM_append]
    cases hb : es.foldlM assign { a with source } with
    | error e => rfl
    | ok b =>
      -- the first part leaves `source` behind, which the second one finds again
      have hsource : b.source = source := source_of_foldlM_assign hb
      have hb' : ({ b with source } : Assignments) = b := eq_of_entries hsource.symm rfl
      have hgoes : ¬ b.Conflicts source := not_conflicts_iff.2 (.inr hsource)
      have hsecond : b.add source es' = es'.foldlM assign b := by
        rw [add_of_not_conflicts hgoes, hb']
      exact hsecond.symm

end Quarry.Assignments
