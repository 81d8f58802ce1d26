import Mathlib.Data.List.Induction
import Mathlib.Data.List.Nodup
import Quarry.ColumnMap

/-!
# Insertion into column maps

An insertion leaves the names of the columns alone or puts a new one behind them, and the index
stays at the first column of each folded name (`ColumnMap.Sound`). So a map that was made by
insertions has each name once, in the place where it was inserted first (`columns_ofList`), with
the value that was inserted last (`lookup_ofList`).
-/

namespace Quarry.ColumnMap

variable {m : ColumnMap} {column name : String} {v : Value} {es : List (String × Value)}

theorem lookup_eq_none_iff {α β : Type} [BEq α] [LawfulBEq α] {es : List (α × β)} {key : α} :
    es.lookup key = none ↔ key ∉ es.map Prod.fst := by
  rw [List.lookup_eq_none_iff, List.mem_map]
  constructor
  · rintro h ⟨e, he, rfl⟩
    simpa using h e he
  · intro h e he
    exact bne_iff_ne.2 fun heq => h ⟨e, he, heq.symm⟩

theorem eraseDups_concat {α : Type} [DecidableEq α] (l : List α) (x : α) :
    (l ++ [x]).eraseDups = if x ∈ l then l.eraseDups else l.eraseDups ++ [x] := by
  rw [List.eraseDups_append]
  by_cases hx : x ∈ l
  · simp [hx, List.removeAll]
  · simp [hx, List.removeAll, List.eraseDups_cons]

theorem lookup_cons_of_ne {e : String × Value} (h : name ≠ e.1) (es : List (String × Value)) :
    (e :: es).lookup name = es.lookup name := by
  rw [List.lookup_cons, beq_false_of_ne h]

theorem map_fst_replace (column : String) (v : Value) (es : List (String × Value)) :
    (replace column v es).map Prod.fst = es.map Prod.fst := by
  induction es with
  | nil => rfl
  | cons e es ih =>
    rw [replace]
    split
    · rename_i h
      rw [List.map_cons, List.map_cons, h]
    · rw [List.map_cons, List.map_cons, ih]

theorem lookup_replace (h : column ∈ es.map Prod.fst) (v : Value) (name : String) :
    (replace column v es).lookup name = if name = column then some v else es.lookup name := by
  induction es with
  | nil => cases h
  | cons e es ih =>
    obtain ⟨first, w⟩ := e
    rw [replace]
    by_cases hfirst : first = column
    · subst hfirst
      rw [if_pos rfl]
      by_cases hname : name = first
      · simp [hname]
      · rw [if_neg hname, lookup_cons_of_ne hname, lookup_cons_of_ne hname]
    · rw [if_neg hfirst]
      have hrest : column ∈ es.map Prod.fst := (List.mem_cons.1 h).resolve_left (Ne.symm hfirst)
      by_cases hname : name = first
      · subst hname
        simp [hfirst]
      · rw [lookup_cons_of_ne hname, lookup_cons_of_ne hname, ih hrest]

theorem insert_of_mem (h : column ∈ m.columns) (v : Value) :
    (m.insert column v).2 = { m with entries := replace column v m.entries } := by
  rw [insert]
  rcases hlookup : m.entries.lookup column with _ | former
  · exact absurd h (lookup_eq_none_iff.1 hlookup)
  · rfl

theorem insert_of_not_mem (h : column ∉ m.columns) (v : Value) :
    (m.insert column v).2 =
      { entries := m.entries ++ [(column, v)]
        index :=
          if (m.index.lookup (Text.fold column)).isSome then m.index
          else m.index ++ [(Text.fold column, m.entries.length)] } := by
  rw [insert, lookup_eq_none_iff.2 h]

theorem columns_insert (m : ColumnMap) (column : String) (v : Value) :
    (m.insert column v).2.columns =
      if column ∈ m.columns then m.columns else m.columns ++ [column] := by
  split
  · rename_i h
    rw [insert_of_mem h]
    exact map_fst_replace column v m.entries
  · rename_i h
    rw [insert_of_not_mem h]
    exact List.map_append

theorem lookup_insert (m : ColumnMap) (column : String) (v : Value) (name : String) :
    (m.insert column v).2.entries.lookup name =
      if name = column then some v else m.entries.lookup name := by
  by_cases h : column ∈ m.columns
  · rw [insert_of_mem h]
    exact lookup_replace h v name
  · rw [insert_of_not_mem h, List.lookup_append]
    by_cases hname : name = column
    · rw [if_pos hname, hname, lookup_eq_none_iff.2 h]
      simp
    · rw [if_neg hname, lookup_cons_of_ne hname]
      exact Option.or_none

/-- Each name occurs once, and the index leads to the first column of each folded name. -/
structure Sound (m : ColumnMap) : Prop where
  distinct : m.columns.Nodup
  index : ∀ folded, m.index.lookup folded = m.columns.findIdx? (Text.fold · == folded)

theorem sound_empty : empty.Sound := ⟨.nil, fun _ => rfl⟩

theorem Sound.insert (h : m.Sound) (column : String) (v : Value) :
    (m.insert column v).2.Sound := by
  have hcolumns := columns_insert m column v
  by_cases hmem : column ∈ m.columns
  · rw [if_pos hmem] at hcolumns
    refine ⟨hcolumns.symm ▸ h.distinct, fun folded => ?_⟩
    rw [hcolumns, insert_of_mem hmem]
    exact h.index folded
  · rw [if_neg hmem] at hcolumns
    refine ⟨?distinct, fun folded => ?index⟩
    case distinct =>
      rw [hcolumns]
      exact h.distinct.append (List.nodup_singleton column) (List.disjoint_singleton.2 hmem)
    case index =>
      rw [hcolumns, List.findIdx?_append, ← h.index, insert_of_not_mem hmem]
      have hlength : m.columns.length = m.entries.length := List.length_map _
      by_cases hfolded : folded = Text.fold column
      · subst hfolded
        rcases hindex : m.index.lookup (Text.fold column) with _ | i
        · simp [hindex, hlength, List.lookup_append]
        · simp [hindex]
      · -- another folded name is neither put into the index nor found at the new column
        have hnew : (Text.fold column == folded) = false := beq_false_of_ne (Ne.symm hfolded)
        have hnone : [column].findIdx? (Text.fold · == folded) = none := by simp [hnew]
        rw [hnone, Option.map_none, Option.or_none]
        split
        · rfl
        · rw [List.lookup_append, List.lookup_cons, beq_false_of_ne hfolded]
          exact Option.or_none

theorem ofList_snoc (l : List (String × Value)) (c : String × Value) :
    ofList (l ++ [c]) = ((ofList l).insert c.1 c.2).2 := by
  rw [ofList, List.foldl_append]
  rfl

theorem sound_ofList (l : List (String × Value)) : (ofList l).Sound := by
  induction l using List.reverseRecOn with
  | nil => exact sound_empty
  | append_singleton l c ih =>
    rw [ofList_snoc]
    exact ih.insert c.1 c.2

theorem columns_ofList (l : List (String × Value)) :
    (ofList l).columns = (l.map Prod.fst).eraseDups := by
  induction l using List.reverseRecOn with
  | nil => rfl
  | append_singleton l c ih =>
    have hmem : c.1 ∈ (l.map Prod.fst).eraseDups ↔ c.1 ∈ l.map Prod.fst := List.mem_eraseDups
    rw [ofList_snoc, columns_insert, ih, List.map_append, List.map_singleton, eraseDups_concat]
    simp only [hmem]

theorem lookup_ofList (l : List (String × Value)) (name : String) :
    (ofList l).entries.lookup name = l.reverse.lookup name := by
  induction l using List.reverseRecOn with
  | nil => rfl
  | append_singleton l c ih =>
    obtain ⟨last, w⟩ := c
    rw [ofList_snoc, lookup_insert, ih, List.reverse_append]
    by_cases hname : name = last
    · simp [hname]
    · rw [if_neg hname]
      exact (lookup_cons_of_ne hname _).symm

theorem entries_ofList (l : List (String × Value)) (h : (l.map Prod.fst).Nodup) :
    (ofList l).entries = l := by
  induction l using List.reverseRecOn with
  | nil => rfl
  | append_singleton l c ih =>
    rw [List.map_append, List.nodup_append] at h
    have hl := ih h.1
    have hnew : c.1 ∉ (ofList l).columns := by
      rw [columns, hl]
      exact fun hmem => h.2.2 _ hmem _ (List.mem_singleton.2 rfl) rfl
    rw [ofList_snoc, insert_of_not_mem hnew, hl]

end Quarry.ColumnMap
