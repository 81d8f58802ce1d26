import Quarry.Proofs.Row.Insertion

/-!
# The columns of a row in a column map

The map of a row has a column for each label, and repeated labels share one: it stands where the
first of them stood and has the value of the last. So the map has the columns of the row just when
no label is repeated (`ColumnMap.keeps_columns_iff`).
-/

namespace Quarry

namespace Row

def columns (r : Row) : List (String × Value) := r.labels.zip r.values

def Full (r : Row) : Prop := r.values.length = r.labels.length

variable {r : Row}

theorem Full.map_fst_columns (h : r.Full) : r.columns.map Prod.fst = r.labels :=
  List.map_fst_zip (Nat.le_of_eq h.symm)

theorem Full.getElem?_columns (h : r.Full) (i : Nat) :
    (r.columns[i]?).map Prod.snd = r.values[i]? := by
  rw [columns, ← List.getElem?_map, List.map_snd_zip (Nat.le_of_eq h)]

theorem Full.pairs_eq_columns (h : r.Full) :
    (r.labels.zipIdx.map fun (name, i) => (name, r.values[i]?.getD .null)) = r.columns := by
  have hlength : r.values.length = r.labels.length := h
  refine List.ext_getElem (by simp [columns, hlength]) fun i hi _ => ?_
  have hvalue : i < r.values.length := by simpa [hlength] using hi
  simp [columns, hvalue]

end Row

namespace ColumnMap

variable {m : ColumnMap} {r : Row}

theorem sound_ofRow (r : Row) : (ofRow r).Sound := sound_ofList _

theorem ofRow_of_full (h : r.Full) : ofRow r = ofList r.columns := by
  rw [ofRow, h.pairs_eq_columns]

theorem columns_ofRow (h : r.Full) : (ofRow r).columns = r.labels.eraseDups := by
  rw [ofRow_of_full h, columns_ofList, h.map_fst_columns]

theorem entries_ofRow (h : r.Full) (hdistinct : r.labels.Nodup) :
    (ofRow r).entries = r.columns := by
  rw [ofRow_of_full h]
  exact entries_ofList r.columns (h.map_fst_columns.symm ▸ hdistinct)

theorem map_name_metadata (m : ColumnMap) : m.metadata.map ColumnInfo.name = m.columns := by
  rw [metadata, columns, List.map_map]
  have hfirst : m.entries.zipIdx.map (Prod.fst ∘ Prod.fst) = m.entries.map Prod.fst := by
    rw [← List.map_map, List.zipIdx_map_fst]
  exact hfirst

theorem map_name_metadata_row (r : Row) : r.metadata.map ColumnInfo.name = r.labels := by
  rw [Row.metadata, List.map_map]
  exact List.zipIdx_map_fst 0 r.labels

theorem metadata_eq_of_entries (h : r.Full) (hentries : m.entries = r.columns) :
    m.metadata = r.metadata := by
  rw [metadata, hentries, ← h.pairs_eq_columns, Row.metadata]
  refine List.ext_getElem (by simp) fun i hi _ => ?_
  simp

/-- The map of a row keeps its columns, and tells of them what the row tells, if and only if no
label is repeated. Else each label has one column, in its first place and with its last value. -/
theorem keeps_columns_iff (h : r.Full) :
    ((ofRow r).columns = r.labels.eraseDups ∧
      ∀ name, (ofRow r).entries.lookup name = r.columns.reverse.lookup name) ∧
    ((ofRow r).entries = r.columns ↔ r.labels.Nodup) ∧
    ((ofRow r).metadata = r.metadata ↔ r.labels.Nodup) := by
  refine ⟨⟨columns_ofRow h, fun name => ?lookup⟩, ⟨?entries, entries_ofRow h⟩,
    ⟨?metadata, fun hdistinct => metadata_eq_of_entries h (entries_ofRow h hdistinct)⟩⟩
  case lookup =>
    rw [ofRow_of_full h]
    exact lookup_ofList r.columns name
  case entries =>
    intro hentries
    have hcolumns : (ofRow r).columns = r.labels := by
      rw [columns, hentries, h.map_fst_columns]
    exact hcolumns ▸ (sound_ofRow r).distinct
  case metadata =>
    intro hmetadata
    have hcolumns : (ofRow r).columns = r.labels := by
      rw [← map_name_metadata, hmetadata, map_name_metadata_row]
    exact hcolumns ▸ (sound_ofRow r).distinct

def casedRow : Row := ⟨["id", "ID"], [.ofString "1", .ofString "2"]⟩

theorem keeps_columns_iff_casedRow :
    casedRow.Full ∧ casedRow.labels.Nodup ∧ (ofRow casedRow).entries = casedRow.columns ∧
      (ofRow casedRow).metadata = casedRow.metadata := by
  have hfull : casedRow.Full := rfl
  have hdistinct : casedRow.labels.Nodup := by decide
  obtain ⟨-, hentries, hmetadata⟩ := keeps_columns_iff hfull
  exact ⟨hfull, hdistinct, hentries.2 hdistinct, hmetadata.2 hdistinct⟩

/-- A book joined with its second edition, which has a number of its own under the same label. -/
def joinedRow : Row :=
  ⟨["isbn", "title", "isbn"], [.ofString "1", .ofString "Atlas", .ofString "2"]⟩

/-- The number of the first edition is lost, and the other one stands in its place. -/
theorem ofRow_joinedRow :
    joinedRow.Full ∧
      (ofRow joinedRow).entries = [("isbn", .ofString "2"), ("title", .ofString "Atlas")] ∧
      (ofRow joinedRow).entries ≠ joinedRow.columns ∧
      (ofRow joinedRow).metadata ≠ joinedRow.metadata := by
  have hentries : (ofRow joinedRow).entries =
      [("isbn", .ofString "2"), ("title", .ofString "Atlas")] := by rfl
  refine ⟨rfl, hentries, ?_, ?_⟩
  · intro h
    have hlength := congrArg List.length (hentries.symm.trans h)
    exact absurd hlength (by decide)
  · intro h
    have hlength := congrArg List.length h
    exact absurd hlength (by decide)

end ColumnMap
end Quarry
