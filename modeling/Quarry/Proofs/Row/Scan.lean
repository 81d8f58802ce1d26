import Mathlib.Data.List.Forall2
import Quarry.Proofs.Row.Lookup

/-!
# Column maps as lists

A column map finds a column by its index and is compared together with it, but the index is told
by the columns alone (`Made.index_eq`). So to the reader a map that was made by insertions is the
list of its entries: it finds what a scan of them finds, and it equals another map just when the
entries of both are equal (`Made.finds_by_scan`).
-/

namespace Quarry

def Row.padded (r : Row) : List (String × Value) :=
  r.labels.zipIdx.map fun (name, i) => (name, r.values[i]?.getD .null)

namespace ColumnMap

/-- The map was made by inserting the pairs of the list in order. -/
inductive Made : ColumnMap → List (String × Value) → Prop
  | empty : Made .empty []
  | ofList (l : List (String × Value)) : Made (ofList l) l
  | ofRow (r : Row) : Made (ofRow r) r.padded
  | insert {m : ColumnMap} {l : List (String × Value)} (h : Made m l) (column : String)
    (v : Value) : Made (m.insert column v).2 (l ++ [(column, v)])

def scan? (m : ColumnMap) (name : String) : Option (String × Value) :=
  (m.entries.find? (·.1 == name)).or (m.entries.find? (Row.foldsAlike ·.1 name))

/-- Each name in the place where it stands first, with the value that it has last. -/
def lastValues (l : List (String × Value)) : List (String × Value) :=
  (l.map Prod.fst).eraseDups.filterMap fun name => (l.reverse.lookup name).map (name, ·)

variable {m m' : ColumnMap} {l l' : List (String × Value)}

theorem Made.eq_ofList (h : Made m l) : m = ColumnMap.ofList l := by
  induction h with
  | empty | ofList l | ofRow r => rfl
  | insert h column v ih => rw [ofList_snoc, ← ih]

theorem Made.sound (h : Made m l) : m.Sound := h.eq_ofList ▸ sound_ofList l

/-- Where no key is repeated, a list of pairs is told by its keys and what is found under them. -/
theorem eq_filterMap_lookup {β : Type} {es : List (String × β)} (h : (es.map Prod.fst).Nodup) :
    es = (es.map Prod.fst).filterMap fun key => (es.lookup key).map (key, ·) := by
  induction es with
  | nil => rfl
  | cons e es ih =>
    obtain ⟨first, x⟩ := e
    obtain ⟨hnew, hes⟩ := List.nodup_cons.1 h
    have hrest : (es.map Prod.fst).filterMap
        (fun key => (((first, x) :: es).lookup key).map (key, ·)) =
          (es.map Prod.fst).filterMap fun key => (es.lookup key).map (key, ·) := by
      refine List.filterMap_congr fun key hkey => ?_
      have hne : key ≠ first := fun heq => hnew (heq ▸ hkey)
      rw [List.lookup_cons, beq_false_of_ne hne]
    rw [List.map_cons, List.filterMap_cons, List.lookup_cons_self, hrest, ← ih hes]
    rfl

theorem sameIndex_self {index : List (String × Nat)} (h : (index.map Prod.fst).Nodup) :
    sameIndex index index = true := by
  rw [sameIndex, Bool.and_eq_true, beq_self_eq_true, List.all_eq_true]
  refine ⟨rfl, fun e he => ?_⟩
  rw [beq_iff_eq, List.lookup_eq_some_iff]
  obtain ⟨before, after, rfl⟩ := List.append_of_mem he
  refine ⟨before, after, rfl, fun e' he' => bne_iff_ne.2 fun heq => ?_⟩
  rw [List.map_append, List.nodup_append] at h
  exact h.2.2 e'.1 (List.mem_map_of_mem he') e.1 List.mem_cons_self heq.symm

theorem sameEntries_iff {es es' : List (String × Value)} :
    sameEntries es es' = true ↔
      List.Forall₂ (fun e e' => e.1 = e'.1 ∧ e.2.equals e'.2 = true) es es' := by
  induction es generalizing es' with
  | nil => cases es' <;> simp [sameEntries]
  | cons e es ih => cases es' <;> simp [sameEntries, ih]

theorem names_index_insert (h : m.index.map Prod.fst = (m.columns.map Text.fold).eraseDups)
    (column : String) (v : Value) :
    (m.insert column v).2.index.map Prod.fst =
      ((m.insert column v).2.columns.map Text.fold).eraseDups := by
  rw [columns_insert]
  by_cases hmem : column ∈ m.columns
  · rw [if_pos hmem, insert_of_mem hmem, h]
  · have hfolded : (m.index.lookup (Text.fold column)).isSome = true ↔
        Text.fold column ∈ m.columns.map Text.fold := by
      rw [← List.mem_eraseDups, ← h, ← not_iff_not, Bool.not_eq_true, Option.isSome_eq_false_iff,
        Option.isNone_iff_eq_none, lookup_eq_none_iff]
    rw [if_neg hmem, insert_of_not_mem hmem, List.map_append, List.map_singleton, eraseDups_concat,
      ← h]
    by_cases hold : Text.fold column ∈ m.columns.map Text.fold
    · rw [if_pos (hfolded.2 hold), if_pos hold]
    · rw [if_neg (mt hfolded.1 hold), if_neg hold]
      exact List.map_append

theorem Made.names_index (h : Made m l) :
    m.index.map Prod.fst = (m.columns.map Text.fold).eraseDups := by
  obtain rfl := h.eq_ofList
  clear h
  induction l using List.reverseRecOn with
  | nil => rfl
  | append_singleton l c ih =>
    rw [ofList_snoc]
    exact names_index_insert ih c.1 c.2

theorem nodup_eraseDups {α : Type} [DecidableEq α] (l : List α) : l.eraseDups.Nodup := by
  induction l using List.reverseRecOn with
  | nil => exact List.nodup_nil
  | append_singleton l x ih =>
    rw [eraseDups_concat]
    split
    · exact ih
    · rename_i hx
      have hnew : x ∉ l.eraseDups := fun h => hx (List.mem_eraseDups.1 h)
      exact ih.append (List.nodup_singleton x) (List.disjoint_singleton.2 hnew)

theorem Made.nodup_names_index (h : Made m l) : (m.index.map Prod.fst).Nodup :=
  h.names_index ▸ nodup_eraseDups _

theorem Made.index_eq (h : Made m l) (h' : Made m' l') (hcolumns : m.columns = m'.columns) :
    m.index = m'.index := by
  have hnames : m.index.map Prod.fst = m'.index.map Prod.fst := by
    rw [h.names_index, h'.names_index, hcolumns]
  have hlookup : ∀ folded, m.index.lookup folded = m'.index.lookup folded := by
    intro folded
    rw [h.sound.index, h'.sound.index, hcolumns]
  rw [eq_filterMap_lookup h.nodup_names_index, eq_filterMap_lookup h'.nodup_names_index, hnames]
  simp only [hlookup]

theorem Sound.get?_eq (h : m.Sound) (name : String) :
    m.get? name = (m.scan? name).map Prod.snd := by
  have hplace : ∀ p : String → Bool,
      (m.columns.findIdx? p).bind (m.entries[·]?) = m.entries.find? (p ·.1) := by
    intro p
    rw [columns, List.findIdx?_map, List.find?_eq_bind_findIdx?_getElem?]
    rfl
  rw [get?, h.position?, scan?, ← hplace (· == name), ← hplace (Row.foldsAlike · name)]
  rcases hexact : m.columns.findIdx? (· == name) with _ | i
  · rfl
  · have hlt : i < m.columns.length := (List.findIdx?_eq_some_iff_getElem.1 hexact).1
    rw [columns, List.length_map] at hlt
    rw [Option.some_or, Option.bind_some, List.getElem?_eq_getElem hlt, Option.some_or]

theorem Sound.contains_eq (h : m.Sound) (name : String) :
    m.contains name = (m.get? name).isSome := by
  rw [contains, h.get?_eq, h.position?, scan?, Option.isSome_map, Option.isSome_or,
    Option.isSome_or, List.findIdx?_isSome, List.findIdx?_isSome, List.isSome_find?,
    List.isSome_find?, columns, List.any_map, List.any_map]
  rfl

theorem Made.entries_eq (h : Made m l) : m.entries = lastValues l := by
  rw [eq_filterMap_lookup h.sound.distinct, lastValues]
  have hcolumns : m.entries.map Prod.fst = (l.map Prod.fst).eraseDups :=
    h.eq_ofList ▸ columns_ofList l
  have hlookup : ∀ name, m.entries.lookup name = l.reverse.lookup name :=
    fun name => h.eq_ofList ▸ lookup_ofList l name
  simp only [hcolumns, hlookup]

theorem insert_fst (m : ColumnMap) (column : String) (v : Value) :
    (m.insert column v).1 = m.entries.lookup column := by
  rw [insert]
  cases m.entries.lookup column <;> rfl

theorem Made.equals_iff (h : Made m l) (h' : Made m' l') :
    m.equals m' = true ↔
      List.Forall₂ (fun e e' => e.1 = e'.1 ∧ e.2.equals e'.2 = true) m.entries m'.entries := by
  rw [equals, Bool.and_eq_true, sameEntries_iff]
  refine and_iff_left_of_imp fun hentries => ?_
  have hcolumns : m.columns = m'.columns := by
    rw [columns, columns, ← List.forall₂_eq_eq_eq]
    exact List.forall₂_map_left_iff.2 (List.forall₂_map_right_iff.2 (hentries.imp fun _ _ h => h.1))
  rw [h.index_eq h' hcolumns]
  exact sameIndex_self h'.nodup_names_index

/-- A map that was made by insertions finds what a scan of its entries finds: the one that has
exactly the name, or else the first that has it up to folding. The entries are those inserted last
under each name, in the order in which the names came first, and insertion yields the value that it
replaces. Such maps are equal if and only if their entries are. -/
theorem Made.finds_by_scan (h : Made m l) :
    (∀ name, m.get? name = (m.scan? name).map Prod.snd ∧
      m.contains name = (m.get? name).isSome) ∧
    m.entries = lastValues l ∧
    (∀ column v, (m.insert column v).1 = m.entries.lookup column) ∧
    ∀ m' l', Made m' l' → (m.equals m' = true ↔
      List.Forall₂ (fun e e' => e.1 = e'.1 ∧ e.2.equals e'.2 = true) m.entries m'.entries) :=
  ⟨fun name => ⟨h.sound.get?_eq name, h.sound.contains_eq name⟩, h.entries_eq, insert_fst m,
    fun _ _ h' => h.equals_iff h'⟩

/-- A value that is replaced keeps its place, and the first spelling of a name stays the one that
other spellings find. -/
theorem Made.finds_by_scan_casedRow :
    ∃ m, Made m (casedRow.padded ++ [("id", .ofString "3")]) ∧
      m.get? "Id" = some (.ofString "3") ∧ m.get? "ID" = some (.ofString "2") ∧
      (m.insert "ID" .null).1 = some (.ofString "2") ∧ (m.insert "Id" .null).1 = none ∧
      m.equals (ColumnMap.ofList [("ID", .ofString "2"), ("id", .ofString "3")]) = false := by
  have hmade := Made.insert (.ofRow casedRow) "id" (.ofString "3")
  obtain ⟨hget, hentries, hinsert, hequals⟩ := hmade.finds_by_scan
  refine ⟨_, hmade, ?_, ?_, ?_, ?_, ?_⟩
  · rw [(hget "Id").1]
    rfl
  · rw [(hget "ID").1]
    rfl
  · rw [hinsert, hentries]
    rfl
  · rw [hinsert, hentries]
    rfl
  · rw [← Bool.not_eq_true, hequals _ _ (.ofList _), hentries]
    intro hsame
    cases hsame with
    | cons hfirst _ => exact absurd hfirst.1 (by decide)

end ColumnMap
end Quarry
