import Quarry.Proofs.Statement.Distinct
import Quarry.Proofs.Update.Key
import Quarry.Statement.Basic

/-!
# Requests

A request tells by which calls a statement is made, and by which constructors the sort orders,
pages and criteria that the calls are given. `build` makes them all, up to the first that is
refused. What is built is well formed: it names a column at most once in each of its lists, its
page begins at an index of `rowBits` bits, and each of its comparisons has the operands that the
operator takes (`StatementRequest.wellFormed_of_build`).
-/

namespace Quarry

theorem invariant_of_foldlM {ε σ α : Type} {P : σ → Prop} {f : σ → α → Except ε σ}
    (hstep : ∀ {s a s'}, P s → f s a = .ok s' → P s') {l : List α} {s s' : σ} (hs : P s)
    (h : l.foldlM f s = .ok s') : P s' := by
  induction l generalizing s with
  | nil =>
    cases h
    exact hs
  | cons a l ih =>
    rw [List.foldlM_cons, bind_eq_ok_iff] at h
    obtain ⟨s₁, h₁, h⟩ := h
    exact ih (hstep hs h₁) h

inductive SortRequest where
  | unsorted
  | ofKey (key : SortKey)
  | ofKeys (keys : List SortKey)
  | add (r : SortRequest) (key : SortKey)

namespace SortRequest

def keys : SortRequest → List SortKey
  | unsorted => []
  | ofKey k => [k]
  | ofKeys ks => ks
  | add r k => r.keys ++ [k]

def build : SortRequest → Except BuildError SortOrder
  | unsorted => .ok .unsorted
  | ofKey k => .ok (.ofKey k)
  | ofKeys ks => SortOrder.ofKeys ks
  | add r k => r.build >>= fun s => s.add k

/-- Whatever the constructors, the keys are those that were asked for, each column once. -/
theorem build_eq_ok_iff {r : SortRequest} {s : SortOrder} :
    r.build = .ok s ↔ (r.keys.map SortKey.column).Nodup ∧ s.keys = r.keys := by
  induction r generalizing s with
  | unsorted =>
    simp only [build, keys, Except.ok.injEq]
    exact ⟨fun h => ⟨List.nodup_nil, h ▸ rfl⟩, fun h => SortOrder.keys_injective h.2.symm⟩
  | ofKey k =>
    simp only [build, keys, Except.ok.injEq]
    exact ⟨fun h => ⟨by simp, h ▸ rfl⟩, fun h => SortOrder.keys_injective h.2.symm⟩
  | ofKeys ks => exact SortOrder.ofKeys_eq_ok_iff
  | add r k ih =>
    have hsplit : ((r.keys ++ [k]).map SortKey.column).Nodup ↔
        (r.keys.map SortKey.column).Nodup ∧ k.column ∉ r.keys.map SortKey.column := by
      rw [List.map_append, List.map_singleton, ← List.concat_eq_append, List.nodup_concat, and_comm]
    rw [build, keys, bind_eq_ok_iff, hsplit]
    constructor
    · rintro ⟨s₁, h₁, h⟩
      obtain ⟨hdistinct, hkeys⟩ := ih.1 h₁
      obtain ⟨hnew, hs⟩ := SortOrder.add_eq_ok_iff.1 h
      exact ⟨⟨hdistinct, hkeys ▸ hnew⟩, hkeys ▸ hs⟩
    · rintro ⟨⟨hdistinct, hnew⟩, hs⟩
      exact ⟨⟨r.keys, hdistinct⟩, ih.2 ⟨hdistinct, rfl⟩, SortOrder.add_eq_ok_iff.2 ⟨hnew, hs⟩⟩

end SortRequest

inductive PageRequest where
  | new (size number : Nat)
  | first (size : Nat)
  | following (r : PageRequest)

namespace PageRequest

def size : PageRequest → Nat
  | new size _ => size
  | first size => size
  | following r => r.size

def number : PageRequest → Nat
  | new _ number => number
  | first _ => 0
  | following r => r.number + 1

def build : PageRequest → Except BuildError Page
  | new size number => Page.new size number
  | first size => Page.first size
  | following r => r.build >>= Page.following

/-- Only the page that is asked for counts: those before it begin earlier. -/
theorem build_eq_ok_iff {r : PageRequest} {p : Page} :
    r.build = .ok p ↔
      0 < r.size ∧ r.size * r.number < rowBound ∧ p.size = r.size ∧ p.number = r.number := by
  induction r generalizing p with
  | new size number => exact Page.new_eq_ok_iff
  | first size => exact Page.new_eq_ok_iff
  | following r ih =>
    rw [build, size, number, bind_eq_ok_iff]
    constructor
    · rintro ⟨q, hq, h⟩
      obtain ⟨-, -, hsize, hnumber⟩ := ih.1 hq
      unfold Page.following at h
      split at h
      · exact hsize ▸ hnumber ▸ Page.new_eq_ok_iff.1 h
      · cases h
    · rintro ⟨hpos, hlt, hsize, hnumber⟩
      have hle : r.number + 1 ≤ r.size * (r.number + 1) := Nat.le_mul_of_pos_left _ hpos
      have hbefore : r.size * r.number ≤ r.size * (r.number + 1) :=
        Nat.mul_le_mul_left _ (Nat.le_succ _)
      refine ⟨⟨r.size, r.number, hpos, by omega⟩, ih.2 ⟨hpos, by omega, rfl, rfl⟩, ?_⟩
      have hnext : r.number + 1 < rowBound := by omega
      unfold Page.following
      rw [if_pos hnext]
      exact Page.new_eq_ok_iff.2 ⟨hpos, hlt, hsize, hnumber⟩

end PageRequest

def Operator.comparing : List Operator :=
  [equal, notEqual, greater, greaterEqual, less, lessEqual, like, notLike, ilike]

inductive Completion where
  | compare (operator : Operator) (h : operator ∈ Operator.comparing) (value : Value)
  | oneOf (values : List Value)
  | noneOf (values : List Value)
  | isNull
  | isNotNull

def Completion.finish (p : PendingLeaf) : Completion → Criteria
  | compare o _ v => p.compare o v
  | oneOf vs => p.oneOf vs
  | noneOf vs => p.noneOf vs
  | isNull => p.isNull
  | isNotNull => p.isNotNull

/-- Calls that make criteria; a leaf is negated any number of times before it is finished. -/
inductive CriteriaRequest where
  | comparison (column : String) (operator : Operator) (operands : List Value)
  | leaf (column : String) (negations : Nat) (completion : Completion)
  | joining (previous : CriteriaRequest) (combinator : Combinator) (column : String)
      (negations : Nat) (completion : Completion)
  | combine (lhs : CriteriaRequest) (combinator : Combinator) (rhs : CriteriaRequest)

namespace PendingLeaf

theorem previous_repeat_not (n : Nat) (p : PendingLeaf) : (n.repeat not p).previous = p.previous := by
  induction n with
  | zero => rfl
  | succ n ih => exact ih

theorem wellFormed_finish {p : PendingLeaf} {o : Operator} {vs : List Value}
    (hprevious : ∀ link ∈ p.previous, link.1.WellFormed) (h : o.arity.Admits vs.length) :
    (p.finish o vs).WellFormed := by
  have hleaf : (Criteria.leaf ⟨p.column, o, vs, p.negated⟩).WellFormed :=
    Criteria.wellFormed_leaf_iff.2 h
  unfold finish
  cases hp : p.previous with
  | none => exact hleaf
  | some link => exact Criteria.wellFormed_combine_iff.2 ⟨hprevious link hp, hleaf⟩

end PendingLeaf

theorem Completion.wellFormed_finish {p : PendingLeaf}
    (hprevious : ∀ link ∈ p.previous, link.1.WellFormed) (e : Completion) :
    (e.finish p).WellFormed := by
  cases e with
  | compare o ho v =>
    have harity : ∀ o ∈ Operator.comparing, o.arity = .exactly 1 := by decide
    refine p.wellFormed_finish hprevious ?_
    rw [harity o ho]
    rfl
  | oneOf vs | noneOf vs => exact p.wellFormed_finish hprevious trivial
  | isNull | isNotNull => exact p.wellFormed_finish hprevious rfl

namespace Criteria

theorem wellFormed_of_comparison {column : String} {o : Operator} {vs : List Value} {c : Criteria}
    (h : comparison column o vs = .ok c) : c.WellFormed := by
  unfold comparison at h
  split at h
  · rename_i n ha
    split at h
    · rename_i hn
      cases h
      refine wellFormed_leaf_iff.2 ?_
      unfold Comparison.WellFormed
      rw [ha]
      exact hn
    · cases h
  · rename_i ha
    cases h
    refine wellFormed_leaf_iff.2 ?_
    unfold Comparison.WellFormed
    rw [ha]
    trivial

end Criteria

namespace CriteriaRequest

def build : CriteriaRequest → Except BuildError Criteria
  | comparison column o vs => Criteria.comparison column o vs
  | leaf column n e => .ok (e.finish (n.repeat PendingLeaf.not (Criteria.column column)))
  | joining r o column n e => do
    let c ← r.build
    .ok (e.finish (n.repeat PendingLeaf.not (c.joining o column)))
  | combine l o r => do
    let l ← l.build
    let r ← r.build
    .ok (.combine l o r)

theorem wellFormed_of_build {r : CriteriaRequest} {c : Criteria} (h : r.build = .ok c) :
    c.WellFormed := by
  induction r generalizing c with
  | comparison column o vs => exact Criteria.wellFormed_of_comparison h
  | leaf column n e =>
    cases h
    apply e.wellFormed_finish
    rw [PendingLeaf.previous_repeat_not]
    nofun
  | joining r o column n e ih =>
    unfold build at h
    obtain ⟨c', hc', h⟩ := bind_eq_ok_iff.1 h
    cases h
    apply e.wellFormed_finish
    rw [PendingLeaf.previous_repeat_not]
    rintro link ⟨⟩
    exact ih hc'
  | combine l o r hl hr =>
    unfold build at h
    obtain ⟨l', hl', h⟩ := bind_eq_ok_iff.1 h
    obtain ⟨r', hr', h⟩ := bind_eq_ok_iff.1 h
    cases h
    exact Criteria.wellFormed_combine_iff.2 ⟨hl hl', hr hr'⟩

end CriteriaRequest

inductive SelectCall where
  | project (columns : List String)
  | matching (criteria : CriteriaRequest)
  | orderBy (sort : SortRequest)
  | page (page : PageRequest)

def SelectCall.apply (s : SelectStatement) : SelectCall → Except BuildError SelectStatement
  | project columns => (Projection.ofColumns columns).map fun p => s.apply (.project p)
  | matching r => r.build.map fun c => s.apply (.matching c)
  | orderBy r => r.build.map fun sort => s.apply (.orderBy sort)
  | page r => r.build.map fun p => s.apply (.page p)

inductive InsertCall where
  | value (column : String) (value : Value)
  | usingRecord (record : Record)
  | returning (columns : List String)

def InsertCall.apply (s : InsertStatement) : InsertCall → Except BuildError InsertStatement
  | value column v => s.apply (.value column v)
  | usingRecord r => s.apply (.usingRecord r)
  | returning columns => Projection.ofColumns columns >>= fun p => s.apply (.returning p)

inductive UpdateCall where
  | set (entries : List (String × Value))
  | usingRecord (record : Record)
  | matching (criteria : CriteriaRequest)

def UpdateCall.apply (s : UpdateStatement) : UpdateCall → Except BuildError UpdateStatement
  | set es => s.apply (.set es)
  | usingRecord r => s.apply (.usingRecord r)
  | matching r => r.build >>= fun c => s.apply (.matching c)

def CriteriaRequest.apply (s : DeleteStatement) (r : CriteriaRequest) :
    Except BuildError DeleteStatement :=
  r.build.map s.matching

inductive StatementRequest where
  | select (target : Target) (calls : List SelectCall)
  | insert (target : Target) (calls : List InsertCall)
  | update (target : Target) (calls : List UpdateCall)
  | delete (target : Target) (criteria : List CriteriaRequest)

namespace StatementRequest

def target : StatementRequest → Target
  | select t _ | insert t _ | update t _ | delete t _ => t

def build : StatementRequest → Except BuildError Statement
  | select t calls => (calls.foldlM SelectCall.apply (.new t)).map .select
  | insert t calls => (calls.foldlM InsertCall.apply (.new t)).map .insert
  | update t calls => (calls.foldlM UpdateCall.apply (.new t)).map .update
  | delete t criteria => (criteria.foldlM CriteriaRequest.apply (.new t)).map .delete

end StatementRequest

namespace Statement

def columnLists : Statement → List (List String)
  | select s => [s.projection.columns, s.sort.columns]
  | insert s => [s.assignments.columns, s.returning.columns]
  | update s => [s.assignments.columns]
  | delete _ => []

def page? : Statement → Option Page
  | select s => s.page
  | insert _ | update _ | delete _ => none

structure WellFormed (s : Statement) : Prop where
  distinct : ∀ columns ∈ s.columnLists, columns.Nodup
  page : ∀ p, s.page? = some p →
    1 ≤ p.size ∧ p.size * p.number < rowBound ∧ p.offset = p.size * p.number
  criteria : ∀ c, s.filter = some c → c.WellFormed

end Statement

section

variable {t : Target}

theorem UpdateStatement.wellFormed_filter_iff {s : UpdateStatement} :
    (∀ c, s.filter = some c → c.WellFormed) ↔
      (∀ c, s.key = some c → c.WellFormed) ∧ ∀ c, s.criteria = some c → c.WellFormed := by
  unfold filter
  cases s.key <;> cases s.criteria <;> simp [Criteria.and, Criteria.wellFormed_combine_iff]

theorem SelectStatement.wellFormed_new (ht : t.mappedColumns.Nodup) :
    (Statement.select (.new t)).WellFormed where
  distinct := List.forall_mem_cons.2 ⟨ht, List.forall_mem_singleton.2 List.nodup_nil⟩
  page := nofun
  criteria := nofun

theorem SelectCall.wellFormed_apply {s s' : SelectStatement} {c : SelectCall}
    (hs : (Statement.select s).WellFormed) (h : c.apply s = .ok s') :
    (Statement.select s').WellFormed := by
  cases c with
  | project columns =>
    obtain ⟨p, hp, rfl⟩ := map_eq_ok_iff.1 h
    obtain ⟨hdistinct, hcolumns⟩ := Projection.ofColumns_eq_ok_iff.1 hp
    have hsort := (List.forall_mem_cons.1 hs.distinct).2
    exact ⟨List.forall_mem_cons.2 ⟨hcolumns ▸ hdistinct, hsort⟩, hs.page, hs.criteria⟩
  | matching r =>
    obtain ⟨c, hc, rfl⟩ := map_eq_ok_iff.1 h
    refine ⟨hs.distinct, hs.page, ?_⟩
    rintro c' ⟨⟩
    exact r.wellFormed_of_build hc
  | orderBy r =>
    obtain ⟨sort, -, rfl⟩ := map_eq_ok_iff.1 h
    have hprojection := (List.forall_mem_cons.1 hs.distinct).1
    have hsort := List.forall_mem_singleton.2 sort.nodup
    exact ⟨List.forall_mem_cons.2 ⟨hprojection, hsort⟩, hs.page, hs.criteria⟩
  | page r =>
    obtain ⟨p, -, rfl⟩ := map_eq_ok_iff.1 h
    refine ⟨hs.distinct, ?_, hs.criteria⟩
    rintro p' ⟨⟩
    exact ⟨p.size_pos, p.offset_lt, rfl⟩

theorem InsertStatement.wellFormed_new : (Statement.insert (.new t)).WellFormed where
  distinct := List.forall_mem_cons.2 ⟨List.nodup_nil, List.forall_mem_singleton.2 List.nodup_nil⟩
  page := nofun
  criteria := nofun

theorem InsertCall.wellFormed_apply {s s' : InsertStatement} {c : InsertCall}
    (hs : (Statement.insert s).WellFormed) (h : c.apply s = .ok s') :
    (Statement.insert s').WellFormed := by
  cases c with
  | value column v | usingRecord r =>
    obtain ⟨a, -, rfl⟩ := map_eq_ok_iff.1 h
    exact ⟨List.forall_mem_cons.2 ⟨a.nodup, (List.forall_mem_cons.1 hs.distinct).2⟩, nofun, nofun⟩
  | returning columns =>
    obtain ⟨p, hp, h⟩ := bind_eq_ok_iff.1 h
    cases h
    obtain ⟨hdistinct, hcolumns⟩ := Projection.ofColumns_eq_ok_iff.1 hp
    refine ⟨List.forall_mem_cons.2 ⟨s.assignments.nodup, ?_⟩, nofun, nofun⟩
    exact List.forall_mem_singleton.2 (hcolumns ▸ hdistinct)

theorem UpdateStatement.wellFormed_new : (Statement.update (.new t)).WellFormed where
  distinct := List.forall_mem_singleton.2 List.nodup_nil
  page := nofun
  criteria := nofun

theorem UpdateCall.wellFormed_apply {s s' : UpdateStatement} {c : UpdateCall}
    (hs : (Statement.update s).WellFormed) (h : c.apply s = .ok s') :
    (Statement.update s').WellFormed := by
  obtain ⟨hkey, hcriteria⟩ := UpdateStatement.wellFormed_filter_iff.1 hs.criteria
  cases c with
  | set es =>
    obtain ⟨a, -, rfl⟩ := UpdateStatement.assign_eq_ok_iff.1 h
    exact ⟨List.forall_mem_singleton.2 a.nodup, nofun, hs.criteria⟩
  | usingRecord r =>
    obtain ⟨-, a, -, rfl⟩ := UpdateStatement.assignRecord_eq_ok_iff.1 h
    refine ⟨List.forall_mem_singleton.2 a.nodup, nofun, ?_⟩
    exact UpdateStatement.wellFormed_filter_iff.2 ⟨fun c hc => wellFormed_keyMatch hc, hcriteria⟩
  | matching r =>
    obtain ⟨c, hc, h⟩ := bind_eq_ok_iff.1 h
    cases h
    refine ⟨hs.distinct, nofun, UpdateStatement.wellFormed_filter_iff.2 ⟨hkey, ?_⟩⟩
    rintro c' ⟨⟩
    exact r.wellFormed_of_build hc

theorem DeleteStatement.wellFormed_new : (Statement.delete (.new t)).WellFormed where
  distinct := nofun
  page := nofun
  criteria := nofun

theorem CriteriaRequest.wellFormed_apply {s s' : DeleteStatement} {r : CriteriaRequest}
    (h : r.apply s = .ok s') : (Statement.delete s').WellFormed := by
  obtain ⟨c, hc, rfl⟩ := map_eq_ok_iff.1 h
  refine ⟨nofun, nofun, ?_⟩
  rintro c' ⟨⟩
  exact r.wellFormed_of_build hc

end

namespace StatementRequest

/-- Only the columns that a schema declares are not looked at again. -/
theorem wellFormed_of_build {r : StatementRequest} {s : Statement}
    (ht : r.target.mappedColumns.Nodup) (h : r.build = .ok s) : s.WellFormed := by
  cases r with
  | select t calls =>
    obtain ⟨s, hs, rfl⟩ := map_eq_ok_iff.1 h
    exact invariant_of_foldlM SelectCall.wellFormed_apply (SelectStatement.wellFormed_new ht) hs
  | insert t calls =>
    obtain ⟨s, hs, rfl⟩ := map_eq_ok_iff.1 h
    exact invariant_of_foldlM InsertCall.wellFormed_apply InsertStatement.wellFormed_new hs
  | update t calls =>
    obtain ⟨s, hs, rfl⟩ := map_eq_ok_iff.1 h
    exact invariant_of_foldlM UpdateCall.wellFormed_apply UpdateStatement.wellFormed_new hs
  | delete t criteria =>
    obtain ⟨s, hs, rfl⟩ := map_eq_ok_iff.1 h
    exact invariant_of_foldlM (fun _ => CriteriaRequest.wellFormed_apply)
      DeleteStatement.wellFormed_new hs

/-- Whatever is built is well formed. Of the value objects, a sort order is built when no column is
repeated in it, and a page when it has a size and begins at an index that there is. The constructors
that take a list of columns take it as it is, or else name the first column that is repeated. -/
theorem build_wellFormed :
    (∀ (r : StatementRequest) (s : Statement), r.target.mappedColumns.Nodup → r.build = .ok s →
      s.WellFormed) ∧
    (∀ (r : SortRequest) (s : SortOrder), r.build = .ok s ↔
      (r.keys.map SortKey.column).Nodup ∧ s.keys = r.keys) ∧
    (∀ (r : PageRequest) (p : Page), r.build = .ok p ↔
      0 < r.size ∧ r.size * r.number < rowBound ∧ p.size = r.size ∧ p.number = r.number) ∧
    (∀ (keys : List SortKey) (s : SortOrder), SortOrder.ofKeys keys = .ok s ↔
      (keys.map SortKey.column).Nodup ∧ s.keys = keys) ∧
    (∀ (keys : List SortKey) (e : BuildError), SortOrder.ofKeys keys = .error e ↔
      ∃ c, FirstRepeat (keys.map SortKey.column) c ∧ e = .columnSortedTwice c) ∧
    (∀ (columns : List String) (p : Projection), Projection.ofColumns columns = .ok p ↔
      columns.Nodup ∧ p.columns = columns) ∧
    ∀ (columns : List String) (e : BuildError), Projection.ofColumns columns = .error e ↔
      ∃ c, FirstRepeat columns c ∧ e = .columnProjectedTwice c :=
  ⟨fun _ _ => wellFormed_of_build, fun _ _ => SortRequest.build_eq_ok_iff,
    fun _ _ => PageRequest.build_eq_ok_iff, fun _ _ => SortOrder.ofKeys_eq_ok_iff,
    fun _ _ => SortOrder.ofKeys_eq_error_iff, fun _ _ => Projection.ofColumns_eq_ok_iff,
    fun _ _ => Projection.ofColumns_eq_error_iff⟩

def shelved : StatementRequest :=
  .select (.mapped UpdateStatement.bookSchema)
    [.project ["title", "author"],
      .matching (.joining (.comparison "shelf" .equal [.ofString "B"]) .and "author" 1
        (.oneOf [.ofString "anonymous"])),
      .orderBy (.add (.ofKey ⟨"author", .ascending⟩) ⟨"title", .descending⟩),
      .page (.following (.first 20))]

theorem wellFormed_shelved :
    shelved.target.mappedColumns.Nodup ∧ ∃ s, shelved.build = .ok s ∧ s.WellFormed ∧
      s.page?.map Page.offset = some 20 ∧
      SortOrder.ofKeys [⟨"author", .ascending⟩, ⟨"title", .ascending⟩, ⟨"author", .descending⟩] =
        .error (.columnSortedTwice "author") := by
  obtain ⟨hbuild, -, -, -, hsort, -⟩ := build_wellFormed
  have hdistinct : shelved.target.mappedColumns.Nodup := by decide
  have hshelved : shelved.build = .ok _ := rfl
  refine ⟨hdistinct, _, hshelved, hbuild _ _ hdistinct hshelved, rfl, ?_⟩
  rw [hsort]
  exact ⟨"author", ⟨["author", "title"], [], rfl, by decide, by decide⟩, rfl⟩

end StatementRequest
end Quarry
