import Quarry.Proofs.Sql.Lexeme
import Quarry.Proofs.Sql.Outcome

/-!
# Writing into one draft

A script holds what a statement writes before any of it is written. Here a statement is written
step by step into a draft that other statements may have been written to: text goes behind the
text, a value behind the values and its mark shows their count, a separator is written where
the length of the text shows that the part before it wrote something, and a failure stops the
writing where it arises. `Dialect.ShowsValues.on_writeStatement` proves that this leaves the
draft and the failure that `Draft.addStatement` gives, if marks and the word for NULL write
something.
-/

namespace Quarry

/-- A joined list is its first part and the others, each behind the separator. -/
theorem Text.intercalate_map_cons {α β : Type} (separator : List β) (f : α → List β) (a : α)
    (as : List α) :
    separator.intercalate ((a :: as).map f) = f a ++ as.flatMap fun a => separator ++ f a := by
  induction as generalizing a with
  | nil => simp
  | cons b as ih =>
    rw [List.map_cons, List.map_cons, List.intercalate_cons_cons, ← List.map_cons, ih,
      List.flatMap_cons, List.append_assoc, List.append_assoc]

namespace Script

theorem ofTokens_append (as bs : List Token) :
    ofTokens (as ++ bs) = ofTokens as ++ ofTokens bs := rfl

theorem append_assoc (a b c : Script) : a ++ b ++ c = a ++ (b ++ c) := by
  simp only [append_def, append]
  cases ha : a.failure <;> cases hb : b.failure <;> simp [ha, hb]

theorem isEmpty_append {a : Script} (h : a.tokens.isEmpty = false) (b : Script) :
    (a ++ b).tokens.isEmpty = false := by
  rw [append_def, append]
  cases ha : a.failure with
  | none => simp_all
  | some e => exact h

end Script

namespace Draft

theorem addTokens_append (d : Dialect) (b : Draft) (as bs : List Token) :
    b.addTokens d (as ++ bs) = (b.addTokens d as).addTokens d bs := by
  simp [addTokens, Token.render_append, Token.parameters_append, String.append_assoc]

theorem addScript_append (d : Dialect) (b : Draft) (s t : Script) :
    b.addScript d (s ++ t) =
      match b.addScript d s with
      | (b, none) => b.addScript d t
      | (b, some e) => (b, some e) := by
  cases hs : s.failure with
  | none => simp [addScript, Script.append_def, Script.append, hs, addTokens_append]
  | some e => simp [addScript, Script.append_of_failure hs, hs]

end Draft

/-- A program that writes into a draft; what it wrote before it failed stays. -/
abbrev Writing (α : Type) := ExceptT CompileError (StateM Draft) α

namespace Writing

def push (s : String) : Writing Unit := modify (·.addText s)

def bindValue (v : Value) : Writing Nat := do
  modify (·.bind v)
  return (← get).parameters.length

def size : Writing Nat := do
  return (← get).text.utf8ByteSize

def newLine : Writing Unit := do
  if (← get).text.isEmpty then pure () else push "\n"

def separatorBehind (separator : String) (len : Nat) : Writing Unit := do
  if (← size) > len then push separator else pure ()

def separatedFrom {α : Type} (separator : String) (write : α → Writing Unit) (len : Nat) :
    List α → Writing Unit
  | [] => pure ()
  | v :: vs => do
    separatorBehind separator len
    let len ← size
    write v
    separatedFrom separator write len vs

def separatedBy {α : Type} (separator : String) (write : α → Writing Unit) (values : List α) :
    Writing Unit := do
  let len ← size
  separatedFrom separator write len values

def parenthesizedIf (p : Bool) (w : Writing Unit) : Writing Unit :=
  if p then do
    push "("
    w
    push ")"
  else w

/-- The draft behind a program that began on `b`, and what stopped it. -/
def on (w : Writing Unit) (b : Draft) : Draft × Option CompileError :=
  match (StateT.run (ExceptT.run w) b).run with
  | (.ok (), b) => (b, none)
  | (.error e, b) => (b, some e)

theorem on_seq (v w : Writing Unit) (b : Draft) :
    (v >>= fun _ => w).on b =
      match v.on b with
      | (b, none) => w.on b
      | (b, some e) => (b, some e) := by
  simp only [on, ExceptT.run_bind, StateT.run_bind, Id.run_bind]
  generalize (StateT.run (ExceptT.run v) b).run = r
  obtain ⟨⟨e⟩ | ⟨⟨⟩⟩, b⟩ := r <;> rfl

theorem on_size_bind (k : Nat → Writing Unit) (b : Draft) :
    (size >>= k).on b = (k b.text.utf8ByteSize).on b := rfl

theorem on_get_bind (k : Draft → Writing Unit) (b : Draft) : (get >>= k).on b = (k b).on b := rfl

theorem on_bindValue_bind (v : Value) (k : Nat → Writing Unit) (b : Draft) :
    (bindValue v >>= k).on b = (k (b.bind v).parameters.length).on (b.bind v) := rfl

theorem on_push (s : String) (b : Draft) : (push s).on b = (b.addText s, none) := rfl

theorem on_separatedFrom_cons {α : Type} (separator : String) (write : α → Writing Unit) (v : α)
    (vs : List α) (len : Nat) (b : Draft) :
    (separatedFrom separator write len (v :: vs)).on b =
      let b' := if len < b.text.utf8ByteSize then b.addText separator else b
      (write v >>= fun _ => separatedFrom separator write b'.text.utf8ByteSize vs).on b' := by
  rw [separatedFrom, on_seq, separatorBehind, on_size_bind]
  by_cases h : len < b.text.utf8ByteSize
  · simp only [if_pos h]
    rfl
  · simp only [if_neg h]
    rfl

/-- Wherever it begins, the program writes the script. -/
def Writes (d : Dialect) (w : Writing Unit) (s : Script) : Prop :=
  ∀ b, w.on b = b.addScript d s

def Shows (d : Dialect) (ts : List Token) : Prop := ∀ n, Token.render d n ts ≠ ""

theorem Shows.ne_nil {d : Dialect} {ts : List Token} (h : Shows d ts) : ts ≠ [] := by
  rintro rfl
  exact h 0 rfl

theorem commaSeparated_map_cons {d : Dialect} {α : Type} {f : α → List Token}
    (hs : ∀ v, Shows d (f v)) (v : α) (vs : List α) :
    commaSeparated ((v :: vs).map f) = f v ++ vs.flatMap fun v => .word ", " :: f v := by
  have hne : ∀ part ∈ (v :: vs).map f, part ≠ [] :=
    List.forall_mem_map.2 fun u _ => (hs u).ne_nil
  rw [commaSeparated, Text.separated_eq_intercalate hne, Text.intercalate_map_cons]
  rfl

theorem Shows.size_lt {d : Dialect} {ts : List Token} (h : Shows d ts) (b : Draft) :
    b.text.utf8ByteSize < (b.addTokens d ts).text.utf8ByteSize := by
  have hne : (Token.render d b.parameters.length ts).utf8ByteSize ≠ 0 :=
    fun h0 => h _ (String.utf8ByteSize_eq_zero_iff.1 h0)
  rw [Draft.addTokens, String.utf8ByteSize_append]
  omega

namespace Writes

variable {d : Dialect} {v w : Writing Unit} {s t : Script}

theorem seq (hv : Writes d v s) (hw : Writes d w t) : Writes d (v >>= fun _ => w) (s ++ t) := by
  intro b
  rw [on_seq, hv b, Draft.addScript_append]
  split
  · rename_i b' _
    exact hw b'
  · rfl

/-- A token before others. -/
theorem cons {a : Token} {as : List Token} (hv : Writes d v (.ofTokens [a]))
    (hw : Writes d w (.ofTokens as)) : Writes d (v >>= fun _ => w) (.ofTokens (a :: as)) :=
  hv.seq hw

theorem nothing (d : Dialect) : Writes d (pure ()) (.ofTokens []) := by
  intro b
  simp [on, Draft.addScript, Draft.addTokens, Script.ofTokens, Token.render]

theorem fail (d : Dialect) (e : CompileError) : Writes d (throw e) (.fail e) := by
  intro b
  simp [on, Draft.addScript, Draft.addTokens, Script.fail, Token.render]

theorem word (d : Dialect) (s : String) : Writes d (push s) (.ofTokens [.word s]) := by
  intro b
  simp [on_push, Draft.addText, Draft.addScript, Draft.addTokens, Script.ofTokens, Token.render,
    Token.parameters]

theorem parenthesizedIf (p : Bool) (h : Writes d w s) :
    Writes d (parenthesizedIf p w) (.parenthesizedIf p s) := by
  cases p with
  | false => exact h
  | true =>
    have hs : Script.parenthesizedIf true s = Script.word "(" ++ (s ++ Script.word ")") :=
      Script.append_assoc _ _ _
    rw [hs]
    exact (word d "(").seq (h.seq (word d ")"))

section

variable {α : Type} {write : α → Writing Unit} {f : α → List Token}

/-- Behind a part that wrote something, every further part stands behind a separator. -/
theorem separatedFrom (separator : String) (hw : ∀ v, Writes d (write v) (.ofTokens (f v)))
    (hs : ∀ v, Shows d (f v)) (vs : List α) {len : Nat} {b : Draft}
    (hb : len < b.text.utf8ByteSize) :
    (separatedFrom separator write len vs).on b =
      b.addScript d (.ofTokens (vs.flatMap fun v => .word separator :: f v)) := by
  induction vs generalizing len b with
  | nil => exact nothing d b
  | cons v vs ih =>
    have hsep : b.addText separator = b.addTokens d [.word separator] := by
      simp [Draft.addText, Draft.addTokens, Token.render, Token.parameters]
    have hv : (write v).on (b.addText separator) =
        (b.addTokens d (.word separator :: f v), none) := by
      rw [hw v, hsep]
      exact congrArg (·, none) (b.addTokens_append d [.word separator] (f v)).symm
    have hlt : (b.addText separator).text.utf8ByteSize <
        (b.addTokens d (.word separator :: f v)).text.utf8ByteSize := by
      have h := (hs v).size_lt (b.addTokens d [.word separator])
      rwa [← Draft.addTokens_append, ← hsep] at h
    rw [on_separatedFrom_cons]
    simp only [if_pos hb]
    rw [on_seq, hv, List.flatMap_cons, Script.ofTokens_append, Draft.addScript_append]
    exact ih hlt

/-- A list whose parts all write something has a separator between any two of them. -/
theorem separatedBy (hw : ∀ v, Writes d (write v) (.ofTokens (f v))) (hs : ∀ v, Shows d (f v))
    (vs : List α) :
    Writes d (separatedBy ", " write vs) (.ofTokens (commaSeparated (vs.map f))) := by
  intro b
  rw [Writing.separatedBy, on_size_bind]
  cases vs with
  | nil => exact nothing d b
  | cons v vs =>
    have hrest := separatedFrom ", " hw hs vs ((hs v).size_lt b)
    rw [commaSeparated_map_cons hs]
    -- nothing of the list stands before its first part, so no separator does
    rw [on_separatedFrom_cons]
    simp only [Nat.lt_irrefl, if_false]
    rw [on_seq, hw v, Script.ofTokens_append, Draft.addScript_append]
    exact hrest

end

end Writes

end Writing

namespace Dialect

open Writing

def ShowsValues (d : Dialect) : Prop := d.marker ≠ .uniform "" ∧ d.nullWord ≠ ""

instance (d : Dialect) : Decidable d.ShowsValues :=
  inferInstanceAs (Decidable (d.marker ≠ .uniform "" ∧ d.nullWord ≠ ""))

theorem Legible.showsValues {d : Dialect} (hd : d.Legible) : d.ShowsValues := by
  obtain ⟨c, cs, hs, -⟩ := hd.marker
  refine ⟨fun hm => ?_, hd.nullWord.1⟩
  rw [hm] at hs
  cases hs

def writeName (d : Dialect) (name : String) : Writing Unit := push (d.quote name)

def writeTable (d : Dialect) (t : TableName) : Writing Unit :=
  if t.schema.isEmpty then d.writeName t.name
  else do
    d.writeName t.schema
    push "."
    d.writeName t.name

def writeParameter (d : Dialect) (v : Value) : Writing Unit := do
  let ordinal ← bindValue v
  push (d.markerText ordinal)

def writeAssigned (d : Dialect) (v : Value) : Writing Unit :=
  if v.isNull && !d.bindsNull then push d.nullWord else d.writeParameter v

def writeOperands (d : Dialect) (operator : Operator) (operands : List Value) : Writing Unit :=
  match operator.arity with
  | .exactly 0 => pure ()
  | .exactly _ => do
    push " "
    separatedBy ", " d.writeParameter operands
  | .any => do
    push " ("
    separatedBy ", " d.writeParameter operands
    push ")"

def writeCondition (d : Dialect) (c : Comparison) : Writing Unit :=
  match c.operator, c.operands with
  | .isIn, [] => push "1=0"
  | .notIn, [] => push "1=1"
  | operator, operands => do
    d.writeName c.column
    push " "
    push operator.symbol
    d.writeOperands operator operands

def writeComparison (d : Dialect) (c : Comparison) : Writing Unit :=
  if d.supports c.operator then
    if c.negated then do
      push "NOT ("
      d.writeCondition c
      push ")"
    else d.writeCondition c
  else throw (.operatorUnsupported c.operator c.column)

def writeCriteria (d : Dialect) : Criteria → Writing Unit
  | .leaf c => d.writeComparison c
  | .combine lhs o rhs => do
    parenthesizedIf (d.strength lhs < d.precedence o) (d.writeCriteria lhs)
    push (" " ++ o.name ++ " ")
    parenthesizedIf (d.strength rhs ≤ d.precedence o) (d.writeCriteria rhs)

def writeFilter (d : Dialect) : Option Criteria → Writing Unit
  | none => pure ()
  | some c => do
    push "\nWHERE "
    d.writeCriteria c

def writeProjection (d : Dialect) (p : Projection) : Writing Unit :=
  if p.isAll then push "*" else separatedBy ", " d.writeName p.columns

def writeSortKey (d : Dialect) (k : SortKey) : Writing Unit := do
  d.writeName k.column
  push k.direction.word

def writeOrder (d : Dialect) (s : SortOrder) : Writing Unit :=
  if s.isUnsorted then pure ()
  else do
    push "\nORDER BY "
    separatedBy ", " d.writeSortKey s.keys

def writePaging (d : Dialect) (limit offset : Nat) : Writing Unit :=
  push (d.paging.text limit offset)

def writePage (d : Dialect) (s : SortOrder) : Option Page → Writing Unit
  | none => pure ()
  | some p =>
    if s.isUnsorted && d.pagesNeedOrder then do
      push "\nORDER BY (SELECT NULL)"
      d.writePaging p.limit p.offset
    else d.writePaging p.limit p.offset

def writeSelect (d : Dialect) (s : SelectStatement) : Writing Unit := do
  newLine
  push "SELECT "
  d.writeProjection s.projection
  push "\nFROM "
  d.writeTable s.target.table
  d.writeFilter s.criteria
  d.writeOrder s.sort
  d.writePage s.sort s.page

def writeReturning (d : Dialect) (p : Projection) : Writing Unit :=
  if p.isAll then pure ()
  else do
    push "\nRETURNING "
    d.writeProjection p

def writeInsert (d : Dialect) (s : InsertStatement) : Writing Unit :=
  if !s.returning.isAll && !d.returnsValues then throw .returningUnsupported
  else do
    newLine
    push "INSERT INTO "
    d.writeTable s.target.table
    push " ("
    separatedBy ", " (fun e => d.writeName e.1) s.assignments.entries
    push ") VALUES\n("
    separatedBy ", " (fun e => d.writeAssigned e.2) s.assignments.entries
    push ")"
    d.writeReturning s.returning

def writeAssignment (d : Dialect) (e : String × Value) : Writing Unit := do
  d.writeName e.1
  push " = "
  d.writeAssigned e.2

def writeUpdate (d : Dialect) (s : UpdateStatement) : Writing Unit := do
  newLine
  push "UPDATE "
  d.writeTable s.target.table
  push "\nSET "
  separatedBy ", " d.writeAssignment s.assignments.entries
  d.writeFilter s.filter

def writeDelete (d : Dialect) (s : DeleteStatement) : Writing Unit := do
  newLine
  push "DELETE FROM "
  d.writeTable s.target.table
  d.writeFilter s.criteria

def writeStatement (d : Dialect) : Statement → Writing Unit
  | .select s => d.writeSelect s
  | .insert s => d.writeInsert s
  | .update s => d.writeUpdate s
  | .delete s => d.writeDelete s

section

variable (d : Dialect)

theorem writes_name (name : String) : Writes d (d.writeName name) (.ofTokens [.name name]) :=
  Writes.word d (d.quote name)

theorem shows_name (name : String) (ts : List Token) : Shows d (.name name :: ts) := by
  intro n h
  have hlist := congrArg String.toList h
  simp [Token.render, quote] at hlist

theorem writes_table (t : TableName) : Writes d (d.writeTable t) (.ofTokens t.tokens) := by
  rw [writeTable, TableName.tokens]
  split
  · exact d.writes_name t.name
  · exact (d.writes_name t.schema).cons ((Writes.word d ".").cons (d.writes_name t.name))

theorem writes_parameter (v : Value) :
    Writes d (d.writeParameter v) (.ofTokens [.parameter v]) := by
  intro b
  rw [writeParameter, on_bindValue_bind, on_push]
  simp [Draft.bind, Draft.addText, Draft.addScript, Draft.addTokens, Script.ofTokens,
    Token.render, Token.parameters]

theorem writes_assigned (v : Value) :
    Writes d (d.writeAssigned v) (.ofTokens [d.assignedToken v]) := by
  rw [writeAssigned, assignedToken]
  split
  · intro b
    rw [Writes.word d d.nullWord b]
    rfl
  · exact d.writes_parameter v

variable {d} in
theorem ShowsValues.parameter (h : d.ShowsValues) (v : Value) : Shows d [.parameter v] := by
  intro n hn
  have hmark : d.marker.text (n + 1) = "" := by
    simpa [Token.render, markerText] using hn
  cases hm : d.marker with
  | uniform mark =>
    rw [hm] at hmark
    exact h.1 (by rw [hm, ← hmark]; rfl)
  | numbered sign =>
    rw [hm] at hmark
    have hlist := congrArg String.toList hmark
    simp [MarkerStyle.text] at hlist

variable {d} in
theorem ShowsValues.assigned (h : d.ShowsValues) (v : Value) : Shows d [d.assignedToken v] := by
  rw [assignedToken]
  split
  · intro n hn
    exact h.2 (by simpa [Token.render] using hn)
  · exact h.parameter v

theorem writes_paging (limit offset : Nat) :
    Writes d (d.writePaging limit offset) (.ofTokens (d.pagingTokens limit offset)) :=
  Writes.word d (d.paging.text limit offset)

theorem writes_page (s : SortOrder) (p : Option Page) :
    Writes d (d.writePage s p) (.ofTokens (d.pageTokens s p)) := by
  cases p with
  | none => exact Writes.nothing d
  | some p =>
    rw [writePage, pageTokens]
    split
    · rw [Script.ofTokens_append]
      exact (Writes.word d "\nORDER BY (SELECT NULL)").seq (d.writes_paging p.limit p.offset)
    · rw [List.nil_append]
      exact d.writes_paging p.limit p.offset

theorem writes_projection (p : Projection) :
    Writes d (d.writeProjection p) (.ofTokens p.tokens) := by
  rw [writeProjection, Projection.tokens]
  split
  · exact Writes.word d "*"
  · exact Writes.separatedBy d.writes_name (fun c => d.shows_name c []) p.columns

theorem writes_returning (p : Projection) :
    Writes d (d.writeReturning p) (.ofTokens (returningTokens p)) := by
  rw [writeReturning, returningTokens]
  split
  · exact Writes.nothing d
  · exact (Writes.word d "\nRETURNING ").cons (d.writes_projection p)

theorem writes_order (s : SortOrder) : Writes d (d.writeOrder s) (.ofTokens s.tokens) := by
  have hkey : ∀ k, Writes d (d.writeSortKey k)
      (.ofTokens [.name k.column, .word k.direction.word]) := fun k =>
    (d.writes_name k.column).cons (Writes.word d k.direction.word)
  rw [writeOrder, SortOrder.tokens]
  split
  · exact Writes.nothing d
  · exact (Writes.word d "\nORDER BY ").cons
      (Writes.separatedBy hkey (fun k => d.shows_name k.column _) s.keys)

end

section

variable {d : Dialect} (hd : d.ShowsValues)
include hd

theorem ShowsValues.writes_parameters (vs : List Value) :
    Writes d (separatedBy ", " d.writeParameter vs) (.ofTokens (parameterList vs)) :=
  Writes.separatedBy d.writes_parameter hd.parameter vs

theorem ShowsValues.writes_operands (o : Operator) (vs : List Value) :
    Writes d (d.writeOperands o vs)
      (.ofTokens (match o.arity with
        | .exactly 0 => []
        | .exactly _ => .word " " :: parameterList vs
        | .any => .word " (" :: parameterList vs ++ [.word ")"])) := by
  rw [writeOperands]
  split
  · exact Writes.nothing d
  · exact (Writes.word d " ").cons (hd.writes_parameters vs)
  · rw [List.cons_append]
    exact (Writes.word d " (").cons ((hd.writes_parameters vs).seq (Writes.word d ")"))

theorem ShowsValues.writes_condition (c : Comparison) :
    Writes d (d.writeCondition c) (.ofTokens c.plainTokens) := by
  obtain ⟨column, o, vs, negated⟩ := c
  have hcompare : Writes d (do
      d.writeName column
      push " "
      push o.symbol
      d.writeOperands o vs)
      (.ofTokens ([.name column, .word " ", .word o.symbol] ++
        match o.arity with
        | .exactly 0 => []
        | .exactly _ => .word " " :: parameterList vs
        | .any => .word " (" :: parameterList vs ++ [.word ")"])) :=
    (d.writes_name column).cons ((Writes.word d " ").cons
      ((Writes.word d o.symbol).cons (hd.writes_operands o vs)))
  -- only an empty list of alternatives is not written as a comparison
  cases vs with
  | nil =>
    cases o with
    | isIn => exact Writes.word d "1=0"
    | notIn => exact Writes.word d "1=1"
    | _ => exact hcompare
  | cons v vs => cases o <;> exact hcompare

theorem ShowsValues.writes_comparison (c : Comparison) :
    Writes d (d.writeComparison c) (d.comparisonScript c) := by
  rw [writeComparison, comparisonScript]
  split
  · rw [Comparison.tokens]
    split
    · rw [List.cons_append]
      exact (Writes.word d "NOT (").cons ((hd.writes_condition c).seq (Writes.word d ")"))
    · exact hd.writes_condition c
  · exact Writes.fail d _

theorem ShowsValues.writes_criteria (c : Criteria) :
    Writes d (d.writeCriteria c) (d.criteriaScript c) := by
  induction c with
  | leaf c => exact hd.writes_comparison c
  | combine l o r hl hr =>
    rw [criteriaScript, Script.append_assoc]
    exact (Writes.parenthesizedIf _ hl).seq
      ((Writes.word d (" " ++ o.name ++ " ")).seq (Writes.parenthesizedIf _ hr))

theorem ShowsValues.writes_filter (c : Option Criteria) :
    Writes d (d.writeFilter c) (d.filterScript c) := by
  cases c with
  | none => exact Writes.nothing d
  | some c => exact (Writes.word d "\nWHERE ").seq (hd.writes_criteria c)

theorem ShowsValues.writes_select (s : SelectStatement) :
    Writes d (do
      push "SELECT "
      d.writeProjection s.projection
      push "\nFROM "
      d.writeTable s.target.table
      d.writeFilter s.criteria
      d.writeOrder s.sort
      d.writePage s.sort s.page) (d.selectScript s) := by
  simp only [selectScript, Script.ofTokens_append, Script.append_assoc]
  exact (Writes.word d "SELECT ").seq ((d.writes_projection s.projection).seq
    ((Writes.word d "\nFROM ").seq ((d.writes_table s.target.table).seq
      ((hd.writes_filter s.criteria).seq ((d.writes_order s.sort).seq
        (d.writes_page s.sort s.page))))))

theorem ShowsValues.writes_insert {s : InsertStatement}
    (hr : ¬ (!s.returning.isAll && !d.returnsValues) = true) :
    Writes d (do
      push "INSERT INTO "
      d.writeTable s.target.table
      push " ("
      separatedBy ", " (fun e => d.writeName e.1) s.assignments.entries
      push ") VALUES\n("
      separatedBy ", " (fun e => d.writeAssigned e.2) s.assignments.entries
      push ")"
      d.writeReturning s.returning) (d.insertScript s) := by
  have hcolumns := Writes.separatedBy (fun e : String × Value => d.writes_name e.1)
    (fun e => d.shows_name e.1 []) s.assignments.entries
  have hvalues := Writes.separatedBy (fun e : String × Value => d.writes_assigned e.2)
    (fun e => hd.assigned e.2) s.assignments.entries
  rw [insertScript, if_neg hr]
  simp only [Script.ofTokens_append, Script.append_assoc]
  exact (Writes.word d "INSERT INTO ").seq ((d.writes_table s.target.table).seq
    ((Writes.word d " (").seq (hcolumns.seq ((Writes.word d ") VALUES\n(").seq
      (hvalues.seq ((Writes.word d ")").seq (d.writes_returning s.returning)))))))

theorem ShowsValues.writes_update (s : UpdateStatement) :
    Writes d (do
      push "UPDATE "
      d.writeTable s.target.table
      push "\nSET "
      separatedBy ", " d.writeAssignment s.assignments.entries
      d.writeFilter s.filter) (d.updateScript s) := by
  have hassign : ∀ e : String × Value, Writes d (d.writeAssignment e)
      (.ofTokens [.name e.1, .word " = ", d.assignedToken e.2]) := fun e =>
    (d.writes_name e.1).cons ((Writes.word d " = ").cons (d.writes_assigned e.2))
  have hlist := Writes.separatedBy hassign (fun e => d.shows_name e.1 _) s.assignments.entries
  simp only [updateScript, Script.ofTokens_append, Script.append_assoc]
  exact (Writes.word d "UPDATE ").seq ((d.writes_table s.target.table).seq
    ((Writes.word d "\nSET ").seq (hlist.seq (hd.writes_filter s.filter))))

theorem ShowsValues.writes_delete (s : DeleteStatement) :
    Writes d (do
      push "DELETE FROM "
      d.writeTable s.target.table
      d.writeFilter s.criteria) (d.deleteScript s) := by
  simp only [deleteScript, Script.ofTokens_append, Script.append_assoc]
  exact (Writes.word d "DELETE FROM ").seq ((d.writes_table s.target.table).seq
    (hd.writes_filter s.criteria))

end

theorem returns_insert_iff (d : Dialect) (s : InsertStatement) :
    d.Returns (.insert s) ↔ ¬ (!s.returning.isAll && !d.returnsValues) = true := by
  simp [Returns, Statement.returned, Projection.isAll]

/-- A statement writes something unless it asks for values that the dialect cannot return. -/
theorem isEmpty_script {d : Dialect} {s : Statement} (h : d.Returns s) :
    (d.script s).tokens.isEmpty = false := by
  cases s with
  | select s => exact Script.isEmpty_append (Script.isEmpty_append rfl _) _
  | insert s =>
    rw [script, insertScript, if_neg ((d.returns_insert_iff s).1 h)]
    simp [Script.ofTokens]
  | update s | delete s => exact Script.isEmpty_append rfl _

/-- The steps of a statement, behind a new line. -/
theorem on_newLine_seq {d : Dialect} {w : Writing Unit} {s : Statement}
    (h : Writes d w (d.script s)) (hr : d.Returns s) (b : Draft) :
    (newLine >>= fun _ => w).on b = b.addStatement d s := by
  have hline : newLine.on b = (if b.text.isEmpty then b else b.addText "\n", none) := by
    rw [newLine, on_get_bind]
    split <;> rfl
  rw [on_seq, hline, Draft.addStatement, isEmpty_script hr, Bool.or_false]
  exact h _

/-- Step by step, a statement leaves the draft and the failure that its script gives. -/
theorem ShowsValues.on_writeStatement {d : Dialect} (hd : d.ShowsValues) (s : Statement)
    (b : Draft) : (d.writeStatement s).on b = b.addStatement d s := by
  cases s with
  | select s => exact on_newLine_seq (hd.writes_select s) (fun h => absurd rfl h) b
  | insert s =>
    by_cases hr : (!s.returning.isAll && !d.returnsValues) = true
    · have hscript : d.script (.insert s) = .fail .returningUnsupported := if_pos hr
      rw [writeStatement, writeInsert, if_pos hr, Draft.addStatement, hscript,
        Writes.fail d .returningUnsupported b]
      simp [Script.fail]
    · rw [writeStatement, writeInsert, if_neg hr]
      exact on_newLine_seq (hd.writes_insert hr) ((d.returns_insert_iff s).2 hr) b
  | update s => exact on_newLine_seq (hd.writes_update s) (fun h => absurd rfl h) b
  | delete s => exact on_newLine_seq (hd.writes_delete s) (fun h => absurd rfl h) b

/-- What was written and bound before a failure stays. -/
example :
    (Dialect.generic.writeStatement (.update ⟨.named ⟨"", "book"⟩,
        ⟨.explicit, [("title", .ofString "Atlas")], by decide⟩, none,
        some (.leaf ⟨"title", .ilike, [.ofString "e%"], false⟩)⟩)).on ⟨"BEGIN;", []⟩ =
      (⟨"BEGIN;\nUPDATE \"book\"\nSET \"title\" = ?\nWHERE ", [.ofString "Atlas"]⟩,
        some (.operatorUnsupported .ilike "title")) := by
  rfl

end Dialect

end Quarry
