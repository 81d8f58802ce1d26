import Quarry.Proofs.Sql.Lexeme
import Quarry.Proofs.Text.Boundary

/-!
# Quoted names

A name is quoted by walking through its characters with their offsets in bytes: whenever the
closing delimiter comes, the slice since the last one is copied and the replacement written behind
it. Every slice is taken between two boundaries, so the walk never stops, and it writes what
`escape` gives. A reader of one quoted name takes back the name and what follows it, unless that
begins with the closing delimiter.
-/

namespace Quarry

open Text

def offsets (offset : Nat) : List Char → List (Nat × Char)
  | [] => []
  | c :: cs => (offset, c) :: offsets (offset + c.utf8Size) cs

section

variable (value : String) (search : Char) (replacement : String)

/-- Walk through the rest of the characters of `value`, which is copied to `out` up to
`position`. -/
def copyFrom? (position : Nat) (out : String) : List (Nat × Char) → Option String
  | [] => do
    let kept ← slice? value position value.utf8ByteSize
    return out ++ kept
  | (offset, c) :: rest =>
    if c = search then do
      let kept ← slice? value position offset
      copyFrom? (offset + c.utf8Size) (out ++ kept ++ replacement) rest
    else copyFrom? position out rest

def writeEscaped? (out : String) : Option String :=
  copyFrom? value search replacement 0 out (offsets 0 value.toList)

variable {value search replacement}

theorem escape_cons (c : Char) (cs : List Char) :
    escape search replacement.toList (c :: cs) =
      (if c = search then replacement.toList else [c]) ++ escape search replacement.toList cs := rfl

/-- `done` is copied, and `kept` waits to be copied with what follows it. -/
theorem copyFrom?_eq (done kept : List Char) {rest : List Char} (out : String)
    (hvalue : value = String.ofList (done ++ kept ++ rest)) :
    copyFrom? value search replacement (String.ofList done).utf8ByteSize out
        (offsets (String.ofList (done ++ kept)).utf8ByteSize rest) =
      some (out ++ String.ofList (kept ++ escape search replacement.toList rest)) := by
  induction rest generalizing done kept out with
  | nil =>
    have hslice := slice?_ofList done kept []
    rw [List.append_nil] at hvalue hslice
    rw [offsets, copyFrom?, hvalue, hslice]
    simp [escape]
  | cons c rest ih =>
    have hnext : (String.ofList (done ++ kept)).utf8ByteSize + c.utf8Size =
        (String.ofList (done ++ kept ++ [c])).utf8ByteSize := by
      rw [utf8ByteSize_ofList_append (done ++ kept), utf8ByteSize_ofList_cons, String.ofList_nil,
        String.utf8ByteSize_empty, Nat.add_zero]
    rw [offsets, copyFrom?, escape_cons, hnext]
    by_cases hc : c = search
    · have hslice := slice?_ofList done kept (c :: rest)
      rw [← hvalue] at hslice
      have hrest := ih (done ++ kept ++ [c]) [] (out ++ String.ofList kept ++ replacement)
        (by simp [hvalue])
      rw [List.append_nil, List.nil_append] at hrest
      rw [if_pos hc, if_pos hc, hslice, Option.bind_eq_bind, Option.bind_some, hrest]
      simp [String.append_assoc]
    · have hrest := ih done (kept ++ [c]) out (by simp [hvalue])
      rw [← List.append_assoc] at hrest
      rw [if_neg hc, if_neg hc, hrest]
      simp

theorem writeEscaped?_eq (out value : String) (search : Char) (replacement : String) :
    writeEscaped? value search replacement out =
      some (out ++ String.ofList (escape search replacement.toList value.toList)) :=
  copyFrom?_eq [] [] out String.ofList_toList.symm

end

namespace Dialect

def writeQuoted? (d : Dialect) (name out : String) : Option String := do
  let written ← writeEscaped? name d.closing (String.ofList [d.closing, d.closing])
    (out.push d.opening)
  return written.push d.closing

theorem writeQuoted?_eq (d : Dialect) (name out : String) :
    d.writeQuoted? name out = some (out ++ d.quote name) := by
  rw [writeQuoted?, writeEscaped?_eq, Option.bind_eq_bind, Option.bind_some, Option.pure_def,
    Option.some_inj]
  apply String.toList_injective
  simp [quote]

def readQuotedName? (d : Dialect) : List Char → Option (String × List Char)
  | [] => none
  | c :: cs =>
    if c = d.opening then (readQuoted d.closing cs).map fun p => (String.ofList p.1, p.2) else none

/-- What is written for a name is read as that name, whatever follows it but the closing delimiter;
and copying in slices replaces each occurrence of a character, whatever the texts. -/
theorem quoted_name_is_read (d : Dialect) (name out : String) (rest : List Char) (value : String)
    (search : Char) (replacement : String) :
    d.writeQuoted? name out = some (out ++ d.quote name) ∧
      ((∀ c ∈ rest.head?, c ≠ d.closing) →
        d.readQuotedName? ((d.quote name).toList ++ rest) = some (name, rest)) ∧
      writeEscaped? value search replacement out =
        some (out ++ String.ofList (escape search replacement.toList value.toList)) := by
  refine ⟨d.writeQuoted?_eq name out, fun h => ?_, writeEscaped?_eq out value search replacement⟩
  rw [toList_quote_append, readQuotedName?, if_pos rfl, readQuoted_escape d.closing name.toList h,
    Option.map_some, String.ofList_toList]

/-- A name of closing brackets before another quoted name. -/
theorem quoted_name_is_read_brackets :
    (∀ c ∈ ".[é]".toList.head?, c ≠ sqlserver.closing) ∧
      sqlserver.readQuotedName? ((sqlserver.quote "]é]]").toList ++ ".[é]".toList) =
        some ("]é]]", ".[é]".toList) ∧
      writeEscaped? "日é日" '日' "]]" "[" = some "[]]é]]" := by
  have h := quoted_name_is_read sqlserver "]é]]" "[" ".[é]".toList "日é日" '日' "]]"
  have hfree : ∀ c ∈ ".[é]".toList.head?, c ≠ sqlserver.closing := by
    rintro c ⟨⟩
    decide
  exact ⟨hfree, h.2.1 hfree, h.2.2⟩

end Dialect

end Quarry
