import Quarry.Proofs.Value.Integers
import Quarry.Value.Field

/-!
# Fields that are written and read

A field has the value that its base type has, and NULL stands for the absence that an option brings
in, wherever options and references are put around each other. So a field with at most one option
reads back what it wrote, reads NULL as its absence, and else reads what its base type reads
(`FieldType.reads_what_is_written`).
-/

namespace Quarry

theorem Value.exists_of_of_not_isNull {v : Value} (h : v.isNull = false) :
    ∃ t x, v = .of t x := by
  rcases v with _ | ⟨t, _ | x⟩
  · cases h
  · cases h
  · exact ⟨t, x, rfl⟩

namespace IntegerType

theorem passage?_self (t : IntegerType) : t.passage? t = some .lowBits := by
  cases t <;> rfl

end IntegerType

namespace SqlType

theorem convert_self (t : SqlType) (x : t.Carrier) : t.convert t x = .ok x := by
  cases t with
  | integer t =>
    have hsome : (t.passage? t).isSome = true := by rw [t.passage?_self]; rfl
    exact IntegerType.convert_of_holds hsome x.holds
  | binary p => exact congrArg Except.ok x.convert_self
  | _ => rfl

theorem read_of (t : SqlType) (x : t.Carrier) : t.read (.of t x) = .ok x := t.convert_self x

theorem read_of_isNull (t : SqlType) {v : Value} (h : v.isNull = true) :
    t.read v = .error (.unconvertible v t) := by
  rcases v with _ | ⟨s, _ | x⟩
  · rfl
  · rfl
  · cases h

end SqlType

namespace FieldType

def options : FieldType → Nat
  | plain _ => 0
  | optional t => t.options + 1
  | held t => t.options

/-- The absence of a value, which the outermost option brings in. -/
def absent? : (t : FieldType) → Option t.Carrier
  | plain _ => none
  | optional _ => some none
  | held t => t.absent?

def present : (t : FieldType) → t.base.Carrier → t.Carrier
  | plain _, x => x
  | optional t, x => some (t.present x)
  | held t, x => t.present x

variable {t : FieldType} {v : Value}

theorem absent?_eq_none_iff : (t : FieldType) → (t.absent? = none ↔ t.options = 0)
  | plain _ => iff_of_true rfl rfl
  | optional _ => iff_of_false nofun (Nat.succ_ne_zero _)
  | held t => t.absent?_eq_none_iff

theorem typeName_toValue (t : FieldType) (x : t.Carrier) :
    (t.toValue x).typeName = t.empty.typeName := by
  induction t with
  | plain t => rfl
  | optional t ih =>
    cases x with
    | none => rfl
    | some x => exact ih x
  | held t ih => exact ih x

theorem toValue_present (t : FieldType) (x : t.base.Carrier) :
    t.toValue (t.present x) = .of t.base x := by
  induction t with
  | plain t => rfl
  | optional t ih => exact ih x
  | held t ih => exact ih x

theorem isNull_toValue_of_options (h : t.options = 0) (x : t.Carrier) :
    (t.toValue x).isNull = false := by
  induction t with
  | plain t => rfl
  | optional t ih => exact absurd h (Nat.succ_ne_zero _)
  | held t ih => exact ih h x

theorem isNull_toValue_iff (h : t.options ≤ 1) (x : t.Carrier) :
    (t.toValue x).isNull = true ↔ t.absent? = some x := by
  induction t with
  | plain t => exact iff_of_false nofun nofun
  | optional t ih =>
    cases x with
    | none => exact iff_of_true rfl rfl
    | some x =>
      -- no option is left inside, so what is present is not absent in turn
      have hnull := isNull_toValue_of_options (Nat.le_zero.1 (Nat.le_of_succ_le_succ h)) x
      exact iff_of_false (Bool.eq_false_iff.1 hnull) nofun
  | held t ih => exact ih h x

theorem ofValue_of_isNull (hnull : v.isNull = true) :
    t.ofValue v = t.absent?.elim (.error (.unconvertible v t.base)) .ok := by
  induction t with
  | plain t => exact t.read_of_isNull hnull
  | optional t ih => exact if_pos hnull
  | held t ih => exact ih

theorem ofValue_of_not_isNull (hnull : v.isNull = false) :
    t.ofValue v = (t.base.read v).map t.present := by
  induction t with
  | plain t =>
    change t.read v = (t.read v).map id
    cases t.read v <;> rfl
  | optional t ih =>
    have hsome : t.optional.ofValue v = (t.ofValue v).map some := by
      rw [ofValue, hnull, if_neg Bool.false_ne_true]
    rw [hsome, ih]
    change _ = (t.base.read v).map fun x => some (t.present x)
    cases t.base.read v <;> rfl
  | held t ih => exact ih

theorem ofValue_toValue (h : t.options ≤ 1) (x : t.Carrier) : t.ofValue (t.toValue x) = .ok x := by
  induction t with
  | plain t => exact t.read_of x
  | optional t ih =>
    cases x with
    | none => exact if_pos t.isNull_empty
    | some x =>
      have hnull := isNull_toValue_of_options (Nat.le_zero.1 (Nat.le_of_succ_le_succ h)) x
      change (if (t.toValue x).isNull then _ else (t.ofValue (t.toValue x)).map some) = _
      rw [if_neg (Bool.eq_false_iff.1 hnull), ih (Nat.le_of_succ_le h)]
      rfl
  | held t ih => exact ih h x

/-- Let a type put at most one option and any number of references around its base type. It reads
back what it wrote; what it wrote is NULL just when it is the absence; and its own NULL is one that
has the type name of all that it writes. Any NULL is read as the absence if there is an option, and
else refused. Any other value is read, or refused, as the base type does it, and what is read is
there with that content. -/
theorem reads_what_is_written (h : t.options ≤ 1) :
    (∀ x, t.ofValue (t.toValue x) = .ok x) ∧
    (∀ x, (t.toValue x).isNull = true ↔ t.absent? = some x) ∧
    (t.empty.isNull = true ∧ ∀ x, t.empty.typeName = (t.toValue x).typeName) ∧
    (∀ v : Value, v.isNull = true →
      (t.options = 1 → ∃ x, t.absent? = some x ∧ t.ofValue v = .ok x) ∧
      (t.options = 0 → t.ofValue v = .error (.unconvertible v t.base))) ∧
    (∀ v : Value, v.isNull = false → t.ofValue v = (t.base.read v).map t.present) ∧
    (∀ x, t.toValue (t.present x) = .of t.base x) := by
  refine ⟨ofValue_toValue h, isNull_toValue_iff h,
    ⟨t.isNull_empty, fun x => (t.typeName_toValue x).symm⟩, fun v hnull => ⟨?option, ?base⟩,
    fun v => ofValue_of_not_isNull, t.toValue_present⟩
  case option =>
    intro hone
    have hsome : t.absent? ≠ none := by
      rw [ne_eq, absent?_eq_none_iff, hone]
      exact Nat.one_ne_zero
    obtain ⟨x, hx⟩ := Option.ne_none_iff_exists'.1 hsome
    exact ⟨x, hx, by rw [ofValue_of_isNull hnull, hx]; rfl⟩
  case base =>
    intro hzero
    rw [ofValue_of_isNull hnull, t.absent?_eq_none_iff.2 hzero]
    rfl

def heldText : FieldType := .held (.optional (.held (.plain .text)))

theorem reads_what_is_written_heldText :
    heldText.options ≤ 1 ∧
      heldText.ofValue (heldText.toValue (some "Atlas")) = .ok (some "Atlas") ∧
      (heldText.toValue none).isNull = true ∧
      (∃ x, heldText.absent? = some x ∧ heldText.ofValue .null = .ok x) ∧
      heldText.ofValue (.of .char 'E') =
        (SqlType.text.read (.of .char 'E')).map heldText.present := by
  have hoptions : heldText.options ≤ 1 := by decide
  obtain ⟨hback, hnull, -, hread, hpresent, -⟩ := reads_what_is_written hoptions
  exact ⟨hoptions, hback (some "Atlas"), (hnull none).2 rfl, (hread .null rfl).1 rfl,
    hpresent (.of .char 'E') rfl⟩

end FieldType
end Quarry
