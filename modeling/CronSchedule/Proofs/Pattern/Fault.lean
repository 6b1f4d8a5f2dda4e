import CronSchedule.Expression.Parser
import CronSchedule.Proofs.Outcome

/-!
# Faults

Every cause for which a field is rejected is about that field and no other one.  The two
causes that name no field, an empty text and a wrong number of fields, come from the
expression as a whole; so a text is called empty only if there is nothing in it.
-/

namespace CronSchedule

open Outcome

/-- The cause is a fault of a text in the field.  Only weekdays are numbered. -/
def Cause.IsFaultIn (field : Field) : Cause → Prop
  | .empty | .fieldCount _ => False
  | .invalidNthInstance _ => field = .dayOfWeek
  | .operatorNotAllowed _ named | .notAlone _ named | .malformed _ _ named | .outOfBounds _ named
  | .unknownValue _ named | .invalidRange _ named | .invalidStep _ named => named = field

variable {field : Field} {text : List Char} {cause : Cause}

/-! ### Values, ranges and series -/

theorem Field.isFaultIn_of_readValue (h : field.readValue text = .error cause) :
    cause.IsFaultIn field := by
  unfold readValue at h
  split at h
  · cases h
  · split at h
    · cases h
      rfl
    · split at h
      · cases h
      · cases h
        rfl

theorem Range.isFaultIn_of_read {shape : Shape} (h : Range.read field shape text = .error cause) :
    cause.IsFaultIn field := by
  unfold Range.read at h
  split at h
  · cases h
    rfl
  · split at h
    · cases h
      rfl
    · rcases bind_eq_error.mp h with hlow | ⟨first, -, h⟩
      · exact Field.isFaultIn_of_readValue hlow
      · rcases bind_eq_error.mp h with hhigh | ⟨last, -, h⟩
        · exact Field.isFaultIn_of_readValue hhigh
        · split at h
          · cases h
            rfl
          · cases h

theorem Series.isFaultIn_of_readBase (h : Series.readBase field text = .error cause) :
    cause.IsFaultIn field := by
  unfold Series.readBase at h
  split at h
  · cases h
  · split at h
    · exact Range.isFaultIn_of_read h
    · rcases bind_eq_error.mp h with hvalue | ⟨first, -, h⟩
      · exact Field.isFaultIn_of_readValue hvalue
      · cases h

theorem Series.isFaultIn_of_read (h : Series.read field text = .error cause) :
    cause.IsFaultIn field := by
  unfold Series.read at h
  split at h
  · cases h
    rfl
  · split at h
    · cases h
      rfl
    · rcases bind_eq_error.mp h with hbase | ⟨range, -, h⟩
      · exact Series.isFaultIn_of_readBase hbase
      · split at h
        · cases h
          rfl
        · split at h
          · cases h
            rfl
          · cases h

/-! ### Days of the month -/

theorem NthWeekday.isFaultIn_of_read (h : NthWeekday.read text = .error cause) :
    cause.IsFaultIn .dayOfWeek := by
  unfold NthWeekday.read at h
  split at h
  · cases h
    rfl
  · rcases bind_eq_error.mp h with hweekday | ⟨weekday, -, h⟩
    · exact Field.isFaultIn_of_readValue hweekday
    · split at h
      · cases h
        rfl
      · split at h
        · cases h
        · cases h
          rfl

theorem isFaultIn_of_readNearestWorkday (h : readNearestWorkday text = .error cause) :
    cause.IsFaultIn .dayOfMonth := by
  unfold readNearestWorkday at h
  split at h
  · exact Field.isFaultIn_of_readValue h
  · cases h
    rfl

/-! ### Fields -/

theorem Part.isFaultIn_of_read (h : Part.read field text = .error cause) :
    cause.IsFaultIn field := by
  unfold Part.read at h
  split at h
  · exact Series.isFaultIn_of_read (map_eq_error.mp h)
  split at h
  · exact Range.isFaultIn_of_read (map_eq_error.mp h)
  split at h
  · split at h
    · rename_i hhash
      rw [List.mem_singleton.mp hhash]
      exact NthWeekday.isFaultIn_of_read (map_eq_error.mp h)
    · cases h
      rfl
  split at h
  · cases h
  split at h
  · cases h
  split at h
  · rename_i hmonth
    rw [hmonth.1]
    exact isFaultIn_of_readNearestWorkday (map_eq_error.mp h)
  split at h
  · exact Field.isFaultIn_of_readValue (map_eq_error.mp h)
  split at h
  · cases h
  split at h
  · cases h
  · exact Field.isFaultIn_of_readValue (map_eq_error.mp h)

theorem Operator.isFaultIn_inList (operator : Operator) (field : Field) :
    (operator.inList field).IsFaultIn field := by
  unfold Operator.inList
  split <;> rfl

theorem Item.isFaultIn_of_read (h : Item.read field text = .error cause) :
    cause.IsFaultIn field := by
  rcases bind_eq_error.mp h with hpart | ⟨part, -, h⟩
  · exact Part.isFaultIn_of_read hpart
  · cases part with
    | item item => cases h
    | alone operator =>
        cases h
        exact operator.isFaultIn_inList field

theorem Pattern.isFaultIn_of_ofOperator {operator : Operator}
    (h : Pattern.ofOperator field operator = .error cause) : cause.IsFaultIn field := by
  unfold Pattern.ofOperator at h
  split at h
  · cases operator <;> cases h
    rfl
  · cases h
    rfl

theorem Pattern.isFaultIn_of_read (h : Pattern.read field text = .error cause) :
    cause.IsFaultIn field := by
  unfold Pattern.read readLowered at h
  split at h
  · rcases bind_eq_error.mp h with hpart | ⟨part, -, h⟩
    · exact Part.isFaultIn_of_read hpart
    · cases part with
      | item item => cases h
      | alone operator => exact Pattern.isFaultIn_of_ofOperator h
  · rcases bind_eq_error.mp h with hitems | ⟨items, -, h⟩
    · obtain ⟨before, part, after, -, -, hpart⟩ := mapM_eq_error_iff.mp hitems
      exact Item.isFaultIn_of_read hpart
    · cases h

/-! ### Expressions -/

namespace Expression

theorem isFaultIn_of_readFields {minute hour dayOfMonth month dayOfWeek year : List Char}
    (h : readFields minute hour dayOfMonth month dayOfWeek year = .error cause) :
    ∃ field, cause.IsFaultIn field := by
  rcases bind_eq_error.mp h with hminute | ⟨_, -, h⟩
  · exact ⟨_, Pattern.isFaultIn_of_read hminute⟩
  rcases bind_eq_error.mp h with hhour | ⟨_, -, h⟩
  · exact ⟨_, Pattern.isFaultIn_of_read hhour⟩
  rcases bind_eq_error.mp h with hdayOfMonth | ⟨_, -, h⟩
  · exact ⟨_, Pattern.isFaultIn_of_read hdayOfMonth⟩
  rcases bind_eq_error.mp h with hmonth | ⟨_, -, h⟩
  · exact ⟨_, Pattern.isFaultIn_of_read hmonth⟩
  rcases bind_eq_error.mp h with hdayOfWeek | ⟨_, -, h⟩
  · exact ⟨_, Pattern.isFaultIn_of_read hdayOfWeek⟩
  rcases bind_eq_error.mp h with hyear | ⟨_, -, h⟩
  · exact ⟨_, Pattern.isFaultIn_of_read hyear⟩
  · cases h

/-- An expression is called empty only if there is nothing but blanks in it. -/
theorem read_eq_error_empty_iff : read text = .error .empty ↔ trim text = [] := by
  unfold read
  constructor
  · intro h
    split at h
    · assumption
    · unfold ofWords at h
      split at h
      · obtain ⟨field, hfault⟩ := isFaultIn_of_readFields h
        exact hfault.elim
      · obtain ⟨field, hfault⟩ := isFaultIn_of_readFields h
        exact hfault.elim
      · obtain ⟨field, hfault⟩ := isFaultIn_of_readFields h
        exact hfault.elim
      · cases h
  · intro h
    exact if_pos h

end Expression

end CronSchedule
