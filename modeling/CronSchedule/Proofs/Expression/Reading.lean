import CronSchedule.Expression.Parser
import CronSchedule.Proofs.Pattern.Reading

/-!
# Expressions that were read

Whatever number of words an expression was read from, each of its patterns, apart from that
of the seconds, was read from a text of its own, which spells it: `Expression.Spelled`.
-/

namespace CronSchedule

open Outcome

/-- The fields that can be written, in their order. -/
def Field.written : List Field :=
  [.minute, .hour, .dayOfMonth, .month, .dayOfWeek, .year]

theorem expandShorthand_eq_self {text : List Char}
    (h : ∀ entry ∈ shorthands, entry.1.toList ≠ text.map Char.toLower) :
    expandShorthand text = text := by
  have hnone : shorthands.find? (fun entry => entry.1.toList == text.map Char.toLower) = none := by
    rw [List.find?_eq_none]
    exact fun entry hentry hname => h entry hentry (beq_iff_eq.mp hname)
  rw [expandShorthand, hnone]

namespace Expression

variable {expression : Expression} {text : List Char}

/-- The pattern of each field that can be written is spelled by some text. -/
def Spelled (expression : Expression) : Prop :=
  ∀ field ∈ Field.written, ∃ text, Pattern.Spells field text (expression.pattern field)

theorem readFields_eq_ok_iff {minute hour dayOfMonth month dayOfWeek year : List Char} :
    readFields minute hour dayOfMonth month dayOfWeek year = .ok expression ↔
      Pattern.read .minute minute = .ok expression.minute ∧
      Pattern.read .hour hour = .ok expression.hour ∧
      Pattern.read .dayOfMonth dayOfMonth = .ok expression.dayOfMonth ∧
      Pattern.read .month month = .ok expression.month ∧
      Pattern.read .dayOfWeek dayOfWeek = .ok expression.dayOfWeek ∧
      Pattern.read .year year = .ok expression.year := by
  constructor
  · intro h
    obtain ⟨minute, hminute, h⟩ := bind_eq_ok.mp h
    obtain ⟨hour, hhour, h⟩ := bind_eq_ok.mp h
    obtain ⟨dayOfMonth, hdayOfMonth, h⟩ := bind_eq_ok.mp h
    obtain ⟨month, hmonth, h⟩ := bind_eq_ok.mp h
    obtain ⟨dayOfWeek, hdayOfWeek, h⟩ := bind_eq_ok.mp h
    obtain ⟨year, hyear, h⟩ := bind_eq_ok.mp h
    cases h
    exact ⟨hminute, hhour, hdayOfMonth, hmonth, hdayOfWeek, hyear⟩
  · rintro ⟨hminute, hhour, hdayOfMonth, hmonth, hdayOfWeek, hyear⟩
    refine bind_eq_ok.mpr ⟨_, hminute, bind_eq_ok.mpr ⟨_, hhour, ?_⟩⟩
    refine bind_eq_ok.mpr ⟨_, hdayOfMonth, bind_eq_ok.mpr ⟨_, hmonth, ?_⟩⟩
    exact bind_eq_ok.mpr ⟨_, hdayOfWeek, bind_eq_ok.mpr ⟨_, hyear, rfl⟩⟩

theorem spelled_of_readFields {minute hour dayOfMonth month dayOfWeek year : List Char}
    (h : readFields minute hour dayOfMonth month dayOfWeek year = .ok expression) :
    expression.Spelled := by
  obtain ⟨hminute, hhour, hdayOfMonth, hmonth, hdayOfWeek, hyear⟩ := readFields_eq_ok_iff.mp h
  intro field hfield
  cases field with
  | second => exact absurd hfield (by decide)
  | minute => exact ⟨_, Pattern.readLowered_eq_ok_iff.mp hminute⟩
  | hour => exact ⟨_, Pattern.readLowered_eq_ok_iff.mp hhour⟩
  | dayOfMonth => exact ⟨_, Pattern.readLowered_eq_ok_iff.mp hdayOfMonth⟩
  | month => exact ⟨_, Pattern.readLowered_eq_ok_iff.mp hmonth⟩
  | dayOfWeek => exact ⟨_, Pattern.readLowered_eq_ok_iff.mp hdayOfWeek⟩
  | year => exact ⟨_, Pattern.readLowered_eq_ok_iff.mp hyear⟩

theorem spelled_of_read (h : read text = .ok expression) : expression.Spelled := by
  unfold read at h
  split at h
  · cases h
  · unfold ofWords at h
    split at h
    · exact spelled_of_readFields h
    · exact spelled_of_readFields h
    · exact spelled_of_readFields h
    · cases h

theorem parse_eq_ok_iff {text : String} :
    parse text = .ok expression ↔ read text.toList = .ok expression :=
  mapError_eq_ok

end Expression

end CronSchedule
