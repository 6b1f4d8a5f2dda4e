import CronSchedule.Document
import CronSchedule.Events
import CronSchedule.Proofs.Schedule.History

/-!
# Schedules that were stored

A document has the text of a schedule and its treatment of February.  The alternatives are
not in it, they are read from the text again, so the document gives back the schedule it was
made from just if that one is in step with its text.

Every schedule is, whatever its history.  Histories may have documents in them as well: what
is read from a document has just been read from the text in it, whichever of the optional
members that document has, and so it is stored and restored like any other schedule.
-/

namespace CronSchedule.Schedule

open Outcome

variable {schedule other : Schedule} {document : Document}

/-! ### One document -/

theorem ofDocument_eq_ok_iff :
    ofDocument document = .ok schedule ↔
      ∃ text february, partsOfDocument? document = some (text, february) ∧
        parse text february = .ok schedule := by
  unfold ofDocument
  constructor
  · intro h
    split at h
    · cases h
    · rename_i text february hparts
      exact ⟨text, february, hparts, mapError_eq_ok.mp h⟩
  · rintro ⟨text, february, hparts, hread⟩
    rw [hparts]
    exact mapError_eq_ok.mpr hread

theorem inStep_of_ofDocument (h : ofDocument document = .ok schedule) : schedule.InStep := by
  obtain ⟨text, february, -, hread⟩ := ofDocument_eq_ok_iff.mp h
  exact inStep_of_parse hread

/-- A document gives back a schedule that is in step with its text, and no other one. -/
theorem ofDocument_toDocument_iff :
    ofDocument schedule.toDocument = .ok schedule ↔ schedule.InStep := by
  constructor
  · exact inStep_of_ofDocument
  · intro h
    exact ofDocument_eq_ok_iff.mpr ⟨_, _, partsOfDocument?_toDocument schedule, h⟩

theorem InStep.toDocument_inj (h : schedule.InStep) (hother : other.InStep) :
    schedule.toDocument = other.toDocument ↔ schedule = other := by
  constructor
  · intro hsame
    have hread := ofDocument_toDocument_iff.mpr h
    rw [hsame, ofDocument_toDocument_iff.mpr hother] at hread
    exact (Except.ok.inj hread).symm
  · exact congrArg toDocument

/-! ### Histories with documents -/

/-- What can be done with schedules where documents are at hand. -/
inductive Deed where
  /-- What can be done with texts alone. -/
  | ofAct (act : Act)
  /-- Read a new schedule from a document. -/
  | restore (document : Document)
deriving Repr

/-- The schedules after a deed. -/
def Deed.perform (schedules : List Schedule) : Deed → List Schedule
  | ofAct act => act.perform schedules
  | restore document => schedules ++ (ofDocument document).toOption.toList

/-- The schedules after a history in which documents are read. -/
def afterAll (deeds : List Deed) : List Schedule :=
  deeds.foldl Deed.perform []

theorem Deed.inStep_of_mem_perform {schedules : List Schedule} (deed : Deed)
    (h : ∀ schedule ∈ schedules, schedule.InStep) :
    ∀ schedule ∈ deed.perform schedules, schedule.InStep := by
  cases deed with
  | ofAct act => exact inStep_of_mem_foldl [act] h
  | restore document =>
      intro schedule hmem
      rcases List.mem_append.mp hmem with hold | hnew
      · exact h schedule hold
      · cases hread : ofDocument document with
        | error error =>
            rw [hread] at hnew
            cases hnew
        | ok restored =>
            rw [hread] at hnew
            rw [List.mem_singleton.mp hnew]
            exact inStep_of_ofDocument hread

/-- Induction over the history, with any schedules in step to begin with. -/
theorem inStep_of_mem_foldl_deeds {schedules : List Schedule} (deeds : List Deed)
    (h : ∀ schedule ∈ schedules, schedule.InStep) :
    ∀ schedule ∈ deeds.foldl Deed.perform schedules, schedule.InStep := by
  induction deeds generalizing schedules with
  | nil => exact h
  | cons deed rest ih => exact ih (deed.inStep_of_mem_perform h)

theorem inStep_of_mem_afterAll {deeds : List Deed} (h : schedule ∈ afterAll deeds) :
    schedule.InStep :=
  inStep_of_mem_foldl_deeds deeds (by simp) schedule h

/-- Nothing of a schedule is lost in its document.  From the document of any schedule, whatever
    its history, a schedule is restored that has the same text, treatment of February and
    alternatives, and that gives the same answers about events, at local times and in every
    zone; and different schedules have different documents.  What is read from a document of
    any form is restored from its own document, in which all members are written, and that
    document comes out of it again. -/
theorem documents_restore_schedules (deeds : List Deed) :
    (∀ schedule ∈ afterAll deeds, ∃ restored, ofDocument schedule.toDocument = .ok restored ∧
      (restored.text = schedule.text ∧ restored.february = schedule.february ∧
        restored.alternatives = schedule.alternatives) ∧
      (∀ t, restored.next? t = schedule.next? t ∧ restored.isEvent t = schedule.isEvent t) ∧
      ∀ zone instant, restored.nextIn? zone instant = schedule.nextIn? zone instant ∧
        restored.isEventIn zone instant = schedule.isEventIn zone instant) ∧
    (∀ others, ∀ schedule ∈ afterAll deeds, ∀ other ∈ afterAll others,
      schedule.toDocument = other.toDocument ↔ schedule = other) ∧
    ∀ document schedule, ofDocument document = .ok schedule →
      ofDocument schedule.toDocument = .ok schedule ∧
        (ofDocument schedule.toDocument).map toDocument = .ok schedule.toDocument := by
  refine ⟨fun schedule hmem => ?_, fun others schedule hmem other hother => ?_,
    fun document schedule hread => ?_⟩
  · have hback := ofDocument_toDocument_iff.mpr (inStep_of_mem_afterAll hmem)
    exact ⟨schedule, hback, ⟨rfl, rfl, rfl⟩, fun t => ⟨rfl, rfl⟩, fun zone instant => ⟨rfl, rfl⟩⟩
  · exact (inStep_of_mem_afterAll hmem).toDocument_inj (inStep_of_mem_afterAll hother)
  · have hback := ofDocument_toDocument_iff.mpr (inStep_of_ofDocument hread)
    refine ⟨hback, ?_⟩
    rw [hback]
    rfl

/-- The options of the first document are empty.  The schedule read from it keeps its text when
    a new one is rejected, then gets a new text, and is restored with that one. -/
theorem documents_restore_schedules_with_new_texts :
    ∃ schedule,
      afterAll [.restore (.object [("options", .object []), ("input", .string "@weekly")]),
        .ofAct (.assign 0 "@weekly|0 0 L 13 ?"), .ofAct (.assign 0 "0 0 L 2 ?|@daily")] = [schedule] ∧
      schedule.text = "0 0 L 2 ?|@daily" ∧ schedule.february = .leapAware ∧
      ∃ restored, ofDocument schedule.toDocument = .ok restored ∧
        restored.alternatives = schedule.alternatives := by
  have hafter : afterAll [.restore (.object [("options", .object []), ("input", .string "@weekly")]),
      .ofAct (.assign 0 "@weekly|0 0 L 13 ?"), .ofAct (.assign 0 "0 0 L 2 ?|@daily")] =
      [⟨"0 0 L 2 ?|@daily", .leapAware,
        [⟨.items (.ofList [.value 0]), .items (.ofList [.value 0]), .lastDay,
            .items (.ofList [.value 2]), .omit, .all⟩,
          ⟨.items (.ofList [.value 0]), .items (.ofList [.value 0]), .all, .all, .omit, .all⟩]⟩] := by
    decide +kernel
  have hrestore := (documents_restore_schedules
    [.restore (.object [("options", .object []), ("input", .string "@weekly")]),
      .ofAct (.assign 0 "@weekly|0 0 L 13 ?"), .ofAct (.assign 0 "0 0 L 2 ?|@daily")]).1
  rw [hafter] at hrestore
  obtain ⟨restored, hback, ⟨-, -, halternatives⟩, -⟩ := hrestore _ List.mem_cons_self
  exact ⟨_, hafter, rfl, rfl, restored, hback, halternatives⟩

end CronSchedule.Schedule
