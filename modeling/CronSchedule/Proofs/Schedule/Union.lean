import CronSchedule.Proofs.Pattern.Fault
import CronSchedule.Proofs.Schedule.Reading
import CronSchedule.Proofs.Text.Words

/-!
# Bars

Two texts with a bar between them are the schedule of both: its alternatives are those of
the first text and those of the second that the first does not have, so it has an event
where one of the two has one.  Which schedule is read depends on the order of the
alternatives and on how often they are written, but its events depend on neither: all that
counts is which texts there are between the bars, `Schedule.next?_of_mem_iff`.

A text with nothing between its bars is no schedule of its own, yet beside another one it
does no harm.  All other faults are faults of the whole; the first one from the left is the
one that is reported.
-/

namespace CronSchedule.Schedule

open Outcome

/-! ### What stands between bars -/

/-- Repetitions of the elements that are kept are dropped before or after the others. -/
theorem filter_eraseDups {α : Type} [BEq α] [LawfulBEq α] (p : α → Bool) :
    ∀ list : List α, list.eraseDups.filter p = (list.filter p).eraseDups
  | [] => rfl
  | head :: tail => by
      rw [List.eraseDups_cons]
      have ih := filter_eraseDups p (tail.filter fun other => !other == head)
      cases hhead : p head with
      | true =>
          rw [List.filter_cons_of_pos hhead, List.filter_cons_of_pos hhead, List.eraseDups_cons, ih,
            List.filter_comm]
      | false =>
          rw [List.filter_cons_of_neg (by simp [hhead]), List.filter_cons_of_neg (by simp [hhead]),
            ih, List.filter_filter]
          refine congrArg List.eraseDups (List.filter_congr fun other _ => ?_)
          cases hother : p other with
          | false => rfl
          | true =>
              have hne : other ≠ head := by
                rintro rfl
                rw [hhead] at hother
                cases hother
              simp [hne]
termination_by list => list.length
decreasing_by exact Nat.lt_succ_of_le (List.length_filter_le _ _)

theorem mem_alternativeTexts {text alternative : List Char} :
    alternative ∈ alternativeTexts text ↔
      alternative ≠ [] ∧ alternative ∈ (text.splitOn '|').map trim := by
  rw [alternativeTexts, List.mem_eraseDups, List.mem_filter, and_comm]
  simp

/-- Beyond the bar only those alternatives are new that do not stand before it. -/
theorem alternativeTexts_bar (left right : List Char) :
    alternativeTexts (left ++ '|' :: right) =
      alternativeTexts left ++ (alternativeTexts right).filter (· ∉ alternativeTexts left) := by
  have hcut : (left ++ '|' :: right).splitOn '|' = left.splitOn '|' ++ right.splitOn '|' :=
    List.splitOnP_append_cons left right (by decide)
  have hnew : ∀ pieces : List (List Char),
      pieces.removeAll (((left.splitOn '|').map trim).filter fun piece => !piece.isEmpty) =
        pieces.filter (· ∉ alternativeTexts left) := by
    intro pieces
    refine List.filter_congr fun piece _ => ?_
    simp only [alternativeTexts, List.mem_eraseDups, List.elem_eq_mem, decide_not]
  rw [alternativeTexts, hcut, List.map_append, List.filter_append, List.eraseDups_append, hnew,
    ← filter_eraseDups (· ∉ alternativeTexts left)]
  rfl

/-! ### Alternatives that are read -/

variable {text : List Char} {cause : Cause} {alternatives : List Expression}

theorem readAlternatives_eq_ok_iff :
    readAlternatives text = .ok alternatives ↔
      alternativeTexts text ≠ [] ∧
        (alternativeTexts text).mapM Expression.read = .ok alternatives := by
  unfold readAlternatives
  split
  · rename_i hnone
    simp [hnone]
  · rename_i hsome
    exact (and_iff_right hsome).symm

theorem readAlternatives_eq_error_iff :
    readAlternatives text = .error cause ↔
      alternativeTexts text = [] ∧ cause = .empty ∨
        (alternativeTexts text).mapM Expression.read = .error cause := by
  unfold readAlternatives
  split
  · rename_i hnone
    rw [hnone]
    constructor
    · intro h
      cases h
      exact .inl ⟨rfl, rfl⟩
    · rintro (⟨-, rfl⟩ | h)
      · rfl
      · cases h
  · rename_i hsome
    exact ⟨.inr, fun h => h.resolve_left fun hnone => hsome hnone.1⟩

/-- No alternative is empty by itself. -/
theorem mapM_read_ne_error_empty (text : List Char) :
    (alternativeTexts text).mapM Expression.read ≠ .error .empty := by
  intro h
  obtain ⟨before, alternative, after, hsplit, -, hread⟩ := mapM_eq_error_iff.mp h
  have hmem : alternative ∈ alternativeTexts text := by
    rw [hsplit]
    exact List.mem_append_right _ List.mem_cons_self
  obtain ⟨hne, htrimmed⟩ := mem_alternativeTexts.mp hmem
  obtain ⟨piece, -, rfl⟩ := List.mem_map.mp htrimmed
  rw [Expression.read_eq_error_empty_iff, trim_trim] at hread
  exact hne hread

theorem parse_eq_error_iff {text : String} {february : February} {error : ParseError} :
    parse text february = .error error ↔
      error.expression = text ∧ readAlternatives text.toList = .error error.cause := by
  unfold parse
  constructor
  · intro h
    split at h
    · cases h
    · rename_i cause hread
      cases h
      exact ⟨rfl, hread⟩
  · rintro ⟨rfl, hread⟩
    rw [hread]

/-- A rejection that is not for being empty is that of the first alternative at fault. -/
theorem parse_eq_error_iff_of_fault {text shown : String} {february : February}
    (hfault : cause ≠ .empty) :
    parse text february = .error ⟨shown, cause⟩ ↔
      shown = text ∧ (alternativeTexts text.toList).mapM Expression.read = .error cause := by
  rw [parse_eq_error_iff, readAlternatives_eq_error_iff]
  exact and_congr_right fun _ => or_iff_right fun hempty => hfault hempty.2

/-- If the text is rejected at all then for being empty. -/
def AtWorstEmpty (text : String) (february : February) : Prop :=
  ∀ error, parse text february = .error error → error.cause = .empty

theorem atWorstEmpty_iff {text : String} {february : February} :
    AtWorstEmpty text february ↔
      ∃ alternatives, (alternativeTexts text.toList).mapM Expression.read = .ok alternatives := by
  constructor
  · intro h
    cases hread : (alternativeTexts text.toList).mapM Expression.read with
    | ok alternatives => exact ⟨alternatives, rfl⟩
    | error cause =>
        have hempty : cause = .empty := h ⟨text, cause⟩
          (parse_eq_error_iff.mpr ⟨rfl, readAlternatives_eq_error_iff.mpr (.inr hread)⟩)
        rw [hempty] at hread
        exact absurd hread (mapM_read_ne_error_empty _)
  · rintro ⟨alternatives, hread⟩ error herror
    rcases readAlternatives_eq_error_iff.mp (parse_eq_error_iff.mp herror).2 with hempty | hfault
    · exact hempty.2
    · rw [hread] at hfault
      cases hfault

/-- A text that is at worst empty counts as the alternatives it is read as, which are none if
    it is empty. -/
theorem alternatives_of_toOption_parse {text : String} {february : February}
    (h : (alternativeTexts text.toList).mapM Expression.read = .ok alternatives) :
    (parse text february).toOption.elim [] (·.alternatives) = alternatives := by
  cases hparse : parse text february with
  | ok schedule =>
      obtain ⟨hread, -⟩ := parse_eq_ok_iff.mp hparse
      rw [(readAlternatives_eq_ok_iff.mp hread).2] at h
      exact Except.ok.inj h
  | error error =>
      rcases readAlternatives_eq_error_iff.mp (parse_eq_error_iff.mp hparse).2 with hempty | hfault
      · rw [hempty.1] at h
        exact Except.ok.inj h
      · rw [hfault] at h
        cases h

/-! ### Events of alternatives -/

theorem min?_eq_of_mem_iff {times others : List DateTime} (h : ∀ t, t ∈ times ↔ t ∈ others) :
    times.min? = others.min? := by
  apply Option.ext
  intro t
  simp only [List.min?_eq_some_iff, h]

theorem min?_append (times others : List DateTime) :
    (times ++ others).min? = Option.merge min times.min? others.min? := by
  cases hfirst : times.min? with
  | none => rw [List.min?_eq_none_iff.mp hfirst, List.nil_append, Option.merge_none_left]
  | some first =>
      cases hsecond : others.min? with
      | none =>
          rw [List.min?_eq_none_iff.mp hsecond, List.append_nil, hfirst, Option.merge_none_right]
      | some second =>
          rw [List.min?_eq_some_iff] at hfirst hsecond
          rw [Option.merge_some_some, List.min?_eq_some_iff]
          constructor
          · rcases Std.MinEqOr.min_eq_or first second with hmin | hmin
            · rw [hmin]
              exact List.mem_append_left _ hfirst.1
            · rw [hmin]
              exact List.mem_append_right _ hsecond.1
          · intro t ht
            rcases List.mem_append.mp ht with ht | ht
            · exact Std.le_trans Std.min_le_left (hfirst.2 t ht)
            · exact Std.le_trans Std.min_le_right (hsecond.2 t ht)

variable {schedule : Schedule}

/-- The next event does not depend on the order of the alternatives, nor on repetitions. -/
theorem next?_of_mem_iff
    (h : ∀ expression, expression ∈ schedule.alternatives ↔ expression ∈ alternatives)
    (t : DateTime) :
    schedule.next? t = (alternatives.filterMap fun expression =>
      expression.firstAfter? schedule.february t).min? := by
  apply min?_eq_of_mem_iff
  intro event
  simp only [List.mem_filterMap, h]

theorem isEvent_of_mem_iff
    (h : ∀ expression, expression ∈ schedule.alternatives ↔ expression ∈ alternatives)
    (t : DateTime) :
    schedule.isEvent t = alternatives.any fun expression =>
      expression.firstFrom? schedule.february (t.truncate .minute) == some (t.truncate .minute) := by
  rw [Bool.eq_iff_iff]
  simp only [isEvent, List.any_eq_true, h]

/-! ### Both sides of a bar -/

section Bar

variable {a b : String} {february : February}

theorem toList_bar (a b : String) : (a ++ "|" ++ b).toList = a.toList ++ '|' :: b.toList := by
  rw [String.toList_append, String.toList_append, List.append_assoc]
  rfl

/-- What is read without fault may be left out: the first fault stays the first. -/
theorem mapM_filter_eq_error {α β ε : Type} [BEq α] [LawfulBEq α] {f : α → Except ε β}
    {old list : List α} {e : ε} (hold : ∀ x ∈ old, ∃ y, f x = .ok y) (h : list.mapM f = .error e) :
    (list.filter (· ∉ old)).mapM f = .error e := by
  obtain ⟨before, part, after, rfl, hbefore, hpart⟩ := mapM_eq_error_iff.mp h
  have hnew : part ∉ old := by
    intro hmem
    obtain ⟨y, hy⟩ := hold part hmem
    rw [hpart] at hy
    cases hy
  refine mapM_eq_error_iff.mpr ⟨before.filter (· ∉ old), part, after.filter (· ∉ old), ?_, ?_, hpart⟩
  · rw [List.filter_append, List.filter_cons_of_pos (by simp [hnew])]
  · exact fun x hx => hbefore x (List.mem_of_mem_filter hx)

theorem parse_bar_of_fault_left {error : ParseError} (h : parse a february = .error error)
    (hfault : error.cause ≠ .empty) :
    parse (a ++ "|" ++ b) february = .error ⟨a ++ "|" ++ b, error.cause⟩ := by
  obtain ⟨-, hread⟩ := (parse_eq_error_iff_of_fault hfault).mp h
  refine (parse_eq_error_iff_of_fault hfault).mpr ⟨rfl, ?_⟩
  rw [toList_bar, alternativeTexts_bar, List.mapM_append, hread]
  rfl

theorem parse_bar_of_fault_right {error : ParseError} (ha : AtWorstEmpty a february)
    (h : parse b february = .error error) (hfault : error.cause ≠ .empty) :
    parse (a ++ "|" ++ b) february = .error ⟨a ++ "|" ++ b, error.cause⟩ := by
  obtain ⟨first, hfirst⟩ := atWorstEmpty_iff.mp ha
  obtain ⟨-, hread⟩ := (parse_eq_error_iff_of_fault hfault).mp h
  -- what the first text has already is read without fault, so the fault is in what is new
  have hnew := mapM_filter_eq_error (exists_mapM_iff.mp ⟨first, hfirst⟩) hread
  refine (parse_eq_error_iff_of_fault hfault).mpr ⟨rfl, ?_⟩
  rw [toList_bar, alternativeTexts_bar, List.mapM_append, hfirst, hnew]
  rfl

theorem parse_eq_error_empty_iff :
    parse a february = .error ⟨a, .empty⟩ ↔ alternativeTexts a.toList = [] := by
  rw [parse_eq_error_iff, readAlternatives_eq_error_iff]
  constructor
  · rintro ⟨-, hempty | hfault⟩
    · exact hempty.1
    · exact absurd hfault (mapM_read_ne_error_empty _)
  · intro h
    exact ⟨rfl, .inl ⟨h, rfl⟩⟩

theorem parse_bar_of_empty (ha : parse a february = .error ⟨a, .empty⟩)
    (hb : parse b february = .error ⟨b, .empty⟩) :
    parse (a ++ "|" ++ b) february = .error ⟨a ++ "|" ++ b, .empty⟩ := by
  rw [parse_eq_error_empty_iff] at ha hb ⊢
  rw [toList_bar, alternativeTexts_bar, ha, hb]
  rfl

theorem next?_of_toOption_parse (a : String) (february : February) (t : DateTime) :
    (parse a february).toOption.bind (·.next? t) =
      (((parse a february).toOption.elim [] (·.alternatives)).filterMap
        fun expression => expression.firstAfter? february t).min? := by
  cases hparse : parse a february with
  | error error => rfl
  | ok schedule =>
      show schedule.next? t = _
      rw [next?, february_of_parse hparse]
      rfl

theorem isEvent_of_toOption_parse (a : String) (february : February) (t : DateTime) :
    (parse a february).toOption.any (·.isEvent t) =
      ((parse a february).toOption.elim [] (·.alternatives)).any
        fun expression => expression.firstFrom? february (t.truncate .minute) ==
          some (t.truncate .minute) := by
  cases hparse : parse a february with
  | error error => rfl
  | ok schedule =>
      show schedule.isEvent t = _
      rw [isEvent, february_of_parse hparse]
      rfl

theorem parse_bar_of_atWorstEmpty (ha : AtWorstEmpty a february) (hb : AtWorstEmpty b february)
    (hne : alternativeTexts a.toList ≠ [] ∨ alternativeTexts b.toList ≠ []) :
    ∃ schedule new, parse (a ++ "|" ++ b) february = .ok schedule ∧
      ((alternativeTexts b.toList).filter (· ∉ alternativeTexts a.toList)).mapM Expression.read =
        .ok new ∧
      schedule.alternatives = (parse a february).toOption.elim [] (·.alternatives) ++ new ∧
      ∀ expression, expression ∈ schedule.alternatives ↔
        expression ∈ (parse a february).toOption.elim [] (·.alternatives) ++
          (parse b february).toOption.elim [] (·.alternatives) := by
  obtain ⟨first, hfirst⟩ := atWorstEmpty_iff.mp ha
  obtain ⟨second, hsecond⟩ := atWorstEmpty_iff.mp hb
  rw [alternatives_of_toOption_parse hfirst, alternatives_of_toOption_parse hsecond]
  obtain ⟨new, hnew⟩ : ∃ new, ((alternativeTexts b.toList).filter
      (· ∉ alternativeTexts a.toList)).mapM Expression.read = .ok new :=
    exists_mapM_iff.mpr fun alternative hmem =>
      exists_mapM_iff.mp ⟨second, hsecond⟩ alternative (List.mem_of_mem_filter hmem)
  have hread : readAlternatives (a ++ "|" ++ b).toList = .ok (first ++ new) := by
    rw [readAlternatives_eq_ok_iff, toList_bar, alternativeTexts_bar]
    constructor
    · intro hnil
      obtain ⟨hanil, hbnil⟩ := List.append_eq_nil_iff.mp hnil
      rw [hanil, List.filter_eq_self.mpr (by simp)] at hbnil
      exact hne.elim (absurd hanil) (absurd hbnil)
    · rw [List.mapM_append, hfirst, hnew]
      rfl
  refine ⟨⟨a ++ "|" ++ b, february, first ++ new⟩, new, parse_eq_ok_iff.mpr ⟨hread, rfl, rfl⟩, hnew,
    rfl, fun expression => ?_⟩
  rw [List.mem_append, List.mem_append, mem_of_mapM_iff hfirst, mem_of_mapM_iff hsecond,
    mem_of_mapM_iff hnew]
  constructor
  · rintro (hold | ⟨alternative, hmem, hexpression⟩)
    · exact .inl hold
    · exact .inr ⟨alternative, List.mem_of_mem_filter hmem, hexpression⟩
  · rintro (hold | ⟨alternative, hmem, hexpression⟩)
    · exact .inl hold
    · -- one that is left out stands in the first text too, and reads the same there
      by_cases hknown : alternative ∈ alternativeTexts a.toList
      · exact .inl ⟨alternative, hknown, hexpression⟩
      · exact .inr ⟨alternative, List.mem_filter.mpr ⟨hmem, by simp [hknown]⟩, hexpression⟩

/-- Which alternatives there are decides whether a text is read and which events it has. -/
theorem parse_of_same_alternatives {first : Schedule} (h : parse a february = .ok first)
    (hsame : ∀ alternative,
      alternative ∈ alternativeTexts a.toList ↔ alternative ∈ alternativeTexts b.toList) :
    ∃ second, parse b february = .ok second ∧
      ∀ t, second.next? t = first.next? t ∧ second.isEvent t = first.isEvent t := by
  obtain ⟨hread, -, hfebruary⟩ := parse_eq_ok_iff.mp h
  obtain ⟨hne, hread⟩ := readAlternatives_eq_ok_iff.mp hread
  obtain ⟨alternatives, hsecond⟩ : ∃ alternatives,
      (alternativeTexts b.toList).mapM Expression.read = .ok alternatives :=
    exists_mapM_iff.mpr fun alternative hmem =>
      exists_mapM_iff.mp ⟨_, hread⟩ alternative ((hsame alternative).mpr hmem)
  have hsome : alternativeTexts b.toList ≠ [] := by
    intro hnil
    refine hne (List.eq_nil_iff_forall_not_mem.mpr fun alternative hmem => ?_)
    rw [hsame, hnil] at hmem
    cases hmem
  have hmem : ∀ expression, expression ∈ alternatives ↔ expression ∈ first.alternatives := by
    intro expression
    simp only [mem_of_mapM_iff hsecond, mem_of_mapM_iff hread, hsame]
  refine ⟨⟨b, february, alternatives⟩,
    parse_eq_ok_iff.mpr ⟨readAlternatives_eq_ok_iff.mpr ⟨hsome, hsecond⟩, rfl, rfl⟩, fun t => ?_⟩
  rw [next?_of_mem_iff hmem, isEvent_of_mem_iff hmem, ← hfebruary]
  exact ⟨rfl, rfl⟩

/-- Two texts with a bar between them are rejected for the fault of the first one, if it has
    one, or else for that of the second one, or else if both are empty, and in each case the
    rejection shows the whole.  In all other cases the whole is a schedule.  Its alternatives
    are those of the first text and then those of the second that the first does not have; its
    next event is the earlier one of the two texts, and a minute is that of an event if it is
    so for one of them, where a text that is empty has no alternatives and no events.  Hence
    texts that have the same alternatives, in whatever order, however often and with whatever
    blanks between their bars, have the same events. -/
theorem bar_unites_schedules (a b : String) (february : February) :
    (∀ error, parse a february = .error error → error.cause ≠ .empty →
      parse (a ++ "|" ++ b) february = .error ⟨a ++ "|" ++ b, error.cause⟩) ∧
    (AtWorstEmpty a february → ∀ error, parse b february = .error error → error.cause ≠ .empty →
      parse (a ++ "|" ++ b) february = .error ⟨a ++ "|" ++ b, error.cause⟩) ∧
    (parse a february = .error ⟨a, .empty⟩ → parse b february = .error ⟨b, .empty⟩ →
      parse (a ++ "|" ++ b) february = .error ⟨a ++ "|" ++ b, .empty⟩) ∧
    (AtWorstEmpty a february → AtWorstEmpty b february →
      ¬ (parse a february = .error ⟨a, .empty⟩ ∧ parse b february = .error ⟨b, .empty⟩) →
      ∃ schedule new, parse (a ++ "|" ++ b) february = .ok schedule ∧
        ((alternativeTexts b.toList).filter (· ∉ alternativeTexts a.toList)).mapM Expression.read =
          .ok new ∧
        schedule.alternatives = (parse a february).toOption.elim [] (·.alternatives) ++ new ∧
        ∀ t,
          schedule.next? t = Option.merge min ((parse a february).toOption.bind (·.next? t))
            ((parse b february).toOption.bind (·.next? t)) ∧
          schedule.isEvent t = ((parse a february).toOption.any (·.isEvent t) ||
            (parse b february).toOption.any (·.isEvent t))) ∧
    ∀ first, parse a february = .ok first →
      (∀ alternative, alternative ≠ [] →
        (alternative ∈ (a.toList.splitOn '|').map trim ↔
          alternative ∈ (b.toList.splitOn '|').map trim)) →
      ∃ second, parse b february = .ok second ∧
        ∀ t, second.next? t = first.next? t ∧ second.isEvent t = first.isEvent t := by
  refine ⟨fun error h hfault => parse_bar_of_fault_left h hfault,
    fun ha error h hfault => parse_bar_of_fault_right ha h hfault, parse_bar_of_empty, ?_, ?_⟩
  · intro ha hb hne
    rw [parse_eq_error_empty_iff, parse_eq_error_empty_iff, not_and_or] at hne
    obtain ⟨schedule, new, hparse, hnew, halternatives, hmem⟩ := parse_bar_of_atWorstEmpty ha hb hne
    refine ⟨schedule, new, hparse, hnew, halternatives, fun t => ⟨?_, ?_⟩⟩
    · rw [next?_of_mem_iff hmem, february_of_parse hparse, List.filterMap_append, min?_append,
        next?_of_toOption_parse, next?_of_toOption_parse]
    · rw [isEvent_of_mem_iff hmem, february_of_parse hparse, List.any_append,
        isEvent_of_toOption_parse, isEvent_of_toOption_parse]
  · intro first h hsame
    refine parse_of_same_alternatives h fun alternative => ?_
    rw [mem_alternativeTexts, mem_alternativeTexts]
    exact and_congr_right (hsame alternative)

/-- The schedule of half past seven is the only one that the second text adds.  Beside a text
    that is empty, a fault of the other one is the fault of the whole. -/
theorem bar_unites_schedules_with_one_in_common :
    (∃ schedule, parse ("0 8 * * ?|@daily" ++ "|" ++ " @daily || 30 7 * * ? ") .leapAware = .ok schedule ∧
      schedule.alternatives.length = 3 ∧
      schedule.isEvent ((DateTime.startOfDay (Date.toDayNumber ⟨2024, 1, 1⟩)).addSeconds 27000) = true) ∧
    parse (" | " ++ "|" ++ "61 * * *") .leapAware =
      .error ⟨" | |61 * * *", .outOfBounds "61" .minute⟩ := by
  have hfirst : parse "0 8 * * ?|@daily" .leapAware = .ok ⟨"0 8 * * ?|@daily", .leapAware,
      [⟨.items (.ofList [.value 0]), .items (.ofList [.value 8]), .all, .all, .omit, .all⟩,
        ⟨.items (.ofList [.value 0]), .items (.ofList [.value 0]), .all, .all, .omit, .all⟩]⟩ := by
    decide +kernel
  have hsecond : parse " @daily || 30 7 * * ? " .leapAware = .ok ⟨" @daily || 30 7 * * ? ", .leapAware,
      [⟨.items (.ofList [.value 0]), .items (.ofList [.value 0]), .all, .all, .omit, .all⟩,
        ⟨.items (.ofList [.value 30]), .items (.ofList [.value 7]), .all, .all, .omit, .all⟩]⟩ := by
    decide +kernel
  have hnew : ((alternativeTexts " @daily || 30 7 * * ? ".toList).filter
      (· ∉ alternativeTexts "0 8 * * ?|@daily".toList)).mapM Expression.read =
      .ok [⟨.items (.ofList [.value 30]), .items (.ofList [.value 7]), .all, .all, .omit, .all⟩] := by
    decide +kernel
  have hempty : parse " | " .leapAware = .error ⟨" | ", .empty⟩ := by
    decide +kernel
  have hfault : parse "61 * * *" .leapAware = .error ⟨"61 * * *", .outOfBounds "61" .minute⟩ := by
    decide +kernel
  constructor
  · obtain ⟨schedule, new, hparse, hread, halternatives, hevents⟩ :=
      (bar_unites_schedules "0 8 * * ?|@daily" " @daily || 30 7 * * ? " .leapAware).2.2.2.1
        (by simp [AtWorstEmpty, hfirst]) (by simp [AtWorstEmpty, hsecond]) (by simp [hfirst])
    refine ⟨schedule, hparse, ?_, ?_⟩
    · rw [hnew] at hread
      cases hread
      rw [halternatives, hfirst]
      rfl
    · rw [(hevents _).2, hfirst, hsecond]
      decide +kernel
  · exact (bar_unites_schedules " | " "61 * * *" .leapAware).2.1
      (by simp [AtWorstEmpty, hempty]) _ hfault (by decide)

end Bar

end CronSchedule.Schedule
