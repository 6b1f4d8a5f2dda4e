import CronSchedule.Proofs.Outcome
import CronSchedule.Proofs.Pattern.Value

/-!
# Reading follows the grammar

The reader decides what a part is by the signs it holds, in a fixed order; the grammar
gives each form by its parts.  They agree, `Pattern.readLowered_eq_ok_iff`: there is one
lemma for each reader, and no form is taken for another one since all signs that are looked
for before its own are absent from it (`Item.Spells.read`).
-/

namespace CronSchedule

open Outcome

/-! ### Ranges and series -/

theorem cut?_append {separator : Char} {left right : List Char} (h : separator ∉ left) :
    cut? separator (left ++ separator :: right) = some (left, right) :=
  cut?_eq_some_iff.mpr ⟨rfl, h⟩

variable {field : Field} {text : List Char}

theorem Range.Spells.hyphen_mem {range : Range} (h : Range.Spells field text range) :
    '-' ∈ text := by
  cases h with
  | plain | toSunday => exact List.mem_append_right _ List.mem_cons_self

/-- Two plain texts with one sign between them hold no other sign. -/
theorem Plain.not_mem_append {left right : List Char} {sign c : Char} (hleft : Plain left)
    (hright : Plain right) (hc : isValueChar c = false) (hne : c ≠ sign) :
    c ∉ left ++ sign :: right := by
  intro hmem
  rcases List.mem_append.mp hmem with hmem | hmem
  · exact hleft.not_mem hc hmem
  · rcases List.mem_cons.mp hmem with heq | hmem
    · exact hne heq
    · exact hright.not_mem hc hmem

theorem Range.Spells.not_mem {range : Range} (h : Range.Spells field text range) {c : Char}
    (hc : isValueChar c = false) (hne : c ≠ '-') : c ∉ text := by
  cases h with
  | plain hlow hhigh | toSunday _ hlow hhigh =>
      exact hlow.plain.not_mem_append hhigh.plain hc hne

/-- Where the grammar has a rule for ranges to Sunday, the reader moves the end of a range. -/
theorem Range.spells_iff_rangeEnd {range : Range} :
    Range.Spells field text range ↔
      ∃ low high first last, text = low ++ '-' :: high ∧ field.Spells low first ∧
        field.Spells high last ∧ first ≤ field.rangeEnd last ∧
          range = ⟨first, field.rangeEnd last⟩ := by
  constructor
  · intro h
    cases h with
    | @plain low high first last hlow hhigh hordered hother =>
        have hend : field.rangeEnd last = last := if_neg hother
        exact ⟨low, high, first, last, rfl, hlow, hhigh, by rwa [hend], by rw [hend]⟩
    | @toSunday low high first hweek hlow hhigh =>
        subst hweek
        have hfirst : first ≤ 6 := hlow.bounds.2
        exact ⟨low, high, first, 0, rfl, hlow, hhigh, Nat.le_succ_of_le hfirst, rfl⟩
  · rintro ⟨low, high, first, last, rfl, hlow, hhigh, hordered, rfl⟩
    by_cases hsunday : field = .dayOfWeek ∧ last = 0
    · obtain ⟨rfl, rfl⟩ := hsunday
      exact .toSunday rfl hlow hhigh
    · have hend : field.rangeEnd last = last := if_neg hsunday
      rw [hend] at hordered ⊢
      exact .plain hlow hhigh hordered hsunday

theorem Range.read_eq_ok_iff {shape : Shape} {range : Range} :
    Range.read field shape text = .ok range ↔ Range.Spells field text range := by
  rw [Range.spells_iff_rangeEnd]
  constructor
  · intro h
    unfold Range.read at h
    split at h
    · cases h
    · rename_i low high hcut
      obtain ⟨rfl, -⟩ := cut?_eq_some_iff.mp hcut
      split at h
      · cases h
      · obtain ⟨first, hfirst, h⟩ := bind_eq_ok.mp h
        obtain ⟨last, hlast, h⟩ := bind_eq_ok.mp h
        split at h
        · cases h
        · rename_i hordered
          cases h
          exact ⟨low, high, first, last, rfl, Field.readValue_eq_ok_iff.mp hfirst,
            Field.readValue_eq_ok_iff.mp hlast, Nat.le_of_not_lt hordered, rfl⟩
  · rintro ⟨low, high, first, last, rfl, hlow, hhigh, hordered, rfl⟩
    unfold Range.read
    rw [cut?_append (hlow.plain.not_mem (by decide))]
    dsimp only
    rw [if_neg (hhigh.plain.not_mem (by decide))]
    refine bind_eq_ok.mpr ⟨_, Field.readValue_eq_ok_iff.mpr hlow, ?_⟩
    refine bind_eq_ok.mpr ⟨_, Field.readValue_eq_ok_iff.mpr hhigh, ?_⟩
    exact if_neg (Nat.not_lt.mpr hordered)

theorem Series.SpellsBase.not_mem {range : Range} (h : Series.SpellsBase field text range)
    {c : Char} (hc : isValueChar c = false) (hhyphen : c ≠ '-') (hstar : c ≠ '*') : c ∉ text := by
  cases h with
  | star => exact fun hmem => hstar (List.mem_singleton.mp hmem)
  | openEnd hspells => exact hspells.plain.not_mem hc
  | range hspells => exact hspells.not_mem hc hhyphen

theorem Series.readBase_eq_ok_iff {range : Range} :
    Series.readBase field text = .ok range ↔ Series.SpellsBase field text range := by
  constructor
  · intro h
    unfold Series.readBase at h
    split at h
    · rename_i hstar
      cases h
      rw [hstar]
      exact .star
    · split at h
      · exact .range (Range.read_eq_ok_iff.mp h)
      · obtain ⟨first, hfirst, h⟩ := bind_eq_ok.mp h
        cases h
        exact .openEnd (Field.readValue_eq_ok_iff.mp hfirst)
  · intro h
    unfold Series.readBase
    cases h with
    | star => exact if_pos rfl
    | openEnd hspells =>
        rw [if_neg (hspells.plain.ne_singleton (by decide)),
          if_neg (hspells.plain.not_mem (by decide))]
        exact bind_eq_ok.mpr ⟨_, Field.readValue_eq_ok_iff.mpr hspells, rfl⟩
    | range hspells =>
        have hstar : text ≠ ['*'] := by
          rintro rfl
          exact absurd hspells.hyphen_mem (by decide)
        rw [if_neg hstar, if_pos hspells.hyphen_mem]
        exact Range.read_eq_ok_iff.mpr hspells

theorem Series.read_eq_ok_iff {series : Series} :
    Series.read field text = .ok series ↔ Item.Spells field text (.series series) := by
  constructor
  · intro h
    unfold Series.read at h
    split at h
    · cases h
    · rename_i base stride hcut
      obtain ⟨rfl, -⟩ := cut?_eq_some_iff.mp hcut
      split at h
      · cases h
      · obtain ⟨range, hbase, h⟩ := bind_eq_ok.mp h
        split at h
        · cases h
        · rename_i n hstride
          split at h
          · cases h
          · rename_i hbounds
            cases h
            have hpositive : 1 ≤ n := by omega
            have hgreatest : n ≤ field.greatest := by omega
            exact .series (Series.readBase_eq_ok_iff.mp hbase)
              (Numeral.read?_eq_some_iff.mp hstride) hpositive hgreatest
  · intro h
    cases h with
    | series hbase hstride hpositive hgreatest =>
        unfold Series.read
        rw [cut?_append (hbase.not_mem (by decide) (by decide) (by decide))]
        dsimp only
        rw [if_neg (hstride.plain.not_mem (by decide))]
        refine bind_eq_ok.mpr ⟨_, Series.readBase_eq_ok_iff.mpr hbase, ?_⟩
        rw [Numeral.read?_eq_some_iff.mpr hstride]
        exact if_neg (by omega)

/-! ### Days of the month -/

theorem NthWeekday.read_eq_ok_iff {nth : NthWeekday} :
    NthWeekday.read text = .ok nth ↔ Item.Spells .dayOfWeek text (.nthWeekday nth) := by
  constructor
  · intro h
    unfold NthWeekday.read at h
    split at h
    · cases h
    · rename_i weekday count hcut
      obtain ⟨rfl, -⟩ := cut?_eq_some_iff.mp hcut
      obtain ⟨day, hday, h⟩ := bind_eq_ok.mp h
      split at h
      · cases h
      · rename_i n hcount
        split at h
        · rename_i hbounds
          cases h
          exact .nthWeekday rfl (Field.readValue_eq_ok_iff.mp hday)
            (Numeral.read?_eq_some_iff.mp hcount) hbounds.1 hbounds.2
        · cases h
  · intro h
    cases h with
    | nthWeekday _ hweekday hcount hpositive hbounded =>
        unfold NthWeekday.read
        rw [cut?_append (hweekday.plain.not_mem (by decide))]
        refine bind_eq_ok.mpr ⟨_, Field.readValue_eq_ok_iff.mpr hweekday, ?_⟩
        rw [Numeral.read?_eq_some_iff.mpr hcount]
        exact if_pos ⟨hpositive, hbounded⟩

theorem readNearestWorkday_eq_ok_iff {day : Nat} :
    readNearestWorkday text = .ok day ↔
      Item.Spells .dayOfMonth text (.nearestWorkday day) := by
  unfold readNearestWorkday
  constructor
  · intro h
    split at h
    · rename_i hlast
      rw [← List.dropLast_append_getLast? _ hlast]
      exact .nearestWorkday rfl (Field.readValue_eq_ok_iff.mp h)
    · cases h
  · intro h
    cases h with
    | nearestWorkday _ hspells =>
        rw [if_pos List.getLast?_concat, List.dropLast_concat]
        exact Field.readValue_eq_ok_iff.mpr hspells

/-! ### Parts -/

/-- The text is an item of a list, or one of the signs that have to stand alone. -/
def Part.Spells (field : Field) (text : List Char) : Part → Prop
  | .item listed => Item.Spells field text listed
  | .alone operator => operator ≠ .hash ∧ text = operator.text.toList.map Char.toLower

theorem Part.spells_of_read {part : Part} (h : Part.read field text = .ok part) :
    Part.Spells field text part := by
  unfold Part.read at h
  split at h
  · obtain ⟨series, hseries, rfl⟩ := map_eq_ok.mp h
    exact Series.read_eq_ok_iff.mp hseries
  split at h
  · obtain ⟨range, hrange, rfl⟩ := map_eq_ok.mp h
    exact Item.Spells.range (Range.read_eq_ok_iff.mp hrange)
  split at h
  · split at h
    · rename_i hhash
      obtain ⟨nth, hnth, rfl⟩ := map_eq_ok.mp h
      rw [List.mem_singleton.mp hhash]
      exact NthWeekday.read_eq_ok_iff.mp hnth
    · cases h
  split at h
  · rename_i hlast
    cases h
    exact ⟨by decide, hlast⟩
  split at h
  · rename_i hlastWorkday
    cases h
    exact ⟨by decide, hlastWorkday⟩
  split at h
  · rename_i hmonth
    obtain ⟨day, hday, rfl⟩ := map_eq_ok.mp h
    rw [hmonth.1]
    exact readNearestWorkday_eq_ok_iff.mp hday
  split at h
  · rename_i hweek
    obtain ⟨weekday, hweekday, rfl⟩ := map_eq_ok.mp h
    rw [← List.dropLast_append_getLast? _ hweek.2]
    exact Item.Spells.lastWeekday hweek.1 (Field.readValue_eq_ok_iff.mp hweekday)
  split at h
  · rename_i hstar
    cases h
    exact ⟨by decide, hstar⟩
  split at h
  · rename_i hquestion
    cases h
    exact ⟨by decide, hquestion⟩
  · obtain ⟨value, hvalue, rfl⟩ := map_eq_ok.mp h
    exact Item.Spells.value (Field.readValue_eq_ok_iff.mp hvalue)

theorem concat_ne {text other : List Char} {c : Char} (h : other.getLast? ≠ some c) :
    text ++ [c] ≠ other := by
  rintro rfl
  exact h List.getLast?_concat

/-- No form is taken for another one.  The signs are looked for in the order of the rules of
    `Part.read`, so in each case all signs before the own one have to be absent. -/
theorem Item.Spells.read {item : Item} (h : Item.Spells field text item) :
    Part.read field text = .ok (.item item) := by
  cases h with
  | value hspells =>
      have hplain := hspells.plain
      have hmonth : ¬ (field = .dayOfMonth ∧ 'w' ∈ text) := by
        rintro ⟨rfl, hmem⟩
        exact hspells.w_not_mem hmem
      have hweek : ¬ (field = .dayOfWeek ∧ text.getLast? = some 'l') := by
        rintro ⟨rfl, hlast⟩
        exact hspells.getLast?_ne_l hlast
      unfold Part.read
      rw [if_neg (hplain.not_mem (by decide)), if_neg (hplain.not_mem (by decide)),
        if_neg (hplain.not_mem (by decide)), if_neg hspells.ne_last.1, if_neg hspells.ne_last.2,
        if_neg hmonth, if_neg hweek, if_neg (hplain.ne_singleton (by decide)),
        if_neg (hplain.ne_singleton (by decide))]
      exact map_eq_ok.mpr ⟨_, Field.readValue_eq_ok_iff.mpr hspells, rfl⟩
  | range hspells =>
      unfold Part.read
      rw [if_neg (hspells.not_mem (by decide) (by decide)), if_pos hspells.hyphen_mem]
      exact map_eq_ok.mpr ⟨_, Range.read_eq_ok_iff.mpr hspells, rfl⟩
  | series hbase hstride hpositive hbounded =>
      unfold Part.read
      rw [if_pos (List.mem_append_right _ List.mem_cons_self)]
      exact map_eq_ok.mpr ⟨_, Series.read_eq_ok_iff.mpr
        (.series hbase hstride hpositive hbounded), rfl⟩
  | nthWeekday allowed hweekday hcount hpositive hbounded =>
      subst allowed
      unfold Part.read
      rw [if_neg (hweekday.plain.not_mem_append hcount.plain (by decide) (by decide)),
        if_neg (hweekday.plain.not_mem_append hcount.plain (by decide) (by decide)),
        if_pos (List.mem_append_right _ List.mem_cons_self), if_pos (by decide)]
      exact map_eq_ok.mpr ⟨_, NthWeekday.read_eq_ok_iff.mpr
        (.nthWeekday rfl hweekday hcount hpositive hbounded), rfl⟩
  | @nearestWorkday text day allowed hspells =>
      subst allowed
      have hplain := hspells.plain.concat (c := 'w') (by decide)
      have hlast : text ++ ['w'] ≠ ['l'] := concat_ne (by decide)
      have hlastWorkday : text ++ ['w'] ≠ ['l', 'w'] := by
        intro h
        have hsame : text ++ ['w'] = ['l'] ++ ['w'] := h
        exact hspells.ne_last.1 (List.append_cancel_right hsame)
      unfold Part.read
      rw [if_neg (hplain.not_mem (by decide)), if_neg (hplain.not_mem (by decide)),
        if_neg (hplain.not_mem (by decide)), if_neg hlast, if_neg hlastWorkday,
        if_pos ⟨rfl, List.mem_append_right _ List.mem_cons_self⟩]
      exact map_eq_ok.mpr ⟨_, readNearestWorkday_eq_ok_iff.mpr (.nearestWorkday rfl hspells), rfl⟩
  | @lastWeekday text weekday allowed hspells =>
      subst allowed
      have hplain := hspells.plain.concat (c := 'l') (by decide)
      have hlast : text ++ ['l'] ≠ ['l'] := by
        intro h
        have hsame : text ++ ['l'] = [] ++ ['l'] := h
        exact hspells.ne_nil (List.append_cancel_right hsame)
      have hlastWorkday : text ++ ['l'] ≠ ['l', 'w'] := concat_ne (by decide)
      have hmonth : ¬ (Field.dayOfWeek = .dayOfMonth ∧ 'w' ∈ text ++ ['l']) := by
        rintro ⟨hfield, -⟩
        cases hfield
      unfold Part.read
      rw [if_neg (hplain.not_mem (by decide)), if_neg (hplain.not_mem (by decide)),
        if_neg (hplain.not_mem (by decide)), if_neg hlast, if_neg hlastWorkday, if_neg hmonth,
        if_pos ⟨rfl, List.getLast?_concat⟩]
      refine map_eq_ok.mpr ⟨_, ?_, rfl⟩
      rw [List.dropLast_concat]
      exact Field.readValue_eq_ok_iff.mpr hspells

theorem Part.Spells.read {part : Part} (h : Part.Spells field text part) :
    Part.read field text = .ok part := by
  cases part with
  | item item => exact Item.Spells.read h
  | alone operator =>
      obtain ⟨hne, rfl⟩ := h
      cases operator with
      | star => simp [Part.read, Operator.text]
      | question => simp [Part.read, Operator.text]
      | hash => exact absurd rfl hne
      | last => simp [Part.read, Operator.text]
      | lastWorkday => simp [Part.read, Operator.text]

theorem Item.read_eq_ok_iff {item : Item} :
    Item.read field text = .ok item ↔ Item.Spells field text item := by
  constructor
  · intro h
    obtain ⟨part, hpart, h⟩ := bind_eq_ok.mp h
    cases part with
    | item read =>
        cases h
        exact Part.spells_of_read hpart
    | alone operator => cases h
  · intro h
    exact bind_eq_ok.mpr ⟨_, h.read, rfl⟩

/-! ### Lists and patterns -/

theorem Item.Spells.comma_not_mem {item : Item} (h : Item.Spells field text item) :
    ',' ∉ text := by
  cases h with
  | value hspells => exact hspells.plain.not_mem (by decide)
  | range hspells => exact hspells.not_mem (by decide) (by decide)
  | series hbase hstride =>
      intro hmem
      rcases List.mem_append.mp hmem with hmem | hmem
      · exact hbase.not_mem (by decide) (by decide) (by decide) hmem
      · rcases List.mem_cons.mp hmem with heq | hmem
        · exact absurd heq (by decide)
        · exact hstride.plain.not_mem (by decide) hmem
  | nthWeekday _ hweekday hcount =>
      exact hweekday.plain.not_mem_append hcount.plain (by decide) (by decide)
  | nearestWorkday _ hspells =>
      exact (hspells.plain.concat (c := 'w') (by decide)).not_mem (by decide)
  | lastWeekday _ hspells =>
      exact (hspells.plain.concat (c := 'l') (by decide)).not_mem (by decide)

/-- Sorting items by kind loses and adds none. -/
theorem Items.mem_toList_ofList {list : List Item} {item : Item} :
    item ∈ (Items.ofList list).toList ↔ item ∈ list := by
  simp only [Items.ofList, Items.toList, List.mem_append, List.mem_map, ValueSet.mem_toList,
    ValueSet.mem_ofList, List.mem_filterMap]
  constructor
  · rintro (⟨_, ⟨other, hmem, h⟩, rfl⟩ | ⟨_, ⟨other, hmem, h⟩, rfl⟩ | ⟨_, ⟨other, hmem, h⟩, rfl⟩ |
      ⟨_, ⟨other, hmem, h⟩, rfl⟩ | ⟨_, ⟨other, hmem, h⟩, rfl⟩ | ⟨_, ⟨other, hmem, h⟩, rfl⟩)
    all_goals
      cases other <;> cases h
      exact hmem
  · intro hmem
    cases item with
    | value v => exact .inl ⟨v, ⟨_, hmem, rfl⟩, rfl⟩
    | range r => exact .inr (.inl ⟨r, ⟨_, hmem, rfl⟩, rfl⟩)
    | series s => exact .inr (.inr (.inl ⟨s, ⟨_, hmem, rfl⟩, rfl⟩))
    | nthWeekday n => exact .inr (.inr (.inr (.inl ⟨n, ⟨_, hmem, rfl⟩, rfl⟩)))
    | nearestWorkday d => exact .inr (.inr (.inr (.inr (.inl ⟨d, ⟨_, hmem, rfl⟩, rfl⟩))))
    | lastWeekday d => exact .inr (.inr (.inr (.inr (.inr ⟨d, ⟨_, hmem, rfl⟩, rfl⟩))))

theorem Items.Spells.ne_nil {list : List Item} (h : Items.Spells field text list) :
    list ≠ [] := by
  cases h with
  | single => exact List.cons_ne_nil _ _
  | cons => exact List.cons_ne_nil _ _

theorem Items.Spells.spells_of_mem {list : List Item} (h : Items.Spells field text list) :
    ∀ item ∈ list, ∃ part, Item.Spells field part item := by
  induction h with
  | single hitem =>
      intro item hmem
      rw [List.mem_singleton.mp hmem]
      exact ⟨_, hitem⟩
  | cons hitem _ ih =>
      intro item hmem
      rcases List.mem_cons.mp hmem with rfl | hmem
      · exact ⟨_, hitem⟩
      · exact ih item hmem

/-- The items of a list pattern: there are some, and each of them is spelled by some text. -/
theorem Items.Spells.spells_of_mem_toList {list : List Item}
    (h : Items.Spells field text list) :
    (ofList list).toList ≠ [] ∧
      ∀ item ∈ (ofList list).toList, ∃ part, Item.Spells field part item := by
  constructor
  · obtain ⟨item, hmem⟩ := List.exists_mem_of_ne_nil _ h.ne_nil
    exact List.ne_nil_of_mem (mem_toList_ofList.mpr hmem)
  · intro item hmem
    exact h.spells_of_mem item (mem_toList_ofList.mp hmem)

theorem Items.spells_intercalate {parts : List (List Char)} {list : List Item}
    (h : List.Forall₂ (Item.Spells field) parts list) (hne : parts ≠ []) :
    Items.Spells field ([','].intercalate parts) list := by
  induction h with
  | nil => exact absurd rfl hne
  | @cons part item parts list hitem hrest ih =>
      cases hrest with
      | nil => simpa using Items.Spells.single hitem
      | cons hnext hmore =>
          have hlist := ih (List.cons_ne_nil _ _)
          rw [List.intercalate_cons_cons, List.append_assoc, List.singleton_append]
          exact .cons hitem hlist

/-- A list is spelled by its items between commas. -/
theorem Items.spells_iff {list : List Item} :
    Items.Spells field text list ↔
      List.Forall₂ (Item.Spells field) (text.splitOn ',') list := by
  constructor
  · intro h
    induction h with
    | single hitem =>
        rw [List.splitOn_eq_singleton hitem.comma_not_mem]
        exact .cons hitem .nil
    | cons hitem _ ih =>
        rw [List.splitOn_append_cons_self_of_not_mem hitem.comma_not_mem]
        exact .cons hitem ih
  · intro h
    have hjoin : [','].intercalate (text.splitOn ',') = text := List.intercalate_splitOn ','
    rw [← hjoin]
    exact Items.spells_intercalate h (List.splitOn_ne_nil _ _)

/-- A field without a comma is one part. -/
theorem Pattern.readLowered_of_alone {operator : Operator}
    (h : Part.read field text = .ok (.alone operator)) :
    Pattern.readLowered field text = Pattern.ofOperator field operator := by
  have hcomma : ',' ∉ text := by
    obtain ⟨-, rfl⟩ := Part.spells_of_read h
    cases operator <;> decide
  unfold Pattern.readLowered
  rw [List.splitOn_eq_singleton hcomma]
  dsimp only
  rw [h]
  rfl

theorem Pattern.spells_of_ofOperator {operator : Operator} {pattern : Pattern}
    (hne : operator ≠ .hash) (h : Pattern.ofOperator field operator = .ok pattern) :
    Pattern.Spells field (operator.text.toList.map Char.toLower) pattern := by
  unfold Pattern.ofOperator at h
  split at h
  · rename_i hfield
    cases operator with
    | star =>
        cases h
        exact .all
    | question =>
        cases h
        exact .omit hfield
    | hash => exact absurd rfl hne
    | last =>
        cases h
        exact .lastDay hfield
    | lastWorkday =>
        cases h
        exact .lastWorkday hfield
  · cases h

theorem Pattern.spells_of_readLowered {pattern : Pattern}
    (h : Pattern.readLowered field text = .ok pattern) : Pattern.Spells field text pattern := by
  unfold Pattern.readLowered at h
  split at h
  · rename_i part hparts
    have hjoin : [','].intercalate (text.splitOn ',') = text := List.intercalate_splitOn ','
    rw [hparts, List.intercalate_singleton] at hjoin
    subst hjoin
    obtain ⟨read, hread, h⟩ := bind_eq_ok.mp h
    cases read with
    | item item =>
        cases h
        exact .items (.single (Part.spells_of_read hread))
    | alone operator =>
        obtain ⟨hne, hsign⟩ := Part.spells_of_read hread
        rw [hsign]
        exact Pattern.spells_of_ofOperator hne h
  · obtain ⟨items, hitems, h⟩ := bind_eq_ok.mp h
    cases h
    refine .items (Items.spells_iff.mpr ?_)
    exact (mapM_eq_ok_iff.mp hitems).imp fun _ _ => Item.read_eq_ok_iff.mp

theorem Items.Spells.readLowered {list : List Item} (h : Items.Spells field text list) :
    Pattern.readLowered field text = .ok (.items (.ofList list)) := by
  have hitems := Items.spells_iff.mp h
  unfold Pattern.readLowered
  split
  · rename_i part hparts
    rw [hparts] at hitems
    cases hitems with
    | cons hitem hrest =>
        cases hrest
        exact bind_eq_ok.mpr ⟨_, hitem.read, rfl⟩
  · refine bind_eq_ok.mpr ⟨list, ?_, rfl⟩
    exact mapM_eq_ok_iff.mpr (hitems.imp fun _ _ => Item.read_eq_ok_iff.mpr)

/-- A field in lower case is read as a pattern exactly if it spells the pattern. -/
theorem Pattern.readLowered_eq_ok_iff {pattern : Pattern} :
    Pattern.readLowered field text = .ok pattern ↔ Pattern.Spells field text pattern := by
  refine ⟨Pattern.spells_of_readLowered, fun h => ?_⟩
  have hsign : ∀ operator : Operator, operator ≠ .hash →
      Pattern.readLowered field (operator.text.toList.map Char.toLower) =
        Pattern.ofOperator field operator :=
    fun operator hne => Pattern.readLowered_of_alone (Part.Spells.read ⟨hne, rfl⟩)
  cases h with
  | all => exact (hsign .star (by decide)).trans (if_pos (Field.mem_all field))
  | «omit» allowed => exact (hsign .question (by decide)).trans (if_pos allowed)
  | lastDay allowed => exact (hsign .last (by decide)).trans (if_pos allowed)
  | lastWorkday allowed => exact (hsign .lastWorkday (by decide)).trans (if_pos allowed)
  -- a list of one item has no comma either, but its part is no sign
  | items hitems => exact hitems.readLowered

end CronSchedule
