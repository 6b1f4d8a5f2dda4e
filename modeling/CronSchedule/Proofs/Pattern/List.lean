import CronSchedule.Proofs.Pattern.Acceptance
import CronSchedule.Proofs.Text.Case
import CronSchedule.Proofs.Text.Words

/-!
# Lists of items

A list is read part by part, and a part is read in a list as it is alone, with two exceptions.
A sign that is a pattern when it stands alone has no place beside other items.  And a question
mark is out of place in a list even where it has no meaning at all, so that the two readings
reject it for different causes.  `Part.IsLone` tells the exceptions from the rule.
-/

namespace CronSchedule

open Outcome

/-! ### Items put together -/

namespace Items

/-- The items of several lists: all their values, and their other items kind by kind, in
    order. -/
def concat (lists : List Items) : Items where
  values := .ofList (lists.flatMap fun items => items.values.toList)
  ranges := lists.flatMap ranges
  series := lists.flatMap series
  nthWeekdays := lists.flatMap nthWeekdays
  nearestWorkdays := lists.flatMap nearestWorkdays
  lastWeekdays := lists.flatMap lastWeekdays

theorem mem_values_concat {lists : List Items} {value : Nat} :
    value ∈ (concat lists).values ↔ ∃ items ∈ lists, value ∈ items.values := by
  simp only [concat, ValueSet.mem_ofList, List.mem_flatMap, ValueSet.mem_toList]

theorem flatMap_filterMap_singleton {α : Type} (pick : Item → Option α) (list : List Item) :
    list.flatMap (fun item => [item].filterMap pick) = list.filterMap pick := by
  induction list with
  | nil => rfl
  | cons item rest ih => rw [List.flatMap_cons, ih, ← List.filterMap_append, List.singleton_append]

/-- Items that are sorted one by one and put together are sorted. -/
theorem concat_map_singleton (list : List Item) :
    concat (list.map fun item => ofList [item]) = ofList list := by
  have hvalues : (concat (list.map fun item => ofList [item])).values = (ofList list).values := by
    apply ValueSet.ext_of_mem
    intro value
    rw [mem_values_concat, (collects_ofList list).values]
    constructor
    · rintro ⟨items, hitems, hvalue⟩
      obtain ⟨item, hitem, rfl⟩ := List.mem_map.mp hitems
      rw [(collects_ofList [item]).values, List.mem_singleton] at hvalue
      rw [hvalue]
      exact hitem
    · intro hvalue
      refine ⟨_, List.mem_map_of_mem hvalue, ?_⟩
      rw [(collects_ofList _).values]
      exact List.mem_singleton_self _
  have hother : ∀ {α : Type} (pick : Item → Option α) (kind : Items → List α),
      (∀ list, kind (ofList list) = list.filterMap pick) →
        (list.map fun item => ofList [item]).flatMap kind = kind (ofList list) := by
    intro α pick kind hkind
    rw [List.flatMap_map, hkind, ← flatMap_filterMap_singleton pick]
    exact congrArg (list.flatMap ·) (funext fun item => hkind [item])
  have hranges := hother _ ranges fun _ => rfl
  have hseries := hother _ series fun _ => rfl
  have hnth := hother _ nthWeekdays fun _ => rfl
  have hnearest := hother _ nearestWorkdays fun _ => rfl
  have hlast := hother _ lastWeekdays fun _ => rfl
  rw [concat] at hvalues ⊢
  rw [hranges, hseries, hnth, hnearest, hlast]
  exact congrArg (fun values => { ofList list with values }) hvalues

end Items

/-! ### Texts of parts -/

/-- The text can be a part of a list: it has no comma and no blank, and ASCII characters
    only. -/
def IsListPart (text : List Char) : Prop :=
  ∀ c ∈ text, c.toNat < 128 ∧ isBlank c = false ∧ c ≠ ','

instance (text : List Char) : Decidable (IsListPart text) :=
  List.decidableBAll _ text

variable {field : Field} {part : List Char} {parts : List (List Char)}

theorem IsListPart.comma_not_mem (h : IsListPart part) : ',' ∉ part.map Char.toLower := by
  intro hmem
  obtain ⟨c, hc, hlower⟩ := List.mem_map.mp hmem
  have hsame := toLower_invariant (f := fun c => decide (c = ',')) (by decide) c
  exact (h c hc).2.2 ((decide_eq_decide.mp hsame).mp hlower)

/-- A text without blanks and with ASCII characters only is lowered character by character. -/
theorem loweredText_eq_map {text : List Char} (hascii : ∀ c ∈ text, c.toNat < 128)
    (hblank : ∀ c ∈ text, isBlank c = false) : loweredText text = text.map Char.toLower := by
  rw [loweredText, trim_eq_of_not_blank hblank, lowercase_of_ascii hascii]

theorem loweredText_intercalate (h : ∀ part ∈ parts, IsListPart part) :
    loweredText ([','].intercalate parts) =
      [','].intercalate (parts.map (List.map Char.toLower)) := by
  rw [loweredText_eq_map, map_intercalate]
  · rfl
  · exact forall_mem_intercalate (by decide) fun part hpart c hc => (h part hpart c hc).1
  · exact forall_mem_intercalate (by decide) fun part hpart c hc => (h part hpart c hc).2.1

theorem splitOn_loweredText_intercalate (h : ∀ part ∈ parts, IsListPart part) (hne : parts ≠ []) :
    (loweredText ([','].intercalate parts)).splitOn ',' = parts.map (List.map Char.toLower) := by
  rw [loweredText_intercalate h]
  apply List.splitOn_intercalate
  · intro lowered hlowered
    obtain ⟨part, hpart, rfl⟩ := List.mem_map.mp hlowered
    exact (h part hpart).comma_not_mem
  · exact fun hnil => hne (List.map_eq_nil_iff.mp hnil)

/-! ### A part, alone and in a list -/

/-- Read a part alone. -/
theorem IsListPart.read_eq (h : IsListPart part) :
    Pattern.read field part = (do
      match ← Part.read field (part.map Char.toLower) with
      | .item item => .ok (.items (.ofList [item]))
      | .alone operator => Pattern.ofOperator field operator) := by
  have hlowered : loweredText part = part.map Char.toLower :=
    loweredText_eq_map (fun c hc => (h c hc).1) (fun c hc => (h c hc).2.1)
  have hsplit : (part.map Char.toLower).splitOn ',' = [part.map Char.toLower] :=
    List.splitOn_eq_singleton h.comma_not_mem
  show Pattern.readLowered field (loweredText part) = _
  rw [hlowered]
  unfold Pattern.readLowered
  split
  · rename_i only honly
    rw [hsplit] at honly
    cases honly
    rfl
  · rename_i hmany
    exact absurd hsplit (hmany _)

theorem Pattern.ofOperator_ne_items {operator : Operator} {items : Items} :
    Pattern.ofOperator field operator ≠ .ok (.items items) := by
  unfold Pattern.ofOperator
  cases operator <;> split <;> nofun

/-- Read an item of a list, in capital or small letters. -/
def Item.readPart (field : Field) (part : List Char) : Except Cause Item :=
  Item.read field (part.map Char.toLower)

theorem IsListPart.read_eq_items_iff (h : IsListPart part) {items : Items} :
    Pattern.read field part = .ok (.items items) ↔
      ∃ item, Item.readPart field part = .ok item ∧ items = .ofList [item] := by
  rw [h.read_eq, Item.readPart, Item.read]
  cases Part.read field (part.map Char.toLower) with
  | error cause => exact ⟨nofun, nofun⟩
  | ok read =>
      cases read with
      | item item =>
          constructor
          · intro hitems
            cases hitems
            exact ⟨item, rfl, rfl⟩
          · rintro ⟨_, hitem, rfl⟩
            cases hitem
            rfl
      | alone operator => exact ⟨fun hitems => absurd hitems Pattern.ofOperator_ne_items, nofun⟩

/-- The part is a sign that has to stand alone: a star or a question mark, or an `L` or `LW` in
    a field that accepts it alone. -/
def Part.IsLone (field : Field) (part : List Char) (operator : Operator) : Prop :=
  part.map Char.toUpper = operator.text.toList ∧
    (operator = .star ∨ operator = .question ∨
      (operator = .last ∨ operator = .lastWorkday) ∧
        ∃ pattern, Pattern.read field part = .ok pattern)

theorem Operator.map_toUpper_eq_text_iff {operator : Operator} :
    part.map Char.toUpper = operator.text.toList ↔
      part.map Char.toLower = operator.text.toList.map Char.toLower := by
  constructor
  · intro h
    rw [← h, List.map_map]
    exact List.map_congr_left fun c _ => (toUpper_invariant (f := Char.toLower) (by decide) c).symm
  · intro h
    have hcapital : (operator.text.toList.map Char.toLower).map Char.toUpper =
        operator.text.toList := by
      cases operator <;> decide
    rw [← hcapital, ← h, List.map_map]
    exact List.map_congr_left fun c _ => (toLower_invariant (f := Char.toUpper) (by decide) c).symm

theorem Pattern.exists_ofOperator_iff {operator : Operator} (hne : operator ≠ .hash) :
    (∃ pattern, Pattern.ofOperator field operator = .ok pattern) ↔ field ∈ operator.fields := by
  constructor
  · rintro ⟨pattern, hpattern⟩
    by_contra hfield
    have hrejected : Pattern.ofOperator field operator = .error _ := if_neg hfield
    cases hrejected.symm.trans hpattern
  · intro hfield
    cases operator with
    | star => exact ⟨.all, if_pos hfield⟩
    | question => exact ⟨.omit, if_pos hfield⟩
    | hash => exact absurd rfl hne
    | last => exact ⟨.lastDay, if_pos hfield⟩
    | lastWorkday => exact ⟨.lastWorkday, if_pos hfield⟩

theorem IsListPart.isLone_iff (h : IsListPart part) {operator : Operator} :
    Part.IsLone field part operator ↔
      Part.read field (part.map Char.toLower) = .ok (.alone operator) ∧
        (operator = .question ∨ field ∈ operator.fields) := by
  constructor
  · rintro ⟨htext, hsign⟩
    have hne : operator ≠ .hash := by
      rintro rfl
      rcases hsign with hsign | hsign | ⟨hsign | hsign, -⟩ <;> cases hsign
    have hread : Part.read field (part.map Char.toLower) = .ok (.alone operator) :=
      Part.Spells.read ⟨hne, Operator.map_toUpper_eq_text_iff.mp htext⟩
    refine ⟨hread, ?_⟩
    rcases hsign with rfl | rfl | ⟨-, hpattern⟩
    · exact .inr (Field.mem_all field)
    · exact .inl rfl
    · rw [h.read_eq, hread] at hpattern
      exact .inr ((Pattern.exists_ofOperator_iff hne).mp hpattern)
  · rintro ⟨hread, hfield⟩
    obtain ⟨hne, hlower⟩ := Part.spells_of_read hread
    refine ⟨Operator.map_toUpper_eq_text_iff.mpr hlower, ?_⟩
    rw [h.read_eq, hread]
    have hknown : operator ≠ .question → ∃ pattern, Pattern.ofOperator field operator = .ok pattern :=
      fun hquestion => (Pattern.exists_ofOperator_iff hne).mpr (hfield.resolve_left hquestion)
    cases operator with
    | star => exact .inl rfl
    | question => exact .inr (.inl rfl)
    | hash => exact absurd rfl hne
    | last => exact .inr (.inr ⟨.inl rfl, hknown nofun⟩)
    | lastWorkday => exact .inr (.inr ⟨.inr rfl, hknown nofun⟩)

/-- Why a part that is no item alone may not be in a list: it is a sign that has to stand alone,
    or it is rejected alone for the same cause. -/
theorem IsListPart.readPart_eq_error (h : IsListPart part)
    (hno : ∀ items, Pattern.read field part ≠ .ok (.items items)) :
    (∃ operator, Part.IsLone field part operator ∧
      Item.readPart field part = .error (.notAlone operator field)) ∨
    (∀ operator, ¬ Part.IsLone field part operator) ∧
      ∃ cause, Pattern.read field part = .error cause ∧
        Item.readPart field part = .error cause := by
  simp only [h.isLone_iff, h.read_eq, Item.readPart, Item.read] at hno ⊢
  generalize Part.read field (part.map Char.toLower) = outcome at hno ⊢
  cases outcome with
  | error cause =>
      refine .inr ⟨?_, cause, rfl, rfl⟩
      rintro operator ⟨hsign, -⟩
      cases hsign
  | ok read =>
      cases read with
      | item item => exact absurd rfl (hno (.ofList [item]))
      | alone operator =>
          by_cases hfield : operator = .question ∨ field ∈ operator.fields
          · refine .inl ⟨operator, ⟨rfl, hfield⟩, ?_⟩
            exact congrArg Except.error (if_pos hfield)
          · refine .inr ⟨?_, .operatorNotAllowed operator field, ?_, ?_⟩
            · rintro other ⟨hsame, hother⟩
              cases hsame
              exact hfield hother
            · exact if_neg fun hmem => hfield (.inr hmem)
            · exact congrArg Except.error (if_neg hfield)

/-! ### Lists -/

theorem Pattern.readLowered_of_splitOn (field : Field) {text first second : List Char}
    {rest : List (List Char)} (h : text.splitOn ',' = first :: second :: rest) :
    Pattern.readLowered field text =
      ((first :: second :: rest).mapM (Item.read field)).map fun list =>
        .items (.ofList list) := by
  unfold Pattern.readLowered
  rw [h]
  dsimp only
  cases (first :: second :: rest).mapM (Item.read field) <;> rfl

/-- A list is read part by part. -/
theorem Pattern.read_intercalate (h : ∀ part ∈ parts, IsListPart part)
    (hlength : 2 ≤ parts.length) :
    Pattern.read field ([','].intercalate parts) =
      (parts.mapM (Item.readPart field)).map fun list => .items (.ofList list) := by
  match parts, hlength with
  | first :: second :: rest, _ =>
      have hsplit := splitOn_loweredText_intercalate h (List.cons_ne_nil _ _)
      have hread := Pattern.readLowered_of_splitOn field hsplit
      rw [← List.map_cons, ← List.map_cons, List.mapM_map] at hread
      exact hread

/-- A list is accepted if each of its parts, alone, is a list of one. -/
theorem Pattern.exists_read_intercalate_iff (h : ∀ part ∈ parts, IsListPart part)
    (hlength : 2 ≤ parts.length) :
    (∃ pattern, Pattern.read field ([','].intercalate parts) = .ok pattern) ↔
      ∀ part ∈ parts, ∃ items, Pattern.read field part = .ok (.items items) := by
  have hitems : (∃ pattern, Pattern.read field ([','].intercalate parts) = .ok pattern) ↔
      ∃ list, parts.mapM (Item.readPart field) = .ok list := by
    rw [Pattern.read_intercalate h hlength]
    constructor
    · rintro ⟨pattern, hread⟩
      obtain ⟨list, hlist, -⟩ := map_eq_ok.mp hread
      exact ⟨list, hlist⟩
    · rintro ⟨list, hlist⟩
      exact ⟨_, map_eq_ok.mpr ⟨list, hlist, rfl⟩⟩
  rw [hitems, exists_mapM_iff]
  constructor
  · intro hall part hpart
    obtain ⟨item, hitem⟩ := hall part hpart
    exact ⟨_, (h part hpart).read_eq_items_iff.mpr ⟨item, hitem, rfl⟩⟩
  · intro hall part hpart
    obtain ⟨items, hread⟩ := hall part hpart
    obtain ⟨item, hitem, -⟩ := (h part hpart).read_eq_items_iff.mp hread
    exact ⟨item, hitem⟩

theorem Pattern.read_intercalate_eq_concat (h : ∀ part ∈ parts, IsListPart part)
    (hlength : 2 ≤ parts.length) {lists : List Items}
    (hlists : List.Forall₂ (fun part items => Pattern.read field part = .ok (.items items))
      parts lists) :
    Pattern.read field ([','].intercalate parts) = .ok (.items (.concat lists)) := by
  have hlist : ∃ list, List.Forall₂ (fun part item => Item.readPart field part = .ok item) parts
      list ∧ lists = list.map fun item => .ofList [item] := by
    clear hlength
    induction hlists with
    | nil => exact ⟨[], .nil, rfl⟩
    | cons hpart _ ih =>
        obtain ⟨hfirst, hrest⟩ := List.forall_mem_cons.mp h
        obtain ⟨item, hitem, rfl⟩ := hfirst.read_eq_items_iff.mp hpart
        obtain ⟨list, hlist, rfl⟩ := ih hrest
        exact ⟨item :: list, .cons hitem hlist, rfl⟩
  obtain ⟨list, hlist, rfl⟩ := hlist
  rw [Pattern.read_intercalate h hlength, mapM_eq_ok_iff.mpr hlist, Items.concat_map_singleton]
  rfl

/-- A list is rejected at its first part that is no item alone. -/
theorem Pattern.read_intercalate_eq_error (h : ∀ part ∈ parts, IsListPart part)
    (hlength : 2 ≤ parts.length) {before after : List (List Char)}
    (hparts : parts = before ++ part :: after)
    (hbefore : ∀ other ∈ before, ∃ items, Pattern.read field other = .ok (.items items))
    {cause : Cause} (hcause : Item.readPart field part = .error cause) :
    Pattern.read field ([','].intercalate parts) = .error cause := by
  rw [Pattern.read_intercalate h hlength, map_eq_error, mapM_eq_error_iff]
  refine ⟨before, part, after, hparts, ?_, hcause⟩
  intro other hother
  obtain ⟨items, hitems⟩ := hbefore other hother
  have hmem : other ∈ parts := hparts ▸ List.mem_append_left _ hother
  obtain ⟨item, hitem, -⟩ := (h other hmem).read_eq_items_iff.mp hitems
  exact ⟨item, hitem⟩

end CronSchedule
