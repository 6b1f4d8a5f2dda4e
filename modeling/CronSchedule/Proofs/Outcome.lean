import Mathlib.Data.List.Forall2

/-!
# Outcomes of a reading

A reader is a chain of smaller readers, each of which may reject its part.  These
lemmas take a chain apart again: `bind_eq_ok` and `bind_eq_error` for two readers in a row,
`mapM_eq_ok_iff` and `mapM_eq_error_iff` for a reader that goes through a list.
-/

namespace CronSchedule.Outcome

variable {ε α β : Type}

/-- A chain of two readers accepts if the first does and the second accepts what
    the first hands on. -/
theorem bind_eq_ok {x : Except ε α} {f : α → Except ε β} {b : β} :
    (x >>= f) = .ok b ↔ ∃ a, x = .ok a ∧ f a = .ok b := by
  cases x with
  | error e => simp [bind, Except.bind]
  | ok a => simp [bind, Except.bind]

theorem map_eq_ok {x : Except ε α} {f : α → β} {b : β} :
    x.map f = .ok b ↔ ∃ a, x = .ok a ∧ f a = b := by
  cases x with
  | error e => simp [Except.map]
  | ok a => simp [Except.map]

/-- A chain of two readers rejects where the first one does, or where the second one rejects
    what the first hands on. -/
theorem bind_eq_error {x : Except ε α} {f : α → Except ε β} {e : ε} :
    (x >>= f) = .error e ↔ x = .error e ∨ ∃ a, x = .ok a ∧ f a = .error e := by
  cases x with
  | error e => simp [bind, Except.bind]
  | ok a => simp [bind, Except.bind]

theorem map_eq_error {x : Except ε α} {f : α → β} {e : ε} :
    x.map f = .error e ↔ x = .error e := by
  cases x with
  | error e => simp [Except.map]
  | ok a => simp [Except.map]

theorem mapError_eq_ok {x : Except ε α} {f : ε → β} {a : α} :
    x.mapError f = .ok a ↔ x = .ok a := by
  cases x with
  | error e => simp [Except.mapError]
  | ok b => simp [Except.mapError]

theorem mapError_eq_error {x : Except ε α} {f : ε → β} {e : β} :
    x.mapError f = .error e ↔ ∃ cause, x = .error cause ∧ f cause = e := by
  cases x with
  | error cause => simp [Except.mapError]
  | ok a => simp [Except.mapError]

/-- Going through a list accepts if every part is accepted, and gives what the
    parts give. -/
theorem mapM_eq_ok_iff {f : α → Except ε β} {list : List α} {results : List β} :
    list.mapM f = .ok results ↔ List.Forall₂ (fun a b => f a = .ok b) list results := by
  induction list generalizing results with
  | nil =>
      rw [List.mapM_nil, List.forall₂_nil_left_iff]
      exact ⟨fun h => (Except.ok.inj h).symm, fun h => h ▸ rfl⟩
  | cons head tail ih =>
      rw [List.mapM_cons, bind_eq_ok]
      constructor
      · rintro ⟨first, hfirst, hrest⟩
        obtain ⟨rest, htail, hresults⟩ := bind_eq_ok.mp hrest
        cases hresults
        exact .cons hfirst (ih.mp htail)
      · intro h
        cases h with
        | cons hfirst htail =>
            exact ⟨_, hfirst, bind_eq_ok.mpr ⟨_, ih.mpr htail, rfl⟩⟩

/-- A list is read as just that which its parts are read as. -/
theorem mem_of_mapM_iff {f : α → Except ε β} {list : List α} {results : List β} {b : β}
    (h : list.mapM f = .ok results) : b ∈ results ↔ ∃ a ∈ list, f a = .ok b := by
  have hall := mapM_eq_ok_iff.mp h
  clear h
  induction hall with
  | nil => simp
  | cons hfirst _ ih =>
      constructor
      · intro hb
        rcases List.mem_cons.mp hb with rfl | hb
        · exact ⟨_, List.mem_cons_self, hfirst⟩
        · obtain ⟨a, ha, hfa⟩ := ih.mp hb
          exact ⟨a, List.mem_cons_of_mem _ ha, hfa⟩
      · rintro ⟨a, ha, hfa⟩
        rcases List.mem_cons.mp ha with rfl | ha
        · rw [hfirst] at hfa
          cases hfa
          exact List.mem_cons_self
        · exact List.mem_cons_of_mem _ (ih.mpr ⟨a, ha, hfa⟩)

theorem exists_mapM_iff {f : α → Except ε β} {list : List α} :
    (∃ results, list.mapM f = .ok results) ↔ ∀ a ∈ list, ∃ b, f a = .ok b := by
  induction list with
  | nil => exact ⟨fun _ a ha => absurd ha List.not_mem_nil, fun _ => ⟨[], rfl⟩⟩
  | cons head tail ih =>
      rw [List.forall_mem_cons, ← ih, List.mapM_cons]
      constructor
      · rintro ⟨results, h⟩
        obtain ⟨first, hfirst, h⟩ := bind_eq_ok.mp h
        obtain ⟨rest, hrest, -⟩ := bind_eq_ok.mp h
        exact ⟨⟨first, hfirst⟩, rest, hrest⟩
      · rintro ⟨⟨first, hfirst⟩, rest, hrest⟩
        exact ⟨first :: rest, bind_eq_ok.mpr ⟨first, hfirst, bind_eq_ok.mpr ⟨rest, hrest, rfl⟩⟩⟩

/-- Going through a list rejects with the cause of the first part that is rejected. -/
theorem mapM_eq_error_iff {f : α → Except ε β} {list : List α} {e : ε} :
    list.mapM f = .error e ↔
      ∃ before part after, list = before ++ part :: after ∧
        (∀ a ∈ before, ∃ b, f a = .ok b) ∧ f part = .error e := by
  induction list with
  | nil =>
      constructor
      · intro h
        cases h
      · rintro ⟨before, part, after, h, -⟩
        exact absurd h.symm (List.append_ne_nil_of_right_ne_nil _ (List.cons_ne_nil _ _))
  | cons head tail ih =>
      rw [List.mapM_cons, bind_eq_error]
      constructor
      · rintro (hhead | ⟨first, hfirst, h⟩)
        · exact ⟨[], head, tail, rfl, fun a ha => absurd ha List.not_mem_nil, hhead⟩
        · rcases bind_eq_error.mp h with htail | ⟨rest, -, hdone⟩
          · obtain ⟨before, part, after, rfl, hbefore, hpart⟩ := ih.mp htail
            exact ⟨head :: before, part, after, rfl,
              List.forall_mem_cons.mpr ⟨⟨first, hfirst⟩, hbefore⟩, hpart⟩
          · cases hdone
      · rintro ⟨before, part, after, hlist, hbefore, hpart⟩
        cases before with
        | nil =>
            cases hlist
            exact .inl hpart
        | cons other before =>
            cases hlist
            obtain ⟨⟨first, hfirst⟩, hbefore⟩ := List.forall_mem_cons.mp hbefore
            have htail := ih.mpr ⟨before, part, after, rfl, hbefore, hpart⟩
            exact .inr ⟨first, hfirst, bind_eq_error.mpr (.inl htail)⟩

end CronSchedule.Outcome
