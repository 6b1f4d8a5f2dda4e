/-!
# Sets of values

The single values that a field names, each once and in ascending order.  Two
sets are equal as soon as they have the same members, `ValueSet.ext_of_mem`, so
the order in which values are put in leaves no trace.
-/

namespace CronSchedule

/-- A finite set of numbers. -/
structure ValueSet where
  /-- The members in ascending order. -/
  toList : List Nat
  ascending : toList.Pairwise (· < ·)
deriving DecidableEq, Repr

/-- Put a number into an ascending list, unless it is there. -/
def insertAscending (value : Nat) : List Nat → List Nat
  | [] => [value]
  | head :: tail =>
      if value < head then value :: head :: tail
      else if value = head then head :: tail
      else head :: insertAscending value tail

theorem mem_insertAscending {value other : Nat} {list : List Nat} :
    other ∈ insertAscending value list ↔ other = value ∨ other ∈ list := by
  induction list with
  | nil => simp [insertAscending]
  | cons head tail ih =>
      simp only [insertAscending]
      split
      · simp
      · split
        · rename_i heq
          simp [heq]
        · simp only [List.mem_cons, ih]
          constructor
          · rintro (h | h | h) <;> simp [h]
          · rintro (h | h | h) <;> simp [h]

theorem pairwise_insertAscending {value : Nat} {list : List Nat}
    (h : list.Pairwise (· < ·)) : (insertAscending value list).Pairwise (· < ·) := by
  induction list with
  | nil => simp [insertAscending]
  | cons head tail ih =>
      have ⟨hhead, htail⟩ := List.pairwise_cons.mp h
      simp only [insertAscending]
      split
      · rename_i hlt
        refine List.pairwise_cons.mpr ⟨fun other hother => ?_, h⟩
        rcases List.mem_cons.mp hother with rfl | hmem
        · exact hlt
        · exact Nat.lt_trans hlt (hhead other hmem)
      · split
        · exact h
        · refine List.pairwise_cons.mpr ⟨fun other hother => ?_, ih htail⟩
          rcases mem_insertAscending.mp hother with rfl | hmem
          · omega
          · exact hhead other hmem

namespace ValueSet

instance : Membership Nat ValueSet := ⟨fun set value => value ∈ set.toList⟩

theorem mem_toList {set : ValueSet} {value : Nat} : value ∈ set.toList ↔ value ∈ set :=
  Iff.rfl

/-- Sets are compared like their lists of members. -/
instance : Ord ValueSet := ⟨fun a b => compare a.toList b.toList⟩

/-- The set without members. -/
def empty : ValueSet := ⟨[], .nil⟩

/-- The set with one more member. -/
def insert (set : ValueSet) (value : Nat) : ValueSet :=
  ⟨insertAscending value set.toList, pairwise_insertAscending set.ascending⟩

/-- The set of the numbers of a list. -/
def ofList (values : List Nat) : ValueSet :=
  values.foldr (fun value set => set.insert value) empty

theorem mem_insert {set : ValueSet} {value other : Nat} :
    other ∈ set.insert value ↔ other = value ∨ other ∈ set :=
  mem_insertAscending

theorem mem_ofList {values : List Nat} {value : Nat} : value ∈ ofList values ↔ value ∈ values := by
  induction values with
  | nil => simp [ofList, empty, ← mem_toList]
  | cons head tail ih =>
      show value ∈ (ofList tail).insert head ↔ _
      rw [mem_insert, ih, List.mem_cons]

/-- A set is determined by its members. -/
theorem ext_of_mem {a b : ValueSet} (h : ∀ value, value ∈ a ↔ value ∈ b) : a = b := by
  have hlists : a.toList = b.toList :=
    List.Perm.eq_of_pairwise (fun x y _ _ hxy hyx => absurd hxy (Nat.lt_asymm hyx))
      a.ascending b.ascending
      ((List.perm_ext_iff_of_nodup (a.ascending.imp (fun h => Nat.ne_of_lt h))
        (b.ascending.imp (fun h => Nat.ne_of_lt h))).mpr h)
  cases a
  cases b
  simp_all

/-- A set is the set of its members. -/
theorem ofList_toList (set : ValueSet) : ofList set.toList = set :=
  ext_of_mem fun _ => mem_ofList

end ValueSet

end CronSchedule
