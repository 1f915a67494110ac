import Mathlib.Logic.Function.Basic

/-! Tables that change one entry at a time. What is read after an update was
written by it or was there before. -/

set_option autoImplicit false

namespace Foundation

variable {Key Value : Type} [DecidableEq Key]

theorem read_update {table : Key → Value} {key other : Key} {value seen : Value}
    (read : Function.update table key value other = seen) :
    (other = key ∧ value = seen) ∨ (other ≠ key ∧ table other = seen) := by
  by_cases same : other = key
  · subst same
    rw [Function.update_self] at read
    exact .inl ⟨rfl, read⟩
  · rw [Function.update_of_ne same] at read
    exact .inr ⟨same, read⟩

/-! ## Partial tables -/

section Partial

variable {table : Key → Option Value} {key other : Key} {old new entry : Value}

theorem lookup_update (lookup : Function.update table key (some new) other = some entry) :
    (other = key ∧ entry = new) ∨ (other ≠ key ∧ table other = some entry) :=
  (read_update lookup).imp_left fun here => ⟨here.1, (Option.some.inj here.2).symm⟩

/-- A new entry leaves the others as they are. -/
theorem lookup_insert (vacant : table key = none) (found : table other = some entry) :
    Function.update table key (some new) other = some entry := by
  have elsewhere : other ≠ key := by
    rintro rfl
    simp [vacant] at found
  rw [Function.update_of_ne elsewhere, found]

theorem absent_update (found : table key = some old) (absent : table other = none) :
    Function.update table key (some new) other = none := by
  have elsewhere : other ≠ key := by
    rintro rfl
    simp [found] at absent
  rw [Function.update_of_ne elsewhere, absent]

theorem isSome_update (found : table key = some old) (new : Value) (other : Key) :
    (Function.update table key (some new) other).isSome = (table other).isSome := by
  by_cases same : other = key
  · subst same
    simp [found]
  · rw [Function.update_of_ne same]

/-- An entry with a property stays if the update keeps the property. -/
theorem exists_update_of {property : Value → Prop} (found : table key = some old)
    (kept : property old → property new)
    (holds : ∃ entry, table other = some entry ∧ property entry) :
    ∃ entry, Function.update table key (some new) other = some entry ∧ property entry := by
  obtain ⟨entry, lookup, holds⟩ := holds
  by_cases same : other = key
  · subst same
    rw [found] at lookup
    cases lookup
    exact ⟨new, Function.update_self .., kept holds⟩
  · exact ⟨entry, (Function.update_of_ne same ..).trans lookup, holds⟩

theorem exists_update {property : Value → Prop} (found : table key = some old)
    (same : property new ↔ property old) :
    (∃ entry, Function.update table key (some new) other = some entry ∧ property entry) ↔
      ∃ entry, table other = some entry ∧ property entry := by
  constructor
  · rintro ⟨entry, lookup, holds⟩
    rcases lookup_update lookup with ⟨rfl, rfl⟩ | ⟨_, lookup⟩
    · exact ⟨old, found, same.mp holds⟩
    · exact ⟨entry, lookup, holds⟩
  · exact exists_update_of found same.mpr

/-- A new entry without a property is not seen through it. -/
theorem exists_insert {property : Value → Prop} (vacant : table key = none)
    (unmet : ¬ property new) :
    (∃ entry, Function.update table key (some new) other = some entry ∧ property entry) ↔
      ∃ entry, table other = some entry ∧ property entry := by
  constructor
  · rintro ⟨entry, lookup, holds⟩
    rcases lookup_update lookup with ⟨_, rfl⟩ | ⟨_, lookup⟩
    · exact absurd holds unmet
    · exact ⟨entry, lookup, holds⟩
  · rintro ⟨entry, lookup, holds⟩
    exact ⟨entry, lookup_insert vacant lookup, holds⟩

end Partial

end Foundation
