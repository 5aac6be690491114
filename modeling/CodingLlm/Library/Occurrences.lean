import Mathlib.Data.List.Basic

/-!
# First and last occurrences

Where a label occurs first and last in a list, how both change when the list
grows by one label, and what they are for a label that fills an interval.
-/

namespace CodingLlm

variable {α : Type*}

/-- The label occurs at the offset, and nowhere before. -/
def OccursFirst (labels : List α) (label : α) (offset : Nat) : Prop :=
  labels[offset]? = some label ∧
    ∀ earlier < offset, labels[earlier]? ≠ some label

/-- The label occurs at the offset, and nowhere after. -/
def OccursLast (labels : List α) (label : α) (offset : Nat) : Prop :=
  labels[offset]? = some label ∧
    ∀ later > offset, labels[later]? ≠ some label

section Growing

variable {labels : List α} {label added : α} {offset : Nat}

theorem getElem?_concat_eq_some :
    (labels ++ [added])[offset]? = some label ↔
      labels[offset]? = some label ∨
        offset = labels.length ∧ added = label := by
  rw [List.getElem?_append]
  split
  · rename_i inside
    constructor
    · exact .inl
    · rintro (there | ⟨atEnd, -⟩)
      · exact there
      · omega
  · rename_i beyond
    rw [List.getElem?_eq_none (by omega : labels.length ≤ offset)]
    by_cases atEnd : offset = labels.length
    · simp [atEnd]
    · rw [List.getElem?_eq_none (by simp; omega)]
      simp [atEnd]

/-- A first occurrence stays one. -/
theorem OccursFirst.concat (first : OccursFirst labels label offset)
    (added : α) : OccursFirst (labels ++ [added]) label offset := by
  have inside := (List.getElem?_eq_some_iff.mp first.1).1
  refine ⟨getElem?_concat_eq_some.mpr (.inl first.1), ?_⟩
  intro earlier before there
  rcases getElem?_concat_eq_some.mp there with there | ⟨atEnd, -⟩
  · exact first.2 earlier before there
  · omega

/-- A new label occurs first at the end. -/
theorem occursFirst_concat_self (fresh : label ∉ labels) :
    OccursFirst (labels ++ [label]) label labels.length := by
  refine ⟨getElem?_concat_eq_some.mpr (.inr ⟨rfl, rfl⟩), ?_⟩
  intro earlier before there
  rcases getElem?_concat_eq_some.mp there with there | ⟨atEnd, -⟩
  · exact fresh (List.mem_of_getElem? there)
  · omega

/-- A last occurrence stays one under another label. -/
theorem OccursLast.concat (last : OccursLast labels label offset)
    (other : added ≠ label) :
    OccursLast (labels ++ [added]) label offset := by
  refine ⟨getElem?_concat_eq_some.mpr (.inl last.1), ?_⟩
  intro later after there
  rcases getElem?_concat_eq_some.mp there with there | ⟨-, same⟩
  · exact last.2 later after there
  · exact other same

/-- The label at the end occurs last there. -/
theorem occursLast_concat_self :
    OccursLast (labels ++ [label]) label labels.length := by
  refine ⟨getElem?_concat_eq_some.mpr (.inr ⟨rfl, rfl⟩), ?_⟩
  intro later after there
  have inside := (List.getElem?_eq_some_iff.mp there).1
  rw [List.length_append, List.length_singleton] at inside
  omega

end Growing

section Filling

variable {labels : List α} {label : α} {start stop offset : Nat}

/-- A label that fills an interval occurs first where the interval starts. -/
theorem OccursFirst.eq_start
    (first : OccursFirst labels label offset)
    (fills : ∀ offset, labels[offset]? = some label ↔
      start ≤ offset ∧ offset < stop) : offset = start := by
  obtain ⟨after, inside⟩ := (fills offset).mp first.1
  by_contra other
  exact first.2 start (by omega) ((fills start).mpr ⟨Nat.le_refl _, by omega⟩)

/-- And it occurs last right before the interval stops. -/
theorem OccursLast.eq_stop
    (last : OccursLast labels label offset)
    (fills : ∀ offset, labels[offset]? = some label ↔
      start ≤ offset ∧ offset < stop) : offset + 1 = stop := by
  obtain ⟨after, inside⟩ := (fills offset).mp last.1
  by_contra other
  exact last.2 (offset + 1) (by omega)
    ((fills (offset + 1)).mpr ⟨by omega, by omega⟩)

end Filling

end CodingLlm
