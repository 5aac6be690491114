import CodingLlm.Library.Slices
import Mathlib.Data.Multiset.Basic

/-!
# Masked aggregation

Every query of a row is combined with the items that its mask allows.  Where
the masks of some consecutive queries allow only the items of the same stretch
up to the query, the results are those of the stretch alone.
-/

namespace CodingLlm
namespace Masked

open Slices

variable {α β γ : Type}

/-- The items at the positions that a mask allows. -/
def selected (allowed : Nat -> Bool) (items : List α) : List α :=
  (items.zipIdx.filter fun item => allowed item.2).map Prod.fst

/-- Combine every query with the items that its mask allows. -/
def aggregate
    (combine : β -> Multiset α -> γ)
    (allowed : Nat -> Nat -> Bool)
    (queries : List β)
    (items : List α) : List γ :=
  queries.mapIdx fun index query =>
    combine query (selected (allowed index) items)

/-- Each query sees the positions up to its own. -/
def causal (query key : Nat) : Bool := decide (key ≤ query)

@[simp] theorem length_aggregate
    (combine : β -> Multiset α -> γ)
    (allowed : Nat -> Nat -> Bool)
    (queries : List β)
    (items : List α) :
    (aggregate combine allowed queries items).length = queries.length :=
  List.length_mapIdx

theorem filter_zipIdx_none
    {allowed : Nat -> Bool} {items : List α} {first : Nat}
    (refused : ∀ index, first ≤ index -> index < first + items.length ->
      allowed index = false) :
    ((items.zipIdx first).filter fun item => allowed item.2) = [] := by
  rw [List.filter_eq_nil_iff]
  rintro ⟨item, index⟩ member
  obtain ⟨low, high, -⟩ := List.mem_zipIdx member
  simp [refused index low high]

theorem filter_zipIdx_all
    {allowed : Nat -> Bool} {items : List α} {first : Nat}
    (accepted : ∀ index, first ≤ index -> index < first + items.length ->
      allowed index = true) :
    ((items.zipIdx first).filter fun item => allowed item.2).map Prod.fst =
      items := by
  rw [List.filter_eq_self.mpr, List.zipIdx_map_fst]
  rintro ⟨item, index⟩ member
  obtain ⟨low, high, -⟩ := List.mem_zipIdx member
  exact accepted index low high

/-- A mask that allows an interval selects a slice. -/
theorem selected_interval
    {allowed : Nat -> Bool} {items : List α} {start length : Nat}
    (inside : start + length ≤ items.length)
    (interval : ∀ index < items.length,
      allowed index = decide (start ≤ index ∧ index < start + length)) :
    selected allowed items = slice items start length := by
  have split : items = items.take start ++
      (slice items start length ++ items.drop (start + length)) := by
    conv_lhs => rw [← List.take_append_drop start items,
      ← List.take_append_drop length (items.drop start), List.drop_drop]
    rfl
  have sliced := length_slice inside
  have front : (items.take start).length = start :=
    List.length_take_of_le (by omega)
  have back : (items.drop (start + length)).length =
      items.length - (start + length) := List.length_drop
  have before : ((items.take start).zipIdx.filter fun item =>
      allowed item.2) = [] := by
    apply filter_zipIdx_none
    intro index low high
    rw [interval index (by omega)]
    exact decide_eq_false (by omega)
  have middle : (((slice items start length).zipIdx start).filter fun item =>
      allowed item.2).map Prod.fst = slice items start length := by
    apply filter_zipIdx_all
    intro index low high
    rw [interval index (by omega)]
    exact decide_eq_true ⟨by omega, by omega⟩
  have after : (((items.drop (start + length)).zipIdx
      (start + length)).filter fun item => allowed item.2) = [] := by
    apply filter_zipIdx_none
    intro index low high
    rw [interval index (by omega)]
    exact decide_eq_false (by omega)
  unfold selected
  conv_lhs => rw [split]
  rw [List.zipIdx_append, List.zipIdx_append, List.filter_append,
    List.filter_append, before, front, Nat.zero_add, sliced, after,
    List.nil_append, List.append_nil, middle]

/-- A stretch whose queries see only the stretch up to themselves. -/
structure Isolated (allowed : Nat -> Nat -> Bool) (width start length : Nat) :
    Prop where
  inside : start + length ≤ width
  sees : ∀ query < length, ∀ key < width,
    allowed (start + query) key =
      decide (start ≤ key ∧ key < start + (query + 1))

/-- An isolated stretch is aggregated as if it were alone. -/
theorem Isolated.slice_aggregate
    {combine : β -> Multiset α -> γ} {allowed : Nat -> Nat -> Bool}
    {queries : List β} {items : List α} {start length : Nat}
    (isolated : Isolated allowed items.length start length) :
    slice (aggregate combine allowed queries items) start length =
      aggregate combine causal (slice queries start length)
        (slice items start length) := by
  apply List.ext_getElem?
  intro index
  rw [getElem?_slice, aggregate, aggregate, List.getElem?_mapIdx,
    List.getElem?_mapIdx, getElem?_slice]
  by_cases inRange : index < length
  · have sliced := length_slice isolated.inside
    have whole : selected (allowed (start + index)) items =
        slice items start (index + 1) := by
      apply selected_interval
      · have := isolated.inside
        omega
      · exact isolated.sees index inRange
    have alone : selected (causal index) (slice items start length) =
        slice items start (index + 1) := by
      have first : 0 + (index + 1) ≤ (slice items start length).length := by
        omega
      rw [selected_interval first, slice_slice items (by omega), Nat.add_zero]
      intro key keyRange
      rw [causal, decide_eq_decide]
      omega
    rw [if_pos inRange, if_pos inRange, whole, alone]
  · rw [if_neg inRange, if_neg inRange, Option.map_none]

end Masked
end CodingLlm
