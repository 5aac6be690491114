import Mathlib.Data.List.Sort

/-!
# Merging sorted streams with a heap

A heap holds the next row of every stream, with the rest of the stream it came
from.  The least row is taken out and the next one of its stream put in.  From
sorted streams without a common key this yields all rows in order.
-/

namespace CodingLlm
namespace HeapMerge

variable {κ α : Type} [LinearOrder κ]

/-- The next row of a stream, the position of the stream, and its rest. -/
structure Cursor (κ α : Type) where
  key : κ
  ordinal : Nat
  value : α
  rest : List (κ × α)

/-- The rows that a cursor has not yielded. -/
def Cursor.rows (cursor : Cursor κ α) : List (κ × α) :=
  (cursor.key, cursor.value) :: cursor.rest

/-- `heappush`, into a heap kept in order. -/
def push (cursor : Cursor κ α) : List (Cursor κ α) -> List (Cursor κ α)
  | [] => [cursor]
  | first :: others =>
      if cursor.key < first.key ∨
          cursor.key = first.key ∧ cursor.ordinal < first.ordinal then
        cursor :: first :: others
      else first :: push cursor others

/-- Push the next row of a stream, if there is one. -/
def pushNext (ordinal : Nat) :
    List (κ × α) -> List (Cursor κ α) -> List (Cursor κ α)
  | [], heap => heap
  | row :: rest, heap => push ⟨row.1, ordinal, row.2, rest⟩ heap

/-- Pop the least row until the heap is empty, for a number of rows. -/
def drain : Nat -> List (Cursor κ α) -> List (κ × α)
  | 0, _ => []
  | _ + 1, [] => []
  | count + 1, first :: others =>
      (first.key, first.value) ::
        drain count (pushNext first.ordinal first.rest others)

/-- The rows that the cursors of a heap have not yielded. -/
def heapRows (heap : List (Cursor κ α)) : List (κ × α) :=
  heap.flatMap Cursor.rows

/-- The heap with the first row of every stream, from a position on. -/
def open' (ordinal : Nat) : List (List (κ × α)) -> List (Cursor κ α)
  | [] => []
  | stream :: streams => pushNext ordinal stream (open' (ordinal + 1) streams)

/-- All rows of some streams. -/
def merge (streams : List (List (κ × α))) : List (κ × α) :=
  let heap := open' 0 streams
  drain (heapRows heap).length heap

/-! ## The rows of a heap -/

theorem perm_push (cursor : Cursor κ α) (heap : List (Cursor κ α)) :
    (push cursor heap).Perm (cursor :: heap) := by
  induction heap with
  | nil => exact .refl _
  | cons first others inductionHypothesis =>
      unfold push
      split
      · exact .refl _
      · exact (inductionHypothesis.cons first).trans (.swap cursor first others)

theorem perm_heapRows_pushNext
    (ordinal : Nat) (stream : List (κ × α)) (heap : List (Cursor κ α)) :
    (heapRows (pushNext ordinal stream heap)).Perm
      (stream ++ heapRows heap) := by
  cases stream with
  | nil => exact .refl _
  | cons row rest => exact (perm_push _ heap).flatMap_right _

theorem perm_heapRows_open
    (ordinal : Nat) (streams : List (List (κ × α))) :
    (heapRows (open' ordinal streams)).Perm streams.flatten := by
  induction streams generalizing ordinal with
  | nil => exact .refl _
  | cons stream streams inductionHypothesis =>
      apply (perm_heapRows_pushNext ordinal stream _).trans
      exact (inductionHypothesis (ordinal + 1)).append_left stream

/-- A drained heap has yielded its rows. -/
theorem perm_drain {count : Nat} {heap : List (Cursor κ α)}
    (enough : (heapRows heap).length ≤ count) :
    (drain count heap).Perm (heapRows heap) := by
  induction count generalizing heap with
  | zero =>
      rw [List.length_eq_zero_iff.mp (Nat.le_zero.mp enough)]
      exact .refl _
  | succ count inductionHypothesis =>
      cases heap with
      | nil => exact .refl _
      | cons first others =>
          have next := perm_heapRows_pushNext first.ordinal first.rest others
          have whole : heapRows (first :: others) =
              (first.key, first.value) ::
                (first.rest ++ heapRows others) := rfl
          rw [whole, List.length_cons] at enough
          rw [drain, whole]
          apply List.Perm.cons
          apply (inductionHypothesis _).trans next
          rw [next.length_eq]
          exact Nat.le_of_succ_le_succ enough

/-! ## The order of the rows -/

/-- The keys of a heap are in order, and the rows of every cursor. -/
structure Ordered (heap : List (Cursor κ α)) : Prop where
  keys : heap.Pairwise fun first second => first.key ≤ second.key
  streams : ∀ cursor ∈ heap, cursor.rows.Pairwise fun first second =>
    first.1 < second.1

theorem pairwise_push
    (cursor : Cursor κ α) {heap : List (Cursor κ α)}
    (sorted : heap.Pairwise fun first second => first.key ≤ second.key) :
    (push cursor heap).Pairwise fun first second =>
      first.key ≤ second.key := by
  induction heap with
  | nil => exact List.pairwise_singleton _ _
  | cons first others inductionHypothesis =>
      obtain ⟨below, othersSorted⟩ := List.pairwise_cons.mp sorted
      unfold push
      split
      · rename_i before
        have atMost : cursor.key ≤ first.key :=
          before.elim le_of_lt fun same => same.1.le
        refine List.pairwise_cons.mpr ⟨fun other member => ?_, sorted⟩
        rcases List.mem_cons.mp member with rfl | inOthers
        · exact atMost
        · exact atMost.trans (below other inOthers)
      · rename_i notBefore
        have atLeast : first.key ≤ cursor.key :=
          not_lt.mp fun before => notBefore (.inl before)
        refine List.pairwise_cons.mpr ⟨fun other member => ?_,
          inductionHypothesis othersSorted⟩
        rcases List.mem_cons.mp ((perm_push _ _).mem_iff.mp member) with
          rfl | inOthers
        · exact atLeast
        · exact below other inOthers

theorem Ordered.pushNext
    {heap : List (Cursor κ α)} (ordered : Ordered heap) (ordinal : Nat)
    {stream : List (κ × α)}
    (sorted : stream.Pairwise fun first second => first.1 < second.1) :
    Ordered (HeapMerge.pushNext ordinal stream heap) := by
  cases stream with
  | nil => exact ordered
  | cons row rest =>
      refine ⟨pairwise_push _ ordered.keys, fun cursor member => ?_⟩
      rcases List.mem_cons.mp ((perm_push _ _).mem_iff.mp member) with
        rfl | inHeap
      · exact sorted
      · exact ordered.streams cursor inHeap

theorem ordered_open
    (ordinal : Nat) {streams : List (List (κ × α))}
    (sorted : ∀ stream ∈ streams, stream.Pairwise fun first second =>
      first.1 < second.1) : Ordered (open' ordinal streams) := by
  induction streams generalizing ordinal with
  | nil => exact ⟨.nil, fun _ member => absurd member List.not_mem_nil⟩
  | cons stream streams inductionHypothesis =>
      rw [List.forall_mem_cons] at sorted
      exact (inductionHypothesis (ordinal + 1) sorted.2).pushNext ordinal
        sorted.1

/-- No row of an ordered heap lies below its first one. -/
theorem Ordered.first_le
    {first : Cursor κ α} {others : List (Cursor κ α)}
    (ordered : Ordered (first :: others)) {row : κ × α}
    (member : row ∈ heapRows (first :: others)) : first.key ≤ row.1 := by
  obtain ⟨cursor, inHeap, inRows⟩ := List.mem_flatMap.mp member
  have head : first.key ≤ cursor.key := by
    rcases List.mem_cons.mp inHeap with rfl | inOthers
    · exact le_rfl
    · exact (List.pairwise_cons.mp ordered.keys).1 cursor inOthers
  apply head.trans
  rcases List.mem_cons.mp inRows with rfl | inRest
  · exact le_rfl
  · exact ((List.pairwise_cons.mp (ordered.streams cursor inHeap)).1 row
      inRest).le

/-- A heap without equal keys yields its rows in order. -/
theorem pairwise_drain {count : Nat} {heap : List (Cursor κ α)}
    (enough : (heapRows heap).length ≤ count) (ordered : Ordered heap)
    (distinct : ((heapRows heap).map Prod.fst).Nodup) :
    (drain count heap).Pairwise fun first second => first.1 < second.1 := by
  induction count generalizing heap with
  | zero => exact .nil
  | succ count inductionHypothesis =>
      cases heap with
      | nil => exact .nil
      | cons first others =>
          have next := perm_heapRows_pushNext first.ordinal first.rest others
          have whole : heapRows (first :: others) =
              (first.key, first.value) ::
                (first.rest ++ heapRows others) := rfl
          rw [whole, List.map_cons, List.nodup_cons] at distinct
          rw [whole, List.length_cons] at enough
          have smaller : (heapRows (pushNext first.ordinal first.rest
              others)).length ≤ count := by
            rw [next.length_eq]
            exact Nat.le_of_succ_le_succ enough
          have drained := perm_drain smaller
          rw [drain, List.pairwise_cons]
          constructor
          · intro row member
            have inRest := next.mem_iff.mp (drained.mem_iff.mp member)
            refine lt_of_le_of_ne ?_ ?_
            · apply ordered.first_le
              rw [whole]
              exact List.mem_cons_of_mem _ inRest
            · rintro same
              apply distinct.1
              exact List.mem_map.mpr ⟨row, inRest, same.symm⟩
          · apply inductionHypothesis smaller
            · apply Ordered.pushNext
              · exact ⟨(List.pairwise_cons.mp ordered.keys).2,
                  fun cursor member => ordered.streams cursor
                    (List.mem_cons_of_mem _ member)⟩
              · exact (List.pairwise_cons.mp (ordered.streams first
                  (List.mem_cons_self ..))).2
            · exact (next.map Prod.fst).nodup_iff.mpr distinct.2

/-- Sorted streams merge to the sorted list of their rows. -/
theorem merge_eq
    {streams : List (List (κ × α))} {rows : List (κ × α)}
    (sorted : ∀ stream ∈ streams, stream.Pairwise fun first second =>
      first.1 < second.1)
    (rowsSorted : rows.Pairwise fun first second => first.1 < second.1)
    (permuted : streams.flatten.Perm rows) : merge streams = rows := by
  have opened := perm_heapRows_open 0 streams
  have distinct : ((heapRows (open' 0 streams)).map Prod.fst).Nodup := by
    apply ((opened.trans permuted).map Prod.fst).nodup_iff.mpr
    apply List.pairwise_map.mpr
    exact rowsSorted.imp fun below => below.ne
  have drained : (merge streams).Perm rows :=
    ((perm_drain le_rfl).trans opened).trans permuted
  apply drained.eq_of_pairwise _ _ rowsSorted
  · exact fun _ _ _ _ below above => absurd (below.trans above) (lt_irrefl _)
  · exact pairwise_drain le_rfl (ordered_open 0 sorted) distinct

end HeapMerge
end CodingLlm
