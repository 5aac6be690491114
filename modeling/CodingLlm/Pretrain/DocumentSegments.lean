import CodingLlm.Pretrain.PackedBatchCollator

/-!
# Segments of packed rows

The document ids of a collated row are equal exactly within a segment, and its
positions count from the start of each.
-/

namespace CodingLlm

open Words Slices

/-! ## Segments -/

/-- The last start at or before a column; the first column is one. -/
def segmentStart (starts : List Byte) : Nat -> Nat
  | 0 => 0
  | column + 1 =>
      if bitAt starts (column + 1) then column + 1
      else segmentStart starts column

/-- Starts at or before a column. -/
def startsUpTo (starts : List Byte) (column : Nat) : Nat :=
  (List.range (column + 1)).countP (bitAt starts)

section Segments

variable {starts : List Byte} {column key : Nat}

@[simp] theorem segmentStart_zero (starts : List Byte) :
    segmentStart starts 0 = 0 := rfl

theorem segmentStart_le (starts : List Byte) (column : Nat) :
    segmentStart starts column ≤ column := by
  induction column with
  | zero => exact le_rfl
  | succ column inductionHypothesis =>
      rw [segmentStart]
      split <;> omega

/-- A segment starts at a start. -/
theorem bitAt_segmentStart (first : bitAt starts 0 = true) :
    bitAt starts (segmentStart starts column) = true := by
  induction column with
  | zero => exact first
  | succ column inductionHypothesis =>
      rw [segmentStart]
      split
      · assumption
      · exact inductionHypothesis

/-- Columns of one segment have its start. -/
theorem segmentStart_of_between
    (after : segmentStart starts column ≤ key) (upTo : key ≤ column) :
    segmentStart starts key = segmentStart starts column := by
  induction column with
  | zero =>
      obtain rfl := Nat.le_zero.mp upTo
      rfl
  | succ column inductionHypothesis =>
      rcases Nat.le_succ_iff.mp upTo with before | rfl
      · rw [segmentStart] at after ⊢
        split at after
        · omega
        · rename_i isInside
          rw [if_neg isInside]
          exact inductionHypothesis after before
      · rfl

/-- A start is the start of its segment. -/
theorem segmentStart_of_bitAt (isStart : bitAt starts column = true) :
    segmentStart starts column = column := by
  cases column with
  | zero => rfl
  | succ column => rw [segmentStart, if_pos isStart]

theorem startsUpTo_succ :
    startsUpTo starts (column + 1) =
      startsUpTo starts column +
        if bitAt starts (column + 1) then 1 else 0 := by
  rw [startsUpTo, List.range_succ, List.countP_append, List.countP_singleton]
  rfl

theorem startsUpTo_mono (upTo : key ≤ column) :
    startsUpTo starts key ≤ startsUpTo starts column := by
  induction column with
  | zero =>
      obtain rfl := Nat.le_zero.mp upTo
      exact le_rfl
  | succ column inductionHypothesis =>
      rcases Nat.le_succ_iff.mp upTo with before | rfl
      · rw [startsUpTo_succ]
        exact (inductionHypothesis before).trans (Nat.le_add_right _ _)
      · exact le_rfl

/-- As many starts were seen exactly within one segment. -/
theorem startsUpTo_eq_iff (upTo : key ≤ column) :
    startsUpTo starts column = startsUpTo starts key ↔
      segmentStart starts column ≤ key := by
  induction column with
  | zero =>
      obtain rfl := Nat.le_zero.mp upTo
      simp
  | succ column inductionHypothesis =>
      rcases Nat.le_succ_iff.mp upTo with before | rfl
      · rw [startsUpTo_succ, segmentStart]
        have below : startsUpTo starts key ≤ startsUpTo starts column :=
          startsUpTo_mono before
        split
        · omega
        · rw [Nat.add_zero]
          exact inductionHypothesis before
      · simp [segmentStart_le]

end Segments

namespace PackedBatchCollator

section Columns

variable {sequenceLength : Nat} {row : SampleRow} {column key : Nat}

/-! ## Running totals -/

theorem getElem?_accumulate_zero
    (combine : Int -> Int -> Int) (values : List Int) :
    (accumulate combine values)[0]? = values[0]?.map (combine 0) := by
  rw [accumulate, List.getElem?_tail, List.getElem?_succ_scanl]
  cases values <;> simp

theorem getElem?_accumulate_succ
    (combine : Int -> Int -> Int) (values : List Int) (index : Nat) :
    (accumulate combine values)[index + 1]? =
      (accumulate combine values)[index]?.bind fun total =>
        values[index + 1]?.map (combine total) := by
  rw [accumulate, List.getElem?_tail, List.getElem?_succ_scanl,
    List.getElem?_tail]

theorem getElem?_inputStarts (inRange : column < sequenceLength) :
    ((flags sequenceLength row).take sequenceLength)[column]? =
      some (bitAt row.starts column) := by
  rw [List.getElem?_take, if_pos inRange, getElem?_flags (by omega)]

/-! ## Positions and document ids -/

/-- The last start of a column. -/
theorem getElem?_lastStart (inRange : column < sequenceLength) :
    (accumulate max (List.zipWith
        (fun start index => if start then index else (0 : Int))
        ((flags sequenceLength row).take sequenceLength)
        ((List.range sequenceLength).map Int.ofNat)))[column]? =
      some (segmentStart row.starts column : Int) := by
  have value : ∀ index < sequenceLength,
      (List.zipWith (fun start index => if start then index else (0 : Int))
        ((flags sequenceLength row).take sequenceLength)
        ((List.range sequenceLength).map Int.ofNat))[index]? =
      some (if bitAt row.starts index then (index : Int) else 0) := by
    intro index indexRange
    rw [List.getElem?_zipWith, getElem?_inputStarts indexRange,
      List.getElem?_map, List.getElem?_range indexRange]
    rfl
  induction column with
  | zero =>
      rw [getElem?_accumulate_zero, value 0 inRange, Option.map_some]
      simp
  | succ column inductionHypothesis =>
      rw [getElem?_accumulate_succ, inductionHypothesis (by omega),
        value (column + 1) inRange, Option.bind_some, Option.map_some,
        segmentStart]
      have below := segmentStart_le row.starts column
      split
      · rw [max_eq_right]
        omega
      · rw [max_eq_left]
        omega

/-- Positions count from the start of the segment. -/
theorem getElem?_positionIds (inRange : column < sequenceLength) :
    (positionIds sequenceLength row)[column]? =
      some ((column - segmentStart row.starts column : Nat) : Int) := by
  have below := segmentStart_le row.starts column
  simp only [positionIds]
  rw [List.getElem?_zipWith, getElem?_lastStart inRange, List.getElem?_map,
    List.getElem?_range inRange]
  simp only [Option.map_some, Int.ofNat_eq_natCast]
  rw [Nat.cast_sub below]

/-- Document ids count the starts so far. -/
theorem getElem?_documentIds (inRange : column < sequenceLength) :
    (documentIds sequenceLength row)[column]? =
      some ((startsUpTo row.starts column : Int) - 1) := by
  have value : ∀ index < sequenceLength,
      (((flags sequenceLength row).take sequenceLength).map fun start =>
        if start then (1 : Int) else 0)[index]? =
      some (if bitAt row.starts index then 1 else 0) := by
    intro index indexRange
    rw [List.getElem?_map, getElem?_inputStarts indexRange]
    rfl
  have total : (accumulate (· + ·)
      (((flags sequenceLength row).take sequenceLength).map fun start =>
        if start then (1 : Int) else 0))[column]? =
      some (startsUpTo row.starts column : Int) := by
    induction column with
    | zero =>
        rw [getElem?_accumulate_zero, value 0 inRange, Option.map_some,
          startsUpTo, Nat.zero_add, List.range_one, List.countP_singleton]
        cases bitAt row.starts 0 <;> rfl
    | succ column inductionHypothesis =>
        rw [getElem?_accumulate_succ, inductionHypothesis (by omega),
          value (column + 1) inRange, Option.bind_some, Option.map_some,
          startsUpTo_succ]
        cases bitAt row.starts (column + 1) <;> simp
  simp only [documentIds]
  rw [List.getElem?_map, total]
  rfl

theorem length_positionIds :
    (positionIds sequenceLength row).length = sequenceLength := by
  simp [positionIds, accumulate, flags, unpackBits]

theorem length_documentIds :
    (documentIds sequenceLength row).length = sequenceLength := by
  simp [documentIds, accumulate, flags, unpackBits]

end Columns

end PackedBatchCollator
end CodingLlm
