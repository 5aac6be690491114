import CodingLlm.Pretrain.PackedIsolation
import Mathlib.Algebra.BigOperators.Intervals

/-!
# Packed documents do not interfere

What a model computes for a column of a collated batch depends on the tokens of
its document up to the column, and its loss besides on the label of the column.
The loss of a row is the sum of the losses of its segments alone.
-/

namespace CodingLlm

open Words Slices Masked PackedBatchCollator

/-! ## Segments of a row -/

/-- The starts of the segments of a row. -/
def segmentStarts (width : Nat) (starts : List Byte) : List Nat :=
  (List.range width).filter (bitAt starts)

/-- The number of columns of a segment. -/
def segmentLength (width : Nat) (starts : List Byte) (start : Nat) : Nat :=
  (List.range width).countP fun column =>
    decide (segmentStart starts column = start)

section Segments

variable {starts : List Byte} {width start column : Nat}

theorem segmentLength_succ :
    segmentLength (width + 1) starts start =
      segmentLength width starts start +
        if segmentStart starts width = start then 1 else 0 := by
  rw [segmentLength, List.range_succ, List.countP_append,
    List.countP_singleton]
  simp only [decide_eq_true_eq]
  rfl

/-- The columns of a segment follow its start. -/
theorem segment_columns
    (width : Nat)
    (isStart : segmentStart starts start = start) :
    start + segmentLength width starts start ≤ max start width ∧
      ∀ column < width, segmentStart starts column = start ↔
        start ≤ column ∧
          column < start + segmentLength width starts start := by
  induction width with
  | zero => simp [segmentLength]
  | succ width inductionHypothesis =>
      obtain ⟨bounded, columns⟩ := inductionHypothesis
      rw [segmentLength_succ]
      by_cases inside : segmentStart starts width = start
      · have below : start ≤ width := inside ▸ segmentStart_le ..
        have between : ∀ column, start ≤ column -> column ≤ width ->
            segmentStart starts column = start := fun column after upTo =>
          (segmentStart_of_between (inside.symm ▸ after) upTo).trans inside
        have reached : width ≤ start + segmentLength width starts start := by
          rcases Nat.eq_or_lt_of_le below with rfl | less
          · omega
          · have := (columns (width - 1) (by omega)).mp
              (between _ (by omega) (by omega))
            omega
        rw [if_pos inside]
        refine ⟨by omega, fun column columnRange => ?_⟩
        constructor
        · intro isColumn
          have : start ≤ column := isColumn ▸ segmentStart_le ..
          omega
        · rintro ⟨after, -⟩
          exact between column after (by omega)
      · rw [if_neg inside, Nat.add_zero]
        refine ⟨by omega, fun column columnRange => ?_⟩
        rcases Nat.lt_succ_iff_lt_or_eq.mp columnRange with less | rfl
        · exact columns column less
        · refine iff_of_false inside ?_
          omega

/-- A segment is a stretch. -/
theorem stretch_segment (isStart : segmentStart starts start = start)
    (inRange : start < width) :
    Stretch width starts start (segmentLength width starts start) := by
  obtain ⟨bounded, columns⟩ := segment_columns width isStart
  refine ⟨by omega, fun offset offsetRange => ?_⟩
  exact (columns _ (by omega)).mpr ⟨by omega, by omega⟩

variable {Loss : Type} [AddCommMonoid Loss]

theorem sum_list_range (length : Nat) (value : Nat -> Loss) :
    ((List.range length).map value).sum =
      ∑ index ∈ Finset.range length, value index := by
  rw [Finset.sum_eq_multiset_sum, Finset.range_val, Multiset.range,
    Multiset.map_coe, Multiset.sum_coe]

/-- A sum over the columns of a row is a sum over its segments. -/
theorem sum_segments (first : bitAt starts 0 = true) (value : Nat -> Loss) :
    ((List.range width).map value).sum =
      ((segmentStarts width starts).map fun start =>
        ((List.range (segmentLength width starts start)).map fun offset =>
          value (start + offset)).sum).sum := by
  have segment : ∀ start ∈ (Finset.range width).filter
      (fun column => bitAt starts column = true),
      (∑ column ∈ (Finset.range width).filter
        (fun column => segmentStart starts column = start), value column) =
      ((List.range (segmentLength width starts start)).map fun offset =>
        value (start + offset)).sum := by
    intro start member
    rw [Finset.mem_filter, Finset.mem_range] at member
    have isStart := segmentStart_of_bitAt member.2
    obtain ⟨bounded, columns⟩ := segment_columns width isStart
    have interval : (Finset.range width).filter
        (fun column => segmentStart starts column = start) =
        Finset.Ico start (start + segmentLength width starts start) := by
      ext column
      rw [Finset.mem_filter, Finset.mem_range, Finset.mem_Ico]
      constructor
      · rintro ⟨inRange, isColumn⟩
        exact (columns column inRange).mp isColumn
      · rintro ⟨after, before⟩
        have inRange : column < width := by omega
        exact ⟨inRange, (columns column inRange).mpr ⟨after, before⟩⟩
    rw [interval, Finset.sum_Ico_eq_sum_range, Nat.add_sub_cancel_left,
      sum_list_range]
  have starts_eq : ((segmentStarts width starts).map fun start =>
      ((List.range (segmentLength width starts start)).map fun offset =>
        value (start + offset)).sum).sum =
      ∑ start ∈ (Finset.range width).filter
        (fun column => bitAt starts column = true),
        ((List.range (segmentLength width starts start)).map fun offset =>
          value (start + offset)).sum := by
    rw [Finset.sum_eq_multiset_sum, Finset.filter_val, Finset.range_val,
      Multiset.range, Multiset.filter_coe, Multiset.map_coe,
      Multiset.sum_coe, segmentStarts]
    simp
  rw [starts_eq, ← Finset.sum_congr rfl segment, sum_list_range,
    Finset.sum_fiberwise_of_maps_to]
  intro column inRange
  rw [Finset.mem_range] at inRange
  have := segmentStart_le starts column
  rw [Finset.mem_filter, Finset.mem_range]
  exact ⟨by omega, bitAt_segmentStart first⟩

end Segments

/-! ## Losses of a row -/

section Losses

variable {Hidden Query Key Value Attended Logits Loss : Type}
variable {width start length column : Nat} {starts : List Byte}
variable {hidden : List Hidden} {labels : List Int}

theorem sum_slice [AddCommMonoid Loss]
    {items : List Loss} (inside : start + length ≤ items.length) :
    (slice items start length).sum = ((List.range length).map fun offset =>
      items.getD (start + offset) 0).sum := by
  congr 1
  apply List.ext_getElem?
  intro index
  rw [getElem?_slice, List.getElem?_map]
  by_cases inRange : index < length
  · rw [if_pos inRange, List.getElem?_range inRange, Option.map_some,
      List.getD_eq_getElem?_getD, List.getElem?_eq_getElem (by omega)]
    rfl
  · rw [if_neg inRange, List.getElem?_eq_none (by simpa using inRange)]
    rfl

/-- The losses of a row are those of its segments. -/
theorem sum_slice_segments [AddCommMonoid Loss]
    {items : List Loss} (length : items.length = width)
    (first : bitAt starts 0 = true) :
    items.sum = ((segmentStarts width starts).map fun start =>
      (slice items start (segmentLength width starts start)).sum).sum := by
  have whole : items = (List.range width).map fun column =>
      items.getD column 0 := by
    apply List.ext_getElem (by simp [length])
    intro index inItems _
    simp [List.getD_eq_getElem?_getD, inItems]
  conv_lhs => rw [whole]
  rw [sum_segments first]
  congr 1
  apply List.map_congr_left
  intro start member
  rw [segmentStarts, List.mem_filter, List.mem_range] at member
  have stretch := stretch_segment (segmentStart_of_bitAt member.2) member.1
  rw [sum_slice (length.symm ▸ stretch.inside)]

variable (model : CausalLM Hidden Query Key Value Attended Logits Loss)

theorem slice_tokenLosses [Zero Loss] :
    slice (model.tokenLosses hidden labels) start length =
      model.tokenLosses (slice hidden start length)
        (slice labels start length) := by
  rw [CausalLM.tokenLosses, slice_zipWith, slice_map]
  rfl

/-- Chunks of columns add up to the whole row. -/
theorem chunkedLossSums_eq [AddCommMonoid Loss]
    {hidden : List (List Hidden)} {labels : List (List Int)}
    (widths : ∀ (batch : Nat) states targets,
      hidden[batch]? = some states -> labels[batch]? = some targets ->
        states.length = width ∧ targets.length = width) :
    model.chunkedLossSums width hidden labels =
      model.lossSums hidden labels := by
  apply List.ext_getElem?
  intro batch
  simp only [CausalLM.chunkedLossSums, CausalLM.lossSums,
    List.getElem?_zipWith]
  cases isHidden : hidden[batch]? with
  | none => rfl
  | some states =>
      cases isLabels : labels[batch]? with
      | none => rfl
      | some targets =>
          obtain ⟨statesWidth, targetsWidth⟩ :=
            widths batch states targets isHidden isLabels
          have lossesWidth : (model.tokenLosses states targets).length =
              width := by
            simp [CausalLM.tokenLosses, statesWidth, targetsWidth]
          simp only [CausalLM.chunkOf, ← slice_tokenLosses]
          have whole := flatMap_slice_chunks
            (model.tokenLosses states targets) model.config.chunkPositive
          rw [lossesWidth] at whole
          have summed := congrArg List.sum whole
          rw [List.flatMap_def, List.sum_flatten, List.map_map] at summed
          exact congrArg some summed

end Losses

/-! ## Evaluations of collated batches -/

/-- What a successful call of the collator returns. -/
theorem PackedBatchCollator.call_ok
    {collator : PackedBatchCollator} {rows : List SampleRow} {batch : Batch}
    (collated : collator.call rows = .ok batch) :
    batch = PackedBatchCollator.batch collator.sequenceLength rows ∧
      ∀ row ∈ rows, row.tokens.length = collator.sequenceLength + 1 ∧
        bitAt row.starts 0 = true := by
  simp only [PackedBatchCollator.call, require_then_eq_ok,
    checked_pure_eq_ok] at collated
  obtain ⟨-, -, -, widths, -, -, -, firsts, -, rfl⟩ := collated
  refine ⟨rfl, fun row member => ⟨widths row member, ?_⟩⟩
  have first := firsts row member
  rwa [List.getD_eq_getElem?_getD, getElem?_flags (Nat.zero_le _)] at first

/-- A forward pass on a collated batch with its labels. -/
structure Evaluation
    {Hidden Query Key Value Attended Logits Loss : Type}
    [Add Hidden] [DivisionRing Loss]
    (model : CausalLM Hidden Query Key Value Attended Logits Loss) where
  mode : ExecutionMode
  collator : PackedBatchCollator
  rows : List SampleRow
  batch : Batch
  returnLogits : Option Bool
  hidden : List (List Hidden)
  output : CausalLMOutput Logits Loss
  collated : collator.call rows = .ok batch
  states : model.hiddenStates mode batch.inputIds batch.positionIds
    batch.documentIds = .ok hidden
  forwarded : model.forward mode batch.inputIds batch.positionIds
    batch.documentIds (some batch.labels) returnLogits = .ok output

/-- The tokens of the segment of a column, up to the column. -/
def segmentTokens (row : SampleRow) (column : Nat) : List Nat :=
  slice row.tokens (segmentStart row.starts column)
    (column + 1 - segmentStart row.starts column)

section Evaluations

variable {Hidden Query Key Value Attended Logits Loss : Type}
variable [Add Hidden] [DivisionRing Loss]
variable {model : CausalLM Hidden Query Key Value Attended Logits Loss}

namespace Evaluation

/-- The number of columns. -/
def width (evaluation : Evaluation model) : Nat :=
  evaluation.collator.sequenceLength

/-- The hidden state of a column. -/
def hiddenAt (evaluation : Evaluation model) (batch column : Nat) :
    Option Hidden :=
  evaluation.hidden[batch]?.bind fun states => states[column]?

/-- The logits of a column. -/
def logitsAt (evaluation : Evaluation model) (batch column : Nat) :
    Option Logits :=
  (model.logits evaluation.hidden)[batch]?.bind fun logits => logits[column]?

/-- The label of a column. -/
def labelAt (evaluation : Evaluation model) (batch column : Nat) :
    Option Int :=
  evaluation.batch.labels[batch]?.bind fun labels => labels[column]?

/-- The loss of a column. -/
def lossAt (evaluation : Evaluation model) (batch column : Nat) :
    Option Loss :=
  evaluation.hidden[batch]?.bind fun states =>
    evaluation.batch.labels[batch]?.bind fun labels =>
      (model.tokenLosses states labels)[column]?

theorem logitsAt_eq (evaluation : Evaluation model) (batch column : Nat) :
    evaluation.logitsAt batch column =
      (evaluation.hiddenAt batch column).map model.lmHead := by
  rw [logitsAt, hiddenAt, CausalLM.logits, List.getElem?_map]
  cases evaluation.hidden[batch]? with
  | none => rfl
  | some states => exact List.getElem?_map

theorem lossAt_eq (evaluation : Evaluation model) (batch column : Nat) :
    evaluation.lossAt batch column =
      (evaluation.hiddenAt batch column).bind fun state =>
        (evaluation.labelAt batch column).map fun label =>
          model.tokenLoss (model.lmHead state) label := by
  rw [lossAt, hiddenAt, labelAt]
  cases evaluation.hidden[batch]? with
  | none => rfl
  | some states =>
      cases evaluation.batch.labels[batch]? with
      | none => simp
      | some labels =>
          simp only [CausalLM.tokenLosses, Option.bind_some,
            List.getElem?_zipWith, List.getElem?_map]
          cases states[column]? <;> cases labels[column]? <;> rfl

variable (evaluation : Evaluation model) {batch : Nat} {row : SampleRow}

/-- The states of a row are those of its stretches alone. -/
theorem slice_states (isRow : evaluation.rows[batch]? = some row) :
    ∃ rowStates, evaluation.hidden[batch]? = some rowStates ∧
      rowStates.length = evaluation.width ∧
      ∀ start length,
        Stretch evaluation.width row.starts start length ->
          slice rowStates start length =
            model.aloneStates (slice row.tokens start length) := by
  obtain ⟨isBatch, valid⟩ := call_ok evaluation.collated
  have states := evaluation.states
  rw [isBatch] at states
  exact slice_hiddenStates model states isRow
    (valid row (List.mem_of_getElem? isRow)).1

/-- The hidden state of a column is that of its segment up to it. -/
theorem hiddenAt_eq (isRow : evaluation.rows[batch]? = some row)
    {column : Nat} (inRange : column < evaluation.width) :
    evaluation.hiddenAt batch column =
      (model.aloneStates (segmentTokens row column))[
        column - segmentStart row.starts column]? := by
  obtain ⟨rowStates, isStates, -, alone⟩ := evaluation.slice_states isRow
  have below := segmentStart_le row.starts column
  rw [segmentTokens, ← alone _ _ (stretch_segmentStart inRange),
    getElem?_slice, if_pos (by omega), hiddenAt, isStates, Option.bind_some]
  congr 1
  omega

theorem length_labels (isRow : evaluation.rows[batch]? = some row) :
    (labels evaluation.width row).length = evaluation.width := by
  have tokens := ((call_ok evaluation.collated).2 row
    (List.mem_of_getElem? isRow)).1
  simp [labels, flags, unpackBits, tokens, width]

theorem row_of_labels {targets : List Int}
    (isTargets : evaluation.batch.labels[batch]? = some targets) :
    ∃ row, evaluation.rows[batch]? = some row ∧
      labels evaluation.width row = targets := by
  rw [(call_ok evaluation.collated).1] at isTargets
  simp only [PackedBatchCollator.batch, List.getElem?_map,
    Option.map_eq_some_iff] at isTargets
  exact isTargets

/-- The width that the model reads off is that of the collator. -/
theorem width_eq (nonempty : evaluation.batch.inputIds ≠ []) :
    (evaluation.batch.inputIds.headD []).length = evaluation.width := by
  obtain ⟨isBatch, valid⟩ := call_ok evaluation.collated
  rw [isBatch] at nonempty ⊢
  simp only [PackedBatchCollator.batch] at nonempty ⊢
  cases isRows : evaluation.rows with
  | nil => simp [isRows] at nonempty
  | cons row rest =>
      have tokens := (valid row (by rw [isRows]; simp)).1
      simp [inputIds, tokens, width]

/-- The outputs are the logits and the loss of every row. -/
theorem output_eq :
    (∀ logits ∈ evaluation.output.logits,
      logits = model.logits evaluation.hidden) ∧
    evaluation.output.lossSumsPerRow =
      some (model.lossSums evaluation.hidden evaluation.batch.labels) := by
  have forwarded := evaluation.forwarded
  simp only [CausalLM.forward, require_then_eq_ok, evaluation.states,
    checked_ok_bind, CausalLM.losses, checked_pure_eq_ok] at forwarded
  obtain ⟨⟨nonempty, -⟩, -, -, -, -, -, isOutput⟩ := forwarded
  rw [← isOutput]
  constructor
  · intro logits isLogits
    simp only at isLogits
    split at isLogits
    · exact (Option.some.inj isLogits).symm
    · cases isLogits
  · simp only [Option.some.injEq]
    split
    · rfl
    · apply chunkedLossSums_eq
      intro index states targets isStates isTargets
      obtain ⟨row, isRow, isLabels⟩ := evaluation.row_of_labels isTargets
      obtain ⟨rowStates, isRowStates, length, -⟩ :=
        evaluation.slice_states isRow
      rw [evaluation.width_eq nonempty]
      rw [isStates] at isRowStates
      obtain rfl := Option.some.inj isRowStates
      exact ⟨length, isLabels ▸ evaluation.length_labels isRow⟩

/-- The loss of a row is that of its segments alone. -/
theorem lossSum_eq (isRow : evaluation.rows[batch]? = some row) :
    (model.lossSums evaluation.hidden evaluation.batch.labels)[batch]? =
      some ((segmentStarts evaluation.width row.starts).map fun start =>
        let length := segmentLength evaluation.width row.starts start
        (model.tokenLosses
          (model.aloneStates (slice row.tokens start length))
          (slice (labels evaluation.width row) start length)).sum).sum := by
  obtain ⟨isBatch, valid⟩ := call_ok evaluation.collated
  obtain ⟨rowStates, isStates, length, alone⟩ := evaluation.slice_states isRow
  have first := (valid row (List.mem_of_getElem? isRow)).2
  have isLabels : evaluation.batch.labels[batch]? =
      some (labels evaluation.width row) := by
    rw [isBatch]
    simp only [PackedBatchCollator.batch, List.getElem?_map, isRow]
    rfl
  have lossesLength : (model.tokenLosses rowStates
      (labels evaluation.width row)).length = evaluation.width := by
    rw [CausalLM.tokenLosses, List.length_zipWith, List.length_map, length,
      evaluation.length_labels isRow, min_self]
  rw [CausalLM.lossSums, List.getElem?_zipWith, isStates, isLabels]
  simp only [Option.some.injEq]
  rw [sum_slice_segments lossesLength first]
  congr 1
  apply List.map_congr_left
  intro start member
  rw [segmentStarts, List.mem_filter, List.mem_range] at member
  have stretch := stretch_segment (segmentStart_of_bitAt member.2) member.1
  rw [slice_tokenLosses, alone start _ stretch]

end Evaluation

/-- Packed documents do not interfere.  Of two evaluations of a model, columns
with the same tokens of their segments so far have the same hidden state and
logits, and with the same label the same loss.  The loss of a row is the sum
of the losses of its segments evaluated alone with positions from zero.  Both
masks select the same pairs. -/
theorem packed_documents_isolated
    (model : CausalLM Hidden Query Key Value Attended Logits Loss) :
    (∀ (first second : Evaluation model) (batch other : Nat)
        (row otherRow : SampleRow) (column otherColumn : Nat),
      first.rows[batch]? = some row -> column < first.width ->
      second.rows[other]? = some otherRow -> otherColumn < second.width ->
      segmentTokens row column = segmentTokens otherRow otherColumn ->
        first.hiddenAt batch column = second.hiddenAt other otherColumn ∧
        first.logitsAt batch column = second.logitsAt other otherColumn ∧
        (first.labelAt batch column = second.labelAt other otherColumn ->
          first.lossAt batch column = second.lossAt other otherColumn)) ∧
    (∀ (evaluation : Evaluation model) (batch : Nat) (row : SampleRow),
      evaluation.rows[batch]? = some row ->
      ∃ alone : Nat -> List Hidden,
        (∀ start,
          let length := segmentLength evaluation.width row.starts start
          start ∈ segmentStarts evaluation.width row.starts ->
          model.hiddenStates evaluation.mode
              [slice row.tokens start length] [freshPositions length]
              [List.replicate length 0] = .ok [alone start] ∧
            evaluation.hidden[batch]?.map (slice · start length) =
              some (alone start)) ∧
        (evaluation.output.lossSumsPerRow.bind fun sums => sums[batch]?) =
          some ((segmentStarts evaluation.width row.starts).map fun start =>
            let length := segmentLength evaluation.width row.starts start
            (model.tokenLosses (alone start)
              (slice (labels evaluation.width row) start length)).sum).sum) ∧
    (∀ (documentIds : List (List Int)) (batch : Nat) (ids : List Int)
        (head query key : Nat),
      documentIds[batch]? = some ids ->
      query < ids.length -> key < ids.length ->
        denseAllows (denseDocumentCausalMask documentIds) batch query key =
          documentCausalMask documentIds batch head query key) := by
  refine ⟨?_, ?_, ?_⟩
  · intro first second batch other row otherRow column otherColumn isRow
      inRange isOther otherRange same
    have below := segmentStart_le row.starts column
    have otherBelow := segmentStart_le otherRow.starts otherColumn
    have offsets : column - segmentStart row.starts column =
        otherColumn - segmentStart otherRow.starts otherColumn := by
      have lengths := congrArg List.length same
      have tokens := (call_ok first.collated).2 row
        (List.mem_of_getElem? isRow)
      have otherTokens := (call_ok second.collated).2 otherRow
        (List.mem_of_getElem? isOther)
      rw [Evaluation.width] at inRange otherRange
      rw [segmentTokens, segmentTokens, length_slice (by omega),
        length_slice (by omega)] at lengths
      omega
    have states : first.hiddenAt batch column =
        second.hiddenAt other otherColumn := by
      rw [first.hiddenAt_eq isRow inRange,
        second.hiddenAt_eq isOther otherRange, same, offsets]
    refine ⟨states, ?_, fun label => ?_⟩
    · rw [Evaluation.logitsAt_eq, Evaluation.logitsAt_eq, states]
    · rw [Evaluation.lossAt_eq, Evaluation.lossAt_eq, states, label]
  · intro evaluation batch row isRow
    have runs := runs_of_hiddenStates model evaluation.states
    have tokens := (call_ok evaluation.collated).2 row
      (List.mem_of_getElem? isRow)
    obtain ⟨rowStates, isStates, length, sliced⟩ :=
      evaluation.slice_states isRow
    refine ⟨fun start => model.aloneStates (slice row.tokens start
      (segmentLength evaluation.width row.starts start)), ?_, ?_⟩
    · intro start length member
      rw [segmentStarts, List.mem_filter, List.mem_range] at member
      have stretch := stretch_segment (segmentStart_of_bitAt member.2)
        member.1
      have inside := stretch.inside
      have width : (slice row.tokens start length).length = length := by
        apply length_slice
        rw [tokens.1]
        exact inside.trans (Nat.le_succ _)
      refine ⟨?_, ?_⟩
      · have alone := hiddenStates_alone model runs
          (slice row.tokens start length)
        rwa [width] at alone
      · rw [isStates, Option.map_some, sliced start _ stretch]
    · rw [evaluation.output_eq.2, Option.bind_some,
        evaluation.lossSum_eq isRow]
  · intro documentIds batch ids head query key isRow queryRange keyRange
    exact denseAllows_eq isRow queryRange keyRange head

end Evaluations

/-! ## A small model -/

/-- A model whose states are numbers, with one layer that adds up what a column
attends to, and whose loss is the distance of a label from the state. -/
def smallModel : CausalLM Nat Nat Nat Nat Nat Nat ℚ where
  config := ⟨8, .auto, 1, Nat.one_pos⟩
  tokEmbeddings := id
  layers := [{
    attention := ⟨id, id, id, fun _ query => query, fun _ key => key,
      fun query pairs => query + (pairs.map Prod.snd).sum, id⟩
    feedForward := id
    attentionNorm := id
    ffnNorm := id }]
  norm := id
  lmHead := id
  crossEntropy := fun logits label => (label : ℚ) - logits

/-- A row of three tokens in one segment. -/
def smallSample (tokens : List Nat) : SampleRow :=
  ⟨⟨tokens, [1], 0⟩, 0, 0⟩

/-- The model on one of these rows. -/
def firstEvaluation : Evaluation smallModel where
  mode := ⟨false, false⟩
  collator := ⟨2, none, none⟩
  rows := [smallSample [1, 2, 3]]
  batch := PackedBatchCollator.batch 2 [smallSample [1, 2, 3]]
  returnLogits := none
  hidden := _
  output := _
  collated := rfl
  states := rfl
  forwarded := rfl

/-- The model on a row with another token in the second column. -/
def secondEvaluation : Evaluation smallModel where
  mode := ⟨false, false⟩
  collator := ⟨2, none, none⟩
  rows := [smallSample [1, 3, 3]]
  batch := PackedBatchCollator.batch 2 [smallSample [1, 3, 3]]
  returnLogits := none
  hidden := _
  output := _
  collated := rfl
  states := rfl
  forwarded := rfl

/-- The loss of a column also depends on the token after it: these rows have
the same token in the first column, which has another loss in each. -/
theorem next_token_changes_loss :
    segmentTokens (smallSample [1, 2, 3]) 0 =
        segmentTokens (smallSample [1, 3, 3]) 0 ∧
      firstEvaluation.rows[0]? = some (smallSample [1, 2, 3]) ∧
      secondEvaluation.rows[0]? = some (smallSample [1, 3, 3]) ∧
      firstEvaluation.lossAt 0 0 ≠ secondEvaluation.lossAt 0 0 := by
  refine ⟨rfl, rfl, rfl, ?_⟩
  have first : firstEvaluation.lossAt 0 0 =
      some (((2 : Int) : ℚ) - (6 : Nat)) := rfl
  have second : secondEvaluation.lossAt 0 0 =
      some (((3 : Int) : ℚ) - (6 : Nat)) := rfl
  rw [first, second]
  norm_num

theorem packed_documents_isolated_small :
    firstEvaluation.hiddenAt 0 0 = secondEvaluation.hiddenAt 0 0 :=
  ((packed_documents_isolated smallModel).1 firstEvaluation secondEvaluation
    0 0 _ _ 0 0 rfl (by decide) rfl (by decide) rfl).1

end CodingLlm
