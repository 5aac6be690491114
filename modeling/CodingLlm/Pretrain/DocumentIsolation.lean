import CodingLlm.Pretrain.CausalLM
import CodingLlm.Pretrain.DocumentSegments

/-!
# Isolation of packed documents

The forward pass works on every row alone, and on every segment of a row as if
the segment were alone: the masks of both backends allow a column the columns
of its segment up to itself, and positions restart with the segment.
-/

namespace CodingLlm

open Words Slices Masked PackedBatchCollator

/-! ## Rows -/

section Rows

variable {Hidden Query Key Value Attended : Type} [Add Hidden]
variable {mode : ExecutionMode} {backend : AttentionBackend}
variable {masks : AttentionMasks} {allowed : Nat -> Nat -> Nat -> Bool}
variable {positions : List (List Int)}

/-- A block on one row. -/
def TransformerBlock.row
    (block : TransformerBlock Hidden Query Key Value Attended)
    (allowed : Nat -> Nat -> Bool)
    (positions : List Int)
    (x : List Hidden) : List Hidden :=
  let x := List.zipWith (· + ·) x
    (block.attention.row allowed positions (x.map block.attentionNorm))
  List.zipWith (· + ·) x
    (x.map fun column => block.feedForward (block.ffnNorm column))

/-- The blocks of a model on one row. -/
def layersRow
    (layers : List (TransformerBlock Hidden Query Key Value Attended))
    (allowed : Nat -> Nat -> Bool)
    (positions : List Int)
    (x : List Hidden) : List Hidden :=
  layers.foldl (fun x layer => layer.row allowed positions x) x

/-- A function of every row, its positions and its number. -/
def eachRow
    (positions : List (List Int))
    (x : List (List Hidden))
    (function : Nat -> List Int -> List Hidden -> List Hidden) :
    List (List Hidden) :=
  (positions.zip x).mapIdx fun batch row => function batch row.1 row.2

omit [Add Hidden] in
theorem getElem?_eachRow
    {x : List (List Hidden)}
    {function : Nat -> List Int -> List Hidden -> List Hidden}
    (batch : Nat) :
    (eachRow positions x function)[batch]? =
      positions[batch]?.bind fun positions => x[batch]?.map fun row =>
        function batch positions row := by
  rw [eachRow, List.getElem?_mapIdx, List.zip_eq_zipWith,
    List.getElem?_zipWith]
  cases positions[batch]? <;> cases x[batch]? <;> rfl

omit [Add Hidden] in
/-- Functions of rows compose. -/
theorem eachRow_eachRow
    {x : List (List Hidden)}
    {first second : Nat -> List Int -> List Hidden -> List Hidden} :
    eachRow positions (eachRow positions x first) second =
      eachRow positions x fun batch positions row =>
        second batch positions (first batch positions row) := by
  apply List.ext_getElem?
  intro batch
  rw [getElem?_eachRow, getElem?_eachRow, getElem?_eachRow]
  cases positions[batch]? <;> cases x[batch]? <;> rfl

/-- A block works on every row. -/
theorem TransformerBlock.forward_eq
    (block : TransformerBlock Hidden Query Key Value Attended)
    {x : List (List Hidden)}
    (runs : CausalSelfAttention.allowedPairs mode backend masks =
      .ok allowed)
    (sameRows : positions.length = x.length) :
    block.forward mode backend masks positions x =
      .ok (eachRow positions x fun batch positions row =>
        block.row (allowed batch) positions row) := by
  have attended : block.attention.forward mode backend masks positions
      (x.map fun row => row.map block.attentionNorm) =
        .ok (eachRow positions x fun batch positions row =>
          block.attention.row (allowed batch) positions
            (row.map block.attentionNorm)) := by
    unfold CausalSelfAttention.forward
    rw [runs, checked_ok_bind]
    apply congrArg Except.ok
    apply List.ext_getElem?
    intro batch
    rw [getElem?_eachRow, List.getElem?_mapIdx, List.zip_eq_zipWith,
      List.getElem?_zipWith, List.getElem?_map]
    cases positions[batch]? <;> cases x[batch]? <;> rfl
  unfold TransformerBlock.forward
  rw [attended, checked_ok_bind]
  apply congrArg Except.ok
  apply List.ext_getElem?
  intro batch
  simp only [addRows, getElem?_eachRow, List.getElem?_zipWith,
    List.getElem?_map, TransformerBlock.row]
  cases isRow : x[batch]? with
  | none => cases positions[batch]? <;> rfl
  | some row =>
      have inRange : batch < positions.length := by
        rw [sameRows]
        exact (List.getElem?_eq_some_iff.mp isRow).1
      rw [List.getElem?_eq_getElem inRange]
      rfl

omit [Add Hidden] in
theorem length_eachRow
    {x : List (List Hidden)}
    {function : Nat -> List Int -> List Hidden -> List Hidden}
    (sameRows : positions.length = x.length) :
    (eachRow positions x function).length = x.length := by
  rw [eachRow, List.length_mapIdx, List.length_zip, sameRows, min_self]

omit [Add Hidden] in
theorem eachRow_id
    {x : List (List Hidden)}
    (sameRows : positions.length = x.length) :
    eachRow positions x (fun _ _ row => row) = x := by
  apply List.ext_getElem?
  intro batch
  rw [getElem?_eachRow]
  cases isRow : x[batch]? with
  | none => cases positions[batch]? <;> rfl
  | some row =>
      have inRange : batch < positions.length := by
        rw [sameRows]
        exact (List.getElem?_eq_some_iff.mp isRow).1
      rw [List.getElem?_eq_getElem inRange]
      rfl

/-- The blocks of a model work on every row. -/
theorem foldlM_forward_eq
    (layers : List (TransformerBlock Hidden Query Key Value Attended))
    {x : List (List Hidden)}
    (runs : CausalSelfAttention.allowedPairs mode backend masks =
      .ok allowed)
    (sameRows : positions.length = x.length) :
    layers.foldlM (fun x layer =>
        layer.forward mode backend masks positions x) x =
      .ok (eachRow positions x fun batch positions row =>
        layersRow layers (allowed batch) positions row) := by
  induction layers generalizing x with
  | nil => exact congrArg Except.ok (eachRow_id sameRows).symm
  | cons layer layers inductionHypothesis =>
      rw [List.foldlM_cons, layer.forward_eq runs sameRows, checked_ok_bind,
        inductionHypothesis (by rw [length_eachRow sameRows, sameRows]),
        eachRow_eachRow]
      rfl

end Rows

/-! ## Stretches of a row -/

section Stretches

variable {Hidden Query Key Value Attended : Type}
variable {allowed : Nat -> Nat -> Bool} {positions : List Int}
variable {x : List Hidden} {start length : Nat}

theorem slice_zipWith
    {α β γ : Type}
    (combine : α -> β -> γ)
    (first : List α)
    (second : List β)
    (start length : Nat) :
    slice (List.zipWith combine first second) start length =
      List.zipWith combine (slice first start length)
        (slice second start length) := by
  rw [slice, slice, slice, List.drop_zipWith, List.take_zipWith]

theorem length_attentionRow
    (attention : CausalSelfAttention Hidden Query Key Value Attended)
    (sameLength : positions.length = x.length) :
    (attention.row allowed positions x).length = x.length := by
  simp [CausalSelfAttention.row, sameLength]

/-- Attention on an isolated stretch is attention on the stretch alone. -/
theorem slice_attentionRow
    (attention : CausalSelfAttention Hidden Query Key Value Attended)
    (sameLength : positions.length = x.length)
    (isolated : Isolated allowed x.length start length) :
    slice (attention.row allowed positions x) start length =
      attention.row causal (slice positions start length)
        (slice x start length) := by
  have items : ((List.zipWith attention.ropeKey positions
      (x.map attention.kProj)).zip (x.map attention.vProj)).length =
        x.length := by
    simp [sameLength]
  rw [← items] at isolated
  simp only [CausalSelfAttention.row]
  rw [slice_map, isolated.slice_aggregate, List.zip_eq_zipWith,
    slice_zipWith, slice_zipWith, slice_zipWith, slice_map, slice_map,
    slice_map, ← List.zip_eq_zipWith]

variable [Add Hidden]

theorem length_blockRow
    (block : TransformerBlock Hidden Query Key Value Attended)
    (sameLength : positions.length = x.length) :
    (block.row allowed positions x).length = x.length := by
  have attended : (block.attention.row allowed positions
      (x.map block.attentionNorm)).length = x.length := by
    rw [length_attentionRow, List.length_map]
    rw [sameLength, List.length_map]
  simp [TransformerBlock.row, attended]

theorem slice_blockRow
    (block : TransformerBlock Hidden Query Key Value Attended)
    (sameLength : positions.length = x.length)
    (isolated : Isolated allowed x.length start length) :
    slice (block.row allowed positions x) start length =
      block.row causal (slice positions start length)
        (slice x start length) := by
  have attended : slice (block.attention.row allowed positions
      (x.map block.attentionNorm)) start length =
        block.attention.row causal (slice positions start length)
          ((slice x start length).map block.attentionNorm) := by
    rw [slice_attentionRow, slice_map]
    · rw [sameLength, List.length_map]
    · rw [List.length_map]
      exact isolated
  simp only [TransformerBlock.row]
  rw [slice_zipWith, slice_map, slice_zipWith, attended]

/-- Any number of blocks on an isolated stretch are those on the stretch
alone. -/
theorem slice_layersRow
    (layers : List (TransformerBlock Hidden Query Key Value Attended))
    (sameLength : positions.length = x.length)
    (isolated : Isolated allowed x.length start length) :
    slice (layersRow layers allowed positions x) start length =
      layersRow layers causal (slice positions start length)
        (slice x start length) := by
  induction layers generalizing x with
  | nil => rfl
  | cons layer layers inductionHypothesis =>
      have width : (layer.row allowed positions x).length = x.length :=
        length_blockRow layer sameLength
      have rest := inductionHypothesis (sameLength.trans width.symm)
        (width.symm ▸ isolated)
      rw [slice_blockRow layer sameLength isolated] at rest
      exact rest

theorem length_layersRow
    (layers : List (TransformerBlock Hidden Query Key Value Attended))
    (sameLength : positions.length = x.length) :
    (layersRow layers allowed positions x).length = x.length := by
  induction layers generalizing x with
  | nil => rfl
  | cons layer layers inductionHypothesis =>
      have width : (layer.row allowed positions x).length = x.length :=
        length_blockRow layer sameLength
      have rest := inductionHypothesis (sameLength.trans width.symm)
      exact rest.trans width

/-- A row that is one stretch. -/
theorem layersRow_eq_causal
    (layers : List (TransformerBlock Hidden Query Key Value Attended))
    (sameLength : positions.length = x.length)
    (isolated : Isolated allowed x.length 0 x.length) :
    layersRow layers allowed positions x =
      layersRow layers causal positions x := by
  have alone := slice_layersRow layers sameLength isolated
  have width : (layersRow layers allowed positions x).length = x.length :=
    length_layersRow layers sameLength
  have whole : slice (layersRow layers allowed positions x) 0 x.length =
      layersRow layers allowed positions x := by
    rw [← width, slice_all]
  have wholePositions : slice positions 0 x.length = positions := by
    rw [← sameLength, slice_all]
  rwa [whole, wholePositions, slice_all] at alone

end Stretches

/-! ## Masks -/

section MaskedPairs

variable {mode : ExecutionMode} {backend : AttentionBackend}
variable {documentIds : List (List Int)} {batch query key : Nat}

/-- The dense mask allows the pairs of the mask of blocks. -/
theorem denseAllows_eq {ids : List Int}
    (isRow : documentIds[batch]? = some ids)
    (queryRange : query < ids.length)
    (keyRange : key < ids.length) (head : Nat) :
    denseAllows (denseDocumentCausalMask documentIds) batch query key =
      documentCausalMask documentIds batch head query key := by
  simp [denseAllows, denseDocumentCausalMask, documentCausalMask,
    List.getD_eq_getElem?_getD, isRow, queryRange, keyRange, Bool.and_comm]

/-- The selected backend can run. -/
def CanRun (mode : ExecutionMode) (backend : AttentionBackend) : Prop :=
  backend.select mode.isCuda = .flex -> mode.isCuda = true

/-- Both backends allow the pairs of the document mask. -/
theorem allowedPairs_eq
    (documentIds : List (List Int))
    (canRun : CanRun mode backend) :
    ∃ allowed, CausalSelfAttention.allowedPairs mode backend
        (attentionMasks mode backend documentIds) = .ok allowed ∧
      ∀ batch ids, documentIds[batch]? = some ids ->
        ∀ query < ids.length, ∀ key < ids.length,
          allowed batch query key =
            documentCausalMask documentIds batch 0 query key := by
  unfold CausalSelfAttention.allowedPairs attentionMasks
  split
  · rename_i isFlex
    exact ⟨_, require_bind (canRun isFlex) _, fun _ _ _ _ _ _ _ => rfl⟩
  · refine ⟨_, rfl, ?_⟩
    intro batch ids isRow query queryRange key keyRange
    exact denseAllows_eq isRow queryRange keyRange 0

/-- A backend that cannot run raises. -/
theorem allowedPairs_ne_ok (cannotRun : ¬CanRun mode backend)
    (masks : AttentionMasks) (allowed : Nat -> Nat -> Nat -> Bool) :
    CausalSelfAttention.allowedPairs mode backend masks ≠ .ok allowed := by
  unfold CanRun at cannotRun
  rw [Classical.not_imp] at cannotRun
  unfold CausalSelfAttention.allowedPairs
  rw [if_pos cannotRun.1, require_eq_error cannotRun.2]
  rintro ⟨⟩

end MaskedPairs

end CodingLlm
