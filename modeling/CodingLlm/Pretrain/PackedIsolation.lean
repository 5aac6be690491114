import CodingLlm.Pretrain.DocumentIsolation

/-!
# Documents of collated batches

The hidden states of a stretch of a collated row are those of its tokens alone,
with positions from zero; the loss of a row is the sum of the losses of its
segments.
-/

namespace CodingLlm

open Words Slices Masked PackedBatchCollator

/-! ## Stretches of packed rows -/

/-- Consecutive columns of one segment, from its start on. -/
structure Stretch (width : Nat) (starts : List Byte) (start length : Nat) :
    Prop where
  inside : start + length ≤ width
  within : ∀ offset < length, segmentStart starts (start + offset) = start

/-- Positions from zero. -/
def freshPositions (length : Nat) : List Int :=
  (List.range length).map Int.ofNat

section Stretches

variable {width start length column : Nat} {row : SampleRow}
variable {documents : List (List Int)} {batch : Nat}

/-- A segment up to one of its columns is a stretch. -/
theorem stretch_segmentStart (inRange : column < width) :
    Stretch width row.starts (segmentStart row.starts column)
      (column + 1 - segmentStart row.starts column) := by
  have below := segmentStart_le row.starts column
  refine ⟨by omega, fun offset offsetRange => ?_⟩
  exact segmentStart_of_between (by omega) (by omega)

theorem Stretch.slice_positionIds
    (stretch : Stretch width row.starts start length) :
    slice (positionIds width row) start length = freshPositions length := by
  have inside := stretch.inside
  apply List.ext_getElem?
  intro index
  rw [getElem?_slice, freshPositions, List.getElem?_map]
  by_cases inRange : index < length
  · rw [if_pos inRange, getElem?_positionIds (by omega),
      stretch.within index inRange, List.getElem?_range inRange,
      Nat.add_sub_cancel_left]
    rfl
  · rw [if_neg inRange, List.getElem?_eq_none (by simpa using inRange)]
    rfl

/-- The document mask isolates a stretch. -/
theorem Stretch.isolated
    (stretch : Stretch width row.starts start length)
    (isRow : documents[batch]? = some (documentIds width row))
    {allowed : Nat -> Nat -> Bool}
    (allows : ∀ query < width, ∀ key < width, allowed query key =
      documentCausalMask documents batch 0 query key) :
    Isolated allowed width start length := by
  have inside := stretch.inside
  refine ⟨inside, fun query queryRange key keyRange => ?_⟩
  have id : ∀ column < width, (documents.getD batch []).getD column 0 =
      (startsUpTo row.starts column : Int) - 1 := by
    intro column columnRange
    have isIds : documents.getD batch [] = documentIds width row := by
      rw [List.getD_eq_getElem?_getD, isRow]
      rfl
    rw [isIds, List.getD_eq_getElem?_getD, getElem?_documentIds columnRange]
    rfl
  rw [allows _ (by omega) _ keyRange, documentCausalMask,
    id _ (by omega), id _ keyRange, ← Bool.decide_and, decide_eq_decide]
  have same : key ≤ start + query ->
      (startsUpTo row.starts (start + query) = startsUpTo row.starts key ↔
        segmentStart row.starts (start + query) ≤ key) := startsUpTo_eq_iff
  rw [stretch.within query queryRange] at same
  constructor
  · rintro ⟨upTo, equal⟩
    exact ⟨(same upTo).mp (by omega), by omega⟩
  · rintro ⟨after, before⟩
    have := (same (by omega)).mpr after
    exact ⟨by omega, by omega⟩

end Stretches

/-! ## Hidden states -/

section States

variable {Hidden Query Key Value Attended Logits Loss : Type} [Add Hidden]
variable {mode : ExecutionMode} {rows : List SampleRow} {row : SampleRow}
variable {width start length batch : Nat} {hidden : List (List Hidden)}

/-- The hidden states of tokens that are alone. -/
def CausalLM.aloneStates
    (model : CausalLM Hidden Query Key Value Attended Logits Loss)
    (tokens : List Nat) : List Hidden :=
  (layersRow model.layers causal (freshPositions tokens.length)
    (tokens.map model.tokEmbeddings)).map model.norm

variable (model : CausalLM Hidden Query Key Value Attended Logits Loss)

/-- The layers of a model can run; without layers no attention is needed. -/
def CausalLM.Runs
    (model : CausalLM Hidden Query Key Value Attended Logits Loss)
    (mode : ExecutionMode) : Prop :=
  model.layers = [] ∨ CanRun mode model.config.attentionBackend

/-- The forward pass works on every row. -/
theorem hiddenStates_eq
    {inputs : List (List Nat)} {positions documents : List (List Int)}
    (runs : model.Runs mode)
    (sameRows : positions.length = inputs.length) :
    ∃ allowed : Nat -> Nat -> Nat -> Bool,
      model.hiddenStates mode inputs positions documents =
        .ok ((eachRow positions
          (inputs.map fun row => row.map model.tokEmbeddings)
          fun batch positions row =>
            layersRow model.layers (allowed batch) positions row).map
          fun row => row.map model.norm) ∧
      ∀ batch ids, documents[batch]? = some ids ->
        ∀ query < ids.length, ∀ key < ids.length,
          allowed batch query key =
            documentCausalMask documents batch 0 query key := by
  have sameLength : positions.length =
      (inputs.map fun row => row.map model.tokEmbeddings).length := by
    rw [sameRows, List.length_map]
  simp only [CausalLM.hiddenStates]
  rcases runs with isEmpty | canRun
  · refine ⟨fun batch => documentCausalMask documents batch 0, ?_,
      fun _ _ _ _ _ _ _ => rfl⟩
    rw [isEmpty, List.foldlM_nil]
    apply congrArg fun x : List (List Hidden) => Except.ok
      (x.map fun row => row.map model.norm)
    exact (eachRow_id sameLength).symm
  · obtain ⟨allowed, isAllowed, allows⟩ :=
      allowedPairs_eq documents canRun
    refine ⟨allowed, ?_, allows⟩
    rw [foldlM_forward_eq model.layers isAllowed sameLength, checked_ok_bind]
    rfl

/-- Only layers that can run compute states. -/
theorem runs_of_hiddenStates
    {inputs : List (List Nat)} {positions documents : List (List Int)}
    (states : model.hiddenStates mode inputs positions documents =
      .ok hidden) : model.Runs mode := by
  by_contra neither
  obtain ⟨layered, cannotRun⟩ := not_or.mp neither
  obtain ⟨layer, layers, isLayers⟩ := List.exists_cons_of_ne_nil layered
  simp only [CausalLM.hiddenStates, isLayers, List.foldlM_cons,
    checked_bind_eq_ok] at states
  obtain ⟨_, ⟨_, forwarded, -⟩, -⟩ := states
  simp only [TransformerBlock.forward, CausalSelfAttention.forward,
    checked_bind_eq_ok] at forwarded
  obtain ⟨_, ⟨allowed, isAllowed, -⟩, -⟩ := forwarded
  exact allowedPairs_ne_ok cannotRun _ _ isAllowed

/-- Tokens alone are one row with one document. -/
theorem hiddenStates_alone (runs : model.Runs mode) (tokens : List Nat) :
    model.hiddenStates mode [tokens] [freshPositions tokens.length]
        [List.replicate tokens.length 0] =
      .ok [model.aloneStates tokens] := by
  obtain ⟨allowed, states, allows⟩ :
      ∃ allowed : Nat -> Nat -> Nat -> Bool,
        model.hiddenStates mode [tokens] [freshPositions tokens.length]
          [List.replicate tokens.length 0] = .ok _ ∧ _ :=
    hiddenStates_eq model runs rfl
  have isolated : Isolated (allowed 0) (tokens.map model.tokEmbeddings).length
      0 (tokens.map model.tokEmbeddings).length := by
    rw [List.length_map]
    refine ⟨by omega, fun query queryRange key keyRange => ?_⟩
    rw [Nat.zero_add, allows 0 _ rfl query (by simpa using queryRange) key
      (by simpa using keyRange), documentCausalMask, ← Bool.decide_and,
      decide_eq_decide]
    simp [List.getD_eq_getElem?_getD, queryRange, keyRange,
      Nat.lt_add_one_iff]
  have sameLength : (freshPositions tokens.length).length =
      (tokens.map model.tokEmbeddings).length := by
    simp [freshPositions]
  rw [states, CausalLM.aloneStates,
    ← layersRow_eq_causal model.layers sameLength isolated]
  rfl

/-- A stretch of a collated row has the states of its tokens alone. -/
theorem slice_hiddenStates
    (states : model.hiddenStates mode (rows.map (inputIds width))
      (rows.map (positionIds width)) (rows.map (documentIds width)) =
        .ok hidden)
    (isRow : rows[batch]? = some row)
    (tokens : row.tokens.length = width + 1) :
    ∃ rowStates, hidden[batch]? = some rowStates ∧
      rowStates.length = width ∧
      ∀ start length, Stretch width row.starts start length ->
        slice rowStates start length =
          model.aloneStates (slice row.tokens start length) := by
  have runs := runs_of_hiddenStates model states
  obtain ⟨allowed, computed, allows⟩ :
      ∃ allowed : Nat -> Nat -> Nat -> Bool, model.hiddenStates mode
        (rows.map (inputIds width)) (rows.map (positionIds width))
          (rows.map (documentIds width)) = .ok _ ∧ _ :=
    hiddenStates_eq model runs (by simp)
  rw [states] at computed
  have isDocuments : (rows.map (documentIds width))[batch]? =
      some (documentIds width row) := by
    rw [List.getElem?_map, isRow]
    rfl
  have embedded : ((inputIds width row).map model.tokEmbeddings).length =
      width := by
    simp [inputIds, tokens]
  have sameLength : (positionIds width row).length =
      ((inputIds width row).map model.tokEmbeddings).length := by
    rw [length_positionIds, embedded]
  refine ⟨(layersRow model.layers (allowed batch) (positionIds width row)
    ((inputIds width row).map model.tokEmbeddings)).map model.norm, ?_, ?_,
    ?_⟩
  · rw [Except.ok.inj computed, List.getElem?_map, getElem?_eachRow,
      List.getElem?_map, List.getElem?_map, List.getElem?_map, isRow]
    rfl
  · rw [List.length_map, length_layersRow model.layers sameLength, embedded]
  · intro start length stretch
    have inside := stretch.inside
    have isolated : Isolated (allowed batch)
        ((inputIds width row).map model.tokEmbeddings).length start
          length := by
      rw [embedded]
      apply stretch.isolated isDocuments
      intro query queryRange key keyRange
      exact allows batch _ isDocuments query
        (by rw [length_documentIds]; exact queryRange) key
        (by rw [length_documentIds]; exact keyRange)
    have inputs : slice (inputIds width row) start length =
        slice row.tokens start length := by
      rw [inputIds, slice, slice, List.drop_take, List.take_take,
        min_eq_left (by omega)]
    have sliced : (slice row.tokens start length).length = length :=
      length_slice (by omega)
    rw [slice_map, slice_layersRow model.layers sameLength isolated,
      stretch.slice_positionIds, slice_map, inputs, CausalLM.aloneStates,
      sliced]

end States

end CodingLlm
