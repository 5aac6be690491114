import CodingLlm.Pretrain.DocumentInterference
import CodingLlm.Pretrain.GradientAccumulation

/-!
# Updates do not depend on how they are split

The gradients of an update are those of its mean token loss for every split
into microbatches and ranks, orders with the same rows in an update are consumed
alike, and the chunked loss is the loss from all logits.
-/

namespace CodingLlm

open Words Slices

/-! ## Splits of an update -/

section Splits

variable {globalMicrobatchRows worldSize steps : Nat} {rows : List Nat}

/-- The references of an update in microbatch and then rank order. -/
theorem flatMap_rankReferences
    (divides : globalMicrobatchRows % worldSize = 0)
    (length : rows.length = steps * globalMicrobatchRows) :
    ((List.range steps).flatMap fun index =>
      (List.finRange worldSize).flatMap fun rank =>
        rankReferences globalMicrobatchRows (globalMicrobatchRows / worldSize)
          rows rank.val index) = rows := by
  have microbatch (index : Nat) :
      ((List.finRange worldSize).flatMap fun rank =>
        rankReferences globalMicrobatchRows (globalMicrobatchRows / worldSize)
          rows rank.val index) =
        slice rows (index * globalMicrobatchRows) globalMicrobatchRows := by
    rw [← DistributedBatchSampler.flatMap_ranks divides index,
      ← @List.map_coe_finRange_eq_range worldSize, List.flatMap_map]
    rfl
  simp only [microbatch]
  have joined := flatMap_range_eq_pieces
    (fun index => slice rows (index * globalMicrobatchRows)
      globalMicrobatchRows) 0 steps
  simp only [Nat.zero_add] at joined
  rw [joined, pieces_slice, Nat.zero_mul, ← length, slice_all]

theorem length_rankReferences
    (divides : globalMicrobatchRows % worldSize = 0)
    (length : rows.length = steps * globalMicrobatchRows)
    {index : Nat} (inside : index < steps) (rank : Fin worldSize) :
    (rankReferences globalMicrobatchRows (globalMicrobatchRows / worldSize)
      rows rank.val index).length = globalMicrobatchRows / worldSize := by
  have whole : worldSize * (globalMicrobatchRows / worldSize) =
      globalMicrobatchRows :=
    Nat.mul_div_cancel' (Nat.dvd_of_mod_eq_zero divides)
  have ranks := Nat.mul_le_mul_right (globalMicrobatchRows / worldSize)
    (Nat.succ_le_of_lt rank.isLt)
  have microbatches := Nat.mul_le_mul_right globalMicrobatchRows
    (Nat.succ_le_of_lt inside)
  rw [Nat.succ_mul] at ranks microbatches
  unfold rankReferences
  apply length_slice
  rw [length_slice (by omega)]
  omega

end Splits

/-- The microbatches that an update of some rows is split into. -/
def splitUpdate (globalMicrobatchRows worldSize : Nat)
    (references : List Nat) : Nat -> Fin worldSize -> List Nat :=
  fun index rank => rankReferences globalMicrobatchRows
    (globalMicrobatchRows / worldSize) references rank.val index

/-! ## Updates of an order -/

namespace DistributedBatchSampler

variable {Digest Cursor : Type}

/-- The batch that an iterator yields for a microbatch of an update. -/
def updateBatch (sampler : DistributedBatchSampler Digest)
    (update index : Nat) : List Nat :=
  (sampler.batches[update * sampler.gradientAccumulationSteps + index -
    sampler.startGlobalMicrobatch]?).getD []

/-- The samplers of all ranks are built for one order, from one state. -/
def BuiltFor [DecidableEq Digest]
    (hash : FileHash Digest Cursor) (directory : OrderDirectory Digest)
    (rows steps worldSize : Nat)
    (samplers : Nat -> DistributedBatchSampler Digest) : Prop :=
  ∃ (resumeState : ResumeState Digest) (verifyChecksum : Nat -> Bool),
    ∀ rank < worldSize, new hash directory
      (arguments rows steps worldSize rank (verifyChecksum rank))
      resumeState = .ok (samplers rank)

/-- The microbatches of an update. -/
def updateMicrobatches (samplers : Nat -> DistributedBatchSampler Digest)
    (worldSize update : Nat) : Nat -> Fin worldSize -> List Nat :=
  fun index rank => (samplers rank).updateBatch update index

/-- What the ranks consume in an update, in microbatch and then rank order. -/
def consumedReferences {worldSize : Nat} (steps : Nat)
    (microbatches : Nat -> Fin worldSize -> List Nat) : List Nat :=
  (List.range steps).flatMap fun index =>
    (List.finRange worldSize).flatMap fun rank => microbatches index rank

/-- No sampler has started after an update. -/
def StartsBefore (samplers : Nat -> DistributedBatchSampler Digest)
    (worldSize steps update : Nat) : Prop :=
  ∀ rank < worldSize,
    (samplers rank).startGlobalMicrobatch ≤ update * steps

section Built

variable [DecidableEq Digest]
variable {hash : FileHash Digest Cursor} {directory : OrderDirectory Digest}
variable {rows steps worldSize : Nat}
variable {samplers : Nat -> DistributedBatchSampler Digest}

/-- Samplers that are built for an order differ in their rank only. -/
theorem BuiltFor.samplers_eq (built : BuiltFor hash directory rows steps
      worldSize samplers) (positive : 0 < worldSize) :
    ∃ (manifest : OrderManifest Digest) (bytes : List Byte)
      (document : OrderManifestJson Digest) (completed : Nat),
      directory.payload = some bytes ∧
      bytes.length = manifest.rows * referenceItemSize ∧
      Fits manifest.geometry rows steps worldSize ∧
      ∀ rank < worldSize, samplers rank =
        { fresh hash manifest bytes document rows steps worldSize rank with
          startGlobalMicrobatch := completed } := by
  obtain ⟨resumeState, verifyChecksum, news⟩ := built
  obtain ⟨manifest, bytes, document, loads, found, fits, -, resumed⟩ :=
    new_eq_ok.mp (news 0 positive)
  obtain ⟨completed, cursor⟩ : ∃ completed,
      CursorIs resumeState completed := by
    cases resumeState with
    | none => exact ⟨0, rfl⟩
    | state state =>
        obtain ⟨completed, recorded, -⟩ := loadStateDict_eq_ok resumed
        exact ⟨completed, recorded⟩
    | malformed => cases resumed
  refine ⟨manifest, bytes, document, completed, loads.payload,
    loads.length_eq, fits, fun rank inside => ?_⟩
  obtain ⟨again, isDocument, -, equal⟩ :=
    sampler_of_built loads cursor (news rank inside)
  obtain rfl := Option.some.inj (isDocument.symm.trans found)
  exact equal

/-- The updates of an order, and what each of them consumes. -/
theorem BuiltFor.updates (built : BuiltFor hash directory rows steps
      worldSize samplers) (positive : 0 < worldSize) :
    ∃ bytes, directory.payload = some bytes ∧ 0 < rows ∧ 0 < steps ∧
      rows % worldSize = 0 ∧
      (∀ rank < worldSize, (samplers rank).totalOptimizerUpdates =
        bytes.length / referenceItemSize / (rows * steps)) ∧
      ∀ update < bytes.length / referenceItemSize / (rows * steps),
        StartsBefore samplers worldSize steps update ->
        let references := slice (decodeWords referenceItemSize bytes)
          (update * (rows * steps)) (rows * steps)
        references.length = steps * rows ∧
        ∀ index < steps, ∀ rank,
          updateMicrobatches samplers worldSize update index rank =
            splitUpdate rows worldSize references index rank := by
  obtain ⟨manifest, bytes, document, completed, payload, length, fits,
    same⟩ := built.samplers_eq positive
  have size : bytes.length / referenceItemSize = manifest.rows := by
    rw [length]
    exact Nat.mul_div_cancel _ (by decide)
  refine ⟨bytes, payload, fits.globalMicrobatchRows_pos,
    fits.gradientAccumulationSteps_pos, fits.worldSize_dvd, ?_, ?_⟩
  · intro rank inside
    rw [same rank inside, size]
    change trainedUpdates manifest rows steps = _
    unfold trainedUpdates
    split
    · rfl
    · rename_i frozen found
      obtain ⟨rfl, rfl⟩ := fits.frozen frozen found
      rfl
  · intro update before starts
    rw [size] at before
    have started : completed ≤ update * steps := by
      have first := starts 0 positive
      rwa [same 0 positive] at first
    have stops : (update + 1) * steps ≤
        manifest.rows / (rows * steps) * steps :=
      Nat.mul_le_mul_right steps before
    rw [Nat.succ_mul] at stops
    have covered : (update + 1) * (rows * steps) ≤ manifest.rows :=
      (Nat.mul_le_mul_right _ before).trans (Nat.div_mul_le_self _ _)
    rw [Nat.succ_mul] at covered
    have referencesLength : (slice (decodeWords referenceItemSize bytes)
        (update * (rows * steps)) (rows * steps)).length = steps * rows := by
      rw [length_slice (by rwa [length_decodeWords, size]), Nat.mul_comm]
    refine ⟨referencesLength, fun index inside rank => ?_⟩
    have total : trainedMicrobatches manifest rows steps =
        manifest.rows / (rows * steps) * steps := trainedMicrobatches_eq fits
    have yielded : (samplers rank).batches[
        update * steps + index - completed]? =
          some ((samplers rank).batch (update * steps + index)) := by
      rw [batches, List.getElem?_map, same rank rank.isLt]
      dsimp only [fresh, ofPlace]
      rw [List.getElem?_range' (by omega), Nat.one_mul, Option.map_some,
        Nat.add_sub_cancel' (by omega)]
    have place : (update * steps + index) * rows =
        update * (rows * steps) + index * rows := by ring
    have microbatch := Nat.mul_le_mul_right rows (Nat.succ_le_of_lt inside)
    rw [Nat.succ_mul, Nat.mul_comm steps] at microbatch
    have batch : (samplers rank).batch (update * steps + index) =
        splitUpdate rows worldSize
          (slice (decodeWords referenceItemSize bytes)
            (update * (rows * steps)) (rows * steps)) index rank := by
      rw [splitUpdate, rankReferences, slice_slice _ microbatch, ← place,
        same rank rank.isLt]
      rfl
    rw [updateMicrobatches, updateBatch, same rank rank.isLt, ← batch]
    rw [same rank rank.isLt] at yielded ⊢
    exact congrArg (fun found => found.getD []) yielded

end Built

end DistributedBatchSampler

/-! ## Builds with the same rows in an update -/

section Builds

variable {Digest Cursor : Type}

/-- A selection depends on the rows of an update only. -/
theorem selectRows_congr
    {available : Domain -> Nat} {sequenceLength : Nat}
    {weights : Option DomainWeights} {geometry other : Option FrozenGeometry}
    {expectedTotal tolerance : PyValue}
    (same : geometry.map FrozenGeometry.updateRows =
      other.map FrozenGeometry.updateRows) :
    selectRows available sequenceLength weights geometry expectedTotal
        tolerance =
      selectRows available sequenceLength weights other expectedTotal
        tolerance := by
  cases geometry with
  | none =>
      cases other with
      | none => rfl
      | some other => cases same
  | some geometry =>
      cases other with
      | none => cases same
      | some other =>
          have updateRows : geometry.updateRows = other.updateRows :=
            Option.some.inj same
          unfold selectRows selectCapped toleranceOrDefault selectableRows
            selectableUnit
          dsimp only
          rw [updateRows]

/-- Orders from the same arguments with the same rows in an update have the
same payload. -/
theorem payload_of_updateRows [DecidableEq Digest]
    {environment : OrderEnvironment Digest Cursor}
    {arguments : OrderArguments} {otherRows otherSteps : PyValue}
    {output otherOutput directory otherDirectory : OrderDirectory Digest}
    {geometry otherGeometry : Option FrozenGeometry}
    (isGeometry : requireGeometry arguments.frozenGlobalMicrobatchRows
      arguments.frozenGradientAccumulationSteps = .ok geometry)
    (isOther : requireGeometry otherRows otherSteps = .ok otherGeometry)
    (same : geometry.map FrozenGeometry.updateRows =
      otherGeometry.map FrozenGeometry.updateRows)
    (built : buildTrainingOrder environment arguments output =
      .ok directory)
    (builtOther : buildTrainingOrder environment
      { arguments with
        frozenGlobalMicrobatchRows := otherRows
        frozenGradientAccumulationSteps := otherSteps } otherOutput =
          .ok otherDirectory) :
    directory.payload = otherDirectory.payload := by
  obtain ⟨draft, drafted, rfl⟩ := buildTrainingOrder_eq_ok built
  obtain ⟨otherDraft, otherDrafted, rfl⟩ :=
    buildTrainingOrder_eq_ok builtOther
  simp only [draftTrainingOrder, checked_bind_eq_ok, exists_require,
    requireObject_eq_ok, checked_pure_eq_ok] at drafted otherDrafted
  obtain ⟨paths, mapping, used, isUsed, packed, loads, -, -, weights,
    isWeights, selection, isSelection, references, isReferences, -, -, -, -,
    -, rfl⟩ := drafted
  obtain ⟨otherPaths, otherMapping, otherUsed, isOtherUsed, otherPacked,
    otherLoads, -, -, otherWeights, isOtherWeights, otherSelection,
    isOtherSelection, otherReferences, isOtherReferences, -, -, -, -, -,
    rfl⟩ := otherDrafted
  obtain rfl := Except.ok.inj (isUsed.symm.trans isGeometry)
  obtain rfl := Except.ok.inj (isOtherUsed.symm.trans isOther)
  obtain rfl := Option.some.inj (mapping.symm.trans otherMapping)
  obtain rfl := Except.ok.inj (loads.symm.trans otherLoads)
  obtain rfl := Except.ok.inj (isWeights.symm.trans isOtherWeights)
  rw [selectRows_congr same] at isSelection
  obtain rfl := Except.ok.inj (isSelection.symm.trans isOtherSelection)
  obtain rfl := Except.ok.inj (isReferences.symm.trans isOtherReferences)
  rfl

end Builds

/-! ## Chunked losses -/

section Chunks

variable {Hidden Query Key Value Attended Logits Loss : Type}

/-- Every row of a tensor has a width. -/
def HasWidth {α : Type} (width : Nat) (tensor : List (List α)) : Prop :=
  ∀ row ∈ tensor, row.length = width

theorem HasWidth.of_sameShape
    {α β : Type} {width : Nat} {first : List (List α)}
    {second : List (List β)} (same : CausalLM.SameShape first second)
    (widths : HasWidth width second) : HasWidth width first := by
  intro row member
  have listed : row.length ∈ first.map List.length :=
    List.mem_map_of_mem member
  rw [show first.map List.length = second.map List.length from same] at listed
  obtain ⟨other, isOther, equal⟩ := List.mem_map.mp listed
  rw [← equal, widths other isOther]

theorem HasWidth.addRows [Add Hidden]
    {width : Nat} {first second : List (List Hidden)}
    (widths : HasWidth width first) (others : HasWidth width second) :
    HasWidth width (CodingLlm.addRows first second) := by
  intro row member
  rw [CodingLlm.addRows, ← List.map_uncurry_zip_eq_zipWith,
    List.mem_map] at member
  obtain ⟨⟨left, right⟩, paired, rfl⟩ := member
  obtain ⟨isLeft, isRight⟩ := List.of_mem_zip paired
  rw [Function.uncurry_apply_pair, List.length_zipWith, widths left isLeft,
    others right isRight, Nat.min_self]

theorem HasWidth.map {α β : Type} {width : Nat} {tensor : List (List α)}
    (widths : HasWidth width tensor) (column : α -> β) :
    HasWidth width (tensor.map fun row => row.map column) := by
  intro row member
  obtain ⟨old, isOld, rfl⟩ := List.mem_map.mp member
  rw [List.length_map, widths old isOld]

/-- Attention keeps the width. -/
theorem HasWidth.attention
    {attention : CausalSelfAttention Hidden Query Key Value Attended}
    {mode : ExecutionMode} {backend : AttentionBackend}
    {masks : AttentionMasks} {width : Nat} {positions : List (List Int)}
    {x result : List (List Hidden)}
    (positionWidths : HasWidth width positions) (widths : HasWidth width x)
    (ran : attention.forward mode backend masks positions x = .ok result) :
    HasWidth width result := by
  obtain ⟨allowed, -, equal⟩ := checked_bind_eq_ok.mp ran
  rw [checked_pure_eq_ok] at equal
  subst equal
  intro row member
  obtain ⟨index, inside, rfl⟩ := List.mem_mapIdx.mp member
  have position : (positions.zip x)[index].1 ∈ positions ∧
      (positions.zip x)[index].2 ∈ x :=
    List.of_mem_zip (List.getElem_mem inside)
  rw [CausalSelfAttention.row, List.length_map, Masked.length_aggregate,
    List.length_zipWith, List.length_map, positionWidths _ position.1,
    widths _ position.2, Nat.min_self]

/-- The hidden states have the width of the input. -/
theorem HasWidth.hiddenStates [Add Hidden]
    {model : CausalLM Hidden Query Key Value Attended Logits Loss}
    {mode : ExecutionMode} {width : Nat} {inputIds : List (List Nat)}
    {positionIds documentIds : List (List Int)} {hidden : List (List Hidden)}
    (inputs : HasWidth width inputIds)
    (positions : HasWidth width positionIds)
    (ran : model.hiddenStates mode inputIds positionIds documentIds =
      .ok hidden) : HasWidth width hidden := by
  obtain ⟨last, layers, equal⟩ := checked_bind_eq_ok.mp ran
  rw [checked_pure_eq_ok] at equal
  subst equal
  have embedded : HasWidth width
      (inputIds.map fun row => row.map model.tokEmbeddings) :=
    inputs.map model.tokEmbeddings
  revert layers embedded
  generalize (inputIds.map fun row => row.map model.tokEmbeddings) = first
  intro layers embedded
  refine HasWidth.map ?_ model.norm
  generalize model.layers = blocks at layers
  induction blocks generalizing first with
  | nil =>
      obtain rfl := Except.ok.inj layers
      exact embedded
  | cons block rest inductionHypothesis =>
      rw [List.foldlM_cons, checked_bind_eq_ok] at layers
      obtain ⟨next, stepped, continued⟩ := layers
      refine inductionHypothesis next ?_ continued
      obtain ⟨attended, attends, added⟩ := checked_bind_eq_ok.mp stepped
      rw [checked_pure_eq_ok] at added
      subst added
      have summed := embedded.addRows
        (HasWidth.attention positions (embedded.map block.attentionNorm)
          attends)
      exact summed.addRows (summed.map fun column =>
        block.feedForward (block.ffnNorm column))

/-- An output without its logits. -/
def CausalLMOutput.withoutLogits (output : CausalLMOutput Logits Loss) :
    CausalLMOutput Logits Loss :=
  { output with logits := none }

/-- Chunks of any size give the losses from all logits. -/
theorem forward_chunked [Add Hidden] [DivisionRing Loss]
    (model : CausalLM Hidden Query Key Value Attended Logits Loss)
    (mode : ExecutionMode) {inputIds : List (List Nat)}
    (positionIds documentIds labels : List (List Int))
    (inputs : HasWidth (inputIds.headD []).length inputIds) :
    CausalLMOutput.withoutLogits <$> model.forward mode inputIds positionIds
        documentIds (some labels) (some false) =
      CausalLMOutput.withoutLogits <$> model.forward mode inputIds positionIds
        documentIds (some labels) (some true) := by
  unfold CausalLM.forward
  dsimp only [Option.getD_some]
  simp only [map_bind]
  refine bind_congr fun _ => bind_congr fun shapes => bind_congr fun _ =>
    bind_congr fun labelled => bind_congr fun _ => ?_
  cases states : model.hiddenStates mode inputIds positionIds documentIds with
  | error error => rfl
  | ok hidden =>
      have widths := HasWidth.hiddenStates inputs
        (inputs.of_sameShape shapes.down.1) states
      have targets := inputs.of_sameShape (labelled.down labels rfl)
      simp only [checked_ok_bind, CausalLM.losses, map_bind]
      refine bind_congr fun _ => ?_
      have chunked : model.chunkedLossSums (inputIds.headD []).length hidden
          labels = model.lossSums hidden labels :=
        chunkedLossSums_eq model fun index row target isRow isTarget =>
          ⟨widths row (List.mem_of_getElem? isRow),
            targets target (List.mem_of_getElem? isTarget)⟩
      simp only [map_pure, if_true, CausalLMOutput.withoutLogits, chunked]
      rfl

end Chunks

/-! ## Independence of the split -/

section Independence

variable {Loss Gradient : Type}
variable [AddCommGroup Loss] [Module ℚ Loss]
variable [AddCommGroup Gradient] [Module ℚ Gradient]

/-- What an order with its samplers does in an update, given the update's
rows in the order. -/
structure UpdatesWith (backward : Loss →ₗ[ℚ] Gradient)
    (losses : RowLosses Loss) {worldSize : Nat} (steps : Nat)
    (microbatches : Nat -> Fin worldSize -> List Nat)
    (references : List Nat) : Prop where
  consumed :
    DistributedBatchSampler.consumedReferences steps microbatches = references
  gradients : ∀ gradients,
    updateGradients backward losses steps microbatches = .ok gradients ->
      gradients = fun _ => meanGradient backward losses references
  computed : (∀ reference ∈ references, 1 ≤ losses.lossTokens reference) ->
    ∃ gradients,
      updateGradients backward losses steps microbatches = .ok gradients

/-- A split of the rows of an update. -/
theorem updatesWith_of_split
    (backward : Loss →ₗ[ℚ] Gradient) (losses : RowLosses Loss)
    {rows steps worldSize : Nat} {references : List Nat}
    {microbatches : Nat -> Fin worldSize -> List Nat}
    (positive : 0 < worldSize) (some : 0 < steps) (rowsPositive : 0 < rows)
    (divides : rows % worldSize = 0)
    (length : references.length = steps * rows)
    (split : ∀ index < steps, ∀ rank, microbatches index rank =
      splitUpdate rows worldSize references index rank) :
    UpdatesWith backward losses steps microbatches references := by
  constructor
  case consumed =>
    rw [← flatMap_rankReferences divides length]
    refine List.flatMap_congr fun index member => ?_
    refine List.flatMap_congr fun rank _ => ?_
    exact split index (List.mem_range.mp member) rank
  case gradients =>
    intro gradients ran
    refine updateGradients_eq positive some ?_ ran
    have drawn (rank : Fin worldSize) :
        drawnReferences microbatches steps rank =
          (List.range steps).flatMap fun index =>
            rankReferences rows (rows / worldSize) references rank.val index :=
      List.flatMap_congr fun index member =>
        split index (List.mem_range.mp member) rank
    rw [List.flatMap_congr fun rank _ => drawn rank]
    exact rankReferences_perm divides length
  case computed =>
    intro supervised
    refine exists_updateGradients positive some fun index inside rank => ?_
    rw [split index inside rank]
    refine losses.tokenCount_pos ?_ fun reference member =>
      supervised reference (rankReferences_subset _ _ _ _ _ member)
    apply List.ne_nil_of_length_pos
    rw [splitUpdate, length_rankReferences divides length inside rank]
    exact Nat.div_pos (Nat.le_of_dvd rowsPositive
      (Nat.dvd_of_mod_eq_zero divides)) positive

open DistributedBatchSampler in
/-- The split of an update into microbatches and ranks, the geometry of an
order with the same rows in an update and the chunks of the loss change neither
what an update consumes nor its gradients. -/
structure SplitIndependent (backward : Loss →ₗ[ℚ] Gradient)
    (losses : RowLosses Loss) : Prop where
  /-- Every split of some rows has the gradient of their mean token loss. -/
  splits : ∀ rows steps worldSize references, 0 < worldSize -> 0 < steps ->
    0 < rows -> rows % worldSize = 0 -> references.length = steps * rows ->
      UpdatesWith backward losses steps
        (splitUpdate rows worldSize references) references
  /-- An update of an order consumes its rows, split in this way. -/
  updates : ∀ {Digest Cursor : Type} [DecidableEq Digest]
    (hash : FileHash Digest Cursor) (directory : OrderDirectory Digest)
    rows steps worldSize samplers, 0 < worldSize ->
    BuiltFor hash directory rows steps worldSize samplers ->
      ∃ bytes, directory.payload = some bytes ∧
        (∀ rank < worldSize, (samplers rank).totalOptimizerUpdates =
          bytes.length / referenceItemSize / (rows * steps)) ∧
        ∀ update < bytes.length / referenceItemSize / (rows * steps),
          StartsBefore samplers worldSize steps update ->
            UpdatesWith backward losses steps
              (updateMicrobatches samplers worldSize update)
              (slice (decodeWords referenceItemSize bytes)
                (update * (rows * steps)) (rows * steps))
  /-- Two orders with one payload and the same rows in an update. -/
  orders : ∀ {Digest Cursor : Type} [DecidableEq Digest]
    (hash : FileHash Digest Cursor) (directory other : OrderDirectory Digest)
    rows steps worldSize samplers otherRows otherSteps otherSize
    otherSamplers, 0 < worldSize -> 0 < otherSize ->
    BuiltFor hash directory rows steps worldSize samplers ->
    BuiltFor hash other otherRows otherSteps otherSize otherSamplers ->
    directory.payload = other.payload ->
    rows * steps = otherRows * otherSteps ->
      ∀ rank < worldSize, ∀ otherRank < otherSize,
        (samplers rank).totalOptimizerUpdates =
          (otherSamplers otherRank).totalOptimizerUpdates ∧
        ∀ update < (samplers rank).totalOptimizerUpdates,
          StartsBefore samplers worldSize steps update ->
          StartsBefore otherSamplers otherSize otherSteps update ->
            consumedReferences steps
                (updateMicrobatches samplers worldSize update) =
              consumedReferences otherSteps
                (updateMicrobatches otherSamplers otherSize update) ∧
            ∀ gradients otherGradients,
              updateGradients backward losses steps
                (updateMicrobatches samplers worldSize update) =
                  .ok gradients ->
              updateGradients backward losses otherSteps
                (updateMicrobatches otherSamplers otherSize update) =
                  .ok otherGradients ->
              ∀ first second, gradients first = otherGradients second
  /-- Orders from the same arguments with the same rows in an update have one
  payload. -/
  builds : ∀ {Digest Cursor : Type} [DecidableEq Digest]
    (environment : OrderEnvironment Digest Cursor)
    (arguments : OrderArguments) otherRows otherSteps output otherOutput
    directory otherDirectory geometry otherGeometry,
    requireGeometry arguments.frozenGlobalMicrobatchRows
      arguments.frozenGradientAccumulationSteps = .ok geometry ->
    requireGeometry otherRows otherSteps = .ok otherGeometry ->
    geometry.map FrozenGeometry.updateRows =
      otherGeometry.map FrozenGeometry.updateRows ->
    buildTrainingOrder environment arguments output = .ok directory ->
    buildTrainingOrder environment
      { arguments with
        frozenGlobalMicrobatchRows := otherRows
        frozenGradientAccumulationSteps := otherSteps } otherOutput =
          .ok otherDirectory ->
      directory.payload = otherDirectory.payload
  /-- The chunked loss is the loss from all logits. -/
  chunks : ∀ {Hidden Query Key Value Attended Logits Share : Type}
    [Add Hidden] [DivisionRing Share]
    (model : CausalLM Hidden Query Key Value Attended Logits Share)
    (mode : ExecutionMode) (inputIds : List (List Nat))
    (positionIds documentIds labels : List (List Int)),
    HasWidth (inputIds.headD []).length inputIds ->
      CausalLMOutput.withoutLogits <$> model.forward mode inputIds positionIds
          documentIds (some labels) (some false) =
        CausalLMOutput.withoutLogits <$> model.forward mode inputIds
          positionIds documentIds (some labels) (some true)

/-- Updates do not depend on how they are split. -/
theorem split_independent
    (backward : Loss →ₗ[ℚ] Gradient) (losses : RowLosses Loss) :
    SplitIndependent backward losses := by
  have updates {Digest Cursor : Type} [DecidableEq Digest]
      (hash : FileHash Digest Cursor) (directory : OrderDirectory Digest)
      (rows steps worldSize : Nat)
      (samplers : Nat -> DistributedBatchSampler Digest)
      (positive : 0 < worldSize)
      (built : DistributedBatchSampler.BuiltFor hash directory rows steps
        worldSize samplers) :
      ∃ bytes, directory.payload = some bytes ∧
        (∀ rank < worldSize, (samplers rank).totalOptimizerUpdates =
          bytes.length / referenceItemSize / (rows * steps)) ∧
        ∀ update < bytes.length / referenceItemSize / (rows * steps),
          DistributedBatchSampler.StartsBefore samplers worldSize steps
            update ->
          UpdatesWith backward losses steps
            (DistributedBatchSampler.updateMicrobatches samplers worldSize
              update)
            (slice (decodeWords referenceItemSize bytes)
              (update * (rows * steps)) (rows * steps)) := by
    obtain ⟨bytes, payload, rowsPositive, some, divides, totals, each⟩ :=
      built.updates positive
    refine ⟨bytes, payload, totals, fun update before starts => ?_⟩
    obtain ⟨length, split⟩ := each update before starts
    exact updatesWith_of_split backward losses positive some rowsPositive
      divides length split
  constructor
  case splits =>
    intro rows steps worldSize references positive some rowsPositive divides
      length
    exact updatesWith_of_split backward losses positive some rowsPositive
      divides length fun _ _ _ => rfl
  case updates => exact updates
  case orders =>
    intro Digest Cursor _ hash directory other rows steps worldSize samplers
      otherRows otherSteps otherSize otherSamplers positive otherPositive
      built otherBuilt samePayload sameRows rank inside otherRank otherInside
    obtain ⟨bytes, payload, totals, each⟩ := updates hash directory rows steps
      worldSize samplers positive built
    obtain ⟨otherBytes, otherPayload, otherTotals, otherEach⟩ := updates hash
      other otherRows otherSteps otherSize otherSamplers otherPositive
      otherBuilt
    obtain rfl : bytes = otherBytes := Option.some.inj
      (payload.symm.trans (samePayload.trans otherPayload))
    rw [← sameRows] at otherTotals otherEach
    refine ⟨(totals rank inside).trans (otherTotals otherRank otherInside).symm,
      fun update before starts otherStarts => ?_⟩
    rw [totals rank inside] at before
    have here := each update before starts
    have there := otherEach update before otherStarts
    refine ⟨here.consumed.trans there.consumed.symm,
      fun gradients otherGradients ran otherRan first second => ?_⟩
    rw [here.gradients gradients ran, there.gradients otherGradients otherRan]
  case builds =>
    intro Digest Cursor _ environment arguments otherRows otherSteps output
      otherOutput directory otherDirectory geometry otherGeometry isGeometry
      isOther same built builtOther
    exact payload_of_updateRows isGeometry isOther same built builtOther
  case chunks =>
    intro Hidden Query Key Value Attended Logits Share _ _ model mode inputIds
      positionIds documentIds labels inputs
    exact forward_chunked model mode positionIds documentIds labels inputs

end Independence

end CodingLlm
