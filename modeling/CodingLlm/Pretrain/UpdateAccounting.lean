import CodingLlm.Pretrain.WindowAccounting
import CodingLlm.Pretrain.TrainerInvariants

/-!
# Counters of updates

A setup that trains an accepted order of finished packed directories: each
update succeeds and leaves the counters of the next prefix of the order, and
the counters of every prefix pass the checks of checkpoints and of `train`.
-/

namespace CodingLlm

open Words Slices

variable {Weights Optimizer Host Device Digest Identity Cursor : Type}
variable {worldSize : Nat}

/-- The counters of the first updates of an order, from the start bits of its
rows. -/
def TrajectoryConfig.countersAfter
    (config : TrajectoryConfig)
    (manifests : Domain -> PackedManifest Digest Cursor)
    (directories : Domain -> Directory Digest Cursor)
    (sequenceLength : Nat) (order : List Nat) (step : Nat) :
    TrainCounters where
  completedSteps := step
  completedMicrobatches := step * config.gradientAccumulationSteps
  consumedRows := (order.take (step * config.updateRows)).length
  consumedInputTokens :=
    (order.take (step * config.updateRows)).length * sequenceLength
  consumedSupervisedTokens := totalOf (supervisedIn manifests directories
    (order.take (step * config.updateRows)))
  consumedRowsPerDomain := rowsIn (order.take (step * config.updateRows))
  consumedInputTokensPerDomain := fun domain =>
    rowsIn (order.take (step * config.updateRows)) domain * sequenceLength
  consumedSupervisedTokensPerDomain := supervisedIn manifests directories
    (order.take (step * config.updateRows))

section Counters

variable (config : TrajectoryConfig)
variable (manifests : Domain -> PackedManifest Digest Cursor)
variable (directories : Domain -> Directory Digest Cursor)
variable (sequenceLength : Nat) (order : List Nat)

/-- The prefix of one more update. -/
theorem take_succ_updates (step updateRows : Nat) :
    order.take ((step + 1) * updateRows) =
      order.take (step * updateRows) ++
        slice order (step * updateRows) updateRows := by
  rw [Nat.succ_mul, List.take_add]
  rfl

/-- Nothing is counted before the first update. -/
theorem TrajectoryConfig.countersAfter_zero :
    config.countersAfter manifests directories sequenceLength order 0 =
      .zero := by
  unfold TrajectoryConfig.countersAfter TrainCounters.zero
  simp only [Nat.zero_mul, List.take_zero, List.length_nil]
  congr 1
  funext domain
  exact Nat.zero_mul sequenceLength

/-- The counters of a prefix advance by those of the next rows. -/
theorem TrajectoryConfig.countersAfter_succ
    (step : Nat)
    (full : (slice order (step * config.updateRows)
      config.updateRows).length = config.updateRows) :
    config.countersAfter manifests directories sequenceLength order
        (step + 1) =
      (config.countersAfter manifests directories sequenceLength order
        step).advance config (statsOf manifests directories sequenceLength
          (slice order (step * config.updateRows) config.updateRows)) := by
  have supervised (front back : List Nat) :
      supervisedIn manifests directories (front ++ back) =
        fun domain => supervisedIn manifests directories front domain +
          supervisedIn manifests directories back domain :=
    funext (supervisedIn_append front back)
  have rows (front back : List Nat) : rowsIn (front ++ back) =
      fun domain => rowsIn front domain + rowsIn back domain :=
    funext (rowsIn_append front back)
  unfold TrajectoryConfig.countersAfter TrainCounters.advance statsOf
  rw [take_succ_updates, supervised, rows, totalOf_add, List.length_append,
    full]
  simp only [Nat.add_mul, Nat.one_mul]

/-- Counters grow with the prefix. -/
theorem TrajectoryConfig.countersAfter_mono
    {step later : Nat}
    (before : step ≤ later) :
    let counters := config.countersAfter manifests directories sequenceLength
      order
    (counters step).consumedInputTokens ≤
        (counters later).consumedInputTokens ∧
      (counters step).consumedSupervisedTokens ≤
        (counters later).consumedSupervisedTokens := by
  intro counters
  have more := Nat.mul_le_mul_right config.updateRows before
  obtain ⟨rest, isPrefix⟩ := 
    (List.take_prefix_take_left more : order.take _ <+: order.take _)
  change (order.take (step * config.updateRows)).length * sequenceLength ≤
      (order.take (later * config.updateRows)).length * sequenceLength ∧
    totalOf (supervisedIn manifests directories
        (order.take (step * config.updateRows))) ≤
      totalOf (supervisedIn manifests directories
        (order.take (later * config.updateRows)))
  rw [← isPrefix]
  constructor
  · apply Nat.mul_le_mul_right
    rw [List.length_append]
    exact Nat.le_add_right _ _
  · apply totalOf_le
    intro domain
    rw [supervisedIn_append]
    exact Nat.le_add_right _ _

end Counters

namespace TrainingSetup

/-- A setup that is made for an order: the constructor accepts its geometry,
its loader reads the order, the model reports the labels that count, and its
updates do not fail. -/
structure MadeFor [DecidableEq Digest]
    (setup : TrainingSetup Weights Optimizer Host Device worldSize Digest
      Identity)
    (hash : FileHash Digest Cursor) (store : PackedStore Digest Cursor)
    (verifyPayloadChecksums : Bool) (directory : OrderDirectory Digest)
    (manifest : OrderManifest Digest) : Prop where
  geometry : frozenTrainingGeometry manifest = .ok setup.geometry
  constructs : setup.checkConstruction = .ok ()
  dataIdentity : ∀ document, directory.manifest = some document ->
    setup.dataIdentity = (hash.orderManifest document, manifest.orderSha256)
  fetch : setup.fetch =
    trainingBatch hash store verifyPayloadChecksums directory
  reports : ∀ batch,
    setup.modelLossTokens batch = countedLossTokens batch.labels
  updates : ∀ weights optimizer rngs learningRate windows, ∃ updated,
    setup.update weights optimizer rngs learningRate windows = .ok updated

end TrainingSetup

/-- A setup that trains an accepted order of loadable directories. -/
structure TrainsOrder [DecidableEq Digest]
    (setup : TrainingSetup Weights Optimizer Host Device worldSize Digest
      Identity)
    (hash : FileHash Digest Cursor) (store : PackedStore Digest Cursor)
    (verifyPayloadChecksums : Bool) (directory : OrderDirectory Digest)
    (manifest : OrderManifest Digest) (bytes : List Byte)
    (directories : Domain -> Directory Digest Cursor)
    (manifests : Domain -> PackedManifest Digest Cursor) : Prop where
  accepted : AcceptedOrder hash store directory manifest bytes directories
    manifests
  loadable : ∀ domain,
    Loadable hash.bytes (directories domain) (manifests domain)
  madeFor : setup.MadeFor hash store verifyPayloadChecksums directory manifest

namespace TrainsOrder

variable [DecidableEq Digest]
variable {setup : TrainingSetup Weights Optimizer Host Device worldSize Digest
  Identity}
variable {hash : FileHash Digest Cursor} {store : PackedStore Digest Cursor}
variable {verifyPayloadChecksums : Bool} {directory : OrderDirectory Digest}
variable {manifest : OrderManifest Digest} {bytes : List Byte}
variable {directories : Domain -> Directory Digest Cursor}
variable {manifests : Domain -> PackedManifest Digest Cursor}

variable (trains : TrainsOrder setup hash store verifyPayloadChecksums
  directory manifest bytes directories manifests)

include trains

/-! ## Geometry -/

/-- The frozen consumption of the order is the geometry of the setup. -/
theorem exists_frozen :
    ∃ frozen ∈ manifest.consumption,
      frozen.updateRows = setup.config.updateRows ∧
      frozen.optimizerUpdates manifest.rows = setup.config.maxSteps ∧
      setup.config.globalMicrobatchRows % worldSize = 0 ∧
      setup.geometry = {
        globalMicrobatchRows := setup.config.globalMicrobatchRows
        gradientAccumulationSteps := setup.config.gradientAccumulationSteps
        optimizerUpdateRows := setup.config.updateRows
        optimizerUpdates := setup.config.maxSteps
        consumedGlobalMicrobatches :=
          setup.config.maxSteps * setup.config.gradientAccumulationSteps
        sequenceLength := manifest.sequenceLength
        consumedRows := setup.config.maxSteps * setup.config.updateRows
        droppedRows := manifest.rows -
          setup.config.maxSteps * setup.config.updateRows
        consumedInputTokens := setup.config.maxSteps *
          setup.config.updateRows * manifest.sequenceLength
        droppedInputTokens := (manifest.rows -
          setup.config.maxSteps * setup.config.updateRows) *
            manifest.sequenceLength
        consumedSupervisedTokens :=
          totalOf frozen.consumedSupervisedTokensPerDomain
        droppedSupervisedTokens :=
          totalOf frozen.droppedSupervisedTokensPerDomain
        consumedInputTokensPerDomain := fun domain =>
          frozen.consumedRowsPerDomain domain * manifest.sequenceLength
        consumedSupervisedTokensPerDomain :=
          frozen.consumedSupervisedTokensPerDomain } := by
  have geometry := trains.madeFor.geometry
  have constructs := trains.madeFor.constructs
  unfold frozenTrainingGeometry at geometry
  obtain ⟨frozen, found, geometry⟩ := checked_bind_eq_ok.mp geometry
  rw [requireObject_eq_ok] at found
  rw [checked_pure_eq_ok] at geometry
  unfold TrainingSetup.checkConstruction at constructs
  obtain ⟨divides, constructs⟩ := require_then_eq_ok.mp constructs
  obtain ⟨canonical, isCanonical, constructs⟩ :=
    checked_bind_eq_ok.mp constructs
  obtain ⟨agrees, _⟩ := require_then_eq_ok.mp constructs
  have same : canonical = setup.geometry := by
    unfold canonicalTrainingGeometry at isCanonical
    simp only [checked_bind_eq_ok, exists_require, checked_pure_eq_ok]
      at isCanonical
    obtain ⟨_, _, _, _, _, _, _, _, _, _, _, _, unchanged⟩ := isCanonical
    exact unchanged.symm
  rw [same] at agrees
  have rows : frozen.globalMicrobatchRows =
      setup.config.globalMicrobatchRows := by
    rw [← agrees.1, ← geometry]
  have steps : frozen.gradientAccumulationSteps =
      setup.config.gradientAccumulationSteps := by
    rw [← agrees.2.1, ← geometry]
  have updates : frozen.optimizerUpdates manifest.rows =
      setup.config.maxSteps := by
    rw [← agrees.2.2, ← geometry]
  have updateRows : frozen.updateRows = setup.config.updateRows := by
    unfold FrozenGeometry.updateRows TrajectoryConfig.updateRows
    rw [rows, steps]
  refine ⟨frozen, found, updateRows, updates, divides, ?_⟩
  rw [← geometry]
  unfold FrozenGeometry.consumedRows FrozenGeometry.consumedGlobalMicrobatches
  rw [rows, steps, updates, updateRows]

/-- All updates of the geometry lie inside the order. -/
theorem updates_le
    {step : Nat}
    (inside : step ≤ setup.config.maxSteps) :
    step * setup.config.updateRows ≤
      (decodeWords referenceItemSize bytes).length := by
  obtain ⟨frozen, _, updateRows, updates, _⟩ := trains.exists_frozen
  rw [trains.accepted.length_references, ← updateRows]
  have whole := Nat.div_mul_le_self manifest.rows frozen.updateRows
  apply (Nat.mul_le_mul_right frozen.updateRows inside).trans
  rw [← updates]
  exact whole

theorem trained : Trained hash.bytes manifests directories
    manifest.sequenceLength (decodeWords referenceItemSize bytes) where
  loadable := trains.loadable
  width domain := (trains.accepted.fields domain).sequenceLength
  addressed reference member := by
    obtain ⟨domain, row, decoded, bound⟩ :=
      trains.accepted.scanned.distinct.addresses reference member
    rw [← (trains.accepted.fields domain).rows] at bound
    exact ⟨domain, row, decoded, bound⟩

/-- The frozen authority is what the start bits of the consumed prefix say. -/
theorem frozen_eq
    {frozen : FrozenConsumption}
    (member : frozen ∈ manifest.consumption)
    (updateRows : frozen.updateRows = setup.config.updateRows)
    (updates : frozen.optimizerUpdates manifest.rows =
      setup.config.maxSteps) :
    frozen.consumedRowsPerDomain =
        rowsIn ((decodeWords referenceItemSize bytes).take
          (setup.config.maxSteps * setup.config.updateRows)) ∧
      frozen.consumedSupervisedTokensPerDomain =
        supervisedIn manifests directories
          ((decodeWords referenceItemSize bytes).take
            (setup.config.maxSteps * setup.config.updateRows)) := by
  have consumed : frozen.consumedRows manifest.rows =
      setup.config.maxSteps * setup.config.updateRows := by
    unfold FrozenGeometry.consumedRows
    rw [updates, updateRows]
  constructor
  · rw [← consumed]
    exact (trains.accepted.scanned.consumed frozen member).symm
  · obtain ⟨document, _, recorded⟩ := trains.accepted.loads.recorded
    have audited : SupervisionRecorded manifests directories
        (decodeWords referenceItemSize bytes) document :=
      (trains.accepted.supervisionRecorded_iff recorded).mpr fun domain =>
        (trains.loadable domain).validated.sum_rowSupervisedLabels_eq
    have selected : manifest.validLossTokensPerDomain =
        supervisedIn manifests directories
          (decodeWords referenceItemSize bytes) :=
      ofCounts_injective
        (recorded.supervision.validLossTokensPerDomain.symm.trans
          audited.selected)
    have dropped := (trains.accepted.dropped frozen member).2
    funext domain
    have accounts := (manifest.accounts frozen member).supervised_eq domain
    have parts := supervisedIn_take_add_drop manifests directories
      (decodeWords referenceItemSize bytes)
      (frozen.consumedRows manifest.rows) domain
    rw [selected, congrFun dropped domain] at accounts
    rw [← consumed]
    omega

/-- What the geometry declares as consumed are the counters of the last
update. -/
theorem geometry_eq :
    let final := setup.config.countersAfter manifests directories
      manifest.sequenceLength (decodeWords referenceItemSize bytes)
      setup.config.maxSteps
    setup.geometry.sequenceLength = manifest.sequenceLength ∧
      setup.geometry.consumedRows = final.consumedRows ∧
      setup.geometry.consumedInputTokens = final.consumedInputTokens ∧
      setup.geometry.consumedSupervisedTokens =
        final.consumedSupervisedTokens ∧
      setup.geometry.consumedInputTokensPerDomain =
        final.consumedInputTokensPerDomain ∧
      setup.geometry.consumedSupervisedTokensPerDomain =
        final.consumedSupervisedTokensPerDomain := by
  obtain ⟨frozen, member, updateRows, updates, _, geometry⟩ :=
    trains.exists_frozen
  obtain ⟨rows, supervised⟩ := trains.frozen_eq member updateRows updates
  have length : ((decodeWords referenceItemSize bytes).take
      (setup.config.maxSteps * setup.config.updateRows)).length =
        setup.config.maxSteps * setup.config.updateRows := by
    rw [List.length_take, Nat.min_eq_left (trains.updates_le le_rfl)]
  rw [geometry, rows, supervised]
  unfold TrajectoryConfig.countersAfter
  rw [length]
  exact ⟨rfl, rfl, rfl, rfl, rfl, rfl⟩

/-! ## Updates -/

theorem localBatchSize_pos : 1 ≤ setup.localBatchSize := by
  obtain ⟨_, _, _, _, divides, _⟩ := trains.exists_frozen
  have positive := setup.config.globalMicrobatchRows_pos
  have whole := Nat.div_mul_cancel (Nat.dvd_of_mod_eq_zero divides)
  unfold TrainingSetup.localBatchSize
  rcases Nat.eq_zero_or_pos (setup.config.globalMicrobatchRows / worldSize)
    with none | some
  · rw [none, Nat.zero_mul] at whole
    omega
  · exact some

/-- Every rank has its full batch of every microbatch of an update. -/
theorem length_rankReferences
    {rows : List Nat} {rank : Fin worldSize} {index : Nat}
    (length : rows.length = setup.config.updateRows)
    (inside : index < setup.config.gradientAccumulationSteps) :
    (rankReferences setup.config.globalMicrobatchRows setup.localBatchSize
      rows rank.val index).length = setup.localBatchSize := by
  obtain ⟨_, _, _, _, divides, _⟩ := trains.exists_frozen
  have whole := Nat.div_mul_cancel (Nat.dvd_of_mod_eq_zero divides)
  have next := Nat.mul_le_mul_right setup.config.globalMicrobatchRows
    (Nat.succ_le_of_lt inside)
  have lastRank := Nat.mul_le_mul_right
    (setup.config.globalMicrobatchRows / worldSize)
    (Nat.succ_le_of_lt rank.isLt)
  rw [Nat.mul_comm] at whole
  rw [Nat.succ_mul] at next lastRank
  unfold TrajectoryConfig.updateRows at length
  rw [Nat.mul_comm] at length
  unfold rankReferences TrainingSetup.localBatchSize
  apply length_slice
  rw [length_slice (by omega)]
  omega

/-- The loaders of all ranks load the rows of an update. -/
theorem updateWindows_eq
    {rows : List Nat}
    (trained : Trained hash.bytes manifests directories
      manifest.sequenceLength rows)
    (length : rows.length = setup.config.updateRows) :
    setup.updateWindows rows =
      .ok ((List.finRange worldSize).map fun rank =>
        (List.range setup.config.gradientAccumulationSteps).map fun index =>
          PackedBatchCollator.batch manifest.sequenceLength
            ((rankReferences setup.config.globalMicrobatchRows
              setup.localBatchSize rows rank.val index).map
                (sampleOf manifests directories))) := by
  have positive := trains.localBatchSize_pos
  unfold TrainingSetup.updateWindows
  dsimp only
  apply checked_mapM_of_forall
  intro rank _
  apply checked_mapM_of_forall
  intro index member
  have full : (rankReferences setup.config.globalMicrobatchRows
      setup.localBatchSize rows rank.val index).length =
        setup.localBatchSize :=
    trains.length_rankReferences length (List.mem_range.mp member)
  have nonempty : rankReferences setup.config.globalMicrobatchRows
      setup.localBatchSize rows rank.val index ≠ [] := by
    intro missing
    rw [missing, List.length_nil] at full
    omega
  rw [trains.madeFor.fetch]
  exact trains.accepted.trainingBatch_eq_ok trains.loadable _ nonempty
    (trained.subset (rankReferences_subset _ _ _ _ _)).addressed

/-- The ranks together count what the rows of an update supervise. -/
theorem reduceWindowStats_eq
    {rows : List Nat}
    (trained : Trained hash.bytes manifests directories
      manifest.sequenceLength rows)
    (length : rows.length = setup.config.updateRows) :
    reduceWindowStats setup.localBatchSize setup.modelLossTokens
        ((List.finRange worldSize).map fun rank =>
          (List.range setup.config.gradientAccumulationSteps).map fun index =>
            PackedBatchCollator.batch manifest.sequenceLength
              ((rankReferences setup.config.globalMicrobatchRows
                setup.localBatchSize rows rank.val index).map
                  (sampleOf manifests directories))) =
      .ok (statsOf manifests directories manifest.sequenceLength rows) := by
  obtain ⟨_, _, _, _, divides, _⟩ := trains.exists_frozen
  have window (rank : Fin worldSize) :
      ((List.range setup.config.gradientAccumulationSteps).map fun index =>
        PackedBatchCollator.batch manifest.sequenceLength
          ((rankReferences setup.config.globalMicrobatchRows
            setup.localBatchSize rows rank.val index).map
              (sampleOf manifests directories))).mapM
          (microbatchStats setup.localBatchSize setup.modelLossTokens) =
        .ok ((List.range setup.config.gradientAccumulationSteps).map
          fun index => statsOf manifests directories manifest.sequenceLength
            (rankReferences setup.config.globalMicrobatchRows
              setup.localBatchSize rows rank.val index)) := by
    rw [List.mapM_map]
    apply checked_mapM_of_forall
    intro index member
    exact (trained.subset
      (rankReferences_subset _ _ _ _ _)).microbatchStats_eq
        trains.madeFor.reports
        (trains.length_rankReferences length (List.mem_range.mp member))
        trains.localBatchSize_pos
  have parts : ((List.finRange worldSize).map fun rank =>
      (List.range setup.config.gradientAccumulationSteps).map fun index =>
        PackedBatchCollator.batch manifest.sequenceLength
          ((rankReferences setup.config.globalMicrobatchRows
            setup.localBatchSize rows rank.val index).map
              (sampleOf manifests directories))).mapM (fun window => do
        let batches ← window.mapM
          (microbatchStats setup.localBatchSize setup.modelLossTokens)
        return WindowStats.total batches) =
      .ok ((List.finRange worldSize).map fun rank =>
        statsOf manifests directories manifest.sequenceLength
          ((List.range setup.config.gradientAccumulationSteps).flatMap
            fun index => rankReferences setup.config.globalMicrobatchRows
              setup.localBatchSize rows rank.val index)) := by
    rw [List.mapM_map]
    apply checked_mapM_of_forall
    intro rank _
    rw [Function.comp_apply, window rank, checked_ok_bind]
    apply checked_pure_eq_ok.mpr
    rw [List.flatMap_def, ← total_statsOf, List.map_map]
    rfl
  have drawn : ((List.finRange worldSize).flatMap fun rank =>
      (List.range setup.config.gradientAccumulationSteps).flatMap fun index =>
        rankReferences setup.config.globalMicrobatchRows setup.localBatchSize
          rows rank.val index).Perm rows := by
    apply rankReferences_perm divides
    rw [length, TrajectoryConfig.updateRows, Nat.mul_comm]
  have total : WindowStats.total ((List.finRange worldSize).map fun rank =>
      statsOf manifests directories manifest.sequenceLength
        ((List.range setup.config.gradientAccumulationSteps).flatMap
          fun index => rankReferences setup.config.globalMicrobatchRows
            setup.localBatchSize rows rank.val index)) =
      statsOf manifests directories manifest.sequenceLength rows := by
    rw [← statsOf_perm manifests directories manifest.sequenceLength drawn,
      List.flatMap_def, ← total_statsOf, List.map_map]
    rfl
  unfold reduceWindowStats
  rw [parts, checked_ok_bind, total]
  exact require_bind rfl _

/-- The rows of an update. -/
theorem length_updateRows
    {step : Nat}
    (inside : step < setup.config.maxSteps) :
    (slice (decodeWords referenceItemSize bytes)
      (step * setup.config.updateRows) setup.config.updateRows).length =
        setup.config.updateRows := by
  have bound := trains.updates_le (Nat.succ_le_of_lt inside)
  rw [Nat.succ_mul] at bound
  exact length_slice bound

/-- The window of an update passes its checks. -/
theorem checkWindow_eq
    {step : Nat}
    (inside : step < setup.config.maxSteps) :
    checkWindow setup.config setup.geometry
        (setup.config.countersAfter manifests directories
          manifest.sequenceLength (decodeWords referenceItemSize bytes) step)
        (statsOf manifests directories manifest.sequenceLength
          (slice (decodeWords referenceItemSize bytes)
            (step * setup.config.updateRows) setup.config.updateRows)) =
      .ok () := by
  obtain ⟨width, _, inputs, supervised, _, _⟩ := trains.geometry_eq
  have length := trains.length_updateRows inside
  have updatePositive : 0 < setup.config.updateRows :=
    Nat.mul_pos setup.config.globalMicrobatchRows_pos
      setup.config.gradientAccumulationSteps_pos
  have trained := trains.trained.subset
    (fun reference (member : reference ∈ slice
      (decodeWords referenceItemSize bytes)
        (step * setup.config.updateRows) setup.config.updateRows) =>
      List.mem_of_mem_drop (List.mem_of_mem_take member))
  have nonempty : slice (decodeWords referenceItemSize bytes)
      (step * setup.config.updateRows) setup.config.updateRows ≠ [] := by
    intro missing
    rw [missing, List.length_nil] at length
    omega
  have rows := totalOf_rowsIn trained.inDomains
  have next := congrArg TrainCounters.consumedInputTokens
    (setup.config.countersAfter_succ manifests directories
      manifest.sequenceLength (decodeWords referenceItemSize bytes) step
      length)
  have nextSupervised := congrArg TrainCounters.consumedSupervisedTokens
    (setup.config.countersAfter_succ manifests directories
      manifest.sequenceLength (decodeWords referenceItemSize bytes) step
      length)
  have below := setup.config.countersAfter_mono manifests directories
    manifest.sequenceLength (decodeWords referenceItemSize bytes)
    (Nat.succ_le_of_lt inside)
  unfold checkWindow
  dsimp only
  have positive : 1 ≤ (statsOf manifests directories manifest.sequenceLength
      (slice (decodeWords referenceItemSize bytes)
        (step * setup.config.updateRows)
        setup.config.updateRows)).lossTokens :=
    trained.supervised_pos nonempty
  rw [require_eq_ok positive, checked_ok_bind, require_eq_ok,
    checked_ok_bind, require_eq_ok, checked_ok_bind, require_eq_ok,
    checked_ok_bind, require_eq_ok, checked_ok_bind]
  · rfl
  · intro last
    rw [inputs, supervised, ← last]
    exact ⟨next.symm, nextSupervised.symm⟩
  · rw [inputs, supervised]
    exact ⟨next.symm.le.trans below.1, nextSupervised.symm.le.trans below.2⟩
  · rw [width]
    exact congrArg (· * manifest.sequenceLength) length
  · refine ⟨rows.trans length, ?_, rfl⟩
    unfold statsOf
    dsimp only
    rw [totalOf_mul, rows]

/-- An update of the prefix before it succeeds, and its counters are those of
the prefix with it. -/
theorem updateOfOrder_eq
    {step : Nat}
    {progress : TrainingProgress Weights Optimizer Host Device worldSize}
    (inside : step < setup.config.maxSteps)
    (counted : progress.counters = setup.config.countersAfter manifests
      directories manifest.sequenceLength
      (decodeWords referenceItemSize bytes) step) :
    ∃ next, setup.updateOfOrder (decodeWords referenceItemSize bytes) step
        progress = .ok next ∧
      next.counters = setup.config.countersAfter manifests directories
        manifest.sequenceLength (decodeWords referenceItemSize bytes)
        (step + 1) := by
  have length := trains.length_updateRows inside
  have trained := trains.trained.subset
    (fun reference (member : reference ∈ slice
      (decodeWords referenceItemSize bytes)
        (step * setup.config.updateRows) setup.config.updateRows) =>
      List.mem_of_mem_drop (List.mem_of_mem_take member))
  have steps : progress.counters.completedSteps = step := by
    rw [counted]
    rfl
  obtain ⟨rate, scheduled⟩ := learningRateForStep_isOk setup.cosine inside
  unfold TrainingSetup.updateOfOrder TrainingSetup.optimizerUpdate
  dsimp only
  rw [trains.updateWindows_eq trained length, checked_ok_bind, steps,
    scheduled, checked_ok_bind, trains.reduceWindowStats_eq trained length,
    checked_ok_bind, counted, trains.checkWindow_eq inside, checked_ok_bind]
  obtain ⟨⟨weights, optimizer, rngs⟩, updated⟩ := trains.madeFor.updates
    progress.weights progress.optimizer progress.rngs rate
    ((List.finRange worldSize).map fun rank =>
      (List.range setup.config.gradientAccumulationSteps).map fun index =>
        PackedBatchCollator.batch manifest.sequenceLength
          ((rankReferences setup.config.globalMicrobatchRows
            setup.localBatchSize
            (slice (decodeWords referenceItemSize bytes)
              (step * setup.config.updateRows) setup.config.updateRows)
            rank.val index).map (sampleOf manifests directories)))
  rw [updated, checked_ok_bind]
  refine ⟨_, rfl, ?_⟩
  exact (setup.config.countersAfter_succ manifests directories
    manifest.sequenceLength (decodeWords referenceItemSize bytes) step
    length).symm

/-! ## Checks of counters -/

/-- The rows of a prefix of whole updates. -/
theorem length_take_updates
    {step : Nat}
    (inside : step ≤ setup.config.maxSteps) :
    ((decodeWords referenceItemSize bytes).take
      (step * setup.config.updateRows)).length =
        step * setup.config.gradientAccumulationSteps *
          setup.config.globalMicrobatchRows := by
  rw [List.length_take, Nat.min_eq_left (trains.updates_le inside),
    Nat.mul_assoc, TrajectoryConfig.updateRows,
    Nat.mul_comm setup.config.globalMicrobatchRows]

/-- Counters at an accumulation boundary pass. -/
theorem checkCounters_eq
    {step : Nat}
    (inside : step ≤ setup.config.maxSteps) :
    setup.checkCounters (setup.config.countersAfter manifests directories
      manifest.sequenceLength (decodeWords referenceItemSize bytes) step) =
        .ok () := by
  have length := trains.length_take_updates inside
  have trained := trains.trained.subset (List.take_subset
    (step * setup.config.updateRows) (decodeWords referenceItemSize bytes))
  have below := trained.supervisedIn_le
  have rows := totalOf_rowsIn trained.inDomains
  unfold TrainingSetup.checkCounters
  rw [require_eq_ok, checked_ok_bind, require_eq_ok, checked_ok_bind,
    require_eq_ok, checked_ok_bind, require_eq_ok, checked_ok_bind]
  · rfl
  · intro none
    have zero : step = 0 := none
    subst zero
    rw [TrajectoryConfig.countersAfter_zero]
    exact ⟨rfl, rfl⟩
  · have total := totalOf_le below
    rw [totalOf_mul, rows] at total
    exact total
  · exact length
  · rfl

/-- Counters of the frozen authority pass. -/
theorem checkFrozenCounters_eq
    {step : Nat}
    (inside : step ≤ setup.config.maxSteps) :
    setup.checkFrozenCounters (setup.config.countersAfter manifests
      directories manifest.sequenceLength
      (decodeWords referenceItemSize bytes) step) = .ok () := by
  obtain ⟨width, _, _, supervised, inputsPerDomain, supervisedPerDomain⟩ :=
    trains.geometry_eq
  have length := trains.length_take_updates inside
  have trained := trains.trained.subset (List.take_subset
    (step * setup.config.updateRows) (decodeWords referenceItemSize bytes))
  have below := trained.supervisedIn_le
  have rows := totalOf_rowsIn trained.inDomains
  have grows := setup.config.countersAfter_mono manifests directories
    manifest.sequenceLength (decodeWords referenceItemSize bytes) inside
  unfold TrainingSetup.checkFrozenCounters
  dsimp only
  rw [require_eq_ok, checked_ok_bind, require_eq_ok, checked_ok_bind,
    require_eq_ok, checked_ok_bind, require_eq_ok, checked_ok_bind,
    require_eq_ok, checked_ok_bind, require_eq_ok, checked_ok_bind,
    require_eq_ok, checked_ok_bind]
  · rfl
  · intro final
    have last : step = setup.config.maxSteps := final
    rw [supervisedPerDomain, last]
  · intro final
    have last : step = setup.config.maxSteps := final
    rw [inputsPerDomain, last]
  · intro final
    have last : step = setup.config.maxSteps := final
    rw [supervised, last]
  · rw [supervised]
    exact grows.2
  · intro domain _
    rw [width]
    exact ⟨rfl, below domain⟩
  · refine ⟨rows, ?_, rfl⟩
    unfold TrajectoryConfig.countersAfter
    dsimp only
    rw [totalOf_mul, rows]
  · rw [width]
    exact congrArg (· * manifest.sequenceLength) length

/-- The checks at the end of `train` pass. -/
theorem checkFinal_eq (step : Nat) :
    setup.checkFinal (setup.config.countersAfter manifests directories
      manifest.sequenceLength (decodeWords referenceItemSize bytes) step) =
        .ok () := by
  obtain ⟨_, rows, inputs, supervised, inputsPerDomain,
    supervisedPerDomain⟩ := trains.geometry_eq
  unfold TrainingSetup.checkFinal
  dsimp only
  rw [rows, inputs, supervised, inputsPerDomain, supervisedPerDomain]
  rw [require_eq_ok, checked_ok_bind, require_eq_ok, checked_ok_bind,
    require_eq_ok, checked_ok_bind, require_eq_ok, checked_ok_bind,
    require_eq_ok, checked_ok_bind]
  · rfl
  all_goals
    intro final
    have last : step = setup.config.maxSteps := final
    rw [last]

end TrainsOrder

end CodingLlm
