import CodingLlm.Pretrain.OrderManifest

/-!
# Loading order manifests: consumption, budget and payload

The second half of `_load_order_manifest`: how much of an order training
consumes, how it meets the input-token target, and its payload file.
-/

namespace CodingLlm

open Words

variable {Digest Cursor : Type}

/-! ## Training consumption -/

/-- A frozen optimizer-update geometry. -/
structure FrozenGeometry where
  globalMicrobatchRows : Nat
  gradientAccumulationSteps : Nat
  globalMicrobatchRows_pos : 1 ≤ globalMicrobatchRows
  gradientAccumulationSteps_pos : 1 ≤ gradientAccumulationSteps

namespace FrozenGeometry

variable (geometry : FrozenGeometry) (rows : Nat)

/-- `optimizer_update_rows`. -/
def updateRows : Nat :=
  geometry.globalMicrobatchRows * geometry.gradientAccumulationSteps

/-- `optimizer_updates`. -/
def optimizerUpdates : Nat := rows / geometry.updateRows

/-- `consumed_rows`. -/
def consumedRows : Nat := geometry.optimizerUpdates rows * geometry.updateRows

/-- `consumed_global_microbatches`. -/
def consumedGlobalMicrobatches : Nat :=
  geometry.optimizerUpdates rows * geometry.gradientAccumulationSteps

/-- `available_global_microbatches`. -/
def availableGlobalMicrobatches : Nat := rows / geometry.globalMicrobatchRows

theorem updateRows_pos : 0 < geometry.updateRows :=
  Nat.mul_pos geometry.globalMicrobatchRows_pos
    geometry.gradientAccumulationSteps_pos

theorem consumedRows_le : geometry.consumedRows rows ≤ rows :=
  Nat.div_mul_le_self rows geometry.updateRows

theorem consumedRows_eq_mul :
    geometry.consumedRows rows =
      geometry.consumedGlobalMicrobatches rows *
        geometry.globalMicrobatchRows := by
  rw [consumedRows, consumedGlobalMicrobatches, updateRows, Nat.mul_assoc,
    Nat.mul_comm geometry.gradientAccumulationSteps]

theorem consumedGlobalMicrobatches_le :
    geometry.consumedGlobalMicrobatches rows ≤
      geometry.availableGlobalMicrobatches rows := by
  rw [availableGlobalMicrobatches,
    Nat.le_div_iff_mul_le geometry.globalMicrobatchRows_pos,
    ← consumedRows_eq_mul]
  exact geometry.consumedRows_le rows

end FrozenGeometry

/-- Frozen consumption: the geometry and the counts per domain. -/
structure FrozenConsumption extends FrozenGeometry where
  consumedRowsPerDomain : Domain -> Nat
  consumedSupervisedTokensPerDomain : Domain -> Nat
  droppedSupervisedTokensPerDomain : Domain -> Nat

/-- Consumption accounts for the rows and supervised tokens of an order. -/
structure FrozenConsumption.Accounts
    (frozen : FrozenConsumption) (rows : Nat)
    (rowsPerDomain validLossTokensPerDomain : Domain -> Nat) : Prop where
  optimizerUpdates_pos : 1 ≤ frozen.optimizerUpdates rows
  consumedRows_le : ∀ domain,
    frozen.consumedRowsPerDomain domain ≤ rowsPerDomain domain
  totalOf_consumedRows : totalOf frozen.consumedRowsPerDomain =
    frozen.consumedRows rows
  supervised_eq : ∀ domain,
    frozen.consumedSupervisedTokensPerDomain domain +
        frozen.droppedSupervisedTokensPerDomain domain =
      validLossTokensPerDomain domain

/-- `for field, expected in expected_scalars.items()`. -/
def requireScalars : List (String × PyValue × Nat) -> Checked Unit
  | [] => .ok ()
  | (field, value, expected) :: rest => do
      let _ ← require (value.EqualsInt expected)
        (.valueError ("Training-consumption " ++ field ++ " is inconsistent"))
      requireScalars rest

theorem requireScalars_eq_ok
    {scalars : List (String × PyValue × Nat)} {result : Unit} :
    requireScalars scalars = .ok result ↔
      ∀ scalar ∈ scalars, scalar.2.1.EqualsInt scalar.2.2 := by
  induction scalars with
  | nil => simp [requireScalars]
  | cons scalar rest inductionHypothesis =>
      rw [requireScalars, require_then_eq_ok, inductionHypothesis,
        List.forall_mem_cons]

/-- A mapping over the domains in `training_consumption`. -/
def requireMapping (field : String) (value : DomainField PyValue) :
    Checked (Domain -> PyValue) :=
  requireObject value.mapping?
    (.valueError ("Training-consumption " ++ field ++ " mapping is invalid"))

theorem requireMapping_eq_ok
    {field : String} {value : DomainField PyValue}
    {values : Domain -> PyValue} :
    requireMapping field value = .ok values ↔ value = .mapping values := by
  rw [requireMapping, requireObject_eq_ok, DomainField.mapping?_eq_some]

/-- What is consumed and dropped of one domain. -/
structure ConsumedDomain where
  rows : Nat
  supervised : Nat
  droppedSupervised : Nat

/-- The recorded values of one domain. -/
structure ConsumedDomainJson where
  rows : PyValue
  inputTokens : PyValue
  supervised : PyValue
  inputWeight : PyValue
  supervisedWeight : PyValue
  droppedRows : PyValue
  droppedInputTokens : PyValue
  droppedSupervised : PyValue

/-- The loop body over the domains. -/
def checkConsumedDomain
    (sequenceLength consumedRows totalConsumedSupervised : Nat)
    (selectedRows availableSupervised : Nat) (entry : ConsumedDomainJson) :
    Checked ConsumedDomain := do
  let rows ← requireNatural entry.rows
    (.valueError "Training-consumption per-domain row count is invalid")
  let _ ← require (rows ≤ selectedRows)
    (.valueError "Training-consumption per-domain row count is invalid")
  let _ ← require
    (entry.inputTokens.EqualsInt (rows * sequenceLength : Nat))
    (.valueError "Training-consumption per-domain token count is invalid")
  let _ ← require (entry.droppedRows.EqualsInt (selectedRows - rows : Nat))
    (.valueError "Training-consumption dropped per-domain count is invalid")
  let _ ← require
    (entry.droppedInputTokens.EqualsInt
      ((selectedRows - rows) * sequenceLength : Nat))
    (.valueError "Training-consumption dropped token count is invalid")
  let supervised ← requireNatural entry.supervised
    (.valueError "Training-consumption per-domain supervised count is invalid")
  let droppedSupervised ← requireNatural entry.droppedSupervised
    (.valueError "Training-consumption per-domain supervised count is invalid")
  let _ ← require (supervised + droppedSupervised = availableSupervised)
    (.valueError
      "Training-consumption per-domain supervised count is inconsistent")
  let _ ← require (entry.inputWeight.IsClose ((rows : Rat) / consumedRows))
    (.valueError "Training-consumption per-domain weight is invalid")
  let _ ← require
    (entry.supervisedWeight.IsClose
      (shareOf supervised totalConsumedSupervised))
    (.valueError
      "Training-consumption per-domain supervised weight is invalid")
  return ⟨rows, supervised, droppedSupervised⟩

/-- The values of one domain are recorded. -/
structure ConsumedDomain.Recorded
    (consumed : ConsumedDomain)
    (sequenceLength consumedRows totalConsumedSupervised : Nat)
    (selectedRows availableSupervised : Nat)
    (entry : ConsumedDomainJson) : Prop where
  rows : entry.rows = .int consumed.rows
  rows_le : consumed.rows ≤ selectedRows
  inputTokens : entry.inputTokens.EqualsInt
    (consumed.rows * sequenceLength : Nat)
  droppedRows : entry.droppedRows.EqualsInt (selectedRows - consumed.rows : Nat)
  droppedInputTokens : entry.droppedInputTokens.EqualsInt
    ((selectedRows - consumed.rows) * sequenceLength : Nat)
  supervised : entry.supervised = .int consumed.supervised
  droppedSupervised : entry.droppedSupervised =
    .int consumed.droppedSupervised
  supervised_eq : consumed.supervised + consumed.droppedSupervised =
    availableSupervised
  inputWeight : entry.inputWeight.IsClose
    ((consumed.rows : Rat) / consumedRows)
  supervisedWeight : entry.supervisedWeight.IsClose
    (shareOf consumed.supervised totalConsumedSupervised)

theorem checkConsumedDomain_eq_ok
    {sequenceLength consumedRows totalConsumedSupervised : Nat}
    {selectedRows availableSupervised : Nat} {entry : ConsumedDomainJson}
    {consumed : ConsumedDomain} :
    checkConsumedDomain sequenceLength consumedRows totalConsumedSupervised
        selectedRows availableSupervised entry = .ok consumed ↔
      consumed.Recorded sequenceLength consumedRows totalConsumedSupervised
        selectedRows availableSupervised entry := by
  simp only [checkConsumedDomain, checked_bind_eq_ok, exists_require,
    requireNatural_eq_ok, checked_pure_eq_ok]
  constructor
  · rintro ⟨_, rows, rowsLe, inputTokens, droppedRows, droppedInputTokens,
      _, supervised, _, droppedSupervised, supervisedEq, inputWeight,
      supervisedWeight, rfl⟩
    exact ⟨rows, rowsLe, inputTokens, droppedRows, droppedInputTokens,
      supervised, droppedSupervised, supervisedEq, inputWeight,
      supervisedWeight⟩
  · intro recorded
    exact ⟨_, recorded.rows, recorded.rows_le, recorded.inputTokens,
      recorded.droppedRows, recorded.droppedInputTokens,
      _, recorded.supervised, _, recorded.droppedSupervised,
      recorded.supervised_eq, recorded.inputWeight,
      recorded.supervisedWeight, rfl⟩

/-- The checks on consumption with a frozen geometry. -/
def checkFrozen
    (consumption : TrainingConsumptionJson) (rows sequenceLength : Nat)
    (rowsPerDomain validLossTokensPerDomain : Domain -> Nat) :
    Checked FrozenConsumption := do
  let globalMicrobatchRows ←
    requirePositive consumption.frozenGlobalMicrobatchRows
      (.valueError "Invalid frozen training geometry")
  let gradientAccumulationSteps ←
    requirePositive consumption.frozenGradientAccumulationSteps
      (.valueError "Invalid frozen training geometry")
  let geometry : FrozenGeometry := ⟨globalMicrobatchRows.val,
    gradientAccumulationSteps.val, positive_val globalMicrobatchRows,
    positive_val gradientAccumulationSteps⟩
  let _ ← require
    (consumption.frozenOptimizerUpdateRows.EqualsInt geometry.updateRows)
    (.valueError "Frozen optimizer-update row count is inconsistent")
  let _ ← require
    (consumption.policy = .str "complete-frozen-optimizer-updates-no-padding")
    (.valueError "Frozen training-consumption policy is invalid")
  let consumedRows := geometry.consumedRows rows
  let _ ← require (1 ≤ geometry.optimizerUpdates rows)
    (.valueError "Frozen optimizer update is larger than the order")
  requireScalars [
    ("available_global_microbatches", consumption.availableGlobalMicrobatches,
      geometry.availableGlobalMicrobatches rows),
    ("consumed_global_microbatches", consumption.consumedGlobalMicrobatches,
      geometry.consumedGlobalMicrobatches rows),
    ("dropped_global_microbatches", consumption.droppedGlobalMicrobatches,
      geometry.availableGlobalMicrobatches rows -
        geometry.consumedGlobalMicrobatches rows),
    ("dropped_partial_microbatch_rows",
      consumption.droppedPartialMicrobatchRows,
      rows % geometry.globalMicrobatchRows),
    ("optimizer_updates", consumption.optimizerUpdates,
      geometry.optimizerUpdates rows),
    ("consumed_rows", consumption.consumedRows, consumedRows),
    ("dropped_tail_rows", consumption.droppedTailRows, rows - consumedRows),
    ("consumed_input_tokens", consumption.consumedInputTokens,
      consumedRows * sequenceLength),
    ("dropped_input_tokens", consumption.droppedInputTokens,
      (rows - consumedRows) * sequenceLength)]
  let consumedCounts ← requireMapping "consumed_rows_per_domain"
    consumption.consumedRowsPerDomain
  let consumedTokens ← requireMapping "consumed_input_tokens_per_domain"
    consumption.consumedInputTokensPerDomain
  let consumedSupervised ←
    requireMapping "consumed_supervised_tokens_per_domain"
      consumption.consumedSupervisedTokensPerDomain
  let consumedWeights ← requireMapping "realized_consumed_input_token_weights"
    consumption.realizedConsumedInputTokenWeights
  let consumedSupervisedWeights ←
    requireMapping "realized_consumed_supervised_token_weights"
      consumption.realizedConsumedSupervisedTokenWeights
  let droppedCounts ← requireMapping "dropped_rows_per_domain"
    consumption.droppedRowsPerDomain
  let droppedTokens ← requireMapping "dropped_input_tokens_per_domain"
    consumption.droppedInputTokensPerDomain
  let droppedSupervised ← requireMapping "dropped_supervised_tokens_per_domain"
    consumption.droppedSupervisedTokensPerDomain
  let totalConsumedSupervised ←
    requireNatural consumption.consumedSupervisedTokens
      (.valueError "Training-consumption supervised-token totals are invalid")
  let totalDroppedSupervised ←
    requireNatural consumption.droppedSupervisedTokens
      (.valueError "Training-consumption supervised-token totals are invalid")
  let _ ← require
    (totalConsumedSupervised + totalDroppedSupervised =
      totalOf validLossTokensPerDomain)
    (.valueError "Training-consumption supervised-token totals are invalid")
  let domains ← forDomains fun domain =>
    checkConsumedDomain sequenceLength consumedRows totalConsumedSupervised
      (rowsPerDomain domain) (validLossTokensPerDomain domain)
      ⟨consumedCounts domain, consumedTokens domain,
        consumedSupervised domain, consumedWeights domain,
        consumedSupervisedWeights domain, droppedCounts domain,
        droppedTokens domain, droppedSupervised domain⟩
  let _ ← require
    ((totalOf fun domain => (domains domain).rows) = consumedRows)
    (.valueError "Training-consumption per-domain rows do not sum")
  let _ ← require
    ((totalOf fun domain => (domains domain).supervised) =
      totalConsumedSupervised)
    (.valueError "Training-consumption supervised tokens do not sum")
  let _ ← require
    ((totalOf fun domain => (domains domain).droppedSupervised) =
      totalDroppedSupervised)
    (.valueError "Training-consumption dropped supervised tokens do not sum")
  return {
    toFrozenGeometry := geometry
    consumedRowsPerDomain := fun domain => (domains domain).rows
    consumedSupervisedTokensPerDomain := fun domain =>
      (domains domain).supervised
    droppedSupervisedTokensPerDomain := fun domain =>
      (domains domain).droppedSupervised
  }

namespace FrozenConsumption

/-- The consumption of one domain. -/
def domain (frozen : FrozenConsumption) (domain : Domain) : ConsumedDomain where
  rows := frozen.consumedRowsPerDomain domain
  supervised := frozen.consumedSupervisedTokensPerDomain domain
  droppedSupervised := frozen.droppedSupervisedTokensPerDomain domain

/-- The document records frozen consumption. -/
structure Recorded
    (frozen : FrozenConsumption) (rows sequenceLength : Nat)
    (rowsPerDomain validLossTokensPerDomain : Domain -> Nat)
    (consumption : TrainingConsumptionJson) : Prop where
  globalMicrobatchRows : consumption.frozenGlobalMicrobatchRows =
    .int frozen.globalMicrobatchRows
  gradientAccumulationSteps : consumption.frozenGradientAccumulationSteps =
    .int frozen.gradientAccumulationSteps
  updateRows :
    consumption.frozenOptimizerUpdateRows.EqualsInt frozen.updateRows
  policy : consumption.policy =
    .str "complete-frozen-optimizer-updates-no-padding"
  availableGlobalMicrobatches :
    consumption.availableGlobalMicrobatches.EqualsInt
      (frozen.availableGlobalMicrobatches rows)
  consumedGlobalMicrobatches :
    consumption.consumedGlobalMicrobatches.EqualsInt
      (frozen.consumedGlobalMicrobatches rows)
  droppedGlobalMicrobatches :
    consumption.droppedGlobalMicrobatches.EqualsInt
      (frozen.availableGlobalMicrobatches rows -
        frozen.consumedGlobalMicrobatches rows : Nat)
  droppedPartialMicrobatchRows :
    consumption.droppedPartialMicrobatchRows.EqualsInt
      (rows % frozen.globalMicrobatchRows : Nat)
  optimizerUpdates :
    consumption.optimizerUpdates.EqualsInt (frozen.optimizerUpdates rows)
  consumedRows : consumption.consumedRows.EqualsInt (frozen.consumedRows rows)
  droppedTailRows : consumption.droppedTailRows.EqualsInt
    (rows - frozen.consumedRows rows : Nat)
  consumedInputTokens : consumption.consumedInputTokens.EqualsInt
    (frozen.consumedRows rows * sequenceLength : Nat)
  droppedInputTokens : consumption.droppedInputTokens.EqualsInt
    ((rows - frozen.consumedRows rows) * sequenceLength : Nat)
  consumedSupervisedTokens : consumption.consumedSupervisedTokens =
    .int (totalOf frozen.consumedSupervisedTokensPerDomain : Nat)
  droppedSupervisedTokens : consumption.droppedSupervisedTokens =
    .int (totalOf frozen.droppedSupervisedTokensPerDomain : Nat)
  domains : ∃ entries : Domain -> ConsumedDomainJson,
    consumption.consumedRowsPerDomain =
      .mapping (fun domain => (entries domain).rows) ∧
    consumption.consumedInputTokensPerDomain =
      .mapping (fun domain => (entries domain).inputTokens) ∧
    consumption.consumedSupervisedTokensPerDomain =
      .mapping (fun domain => (entries domain).supervised) ∧
    consumption.realizedConsumedInputTokenWeights =
      .mapping (fun domain => (entries domain).inputWeight) ∧
    consumption.realizedConsumedSupervisedTokenWeights =
      .mapping (fun domain => (entries domain).supervisedWeight) ∧
    consumption.droppedRowsPerDomain =
      .mapping (fun domain => (entries domain).droppedRows) ∧
    consumption.droppedInputTokensPerDomain =
      .mapping (fun domain => (entries domain).droppedInputTokens) ∧
    consumption.droppedSupervisedTokensPerDomain =
      .mapping (fun domain => (entries domain).droppedSupervised) ∧
    ∀ domain, (frozen.domain domain).Recorded sequenceLength
      (frozen.consumedRows rows)
      (totalOf frozen.consumedSupervisedTokensPerDomain)
      (rowsPerDomain domain) (validLossTokensPerDomain domain)
      (entries domain)

end FrozenConsumption

theorem checkFrozen_eq_ok
    {consumption : TrainingConsumptionJson} {rows sequenceLength : Nat}
    {rowsPerDomain validLossTokensPerDomain : Domain -> Nat}
    {frozen : FrozenConsumption} :
    checkFrozen consumption rows sequenceLength rowsPerDomain
        validLossTokensPerDomain = .ok frozen ↔
      frozen.Accounts rows rowsPerDomain validLossTokensPerDomain ∧
        frozen.Recorded rows sequenceLength rowsPerDomain
          validLossTokensPerDomain consumption := by
  simp only [checkFrozen, checked_bind_eq_ok, exists_require,
    requirePositive_eq_ok, requireScalars_eq_ok, requireMapping_eq_ok,
    requireNatural_eq_ok, forDomains_eq_ok, checkConsumedDomain_eq_ok,
    checked_pure_eq_ok, List.forall_mem_cons]
  constructor
  · rintro ⟨⟨_, _⟩, globalRows, ⟨_, _⟩, accumulation, updateRows, policy,
      updates, _, ⟨availableMicro, consumedMicro, droppedMicro, partialRows,
      optimizerUpdates, consumedRows, droppedRows, consumedInput,
      droppedInput, -⟩, counts, countsEq, tokens, tokensEq, supervised,
      supervisedEq, weights, weightsEq, supervisedWeights,
      supervisedWeightsEq, droppedCounts, droppedCountsEq, droppedTokens,
      droppedTokensEq, droppedSupervised, droppedSupervisedEq,
      _, totalConsumed, _, totalDropped, -, domains, every, rowsSum, rfl,
      rfl, rfl⟩
    exact ⟨⟨updates, fun domain => (every domain).rows_le, rowsSum,
        fun domain => (every domain).supervised_eq⟩,
      globalRows, accumulation, updateRows, policy, availableMicro,
      consumedMicro, droppedMicro, partialRows, optimizerUpdates,
      consumedRows, droppedRows, consumedInput, droppedInput, totalConsumed,
      totalDropped, fun domain => ⟨counts domain, tokens domain,
        supervised domain, weights domain, supervisedWeights domain,
        droppedCounts domain, droppedTokens domain,
        droppedSupervised domain⟩, countsEq, tokensEq, supervisedEq,
      weightsEq, supervisedWeightsEq, droppedCountsEq, droppedTokensEq,
      droppedSupervisedEq, every⟩
  · rintro ⟨accounts, recorded⟩
    obtain ⟨entries, counts, tokens, supervised, weights, supervisedWeights,
      droppedCounts, droppedTokens, droppedSupervised, every⟩ :=
      recorded.domains
    have totals : totalOf frozen.consumedSupervisedTokensPerDomain +
        totalOf frozen.droppedSupervisedTokensPerDomain =
          totalOf validLossTokensPerDomain := by
      rw [← totalOf_add]
      exact congrArg totalOf (funext accounts.supervised_eq)
    exact ⟨⟨_, frozen.globalMicrobatchRows_pos⟩,
      recorded.globalMicrobatchRows,
      ⟨_, frozen.gradientAccumulationSteps_pos⟩,
      recorded.gradientAccumulationSteps, recorded.updateRows,
      recorded.policy, accounts.optimizerUpdates_pos, (),
      ⟨recorded.availableGlobalMicrobatches,
        recorded.consumedGlobalMicrobatches,
        recorded.droppedGlobalMicrobatches,
        recorded.droppedPartialMicrobatchRows, recorded.optimizerUpdates,
        recorded.consumedRows, recorded.droppedTailRows,
        recorded.consumedInputTokens, recorded.droppedInputTokens, by simp⟩,
      _, counts, _, tokens, _, supervised, _, weights, _, supervisedWeights,
      _, droppedCounts, _, droppedTokens, _, droppedSupervised,
      _, recorded.consumedSupervisedTokens,
      _, recorded.droppedSupervisedTokens, totals,
      frozen.domain, every, accounts.totalOf_consumedRows, rfl, rfl, rfl⟩

namespace TrainingConsumptionJson

/-- The numbers that only a frozen geometry has. -/
def nullableValues (consumption : TrainingConsumptionJson) : List PyValue :=
  [consumption.consumedRows, consumption.droppedTailRows,
    consumption.availableGlobalMicrobatches,
    consumption.consumedGlobalMicrobatches,
    consumption.droppedGlobalMicrobatches,
    consumption.droppedPartialMicrobatchRows, consumption.optimizerUpdates,
    consumption.consumedInputTokens, consumption.droppedInputTokens,
    consumption.consumedSupervisedTokens,
    consumption.droppedSupervisedTokens]

/-- The mappings that only a frozen geometry has. -/
def nullableMappings (consumption : TrainingConsumptionJson) :
    List (DomainField PyValue) :=
  [consumption.consumedRowsPerDomain,
    consumption.consumedInputTokensPerDomain,
    consumption.consumedSupervisedTokensPerDomain,
    consumption.realizedConsumedInputTokenWeights,
    consumption.realizedConsumedSupervisedTokenWeights,
    consumption.droppedRowsPerDomain,
    consumption.droppedInputTokensPerDomain,
    consumption.droppedSupervisedTokensPerDomain]

/-- Consumption without a frozen geometry is recorded. -/
structure Unfrozen (consumption : TrainingConsumptionJson) : Prop where
  updateRows : consumption.frozenOptimizerUpdateRows = .null
  policy : consumption.policy = .str "runtime-training-geometry-not-frozen"
  values : ∀ value ∈ consumption.nullableValues, value = .null
  mappings : ∀ field ∈ consumption.nullableMappings, field.IsNull

end TrainingConsumptionJson

/-- The checks on consumption without a frozen geometry. -/
def checkUnfrozen (consumption : TrainingConsumptionJson) : Checked Unit := do
  let _ ← require (consumption.frozenOptimizerUpdateRows = .null)
    (.valueError "Unfrozen training consumption declares update rows")
  let _ ← require
    (consumption.policy = .str "runtime-training-geometry-not-frozen")
    (.valueError "Unfrozen training-consumption policy is invalid")
  let _ ← require
    ((∀ value ∈ consumption.nullableValues, value = .null) ∧
      ∀ field ∈ consumption.nullableMappings, field.IsNull)
    (.valueError "Unfrozen training consumption declares frozen counters")
  return ()

theorem checkUnfrozen_eq_ok
    {consumption : TrainingConsumptionJson} {result : Unit} :
    checkUnfrozen consumption = .ok result ↔ consumption.Unfrozen := by
  simp only [checkUnfrozen, require_then_eq_ok, checked_pure_eq_ok]
  constructor
  · rintro ⟨updateRows, policy, ⟨values, mappings⟩, -⟩
    exact ⟨updateRows, policy, values, mappings⟩
  · intro unfrozen
    exact ⟨unfrozen.updateRows, unfrozen.policy,
      ⟨unfrozen.values, unfrozen.mappings⟩, trivial⟩

/-- The checks on `training_consumption`. -/
def checkConsumption
    (document : OrderManifestJson Digest) (rows sequenceLength : Nat)
    (rowsPerDomain validLossTokensPerDomain : Domain -> Nat) :
    Checked (Option FrozenConsumption) := do
  let consumption ← requireObject document.trainingConsumption
    (.valueError "Order manifest is missing training_consumption")
  let _ ← require (consumption.orderRows.EqualsInt rows)
    (.valueError "Training-consumption order row count is inconsistent")
  let _ ← require
    (consumption.availableInputTokens.EqualsInt (rows * sequenceLength : Nat))
    (.valueError "Training-consumption available token count is inconsistent")
  let _ ← require
    (consumption.availableSupervisedTokens.EqualsInt
      (totalOf validLossTokensPerDomain : Nat))
    (.valueError
      "Training-consumption available supervised tokens are inconsistent")
  let _ ← require
    (consumption.frozenGlobalMicrobatchRows = .null ↔
      consumption.frozenGradientAccumulationSteps = .null)
    (.valueError "Frozen training geometry is only partially declared")
  if consumption.frozenGlobalMicrobatchRows = .null then do
    checkUnfrozen consumption
    return none
  else do
    let frozen ← checkFrozen consumption rows sequenceLength rowsPerDomain
      validLossTokensPerDomain
    return some frozen

/-- The document records what training consumes. -/
structure ConsumptionRecorded
    (frozen? : Option FrozenConsumption) (rows sequenceLength : Nat)
    (rowsPerDomain validLossTokensPerDomain : Domain -> Nat)
    (consumption : TrainingConsumptionJson) : Prop where
  orderRows : consumption.orderRows.EqualsInt rows
  availableInputTokens :
    consumption.availableInputTokens.EqualsInt (rows * sequenceLength : Nat)
  availableSupervisedTokens : consumption.availableSupervisedTokens.EqualsInt
    (totalOf validLossTokensPerDomain : Nat)
  unfrozen : frozen? = none ->
    consumption.frozenGlobalMicrobatchRows = .null ∧
      consumption.frozenGradientAccumulationSteps = .null ∧
      consumption.Unfrozen
  frozen : ∀ frozen ∈ frozen?,
    frozen.Accounts rows rowsPerDomain validLossTokensPerDomain ∧
      frozen.Recorded rows sequenceLength rowsPerDomain
        validLossTokensPerDomain consumption

theorem checkConsumption_eq_ok
    {document : OrderManifestJson Digest} {rows sequenceLength : Nat}
    {rowsPerDomain validLossTokensPerDomain : Domain -> Nat}
    {frozen? : Option FrozenConsumption} :
    checkConsumption document rows sequenceLength rowsPerDomain
        validLossTokensPerDomain = .ok frozen? ↔
      ∃ consumption, document.trainingConsumption = some consumption ∧
        ConsumptionRecorded frozen? rows sequenceLength rowsPerDomain
          validLossTokensPerDomain consumption := by
  simp only [checkConsumption, checked_bind_eq_ok, exists_require,
    requireObject_eq_ok]
  refine exists_congr fun consumption => and_congr_right fun _ => ?_
  constructor
  · rintro ⟨orderRows, inputTokens, supervised, partially, accepted⟩
    split at accepted
    · rename_i unfrozen
      obtain ⟨_, checked, equal⟩ := checked_bind_eq_ok.mp accepted
      cases checked_pure_eq_ok.mp equal
      exact ⟨orderRows, inputTokens, supervised,
        fun _ => ⟨unfrozen, partially.mp unfrozen,
          checkUnfrozen_eq_ok.mp checked⟩, nofun⟩
    · obtain ⟨frozen, checked, equal⟩ := checked_bind_eq_ok.mp accepted
      cases checked_pure_eq_ok.mp equal
      refine ⟨orderRows, inputTokens, supervised, nofun, ?_⟩
      intro _ member
      cases member
      exact checkFrozen_eq_ok.mp checked
  · intro recorded
    refine ⟨recorded.orderRows, recorded.availableInputTokens,
      recorded.availableSupervisedTokens, ?_⟩
    cases frozen? with
    | none =>
        obtain ⟨rows, accumulation, unfrozen⟩ := recorded.unfrozen rfl
        have checked : checkUnfrozen consumption = .ok () :=
          checkUnfrozen_eq_ok.mpr unfrozen
        refine ⟨⟨fun _ => accumulation, fun _ => rows⟩, ?_⟩
        rw [if_pos rows, checked]
        rfl
    | some frozen =>
        obtain ⟨accounts, written⟩ := recorded.frozen frozen rfl
        have rows : consumption.frozenGlobalMicrobatchRows ≠ .null := by
          rw [written.globalMicrobatchRows]
          nofun
        have accumulation :
            consumption.frozenGradientAccumulationSteps ≠ .null := by
          rw [written.gradientAccumulationSteps]
          nofun
        refine ⟨⟨fun equal => absurd equal rows,
          fun equal => absurd equal accumulation⟩, ?_⟩
        rw [if_neg rows, checkFrozen_eq_ok.mpr ⟨accounts, written⟩]
        rfl

/-! ## Input-token budget -/

/-- The rows of the largest selection at or below a token target. -/
def selectableRows
    (sequenceLength expectedTotal : Nat)
    (geometry : Option FrozenGeometry) : Nat :=
  match geometry with
  | none => expectedTotal / sequenceLength
  | some geometry =>
      expectedTotal / sequenceLength / geometry.updateRows *
        geometry.updateRows

/-- The rows that the budget accounts for: all, or the consumed ones. -/
def accountedRows (rows : Nat) (geometry : Option FrozenGeometry) : Nat :=
  match geometry with
  | none => rows
  | some geometry => geometry.consumedRows rows

/-- `accounting`. -/
def accountingName (geometry : Option FrozenGeometry) : String :=
  match geometry with
  | none => "available-order-inputs"
  | some _ => "consumed-complete-optimizer-update-inputs"

/-- An input-token target with its tolerance and weights. -/
structure InputTokenTarget where
  expectedTotal : Nat
  tolerance : Nat
  weights : DomainWeights

/-- The checks on the budget of an order without a target. -/
def checkUntargeted
    (budget : InputTokenBudgetJson) (rowSelection : RowSelection)
    (packedSurplusRows : Nat) : Checked Unit := do
  let _ ← require
    (rowSelection = .allPackedRows ∧ budget.delta = .null ∧
      budget.tolerance = .null ∧ packedSurplusRows = 0)
    (.valueError "Untargeted order selection/budget is invalid")
  return ()

/-- The checks on the budget of an order with a target. -/
def checkTargeted
    (budget : InputTokenBudgetJson) (expectedWeights : DomainField PyValue)
    (rowSelection : RowSelection) (rows sequenceLength : Nat)
    (rowsPerDomain : Domain -> Nat) (geometry : Option FrozenGeometry) :
    Checked InputTokenTarget := do
  let error := PyError.valueError "Targeted order selection/budget is invalid"
  let _ ← require (rowSelection = .strictWeightedTokenCap) error
  let target ← requirePositive budget.expectedTotal error
  let tolerance ← requireNatural budget.tolerance error
  let _ ← require (¬expectedWeights.IsNull) error
  let weights ← normalizeDomainWeights expectedWeights
  let selectedRows := selectableRows sequenceLength target.val geometry
  let _ ← require (rows = selectedRows)
    (.valueError "Targeted order row allocation is invalid")
  let counts ← strictWeightedRowCounts selectedRows weights
  let _ ← require (∀ domain ∈ Domain.order, rowsPerDomain domain = counts domain)
    (.valueError "Targeted order row allocation is invalid")
  let delta : Int :=
    (accountedRows rows geometry * sequenceLength : Nat) - (target.val : Int)
  let _ ← require
    (budget.delta.EqualsInt delta ∧ delta ≤ 0 ∧ -(tolerance : Int) ≤ delta)
    (.valueError "Targeted order token delta is invalid")
  return ⟨target.val, tolerance, weights⟩

/-- The checks on `input_token_budget`. -/
def checkBudget
    (document : OrderManifestJson Digest) (rowSelection : RowSelection)
    (rows sequenceLength : Nat) (counts : OrderCounts)
    (geometry : Option FrozenGeometry) : Checked (Option InputTokenTarget) := do
  let budget ← requireObject document.inputTokenBudget
    (.valueError "Order input-token budget schema is invalid")
  let _ ← require
    (budget.policy = .str ("packed_model_inputs_including_eos_" ++
        "excluding_lookahead_duplicates") ∧
      budget.direction = .str "at_or_below" ∧
      budget.availableTotal.EqualsInt (rows * sequenceLength : Nat) ∧
      budget.packedAvailableTotal.EqualsInt
        (counts.packedAvailableRows * sequenceLength : Nat) ∧
      budget.packedSurplusTotal.EqualsInt
        (counts.packedSurplusRows * sequenceLength : Nat))
    (.valueError "Order input-token budget schema is invalid")
  let _ ← require
    (budget.accounting = .str (accountingName geometry) ∧
      budget.actualTotal.EqualsInt
        (accountedRows rows geometry * sequenceLength : Nat))
    (.valueError "Order input-token budget accounting is invalid")
  if budget.expectedTotal = .null then do
    checkUntargeted budget rowSelection counts.packedSurplusRows
    return none
  else do
    let target ← checkTargeted budget document.expectedInputTokenWeights
      rowSelection rows sequenceLength counts.rowsPerDomain geometry
    return some target

/-- A target is recorded and met. -/
structure InputTokenTarget.Recorded
    (target : InputTokenTarget)
    (budget : InputTokenBudgetJson) (expectedWeights : DomainField PyValue)
    (rowSelection : RowSelection) (rows sequenceLength : Nat)
    (rowsPerDomain : Domain -> Nat) (geometry : Option FrozenGeometry) :
    Prop where
  rowSelection : rowSelection = .strictWeightedTokenCap
  expectedTotal : budget.expectedTotal = .int target.expectedTotal
  expectedTotal_pos : 1 ≤ target.expectedTotal
  tolerance : budget.tolerance = .int target.tolerance
  weights : normalizeDomainWeights expectedWeights = .ok target.weights
  rows_eq : rows = selectableRows sequenceLength target.expectedTotal geometry
  rowsPerDomain_eq : rowsPerDomain = weightedRowCounts rows target.weights
  delta : budget.delta.EqualsInt
    ((accountedRows rows geometry * sequenceLength : Nat) -
      (target.expectedTotal : Int))
  delta_le : accountedRows rows geometry * sequenceLength ≤
    target.expectedTotal
  le_delta : target.expectedTotal ≤
    accountedRows rows geometry * sequenceLength + target.tolerance

theorem checkTargeted_eq_ok
    {budget : InputTokenBudgetJson} {expectedWeights : DomainField PyValue}
    {rowSelection : RowSelection} {rows sequenceLength : Nat}
    {rowsPerDomain : Domain -> Nat} {geometry : Option FrozenGeometry}
    (rowsPos : 1 ≤ rows) {target : InputTokenTarget} :
    checkTargeted budget expectedWeights rowSelection rows sequenceLength
        rowsPerDomain geometry = .ok target ↔
      target.Recorded budget expectedWeights rowSelection rows sequenceLength
        rowsPerDomain geometry := by
  simp only [checkTargeted, checked_bind_eq_ok, exists_require,
    requirePositive_eq_ok, requireNatural_eq_ok,
    strictWeightedRowCounts_eq_ok, checked_pure_eq_ok]
  constructor
  · rintro ⟨selection, ⟨_, positive⟩, expectedTotal, _, tolerance, _, _,
      weights, rowsEq, _, ⟨-, rfl⟩, counts, ⟨delta, low, high⟩, rfl⟩
    refine ⟨selection, expectedTotal, positive, tolerance, weights, rowsEq,
      ?_, delta, by simp only at low ⊢; omega, by simp only at high ⊢; omega⟩
    rw [rowsEq]
    exact funext fun domain => counts domain (Domain.mem_order domain)
  · intro recorded
    have present : ¬expectedWeights.IsNull := by
      intro isNull
      have weights := recorded.weights
      cases expectedWeights with
      | null => cases weights
      | mapping => exact isNull
      | malformed => exact isNull
    have low := recorded.delta_le
    have high := recorded.le_delta
    have counts := recorded.rowsPerDomain_eq
    exact ⟨recorded.rowSelection, ⟨_, recorded.expectedTotal_pos⟩,
      recorded.expectedTotal, _, recorded.tolerance, present,
      _, recorded.weights, recorded.rows_eq,
      _, ⟨recorded.rows_eq ▸ rowsPos, rfl⟩,
      fun domain _ => recorded.rows_eq ▸ congrFun counts domain,
      ⟨recorded.delta, by simp only; omega, by simp only; omega⟩, rfl⟩

/-- The document records how the order meets its budget. -/
structure BudgetRecorded
    (target? : Option InputTokenTarget)
    (expectedWeights : DomainField PyValue) (rowSelection : RowSelection)
    (rows sequenceLength : Nat) (counts : OrderCounts)
    (geometry : Option FrozenGeometry) (budget : InputTokenBudgetJson) :
    Prop where
  policy : budget.policy = .str ("packed_model_inputs_including_eos_" ++
    "excluding_lookahead_duplicates")
  direction : budget.direction = .str "at_or_below"
  availableTotal :
    budget.availableTotal.EqualsInt (rows * sequenceLength : Nat)
  packedAvailableTotal : budget.packedAvailableTotal.EqualsInt
    (counts.packedAvailableRows * sequenceLength : Nat)
  packedSurplusTotal : budget.packedSurplusTotal.EqualsInt
    (counts.packedSurplusRows * sequenceLength : Nat)
  accounting : budget.accounting = .str (accountingName geometry)
  actualTotal : budget.actualTotal.EqualsInt
    (accountedRows rows geometry * sequenceLength : Nat)
  untargeted : target? = none ->
    budget.expectedTotal = .null ∧ rowSelection = .allPackedRows ∧
      budget.delta = .null ∧ budget.tolerance = .null ∧
      counts.packedSurplusRows = 0
  targeted : ∀ target ∈ target?,
    target.Recorded budget expectedWeights rowSelection rows sequenceLength
      counts.rowsPerDomain geometry

theorem checkBudget_eq_ok
    {document : OrderManifestJson Digest} {rowSelection : RowSelection}
    {rows sequenceLength : Nat} {counts : OrderCounts}
    {geometry : Option FrozenGeometry} {target? : Option InputTokenTarget}
    (rowsPos : 1 ≤ rows) :
    checkBudget document rowSelection rows sequenceLength counts geometry =
        .ok target? ↔
      ∃ budget, document.inputTokenBudget = some budget ∧
        BudgetRecorded target? document.expectedInputTokenWeights
          rowSelection rows sequenceLength counts geometry budget := by
  simp only [checkBudget, checked_bind_eq_ok, exists_require,
    requireObject_eq_ok]
  refine exists_congr fun budget => and_congr_right fun _ => ?_
  constructor
  · rintro ⟨⟨policy, direction, available, packedAvailable, packedSurplus⟩,
      ⟨accounting, actual⟩, accepted⟩
    split at accepted
    · rename_i untargeted
      obtain ⟨_, checked, equal⟩ := checked_bind_eq_ok.mp accepted
      cases checked_pure_eq_ok.mp equal
      rw [checkUntargeted, require_then_eq_ok] at checked
      exact ⟨policy, direction, available, packedAvailable, packedSurplus,
        accounting, actual, fun _ => ⟨untargeted, checked.1⟩, nofun⟩
    · obtain ⟨target, checked, equal⟩ := checked_bind_eq_ok.mp accepted
      cases checked_pure_eq_ok.mp equal
      refine ⟨policy, direction, available, packedAvailable, packedSurplus,
        accounting, actual, nofun, ?_⟩
      intro _ member
      cases member
      exact (checkTargeted_eq_ok rowsPos).mp checked
  · intro recorded
    refine ⟨⟨recorded.policy, recorded.direction, recorded.availableTotal,
        recorded.packedAvailableTotal, recorded.packedSurplusTotal⟩,
      ⟨recorded.accounting, recorded.actualTotal⟩, ?_⟩
    cases target? with
    | none =>
        obtain ⟨untargeted, rest⟩ := recorded.untargeted rfl
        rw [if_pos untargeted, checkUntargeted]
        simp only [require_bind rest]
        rfl
    | some target =>
        have written := recorded.targeted target rfl
        have present : budget.expectedTotal ≠ .null := by
          rw [written.expectedTotal]
          nofun
        rw [if_neg present, (checkTargeted_eq_ok rowsPos).mpr written]
        rfl

/-! ## The whole manifest -/

/-- A manifest that `_load_order_manifest` accepted.  The last four fields are
as found; only `validate_training_order` looks at them. -/
structure OrderManifest (Digest : Type) extends
    OrderHeader Digest, OrderCounts, OrderSupervision where
  datasetManifests : Domain -> DatasetReference Digest
  consumption : Option FrozenConsumption
  target : Option InputTokenTarget
  orderSha256 : Digest
  expectedInputTokenWeights : DomainField PyValue
  inputTokensPerDomain : DomainField PyValue
  realizedInputTokenWeights : DomainField PyValue
  realizedValidLossTokenWeights : DomainField PyValue
  totalOf_rowsPerDomain : totalOf rowsPerDomain = rows
  accounts : ∀ frozen ∈ consumption,
    frozen.Accounts rows rowsPerDomain validLossTokensPerDomain

/-- The frozen geometry of an order, if it has one. -/
def OrderManifest.geometry (manifest : OrderManifest Digest) :
    Option FrozenGeometry :=
  manifest.consumption.map FrozenConsumption.toFrozenGeometry

/-- The checks on the payload file; returns its digest and bytes. -/
def checkPayload [DecidableEq Digest]
    (sha256 : List Byte -> Digest) (verifyChecksum : Bool)
    (document : OrderManifestJson Digest) (directory : OrderDirectory Digest)
    (rows : Nat) : Checked (Digest × List Byte) := do
  let payload ← requireObject document.order
    (.valueError "Order payload metadata is invalid")
  let _ ← require (payload.path = .str "order.bin")
    (.valueError "Order payload path must be the canonical 'order.bin'")
  let expectedSha256 ← payload.sha256.requireSha256
  let bytes ← requireObject directory.payload
    (.ioError "Order file size mismatch")
  let _ ← require (bytes.length = rows * referenceItemSize)
    (.ioError "Order file size mismatch")
  let _ ← require (payload.bytes.EqualsInt (rows * referenceItemSize : Nat))
    (.valueError "Recorded order byte count is inconsistent")
  let _ ← require (verifyChecksum = true -> sha256 bytes = expectedSha256)
    (.ioError "Order checksum mismatch")
  return (expectedSha256, bytes)

/-- `_load_order_manifest`, with the payload that the returned path leads
to. -/
def loadOrderManifest [DecidableEq Digest]
    (sha256 : List Byte -> Digest) (verifyChecksum : Bool)
    (directory : OrderDirectory Digest) :
    Checked (OrderManifest Digest × List Byte) := do
  let document ← requireObject directory.manifest
    (.ioError "Order manifest must be a regular non-symlink file")
  let header ← checkHeader document
  let ⟨counts, totalRows⟩ ←
    checkCounts document header.rows header.sequenceLength
  let datasetManifests ← checkDatasets document
  let supervision ← checkSupervision document
  let ⟨consumption, checked⟩ ← evidence (checkConsumption document header.rows
    header.sequenceLength counts.rowsPerDomain
    supervision.validLossTokensPerDomain)
  let target ← checkBudget document header.rowSelection header.rows
    header.sequenceLength counts
    (consumption.map FrozenConsumption.toFrozenGeometry)
  let (orderSha256, bytes) ←
    checkPayload sha256 verifyChecksum document directory header.rows
  let manifest : OrderManifest Digest := {
    toOrderHeader := header
    toOrderCounts := counts
    toOrderSupervision := supervision
    datasetManifests, consumption, target, orderSha256
    expectedInputTokenWeights := document.expectedInputTokenWeights
    inputTokensPerDomain := document.inputTokensPerDomain
    realizedInputTokenWeights := document.realizedInputTokenWeights
    realizedValidLossTokenWeights := document.realizedValidLossTokenWeights
    totalOf_rowsPerDomain := totalRows
    accounts := fun frozen member => by
      obtain ⟨_, -, recorded⟩ := checkConsumption_eq_ok.mp checked
      exact (recorded.frozen frozen member).1
  }
  return (manifest, bytes)

/-- The document records a manifest. -/
structure OrderManifest.Recorded
    (manifest : OrderManifest Digest) (document : OrderManifestJson Digest) :
    Prop where
  header : manifest.toOrderHeader.Recorded document
  counts : manifest.toOrderCounts.Recorded manifest.sequenceLength document
  datasets : document.datasetManifests =
    .mapping fun domain => some (manifest.datasetManifests domain).toJson
  supervision : manifest.toOrderSupervision.Recorded document
  consumption : ∃ consumption,
    document.trainingConsumption = some consumption ∧
      ConsumptionRecorded manifest.consumption manifest.rows
        manifest.sequenceLength manifest.rowsPerDomain
        manifest.validLossTokensPerDomain consumption
  budget : ∃ budget, document.inputTokenBudget = some budget ∧
    BudgetRecorded manifest.target manifest.expectedInputTokenWeights
      manifest.rowSelection manifest.rows manifest.sequenceLength
      manifest.toOrderCounts manifest.geometry budget
  order : ∃ payload, document.order = some payload ∧
    payload.path = .str "order.bin" ∧
    payload.sha256 = .sha256 manifest.orderSha256 ∧
    payload.bytes.EqualsInt (manifest.rows * referenceItemSize : Nat)
  expectedInputTokenWeights : document.expectedInputTokenWeights =
    manifest.expectedInputTokenWeights
  inputTokensPerDomain : document.inputTokensPerDomain =
    manifest.inputTokensPerDomain
  realizedInputTokenWeights : document.realizedInputTokenWeights =
    manifest.realizedInputTokenWeights
  realizedValidLossTokenWeights : document.realizedValidLossTokenWeights =
    manifest.realizedValidLossTokenWeights

/-- What an order directory holds for a manifest and a payload to be loaded
from it. -/
structure Loads
    (sha256 : List Byte -> Digest) (verifyChecksum : Bool)
    (directory : OrderDirectory Digest) (manifest : OrderManifest Digest)
    (bytes : List Byte) : Prop where
  recorded : ∃ document, directory.manifest = some document ∧
    manifest.Recorded document
  payload : directory.payload = some bytes
  length_eq : bytes.length = manifest.rows * referenceItemSize
  checksum : verifyChecksum = true -> sha256 bytes = manifest.orderSha256

theorem checkPayload_eq_ok [DecidableEq Digest]
    {sha256 : List Byte -> Digest} {verifyChecksum : Bool}
    {document : OrderManifestJson Digest} {directory : OrderDirectory Digest}
    {rows : Nat} {orderSha256 : Digest} {bytes : List Byte} :
    checkPayload sha256 verifyChecksum document directory rows =
        .ok (orderSha256, bytes) ↔
      (∃ payload, document.order = some payload ∧
        payload.path = .str "order.bin" ∧
        payload.sha256 = .sha256 orderSha256 ∧
        payload.bytes.EqualsInt (rows * referenceItemSize : Nat)) ∧
      directory.payload = some bytes ∧
      bytes.length = rows * referenceItemSize ∧
      (verifyChecksum = true -> sha256 bytes = orderSha256) := by
  simp only [checkPayload, checked_bind_eq_ok, exists_require,
    requireObject_eq_ok, requireSha256_eq_ok, checked_pure_eq_ok,
    Prod.mk.injEq]
  constructor
  · rintro ⟨payload, found, path, _, digest, _, present, size, recordedSize,
      checksum, rfl, rfl⟩
    exact ⟨⟨payload, found, path, digest, recordedSize⟩, present, size,
      checksum⟩
  · rintro ⟨⟨payload, found, path, digest, recordedSize⟩, present, size,
      checksum⟩
    exact ⟨payload, found, path, _, digest, _, present, size, recordedSize,
      checksum, rfl, rfl⟩

/-- An order is loaded exactly when its directory records it. -/
theorem loadOrderManifest_eq_ok [DecidableEq Digest]
    {sha256 : List Byte -> Digest} {verifyChecksum : Bool}
    {directory : OrderDirectory Digest} {manifest : OrderManifest Digest}
    {bytes : List Byte} :
    loadOrderManifest sha256 verifyChecksum directory =
        .ok (manifest, bytes) ↔
      Loads sha256 verifyChecksum directory manifest bytes := by
  constructor
  · intro loaded
    simp only [loadOrderManifest, checked_bind_eq_ok, requireObject_eq_ok]
      at loaded
    obtain ⟨document, found, header, headerEq, ⟨counts, totalRows⟩, countsEq,
      datasets, datasetsEq, supervision, supervisionEq,
      ⟨consumption, consumptionEq⟩, -, target, targetEq,
      ⟨orderSha256, payload⟩, payloadEq, equal⟩ := loaded
    cases equal
    obtain ⟨order, present, size, checksum⟩ := checkPayload_eq_ok.mp payloadEq
    exact ⟨⟨document, found, checkHeader_eq_ok.mp headerEq,
      checkCounts_eq_ok.mp countsEq, checkDatasets_eq_ok.mp datasetsEq,
      checkSupervision_eq_ok.mp supervisionEq,
      checkConsumption_eq_ok.mp consumptionEq,
      (checkBudget_eq_ok header.rows_pos).mp targetEq, order,
      rfl, rfl, rfl, rfl⟩, present, size, checksum⟩
  · rintro ⟨⟨document, found, recorded⟩, present, size, checksum⟩
    have budget := recorded.budget
    rw [← recorded.expectedInputTokenWeights] at budget
    have payload := checkPayload_eq_ok.mpr
      ⟨recorded.order, present, size, checksum⟩
    unfold loadOrderManifest
    rw [found, requireObject_some, checked_ok_bind,
      checkHeader_eq_ok.mpr recorded.header, checked_ok_bind,
      show checkCounts document manifest.rows manifest.sequenceLength =
        .ok ⟨manifest.toOrderCounts, manifest.totalOf_rowsPerDomain⟩ from
        checkCounts_eq_ok.mpr recorded.counts, checked_ok_bind]
    dsimp only
    rw [checkDatasets_eq_ok.mpr recorded.datasets, checked_ok_bind,
      checkSupervision_eq_ok.mpr recorded.supervision, checked_ok_bind,
      evidence_eq_ok (checkConsumption_eq_ok.mpr recorded.consumption),
      checked_ok_bind]
    dsimp only
    rw [show checkBudget document manifest.rowSelection manifest.rows
        manifest.sequenceLength manifest.toOrderCounts
        (manifest.consumption.map FrozenConsumption.toFrozenGeometry) =
          .ok manifest.target from
        (checkBudget_eq_ok manifest.rows_pos).mpr budget, checked_ok_bind,
      payload, checked_ok_bind]
    simp only [recorded.expectedInputTokenWeights,
      recorded.inputTokensPerDomain, recorded.realizedInputTokenWeights,
      recorded.realizedValidLossTokenWeights]
    rfl

end CodingLlm
