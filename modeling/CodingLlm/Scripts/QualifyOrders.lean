import CodingLlm.Pretrain.PortableFinalize

/-!
# Qualification of finalized orders

The part of `qualify_corpus` that decides whether three orders meet their token
targets, the acceptance policy in its receipt, and the part of
`inspect_corpus_qualification` that accepts a policy.
-/

namespace CodingLlm
namespace CorpusQualification

variable {Digest : Type}

/-! ## Configuration -/

/-- `QualificationError`. -/
def qualificationError (text : String) : PyError := .runtimeError text

/-- The fields of `QualificationConfig` that the acceptance policy records. -/
structure QualificationConfig where
  expectedTargets : Split -> Nat
  expectedWeights : Domain -> Rat
  mixtureAbsoluteTolerance : Rat
  maximumTargetShortfallFraction : Rat
  sampleRowsPerDomain : Nat
  sampleSeed : Nat
  worldSize : Nat

/-- The defaults of the qualifier, with explicit targets. -/
def QualificationConfig.withTargets (targets : Split -> Nat) :
    QualificationConfig where
  expectedTargets := targets
  expectedWeights := CodingLlm.expectedWeights.weight
  mixtureAbsoluteTolerance := 1 / 10 ^ 6
  maximumTargetShortfallFraction := 1 / 10 ^ 3
  sampleRowsPerDomain := 8
  sampleSeed := 20260901
  worldSize := 6

/-- `QualificationConfig.validate`. -/
def QualificationConfig.validate (config : QualificationConfig) :
    Checked Unit := do
  let _ ← require (∀ split ∈ Split.all, 1 ≤ config.expectedTargets split)
    (qualificationError "Expected token target must be positive")
  let _ ← require (∀ domain ∈ Domain.order, 0 < config.expectedWeights domain)
    (qualificationError
      "Expected mixture weights must be finite and positive")
  let _ ← require (|totalOf config.expectedWeights - 1| ≤ 1 / 10 ^ 15)
    (qualificationError "Expected mixture weights must sum exactly to one")
  let _ ← require (0 ≤ config.mixtureAbsoluteTolerance)
    (qualificationError "Mixture tolerance must be finite and non-negative")
  let _ ← require
    (0 ≤ config.maximumTargetShortfallFraction ∧
      config.maximumTargetShortfallFraction < 1)
    (qualificationError
      "Maximum target shortfall fraction must be in [0, 1)")
  let _ ← require (1 ≤ config.sampleRowsPerDomain)
    (qualificationError "sample_rows_per_domain must be a positive integer")
  let _ ← require (1 ≤ config.worldSize)
    (qualificationError "world_size must be a positive integer")
  let _ ← require (config.worldSize = 6)
    (qualificationError
      "This production gate requires exactly six DDP ranks")
  return ()

/-! ## Orders -/

/-- The summary of an order in the receipt. -/
structure OrderSummary where
  rows : Nat
  rowsPerDomain : Domain -> Nat
  expectedInputTokens : Nat
  actualInputTokens : Nat
  shortfallTokens : Int
  maximumAcceptedShortfallTokens : Int
  mixtureDelta : Domain -> Rat

/-- `actual_total` of the budget of an order. -/
def actualTokens (order : OrderManifest Digest) : Nat :=
  accountedRows order.rows order.geometry * order.sequenceLength

/-- `expected_total` of the budget of an order. -/
def expectedTotal? (order : OrderManifest Digest) : Option Nat :=
  order.target.map InputTokenTarget.expectedTotal

/-- The frozen geometry that a split must have. -/
def checkConsumptionGeometry
    (config : QualificationConfig) (split : Split)
    (order : OrderManifest Digest) : Checked Unit :=
  match split, order.consumption with
  | .train, some frozen => do
      let _ ← require
        (config.worldSize ≤ frozen.globalMicrobatchRows ∧
          frozen.globalMicrobatchRows % config.worldSize = 0)
        (qualificationError <|
          "Frozen train global microbatch must be a positive multiple of "
            ++ "world size")
      let _ ← require
        (order.rows - frozen.consumedRows order.rows = 0)
        (qualificationError
          "Frozen train order drops rows or would require padding")
      let _ ← require (1 ≤ frozen.optimizerUpdates order.rows)
        (qualificationError
          "Frozen train order has no complete optimizer update")
      return ()
  | .train, none =>
      .error (qualificationError <|
        "Frozen train global microbatch must be a positive multiple of "
          ++ "world size")
  | _, none => .ok ()
  | split, some _ =>
      .error (qualificationError
        s!"Held-out {split.name} order unexpectedly freezes train geometry")

/-- The part of `_validate_order_and_packed` on the target, the mixture and
the geometry of a validated order. -/
def checkOrder
    (config : QualificationConfig) (split : Split)
    (order : OrderManifest Digest) : Checked OrderSummary := do
  let _ ← require (order.split = split.name)
    (qualificationError s!"Order split mismatch: expected {split.name}")
  let actual := actualTokens order
  let expected := config.expectedTargets split
  let _ ← require (expectedTotal? order = some expected)
    (qualificationError
      s!"{split.name} order target is not the expected {expected}")
  let shortfall : Int := expected - actual
  let maximumShortfall :=
    ((expected : Rat) * config.maximumTargetShortfallFraction).ceil
  let _ ← require (0 ≤ shortfall ∧ shortfall ≤ maximumShortfall)
    (qualificationError <|
      s!"{split.name} token shortfall {shortfall} exceeds acceptance limit "
        ++ s!"{maximumShortfall}")
  let _ ← require
    (order.expectedInputTokenWeights.AllClose config.expectedWeights)
    (qualificationError
      s!"{split.name} order does not authorize the 40/40/20 mixture")
  let realized ← requireObject order.realizedInputTokenWeights.mapping?
    (qualificationError s!"{split.name} order has no realized mixture")
  let _ ← require
    (∀ domain ∈ Domain.order, (realized domain).float?.isSome = true)
    (.typeError "could not convert to float")
  let delta (domain : Domain) : Rat :=
    (realized domain).float?.getD 0 - config.expectedWeights domain
  let _ ← require
    (∀ domain ∈ Domain.order, |delta domain| ≤ config.mixtureAbsoluteTolerance)
    (qualificationError s!"{split.name} realized mixture exceeds tolerance")
  let _ ← require (config.worldSize ≤ order.rows)
    (qualificationError <|
      s!"{split.name} has {order.rows} rows, fewer than {config.worldSize} "
        ++ "DDP ranks")
  checkConsumptionGeometry config split order
  return ⟨order.rows, order.rowsPerDomain, expected, actual, shortfall,
    maximumShortfall, delta⟩

/-! ## The acceptance policy -/

/-- `acceptance_policy`. -/
structure AcceptancePolicy where
  worldSize : Nat
  expectedInputTokens : Split -> Nat
  maximumTargetShortfallFraction : Rat
  expectedInputTokenWeights : Domain -> Rat
  mixtureAbsoluteTolerance : Rat
  sampleRowsPerDomain : Nat
  sampleSeed : Nat
  fullPackedPayloadChecksums : Bool
  fullPackedSemanticScan : Bool
  fullOrderUniquenessScan : Bool
  fullDocumentIndexScan : Bool
  exactDiskBackedSplitIdentityScan : Bool

/-- The policy in the receipt of `qualify_corpus`. -/
def QualificationConfig.acceptancePolicy (config : QualificationConfig) :
    AcceptancePolicy where
  worldSize := config.worldSize
  expectedInputTokens := config.expectedTargets
  maximumTargetShortfallFraction := config.maximumTargetShortfallFraction
  expectedInputTokenWeights := config.expectedWeights
  mixtureAbsoluteTolerance := config.mixtureAbsoluteTolerance
  sampleRowsPerDomain := config.sampleRowsPerDomain
  sampleSeed := config.sampleSeed
  fullPackedPayloadChecksums := true
  fullPackedSemanticScan := true
  fullOrderUniquenessScan := true
  fullDocumentIndexScan := true
  exactDiskBackedSplitIdentityScan := true

/-- `RunAuthorityError`. -/
def runAuthorityError (text : String) : PyError := .runtimeError text

/-- `EXPECTED_INPUT_TOKEN_TARGETS`. -/
def expectedInputTokenTargets : Split -> Nat
  | .train => 52580000000
  | .validation => 500000000
  | .test => 500000000

/-- The part of `inspect_corpus_qualification` on the acceptance policy. -/
def inspectAcceptancePolicy (policy : AcceptancePolicy) : Checked Unit := do
  let _ ← require (policy.worldSize = 6)
    (runAuthorityError "Corpus qualification must target exactly six ranks")
  let _ ← require
    (∀ split ∈ Split.all,
      policy.expectedInputTokens split = expectedInputTokenTargets split)
    (runAuthorityError
      "Corpus qualification token targets differ from production")
  let _ ← require
    (∀ domain ∈ Domain.order, policy.expectedInputTokenWeights domain =
      CodingLlm.expectedWeights.weight domain)
    (runAuthorityError "Corpus qualification mixture differs from 40/40/20")
  let _ ← require
    (0 ≤ policy.maximumTargetShortfallFraction ∧
      policy.maximumTargetShortfallFraction ≤ 1 / 10 ^ 3)
    (runAuthorityError
      "Corpus qualification target-shortfall tolerance is too loose")
  let _ ← require
    (0 ≤ policy.mixtureAbsoluteTolerance ∧
      policy.mixtureAbsoluteTolerance ≤ 1 / 10 ^ 6)
    (runAuthorityError
      "Corpus qualification mixture tolerance is too loose")
  let _ ← require (8 ≤ policy.sampleRowsPerDomain)
    (runAuthorityError
      "Corpus qualification sampling policy is insufficient")
  let _ ← require
    (policy.fullPackedPayloadChecksums = true ∧
      policy.fullPackedSemanticScan = true ∧
      policy.fullOrderUniquenessScan = true ∧
      policy.fullDocumentIndexScan = true ∧
      policy.exactDiskBackedSplitIdentityScan = true)
    (runAuthorityError "Corpus qualification disabled required check")
  return ()

/-! ## From a supply to a policy -/

variable {Cursor Json : Type} [DecidableEq Digest]

/-- The configuration of a finalizer with the default caps. -/
def productionFinalization (orderSeed : Nat) : FinalizationConfig where
  orderSeed := orderSeed
  maximumTrainInputTokens := 52580000000
  maximumValidationInputTokens := 500000000
  maximumTestInputTokens := 500000000
  expectedOptimizerBatchRows := 192
  worldSize := 6
  maximumTrainInputTokens_pos := by decide
  maximumValidationInputTokens_pos := by decide
  maximumTestInputTokens_pos := by decide
  expectedOptimizerBatchRows_pos := by decide
  worldSize_pos := by decide

/-- The order of a split that a finalizer plans and builds, as the qualifier
reads it. -/
def finalizedOrder
    (environment : FinalizerEnvironment Digest Cursor Json)
    (store : PackedStore Digest Cursor)
    (authority : Authority Digest Cursor Json)
    (config : FinalizationConfig)
    (geometry : FrozenGeometry)
    (split : Split) : Checked (OrderManifest Digest) := do
  let plan ← authority.orderPlan config split (some geometry)
  let (directory, _) ← environment.intendedOrder store plan
  validateTrainingOrder environment.hash.toFileHash store true directory

/-- Finalizing under the default caps, qualifying with the totals that the
orders expect, and passing the policy on. -/
def authorizePolicy
    (environment : FinalizerEnvironment Digest Cursor Json)
    (store : PackedStore Digest Cursor)
    (authority : Authority Digest Cursor Json)
    (orderSeed : Nat)
    (geometry : FrozenGeometry) : Checked AcceptancePolicy := do
  let orders ← forSplits (finalizedOrder environment store authority
    (productionFinalization orderSeed) geometry)
  let targets ← forSplits fun split => requireObject
    (expectedTotal? (orders split))
    (qualificationError "Expected token target must be positive")
  let config := QualificationConfig.withTargets targets
  config.validate
  let _ ← forSplits fun split => checkOrder config split (orders split)
  let policy := config.acceptancePolicy
  inspectAcceptancePolicy policy
  return policy

end CorpusQualification
end CodingLlm
