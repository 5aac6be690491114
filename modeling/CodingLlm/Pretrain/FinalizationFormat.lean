import CodingLlm.Library.Transactions
import CodingLlm.Pretrain.ValidateTrainingOrder

/-!
# Files of a finalized corpus

The corpus root that a finalizer works on, the documents it publishes, and the
plan by which one order is built and recognised.  Documents of which a
finalizer only compares or copies the whole are values of a type `Json`.
-/

namespace CodingLlm

open CrashLogic

variable {Digest Cursor Json : Type}

/-- `PortableFinalizationError`. -/
def portableFinalizationError (text : String) : PyError := .runtimeError text

/-! ## Splits -/

namespace FinitelyMany

scoped instance : Fintype Split := ⟨{.train, .validation, .test}, by
  intro split
  cases split <;> decide⟩

scoped instance : Fintype Domain := ⟨{.python, .otherCode, .english}, by
  intro domain
  cases domain <;> decide⟩

end FinitelyMany

open scoped FinitelyMany

/-- `for split in SPLITS`, collecting what the body computes. -/
def forSplits (body : Split -> Checked α) : Checked (Split -> α) := do
  let train ← body .train
  let validation ← body .validation
  let test ← body .test
  return fun
    | .train => train
    | .validation => validation
    | .test => test

theorem forSplits_eq_ok
    {body : Split -> Checked α} {values : Split -> α} :
    forSplits body = .ok values ↔
      ∀ split, body split = .ok (values split) := by
  simp only [forSplits, checked_bind_eq_ok, checked_pure_eq_ok]
  constructor
  · rintro ⟨_, train, _, validation, _, test, rfl⟩ split
    cases split
    · exact train
    · exact validation
    · exact test
  · intro every
    refine ⟨_, every .train, _, every .validation, _, every .test, ?_⟩
    funext split
    cases split <;> rfl

/-! ## Configuration -/

/-- `EXPECTED_WEIGHTS`. -/
def expectedWeights : DomainWeights where
  weight := fun
    | .python => 2 / 5
    | .otherCode => 2 / 5
    | .english => 1 / 5
  nonneg := by
    intro domain
    cases domain <;> norm_num
  total_eq := by norm_num [totalOf_eq]

/-- The fields of `PortableFinalizationConfig` that decide what is published.
The paths of the authorities stand in the environment. -/
structure FinalizationConfig where
  orderSeed : Nat
  maximumTrainInputTokens : Nat
  maximumValidationInputTokens : Nat
  maximumTestInputTokens : Nat
  expectedOptimizerBatchRows : Nat
  worldSize : Nat
  maximumTrainInputTokens_pos : 1 ≤ maximumTrainInputTokens
  maximumValidationInputTokens_pos : 1 ≤ maximumValidationInputTokens
  maximumTestInputTokens_pos : 1 ≤ maximumTestInputTokens
  expectedOptimizerBatchRows_pos : 1 ≤ expectedOptimizerBatchRows
  worldSize_pos : 1 ≤ worldSize

/-- `caps`. -/
def FinalizationConfig.cap (config : FinalizationConfig) : Split -> Nat
  | .train => config.maximumTrainInputTokens
  | .validation => config.maximumValidationInputTokens
  | .test => config.maximumTestInputTokens

/-! ## Authorities -/

/-- The identity in the packed journal: the sequence length of its packing
configuration, and everything else. -/
structure PackedIdentity (Json : Type) where
  sequenceLength : Nat
  rest : Json
  deriving DecidableEq

/-- `.materialization-journal.json` of a packed corpus. -/
structure PackedJournal (Json : Type) where
  identity : PackedIdentity Json
  state : Json

/-- `manifest.json` of a document index. -/
structure IndexManifest (Json : Type) where
  documents : PyValue
  logicalStreamTokens : PyValue
  rest : Json

/-- `_ArchiveAuthority.source_provenance`. -/
structure RawArchive (Digest : Type) where
  archive : String
  sha256 : Digest
  documents : Nat
  contentTokens : Nat
  deriving DecidableEq

/-- The authorities that lie outside the corpus root. -/
structure ExternalAuthority (Digest Json : Type) where
  selection : Json
  selectionSha256 : Digest
  tokenizerManifest : Json
  cacheInventory : Json
  cacheInventorySha256 : Digest
  cacheSidecarSha256 : Digest

/-- What `authenticate` leaves in the finalizer. -/
structure Authority (Digest Cursor Json : Type) where
  journal : PackedJournal Json
  external : ExternalAuthority Digest Json
  archives : List (RawArchive Digest)
  packed : Split -> Domain -> PackedInput Digest Cursor
  documentIndexes : Split -> Domain -> IndexManifest Json
  archives_ne_nil : archives ≠ []

/-! ## Published documents -/

/-- The files that `_provenance_payloads` names. -/
inductive ProvenanceFile
  | source
  | policy
  | tokenizer
  | fingerprints
  | rawTokenCache
  | handoff
  deriving DecidableEq, Repr

namespace ProvenanceFile

instance : Fintype ProvenanceFile :=
  ⟨{.source, .policy, .tokenizer, .fingerprints, .rawTokenCache, .handoff}, by
    intro file
    cases file <;> decide⟩

/-- The files in the order of their names. -/
def sorted : List ProvenanceFile :=
  [.fingerprints, .handoff, .policy, .rawTokenCache, .source, .tokenizer]

@[simp] theorem mem_sorted (file : ProvenanceFile) : file ∈ sorted := by
  cases file <;> decide

end ProvenanceFile

/-- A provenance document; only `source.json` has `raw_archives`. -/
inductive ProvenancePayload (Digest Json : Type)
  | source (rawArchives : List (RawArchive Digest)) (rest : Json)
  | other (payload : Json)
  deriving DecidableEq

/-- `source.get("raw_archives")`. -/
def ProvenancePayload.rawArchives? :
    ProvenancePayload Digest Json -> Option (List (RawArchive Digest))
  | .source rawArchives _ => some rawArchives
  | .other _ => none

/-- `order_configuration`, without the weights, which are constant. -/
structure OrderConfiguration where
  orderSeeds : Split -> Nat
  frozenGlobalMicrobatchRows : Int
  frozenGradientAccumulationSteps : Int
  expectedInputTokens : Split -> PyValue
  inputTokenTolerance : Split -> PyValue
  deriving DecidableEq

/-- The entry of a packed directory; its paths are those of the domain. -/
structure PackedDescriptor (Digest : Type) where
  sha256 : Digest
  rows : Nat
  documents : Nat
  sourceContentTokens : Nat
  indexSha256 : Digest
  indexDocuments : PyValue
  indexLogicalStreamTokens : PyValue
  deriving DecidableEq

/-- The entry of an order; its path is that of the split. -/
structure OrderDescriptor (Digest : Type) where
  sha256 : Digest
  formatVersion : PyValue
  rows : PyValue
  packedAvailableRows : PyValue
  packedSurplusRows : PyValue
  authorizedInputTokens : PyValue
  deriving DecidableEq

/-- `manifest.json` of the corpus. -/
structure FinalManifest (Digest Json : Type) where
  identity : PackedIdentity Json
  orderConfiguration : OrderConfiguration
  archiveCount : Nat
  splitIsolation : Json
  packed : Split -> Domain -> PackedDescriptor Digest
  orders : Split -> OrderDescriptor Digest
  provenance : ProvenanceFile -> Digest
  packedJournalSha256 : Digest
  deriving DecidableEq

/-! ## The corpus root -/

/-- Files that are published through a temporary of `mkstemp`. -/
inductive Artifact
  | provenance (file : ProvenanceFile)
  | manifest
  | sidecar
  deriving DecidableEq

/-- The corpus root: what packing left, the orders and their staging
directories, the published documents, and for which of them a temporary lies
around.  The sidecar is its digest. -/
structure CorpusRoot (Digest Cursor Json : Type) where
  journal : Option (PackedJournal Json)
  packed : PackedStore Digest Cursor
  documentIndexes : Split -> Domain -> Option (IndexManifest Json)
  orders : Split -> Option (OrderDirectory Digest)
  staging : Split -> Option (OrderDirectory Digest)
  provenance : ProvenanceFile -> Option (ProvenancePayload Digest Json)
  manifest : Option (FinalManifest Digest Json)
  sidecar : Option Digest
  temporaries : List Artifact

/-- `file_sha256` of the documents in the corpus root. -/
structure CorpusHash (Digest Cursor Json : Type) extends
    FileHash Digest Cursor where
  journal : PackedJournal Json -> Digest
  documentIndex : IndexManifest Json -> Digest
  provenance : ProvenancePayload Digest Json -> Digest
  finalManifest : FinalManifest Digest Json -> Digest

/-- Programs over a corpus root. -/
abbrev Finalization (Digest Cursor Json α : Type) : Type :=
  Program (CorpusRoot Digest Cursor Json) PyError α

/-! ## Order plans -/

/-- The relative path of a packed manifest from either order directory. -/
def packedPath (split : Split) (domain : Domain) : RelativePath where
  path := "../../packed/" ++ split.name ++ "/" ++ domain.name ++
    "/manifest.json"
  path_ne_empty := by cases split <;> cases domain <;> decide
  relative := by cases split <;> cases domain <;> decide

/-- Everything that decides which order is built for a split. -/
@[ext] structure OrderPlan where
  split : Split
  seed : Nat
  geometry : Option FrozenGeometry
  expectedTokens : Nat
  actualTokens : Nat
  toleranceTokens : Nat

/-- A count that is `None` or an `int`, as it is written. -/
def optionalCount : Option Nat -> PyValue
  | none => .null
  | some count => .int count

/-- `value == expected` for `None` or an `int` on the right. -/
def PyValue.EqualsOptional (value : PyValue) : Option Nat -> Prop
  | none => value = .null
  | some count => value.EqualsInt count

instance (value : PyValue) : (expected : Option Nat) ->
    Decidable (value.EqualsOptional expected)
  | none => inferInstanceAs (Decidable (value = .null))
  | some count => inferInstanceAs (Decidable (value.EqualsInt count))

/-- `value == expected` for a mapping to floats on the right. -/
def DomainField.EqualsNumbers
    (field : DomainField PyValue) (expected : Domain -> Rat) : Prop :=
  match field with
  | .mapping values =>
      ∀ domain ∈ Domain.order, (values domain).number? = some (expected domain)
  | _ => False

instance : (field : DomainField PyValue) -> (expected : Domain -> Rat) ->
    Decidable (field.EqualsNumbers expected)
  | .mapping _, _ => inferInstanceAs (Decidable (∀ _ ∈ _, _))
  | .null, _ => .isFalse id
  | .malformed, _ => .isFalse id

namespace OrderPlan

/-- `global_microbatch_rows`. -/
def frozenRows (plan : OrderPlan) : Option Nat :=
  plan.geometry.map FrozenGeometry.globalMicrobatchRows

/-- `gradient_accumulation_steps`. -/
def frozenSteps (plan : OrderPlan) : Option Nat :=
  plan.geometry.map FrozenGeometry.gradientAccumulationSteps

/-- The arguments with which `_build_order` calls `build_training_order`. -/
def arguments (plan : OrderPlan) : OrderArguments where
  manifests := .mapping (packedPath plan.split)
  seed := plan.seed
  expectedWeights := .ofWeights expectedWeights.weight
  expectedTotalInputTokens := .int plan.expectedTokens
  inputTokenTolerance := .int plan.toleranceTokens
  frozenGlobalMicrobatchRows := optionalCount plan.frozenRows
  frozenGradientAccumulationSteps := optionalCount plan.frozenSteps

/-- The order manifest has the identity of the plan. -/
def MatchesIdentity
    (plan : OrderPlan) (document : OrderManifestJson Digest) : Prop :=
  document.formatVersion.EqualsInt orderFormatVersion ∧
    document.split = .str plan.split.name ∧
    document.seed.EqualsInt plan.seed ∧
    document.expectedInputTokenWeights.EqualsNumbers expectedWeights.weight

/-- The order manifest records the geometry of the plan. -/
def MatchesGeometry
    (plan : OrderPlan) (consumption : TrainingConsumptionJson) : Prop :=
  consumption.frozenGlobalMicrobatchRows.EqualsOptional plan.frozenRows ∧
    consumption.frozenGradientAccumulationSteps.EqualsOptional
      plan.frozenSteps

/-- The order manifest records the token target of the plan. -/
def MatchesBudget
    (plan : OrderPlan) (budget : InputTokenBudgetJson) : Prop :=
  budget.expectedTotal.EqualsInt plan.expectedTokens ∧
    budget.actualTotal.EqualsInt plan.actualTokens ∧
    budget.tolerance.EqualsInt plan.toleranceTokens

instance (plan : OrderPlan) (document : OrderManifestJson Digest) :
    Decidable (plan.MatchesIdentity document) :=
  inferInstanceAs (Decidable (_ ∧ _ ∧ _ ∧ _))

instance (plan : OrderPlan) (consumption : TrainingConsumptionJson) :
    Decidable (plan.MatchesGeometry consumption) :=
  inferInstanceAs (Decidable (_ ∧ _))

instance (plan : OrderPlan) (budget : InputTokenBudgetJson) :
    Decidable (plan.MatchesBudget budget) :=
  inferInstanceAs (Decidable (_ ∧ _ ∧ _))

end OrderPlan

end CodingLlm
