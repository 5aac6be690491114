import CodingLlm.Pretrain.PackedManifest
import CodingLlm.Pretrain.Directory

/-!
# The order format

The JSON document and the payload of a training order, and the checked manifest
that loading them yields.
-/

namespace CodingLlm

open Words

variable {Digest Cursor : Type}

/-- `ORDER_FORMAT_VERSION`. -/
def orderFormatVersion : Nat := 4

/-- `REFERENCE_DTYPE.str`. -/
def referenceDtype : String := "<u8"

/-- `REFERENCE_DTYPE.itemsize`. -/
def referenceItemSize : Nat := 8

/-- `ORDER_SHUFFLE`. -/
def orderShuffle : String := "full-uniform-permutation-without-replacement"

/-- `ORDER_CAPPED_SHUFFLE`. -/
def orderCappedShuffle : String :=
  "independent-full-domain-permutations-select-prefix-then-global-uniform-" ++
    "permutation-without-replacement"

/-- `ORDER_RNG`. -/
def orderRng : String := "numpy.random.PCG64"

/-- `ORDER_CAPPED_SEED_DERIVATION`. -/
def orderCappedSeedDerivation : String :=
  "sha256(seed-nul-namespace)-first-128-bits-big-endian"

/-! ## Values per domain -/

/-- `sum(values.values())` of a mapping from the domains. -/
def totalOf [Zero α] [Add α] (values : Domain -> α) : α :=
  (Domain.order.map values).sum

theorem totalOf_eq [AddMonoid α] (values : Domain -> α) :
    totalOf values =
      values .python + (values .otherCode + values .english) := by
  simp [totalOf, Domain.order]

theorem totalOf_add (first second : Domain -> Nat) :
    totalOf (fun domain => first domain + second domain) =
      totalOf first + totalOf second := by
  simp only [totalOf_eq]
  omega

theorem totalOf_mul (values : Domain -> Nat) (factor : Nat) :
    totalOf (fun domain => values domain * factor) =
      totalOf values * factor := by
  simp only [totalOf_eq, Nat.add_mul]

theorem totalOf_le
    {first second : Domain -> Nat}
    (below : ∀ domain, first domain ≤ second domain) :
    totalOf first ≤ totalOf second := by
  have python := below .python
  have otherCode := below .otherCode
  have english := below .english
  simp only [totalOf_eq]
  omega

/-- A JSON value where an object with exactly the domains as keys is
expected. -/
inductive DomainField (α : Type)
  | null
  | mapping (values : Domain -> α)
  | malformed

namespace DomainField

/-- `isinstance(value, dict) and set(value) == set(DOMAIN_ORDER)`. -/
def mapping? : DomainField α -> Option (Domain -> α)
  | .mapping values => some values
  | _ => none

/-- `value is None`. -/
def IsNull : DomainField α -> Prop
  | .null => True
  | _ => False

instance : (field : DomainField α) -> Decidable field.IsNull
  | .null => .isTrue trivial
  | .mapping _ => .isFalse id
  | .malformed => .isFalse id

/-- `value == expected` for a mapping to `int` on the right. -/
def EqualsInts
    (field : DomainField PyValue) (expected : Domain -> Int) : Prop :=
  match field with
  | .mapping values =>
      ∀ domain ∈ Domain.order, (values domain).EqualsInt (expected domain)
  | _ => False

instance : (field : DomainField PyValue) -> (expected : Domain -> Int) ->
    Decidable (field.EqualsInts expected)
  | .mapping _, _ => inferInstanceAs (Decidable (∀ _ ∈ _, _))
  | .null, _ => .isFalse id
  | .malformed, _ => .isFalse id

/-- A mapping to counts, as it is written. -/
def ofCounts (counts : Domain -> Nat) : DomainField PyValue :=
  .mapping fun domain => .int (counts domain)

@[simp] theorem mapping?_mapping (values : Domain -> α) :
    (mapping values).mapping? = some values := rfl

theorem mapping?_eq_some
    {field : DomainField α} {values : Domain -> α} :
    field.mapping? = some values ↔ field = .mapping values := by
  cases field <;> simp [mapping?]

@[simp] theorem isNull_null : (null : DomainField α).IsNull := trivial

@[simp] theorem equalsInts_mapping_int
    (counts : Domain -> Int) (expected : Domain -> Int) :
    (mapping fun domain => .int (counts domain)).EqualsInts expected ↔
      counts = expected := by
  simp only [EqualsInts, PyValue.equalsInt_int, Domain.mem_order,
    forall_const]
  exact funext_iff.symm

end DomainField

/-! ## The document -/

/-- One entry of `dataset_manifests`. -/
structure DatasetManifestJson (Digest : Type) where
  path : PyValue
  sha256 : DigestField Digest

/-- The `training_consumption` object. -/
structure TrainingConsumptionJson where
  policy : PyValue
  frozenGlobalMicrobatchRows : PyValue
  frozenGradientAccumulationSteps : PyValue
  frozenOptimizerUpdateRows : PyValue
  orderRows : PyValue
  consumedRows : PyValue
  droppedTailRows : PyValue
  availableGlobalMicrobatches : PyValue
  consumedGlobalMicrobatches : PyValue
  droppedGlobalMicrobatches : PyValue
  droppedPartialMicrobatchRows : PyValue
  optimizerUpdates : PyValue
  availableInputTokens : PyValue
  availableSupervisedTokens : PyValue
  consumedInputTokens : PyValue
  droppedInputTokens : PyValue
  consumedSupervisedTokens : PyValue
  droppedSupervisedTokens : PyValue
  consumedRowsPerDomain : DomainField PyValue
  consumedInputTokensPerDomain : DomainField PyValue
  consumedSupervisedTokensPerDomain : DomainField PyValue
  realizedConsumedInputTokenWeights : DomainField PyValue
  realizedConsumedSupervisedTokenWeights : DomainField PyValue
  droppedRowsPerDomain : DomainField PyValue
  droppedInputTokensPerDomain : DomainField PyValue
  droppedSupervisedTokensPerDomain : DomainField PyValue

/-- The `input_token_budget` object. -/
structure InputTokenBudgetJson where
  policy : PyValue
  direction : PyValue
  expectedTotal : PyValue
  actualTotal : PyValue
  availableTotal : PyValue
  packedAvailableTotal : PyValue
  packedSurplusTotal : PyValue
  accounting : PyValue
  delta : PyValue
  tolerance : PyValue

/-- The `order` object. -/
structure OrderPayloadJson (Digest : Type) where
  path : PyValue
  bytes : PyValue
  sha256 : DigestField Digest

/-- `manifest.json` of an order directory as found on disk.  A nested object
that is none is `none`; `encoding` holds its domain bits and row bits. -/
structure OrderManifestJson (Digest : Type) where
  format : PyValue
  formatVersion : PyValue
  referenceDtype : PyValue
  encoding : Option (PyValue × PyValue)
  domainOrder : Option (List PyValue)
  rowsPerDomain : DomainField PyValue
  rows : PyValue
  packedAvailableRows : PyValue
  packedAvailableRowsPerDomain : DomainField PyValue
  packedAvailableInputTokens : PyValue
  packedAvailableInputTokensPerDomain : DomainField PyValue
  packedAvailableSupervisedTokens : PyValue
  packedAvailableSupervisedTokensPerDomain : DomainField PyValue
  packedSurplusRows : PyValue
  packedSurplusRowsPerDomain : DomainField PyValue
  packedSurplusInputTokens : PyValue
  packedSurplusInputTokensPerDomain : DomainField PyValue
  packedSurplusSupervisedTokens : PyValue
  packedSurplusSupervisedTokensPerDomain : DomainField PyValue
  split : PyValue
  sequenceLength : PyValue
  vocabSize : PyValue
  eosTokenId : PyValue
  seed : PyValue
  rng : PyValue
  seedDerivation : PyValue
  numpyVersion : PyValue
  shuffle : PyValue
  rowSelection : PyValue
  tokenizerManifestSha256 : DigestField Digest
  expectedInputTokenWeights : DomainField PyValue
  inputTokensPerDomain : DomainField PyValue
  realizedInputTokenWeights : DomainField PyValue
  validLossTokensPerDomain : DomainField PyValue
  realizedValidLossTokenWeights : DomainField PyValue
  trainingConsumption : Option TrainingConsumptionJson
  inputTokenBudget : Option InputTokenBudgetJson
  datasetManifests : DomainField (Option (DatasetManifestJson Digest))
  order : Option (OrderPayloadJson Digest)

/-! ## The directory -/

/-- An order directory: its `manifest.json` and `order.bin`, each if it is a
regular file, and the names of everything else. -/
structure OrderDirectory (Digest : Type) where
  manifest : Option (OrderManifestJson Digest)
  payload : Option (List Byte)
  others : List String

namespace OrderDirectory

/-- An empty output directory. -/
def empty : OrderDirectory Digest := ⟨none, none, []⟩

/-- `not any(output.iterdir())`. -/
def IsEmpty (directory : OrderDirectory Digest) : Prop :=
  directory.manifest.isNone = true ∧ directory.payload.isNone = true ∧
    directory.others = []

instance (directory : OrderDirectory Digest) : Decidable directory.IsEmpty :=
  inferInstanceAs (Decidable (_ ∧ _ ∧ _))

end OrderDirectory

/-- `_sha256` of a file: of its bytes, or of a JSON document as written. -/
structure FileHash (Digest Cursor : Type) where
  bytes : List Byte -> Digest
  packedManifest : PackedManifestJson Digest Cursor -> Digest
  orderManifest : OrderManifestJson Digest -> Digest

/-- `Path(relative).is_absolute()`. -/
def isAbsolute (path : String) : Bool := path.toList.head? = some '/'

/-- The packed directories, by the path of their manifest relative to the order
directory. -/
abbrev PackedStore (Digest Cursor : Type) : Type :=
  String -> Option (Directory Digest Cursor)

end CodingLlm
