import CodingLlm.Pretrain.Weights
import CodingLlm.Pretrain.SupervisedTokens

/-!
# Loading order manifests

`_load_order_manifest` turns the JSON document of an order into a checked
manifest.  The checks stand in the order of the source, section by section;
for each section it is said exactly which documents record the checked values.
-/

namespace CodingLlm

open Words

variable {Digest Cursor : Type}

/-! ## Checks of single fields -/

theorem requirePositive_eq_ok
    {value : PyValue} {error : PyError} {number : {number : Nat // 1 ≤ number}} :
    requirePositive value error = .ok number ↔ value = .int number.val := by
  obtain ⟨number, positive⟩ := number
  constructor
  · intro accepted
    cases value with
    | int found =>
        rw [requirePositive, PyValue.plainInt?_int] at accepted
        simp only at accepted
        split at accepted
        · rename_i holds
          cases accepted
          exact congrArg PyValue.int (Int.toNat_of_nonneg (by omega)).symm
        · cases accepted
    | null => cases accepted
    | bool => cases accepted
    | float => cases accepted
    | str => cases accepted
    | other => cases accepted
  · rintro rfl
    exact requirePositive_int error positive

/-- A plain integer that is not negative. -/
def requireNatural (value : PyValue) (error : PyError) : Checked Nat :=
  match value with
  | .int number => if 0 ≤ number then .ok number.toNat else .error error
  | _ => .error error

theorem requireNatural_eq_ok
    {value : PyValue} {error : PyError} {number : Nat} :
    requireNatural value error = .ok number ↔ value = .int number := by
  constructor
  · intro accepted
    unfold requireNatural at accepted
    split at accepted
    · split at accepted
      · rename_i holds
        cases accepted
        exact congrArg PyValue.int (Int.toNat_of_nonneg holds).symm
      · cases accepted
    · cases accepted
  · rintro rfl
    simp [requireNatural]

theorem requireInt_eq_ok
    {value : PyValue} {error : PyError} {number : PyInt} :
    requireInt value error = .ok number ↔ value = number.toValue := by
  cases value <;> cases number <;>
    simp [requireInt, PyValue.pyInt?, PyInt.toValue]

theorem requireString_eq_ok
    {value : PyValue} {accepted : String -> Option α} {error : PyError}
    {result : α} :
    requireString value accepted error = .ok result ↔
      ∃ text, value = .str text ∧ accepted text = some result := by
  cases value with
  | str text =>
      cases found : accepted text <;> simp [requireString, found]
  | null => simp [requireString]
  | bool => simp [requireString]
  | int => simp [requireString]
  | float => simp [requireString]
  | other => simp [requireString]

theorem nonemptyString?_eq_some
    {text : String} {result : {text : String // text ≠ ""}} :
    nonemptyString? text = some result ↔ text = result.val := by
  obtain ⟨found, nonempty⟩ := result
  unfold nonemptyString?
  split
  · simp
  · rename_i empty
    simp only [ne_eq, not_not] at empty
    subst empty
    exact ⟨nofun, fun equal => absurd equal.symm nonempty⟩

theorem requireSha256_eq_ok
    {field : DigestField Digest} {digest : Digest} :
    field.requireSha256 = .ok digest ↔ field = .sha256 digest := by
  cases field <;> simp [DigestField.requireSha256]

/-- `for domain in DOMAIN_ORDER`, collecting what the body computes. -/
def forDomains (body : Domain -> Checked α) : Checked (Domain -> α) := do
  let python ← body .python
  let otherCode ← body .otherCode
  let english ← body .english
  return fun
    | .python => python
    | .otherCode => otherCode
    | .english => english

theorem forDomains_eq_ok
    {body : Domain -> Checked α} {values : Domain -> α} :
    forDomains body = .ok values ↔
      ∀ domain, body domain = .ok (values domain) := by
  simp only [forDomains, checked_bind_eq_ok, checked_pure_eq_ok]
  constructor
  · rintro ⟨_, python, _, otherCode, _, english, rfl⟩ domain
    cases domain
    · exact python
    · exact otherCode
    · exact english
  · intro every
    refine ⟨_, every .python, _, every .otherCode, _, every .english, ?_⟩
    funext domain
    cases domain <;> rfl

/-- A mapping of the domains to plain integers that are not negative. -/
def requireCounts
    (field : DomainField PyValue) (mappingError countError : PyError) :
    Checked (Domain -> Nat) := do
  let values ← requireObject field.mapping? mappingError
  forDomains fun domain => requireNatural (values domain) countError

theorem requireCounts_eq_ok
    {field : DomainField PyValue} {mappingError countError : PyError}
    {counts : Domain -> Nat} :
    requireCounts field mappingError countError = .ok counts ↔
      field = .ofCounts counts := by
  simp only [requireCounts, checked_bind_eq_ok, requireObject_eq_ok,
    DomainField.mapping?_eq_some, forDomains_eq_ok, requireNatural_eq_ok]
  constructor
  · rintro ⟨values, rfl, every⟩
    exact congrArg DomainField.mapping (funext every)
  · rintro rfl
    exact ⟨_, rfl, fun _ => rfl⟩

/-! ## Header -/

/-- `row_selection`. -/
inductive RowSelection
  | allPackedRows
  | strictWeightedTokenCap
  deriving DecidableEq

namespace RowSelection

/-- The name a manifest gives a selection. -/
def name : RowSelection -> String
  | allPackedRows => "all-packed-rows"
  | strictWeightedTokenCap => "strict-weighted-token-cap"

/-- The shuffle that goes with a selection. -/
def shuffle : RowSelection -> String
  | allPackedRows => orderShuffle
  | strictWeightedTokenCap => orderCappedShuffle

/-- The seed derivation that goes with a selection. -/
def seedDerivation : RowSelection -> PyValue
  | allPackedRows => .null
  | strictWeightedTokenCap => .str orderCappedSeedDerivation

/-- The selection with a name. -/
def ofName? (text : String) : Option RowSelection :=
  [allPackedRows, strictWeightedTokenCap].find? fun selection =>
    selection.name = text

theorem ofName?_eq_some {text : String} {selection : RowSelection} :
    ofName? text = some selection ↔ text = selection.name := by
  constructor
  · intro found
    have named := List.find?_some found
    exact (of_decide_eq_true named).symm
  · rintro rfl
    cases selection <;> decide

end RowSelection

/-- What the first checks establish. -/
structure OrderHeader (Digest : Type) where
  tokenizerManifestSha256 : Digest
  rows : Nat
  split : String
  sequenceLength : Nat
  vocabSize : PyInt
  eosTokenId : PyInt
  seed : Nat
  rowSelection : RowSelection
  numpyVersion : String
  rows_pos : 1 ≤ rows
  split_ne_empty : split ≠ ""
  two_le_sequenceLength : 2 ≤ sequenceLength
  vocabSize_bounds : 1 ≤ vocabSize.toInt ∧ vocabSize.toInt ≤ tokenValues
  eosTokenId_bounds : 0 ≤ eosTokenId.toInt ∧
    eosTokenId.toInt < vocabSize.toInt
  numpyVersion_ne_empty : numpyVersion ≠ ""

/-- `encoding == {"domain_bits": DOMAIN_BITS, "row_bits": ROW_BITS}`. -/
def EncodingMatches (encoding : Option (PyValue × PyValue)) : Prop :=
  ∃ bits ∈ encoding,
    bits.1.EqualsInt domainBits ∧ bits.2.EqualsInt rowBits

instance : (encoding : Option (PyValue × PyValue)) ->
    Decidable (EncodingMatches encoding)
  | some bits => decidable_of_iff
      (bits.1.EqualsInt domainBits ∧ bits.2.EqualsInt rowBits)
      (by simp [EncodingMatches])
  | none => .isFalse (by simp [EncodingMatches])

/-- `isinstance(sequence_length, int) and sequence_length >= 2`. -/
def requireSequenceLength (value : PyValue) :
    Checked {number : Nat // 2 ≤ number} := do
  let error := PyError.valueError "Invalid order sequence length"
  let number ← requireInt value error
  let ⟨twoLe⟩ ← require (2 ≤ number.toInt) error
  return ⟨number.toInt.toNat, by omega⟩

theorem requireSequenceLength_eq_ok
    {value : PyValue} {number : {number : Nat // 2 ≤ number}} :
    requireSequenceLength value = .ok number ↔ value = .int number.val := by
  simp only [requireSequenceLength, checked_bind_eq_ok, requireInt_eq_ok,
    exists_require, checked_pure_eq_ok]
  constructor
  · rintro ⟨found, rfl, twoLe, rfl⟩
    cases found with
    | int found =>
        exact congrArg PyValue.int
          (Int.toNat_of_nonneg (by change (2 : Int) ≤ found at twoLe; omega)).symm
    | bool found => cases found <;> simp [PyInt.toInt] at twoLe
  · rintro rfl
    have twoLe := number.property
    exact ⟨.int number.val, rfl, by simpa [PyInt.toInt] using twoLe,
      Subtype.ext (by simp [PyInt.toInt])⟩

/-- The checks up to the NumPy version. -/
def checkHeader (document : OrderManifestJson Digest) :
    Checked (OrderHeader Digest) := do
  let _ ← require (document.format = .str "global-packed-row-order")
    (.valueError "Unsupported order format")
  let _ ← require (document.formatVersion.EqualsInt orderFormatVersion)
    (.valueError "Unsupported order format version")
  let _ ← require
    (document.domainOrder =
      some (Domain.order.map fun domain => .str domain.name))
    (.valueError "Order domain mapping differs from DOMAIN_ORDER")
  let _ ← require (document.referenceDtype = .str referenceDtype)
    (.valueError "Unsupported order reference dtype")
  let _ ← require (EncodingMatches document.encoding)
    (.valueError "Unsupported order reference bit allocation")
  let tokenizerManifestSha256 ← document.tokenizerManifestSha256.requireSha256
  let rows ← requirePositive document.rows
    (.valueError "Invalid order row count")
  let split ← requireString document.split nonemptyString?
    (.valueError "Invalid order split")
  let sequenceLength ← requireSequenceLength document.sequenceLength
  let vocabSize ← requireInt document.vocabSize
    (.valueError "Invalid order vocabulary size")
  let ⟨vocabBounds⟩ ← require
    (1 ≤ vocabSize.toInt ∧ vocabSize.toInt ≤ tokenValues)
    (.valueError "Invalid order vocabulary size")
  let eosTokenId ← requireInt document.eosTokenId
    (.valueError "Invalid order EOS token ID")
  let ⟨eosBounds⟩ ← require
    (0 ≤ eosTokenId.toInt ∧ eosTokenId.toInt < vocabSize.toInt)
    (.valueError "Invalid order EOS token ID")
  let seed ← requireNatural document.seed
    (.valueError "Invalid order construction seed")
  let _ ← require (document.rng = .str orderRng)
    (.valueError "Unsupported order RNG")
  let rowSelection ← requireString document.rowSelection RowSelection.ofName?
    (.valueError "Order row-selection policy is invalid")
  let _ ← require
    (document.shuffle = .str rowSelection.shuffle ∧
      document.seedDerivation = rowSelection.seedDerivation)
    (.valueError "Order shuffle identity is invalid")
  let numpyVersion ← requireString document.numpyVersion nonemptyString?
    (.valueError "Invalid order NumPy version")
  return {
    tokenizerManifestSha256, vocabSize, eosTokenId, seed, rowSelection
    rows := rows.val
    split := split.val
    sequenceLength := sequenceLength.val
    numpyVersion := numpyVersion.val
    rows_pos := rows.property
    split_ne_empty := split.property
    two_le_sequenceLength := sequenceLength.property
    vocabSize_bounds := vocabBounds
    eosTokenId_bounds := eosBounds
    numpyVersion_ne_empty := numpyVersion.property
  }

/-- The document records a header. -/
structure OrderHeader.Recorded
    (header : OrderHeader Digest) (document : OrderManifestJson Digest) :
    Prop where
  format : document.format = .str "global-packed-row-order"
  formatVersion : document.formatVersion.EqualsInt orderFormatVersion
  domainOrder : document.domainOrder =
    some (Domain.order.map fun domain => .str domain.name)
  referenceDtype : document.referenceDtype = .str referenceDtype
  encoding : EncodingMatches document.encoding
  tokenizerManifestSha256 : document.tokenizerManifestSha256 =
    .sha256 header.tokenizerManifestSha256
  rows : document.rows = .int header.rows
  split : document.split = .str header.split
  sequenceLength : document.sequenceLength = .int header.sequenceLength
  vocabSize : document.vocabSize = header.vocabSize.toValue
  eosTokenId : document.eosTokenId = header.eosTokenId.toValue
  seed : document.seed = .int header.seed
  rng : document.rng = .str orderRng
  rowSelection : document.rowSelection = .str header.rowSelection.name
  shuffle : document.shuffle = .str header.rowSelection.shuffle
  seedDerivation : document.seedDerivation =
    header.rowSelection.seedDerivation
  numpyVersion : document.numpyVersion = .str header.numpyVersion

theorem checkHeader_eq_ok
    {document : OrderManifestJson Digest} {header : OrderHeader Digest} :
    checkHeader document = .ok header ↔ header.Recorded document := by
  simp only [checkHeader, checked_bind_eq_ok, exists_require,
    requireSha256_eq_ok, requirePositive_eq_ok, requireString_eq_ok,
    requireSequenceLength_eq_ok, requireInt_eq_ok, requireNatural_eq_ok,
    nonemptyString?_eq_some, RowSelection.ofName?_eq_some, checked_pure_eq_ok]
  constructor
  · rintro ⟨format, formatVersion, domainOrder, referenceDtype, encoding,
      _, tokenizer, ⟨_, _⟩, rows, ⟨_, _⟩, ⟨_, split, rfl⟩, ⟨_, _⟩,
      sequenceLength, _, vocabSize, _, _, eosTokenId, _, _, seed, rng,
      _, ⟨_, rowSelection, rfl⟩, ⟨shuffle, seedDerivation⟩, ⟨_, _⟩,
      ⟨_, numpyVersion, rfl⟩, rfl⟩
    exact ⟨format, formatVersion, domainOrder, referenceDtype, encoding,
      tokenizer, rows, split, sequenceLength, vocabSize, eosTokenId, seed,
      rng, rowSelection, shuffle, seedDerivation, numpyVersion⟩
  · intro recorded
    exact ⟨recorded.format, recorded.formatVersion, recorded.domainOrder,
      recorded.referenceDtype, recorded.encoding,
      _, recorded.tokenizerManifestSha256,
      ⟨_, header.rows_pos⟩, recorded.rows,
      ⟨_, header.split_ne_empty⟩, ⟨_, recorded.split, rfl⟩,
      ⟨_, header.two_le_sequenceLength⟩, recorded.sequenceLength,
      _, recorded.vocabSize, header.vocabSize_bounds,
      _, recorded.eosTokenId, header.eosTokenId_bounds,
      _, recorded.seed, recorded.rng,
      _, ⟨_, recorded.rowSelection, rfl⟩,
      ⟨recorded.shuffle, recorded.seedDerivation⟩,
      ⟨_, header.numpyVersion_ne_empty⟩, ⟨_, recorded.numpyVersion, rfl⟩,
      rfl⟩

/-! ## Row counts -/

/-- Selected, available and surplus rows per domain. -/
structure OrderCounts where
  rowsPerDomain : Domain -> Nat
  packedAvailableRowsPerDomain : Domain -> Nat
  packedSurplusRowsPerDomain : Domain -> Nat
  availableRows_eq : ∀ domain, packedAvailableRowsPerDomain domain =
    rowsPerDomain domain + packedSurplusRowsPerDomain domain

namespace OrderCounts

/-- `packed_available_rows`. -/
def packedAvailableRows (counts : OrderCounts) : Nat :=
  totalOf counts.packedAvailableRowsPerDomain

/-- `packed_surplus_rows`. -/
def packedSurplusRows (counts : OrderCounts) : Nat :=
  totalOf counts.packedSurplusRowsPerDomain

end OrderCounts

/-- The checks on the row counts and the input tokens derived from them. -/
def checkCounts
    (document : OrderManifestJson Digest) (rows sequenceLength : Nat) :
    Checked {counts : OrderCounts // totalOf counts.rowsPerDomain = rows} := do
  let rowsPerDomain ← requireCounts document.rowsPerDomain
    (.valueError "Order manifest has an invalid rows_per_domain mapping")
    (.valueError "Order manifest has invalid per-domain row counts")
  let ⟨totalRows⟩ ← require (totalOf rowsPerDomain = rows)
    (.valueError "Order per-domain row counts do not sum to total rows")
  let available ← requireCounts document.packedAvailableRowsPerDomain
    (.valueError "Order packed_available_rows_per_domain mapping is invalid")
    (.valueError "Order packed_available_rows_per_domain mapping is invalid")
  let surplus ← requireCounts document.packedSurplusRowsPerDomain
    (.valueError "Order packed_surplus_rows_per_domain mapping is invalid")
    (.valueError "Order packed_surplus_rows_per_domain mapping is invalid")
  let ⟨availableEq⟩ ← require
    (∀ domain ∈ Domain.order,
      available domain = rowsPerDomain domain + surplus domain)
    (.valueError
      "Packed selected/available/surplus row counts are inconsistent")
  let _ ← require
    (document.packedAvailableRows.EqualsInt (totalOf available : Nat) ∧
      document.packedSurplusRows.EqualsInt (totalOf surplus : Nat) ∧
      totalOf available = rows + totalOf surplus)
    (.valueError "Packed global row counts are inconsistent")
  let _ ← require
    (document.packedAvailableInputTokensPerDomain.EqualsInts
        (fun domain => (available domain * sequenceLength : Nat)) ∧
      document.packedSurplusInputTokensPerDomain.EqualsInts
        (fun domain => (surplus domain * sequenceLength : Nat)) ∧
      document.packedAvailableInputTokens.EqualsInt
        (totalOf fun domain => available domain * sequenceLength : Nat) ∧
      document.packedSurplusInputTokens.EqualsInt
        (totalOf fun domain => surplus domain * sequenceLength : Nat))
    (.valueError "Packed input-token accounting is inconsistent")
  return ⟨⟨rowsPerDomain, available, surplus,
    fun domain => availableEq domain (Domain.mem_order domain)⟩, totalRows⟩

/-- The document records row counts. -/
structure OrderCounts.Recorded
    (counts : OrderCounts) (sequenceLength : Nat)
    (document : OrderManifestJson Digest) : Prop where
  rowsPerDomain : document.rowsPerDomain = .ofCounts counts.rowsPerDomain
  packedAvailableRowsPerDomain : document.packedAvailableRowsPerDomain =
    .ofCounts counts.packedAvailableRowsPerDomain
  packedSurplusRowsPerDomain : document.packedSurplusRowsPerDomain =
    .ofCounts counts.packedSurplusRowsPerDomain
  packedAvailableRows :
    document.packedAvailableRows.EqualsInt counts.packedAvailableRows
  packedSurplusRows :
    document.packedSurplusRows.EqualsInt counts.packedSurplusRows
  packedAvailableInputTokensPerDomain :
    document.packedAvailableInputTokensPerDomain.EqualsInts fun domain =>
      (counts.packedAvailableRowsPerDomain domain * sequenceLength : Nat)
  packedSurplusInputTokensPerDomain :
    document.packedSurplusInputTokensPerDomain.EqualsInts fun domain =>
      (counts.packedSurplusRowsPerDomain domain * sequenceLength : Nat)
  packedAvailableInputTokens : document.packedAvailableInputTokens.EqualsInt
    (counts.packedAvailableRows * sequenceLength : Nat)
  packedSurplusInputTokens : document.packedSurplusInputTokens.EqualsInt
    (counts.packedSurplusRows * sequenceLength : Nat)

theorem checkCounts_eq_ok
    {document : OrderManifestJson Digest} {rows sequenceLength : Nat}
    {counts : {counts : OrderCounts // totalOf counts.rowsPerDomain = rows}} :
    checkCounts document rows sequenceLength = .ok counts ↔
      counts.val.Recorded sequenceLength document := by
  simp only [checkCounts, checked_bind_eq_ok, exists_require,
    requireCounts_eq_ok, checked_pure_eq_ok, totalOf_mul]
  constructor
  · rintro ⟨_, rows, _, _, available, _, surplus, _,
      ⟨globalAvailable, globalSurplus, _⟩, ⟨availableTokens, surplusTokens,
      availableTotal, surplusTotal⟩, rfl⟩
    exact ⟨rows, available, surplus, globalAvailable, globalSurplus,
      availableTokens, surplusTokens, availableTotal, surplusTotal⟩
  · obtain ⟨counts, totalRows⟩ := counts
    intro recorded
    have total : totalOf counts.packedAvailableRowsPerDomain =
        rows + totalOf counts.packedSurplusRowsPerDomain := by
      rw [funext counts.availableRows_eq, totalOf_add, totalRows]
    exact ⟨_, recorded.rowsPerDomain, totalRows,
      _, recorded.packedAvailableRowsPerDomain,
      _, recorded.packedSurplusRowsPerDomain,
      fun domain _ => counts.availableRows_eq domain,
      ⟨recorded.packedAvailableRows, recorded.packedSurplusRows, total⟩,
      ⟨recorded.packedAvailableInputTokensPerDomain,
        recorded.packedSurplusInputTokensPerDomain,
        recorded.packedAvailableInputTokens,
        recorded.packedSurplusInputTokens⟩, rfl⟩

/-! ## Packed manifests -/

/-- Where a packed manifest lies and what it hashes to. -/
structure DatasetReference (Digest : Type) where
  path : String
  sha256 : Digest
  path_ne_empty : path ≠ ""

/-- The checks on `dataset_manifests`. -/
def checkDatasets (document : OrderManifestJson Digest) :
    Checked (Domain -> DatasetReference Digest) := do
  let entries ← requireObject document.datasetManifests.mapping?
    (.valueError "Order manifest has an invalid dataset_manifests mapping")
  forDomains fun domain => do
    let payload ← requireObject (entries domain)
      (.valueError ("Invalid packed-manifest identity for " ++ domain.name))
    let path ← requireString payload.path nonemptyString?
      (.valueError ("Invalid packed-manifest path for " ++ domain.name))
    let sha256 ← payload.sha256.requireSha256
    return ⟨path.val, sha256, path.property⟩

/-- How the reference to a packed manifest is written. -/
def DatasetReference.toJson (dataset : DatasetReference Digest) :
    DatasetManifestJson Digest where
  path := .str dataset.path
  sha256 := .sha256 dataset.sha256

theorem checkDatasets_eq_ok
    {document : OrderManifestJson Digest}
    {datasets : Domain -> DatasetReference Digest} :
    checkDatasets document = .ok datasets ↔
      document.datasetManifests =
        .mapping fun domain => some (datasets domain).toJson := by
  simp only [checkDatasets, checked_bind_eq_ok, requireObject_eq_ok,
    DomainField.mapping?_eq_some, forDomains_eq_ok, requireString_eq_ok,
    nonemptyString?_eq_some, requireSha256_eq_ok, checked_pure_eq_ok]
  constructor
  · rintro ⟨entries, recorded, every⟩
    rw [recorded]
    refine congrArg DomainField.mapping (funext fun domain => ?_)
    obtain ⟨⟨path, sha256⟩, found, ⟨_, _⟩, ⟨_, rfl, rfl⟩, _, rfl, equal⟩ :=
      every domain
    rw [found, ← equal]
    rfl
  · intro recorded
    exact ⟨_, recorded, fun domain => ⟨_, rfl,
      ⟨_, (datasets domain).path_ne_empty⟩, ⟨_, rfl, rfl⟩, _, rfl, rfl⟩⟩

/-! ## Supervised tokens -/

/-- Selected, available and surplus supervised tokens per domain. -/
structure OrderSupervision where
  validLossTokensPerDomain : Domain -> Nat
  packedAvailableSupervisedTokensPerDomain : Domain -> Nat
  packedSurplusSupervisedTokensPerDomain : Domain -> Nat
  availableSupervisedTokens_eq : ∀ domain,
    packedAvailableSupervisedTokensPerDomain domain =
      validLossTokensPerDomain domain +
        packedSurplusSupervisedTokensPerDomain domain

/-- The checks on the supervised-token counts. -/
def checkSupervision (document : OrderManifestJson Digest) :
    Checked OrderSupervision := do
  let selected ← requireCounts document.validLossTokensPerDomain
    (.valueError "Order valid-loss-token counts are invalid")
    (.valueError "Order valid-loss-token counts are invalid")
  let available ←
    requireCounts document.packedAvailableSupervisedTokensPerDomain
      (.valueError ("Order packed_available_supervised_tokens_per_domain " ++
        "mapping is invalid"))
      (.valueError ("Order packed_available_supervised_tokens_per_domain " ++
        "mapping is invalid"))
  let surplus ← requireCounts document.packedSurplusSupervisedTokensPerDomain
    (.valueError ("Order packed_surplus_supervised_tokens_per_domain " ++
      "mapping is invalid"))
    (.valueError ("Order packed_surplus_supervised_tokens_per_domain " ++
      "mapping is invalid"))
  let ⟨availableEq⟩ ← require
    (∀ domain ∈ Domain.order,
      available domain = selected domain + surplus domain)
    (.valueError "Packed supervised-token accounting is inconsistent")
  let _ ← require
    (document.packedAvailableSupervisedTokens.EqualsInt
        (totalOf available : Nat) ∧
      document.packedSurplusSupervisedTokens.EqualsInt (totalOf surplus : Nat))
    (.valueError "Packed supervised-token totals are inconsistent")
  return ⟨selected, available, surplus,
    fun domain => availableEq domain (Domain.mem_order domain)⟩

/-- The document records supervised-token counts. -/
structure OrderSupervision.Recorded
    (supervision : OrderSupervision)
    (document : OrderManifestJson Digest) : Prop where
  validLossTokensPerDomain : document.validLossTokensPerDomain =
    .ofCounts supervision.validLossTokensPerDomain
  packedAvailableSupervisedTokensPerDomain :
    document.packedAvailableSupervisedTokensPerDomain =
      .ofCounts supervision.packedAvailableSupervisedTokensPerDomain
  packedSurplusSupervisedTokensPerDomain :
    document.packedSurplusSupervisedTokensPerDomain =
      .ofCounts supervision.packedSurplusSupervisedTokensPerDomain
  packedAvailableSupervisedTokens :
    document.packedAvailableSupervisedTokens.EqualsInt
      (totalOf supervision.packedAvailableSupervisedTokensPerDomain : Nat)
  packedSurplusSupervisedTokens :
    document.packedSurplusSupervisedTokens.EqualsInt
      (totalOf supervision.packedSurplusSupervisedTokensPerDomain : Nat)

theorem checkSupervision_eq_ok
    {document : OrderManifestJson Digest} {supervision : OrderSupervision} :
    checkSupervision document = .ok supervision ↔
      supervision.Recorded document := by
  simp only [checkSupervision, checked_bind_eq_ok, exists_require,
    requireCounts_eq_ok, checked_pure_eq_ok]
  constructor
  · rintro ⟨_, selected, _, available, _, surplus, _,
      ⟨availableTotal, surplusTotal⟩, rfl⟩
    exact ⟨selected, available, surplus, availableTotal, surplusTotal⟩
  · intro recorded
    exact ⟨_, recorded.validLossTokensPerDomain,
      _, recorded.packedAvailableSupervisedTokensPerDomain,
      _, recorded.packedSurplusSupervisedTokensPerDomain,
      fun domain _ => supervision.availableSupervisedTokens_eq domain,
      ⟨recorded.packedAvailableSupervisedTokens,
        recorded.packedSurplusSupervisedTokens⟩, rfl⟩

end CodingLlm
