import CodingLlm.Pretrain.FinalizationFormat
import CodingLlm.Scripts.PublishAllEligible

/-!
# Qualifying the supply of a selection

`CorpusMaterializer._validate_all_eligible_totals` and
`qualify_selection_supply`, from the selection manifest that `_load_selection`
has authenticated.
-/

namespace CodingLlm

/-- `MaterializationError`. -/
def materializationError (text : String) : PyError := .runtimeError text

/-! ## The selection manifest -/

/-- A row of `selected_totals` with exactly the expected keys. -/
structure SelectedTotalJson where
  split : PyValue
  category : PyValue
  unit : PyValue
  documents : PyValue
  selectedTokens : PyValue
  terminalPrefixDocuments : PyValue

/-- A row of `reference_quotas` with exactly the expected keys. -/
structure ReferenceQuotaJson where
  split : PyValue
  category : PyValue
  unit : PyValue
  referenceTargetTokens : PyValue
  observedTokens : PyValue
  shortfallTokens : PyValue
  surplusTokens : PyValue
  selectionAuthority : PyValue

/-- `documents` with exactly the expected keys. -/
structure SelectionDocumentsJson where
  input : PyValue
  acceptedCanonicalBeforeSelection : PyValue
  selected : PyValue
  quotaOverflow : PyValue

/-- What the validation of totals reads of a selection manifest: a field that
is no list, a row with other keys and an object with other keys are `none`. -/
structure SelectionManifestJson where
  quotas : Option PyValue
  selectedTotals : Option (List (Option SelectedTotalJson))
  referenceQuotas : Option (List (Option ReferenceQuotaJson))
  documents : Option SelectionDocumentsJson

/-- The unit of every token total. -/
def contentTokenUnit : String := "pre_packing_starcoder2_content_tokens"

/-- A split and a domain. -/
abbrev SupplyKey : Type := Split × Domain

/-- `expected_order`. -/
def expectedOrder : List SupplyKey :=
  Split.all.flatMap fun split => Domain.order.map fun domain => (split, domain)

/-- Documents and content tokens of a split and a domain. -/
structure SupplyTotal where
  selectedDocuments : Nat
  selectedContentTokens : Nat
  selectedDocuments_pos : 1 ≤ selectedDocuments
  selectedContentTokens_pos : 1 ≤ selectedContentTokens

/-- Totals in the canonical order. -/
structure SupplyTotals where
  entries : List (SupplyKey × SupplyTotal)
  keys_eq : entries.map Prod.fst = expectedOrder

theorem mem_expectedOrder (key : SupplyKey) : key ∈ expectedOrder := by
  obtain ⟨split, domain⟩ := key
  cases split <;> cases domain <;> decide

namespace SupplyTotals

variable (totals : SupplyTotals)

theorem find?_isSome (key : SupplyKey) :
    (totals.entries.find? fun entry => entry.1 = key).isSome = true := by
  have member := mem_expectedOrder key
  rw [← totals.keys_eq] at member
  obtain ⟨entry, inside, same⟩ := List.mem_map.mp member
  rw [List.find?_isSome]
  exact ⟨entry, inside, decide_eq_true same⟩

/-- `totals[key]`. -/
def total (key : SupplyKey) : SupplyTotal :=
  ((totals.entries.find? fun entry => entry.1 = key).get
    (totals.find?_isSome key)).2

end SupplyTotals

/-! ## Validating totals -/

/-- `_require_nonnegative_int`. -/
def requireNonnegativeInt (value : PyValue) (field : String) : Checked Nat :=
  requireNatural value
    (materializationError (field ++ " must be a non-negative integer"))

/-- `_require_positive_int`. -/
def requirePositiveInt (value : PyValue) (field : String) :
    Checked {number : Nat // 1 ≤ number} := do
  let number ← requireNonnegativeInt value field
  let ⟨positive⟩ ← require (1 ≤ number)
    (materializationError (field ++ " must be positive"))
  return ⟨number, positive⟩

/-- The split and the domain that a row names. -/
def requireSupplyKey (split category : PyValue) (error : PyError) :
    Checked SupplyKey := do
  let .str split := split | throw error
  let .str category := category | throw error
  let split ← requireObject (Split.all.find? fun other => other.name = split)
    error
  let domain ← requireObject (Domain.ofName? category) error
  return (split, domain)

/-- One turn of the loop over `selected_totals`. -/
def parseSelectedTotal
    (index : Nat) (seen : List SupplyKey) (row : Option SelectedTotalJson) :
    Checked (SupplyKey × SupplyTotal) := do
  let field := "selection.selected_totals[" ++ toString index ++ "]"
  let row ← requireObject row
    (materializationError (field ++ " schema mismatch"))
  let key ← requireSupplyKey row.split row.category
    (materializationError "Invalid all-eligible selected total key")
  let _ ← require (key ∉ seen)
    (materializationError "Duplicate all-eligible selected total")
  let _ ← require (row.unit = .str contentTokenUnit) (materializationError
    "All-eligible selected total uses an unsafe token unit")
  let terminal ← requireNonnegativeInt row.terminalPrefixDocuments
    (field ++ ".terminal_prefix_documents")
  let _ ← require (terminal = 0) (materializationError
    "All-eligible selected totals must contain complete documents")
  let documents ← requirePositiveInt row.documents (field ++ ".documents")
  let tokens ← requirePositiveInt row.selectedTokens
    (field ++ ".selected_tokens")
  return (key, ⟨documents.val, tokens.val, positive_val documents,
    positive_val tokens⟩)

/-- The loop over `selected_totals`, after the entries it has parsed. -/
def parseSelectedTotals :
    List (Option SelectedTotalJson) -> List (SupplyKey × SupplyTotal) ->
      Checked (List (SupplyKey × SupplyTotal))
  | [], entries => return entries
  | row :: rest, entries => do
      let entry ← parseSelectedTotal entries.length (entries.map Prod.fst) row
      parseSelectedTotals rest (entries ++ [entry])

/-- One turn of the loop over `reference_quotas`; returns the key. -/
def checkReferenceQuota
    (entries : List (SupplyKey × SupplyTotal)) (index : Nat)
    (row : Option ReferenceQuotaJson) : Checked SupplyKey := do
  let field := "selection.reference_quotas[" ++ toString index ++ "]"
  let row ← requireObject row
    (materializationError (field ++ " schema mismatch"))
  let key ← requireSupplyKey row.split row.category
    (materializationError "Invalid all-eligible reference quota key")
  let _ ← require (row.unit = .str contentTokenUnit) (materializationError
    "All-eligible reference quota uses an unsafe token unit")
  let target ← requirePositiveInt row.referenceTargetTokens
    (field ++ ".reference_target_tokens")
  let observed ← requirePositiveInt row.observedTokens
    (field ++ ".observed_tokens")
  let shortfall ← requireNonnegativeInt row.shortfallTokens
    (field ++ ".shortfall_tokens")
  let surplus ← requireNonnegativeInt row.surplusTokens
    (field ++ ".surplus_tokens")
  let selected := (entries.find? fun entry => entry.1 = key).map Prod.snd
  let _ ← require
    (selected.map SupplyTotal.selectedContentTokens = some observed.val ∧
      shortfall = target.val - observed.val ∧
      surplus = observed.val - target.val ∧
      row.selectionAuthority = .bool false)
    (materializationError
      "All-eligible reference quota is inconsistent")
  return key

/-- `CorpusMaterializer._validate_all_eligible_totals`. -/
def validateAllEligibleTotals (manifest : SelectionManifestJson) :
    Checked SupplyTotals := do
  let _ ← require (manifest.quotas = none) (materializationError
    "All-eligible selection must not carry an authoritative quota summary")
  let rows ← requireObject manifest.selectedTotals
    (materializationError "All-eligible selection has no selected totals")
  let entries ← parseSelectedTotals rows []
  let ⟨keysEq⟩ ← require (entries.map Prod.fst = expectedOrder)
    (materializationError ("All-eligible selected totals do not cover every " ++
      "split/domain in canonical order"))
  let references ← requireObject manifest.referenceQuotas
    (materializationError "All-eligible selection has no reference quotas")
  let keys ← references.zipIdx.mapM fun row =>
    checkReferenceQuota entries row.2 row.1
  let _ ← require (keys = expectedOrder) (materializationError
    ("All-eligible reference quotas do not cover every split/domain in " ++
      "canonical order"))
  let documents ← requireObject manifest.documents
    (materializationError "selection.documents schema mismatch")
  let input ← requirePositiveInt documents.input "selection.documents.input"
  let accepted ← requirePositiveInt documents.acceptedCanonicalBeforeSelection
    "selection.documents.accepted_canonical_before_selection"
  let selected ← requirePositiveInt documents.selected
    "selection.documents.selected"
  let overflow ← requireNonnegativeInt documents.quotaOverflow
    "selection.documents.quota_overflow"
  let total := (entries.map fun entry => entry.2.selectedDocuments).sum
  let _ ← require
    (accepted.val = total ∧ selected.val = total ∧ overflow = 0 ∧
      total ≤ input.val)
    (materializationError
      "All-eligible document totals are internally inconsistent")
  return ⟨entries, keysEq⟩

/-! ## The report -/

/-- `"pass"` or `"fail"`. -/
inductive SupplyStatus
  | pass
  | fail
  deriving DecidableEq, Repr

/-- A row of `domains`. -/
structure DomainSupply where
  domain : Domain
  selectedContentTokens : Nat
  documents : Nat
  streamTokensWithEos : Nat
  availableRows : Nat
  availableInputTokens : Nat
  requiredRows : Nat
  requiredInputTokens : Nat
  shortfallRows : Nat
  shortfallInputTokens : Nat
  surplusRows : Nat
  status : SupplyStatus

/-- A row of `splits`. -/
structure SplitSupply where
  split : Split
  targetInputTokens : Nat
  selectableRowsCap : Nat
  selectableInputTokens : Nat
  targetRoundingShortfallTokens : Nat
  requiredRowsPerDomain : Domain -> Nat
  domains : List DomainSupply
  status : SupplyStatus

/-- What `qualify_selection_supply` returns. -/
structure SupplyReport where
  status : SupplyStatus
  sequenceLength : Nat
  splits : List SplitSupply
  failures : List (Split × DomainSupply)

/-- `EXPECTED_WEIGHTS`. -/
def supplyWeights : DomainWeights where
  weight
    | .python => 2 / 5
    | .otherCode => 2 / 5
    | .english => 1 / 5
  nonneg := expectedWeights.nonneg
  total_eq := expectedWeights.total_eq

/-- `_positive_integer`. -/
def positiveInteger (value : PyValue) (field : String) :
    Checked {number : Nat // 1 ≤ number} :=
  requirePositive value (.valueError (field ++ " must be a positive integer"))

/-- `geometry_independent_available_rows`. -/
def geometryIndependentAvailableRows
    (selectedContentTokens documents sequenceLength : PyValue) :
    Checked Nat := do
  let content ← positiveInteger selectedContentTokens "selected_content_tokens"
  let documentCount ← positiveInteger documents "documents"
  let length ← positiveInteger sequenceLength "sequence_length"
  return (content.val + documentCount.val - 1) / length.val

/-- `"fail" if shortfall_rows else "pass"`. -/
def statusOfShortfall (shortfallRows : Nat) : SupplyStatus :=
  if shortfallRows = 0 then .pass else .fail

/-- One turn of the loop over the domains. -/
def domainSupply
    (total : SupplyTotal) (length : Nat) (requiredRows : Domain -> Nat)
    (domain : Domain) : Checked DomainSupply := do
  let availableRows ← geometryIndependentAvailableRows
    (.int total.selectedContentTokens) (.int total.selectedDocuments)
    (.int length)
  let required := requiredRows domain
  let shortfallRows := required - availableRows
  return {
    domain
    selectedContentTokens := total.selectedContentTokens
    documents := total.selectedDocuments
    streamTokensWithEos :=
      total.selectedContentTokens + total.selectedDocuments
    availableRows
    availableInputTokens := availableRows * length
    requiredRows := required
    requiredInputTokens := required * length
    shortfallRows
    shortfallInputTokens := shortfallRows * length
    surplusRows := availableRows - required
    status := statusOfShortfall shortfallRows
  }

/-- One turn of the loop over the splits. -/
def splitSupply
    (totals : SupplyTotals) (length : Nat) (targets : Split -> Nat)
    (split : Split) : Checked SplitSupply := do
  let target := targets split
  let cap := target / length
  let _ ← require (1 ≤ cap) (.valueError
    ("targets." ++ split.name ++ " is smaller than one sequence_length row"))
  let requiredRows ← strictWeightedRowCounts cap supplyWeights
  let domains ← Domain.order.mapM fun domain =>
    domainSupply (totals.total (split, domain)) length requiredRows domain
  return {
    split
    targetInputTokens := target
    selectableRowsCap := cap
    selectableInputTokens := cap * length
    targetRoundingShortfallTokens := target - cap * length
    requiredRowsPerDomain := requiredRows
    domains
    status := if domains.any (·.status = .fail) then .fail else .pass
  }

/-- The rows of a split that are appended to `failures`. -/
def SplitSupply.failures (supply : SplitSupply) : List (Split × DomainSupply) :=
  (supply.domains.filter (·.shortfallRows ≠ 0)).map fun row =>
    (supply.split, row)

/-- `qualify_selection_supply`; a mapping of targets with other keys is
`none`. -/
def qualifySelectionSupply
    (selection : SelectionManifestJson) (sequenceLength : PyValue)
    (targets : Option (Split -> PyValue)) : Checked SupplyReport := do
  let length ← positiveInteger sequenceLength "sequence_length"
  let requested ← requireObject targets
    (.valueError "targets must contain exactly the splits")
  let train ← positiveInteger (requested .train) "targets.train"
  let validation ← positiveInteger (requested .validation)
    "targets.validation"
  let test ← positiveInteger (requested .test) "targets.test"
  let totals ← validateAllEligibleTotals selection
  let splits ← Split.all.mapM (splitSupply totals length.val fun
    | .train => train.val
    | .validation => validation.val
    | .test => test.val)
  let failures := splits.flatMap SplitSupply.failures
  return {
    status := if failures.isEmpty then .pass else .fail
    sequenceLength := length.val
    splits
    failures
  }

end CodingLlm
