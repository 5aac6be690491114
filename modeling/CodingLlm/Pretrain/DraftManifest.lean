import CodingLlm.Pretrain.OrderSoundness

/-!
# The manifest of a built order

The checked manifest that the loader makes of a document that the build wrote,
if the seed is not negative and the tolerance is no boolean.
-/

namespace CodingLlm

open Words

variable {Digest Cursor : Type}

/-! ## Selections -/

/-- How the rows of a draft were selected. -/
inductive OrderDraft.Selection (draft : OrderDraft Digest Cursor) : Prop
  | all
      (untargeted : draft.selection.target = none)
      (rows : draft.selection.rowsPerDomain = draft.availableRows)
      (mixture : ∀ weights ∈ draft.weights,
        validateRowMixture draft.availableRows weights = .ok ())
  | capped (expectedTotal tolerance : PyValue)
      (weights : DomainWeights) (target : SelectedTarget)
      (weighted : draft.weights = some weights)
      (selected : CappedSelection draft.availableRows
        draft.common.sequenceLength draft.geometry expectedTotal tolerance
        draft.selection weights target)

theorem Drafted.selection [DecidableEq Digest]
    {environment : OrderEnvironment Digest Cursor}
    {arguments : OrderArguments} {draft : OrderDraft Digest Cursor}
    (drafted : Drafted environment arguments draft) : draft.Selection := by
  obtain ⟨_, -, selected, -⟩ := drafted.references
  cases selected with
  | capped _ selected _ =>
      obtain ⟨weights, target, weighted, capped⟩ :=
        selectCapped_eq_ok selected
      exact .capped _ _ weights target weighted capped
  | all _ selected _ =>
      obtain ⟨-, selection, mixture⟩ := selectAll_eq_ok selected
      exact .all (by rw [selection]) (by rw [selection]) mixture

namespace OrderDraft

/-- Neither the seed nor the tolerance of a draft is refused by the loader. -/
structure Loadable (draft : OrderDraft Digest Cursor) : Prop where
  seed_nonneg : 0 ≤ draft.seed
  tolerance : ∀ target ∈ draft.selection.target,
    target.tolerance.isBool = false

variable (draft : OrderDraft Digest Cursor)

/-- The frozen consumption that a draft accounts for. -/
def frozenConsumption (geometry : FrozenGeometry) : FrozenConsumption where
  toFrozenGeometry := geometry
  consumedRowsPerDomain := rowsIn (draft.references.take
    (geometry.consumedRows draft.references.length))
  consumedSupervisedTokensPerDomain :=
    supervisedIn draft.manifests draft.directories (draft.references.take
      (geometry.consumedRows draft.references.length))
  droppedSupervisedTokensPerDomain :=
    supervisedIn draft.manifests draft.directories (draft.references.drop
      (geometry.consumedRows draft.references.length))

/-- The token target that a draft meets. -/
def inputTokenTarget : Option InputTokenTarget :=
  draft.selection.target.bind fun target => draft.weights.map fun weights =>
    ⟨target.expectedTotal, target.tolerance.toInt.toNat, weights⟩

variable {draft}

theorem Exact.frozenAccounts
    (exact : draft.Exact) {geometry : FrozenGeometry}
    (frozen : draft.geometry = some geometry) :
    (draft.frozenConsumption geometry).Accounts draft.references.length
      (rowsIn draft.references)
      (supervisedIn draft.manifests draft.directories draft.references) := by
  have accounts : PrefixAccounts draft.manifests draft.directories
      draft.references (geometry.consumedRows draft.references.length) :=
    prefixAccounts (geometry.consumedRows_le _) exact.inDomains
  have updates := (exact.dropped geometry frozen).1
  refine ⟨exact.length_eq ▸ updates, fun domain => ?_,
    accounts.totalOf_consumedRows, accounts.supervised_eq⟩
  exact Nat.le.intro (accounts.rows_eq domain)

/-- The manifest that is loaded from what a draft writes. -/
def manifest
    (exact : draft.Exact) (hash : FileHash Digest Cursor)
    (numpyVersion : String) (nonempty : numpyVersion ≠ "") :
    OrderManifest Digest where
  tokenizerManifestSha256 := draft.common.tokenizerManifestSha256
  rows := draft.references.length
  split := draft.common.split
  sequenceLength := draft.common.sequenceLength
  vocabSize := .int draft.common.vocabSize
  eosTokenId := draft.common.eosTokenId
  seed := draft.seed.toNat
  rowSelection := draft.rowSelection
  numpyVersion := numpyVersion
  rows_pos := exact.length_eq ▸ exact.totalRows_pos
  split_ne_empty := draft.common.split_ne_empty
  two_le_sequenceLength := draft.common.two_le_sequenceLength
  vocabSize_bounds := by
    have bounds := draft.common.vocabSize_bounds
    exact ⟨Int.ofNat_le.mpr bounds.1, Int.ofNat_le.mpr bounds.2⟩
  eosTokenId_bounds := draft.common.eosTokenId_bounds
  numpyVersion_ne_empty := nonempty
  rowsPerDomain := rowsIn draft.references
  packedAvailableRowsPerDomain := draft.availableRows
  packedSurplusRowsPerDomain := fun domain =>
    draft.availableRows domain - rowsIn draft.references domain
  availableRows_eq := fun domain => by
    have le := exact.rows_le domain
    rw [← exact.rowsIn_eq] at le
    exact (Nat.add_sub_cancel' le).symm
  validLossTokensPerDomain :=
    supervisedIn draft.manifests draft.directories draft.references
  packedAvailableSupervisedTokensPerDomain := draft.availableSupervised
  packedSurplusSupervisedTokensPerDomain := fun domain =>
    draft.availableSupervised domain -
      supervisedIn draft.manifests draft.directories draft.references domain
  availableSupervisedTokens_eq := fun domain =>
    (Nat.add_sub_cancel' (exact.supervised_le domain)).symm
  datasetManifests := fun domain => {
    path := (draft.paths domain).path
    sha256 := hash.packedManifest (draft.packed domain).document
    path_ne_empty := (draft.paths domain).path_ne_empty }
  consumption := draft.geometry.map draft.frozenConsumption
  target := draft.inputTokenTarget
  orderSha256 :=
    hash.bytes (encodeWords referenceItemSize draft.references)
  expectedInputTokenWeights :=
    (draft.document hash numpyVersion).expectedInputTokenWeights
  inputTokensPerDomain :=
    (draft.document hash numpyVersion).inputTokensPerDomain
  realizedInputTokenWeights :=
    (draft.document hash numpyVersion).realizedInputTokenWeights
  realizedValidLossTokenWeights :=
    (draft.document hash numpyVersion).realizedValidLossTokenWeights
  totalOf_rowsPerDomain := totalOf_rowsIn exact.inDomains
  accounts := fun frozen member => by
    obtain ⟨geometry, found, rfl⟩ := Option.map_eq_some_iff.mp member
    exact exact.frozenAccounts found

end OrderDraft

/-! ## The document records the manifest -/

theorem totalOf_natCast (values : Domain -> Nat) :
    (totalOf fun domain => (values domain : Int)) = (totalOf values : Nat) := by
  simp only [totalOf_eq]
  push_cast
  rfl

theorem EqualsInts.of_eq
    {values expected : Domain -> Int}
    (same : ∀ domain, values domain = expected domain) :
    (OrderDraft.mapping values).EqualsInts expected :=
  (DomainField.equalsInts_mapping_int _ _).mpr (funext same)

section Recorded

variable {draft : OrderDraft Digest Cursor} (exact : draft.Exact)
variable (hash : FileHash Digest Cursor)
variable {numpyVersion : String} (nonempty : numpyVersion ≠ "")

theorem OrderDraft.Loadable.header
    (loadable : draft.Loadable) :
    (draft.manifest exact hash numpyVersion nonempty).toOrderHeader.Recorded
      (draft.document hash numpyVersion) where
  format := rfl
  formatVersion := (PyValue.equalsInt_int _ _).mpr rfl
  domainOrder := rfl
  referenceDtype := rfl
  encoding := ⟨_, rfl, (PyValue.equalsInt_int _ _).mpr rfl,
    (PyValue.equalsInt_int _ _).mpr rfl⟩
  tokenizerManifestSha256 := rfl
  rows := congrArg (fun rows : Nat => PyValue.int rows) exact.length_eq.symm
  split := rfl
  sequenceLength := rfl
  vocabSize := rfl
  eosTokenId := rfl
  seed := congrArg PyValue.int (Int.toNat_of_nonneg loadable.seed_nonneg).symm
  rng := rfl
  rowSelection := rfl
  shuffle := rfl
  seedDerivation := rfl
  numpyVersion := rfl

include exact in
theorem OrderDraft.Exact.surplusRows_eq (domain : Domain) :
    draft.surplusRows domain =
      (draft.availableRows domain - rowsIn draft.references domain : Nat) := by
  have le := exact.rows_le domain
  rw [← exact.rowsIn_eq] at le
  rw [surplusRows, ← exact.rowsIn_eq, Nat.cast_sub le]

include exact in
theorem OrderDraft.Exact.surplusSupervised_eq (domain : Domain) :
    draft.surplusSupervised domain =
      (draft.availableSupervised domain - supervisedIn draft.manifests
        draft.directories draft.references domain : Nat) := by
  rw [surplusSupervised, exact.selectedSupervised_eq,
    Nat.cast_sub (exact.supervised_le domain)]

theorem OrderDraft.Exact.counts :
    (draft.manifest exact hash numpyVersion nonempty).toOrderCounts.Recorded
      draft.common.sequenceLength (draft.document hash numpyVersion) := by
  have tokens (rows : Domain -> Nat) (domain : Domain) :
      draft.inputTokens (fun domain => rows domain) domain =
        (rows domain * draft.common.sequenceLength : Nat) := by
    rw [inputTokens, Nat.cast_mul]
  have surplus : draft.surplusRows = fun domain =>
      ((draft.availableRows domain - rowsIn draft.references domain : Nat) :
        Int) := funext exact.surplusRows_eq
  have totals (rows : Domain -> Nat) :
      totalOf (draft.inputTokens fun domain => rows domain) =
        (totalOf rows * draft.common.sequenceLength : Nat) := by
    rw [funext (tokens rows), totalOf_natCast, totalOf_mul]
  refine ⟨ofCounts_eq_mapping fun domain => ?_, rfl, ?_, ?_, ?_,
    EqualsInts.of_eq (tokens _), ?_, ?_, ?_⟩
  · exact congrArg Nat.cast (exact.rowsIn_eq domain).symm
  · exact ofCounts_eq_mapping exact.surplusRows_eq
  · exact (PyValue.equalsInt_int _ _).mpr (totalOf_natCast _)
  · exact (PyValue.equalsInt_int _ _).mpr
      ((congrArg totalOf surplus).trans (totalOf_natCast _))
  · refine EqualsInts.of_eq fun domain => ?_
    rw [surplus]
    exact tokens _ domain
  · exact (PyValue.equalsInt_int _ _).mpr (totals _)
  · refine (PyValue.equalsInt_int _ _).mpr ?_
    rw [surplus]
    exact totals _

theorem OrderDraft.Exact.supervision :
    (draft.manifest exact hash numpyVersion
      nonempty).toOrderSupervision.Recorded
        (draft.document hash numpyVersion) := by
  refine ⟨ofCounts_eq_mapping exact.selectedSupervised_eq, rfl,
    ofCounts_eq_mapping exact.surplusSupervised_eq, ?_, ?_⟩
  · exact (PyValue.equalsInt_int _ _).mpr (totalOf_natCast _)
  · refine (PyValue.equalsInt_int _ _).mpr ?_
    rw [funext exact.surplusSupervised_eq]
    exact totalOf_natCast _

/-- What is selected but not dropped is consumed. -/
theorem OrderDraft.Exact.consumedSupervised_eq
    {draft : OrderDraft Digest Cursor} (exact : draft.Exact)
    {geometry : FrozenGeometry} (frozen : draft.geometry = some geometry)
    (domain : Domain) :
    draft.selectedSupervised domain - draft.droppedSupervised domain =
      supervisedIn draft.manifests draft.directories (draft.references.take
        (geometry.consumedRows draft.references.length)) domain := by
  have sum := supervisedIn_take_add_drop draft.manifests draft.directories
    draft.references (geometry.consumedRows draft.references.length) domain
  have tail := congrFun (exact.dropped geometry frozen).2 domain
  rw [← exact.length_eq] at tail
  rw [exact.selectedSupervised_eq]
  omega

/-- What is selected but not consumed is dropped. -/
theorem OrderDraft.Exact.droppedRows_eq
    {draft : OrderDraft Digest Cursor} (exact : draft.Exact) (count : Nat)
    (domain : Domain) :
    (draft.selection.rowsPerDomain domain : Int) -
        (draft.consumedRowsOf count domain : Int) =
      (rowsIn draft.references domain -
        rowsIn (draft.references.take count) domain : Nat) := by
  have sum := rowsIn_take_add_drop draft.references count domain
  rw [Nat.cast_sub (Nat.le.intro sum), exact.rowsIn_eq]
  rfl

include exact in
theorem OrderDraft.Exact.frozenRecorded
    {geometry : FrozenGeometry} (frozen : draft.geometry = some geometry) :
    (draft.frozenConsumption geometry).Recorded draft.references.length
      draft.common.sequenceLength (rowsIn draft.references)
      (supervisedIn draft.manifests draft.directories draft.references)
      draft.trainingConsumption := by
  have consumedLe := geometry.consumedRows_le draft.references.length
  have microbatchesLe :=
    geometry.consumedGlobalMicrobatches_le draft.references.length
  have consumedSupervised := exact.consumedSupervised_eq frozen
  have droppedSupervised := congrFun (exact.dropped geometry frozen).2
  have droppedRows := exact.droppedRows_eq
    (geometry.consumedRows draft.references.length)
  have rowsEq := rowsIn_take_add_drop draft.references
    (geometry.consumedRows draft.references.length)
  have supervisedEq := supervisedIn_take_add_drop draft.manifests
    draft.directories draft.references
    (geometry.consumedRows draft.references.length)
  rw [← exact.length_eq] at droppedSupervised
  have written {value expected : Int} (same : value = expected) :
      (PyValue.int value).EqualsInt expected :=
    (PyValue.equalsInt_int _ _).mpr same
  have tokens (rows : Nat) :
      ((rows : Int) * (draft.common.sequenceLength : Int)) =
        (rows * draft.common.sequenceLength : Nat) := (Nat.cast_mul ..).symm
  unfold OrderDraft.trainingConsumption
  simp only [frozen, ← exact.length_eq, consumedSupervised, droppedRows,
    totalOf_natCast]
  rw [funext droppedSupervised, totalOf_natCast]
  refine ⟨rfl, rfl, written rfl, rfl, written rfl, written rfl, written ?_,
    written rfl, written rfl, written rfl, written ?_, written rfl,
    written ?_, rfl, rfl, ?_⟩
  · exact (Nat.cast_sub microbatchesLe).symm
  · exact (Nat.cast_sub consumedLe).symm
  · rw [← Nat.cast_sub consumedLe]
    exact tokens _
  · let consumed := geometry.consumedRows draft.references.length
    let taken := rowsIn (draft.references.take consumed)
    let supervised := supervisedIn draft.manifests draft.directories
      (draft.references.take consumed)
    refine ⟨fun domain => {
        rows := .int (taken domain)
        inputTokens := .int ((taken domain : Int) *
          (draft.common.sequenceLength : Int))
        supervised := .int (supervised domain)
        inputWeight := .float (((taken domain : Int) : Rat) / consumed)
        supervisedWeight := .float
          (shareOf (supervised domain) (totalOf supervised : Nat))
        droppedRows :=
          .int (rowsIn draft.references domain - taken domain : Nat)
        droppedInputTokens := .int
          (((rowsIn draft.references domain - taken domain : Nat) : Int) *
            (draft.common.sequenceLength : Int))
        droppedSupervised := .int (supervisedIn draft.manifests
          draft.directories (draft.references.drop consumed) domain) },
      rfl, rfl, rfl, rfl, rfl, rfl, rfl, rfl, fun domain => ?_⟩
    refine ⟨rfl, Nat.le.intro (rowsEq domain), written (tokens _),
      written rfl, written (tokens _), rfl, rfl, supervisedEq domain, ?_,
      PyValue.isClose_float _⟩
    change PyValue.IsClose (.float (((taken domain : Int) : Rat) / consumed))
      ((taken domain : Rat) / consumed)
    rw [Int.cast_natCast]
    exact PyValue.isClose_float _

include exact in
theorem OrderDraft.Exact.consumption :
    ConsumptionRecorded (draft.geometry.map draft.frozenConsumption)
      draft.references.length draft.common.sequenceLength
      (rowsIn draft.references)
      (supervisedIn draft.manifests draft.directories draft.references)
      draft.trainingConsumption := by
  have supervised : totalOf draft.selectedSupervised =
      (totalOf (supervisedIn draft.manifests draft.directories
        draft.references) : Nat) := by
    rw [funext exact.selectedSupervised_eq]
    exact totalOf_natCast _
  have written {value expected : Int} (same : value = expected) :
      (PyValue.int value).EqualsInt expected :=
    (PyValue.equalsInt_int _ _).mpr same
  cases found : draft.geometry with
  | none =>
      unfold OrderDraft.trainingConsumption
      simp only [found, ← exact.length_eq]
      exact ⟨written rfl, written rfl, written supervised,
        fun _ => ⟨rfl, rfl, rfl, rfl,
          by simp [TrainingConsumptionJson.nullableValues],
          by simp [TrainingConsumptionJson.nullableMappings]⟩, nofun⟩
  | some geometry =>
      have recorded := exact.frozenRecorded found
      refine ⟨?_, ?_, ?_, nofun, ?_⟩
      · simp only [OrderDraft.trainingConsumption, found, ← exact.length_eq]
        exact written rfl
      · simp only [OrderDraft.trainingConsumption, found, ← exact.length_eq]
        exact written rfl
      · simp only [OrderDraft.trainingConsumption, found]
        exact written supervised
      · rintro _ ⟨⟩
        exact ⟨exact.frozenAccounts found, recorded⟩

include exact in
/-- The target of a capped draft is recorded and met. -/
theorem OrderDraft.Exact.targetRecorded
    {expectedTotal tolerance : PyValue} {weights : DomainWeights}
    {target : SelectedTarget} (plain : target.tolerance.isBool = false)
    (weighted : draft.weights = some weights)
    (selected : CappedSelection draft.availableRows
      draft.common.sequenceLength draft.geometry expectedTotal tolerance
      draft.selection weights target) :
    InputTokenTarget.Recorded
      ⟨target.expectedTotal, target.tolerance.toInt.toNat, weights⟩
      draft.inputTokenBudget
      (draft.document hash numpyVersion).expectedInputTokenWeights
      draft.rowSelection draft.references.length
      draft.common.sequenceLength (rowsIn draft.references)
      draft.geometry := by
  have positive : 0 < draft.common.sequenceLength :=
    Nat.lt_of_lt_of_le (by decide) draft.common.two_le_sequenceLength
  obtain ⟨whole, -, -⟩ := @accountedRows_selectableRows
    draft.common.sequenceLength target.expectedTotal positive draft.geometry
  rw [← selected.totalRows_eq, ← exact.length_eq] at whole
  have deltaEq := selected.delta_eq
  have low := selected.delta_bounds
  rw [← exact.length_eq] at deltaEq
  have nonneg := selected.tolerance_nonneg
  have toleranceEq : target.tolerance.toValue =
      .int target.tolerance.toInt.toNat := by
    cases found : target.tolerance with
    | int value =>
        rw [found] at nonneg
        exact congrArg PyValue.int (Int.toNat_of_nonneg nonneg).symm
    | bool value =>
        rw [found] at plain
        cases plain
  refine ⟨?_, ?_, selected.expectedTotal_pos, ?_, ?_, ?_, ?_, ?_, ?_, ?_⟩
  · rw [OrderDraft.rowSelection, selected.target_eq]
    rfl
  · simp only [OrderDraft.inputTokenBudget, selected.target_eq]
  · simp only [OrderDraft.inputTokenBudget, selected.target_eq, toleranceEq]
  · simp only [OrderDraft.document, weighted]
    exact normalizeDomainWeights_ofWeights weights
  · rw [exact.length_eq]
    exact selected.totalRows_eq
  · rw [exact.length_eq, ← selected.rowsPerDomain_eq]
    exact funext exact.rowsIn_eq
  · simp only [OrderDraft.inputTokenBudget, selected.target_eq, whole]
    exact (PyValue.equalsInt_int _ _).mpr deltaEq
  · rw [whole]
    simp only
    omega
  · rw [whole]
    simp only
    omega

theorem OrderDraft.Exact.budget
    (selection : draft.Selection) (loadable : draft.Loadable) :
    BudgetRecorded draft.inputTokenTarget
      (draft.document hash numpyVersion).expectedInputTokenWeights
      draft.rowSelection draft.references.length draft.common.sequenceLength
      (draft.manifest exact hash numpyVersion nonempty).toOrderCounts
      draft.geometry draft.inputTokenBudget := by
  have written {value expected : Int} (same : value = expected) :
      (PyValue.int value).EqualsInt expected :=
    (PyValue.equalsInt_int _ _).mpr same
  have totals (rows : Domain -> Nat) :
      totalOf (draft.inputTokens fun domain => rows domain) =
        (totalOf rows * draft.common.sequenceLength : Nat) := by
    rw [← totalOf_mul, ← totalOf_natCast]
    exact congrArg totalOf (funext fun domain => (Nat.cast_mul ..).symm)
  have surplus : totalOf (draft.inputTokens draft.surplusRows) =
      ((draft.manifest exact hash numpyVersion
        nonempty).packedSurplusRows * draft.common.sequenceLength : Nat) := by
    rw [funext exact.surplusRows_eq]
    exact totals _
  refine ⟨rfl, rfl, ?_, written (totals _), written surplus, rfl, ?_, ?_,
    ?_⟩
  · rw [exact.length_eq]
    exact written rfl
  · rw [exact.length_eq]
    exact written rfl
  · intro untargeted
    cases selection with
    | all noTarget rows _ =>
        simp only [OrderDraft.inputTokenBudget, OrderDraft.rowSelection,
          noTarget]
        refine ⟨trivial, rfl, trivial, trivial, ?_⟩
        have nothing : (draft.manifest exact hash numpyVersion
            nonempty).packedSurplusRowsPerDomain = fun _ => 0 := by
          funext domain
          change draft.availableRows domain - rowsIn draft.references domain =
            0
          rw [exact.rowsIn_eq, rows, Nat.sub_self]
        rw [OrderCounts.packedSurplusRows, nothing]
        rfl
    | capped _ _ weights target weighted selected =>
        rw [OrderDraft.inputTokenTarget, selected.target_eq, weighted]
          at untargeted
        cases untargeted
  · intro aim member
    cases selection with
    | all noTarget _ _ =>
        rw [OrderDraft.inputTokenTarget, noTarget] at member
        cases member
    | capped _ _ weights target weighted selected =>
        rw [OrderDraft.inputTokenTarget, selected.target_eq, weighted]
          at member
        cases member
        exact exact.targetRecorded hash
          (loadable.tolerance target selected.target_eq) weighted selected

/-- What a loadable draft writes records its manifest. -/
theorem OrderDraft.Loadable.recorded
    (selection : draft.Selection) (loadable : draft.Loadable) :
    (draft.manifest exact hash numpyVersion nonempty).Recorded
      (draft.document hash numpyVersion) where
  header := loadable.header exact hash nonempty
  counts := exact.counts hash nonempty
  datasets := rfl
  supervision := exact.supervision hash nonempty
  consumption := ⟨_, rfl, exact.consumption⟩
  budget := by
    refine ⟨_, rfl, ?_⟩
    have budget := exact.budget hash nonempty selection loadable
    have geometry : (draft.manifest exact hash numpyVersion
        nonempty).geometry = draft.geometry := by
      change (draft.geometry.map draft.frozenConsumption).map
        FrozenConsumption.toFrozenGeometry = draft.geometry
      rw [Option.map_map]
      exact congrFun Option.map_id draft.geometry
    rw [geometry]
    exact budget
  order := by
    refine ⟨_, rfl, rfl, rfl, (PyValue.equalsInt_int _ _).mpr ?_⟩
    rw [length_encodeWords]
    rfl
  expectedInputTokenWeights := rfl
  inputTokensPerDomain := rfl
  realizedInputTokenWeights := rfl
  realizedValidLossTokenWeights := rfl

end Recorded

end CodingLlm
