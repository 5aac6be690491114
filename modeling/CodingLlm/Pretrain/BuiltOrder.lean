import CodingLlm.Pretrain.OrderAccounting

/-!
# Built orders account exactly

The order that `build_training_order` writes addresses every selected row once,
and every count of its manifest is the count of the payload beside it.
-/

namespace CodingLlm

open CrashLogic Words

variable {Digest Cursor : Type}

/-! ## What the document says of the references -/

/-- A document accounts for the selected references. -/
structure AccountsFor
    (manifests : Domain -> PackedManifest Digest Cursor)
    (directories : Domain -> Directory Digest Cursor)
    (sequenceLength : Nat) (references : List Nat)
    (document : OrderManifestJson Digest) : Prop where
  nodup : references.Nodup
  addresses : ∀ reference ∈ references, ∃ domain row,
    Addresses manifests reference domain row
  rows : document.rows = .int references.length
  rowsPerDomain : document.rowsPerDomain = .ofCounts (rowsIn references)
  inputTokensPerDomain : document.inputTokensPerDomain =
    .ofCounts fun domain => rowsIn references domain * sequenceLength
  surplusRows : ∃ surplus,
    document.packedSurplusRowsPerDomain = .ofCounts surplus ∧
      ∀ domain, rowsIn references domain + surplus domain =
        (manifests domain).rows
  supervised : document.validLossTokensPerDomain =
    .ofCounts (supervisedIn manifests directories references)
  surplusSupervised : ∃ surplus,
    document.packedSurplusSupervisedTokensPerDomain = .ofCounts surplus ∧
      ∀ domain,
        supervisedIn manifests directories references domain +
          surplus domain = (manifests domain).validLossTokens

/-- Consumption and its remainder are the counts of a prefix and of the rest
of the references. -/
structure ConsumesPrefix
    (manifests : Domain -> PackedManifest Digest Cursor)
    (directories : Domain -> Directory Digest Cursor)
    (sequenceLength : Nat) (references : List Nat) (count : Nat)
    (consumption : TrainingConsumptionJson) : Prop where
  consumedRows : consumption.consumedRows = .int count
  droppedRows : consumption.droppedTailRows =
    .int (references.length - count : Nat)
  consumedRowsPerDomain : consumption.consumedRowsPerDomain =
    .ofCounts (rowsIn (references.take count))
  droppedRowsPerDomain : consumption.droppedRowsPerDomain =
    .ofCounts (rowsIn (references.drop count))
  consumedInputTokens : consumption.consumedInputTokens =
    .int (count * sequenceLength : Nat)
  droppedInputTokens : consumption.droppedInputTokens =
    .int ((references.length - count) * sequenceLength : Nat)
  consumedInputTokensPerDomain : consumption.consumedInputTokensPerDomain =
    .ofCounts fun domain =>
      rowsIn (references.take count) domain * sequenceLength
  droppedInputTokensPerDomain : consumption.droppedInputTokensPerDomain =
    .ofCounts fun domain =>
      rowsIn (references.drop count) domain * sequenceLength
  consumedSupervisedPerDomain :
    consumption.consumedSupervisedTokensPerDomain = .ofCounts
      (supervisedIn manifests directories (references.take count))
  droppedSupervisedPerDomain :
    consumption.droppedSupervisedTokensPerDomain = .ofCounts
      (supervisedIn manifests directories (references.drop count))
  consumedSupervised : consumption.consumedSupervisedTokens =
    .int (totalOf
      (supervisedIn manifests directories (references.take count)) : Nat)
  droppedSupervised : consumption.droppedSupervisedTokens =
    .int (totalOf
      (supervisedIn manifests directories (references.drop count)) : Nat)
  availableSupervised : consumption.availableSupervisedTokens =
    .int (totalOf (supervisedIn manifests directories references) : Nat)

/-- Consumed and dropped make up the selected, per domain and in total. -/
structure PrefixAccounts
    (manifests : Domain -> PackedManifest Digest Cursor)
    (directories : Domain -> Directory Digest Cursor)
    (references : List Nat) (consumedRows : Nat) : Prop where
  consumedRows_le : consumedRows ≤ references.length
  totalOf_consumedRows :
    totalOf (rowsIn (references.take consumedRows)) = consumedRows
  totalOf_droppedRows : totalOf (rowsIn (references.drop consumedRows)) =
    references.length - consumedRows
  rows_eq : ∀ domain,
    rowsIn (references.take consumedRows) domain +
        rowsIn (references.drop consumedRows) domain =
      rowsIn references domain
  supervised_eq : ∀ domain,
    supervisedIn manifests directories (references.take consumedRows) domain +
        supervisedIn manifests directories (references.drop consumedRows)
          domain =
      supervisedIn manifests directories references domain
  totalOf_supervised :
    totalOf (supervisedIn manifests directories
        (references.take consumedRows)) +
        totalOf (supervisedIn manifests directories
          (references.drop consumedRows)) =
      totalOf (supervisedIn manifests directories references)

/-! ## Counting by domain -/

/-- Every reference to some domain is counted under exactly one. -/
theorem totalOf_rowsIn
    {references : List Nat}
    (inDomains : ∀ reference ∈ references, ∃ domain : Domain,
      (decodeReference reference).1 = domain.id) :
    totalOf (rowsIn references) = references.length := by
  induction references with
  | nil => rfl
  | cons reference rest inductionHypothesis =>
      rw [List.forall_mem_cons] at inDomains
      obtain ⟨domain, decoded⟩ := inDomains.1
      have others := inductionHypothesis inDomains.2
      have step (other : Domain) : rowsIn (reference :: rest) other =
          rowsIn rest other + if domain = other then 1 else 0 := by
        rw [rowsIn, List.countP_cons, decoded]
        simp only [decide_eq_true_eq, Domain.id_injective.eq_iff]
        rfl
      simp only [totalOf_eq, step, List.length_cons] at others ⊢
      cases domain <;> simp only [reduceCtorEq, if_true, if_false] <;> omega

/-- References to domains fit in 64 bits. -/
theorem lt_of_decodeReference
    {reference : Nat} {domain : Domain}
    (decoded : (decodeReference reference).1 = domain.id) :
    reference < 256 ^ referenceItemSize := by
  rw [decodeReference_eq] at decoded
  have small := domain.id_lt_three
  have split := Nat.div_add_mod reference (2 ^ rowBits)
  have low := Nat.mod_lt reference (show 0 < 2 ^ rowBits by positivity)
  simp only at decoded
  rw [decoded] at split
  have bits : (2 : Nat) ^ rowBits = 72057594037927936 := by decide
  have width : (256 : Nat) ^ referenceItemSize = 18446744073709551616 := by
    decide
  rw [bits] at split low
  rw [width]
  omega

theorem prefixAccounts
    {manifests : Domain -> PackedManifest Digest Cursor}
    {directories : Domain -> Directory Digest Cursor}
    {references : List Nat} {consumedRows : Nat}
    (bound : consumedRows ≤ references.length)
    (inDomains : ∀ reference ∈ references, ∃ domain : Domain,
      (decodeReference reference).1 = domain.id) :
    PrefixAccounts manifests directories references consumedRows where
  consumedRows_le := bound
  totalOf_consumedRows := by
    rw [totalOf_rowsIn fun reference member =>
      inDomains reference (List.mem_of_mem_take member), List.length_take,
      Nat.min_eq_left bound]
  totalOf_droppedRows := by
    rw [totalOf_rowsIn fun reference member =>
      inDomains reference (List.mem_of_mem_drop member), List.length_drop]
  rows_eq := rowsIn_take_add_drop references consumedRows
  supervised_eq :=
    supervisedIn_take_add_drop manifests directories references consumedRows
  totalOf_supervised := by
    rw [← totalOf_add]
    exact congrArg totalOf (funext (supervisedIn_take_add_drop manifests
      directories references consumedRows))

/-! ## Targets -/

/-- A selection in whole units stays at or below its target, by less than one
unit; a frozen geometry consumes all of it. -/
theorem accountedRows_selectableRows
    {sequenceLength target : Nat} (positive : 0 < sequenceLength)
    (geometry : Option FrozenGeometry) :
    accountedRows (selectableRows sequenceLength target geometry) geometry =
        selectableRows sequenceLength target geometry ∧
      selectableRows sequenceLength target geometry * sequenceLength ≤
        target ∧
      target < selectableRows sequenceLength target geometry *
        sequenceLength + selectableUnit geometry * sequenceLength := by
  have floor := Nat.div_mul_le_self target sequenceLength
  have above : target < target / sequenceLength * sequenceLength +
      sequenceLength := Nat.lt_div_mul_add positive
  cases geometry with
  | none =>
      refine ⟨rfl, floor, ?_⟩
      rw [selectableUnit, Nat.one_mul]
      exact above
  | some geometry =>
      have unit := geometry.updateRows_pos
      simp only [accountedRows, selectableRows, selectableUnit,
        FrozenGeometry.consumedRows, FrozenGeometry.optimizerUpdates]
      generalize target / sequenceLength = rows at floor above
      generalize geometry.updateRows = update at unit
      have whole := Nat.div_mul_le_self rows update
      have next : rows + 1 ≤ rows / update * update + update :=
        Nat.lt_div_mul_add unit
      refine ⟨by rw [Nat.mul_div_cancel _ unit], ?_, ?_⟩
      · exact (Nat.mul_le_mul_right sequenceLength whole).trans floor
      · calc target
            < rows * sequenceLength + sequenceLength := above
          _ = (rows + 1) * sequenceLength := (Nat.succ_mul ..).symm
          _ ≤ (rows / update * update + update) * sequenceLength :=
            Nat.mul_le_mul_right sequenceLength next
          _ = _ := Nat.add_mul ..

/-! ## Drafts -/

section Drafts

variable {draft : OrderDraft Digest Cursor}

theorem OrderDraft.Exact.inDomains (exact : draft.Exact) :
    ∀ reference ∈ draft.references, ∃ domain : Domain,
      (decodeReference reference).1 = domain.id := by
  intro reference member
  obtain ⟨domain, row, addresses⟩ := exact.addresses reference member
  exact ⟨domain, by rw [addresses.decode_eq]⟩

/-- The payload is read back as the references. -/
theorem OrderDraft.Exact.decodeWords_payload (exact : draft.Exact) :
    decodeWords referenceItemSize
        (encodeWords referenceItemSize draft.references) =
      draft.references := by
  refine decodeWords_encodeWords (by decide) fun reference member => ?_
  obtain ⟨domain, decoded⟩ := exact.inDomains reference member
  exact lt_of_decodeReference decoded

theorem ofCounts_eq_mapping
    {values : Domain -> Int} {counts : Domain -> Nat}
    (same : ∀ domain, values domain = counts domain) :
    OrderDraft.mapping values = .ofCounts counts :=
  congrArg DomainField.mapping (funext fun domain =>
    congrArg PyValue.int (same domain))

theorem OrderDraft.Exact.accountsFor
    (exact : draft.Exact) (hash : FileHash Digest Cursor)
    (numpyVersion : String) :
    AccountsFor draft.manifests draft.directories draft.common.sequenceLength
      draft.references (draft.document hash numpyVersion) where
  nodup := exact.nodup
  addresses := exact.addresses
  rows := congrArg (fun rows : Nat => PyValue.int rows) exact.length_eq.symm
  rowsPerDomain := ofCounts_eq_mapping fun domain =>
    congrArg Nat.cast (exact.rowsIn_eq domain).symm
  inputTokensPerDomain := ofCounts_eq_mapping fun domain => by
    rw [exact.rowsIn_eq, inputTokens]
    push_cast
    rfl
  surplusRows := by
    refine ⟨fun domain => draft.availableRows domain -
      draft.selection.rowsPerDomain domain, ?_, ?_⟩
    · exact ofCounts_eq_mapping fun domain =>
        (Nat.cast_sub (exact.rows_le domain)).symm
    · intro domain
      rw [exact.rowsIn_eq]
      exact Nat.add_sub_cancel' (exact.rows_le domain)
  supervised := ofCounts_eq_mapping exact.selectedSupervised_eq
  surplusSupervised := by
    refine ⟨fun domain => draft.availableSupervised domain -
      supervisedIn draft.manifests draft.directories draft.references domain,
      ?_, ?_⟩
    · refine ofCounts_eq_mapping fun domain => ?_
      rw [surplusSupervised, exact.selectedSupervised_eq,
        Nat.cast_sub (exact.supervised_le domain)]
    · intro domain
      exact Nat.add_sub_cancel' (exact.supervised_le domain)

theorem OrderDraft.Exact.consumesPrefix
    (exact : draft.Exact) {geometry : FrozenGeometry}
    (frozen : draft.geometry = some geometry) :
    ConsumesPrefix draft.manifests draft.directories
      draft.common.sequenceLength draft.references
      (geometry.consumedRows draft.references.length)
      draft.trainingConsumption := by
  have bound := geometry.consumedRows_le draft.references.length
  have accounts : PrefixAccounts draft.manifests draft.directories
      draft.references (geometry.consumedRows draft.references.length) :=
    prefixAccounts bound exact.inDomains
  have rows := exact.length_eq
  have dropped := (exact.dropped geometry frozen).2
  rw [← rows] at dropped
  have consumedSupervised (domain : Domain) :
      draft.selectedSupervised domain - draft.droppedSupervised domain =
        supervisedIn draft.manifests draft.directories (draft.references.take
          (geometry.consumedRows draft.references.length)) domain := by
    have sum := accounts.supervised_eq domain
    have tail := congrFun dropped domain
    rw [exact.selectedSupervised_eq]
    omega
  have droppedRows (domain : Domain) :
      (draft.selection.rowsPerDomain domain : Int) -
          (draft.consumedRowsOf
            (geometry.consumedRows draft.references.length) domain : Int) =
        rowsIn (draft.references.drop
          (geometry.consumedRows draft.references.length)) domain := by
    have sum := accounts.rows_eq domain
    rw [exact.rowsIn_eq] at sum
    have same : draft.consumedRowsOf
        (geometry.consumedRows draft.references.length) domain =
          rowsIn (draft.references.take
            (geometry.consumedRows draft.references.length)) domain := rfl
    omega
  have totals {values : Domain -> Int} {counts : Domain -> Nat}
      (same : ∀ domain, values domain = counts domain) :
      totalOf values = (totalOf counts : Nat) := by
    simp only [totalOf_eq, same]
    push_cast
    rfl
  unfold OrderDraft.trainingConsumption
  simp only [frozen, ← rows]
  refine ⟨rfl, ?_, rfl, ofCounts_eq_mapping droppedRows, rfl, ?_, ?_, ?_,
    ofCounts_eq_mapping consumedSupervised, ?_,
    congrArg PyValue.int (totals consumedSupervised), ?_, ?_⟩
  · exact congrArg PyValue.int (Nat.cast_sub bound).symm
  · refine congrArg PyValue.int ?_
    rw [Nat.cast_mul, Nat.cast_sub bound]
  · refine ofCounts_eq_mapping fun domain => ?_
    rw [inputTokens]
    push_cast
    rfl
  · refine ofCounts_eq_mapping fun domain => ?_
    rw [inputTokens, droppedRows]
    push_cast
    rfl
  · exact ofCounts_eq_mapping fun domain => congrFun dropped domain
  · exact congrArg PyValue.int (totals (congrFun dropped))
  · exact congrArg PyValue.int (totals exact.selectedSupervised_eq)

end Drafts

/-! ## The built order -/

/-- What a build writes. -/
theorem buildTrainingOrder_eq_ok [DecidableEq Digest]
    {environment : OrderEnvironment Digest Cursor}
    {arguments : OrderArguments} {output directory : OrderDirectory Digest}
    (built : buildTrainingOrder environment arguments output =
      .ok directory) :
    ∃ draft, draftTrainingOrder environment arguments = .ok draft ∧
      directory = {
        manifest := some
          (draft.document environment.hash environment.numpyVersion)
        payload := some (encodeWords referenceItemSize draft.references)
        others := [] } := by
  rw [buildTrainingOrder, require_then_eq_ok, checked_bind_eq_ok] at built
  obtain ⟨-, draft, drafted, equal⟩ := built
  exact ⟨draft, drafted, (checked_pure_eq_ok.mp equal).symm⟩

/-- The directories and manifests of a draft are those under its paths. -/
theorem Drafted.inputs_eq [DecidableEq Digest]
    {environment : OrderEnvironment Digest Cursor}
    {arguments : OrderArguments} {draft : OrderDraft Digest Cursor}
    (drafted : Drafted environment arguments draft)
    {paths : Domain -> RelativePath}
    {directories : Domain -> Directory Digest Cursor}
    {manifests : Domain -> PackedManifest Digest Cursor}
    (mapping : arguments.manifests = .mapping paths)
    (stored : ∀ domain,
      environment.store (paths domain).path = some (directories domain))
    (validated : ∀ domain, ∃ verifyChecksums,
      validatePackedManifest environment.hash.bytes verifyChecksums
        (directories domain) = .ok (manifests domain)) :
    draft.paths = paths ∧ draft.directories = directories ∧
      draft.manifests = manifests ∧ ValidatedInputs environment draft := by
  have samePaths : draft.paths = paths := by
    have both := drafted.paths.symm.trans mapping
    exact DomainField.mapping.inj both
  have sameDirectories : draft.directories = directories := by
    funext domain
    have found := (loadPackedInput_eq_ok.mp (drafted.packed domain)).1
    rw [samePaths, stored] at found
    exact (Option.some.inj found).symm
  have sameManifests : draft.manifests = manifests := by
    funext domain
    obtain ⟨-, read, parsed, -⟩ :=
      loadPackedInput_eq_ok.mp (drafted.packed domain)
    obtain ⟨_, accepted⟩ := validated domain
    obtain ⟨⟨document, readAgain, parsedAgain⟩, -⟩ :=
      validatePackedManifest_eq_ok_iff.mp accepted
    change readManifest (draft.directories domain) = _ at read
    rw [sameDirectories, readAgain] at read
    rw [← Except.ok.inj read, parsedAgain] at parsed
    exact (Except.ok.inj parsed).symm
  refine ⟨samePaths, sameDirectories, sameManifests, fun domain => ?_⟩
  rw [sameDirectories, sameManifests]
  exact validated domain

/-- Packed documents of a domain. -/
def smallPackedDomain (domain : Domain) (documents : List (List Nat)) :
    Directory (List Byte) Unit :=
  ((packDocuments id { smallArguments with domain := domain.name }
    .default documents).run ∅).final

/-- The relative path of a domain's packed manifest. -/
def smallPath : Domain -> RelativePath
  | .python => ⟨"../python/manifest.json", by decide, by decide⟩
  | .otherCode => ⟨"../other_code/manifest.json", by decide, by decide⟩
  | .english => ⟨"../english/manifest.json", by decide, by decide⟩

/-- One row of Python and nothing else. -/
def smallDirectory : Domain -> Directory (List Byte) Unit
  | .python => smallPackedDomain .python [[1, 2]]
  | .otherCode => smallPackedDomain .otherCode []
  | .english => smallPackedDomain .english []

/-- The small directories under their paths; one row has one permutation. -/
def smallEnvironment : OrderEnvironment (List Byte) Unit where
  hash := ⟨id, fun _ => [], fun _ => []⟩
  store := fun path => (Domain.order.find? fun domain =>
    (smallPath domain).path = path).map smallDirectory
  shuffles := ⟨fun _ _ items => items, fun _ items => items,
    fun _ _ _ => .refl _, fun _ _ => .refl _⟩
  numpyVersion := "2.0.0"
  numpyVersion_ne_empty := by decide

theorem smallEnvironment_numpyVersion :
    smallEnvironment.numpyVersion ≠ "" :=
  smallEnvironment.numpyVersion_ne_empty

/-- A target of one row, frozen to updates of one row. -/
def smallOrderArguments : OrderArguments where
  manifests := .mapping smallPath
  seed := 7
  expectedWeights := .mapping fun
    | .python => .int 1
    | _ => .int 0
  expectedTotalInputTokens := .int 3
  inputTokenTolerance := .null
  frozenGlobalMicrobatchRows := .int 1
  frozenGradientAccumulationSteps := .int 1

theorem smallDirectory_validated (domain : Domain) :
    ∃ manifest, validatePackedManifest id true (smallDirectory domain) =
      .ok manifest :=
  exists_of_isOk (by cases domain <;> decide +kernel)

theorem smallOrder_built :
    ∃ directory, buildTrainingOrder smallEnvironment smallOrderArguments
      .empty = .ok directory :=
  exists_of_isOk (by decide +kernel)

end CodingLlm
