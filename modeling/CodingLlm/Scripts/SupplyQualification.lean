import CodingLlm.Pretrain.CappedOrder
import CodingLlm.Scripts.QualifySelectionSupply

/-!
# What a supply qualification says

The rows that a report calls available are those that the packer writes, a
split fails just when an order of its target cannot be built for want of rows,
and for the weights 40/40/20 the allocation grows with the total, so that a
smaller order of whole updates needs no more rows of any domain.
-/

namespace CodingLlm

open Apportionment CrashLogic PackedStream Words

variable {Digest Cursor : Type}

/-! ## The allocation -/

/-- The rows of each domain, of a total. -/
def supplyRows (totalRows : Nat) : Domain -> Nat
  | .python => (2 * totalRows + 3) / 5
  | .otherCode => (2 * totalRows + 1) / 5
  | .english => (totalRows + 2) / 5

/-- Rows of each domain in five rows. -/
def rowsOfFive : Domain -> Nat
  | .python => 2
  | .otherCode => 2
  | .english => 1

theorem weightedRowCounts_small :
    ∀ rest < 5, ∀ domain ∈ Domain.order,
      weightedRowCounts rest supplyWeights domain = supplyRows rest domain := by
  decide +kernel

/-- Five more rows are two, two and one. -/
theorem weightedRowCounts_add (rest fives : Nat) (domain : Domain) :
    weightedRowCounts (rest + 5 * fives) supplyWeights domain =
      weightedRowCounts rest supplyWeights domain +
        fives * rowsOfFive domain := by
  have shares : exactRows (rest + 5 * fives) supplyWeights = fun other =>
      exactRows rest supplyWeights other +
        (fives * rowsOfFive other : Nat) := by
    funext other
    rw [exactRows_eq, exactRows_eq]
    cases other <;> simp [supplyWeights, rowsOfFive] <;> ring
  have nonneg := exactRows_nonneg rest supplyWeights
  have ranked : rankedDomains (exactRows (rest + 5 * fives) supplyWeights) =
      rankedDomains (exactRows rest supplyWeights) := by
    have fraction (other : Domain) :
        exactRows (rest + 5 * fives) supplyWeights other -
            floorOf (exactRows (rest + 5 * fives) supplyWeights other) =
          exactRows rest supplyWeights other -
            floorOf (exactRows rest supplyWeights other) := by
      rw [shares, floorOf_add_nat (nonneg other)]
      push_cast
      ring
    unfold rankedDomains
    simp only [fraction]
  have total : rest + 5 * fives = rest +
      (Domain.order.map fun other => fives * rowsOfFive other).sum := by
    simp [Domain.order, rowsOfFive]
    omega
  unfold weightedRowCounts
  rw [ranked, shares, total]
  exact units_add_nat (Domain.mem_order domain) fun other _ => nonneg other

/-- The allocation for the weights 40/40/20. -/
theorem weightedRowCounts_supplyWeights (totalRows : Nat) (domain : Domain) :
    weightedRowCounts totalRows supplyWeights domain =
      supplyRows totalRows domain := by
  have split := Nat.mod_add_div totalRows 5
  have small := weightedRowCounts_small (totalRows % 5)
    (Nat.mod_lt _ (by decide)) domain (Domain.mem_order domain)
  rw [← split, weightedRowCounts_add, small, split]
  cases domain <;> simp only [supplyRows, rowsOfFive] <;> omega

/-- More rows are no fewer of any domain. -/
theorem supplyRows_mono {fewer more : Nat} (le : fewer ≤ more)
    (domain : Domain) : supplyRows fewer domain ≤ supplyRows more domain := by
  cases domain <;> simp only [supplyRows] <;> omega

/-! ## Reading a report -/

/-- What a report says of a domain. -/
structure DomainSupply.Tells
    (row : DomainSupply) (total : SupplyTotal) (length : Nat)
    (requiredRows : Domain -> Nat) : Prop where
  documents : row.documents = total.selectedDocuments
  tokens : row.selectedContentTokens = total.selectedContentTokens
  availableRows : row.availableRows =
    (total.selectedContentTokens + total.selectedDocuments - 1) / length
  requiredRows : row.requiredRows = requiredRows row.domain
  shortfallRows : row.shortfallRows = row.requiredRows - row.availableRows
  status : row.status = statusOfShortfall row.shortfallRows

/-- What a report says of a split. -/
structure SplitSupply.Tells
    (supply : SplitSupply) (totals : SupplyTotals) (length : Nat) :
    Prop where
  cap_eq : supply.selectableRowsCap = supply.targetInputTokens / length
  cap_pos : 1 ≤ supply.selectableRowsCap
  rows : ∀ row ∈ supply.domains,
    row.Tells (totals.total (supply.split, row.domain)) length
      (supplyRows supply.selectableRowsCap)
  domains_eq : supply.domains.map DomainSupply.domain = Domain.order
  status : supply.status =
    if supply.domains.any (·.status = .fail) then .fail else .pass

theorem domainSupply_tells
    {total : SupplyTotal} {length : Nat} {requiredRows : Domain -> Nat}
    {domain : Domain} {row : DomainSupply}
    (positive : 1 ≤ length)
    (told : domainSupply total length requiredRows domain = .ok row) :
    row.domain = domain ∧ row.Tells total length requiredRows := by
  unfold domainSupply geometryIndependentAvailableRows positiveInteger at told
  simp only [requirePositive_int _ total.selectedContentTokens_pos,
    requirePositive_int _ total.selectedDocuments_pos,
    requirePositive_int _ positive, checked_ok_bind] at told
  cases told
  exact ⟨rfl, rfl, rfl, rfl, rfl, rfl, rfl⟩

theorem splitSupply_tells
    {totals : SupplyTotals} {length : Nat} {targets : Split -> Nat}
    {split : Split} {supply : SplitSupply}
    (positive : 1 ≤ length)
    (told : splitSupply totals length targets split = .ok supply) :
    supply.split = split ∧ supply.targetInputTokens = targets split ∧
      supply.Tells totals length := by
  unfold splitSupply at told
  obtain ⟨capPos, told⟩ := require_then_eq_ok.mp told
  obtain ⟨_, counted, told⟩ := checked_bind_eq_ok.mp told
  obtain ⟨-, rfl⟩ := strictWeightedRowCounts_eq_ok.mp counted
  obtain ⟨domains, each, told⟩ := checked_bind_eq_ok.mp told
  cases told
  have required : weightedRowCounts (targets split / length) supplyWeights =
      supplyRows (targets split / length) :=
    funext (weightedRowCounts_supplyWeights _)
  rw [required] at each
  have pairs := checked_mapM_eq_ok.mp each
  refine ⟨rfl, rfl, rfl, capPos, ?_, ?_, rfl⟩
  · intro row member
    obtain ⟨domain, _, told⟩ := exists_item_of_mapM each member
    obtain ⟨rfl, tells⟩ := domainSupply_tells positive told
    exact tells
  · have same : List.Forall₂ (fun row domain => row = domain)
        Domain.order (domains.map DomainSupply.domain) := by
      apply List.forall₂_map_right_iff.mpr
      exact pairs.imp fun _ _ told => (domainSupply_tells positive told).1.symm
    rw [List.forall₂_eq_eq_eq] at same
    exact same.symm

/-- Every split of a report is told as its totals are. -/
theorem qualifySelectionSupply_tells
    {selection : SelectionManifestJson} {sequenceLength : PyValue}
    {targets : Option (Split -> PyValue)} {report : SupplyReport}
    (qualified : qualifySelectionSupply selection sequenceLength targets =
      .ok report) :
    ∃ totals requested, validateAllEligibleTotals selection = .ok totals ∧
      targets = some requested ∧ sequenceLength = .int report.sequenceLength ∧
      1 ≤ report.sequenceLength ∧
      report.splits.map SplitSupply.split = Split.all ∧
      ∀ supply ∈ report.splits,
        requested supply.split = .int supply.targetInputTokens ∧
          1 ≤ supply.targetInputTokens ∧
          supply.Tells totals report.sequenceLength := by
  unfold qualifySelectionSupply positiveInteger at qualified
  simp only [checked_bind_eq_ok, requirePositive_eq_ok, requireObject_eq_ok,
    checked_pure_eq_ok] at qualified
  obtain ⟨⟨length, positive⟩, isLength, requested, given, ⟨train, trainPos⟩,
    isTrain, ⟨validation, validationPos⟩, isValidation, ⟨test, testPos⟩,
    isTest, totals, validated, splits, each, rfl⟩ := qualified
  refine ⟨totals, requested, validated, given, isLength, positive, ?_, ?_⟩
  · have same : List.Forall₂ (fun supply split => supply = split)
        Split.all (splits.map SplitSupply.split) := by
      apply List.forall₂_map_right_iff.mpr
      exact (checked_mapM_eq_ok.mp each).imp fun _ _ told =>
        (splitSupply_tells positive told).1.symm
    rw [List.forall₂_eq_eq_eq] at same
    exact same.symm
  · intro supply member
    obtain ⟨split, _, told⟩ := exists_item_of_mapM each member
    obtain ⟨rfl, target, tells⟩ := splitSupply_tells positive told
    rw [target]
    refine ⟨?_, ?_, tells⟩
    · cases supply.split with
      | train => exact isTrain
      | validation => exact isValidation
      | test => exact isTest
    · cases supply.split with
      | train => exact trainPos
      | validation => exact validationPos
      | test => exact testPos

/-! ## Packing the documents of a split -/

/-- The errors of a build that finds too few packed rows: none at all, or fewer
of a domain than its share. -/
def WantsRows (error : PyError) : Prop :=
  error = .valueError "Cannot build an empty training order" ∨
    error = insufficientRows

instance (error : PyError) : Decidable (WantsRows error) :=
  inferInstanceAs (Decidable (_ ∨ _))

/-- Documents with the totals of a split, packed under the paths of the
domains by writers that agree with each other. -/
structure PackedSupply [DecidableEq Digest]
    (environment : OrderEnvironment Digest Cursor) (supply : SplitSupply)
    (sequenceLength : Nat) where
  paths : Domain -> RelativePath
  arguments : Domain -> WriterArguments Digest
  config : Domain -> WriterConfig Digest
  policy : Domain -> DrainPolicy
  documents : Domain -> List (List Nat)
  accepts : ∀ domain, (arguments domain).check = .ok (config domain)
  domain_eq : ∀ domain, (config domain).domain = domain
  sequenceLength_eq : ∀ domain,
    (config domain).sequenceLength = sequenceLength
  split_eq : ∀ domain, (config domain).split = supply.split.name
  vocabSize_eq : ∀ domain,
    (config domain).vocabSize = (config .python).vocabSize
  eosTokenId_eq : ∀ domain,
    (config domain).eosTokenId = (config .python).eosTokenId
  tokenizer_eq : ∀ domain, (config domain).tokenizerManifestSha256 =
    (config .python).tokenizerManifestSha256
  documents_ne : ∀ domain, ∀ document ∈ documents domain, document ≠ []
  documents_lt : ∀ domain, ∀ document ∈ documents domain,
    ∀ token ∈ document, token < (config domain).vocabSize
  documents_length : ∀ row ∈ supply.domains,
    (documents row.domain).length = row.documents
  documents_tokens : ∀ row ∈ supply.domains,
    ((documents row.domain).map List.length).sum = row.selectedContentTokens
  stored : ∀ domain, environment.store (paths domain).path =
    some ((packDocuments environment.hash.bytes (arguments domain)
      (policy domain) (documents domain)).run ∅).final

namespace PackedSupply

variable [DecidableEq Digest]
variable {environment : OrderEnvironment Digest Cursor}
variable {supply : SplitSupply} {sequenceLength : Nat}

variable (packed : PackedSupply environment supply sequenceLength)

/-- The run of the writer of a domain. -/
def run (domain : Domain) : Outcome (Directory Digest Cursor) PyError
    (PackedShardWriter Digest Cursor) :=
  (packDocuments environment.hash.bytes (packed.arguments domain)
    (packed.policy domain) (packed.documents domain)).run ∅

/-- The arguments of an order of the split for its target. -/
def orderArguments (seed : Int) (geometry : Option FrozenGeometry) :
    OrderArguments where
  manifests := .mapping packed.paths
  seed := seed
  expectedWeights := .ofWeights supplyWeights.weight
  expectedTotalInputTokens := .int supply.targetInputTokens
  inputTokenTolerance := .null
  frozenGlobalMicrobatchRows := match geometry with
    | none => .null
    | some frozen => .int frozen.globalMicrobatchRows
  frozenGradientAccumulationSteps := match geometry with
    | none => .null
    | some frozen => .int frozen.gradientAccumulationSteps

/-- The construction of a domain. -/
def construction (domain : Domain) : Construction Digest Cursor :=
  packing environment.hash.bytes (packed.config domain)
    (packed.documents domain) (packed.documents_ne domain)
    (packed.documents_lt domain)

/-- Every writer finishes, and the rows of its manifest are the rows of the
stream. -/
theorem exists_manifest (domain : Domain) :
    ∃ writer cursor, (packed.run domain).result = .ok writer ∧
      (packed.construction domain).Complete cursor (packed.run domain).final :=
  (packed.construction domain).exists_complete (packed.accepts domain)
    (packed.policy domain)

/-- Tokens of a stream: those of its documents, and an end for each. -/
theorem rowsAt_construction (domain : Domain) :
    (packed.construction domain).rowsAt (packed.documents domain).length =
      (((packed.documents domain).map List.length).sum +
        (packed.documents domain).length - 1) / sequenceLength := by
  have length : position (packed.documents domain)
      (packed.documents domain).length =
        ((packed.documents domain).map List.length).sum +
          (packed.documents domain).length := by
    unfold position
    rw [List.take_length, List.sum_map_add, List.map_const', List.sum_replicate]
    simp
  unfold Construction.rowsAt rowCount
  rw [show (packed.construction domain).fed (packed.documents domain).length =
    position (packed.documents domain) (packed.documents domain).length
      from rfl, length]
  rw [show (packed.construction domain).config.sequenceLength =
    (packed.config domain).sequenceLength from rfl,
    packed.sequenceLength_eq domain]

/-- The directories of the writers are inputs of a build, with the rows of
their streams. -/
theorem exists_inputs :
    ∃ manifests, PackedInputs environment packed.paths
        (fun domain => (packed.run domain).final) manifests ∧
      (manifests .python).sequenceLength = sequenceLength ∧
      ∀ domain,
        (manifests domain).rows =
          (((packed.documents domain).map List.length).sum +
            (packed.documents domain).length - 1) / sequenceLength ∧
        ∃ writer dataset, (packed.run domain).result = .ok writer ∧
          PackedShardDataset.new environment.hash.bytes true
            (packed.run domain).final = .ok dataset ∧
          dataset.length = (manifests domain).rows := by
  choose writers cursors ended complete using packed.exists_manifest
  refine ⟨fun domain =>
    (packed.construction domain).packedManifest (cursors domain), ?_,
    packed.sequenceLength_eq .python, fun domain => ⟨?_, ?_⟩⟩
  · refine ⟨packed.stored, fun domain => (complete domain).validates true,
      packed.domain_eq, fun domain => ⟨?_, ?_, packed.vocabSize_eq domain, ?_,
        packed.tokenizer_eq domain⟩⟩
    · exact (packed.split_eq domain).trans (packed.split_eq .python).symm
    · exact (packed.sequenceLength_eq domain).trans
        (packed.sequenceLength_eq .python).symm
    · exact congrArg Nat.cast (packed.eosTokenId_eq domain)
  · exact packed.rowsAt_construction domain
  · exact ⟨writers domain, _, ended domain, (complete domain).opens true, rfl⟩

/-- A build for the target of the split ends as its selection does. -/
theorem capped
    {manifests : Domain -> PackedManifest Digest Cursor}
    (inputs : PackedInputs environment packed.paths
      (fun domain => (packed.run domain).final) manifests)
    (seed : Int) (geometry : Option FrozenGeometry) :
    CappedEnds (fun domain => (manifests domain).rows)
      (selectCapped (fun domain => (manifests domain).rows)
        (manifests .python).sequenceLength (some supplyWeights) geometry
        (.int supply.targetInputTokens) .null)
      (buildTrainingOrder environment (packed.orderArguments seed geometry)
        .empty) := by
  have frozen : requireGeometry
      (packed.orderArguments seed geometry).frozenGlobalMicrobatchRows
      (packed.orderArguments seed geometry).frozenGradientAccumulationSteps =
        .ok geometry := by
    cases geometry with
    | none => rfl
    | some frozen =>
        unfold requireGeometry orderArguments
        simp only [requirePositive_int _ frozen.globalMicrobatchRows_pos,
          requirePositive_int _ frozen.gradientAccumulationSteps_pos,
          reduceCtorEq, if_false]
        rfl
  have weighted : optionalWeights
      (packed.orderArguments seed geometry).expectedWeights =
        .ok (some supplyWeights) := by
    change some <$> normalizeDomainWeights
      (.ofWeights supplyWeights.weight) = _
    rw [normalizeDomainWeights_ofWeights]
    rfl
  refine inputs.buildTrainingOrder_capped ⟨rfl, rfl, rfl⟩ rfl frozen weighted ?_
  intro equal
  cases equal

/-- A build wants rows just when all rows can be addressed and some domain has
fewer than its share. -/
theorem wantsRows_iff
    {manifests : Domain -> PackedManifest Digest Cursor}
    (inputs : PackedInputs environment packed.paths
      (fun domain => (packed.run domain).final) manifests)
    (width : 1 ≤ (manifests .python).sequenceLength)
    (target : 1 ≤ supply.targetInputTokens)
    (seed : Int) (geometry : Option FrozenGeometry)
    (selectable : 1 ≤ selectableRows (manifests .python).sequenceLength
      supply.targetInputTokens geometry) :
    (∃ error, WantsRows error ∧
        buildTrainingOrder environment (packed.orderArguments seed geometry)
          .empty = .error error) ↔
      (∀ domain ∈ Domain.order, (manifests domain).rows ≤ maxRowId) ∧
        ¬∀ domain ∈ Domain.order,
          supplyRows (selectableRows (manifests .python).sequenceLength
            supply.targetInputTokens geometry) domain ≤
              (manifests domain).rows := by
  have ends := packed.capped inputs seed geometry
  have outcome := @selectCapped_outcome
    (fun domain => (manifests domain).rows)
    (manifests .python).sequenceLength supply.targetInputTokens supplyWeights
    geometry width target selectable
  have total := totalOf_weightedRowCounts
    (selectableRows (manifests .python).sequenceLength
      supply.targetInputTokens geometry) supplyWeights
  simp only [weightedRowCounts_supplyWeights] at outcome
  rw [show weightedRowCounts _ supplyWeights = supplyRows _ from
    funext (weightedRowCounts_supplyWeights _)] at total
  unfold CappedEnds at ends
  split at ends
  · rename_i nothing
    have short : ¬∀ domain ∈ Domain.order,
        supplyRows (selectableRows (manifests .python).sequenceLength
          supply.targetInputTokens geometry) domain ≤
            (manifests domain).rows := by
      intro every
      have more := totalOf_le fun domain =>
        every domain (Domain.mem_order domain)
      omega
    have none (domain : Domain) : (manifests domain).rows = 0 := by
      rw [totalOf_eq] at nothing
      cases domain <;> omega
    constructor
    · intro _
      refine ⟨fun domain _ => ?_, short⟩
      rw [none domain]
      exact Nat.zero_le _
    · intro _
      exact ⟨_, .inl rfl, ends⟩
  · split at ends
    · rename_i addressable
      split at outcome
      · rename_i enough
        obtain ⟨selection, selected⟩ := outcome
        rw [selected] at ends
        obtain ⟨directory, built⟩ := ends
        rw [built]
        constructor
        · rintro ⟨_, _, fails⟩
          cases fails
        · intro wants
          exact absurd enough wants.2
      · rename_i short
        rw [outcome] at ends
        exact ⟨fun _ => ⟨addressable, short⟩, fun _ => ⟨_, .inr rfl, ends⟩⟩
    · rename_i unaddressable
      rw [ends]
      constructor
      · rintro ⟨_, wants, fails⟩
        cases fails
        exact absurd wants (by decide)
      · intro wants
        exact absurd wants.1 unaddressable

end PackedSupply

/-! ## Exactness -/

/-- A report passes a split just when every domain has its share. -/
theorem SplitSupply.Tells.pass_iff
    {supply : SplitSupply} {totals : SupplyTotals} {length : Nat}
    (tells : supply.Tells totals length) :
    supply.status = .pass ↔ ∀ row ∈ supply.domains,
      supplyRows supply.selectableRowsCap row.domain ≤ row.availableRows := by
  have failing (row : DomainSupply) (member : row ∈ supply.domains) :
      row.status = .fail ↔ row.availableRows <
        supplyRows supply.selectableRowsCap row.domain := by
    have told := tells.rows row member
    rw [told.status, told.shortfallRows, told.requiredRows, statusOfShortfall]
    split
    · rename_i none
      simp only [reduceCtorEq, false_iff, Nat.not_lt]
      omega
    · rename_i some
      simp only [true_iff]
      omega
  rw [tells.status]
  split
  · rename_i some
    simp only [reduceCtorEq, false_iff]
    intro every
    obtain ⟨row, member, fails⟩ := List.any_eq_true.mp some
    have short := (failing row member).mp (of_decide_eq_true fails)
    have enough := every row member
    omega
  · rename_i none
    simp only [true_iff]
    intro row member
    by_contra short
    apply none
    apply List.any_eq_true.mpr
    exact ⟨row, member,
      decide_eq_true ((failing row member).mpr (Nat.lt_of_not_le short))⟩

/-- Rows that a report calls available are those that writers pack; a split
fails just when an order of its target cannot be built for want of rows, as
long as all rows can be addressed; and a split that passes has rows enough for
every order of whole updates. -/
theorem supply_qualification [DecidableEq Digest]
    {selection : SelectionManifestJson} {sequenceLength : PyValue}
    {targets : Option (Split -> PyValue)} {report : SupplyReport}
    {supply : SplitSupply} {environment : OrderEnvironment Digest Cursor}
    (qualified : qualifySelectionSupply selection sequenceLength targets =
      .ok report)
    (reported : supply ∈ report.splits)
    (packed : PackedSupply environment supply report.sequenceLength)
    (seed : Int) :
    (∀ row ∈ supply.domains, ∃ writer dataset,
      (packed.run row.domain).result = .ok writer ∧
      PackedShardDataset.new environment.hash.bytes true
        (packed.run row.domain).final = .ok dataset ∧
      dataset.length = row.availableRows) ∧
    ((∃ error, WantsRows error ∧
        buildTrainingOrder environment (packed.orderArguments seed none)
          .empty = .error error) ↔
      supply.status = .fail ∧
        ∀ row ∈ supply.domains, row.availableRows ≤ maxRowId) ∧
    (supply.status = .pass ->
      ∀ frozen : FrozenGeometry, frozen.updateRows ≤
          supply.targetInputTokens / report.sequenceLength ->
        ∀ error, WantsRows error ->
          buildTrainingOrder environment
            (packed.orderArguments seed (some frozen)) .empty ≠
              .error error) := by
  obtain ⟨totals, _, _, _, _, width, _, tells⟩ :=
    qualifySelectionSupply_tells qualified
  obtain ⟨_, targetPos, tells⟩ := tells supply reported
  obtain ⟨manifests, inputs, sameWidth, rows⟩ := packed.exists_inputs
  have available (row : DomainSupply) (member : row ∈ supply.domains) :
      (manifests row.domain).rows = row.availableRows := by
    have told := tells.rows row member
    rw [(rows row.domain).1, packed.documents_length row member,
      packed.documents_tokens row member, told.availableRows, told.documents,
      told.tokens]
  have rowOf (domain : Domain) :
      ∃ row ∈ supply.domains, row.domain = domain := by
    have member := Domain.mem_order domain
    rw [← tells.domains_eq] at member
    exact List.mem_map.mp member
  have passes : supply.status = .pass ↔ ∀ domain ∈ Domain.order,
      supplyRows supply.selectableRowsCap domain ≤
        (manifests domain).rows := by
    rw [tells.pass_iff]
    constructor
    · intro every domain _
      obtain ⟨row, member, rfl⟩ := rowOf domain
      rw [available row member]
      exact every row member
    · intro every row member
      rw [← available row member]
      exact every row.domain (Domain.mem_order _)
  have addressable : (∀ row ∈ supply.domains,
      row.availableRows ≤ maxRowId) ↔
        ∀ domain ∈ Domain.order, (manifests domain).rows ≤ maxRowId := by
    constructor
    · intro every domain _
      obtain ⟨row, member, rfl⟩ := rowOf domain
      rw [available row member]
      exact every row member
    · intro every row member
      rw [← available row member]
      exact every row.domain (Domain.mem_order _)
  have failing : supply.status = .fail ↔ ¬supply.status = .pass := by
    cases supply.status <;> simp
  have positive : 1 ≤ (manifests .python).sequenceLength := by
    rw [sameWidth]
    exact width
  have cap : selectableRows (manifests .python).sequenceLength
      supply.targetInputTokens none = supply.selectableRowsCap := by
    rw [sameWidth, selectableRows, ← tells.cap_eq]
  refine ⟨fun row member => ?_, ?_, ?_⟩
  · rw [← available row member]
    exact (rows row.domain).2
  · rw [addressable, failing, passes]
    have exact := packed.wantsRows_iff inputs positive targetPos seed none
      (cap ▸ tells.cap_pos)
    rw [cap] at exact
    exact exact.trans And.comm
  · intro enough frozen fits error wants built
    have updates := Nat.div_pos fits frozen.updateRows_pos
    have fewer : selectableRows (manifests .python).sequenceLength
        supply.targetInputTokens (some frozen) ≤
          supply.selectableRowsCap := by
      rw [sameWidth, selectableRows, ← tells.cap_eq]
      exact Nat.div_mul_le_self _ _
    have selectable : 1 ≤ selectableRows (manifests .python).sequenceLength
        supply.targetInputTokens (some frozen) := by
      rw [sameWidth, selectableRows]
      exact Nat.mul_pos updates frozen.updateRows_pos
    have short := (packed.wantsRows_iff inputs positive targetPos seed
      (some frozen) selectable).mp ⟨error, wants, built⟩
    apply short.2
    intro domain member
    exact (supplyRows_mono fewer domain).trans
      (passes.mp enough domain member)

/-! ## Small and vast supplies -/

section Uniform

variable (tokens : Domain -> Nat)

/-- A selection with one document in every split and domain. -/
def uniformSelection : SelectionManifestJson where
  quotas := none
  selectedTotals := some (expectedOrder.map fun key => some {
    split := .str key.1.name
    category := .str key.2.name
    unit := .str contentTokenUnit
    documents := .int 1
    selectedTokens := .int (tokens key.2)
    terminalPrefixDocuments := .int 0 })
  referenceQuotas := some (expectedOrder.map fun key => some {
    split := .str key.1.name
    category := .str key.2.name
    unit := .str contentTokenUnit
    referenceTargetTokens := .int (tokens key.2)
    observedTokens := .int (tokens key.2)
    shortfallTokens := .int 0
    surplusTokens := .int 0
    selectionAuthority := .bool false })
  documents := some ⟨.int 9, .int 9, .int 9, .int 0⟩

/-- The qualification of such a selection for rows of two tokens. -/
def uniformReport (target : Nat) : Checked SupplyReport :=
  qualifySelectionSupply (uniformSelection tokens) (.int 2)
    (some fun _ => .int target)

/-- The document of a domain. -/
def uniformDocuments (domain : Domain) : List (List Nat) :=
  [List.replicate (tokens domain) 1]

/-- The arguments of the writer of a domain. -/
def uniformArguments (domain : Domain) : WriterArguments (List Byte) :=
  { smallArguments with domain := domain.name }

/-- The environment with the packed documents. -/
def uniformEnvironment : OrderEnvironment (List Byte) Unit :=
  { smallEnvironment with
    numpyVersion_ne_empty := smallEnvironment_numpyVersion
    store := fun path => (Domain.order.find? fun domain =>
      (smallPath domain).path = path).map fun domain =>
        ((packDocuments id (uniformArguments domain) .default
          (uniformDocuments tokens domain)).run ∅).final }

/-- The packed documents are a supply of every split that reports them. -/
def uniformSupply
    {supply : SplitSupply} (positive : ∀ domain, 1 ≤ tokens domain)
    (split : supply.split = .train)
    (rows : ∀ row ∈ supply.domains, row.documents = 1 ∧
      row.selectedContentTokens = tokens row.domain) :
    PackedSupply (uniformEnvironment tokens) supply 2 where
  paths := smallPath
  arguments := uniformArguments
  config domain := { smallConfig with domain := domain }
  policy _ := .default
  documents := uniformDocuments tokens
  accepts domain := by cases domain <;> rfl
  domain_eq _ := rfl
  sequenceLength_eq _ := rfl
  split_eq _ := by rw [split]; rfl
  vocabSize_eq _ := rfl
  eosTokenId_eq _ := rfl
  tokenizer_eq _ := rfl
  documents_ne domain document member := by
    rw [uniformDocuments, List.mem_singleton] at member
    rw [member, ← List.length_pos_iff, List.length_replicate]
    exact positive domain
  documents_lt domain document member token inside := by
    rw [uniformDocuments, List.mem_singleton] at member
    rw [member] at inside
    rw [List.eq_of_mem_replicate inside]
    exact (by decide : 1 < smallConfig.vocabSize)
  documents_length row member := (rows row member).1.symm
  documents_tokens row member := by
    rw [(rows row member).2]
    simp [uniformDocuments]
  stored domain := by cases domain <;> rfl

end Uniform

/-- One row of Python, and no row of the others. -/
def smallTokens : Domain -> Nat
  | .python => 3
  | _ => 1

/-- More rows of Python than can be addressed, and no row of the others. -/
def vastTokens : Domain -> Nat
  | .python => 2 ^ 57
  | _ => 1

/-- Whether the first split of a report is the training split with the status,
one document in each domain and the tokens of the domains. -/
def ReportsTrain
    (tokens : Domain -> Nat) (status : SupplyStatus) (report : SupplyReport) :
    Bool :=
  report.sequenceLength = 2 &&
    report.splits.head?.any fun supply =>
      supply.split = .train && supply.status = status &&
        supply.domains.all fun row => row.documents = 1 &&
          row.selectedContentTokens = tokens row.domain

/-- The training split of a uniform selection. -/
theorem exists_uniformSupply
    {tokens : Domain -> Nat} {status : SupplyStatus} {target : Nat}
    (positive : ∀ domain, 1 ≤ tokens domain)
    (told : (uniformReport tokens target).toOption.any
      (ReportsTrain tokens status) = true) :
    ∃ report supply, uniformReport tokens target = .ok report ∧
      supply ∈ report.splits ∧ supply.status = status ∧
      report.sequenceLength = 2 ∧
      (∀ row ∈ supply.domains, row.documents = 1 ∧
        row.selectedContentTokens = tokens row.domain) ∧
      Nonempty (PackedSupply (uniformEnvironment tokens) supply
        report.sequenceLength) := by
  cases reported : uniformReport tokens target with
  | error error =>
      rw [reported] at told
      cases told
  | ok report =>
      rw [reported] at told
      simp only [Except.toOption, Option.any_some, ReportsTrain,
        Bool.and_eq_true, decide_eq_true_eq, Option.any_eq_true,
        List.all_eq_true] at told
      obtain ⟨width, supply, first, ⟨split, same⟩, rows⟩ := told
      refine ⟨report, supply, rfl, List.mem_of_mem_head? first, same, width,
        rows, ?_⟩
      rw [width]
      exact ⟨uniformSupply tokens positive split rows⟩

/-- A small supply that passes has rows enough for every order of whole
updates of its target. -/
theorem supply_qualification_small :
    ∃ (report : SupplyReport) (supply : SplitSupply)
        (packed : PackedSupply (uniformEnvironment smallTokens) supply
          report.sequenceLength),
      supply.status = .pass ∧ 
      ∀ frozen : FrozenGeometry, frozen.updateRows ≤
          supply.targetInputTokens / report.sequenceLength ->
        ∀ error, WantsRows error ->
          buildTrainingOrder (uniformEnvironment smallTokens)
            (packed.orderArguments 0 (some frozen)) .empty ≠
              .error error := by
  obtain ⟨report, supply, reported, member, passes, -, -, ⟨packed⟩⟩ :=
    @exists_uniformSupply smallTokens .pass 2
      (fun domain => by cases domain <;> decide) (by decide +kernel)
  have exact := supply_qualification reported member packed 0
  exact ⟨report, supply, packed, passes, exact.2.2 passes⟩

/-- A split can fail while the build does not want rows, but finds more of them
than it can address. -/
theorem vast_supply_not_exact :
    ¬∀ (selection : SelectionManifestJson) (sequenceLength : PyValue)
        (targets : Option (Split -> PyValue)) (report : SupplyReport)
        (supply : SplitSupply)
        (environment : OrderEnvironment (List Byte) Unit)
        (packed : PackedSupply environment supply report.sequenceLength),
      qualifySelectionSupply selection sequenceLength targets = .ok report ->
      supply ∈ report.splits ->
      (supply.status = .fail ↔ ∃ error, WantsRows error ∧
        buildTrainingOrder environment (packed.orderArguments 0 none)
          .empty = .error error) := by
  intro every
  obtain ⟨report, supply, reported, member, fails, length, told, ⟨packed⟩⟩ :=
    @exists_uniformSupply vastTokens .fail 10
      (fun domain => by cases domain <;> decide) (by decide +kernel)
  obtain ⟨totals, _, _, _, _, width, _, tells⟩ :=
    qualifySelectionSupply_tells reported
  obtain ⟨_, targetPos, tells⟩ := tells supply member
  obtain ⟨manifests, inputs, sameWidth, rows⟩ := packed.exists_inputs
  have selectable : 1 ≤ selectableRows (manifests .python).sequenceLength
      supply.targetInputTokens none := by
    rw [sameWidth, selectableRows, ← tells.cap_eq]
    exact tells.cap_pos
  have wants := (every _ _ _ report supply _ packed reported member).mp fails
  have short := (packed.wantsRows_iff inputs (sameWidth ▸ width) targetPos 0
    none selectable).mp wants
  have few := short.1 .python (Domain.mem_order _)
  have python := Domain.mem_order .python
  rw [← tells.domains_eq] at python
  obtain ⟨row, inside, named⟩ := List.mem_map.mp python
  have documents := packed.documents_length row inside
  have content := packed.documents_tokens row inside
  rw [(told row inside).1, named] at documents
  rw [(told row inside).2, named] at content
  rw [(rows .python).1, documents, content, length] at few
  revert few
  decide

end CodingLlm
