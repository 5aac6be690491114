import CodingLlm.Pretrain.ValidatedOrder

/-!
# Accepted training orders

What `validate_training_order` establishes when it verifies the packed
manifests, said exactly.
-/

namespace CodingLlm

open Words Slices

variable {Digest Cursor : Type}

/-! ## The scan of a whole order -/

theorem le_ceilDiv_mul {rows width : Nat} (positive : 0 < width) :
    rows ≤ (rows + (width - 1)) / width * width := by
  have above : rows + (width - 1) <
      (rows + (width - 1)) / width * width + width :=
    Nat.lt_div_mul_add positive
  omega

theorem ceilDiv_sub_one_mul_le {rows width : Nat} (positive : 0 < width) :
    ((rows + (width - 1)) / width - 1) * width ≤ rows := by
  have below := Nat.div_mul_le_self (rows + (width - 1)) width
  rw [Nat.sub_mul, Nat.one_mul]
  omega

/-- As many rows of a domain are seen as references address it. -/
theorem countP_seen
    {available : Domain -> Nat} {order : List Nat}
    (distinct : Distinct available order) (domain : Domain) :
    (List.range (available domain)).countP (fun row =>
      decide (row ∈ rowIdsOf domain order)) = rowsIn order domain := by
  have extended : Extends available [] order :=
    (distinct_append_iff ⟨.nil, nofun⟩).mp distinct
  rw [List.countP_eq_length_filter, ← length_rowIdsOf]
  refine List.Perm.length_eq ?_
  rw [List.perm_ext_iff_of_nodup (List.nodup_range.filter _)
    (extended.nodup domain)]
  intro row
  simp only [List.mem_filter, List.mem_range, decide_eq_true_eq,
    and_iff_right_iff_imp]
  exact extended.inRange domain row

/-- What the scan of an order establishes. -/
structure Scanned
    (manifest : OrderManifest Digest) (order : List Nat) : Prop where
  addressable : ∀ domain,
    manifest.packedAvailableRowsPerDomain domain ≤ maxRowId
  distinct : Distinct manifest.packedAvailableRowsPerDomain order
  rowsIn_eq : rowsIn order = manifest.rowsPerDomain
  consumed : ∀ frozen ∈ manifest.consumption,
    rowsIn (order.take (frozen.consumedRows manifest.rows)) =
      frozen.consumedRowsPerDomain

theorem scanOrder_eq_ok
    {manifest : OrderManifest Digest} {order : List Nat} {scan : OrderScan}
    (length : order.length = manifest.rows) :
    scanOrder manifest order = .ok scan ↔
      Scanned manifest order ∧
        scan = scanOf (manifest.geometry.map fun geometry =>
          geometry.consumedRows manifest.rows) order := by
  have positive : 0 < chunkRows := by decide
  have whole : order.take
      ((manifest.rows + (chunkRows - 1)) / chunkRows * chunkRows) =
        order := by
    refine List.take_of_length_le ?_
    rw [length]
    exact le_ceilDiv_mul positive
  have inside : ((manifest.rows + (chunkRows - 1)) / chunkRows - 1) *
      chunkRows ≤ order.length := by
    rw [length]
    exact ceilDiv_sub_one_mul_le positive
  simp only [scanOrder, exists_require, checked_bind_eq_ok,
    scanChunks_eq_ok inside, whole, checked_pure_eq_ok]
  have consumedOf (frozen : FrozenConsumption)
      (member : frozen ∈ manifest.consumption) :
      (scanOf (manifest.geometry.map fun geometry =>
        geometry.consumedRows manifest.rows) order).consumed =
          rowsIn (order.take (frozen.consumedRows manifest.rows)) := by
    rw [OrderManifest.geometry, Option.mem_def.mp member]
    rfl
  constructor
  · rintro ⟨addressable, _, ⟨distinct, rfl⟩, counts, consumed, rfl⟩
    refine ⟨⟨fun domain => addressable domain (Domain.mem_order domain),
      distinct, ?_, fun frozen member => ?_⟩, rfl⟩
    · funext domain
      rw [← counts domain (Domain.mem_order domain)]
      exact (countP_seen distinct domain).symm
    · funext domain
      rw [← consumed frozen member domain (Domain.mem_order domain),
        consumedOf frozen member]
  · rintro ⟨scanned, rfl⟩
    refine ⟨fun domain _ => scanned.addressable domain, _,
      ⟨scanned.distinct, rfl⟩, fun domain _ => ?_,
      fun frozen member domain _ => ?_, rfl⟩
    · rw [← scanned.rowsIn_eq]
      exact countP_seen scanned.distinct domain
    · rw [consumedOf frozen member, scanned.consumed frozen member]

/-! ## Seen and unseen rows -/

/-- Rows of a domain that no reference addresses. -/
def unseenRows
    (available : Domain -> Nat) (order : List Nat) (domain : Domain) :
    List Nat :=
  (List.range (available domain)).filter fun row =>
    !decide (row ∈ rowIdsOf domain order)

/-- The addressed and the other rows of a scanned order are a choice. -/
theorem Distinct.rowChoice
    {available : Domain -> Nat} {order : List Nat}
    (distinct : Distinct available order)
    (addressable : ∀ domain, available domain ≤ maxRowId) :
    RowChoice available (rowsIn order)
      ⟨order, encodedRows (unseenRows available order)⟩
      (fun domain => rowIdsOf domain order)
      (unseenRows available order) := by
  have extended : Extends available [] order :=
    (distinct_append_iff ⟨.nil, nofun⟩).mp distinct
  have fits (domain : Domain) :
      ∀ row ∈ rowIdsOf domain order, row ≤ maxRowId := fun row member =>
    ((extended.inRange domain row member).trans_le (addressable domain)).le
  refine ⟨fun domain => ?_, fun domain => length_rowIdsOf domain order, ?_,
    rfl⟩
  · rw [List.perm_ext_iff_of_nodup _ List.nodup_range]
    · intro row
      simp only [unseenRows, List.mem_append, List.mem_filter,
        List.mem_range, Bool.not_eq_true', decide_eq_false_iff_not]
      have inRange := extended.inRange domain row
      by_cases seen : row ∈ rowIdsOf domain order
      · simp only [seen, true_or, true_iff]
        exact inRange seen
      · simp only [seen, false_or, not_false_eq_true, and_true]
    · refine List.nodup_append.mpr ⟨extended.nodup domain,
        List.nodup_range.filter _, ?_⟩
      rintro row seen _ unseen rfl
      have absent := (List.mem_filter.mp unseen).2
      rw [Bool.not_eq_true', decide_eq_false_iff_not] at absent
      exact absent seen
  · rw [List.perm_ext_iff_of_nodup distinct.nodup
      (nodup_encodedRows fits extended.nodup)]
    intro reference
    constructor
    · intro member
      obtain ⟨domain, row, decoded, -⟩ :=
        distinct.addresses reference member
      have decodedMember := List.mem_map_of_mem
        (f := fun row => (domain.id, row))
        (mem_rowIdsOf.mpr ⟨reference, member, decoded⟩)
      have encoded : (domain.id, row) ∈ (encodedRows fun domain =>
          rowIdsOf domain order).map decodeReference := by
        rw [map_decodeReference_encodedRows fits, List.mem_flatMap]
        exact ⟨domain, Domain.mem_order domain, decodedMember⟩
      obtain ⟨other, inside, equal⟩ := List.mem_map.mp encoded
      rwa [← decodeReference_injective (equal.trans decoded.symm)]
    · intro member
      obtain ⟨domain, row, inRows, decoded⟩ := mem_encodedRows fits member
      obtain ⟨other, inOrder, equal⟩ := mem_rowIdsOf.mp inRows
      rwa [decodeReference_injective (decoded.trans equal.symm)]

/-! ## The other checks -/

/-- The recorded weights are normalised and the rows are mixed by them. -/
def WeightsRecorded (manifest : OrderManifest Digest) : Prop :=
  ¬manifest.expectedInputTokenWeights.IsNull ->
    ∃ weights,
      normalizeDomainWeights manifest.expectedInputTokenWeights =
        .ok weights ∧
      manifest.expectedInputTokenWeights.AllClose weights.weight ∧
      validateRowMixture manifest.rowsPerDomain weights = .ok ()

theorem checkExpectedWeights_eq_ok
    {manifest : OrderManifest Digest} {result : Unit} :
    checkExpectedWeights manifest = .ok result ↔
      WeightsRecorded manifest := by
  unfold checkExpectedWeights WeightsRecorded
  by_cases isNull : manifest.expectedInputTokenWeights.IsNull
  · rw [if_pos isNull]
    exact ⟨fun _ absent => absurd isNull absent, fun _ => rfl⟩
  · rw [if_neg isNull, checked_bind_eq_ok]
    simp only [require_then_eq_ok, isNull, not_false_eq_true,
      forall_const]

/-- Tokens and weights that only the validator looks at are recorded. -/
structure TokensRecorded (manifest : OrderManifest Digest) : Prop where
  inputTokensPerDomain : manifest.inputTokensPerDomain.EqualsInts
    fun domain =>
      (manifest.rowsPerDomain domain * manifest.sequenceLength : Nat)
  realizedInputTokenWeights : manifest.realizedInputTokenWeights.AllClose
    fun domain =>
      ((manifest.rowsPerDomain domain * manifest.sequenceLength : Nat) : Rat) /
        (manifest.rows * manifest.sequenceLength)
  realizedValidLossTokenWeights :
    manifest.realizedValidLossTokenWeights.AllClose fun domain =>
      shareOf (manifest.validLossTokensPerDomain domain)
        (totalOf manifest.validLossTokensPerDomain : Nat)

theorem checkRecordedTokens_eq_ok
    {manifest : OrderManifest Digest} {result : Unit} :
    checkRecordedTokens manifest = .ok result ↔ TokensRecorded manifest := by
  simp only [checkRecordedTokens, require_then_eq_ok, checked_pure_eq_ok]
  constructor
  · rintro ⟨inputTokens, inputWeights, lossWeights, -⟩
    exact ⟨inputTokens, inputWeights, lossWeights⟩
  · intro recorded
    exact ⟨recorded.inputTokensPerDomain, recorded.realizedInputTokenWeights,
      recorded.realizedValidLossTokenWeights, trivial⟩

/-! ## Packed manifests -/

/-- A reference of an order leads to a packed directory with its manifest. -/
structure Resolves
    (hash : FileHash Digest Cursor) (store : PackedStore Digest Cursor)
    (tokenizerManifestSha256 : Digest) (reference : DatasetReference Digest)
    (directory : Directory Digest Cursor)
    (manifest : PackedManifest Digest Cursor) : Prop where
  relative : isAbsolute reference.path = false
  stored : store reference.path = some directory
  parsed : ∃ document, readManifest directory = .ok document ∧
    hash.packedManifest document = reference.sha256 ∧
    parsePackedManifest document = .ok manifest
  tokenizerManifestSha256 :
    manifest.tokenizerManifestSha256 = tokenizerManifestSha256

theorem resolveDataset_eq_ok [DecidableEq Digest]
    {hash : FileHash Digest Cursor} {store : PackedStore Digest Cursor}
    {tokenizerManifestSha256 : Digest} {reference : DatasetReference Digest}
    {directory : Directory Digest Cursor} :
    resolveDataset hash store tokenizerManifestSha256 reference =
        .ok directory ↔
      ∃ manifest, Resolves hash store tokenizerManifestSha256 reference
        directory manifest := by
  simp only [resolveDataset, checked_bind_eq_ok, exists_require,
    requireObject_eq_ok, checked_pure_eq_ok]
  constructor
  · rintro ⟨relative, _, stored, document, read, unchanged, manifest, parsed,
      tokenizer, rfl⟩
    exact ⟨manifest, relative, stored, ⟨document, read, unchanged, parsed⟩,
      tokenizer⟩
  · rintro ⟨manifest, relative, stored, ⟨document, read, unchanged, parsed⟩,
      tokenizer⟩
    exact ⟨relative, _, stored, document, read, unchanged, manifest, parsed,
      tokenizer, rfl⟩

/-- An order agrees with the packed manifest of a domain. -/
structure PackedFields
    (manifest : OrderManifest Digest) (domain : Domain)
    (packed : PackedManifest Digest Cursor) : Prop where
  domain_eq : packed.domain = domain
  rows : packed.rows = manifest.packedAvailableRowsPerDomain domain
  validLossTokens : packed.validLossTokens =
    manifest.packedAvailableSupervisedTokensPerDomain domain
  split : packed.split = manifest.split
  sequenceLength : packed.sequenceLength = manifest.sequenceLength
  vocabSize : packed.vocabSize = manifest.vocabSize.toInt
  eosTokenId : packed.eosTokenId.toInt = manifest.eosTokenId.toInt
  tokenizerManifestSha256 :
    packed.tokenizerManifestSha256 = manifest.tokenizerManifestSha256

theorem checkPackedFields_eq_ok [DecidableEq Digest]
    {manifest : OrderManifest Digest} {domain : Domain}
    {directory : Directory Digest Cursor}
    {document : PackedManifestJson Digest Cursor}
    {packed : PackedManifest Digest Cursor} {result : Unit}
    (read : readManifest directory = .ok document)
    (parsed : parsePackedManifest document = .ok packed) :
    checkPackedFields manifest domain directory = .ok result ↔
      PackedFields manifest domain packed := by
  rw [checkPackedFields, read, checked_ok_bind, parsed, checked_ok_bind]
  simp only [require_then_eq_ok, checked_pure_eq_ok]
  constructor
  · rintro ⟨⟨domainEq, rows, -, losses, split, width, vocab, eos,
      tokenizer⟩, -⟩
    exact ⟨domainEq, rows, losses, split, width, vocab, eos, tokenizer⟩
  · intro fields
    refine ⟨⟨fields.domain_eq, fields.rows, ?_, fields.validLossTokens,
      fields.split, fields.sequenceLength, fields.vocabSize,
      fields.eosTokenId, fields.tokenizerManifestSha256⟩, trivial⟩
    rw [fields.rows, fields.sequenceLength]

/-! ## Counted tokens -/

section Supervision

variable {manifests : Domain -> PackedManifest Digest Cursor}
variable {directories : Domain -> Directory Digest Cursor}
variable {manifest : OrderManifest Digest} {order : List Nat}

/-- The dropped suffix is counted as recorded. -/
def DroppedCounted
    (manifests : Domain -> PackedManifest Digest Cursor)
    (directories : Domain -> Directory Digest Cursor)
    (manifest : OrderManifest Digest) (order : List Nat) : Prop :=
  ∀ frozen ∈ manifest.consumption,
    let dropped := order.drop (frozen.consumedRows manifest.rows)
    (∀ reference ∈ dropped, Counted manifests directories
      manifest.sequenceLength reference) ∧
    frozen.droppedSupervisedTokensPerDomain =
      supervisedIn manifests directories dropped

theorem checkDroppedSupervision_eq_ok
    (parsed : ParsedFrom manifests directories) {result : Unit} :
    checkDroppedSupervision manifest order directories = .ok result ↔
      DroppedCounted manifests directories manifest order := by
  unfold checkDroppedSupervision DroppedCounted
  cases manifest.consumption with
  | none => exact ⟨fun _ => nofun, fun _ => rfl⟩
  | some frozen =>
      simp only [checked_bind_eq_ok, exists_require, checked_pure_eq_ok,
        countSupervisedTokens_of_parsed parsed]
      constructor
      · rintro ⟨_, ⟨counted, rfl⟩, same, -⟩ _ member
        cases member
        exact ⟨counted, funext fun domain =>
          (same domain (Domain.mem_order domain)).symm⟩
      · intro every
        obtain ⟨counted, same⟩ := every frozen rfl
        exact ⟨_, ⟨counted, rfl⟩,
          fun domain _ => (congrFun same domain).symm, trivial⟩

/-- The smaller side of the selection is counted as recorded. -/
structure SideCounted
    (manifests : Domain -> PackedManifest Digest Cursor)
    (directories : Domain -> Directory Digest Cursor)
    (manifest : OrderManifest Digest) (order surplus : List Nat) : Prop where
  surplus : manifest.packedSurplusRows ≤ manifest.rows ->
    (∀ reference ∈ surplus, Counted manifests directories
      manifest.sequenceLength reference) ∧
    manifest.packedSurplusSupervisedTokensPerDomain =
      supervisedIn manifests directories surplus
  selected : manifest.rows < manifest.packedSurplusRows ->
    (∀ reference ∈ order, Counted manifests directories
      manifest.sequenceLength reference) ∧
    manifest.validLossTokensPerDomain =
      supervisedIn manifests directories order

/-- The other side follows from the packed total. -/
theorem checkSupervisedTokens_eq_ok
    (parsed : ParsedFrom manifests directories)
    {seen : Domain -> Nat -> Bool} {result : Unit} :
    checkSupervisedTokens manifest order seen directories = .ok result ↔
      SideCounted manifests directories manifest order
        (surplusReferences manifest.packedAvailableRowsPerDomain seen) := by
  have total := manifest.availableSupervisedTokens_eq
  unfold checkSupervisedTokens observedSupervision
  by_cases fewer : manifest.packedSurplusRows ≤ manifest.rows
  · simp only [if_pos fewer, checked_bind_eq_ok, exists_require,
      checked_pure_eq_ok, countSupervisedTokens_of_parsed parsed]
    constructor
    · rintro ⟨_, ⟨_, ⟨counted, rfl⟩, rfl⟩, -, same, -⟩
      refine ⟨fun _ => ⟨counted, funext fun domain => ?_⟩,
        fun more => absurd fewer (Nat.not_le.mpr more)⟩
      exact Int.ofNat.inj (same domain (Domain.mem_order domain)).symm
    · intro side
      obtain ⟨counted, same⟩ := side.surplus fewer
      refine ⟨_, ⟨_, ⟨counted, rfl⟩, rfl⟩, fun domain _ => ?_,
        fun domain _ => ?_, trivial⟩
      · have here := congrFun same domain
        have whole := total domain
        simp only
        omega
      · exact congrArg Nat.cast (congrFun same domain).symm
  · simp only [if_neg fewer, checked_bind_eq_ok, exists_require,
      checked_pure_eq_ok, countSupervisedTokens_of_parsed parsed]
    constructor
    · rintro ⟨_, ⟨_, ⟨counted, rfl⟩, rfl⟩, same, -, -⟩
      refine ⟨fun more => absurd more fewer,
        fun _ => ⟨counted, funext fun domain => ?_⟩⟩
      exact Int.ofNat.inj (same domain (Domain.mem_order domain)).symm
    · intro side
      obtain ⟨counted, same⟩ := side.selected (Nat.lt_of_not_le fewer)
      refine ⟨_, ⟨_, ⟨counted, rfl⟩, rfl⟩, fun domain _ => ?_,
        fun domain _ => ?_, trivial⟩
      · exact congrArg Nat.cast (congrFun same domain).symm
      · have here := congrFun same domain
        have whole := total domain
        simp only
        omega

end Supervision

/-! ## Acceptance -/

/-- The surplus of an order: references of the rows it leaves out. -/
def surplusOf (manifest : OrderManifest Digest) (order : List Nat) :
    List Nat :=
  encodedRows (unseenRows manifest.packedAvailableRowsPerDomain order)

/-- Everything that the validator has established of an order it accepts. -/
structure AcceptedOrder
    (hash : FileHash Digest Cursor) (store : PackedStore Digest Cursor)
    (directory : OrderDirectory Digest) (manifest : OrderManifest Digest)
    (bytes : List Byte)
    (directories : Domain -> Directory Digest Cursor)
    (manifests : Domain -> PackedManifest Digest Cursor) : Prop where
  loads : Loads hash.bytes true directory manifest bytes
  weights : WeightsRecorded manifest
  tokens : TokensRecorded manifest
  scanned : Scanned manifest (decodeWords referenceItemSize bytes)
  resolves : ∀ domain, Resolves hash store manifest.tokenizerManifestSha256
    (manifest.datasetManifests domain) (directories domain)
    (manifests domain)
  fields : ∀ domain, PackedFields manifest domain (manifests domain)
  dropped : DroppedCounted manifests directories manifest
    (decodeWords referenceItemSize bytes)
  side : SideCounted manifests directories manifest
    (decodeWords referenceItemSize bytes)
    (surplusOf manifest (decodeWords referenceItemSize bytes))

theorem Resolves.parsedFrom
    {hash : FileHash Digest Cursor} {store : PackedStore Digest Cursor}
    {tokenizerManifestSha256 : Digest}
    {references : Domain -> DatasetReference Digest}
    {directories : Domain -> Directory Digest Cursor}
    {manifests : Domain -> PackedManifest Digest Cursor}
    (resolves : ∀ domain, Resolves hash store tokenizerManifestSha256
      (references domain) (directories domain) (manifests domain)) :
    ParsedFrom manifests directories := by
  intro domain
  obtain ⟨document, read, -, parsed⟩ := (resolves domain).parsed
  exact ⟨document, read, parsed⟩

theorem forDomains_unit_eq_ok
    {body : Domain -> Checked Unit} :
    (∃ values, forDomains body = .ok values) ↔
      ∀ domain, body domain = .ok () := by
  simp only [forDomains_eq_ok]
  exact ⟨fun ⟨_, every⟩ => every, fun every => ⟨fun _ => (), every⟩⟩

theorem checkOrderDatasets_eq_ok [DecidableEq Digest]
    {hash : FileHash Digest Cursor} {store : PackedStore Digest Cursor}
    {directory : OrderDirectory Digest} {manifest : OrderManifest Digest}
    {bytes : List Byte} {order : List Nat}
    {seen : Domain -> Nat -> Bool} {result : Unit}
    (loads : Loads hash.bytes true directory manifest bytes) :
    checkOrderDatasets hash store directory manifest order seen =
        .ok result ↔
      ∃ directories manifests,
        (∀ domain, Resolves hash store manifest.tokenizerManifestSha256
          (manifest.datasetManifests domain) (directories domain)
          (manifests domain)) ∧
        DroppedCounted manifests directories manifest order ∧
        (∀ domain, PackedFields manifest domain (manifests domain)) ∧
        SideCounted manifests directories manifest order
          (surplusReferences manifest.packedAvailableRowsPerDomain seen) := by
  have reloaded : loadOrderManifest hash.bytes false directory =
      .ok (manifest, bytes) :=
    loadOrderManifest_eq_ok.mpr
      ⟨loads.recorded, loads.payload, loads.length_eq, nofun⟩
  have fields {directories : Domain -> Directory Digest Cursor}
      {manifests : Domain -> PackedManifest Digest Cursor}
      (parsed : ParsedFrom manifests directories) :
      (∃ values, (forDomains fun domain =>
          checkPackedFields manifest domain (directories domain)) =
            .ok values) ↔
        ∀ domain, PackedFields manifest domain (manifests domain) := by
    rw [forDomains_unit_eq_ok]
    refine forall_congr' fun domain => ?_
    obtain ⟨document, read, parse⟩ := parsed domain
    exact checkPackedFields_eq_ok read parse
  rw [checkOrderDatasets, resolveOrderManifests, reloaded, checked_ok_bind]
  simp only [checked_bind_eq_ok, forDomains_eq_ok (α := Directory _ _),
    resolveDataset_eq_ok]
  constructor
  · rintro ⟨directories, resolved, _, dropped, values, matched, side⟩
    choose manifests resolves using resolved
    have parsed := Resolves.parsedFrom resolves
    exact ⟨directories, manifests, resolves,
      (checkDroppedSupervision_eq_ok parsed).mp dropped,
      (fields parsed).mp ⟨values, matched⟩,
      (checkSupervisedTokens_eq_ok parsed).mp side⟩
  · rintro ⟨directories, manifests, resolves, dropped, matched, side⟩
    have parsed := Resolves.parsedFrom resolves
    obtain ⟨values, matched⟩ := (fields parsed).mpr matched
    exact ⟨directories, fun domain => ⟨manifests domain, resolves domain⟩,
      (), (checkDroppedSupervision_eq_ok parsed).mpr dropped,
      values, matched, (checkSupervisedTokens_eq_ok parsed).mpr side⟩

/-- An order is accepted exactly when all of this holds of it. -/
theorem validateTrainingOrder_eq_ok [DecidableEq Digest]
    {hash : FileHash Digest Cursor} {store : PackedStore Digest Cursor}
    {directory : OrderDirectory Digest} {manifest : OrderManifest Digest} :
    validateTrainingOrder hash store true directory = .ok manifest ↔
      ∃ bytes directories manifests, AcceptedOrder hash store directory
        manifest bytes directories manifests := by
  have scans {bytes : List Byte} {scan : OrderScan}
      (loads : Loads hash.bytes true directory manifest bytes) :
      scanOrder manifest (decodeWords referenceItemSize bytes) = .ok scan ↔
        Scanned manifest (decodeWords referenceItemSize bytes) ∧
          scan = scanOf (manifest.geometry.map fun geometry =>
            geometry.consumedRows manifest.rows)
              (decodeWords referenceItemSize bytes) := by
    refine scanOrder_eq_ok ?_
    rw [length_decodeWords, loads.length_eq]
    exact Nat.mul_div_cancel _ (by decide)
  simp only [validateTrainingOrder, checked_bind_eq_ok, if_true,
    checkExpectedWeights_eq_ok, checkRecordedTokens_eq_ok,
    checked_pure_eq_ok]
  constructor
  · rintro ⟨⟨_, bytes⟩, loaded, _, weights, _, tokens, scan, scanned, _,
      datasets, rfl⟩
    have loads := loadOrderManifest_eq_ok.mp loaded
    obtain ⟨established, rfl⟩ := (scans loads).mp scanned
    obtain ⟨directories, manifests, resolves, dropped, fields, side⟩ :=
      (checkOrderDatasets_eq_ok loads).mp datasets
    exact ⟨bytes, directories, manifests, loads, weights, tokens,
      established, resolves, fields, dropped, side⟩
  · rintro ⟨bytes, directories, manifests, accepted⟩
    exact ⟨(manifest, bytes), loadOrderManifest_eq_ok.mpr accepted.loads,
      (), accepted.weights, (), accepted.tokens,
      _, (scans accepted.loads).mpr ⟨accepted.scanned, rfl⟩,
      (), (checkOrderDatasets_eq_ok accepted.loads).mpr
        ⟨directories, manifests, accepted.resolves, accepted.dropped,
          accepted.fields, accepted.side⟩, rfl⟩

end CodingLlm
