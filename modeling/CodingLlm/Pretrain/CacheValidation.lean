import CodingLlm.Pretrain.CacheInventoryRoundTrip
import CodingLlm.Pretrain.RawTokenCache

/-!
# What validation accepts

The facts that `validate_completed_cache` establishes before a cache is
reused, and that a cache with the builder's manifest has them.
-/

namespace CodingLlm

open JsonTree Words

/-! ## Equality -/

/-- A field of what equals an object equals that of the object. -/
theorem fieldEquals_of_equals
    {item : JsonTree} {fields : List (String × JsonTree)}
    {key : String} {value : JsonTree}
    (equal : item.equals (.object fields) = true)
    (found : fields.lookup key = some value) :
    item.fieldEquals key value = true := by
  obtain ⟨other, known, same⟩ := exists_of_equals equal found
  rw [fieldEquals, known]
  exact same

/-- A field that equals an object is one whose fields do. -/
theorem getField_equals
    {tree : JsonTree} {key : String} {fields : List (String × JsonTree)}
    (equal : tree.fieldEquals key (.object fields) = true) :
    (getField tree key).equals (.object fields) = true := by
  rw [fieldEquals, Option.any_eq_true] at equal
  obtain ⟨item, found, equal⟩ := equal
  rw [getField, found]
  exact equal

/-- A scalar equals an integer when it compares as it. -/
theorem JsonScalar.equals_int_iff {scalar : JsonScalar} {value : Int} :
    scalar.equals (.int value) = true ↔ scalar.number? = some (value : Rat) := by
  rw [JsonScalar.equals, JsonScalar.number?.eq_def (.int value)]
  cases scalar <;> simp [JsonScalar.number?]

/-- What equals a tree that equals an integer equals it too. -/
theorem equals_int_trans
    {first second : JsonTree} {value : Int}
    (left : first.equals second = true)
    (right : second.equals (.int value) = true) :
    first.equals (.int value) = true := by
  match first, second with
  | .scalar first, .scalar second =>
      rw [JsonTree.equals] at left
      rw [int, JsonTree.equals, JsonScalar.equals_int_iff] at right ⊢
      rw [JsonScalar.equals, right] at left
      cases known : first.number? with
      | some number =>
          rw [known] at left
          exact congrArg some (of_decide_eq_true left)
      | none =>
          rw [known] at left
          rw [← known, of_decide_eq_true left, right]
  | .array _, .scalar _ => cases left
  | .object _, .scalar _ => cases left
  | _, .array _ => cases right
  | _, .object _ => cases right

/-- A field of a tree that equals another equals what its field does. -/
theorem fieldEquals_int_trans
    {first second : JsonTree} {key : String} {value : Int}
    (equal : first.equals second = true)
    (right : second.fieldEquals key (.int value) = true) :
    first.fieldEquals key (.int value) = true := by
  rw [fieldEquals, Option.any_eq_true] at right
  obtain ⟨item, found, same⟩ := right
  cases second with
  | scalar _ => cases found
  | array _ => cases found
  | object fields =>
      obtain ⟨other, known, left⟩ := exists_of_equals equal found
      rw [fieldEquals, known]
      exact equals_int_trans left same

/-- A field of a tree that equals another is the string that its field is. -/
theorem fieldEquals_str_trans
    {first second : JsonTree} {key text : String}
    (equal : first.equals second = true)
    (found : second.field? key = some (.str text)) :
    first.fieldEquals key (.str text) = true := by
  match second, found with
  | .object fields, found =>
      obtain ⟨other, known, left⟩ := exists_of_equals equal found
      rw [fieldEquals, known]
      exact left

/-! ## What is established -/

section Validation

variable {floats : FloatText} {sha256 : Sha256} {job : CacheJob}
  {runtime : TokenizerRuntime} {roots : CacheRoots} {cache : CacheContents}
  {manifest : JsonTree}

/-- The report of a job, read again. -/
structure ReportVerified
    (floats : FloatText)
    (sha256 : Sha256)
    (job : CacheJob)
    (raw : List Byte)
    (report : JsonTree) : Prop where
  size : 2 ≤ raw.length ∧ raw.length ≤ maximumReportBytes
  decoded : (decodeUtf8 raw).bind (loads floats) = some report
  isMapping : report.IsMapping
  bytes : raw.length = job.reportBytes
  sha256 : sha256.digest raw = job.reportSha256
  equal : report.equals job.report = true

theorem verifyJobReport_eq_ok :
    verifyJobReport floats sha256 job roots = .ok () ↔
      ∃ raw report, roots.preprocess job.reportRelative = some raw ∧
        ReportVerified floats sha256 job raw report := by
  unfold verifyJobReport
  constructor
  · intro verified
    obtain ⟨raw, found, verified⟩ := checked_bind_eq_ok.mp verified
    obtain ⟨size, verified⟩ := require_then_eq_ok.mp verified
    obtain ⟨report, decoded, verified⟩ := checked_bind_eq_ok.mp verified
    obtain ⟨isMapping, verified⟩ := require_then_eq_ok.mp verified
    obtain ⟨⟨bytes, digest, equal⟩, -⟩ := require_then_eq_ok.mp verified
    exact ⟨raw, report, requireObject_eq_ok.mp found, size,
      requireObject_eq_ok.mp decoded, isMapping, bytes, digest, equal⟩
  · rintro ⟨raw, report, found, verified⟩
    refine checked_bind_eq_ok.mpr ⟨raw, requireObject_eq_ok.mpr found, ?_⟩
    refine require_then_eq_ok.mpr ⟨verified.size, ?_⟩
    refine checked_bind_eq_ok.mpr ⟨report,
      requireObject_eq_ok.mpr verified.decoded, ?_⟩
    refine require_then_eq_ok.mpr ⟨verified.isMapping, ?_⟩
    exact require_then_eq_ok.mpr
      ⟨⟨verified.bytes, verified.sha256, verified.equal⟩, rfl⟩

/-- The manifest of a closed-world cache directory. -/
structure ManifestRead
    (floats : FloatText)
    (sha256 : Sha256)
    (cache : CacheContents)
    (raw : List Byte)
    (manifest : JsonTree) : Prop where
  files : SameMembers (cache.files.map Prod.fst) outputFiles
  regular : ∀ file ∈ cache.files, file.2.isSome
  manifestRaw : cache.file? cacheManifestFile = some raw
  sidecarRaw : cache.file? cacheSidecarFile =
    some (sidecarBytes (sha256.digest raw) cacheManifestFile)
  decoded : (decodeUtf8 raw).bind (loads floats) = some manifest
  isMapping : manifest.IsMapping
  canonical : inventoryJsonBytes floats manifest = raw

theorem readCacheManifest_eq_ok :
    readCacheManifest floats sha256 cache = .ok manifest ↔
      ∃ raw, ManifestRead floats sha256 cache raw manifest := by
  unfold readCacheManifest
  constructor
  · intro read
    obtain ⟨files, read⟩ := require_then_eq_ok.mp read
    obtain ⟨regular, read⟩ := require_then_eq_ok.mp read
    obtain ⟨raw, found, read⟩ := checked_bind_eq_ok.mp read
    obtain ⟨sidecar, sidecarFound, read⟩ := checked_bind_eq_ok.mp read
    obtain ⟨sidecarEq, read⟩ := require_then_eq_ok.mp read
    obtain ⟨tree, decoded, read⟩ := checked_bind_eq_ok.mp read
    obtain ⟨⟨isMapping, canonical⟩, read⟩ := require_then_eq_ok.mp read
    obtain rfl := checked_pure_eq_ok.mp read
    rw [requireObject_eq_ok] at found sidecarFound decoded
    exact ⟨raw, files, regular, found, sidecarEq ▸ sidecarFound, decoded,
      isMapping, canonical⟩
  · rintro ⟨raw, read⟩
    refine require_then_eq_ok.mpr ⟨read.files, ?_⟩
    refine require_then_eq_ok.mpr ⟨read.regular, ?_⟩
    refine checked_bind_eq_ok.mpr ⟨raw,
      requireObject_eq_ok.mpr read.manifestRaw, ?_⟩
    refine checked_bind_eq_ok.mpr ⟨_,
      requireObject_eq_ok.mpr read.sidecarRaw, ?_⟩
    refine require_then_eq_ok.mpr ⟨rfl, ?_⟩
    refine checked_bind_eq_ok.mpr ⟨manifest,
      requireObject_eq_ok.mpr read.decoded, ?_⟩
    exact require_then_eq_ok.mpr ⟨⟨read.isMapping, read.canonical⟩, rfl⟩

/-- The sources that a manifest names, as they are now. -/
structure SourcesMatch
    (sha256 : Sha256)
    (job : CacheJob)
    (manifest : JsonTree)
    (archive fingerprint : List Byte) : Prop where
  source : manifest.fieldEquals "source" (sourceDescriptor job.archiveRelative
    job.reportRelative job.fingerprintRelative job.bucket job.index
    archive.length job.reportBytes fingerprint.length (sha256.digest archive)
    job.reportSha256 (sha256.digest fingerprint)) = true
  archiveSha256 : sha256.digest archive = job.archiveSha256
  fingerprintSha256 : sha256.digest fingerprint = job.fingerprintSha256

/-- The payloads that a manifest describes, as they are now. -/
structure PayloadsMatch
    (sha256 : Sha256)
    (job : CacheJob)
    (runtime : TokenizerRuntime)
    (payloads : JsonTree)
    (tokens offsets : List Byte) : Prop where
  tokensEven : tokens.length % 2 = 0
  described : payloads.fieldEquals "tokens" (tokenDescriptor
    ⟨sha256.digest tokens, (decodeWords 2 tokens).length,
      minimumToken (decodeWords 2 tokens),
      maximumToken (decodeWords 2 tokens)⟩) = true
  tokenCount : (decodeWords 2 tokens).length = job.exactTokens
  minimum_nonneg : 0 ≤ minimumToken (decodeWords 2 tokens)
  maximum_lt : maximumToken (decodeWords 2 tokens) <
    runtime.identity.vocabSize
  offsetsWhole : offsets.length % 8 = 0
  offsetsDescribed : payloads.fieldEquals "offsets" (offsetDescriptor
    ⟨sha256.digest offsets, job.documents + 1, job.exactTokens⟩) = true
  scanned : hashOffsets 0 (-1) (decodeWords 8 offsets) =
    .ok (job.documents + 1, job.exactTokens)

/-- The identity of the builder. -/
structure BuilderMatches
    (floats : FloatText)
    (sha256 : Sha256)
    (builder : JsonTree) : Prop where
  names : builder.HasExactly cacheBuilderKeys
  implementation : builder.fieldEquals "implementation"
    (.str cacheImplementation) = true
  spelled : spellsSha256 (getField builder "implementation_sha256") = true
  config : builder.fieldEquals "config_sha256"
    (.str (canonicalSha256 floats sha256 (getField builder "config"))) = true
  contract : builder.fieldEquals "tokenization_contract_sha256"
    (.str (tokenizationContractSha256 floats sha256)) = true

/-- What `validate_completed_cache` establishes. -/
structure CacheValidated
    (floats : FloatText)
    (sha256 : Sha256)
    (job : CacheJob)
    (runtime : TokenizerRuntime)
    (roots : CacheRoots)
    (cache : CacheContents)
    (manifest : JsonTree) : Prop where
  report : ∃ raw report, roots.preprocess job.reportRelative = some raw ∧
    ReportVerified floats sha256 job raw report
  read : ∃ raw, ManifestRead floats sha256 cache raw manifest
  names : manifest.HasExactly cacheManifestKeys
  contract : cacheContract manifest
  tokenizer : manifest.fieldEquals "tokenizer" runtime.descriptor = true
  sources : ∃ archive fingerprint,
    roots.dataset job.archiveRelative = some archive ∧
      roots.preprocess job.fingerprintRelative = some fingerprint ∧
      SourcesMatch sha256 job manifest archive fingerprint
  documents : (getField manifest "documents").IsMapping
  totals : documentTotals (getField manifest "documents") job.documents
    job.cleanBytes job.exactTokens
  alignment : (getField (getField manifest "documents") "alignment").IsMapping
  alignmentTotals : alignmentTotals
    (getField (getField manifest "documents") "alignment") job.documents
    job.exactTokens
  record : spellsSha256 (getField
    (getField (getField manifest "documents") "alignment")
    "record_sha256") = true
  payloadNames : (getField manifest "payloads").HasExactly
    ["tokens", "offsets"]
  payloads : ∃ tokens offsets, cache.file? tokenFile = some tokens ∧
    cache.file? offsetFile = some offsets ∧
      PayloadsMatch sha256 job runtime (getField manifest "payloads") tokens
        offsets
  builder : BuilderMatches floats sha256 (getField manifest "builder")

theorem validateCompletedCache_eq_ok :
    validateCompletedCache floats sha256 job runtime roots cache =
        .ok manifest ↔
      CacheValidated floats sha256 job runtime roots cache manifest := by
  unfold validateCompletedCache
  constructor
  · intro validated
    obtain ⟨_, report, validated⟩ := checked_bind_eq_ok.mp validated
    obtain ⟨tree, read, validated⟩ := checked_bind_eq_ok.mp validated
    obtain ⟨names, validated⟩ := require_then_eq_ok.mp validated
    obtain ⟨contract, validated⟩ := require_then_eq_ok.mp validated
    obtain ⟨tokenizer, validated⟩ := require_then_eq_ok.mp validated
    obtain ⟨archive, archiveFound, validated⟩ :=
      checked_bind_eq_ok.mp validated
    obtain ⟨fingerprint, fingerprintFound, validated⟩ :=
      checked_bind_eq_ok.mp validated
    obtain ⟨source, validated⟩ := require_then_eq_ok.mp validated
    obtain ⟨⟨archiveSha256, fingerprintSha256⟩, validated⟩ :=
      require_then_eq_ok.mp validated
    obtain ⟨documents, validated⟩ := require_then_eq_ok.mp validated
    obtain ⟨totals, validated⟩ := require_then_eq_ok.mp validated
    obtain ⟨⟨alignment, aligned, record⟩, validated⟩ :=
      require_then_eq_ok.mp validated
    obtain ⟨payloadNames, validated⟩ := require_then_eq_ok.mp validated
    obtain ⟨tokens, tokensFound, validated⟩ := checked_bind_eq_ok.mp validated
    obtain ⟨tokenScan, tokensHashed, validated⟩ :=
      checked_bind_eq_ok.mp validated
    obtain ⟨offsets, offsetsFound, validated⟩ :=
      checked_bind_eq_ok.mp validated
    obtain ⟨offsetScan, offsetsHashed, validated⟩ :=
      checked_bind_eq_ok.mp validated
    obtain ⟨⟨tokensEqual, offsetsEqual⟩, validated⟩ :=
      require_then_eq_ok.mp validated
    obtain ⟨⟨items, count, terminal, minimum, maximum⟩, validated⟩ :=
      require_then_eq_ok.mp validated
    obtain ⟨builderNames, validated⟩ := require_then_eq_ok.mp validated
    obtain ⟨⟨implementation, spelled, config, tokenization⟩, validated⟩ :=
      require_then_eq_ok.mp validated
    obtain rfl := checked_pure_eq_ok.mp validated
    obtain ⟨even, tokensHashed⟩ := require_then_eq_ok.mp tokensHashed
    obtain rfl := checked_pure_eq_ok.mp tokensHashed
    obtain ⟨whole, offsetsHashed⟩ := require_then_eq_ok.mp offsetsHashed
    obtain ⟨⟨scanCount, scanTerminal⟩, scanned, offsetsHashed⟩ :=
      checked_bind_eq_ok.mp offsetsHashed
    obtain rfl := checked_pure_eq_ok.mp offsetsHashed
    dsimp only at items count terminal minimum maximum tokensEqual offsetsEqual
    subst count terminal
    exact {
      report := verifyJobReport_eq_ok.mp report
      read := readCacheManifest_eq_ok.mp read
      names
      contract
      tokenizer
      sources := ⟨archive, fingerprint, requireObject_eq_ok.mp archiveFound,
        requireObject_eq_ok.mp fingerprintFound, source, archiveSha256,
        fingerprintSha256⟩
      documents
      totals
      alignment
      alignmentTotals := aligned
      record
      payloadNames
      payloads := ⟨tokens, offsets, requireObject_eq_ok.mp tokensFound,
        requireObject_eq_ok.mp offsetsFound, even, tokensEqual, items, minimum,
        maximum, whole, offsetsEqual, scanned⟩
      builder := ⟨builderNames, implementation, spelled, config, tokenization⟩ }
  · intro validated
    obtain ⟨archive, fingerprint, archiveFound, fingerprintFound, sources⟩ :=
      validated.sources
    obtain ⟨tokens, offsets, tokensFound, offsetsFound, payloads⟩ :=
      validated.payloads
    have builder := validated.builder
    refine checked_bind_eq_ok.mpr ⟨(),
      verifyJobReport_eq_ok.mpr validated.report, ?_⟩
    refine checked_bind_eq_ok.mpr ⟨manifest,
      readCacheManifest_eq_ok.mpr validated.read, ?_⟩
    refine require_then_eq_ok.mpr ⟨validated.names, ?_⟩
    refine require_then_eq_ok.mpr ⟨validated.contract, ?_⟩
    refine require_then_eq_ok.mpr ⟨validated.tokenizer, ?_⟩
    refine checked_bind_eq_ok.mpr ⟨archive,
      requireObject_eq_ok.mpr archiveFound, ?_⟩
    refine checked_bind_eq_ok.mpr ⟨fingerprint,
      requireObject_eq_ok.mpr fingerprintFound, ?_⟩
    refine require_then_eq_ok.mpr ⟨sources.source, ?_⟩
    refine require_then_eq_ok.mpr
      ⟨⟨sources.archiveSha256, sources.fingerprintSha256⟩, ?_⟩
    refine require_then_eq_ok.mpr ⟨validated.documents, ?_⟩
    refine require_then_eq_ok.mpr ⟨validated.totals, ?_⟩
    refine require_then_eq_ok.mpr ⟨⟨validated.alignment,
      validated.alignmentTotals, validated.record⟩, ?_⟩
    refine require_then_eq_ok.mpr ⟨validated.payloadNames, ?_⟩
    refine checked_bind_eq_ok.mpr ⟨tokens,
      requireObject_eq_ok.mpr tokensFound, ?_⟩
    refine checked_bind_eq_ok.mpr ⟨_,
      require_then_eq_ok.mpr ⟨payloads.tokensEven, rfl⟩, ?_⟩
    refine checked_bind_eq_ok.mpr ⟨offsets,
      requireObject_eq_ok.mpr offsetsFound, ?_⟩
    refine checked_bind_eq_ok.mpr ⟨⟨sha256.digest offsets, job.documents + 1,
      job.exactTokens⟩, require_then_eq_ok.mpr ⟨payloads.offsetsWhole,
        checked_bind_eq_ok.mpr ⟨_, payloads.scanned, rfl⟩⟩, ?_⟩
    refine require_then_eq_ok.mpr
      ⟨⟨payloads.described, payloads.offsetsDescribed⟩, ?_⟩
    refine require_then_eq_ok.mpr ⟨⟨payloads.tokenCount, rfl, rfl,
      payloads.minimum_nonneg, payloads.maximum_lt⟩, ?_⟩
    refine require_then_eq_ok.mpr ⟨builder.names, ?_⟩
    exact require_then_eq_ok.mpr ⟨⟨builder.implementation, builder.spelled,
      builder.config, builder.contract⟩, rfl⟩

/-! ## What the builder writes -/

theorem isExact_manifestPayload
    {config : CacheConfig} {implementation : List Byte}
    {tokensSha256 offsetsSha256 alignmentSha256 : String}
    {minimumTokenId maximumTokenId : Int} {fingerprintBytes : Nat} :
    (manifestPayload floats sha256 job config implementation runtime
      tokensSha256 offsetsSha256 minimumTokenId maximumTokenId alignmentSha256
      fingerprintBytes).IsExact := by
  simp [manifestPayload, tokenizationContract, sourceDescriptor,
    TokenizerRuntime.descriptor, TokenizerAuthority.descriptor, tokenDescriptor,
    offsetDescriptor, builderDescriptor, CacheConfig.identityPayload,
    isExact_object_iff, isExact_array_iff, isExact_str, isExact_int,
    isExact_bool]

/-- Fields of what is the same as a literal object equal those of the object. -/
theorem fieldEquals_of_same_object
    {tree value : JsonTree} {fields : List (String × JsonTree)} {key : String}
    (distinct : tree.IsDistinct)
    (same : tree.Same (.object fields))
    (found : fields.lookup key = some value) :
    tree.fieldEquals key value = true :=
  fieldEquals_of_equals (distinct.equals same) found

theorem getField_distinct
    {tree : JsonTree} {key : String}
    (distinct : tree.IsDistinct) : (getField tree key).IsDistinct := by
  rw [getField]
  cases found : tree.field? key with
  | none => exact .scalar _
  | some item => exact distinct_field distinct found

theorem getField_same_of_object
    {tree : JsonTree} {fields value : List (String × JsonTree)} {key : String}
    (same : tree.Same (.object fields))
    (found : fields.lookup key = some (.object value)) :
    (getField tree key).Same (.object value) := by
  have below := same.field key
  rw [field?_object, found] at below
  rw [getField]
  generalize tree.field? key = item at below ⊢
  cases below with
  | some related => exact related

/-- A cache with the manifest that the builder writes for its payloads is
validated. -/
theorem CacheValidated.of_same
    {config : CacheConfig} {implementation archive fingerprint tokens offsets
      raw : List Byte} {alignmentSha256 : String}
    (distinct : manifest.IsDistinct)
    (same : manifest.Same (manifestPayload floats sha256 job config
      implementation runtime (sha256.digest tokens) (sha256.digest offsets)
      (minimumToken (decodeWords 2 tokens)) (maximumToken (decodeWords 2 tokens))
      alignmentSha256 fingerprint.length))
    (report : ∃ raw report, roots.preprocess job.reportRelative = some raw ∧
      ReportVerified floats sha256 job raw report)
    (read : ManifestRead floats sha256 cache raw manifest)
    (archiveFound : roots.dataset job.archiveRelative = some archive)
    (archiveBytes : archive.length = job.archiveCompressedBytes)
    (archiveSha256 : sha256.digest archive = job.archiveSha256)
    (fingerprintFound : roots.preprocess job.fingerprintRelative =
      some fingerprint)
    (fingerprintSha256 : sha256.digest fingerprint = job.fingerprintSha256)
    (record : IsSha256 alignmentSha256)
    (tokensFound : cache.file? tokenFile = some tokens)
    (tokensEven : tokens.length % 2 = 0)
    (tokenCount : (decodeWords 2 tokens).length = job.exactTokens)
    (minimum : 0 ≤ minimumToken (decodeWords 2 tokens))
    (maximum : maximumToken (decodeWords 2 tokens) < runtime.identity.vocabSize)
    (offsetsFound : cache.file? offsetFile = some offsets)
    (offsetsWhole : offsets.length % 8 = 0)
    (scanned : hashOffsets 0 (-1) (decodeWords 8 offsets) =
      .ok (job.documents + 1, job.exactTokens)) :
    CacheValidated floats sha256 job runtime roots cache manifest := by
  have documents := getField_same_of_object same
    (show List.lookup "documents" _ = some _ from rfl)
  have alignment := getField_same_of_object documents
    (show List.lookup "alignment" _ = some _ from rfl)
  have payloads := getField_same_of_object same
    (show List.lookup "payloads" _ = some _ from rfl)
  have builder := getField_same_of_object same
    (show List.lookup "builder" _ = some _ from rfl)
  have config := getField_same_of_object builder
    (show List.lookup "config" _ = some _ from rfl)
  have below {key : String} : (getField manifest key).IsDistinct :=
    getField_distinct distinct
  have field {key : String} {value : JsonTree}
      (found : List.lookup key _ = some value) :=
    fieldEquals_of_same_object distinct same found
  have documentField {key : String} {value : JsonTree}
      (found : List.lookup key _ = some value) :=
    fieldEquals_of_same_object below documents found
  have alignmentField {key : String} {value : JsonTree}
      (found : List.lookup key _ = some value) :=
    fieldEquals_of_same_object (getField_distinct below) alignment found
  have payloadField {key : String} {value : JsonTree}
      (found : List.lookup key _ = some value) :=
    fieldEquals_of_same_object below payloads found
  have builderField {key : String} {value : JsonTree}
      (found : List.lookup key _ = some value) :=
    fieldEquals_of_same_object below builder found
  exact {
    report
    read := ⟨raw, read⟩
    names := same.hasExactly_iff.mpr ⟨rfl, fun _ => id, fun _ => id⟩
    contract := ⟨field rfl, field rfl, field rfl,
      any_isTrue.mpr (same.field?_eq_scalar rfl),
      any_isFalse.mpr (same.field?_eq_scalar rfl), field rfl, field rfl⟩
    tokenizer := field rfl
    sources := ⟨archive, fingerprint, archiveFound, fingerprintFound, by
      rw [archiveBytes, archiveSha256, fingerprintSha256]
      exact field rfl, archiveSha256, fingerprintSha256⟩
    documents := (documents.hasExactly_iff.mpr
      ⟨rfl, fun _ => id, fun _ => id⟩).1
    totals := ⟨documentField rfl, documentField rfl, documentField rfl⟩
    alignment := (alignment.hasExactly_iff.mpr
      ⟨rfl, fun _ => id, fun _ => id⟩).1
    alignmentTotals := ⟨alignmentField rfl, alignmentField rfl,
      alignmentField rfl, alignmentField rfl⟩
    record := by
      rw [getField, alignment.field?_eq_scalar rfl]
      exact decide_eq_true record
    payloadNames := payloads.hasExactly_iff.mpr
      ⟨rfl, fun _ => id, fun _ => id⟩
    payloads := ⟨tokens, offsets, tokensFound, offsetsFound, tokensEven, by
      rw [tokenCount]
      exact payloadField rfl, tokenCount, minimum, maximum, offsetsWhole,
      payloadField rfl, scanned⟩
    builder := ⟨builder.hasExactly_iff.mpr ⟨rfl, fun _ => id, fun _ => id⟩,
      builderField rfl, by
        rw [getField, builder.field?_eq_scalar rfl]
        exact decide_eq_true (sha256.isSha256 _), by
        rw [canonicalSha256, inventoryJsonBytes, write_congr floats false config]
        exact builderField rfl, builderField rfl⟩ }

end Validation

end CodingLlm
