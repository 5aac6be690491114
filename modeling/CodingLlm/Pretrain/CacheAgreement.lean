import CodingLlm.Pretrain.CacheScans
import CodingLlm.Pretrain.CacheValidation

/-!
# Agreement on raw-token caches

Of the caches that `validate_completed_cache` accepts for reuse, the reader
opens exactly those whose manifest it spells strictly, whose offsets rise, and
whose fingerprints agree with the offsets.
-/

namespace CodingLlm

open JsonTree Words

/-! ## Tokens -/

theorem foldl_min_le (values : List Nat) (start : Int) :
    values.foldl (fun smallest value => min smallest (value : Int)) start ≤
        start ∧
      ∀ value ∈ values, values.foldl
        (fun smallest value => min smallest (value : Int)) start ≤ value := by
  induction values generalizing start with
  | nil => exact ⟨le_rfl, nofun⟩
  | cons first values inductionHypothesis =>
      obtain ⟨below, each⟩ := inductionHypothesis (min start first)
      refine ⟨below.trans (min_le_left _ _), List.forall_mem_cons.mpr
        ⟨below.trans (min_le_right _ _), each⟩⟩

theorem le_foldl_max (values : List Nat) (start : Int) :
    start ≤ values.foldl (fun largest value => max largest (value : Int))
        start ∧
      ∀ value ∈ values, (value : Int) ≤ values.foldl
        (fun largest value => max largest (value : Int)) start := by
  induction values generalizing start with
  | nil => exact ⟨le_rfl, nofun⟩
  | cons first values inductionHypothesis =>
      obtain ⟨above, each⟩ := inductionHypothesis (max start first)
      refine ⟨(le_max_left _ _).trans above, List.forall_mem_cons.mpr
        ⟨(le_max_right _ _).trans above, each⟩⟩

/-- Some tokens have a smallest that is no larger than their largest. -/
theorem minimumToken_le_maximumToken
    {values : List Nat}
    (nonempty : values ≠ []) : minimumToken values ≤ maximumToken values := by
  obtain ⟨value, member⟩ := List.exists_mem_of_ne_nil values nonempty
  exact ((foldl_min_le values _).2 value member).trans
    ((le_foldl_max values _).2 value member)

/-! ## The authority of a job -/

/-- The archive of a job. -/
def CacheJob.archive (job : CacheJob) : ArchiveAuthority :=
  ⟨job.archiveRelative, job.bucket, job.index, job.archiveCompressedBytes,
    job.archiveSha256, job.archive_safe, job.archiveBytes_pos,
    job.archive_isSha256⟩

/-- The authority for a manifest and a job, with the fingerprints as they
are. -/
def cacheAuthority
    (sha256 : Sha256)
    (job : CacheJob)
    (runtime : TokenizerRuntime)
    (manifestRaw fingerprint : List Byte) : Checked RawTokenCacheAuthority := do
  let archive ← ArchiveAuthority.of job.archiveRelative job.bucket.name
    job.index job.archiveCompressedBytes job.archiveSha256
  let report ← FileAuthority.of job.reportRelative job.reportBytes
    job.reportSha256
  let fingerprint ← FileAuthority.of job.fingerprintRelative
    fingerprint.length job.fingerprintSha256
  RawTokenCacheAuthority.of manifestRaw.length (sha256.digest manifestRaw)
    archive report fingerprint runtime.authority job.documents job.cleanBytes
    job.exactTokens

/-- The reader is opened for a job, on the manifest that is in the cache. -/
def openForJob
    (floats : FloatText)
    (sha256 : Sha256)
    (decompress : List Byte -> Option (List Byte))
    (job : CacheJob)
    (runtime : TokenizerRuntime)
    (roots : CacheRoots)
    (cache : CacheContents) : Checked CacheReader := do
  let missing := cacheReadError "Cannot open cache file"
  let manifestRaw ← requireObject (cache.file? cacheManifestFile) missing
  let fingerprint ← requireObject (roots.preprocess job.fingerprintRelative)
    missing
  let authority ← cacheAuthority sha256 job runtime manifestRaw fingerprint
  openCache floats sha256 decompress authority roots (.ok runtime.identity)
    cache

section Authority

variable {floats : FloatText} {sha256 : Sha256} {job : CacheJob}
  {runtime : TokenizerRuntime} {manifestRaw fingerprint : List Byte}
  {authority : RawTokenCacheAuthority}

/-- What the authority of a job says. -/
structure AuthorityOf
    (sha256 : Sha256)
    (job : CacheJob)
    (runtime : TokenizerRuntime)
    (manifestRaw fingerprint : List Byte)
    (authority : RawTokenCacheAuthority) : Prop where
  manifestBytes : authority.cacheManifestBytes = manifestRaw.length
  manifestSha256 : authority.cacheManifestSha256 = sha256.digest manifestRaw
  archive : authority.archive = job.archive
  reportPath : authority.preprocessReport.path = job.reportRelative
  reportBytes : authority.preprocessReport.bytes = job.reportBytes
  reportSha256 : authority.preprocessReport.sha256 = job.reportSha256
  fingerprintPath : authority.fingerprint.path = job.fingerprintRelative
  fingerprintBytes : authority.fingerprint.bytes = fingerprint.length
  fingerprintSha256 : authority.fingerprint.sha256 = job.fingerprintSha256
  tokenizer : authority.tokenizer = runtime.authority
  records : authority.records = job.documents
  cleanBytes : authority.cleanBytes = job.cleanBytes
  contentTokens : authority.contentTokens = job.exactTokens

theorem authorityOf_of_ok
    (formed : cacheAuthority sha256 job runtime manifestRaw fingerprint =
      .ok authority) :
    AuthorityOf sha256 job runtime manifestRaw fingerprint authority := by
  unfold cacheAuthority at formed
  obtain ⟨archive, archiveFormed, formed⟩ := checked_bind_eq_ok.mp formed
  obtain ⟨report, reportFormed, formed⟩ := checked_bind_eq_ok.mp formed
  obtain ⟨prints, printsFormed, formed⟩ := checked_bind_eq_ok.mp formed
  obtain ⟨bytes, digest, rfl, rfl, rfl, tokenizer, records, clean, tokens⟩ :=
    RawTokenCacheAuthority.of_eq_ok.mp formed
  obtain ⟨reportPath, reportBytes, reportSha256⟩ :=
    FileAuthority.of_eq_ok.mp reportFormed
  obtain ⟨printsPath, printsBytes, printsSha256⟩ :=
    FileAuthority.of_eq_ok.mp printsFormed
  have own : ArchiveAuthority.of job.archiveRelative job.bucket.name job.index
      job.archiveCompressedBytes job.archiveSha256 = .ok job.archive :=
    ArchiveAuthority.of_eq_ok.mpr ⟨rfl, rfl, rfl, rfl, rfl⟩
  have archive : authority.archive = job.archive :=
    Except.ok.inj (archiveFormed.symm.trans own)
  exact ⟨bytes, digest, archive, reportPath, Int.ofNat_inj.mp reportBytes,
    reportSha256, printsPath, Int.ofNat_inj.mp printsBytes, printsSha256,
    tokenizer, records, clean, tokens⟩

/-- An authority is formed exactly for a canonical archive path and files that
are not empty. -/
theorem exists_cacheAuthority :
    (∃ authority, cacheAuthority sha256 job runtime manifestRaw fingerprint =
      .ok authority) ↔
      job.archiveRelative = expectedArchivePath job.bucket job.index ∧
        1 ≤ manifestRaw.length ∧ 1 ≤ fingerprint.length := by
  constructor
  · rintro ⟨authority, formed⟩
    have of := authorityOf_of_ok formed
    refine ⟨?_, of.manifestBytes ▸ authority.manifestBytes_pos,
      of.fingerprintBytes ▸ authority.fingerprint.bytes_pos⟩
    have path := authority.archive_path
    rw [of.archive] at path
    exact path
  · rintro ⟨canonical, manifest, prints⟩
    let report : FileAuthority := ⟨job.reportRelative, job.reportBytes,
      job.reportSha256, job.report_safe, job.reportBytes_pos,
      job.report_isSha256⟩
    let shard : FileAuthority := ⟨job.fingerprintRelative, fingerprint.length,
      job.fingerprintSha256, job.fingerprint_safe, prints,
      job.fingerprint_isSha256⟩
    refine ⟨⟨manifestRaw.length, sha256.digest manifestRaw, job.archive, report,
      shard, runtime.authority, job.documents, job.cleanBytes, job.exactTokens,
      manifest, sha256.isSha256 _, job.documents_pos, job.cleanBytes_pos,
      job.exactTokens_pos, canonical, rfl, rfl⟩, ?_⟩
    unfold cacheAuthority
    refine checked_bind_eq_ok.mpr ⟨job.archive,
      ArchiveAuthority.of_eq_ok.mpr ⟨rfl, rfl, rfl, rfl, rfl⟩, ?_⟩
    refine checked_bind_eq_ok.mpr ⟨report,
      FileAuthority.of_eq_ok.mpr ⟨rfl, rfl, rfl⟩, ?_⟩
    refine checked_bind_eq_ok.mpr ⟨shard,
      FileAuthority.of_eq_ok.mpr ⟨rfl, rfl, rfl⟩, ?_⟩
    exact RawTokenCacheAuthority.of_eq_ok.mpr
      ⟨rfl, rfl, rfl, rfl, rfl, rfl, rfl, rfl, rfl⟩

/-! ## Strict manifests -/

/-- What the reader asks of a manifest beyond validation: no other names under
`documents` and `alignment`, digests that are strings, a smallest and a largest
token that are spelled as integers, and a configuration. -/
structure ManifestStrict (manifest : JsonTree) : Prop where
  documents : (getField manifest "documents").HasExactly
    ["records", "clean_bytes", "content_tokens", "alignment"]
  alignment : (getField (getField manifest "documents") "alignment").HasExactly
    ["authority", "record_sha256", "offset_items", "offset_zero",
      "terminal_offset"]
  record : ∃ digest, (getField (getField manifest "documents")
    "alignment").field? "record_sha256" = some (.str digest)
  minimum : SpellsInteger (getField (getField manifest "payloads") "tokens")
    "minimum_id"
  maximum : SpellsInteger (getField (getField manifest "payloads") "tokens")
    "maximum_id"
  implementation : ∃ digest, (getField manifest "builder").field?
    "implementation_sha256" = some (.str digest)
  config : (getField (getField manifest "builder") "config").IsMapping ∧
    (getField (getField manifest "builder") "config").names ≠ []

theorem exists_requireSha256Field_iff
    {tree : JsonTree} {key : String}
    (spelled : spellsSha256 (getField tree key) = true) :
    (∃ digest, requireSha256Field tree key = .ok digest) ↔
      ∃ digest, tree.field? key = some (.str digest) := by
  simp only [requireSha256Field_eq_ok]
  constructor
  · rintro ⟨digest, found, -⟩
    exact ⟨digest, found⟩
  · rintro ⟨digest, found⟩
    refine ⟨digest, found, ?_⟩
    rw [getField, found] at spelled
    exact of_decide_eq_true spelled

theorem exists_field_of_fieldEquals
    {tree : JsonTree} {key : String} {value : Int}
    (equal : tree.fieldEquals key (.int value) = true)
    (spelled : SpellsInteger tree key) :
    (tree.field? key).bind int? = some value :=
  bind_int?_eq_some.mpr
    (fieldEquals_int_iff.mp ⟨equal, spellsInteger_iff.mp spelled⟩)

/-- Of a validated description of the payloads the reader accepts one that
spells its range as integers. -/
theorem validatePayloadDescriptors_iff
    {payloads : JsonTree} {tokens offsets : List Byte}
    (authorityOf : AuthorityOf sha256 job runtime manifestRaw fingerprint
      authority)
    (names : payloads.HasExactly ["tokens", "offsets"])
    (describes : PayloadsMatch sha256 job runtime payloads tokens offsets) :
    validatePayloadDescriptors authority payloads = .ok () ↔
      SpellsInteger (getField payloads "tokens") "minimum_id" ∧
        SpellsInteger (getField payloads "tokens") "maximum_id" := by
  unfold validatePayloadDescriptors
  constructor
  · intro accepted
    obtain ⟨-, accepted⟩ := require_then_eq_ok.mp accepted
    obtain ⟨-, accepted⟩ := require_then_eq_ok.mp accepted
    obtain ⟨-, accepted⟩ := require_then_eq_ok.mp accepted
    obtain ⟨_, -, accepted⟩ := checked_bind_eq_ok.mp accepted
    obtain ⟨minimum, first, accepted⟩ := checked_bind_eq_ok.mp accepted
    obtain ⟨maximum, second, -⟩ := checked_bind_eq_ok.mp accepted
    rw [requireObject_eq_ok] at first second
    exact ⟨by rw [SpellsInteger, first]; rfl,
      by rw [SpellsInteger, second]; rfl⟩
  · rintro ⟨minimum, maximum⟩
    have described := getField_equals describes.described
    have offsetsDescribed := getField_equals describes.offsetsDescribed
    have field {key : String} {value : JsonTree}
        (found : List.lookup key _ = some value) :=
      fieldEquals_of_equals described found
    have offsetField {key : String} {value : JsonTree}
        (found : List.lookup key _ = some value) :=
      fieldEquals_of_equals offsetsDescribed found
    have nonempty : decodeWords 2 tokens ≠ [] := by
      intro empty
      have count := describes.tokenCount
      rw [empty, List.length_nil] at count
      have positive := job.exactTokens_pos
      omega
    have vocabulary : (authority.tokenizer.vocabSize : Int) =
        runtime.identity.vocabSize := by
      rw [authorityOf.tokenizer, runtime.vocabSize]
    refine require_then_eq_ok.mpr ⟨names, ?_⟩
    refine require_then_eq_ok.mpr ⟨hasExactly_of_equals described, ?_⟩
    refine require_then_eq_ok.mpr ⟨⟨field rfl, field rfl, field rfl, ?_, ?_⟩, ?_⟩
    · rw [authorityOf.contentTokens, ← describes.tokenCount]
      exact field rfl
    · rw [authorityOf.contentTokens, ← describes.tokenCount]
      exact field rfl
    refine checked_bind_eq_ok.mpr ⟨_, requireSha256Field_eq_ok.mpr
      ⟨fieldEquals_str_iff.mp (field rfl), sha256.isSha256 _⟩, ?_⟩
    refine checked_bind_eq_ok.mpr ⟨_, requireObject_eq_ok.mpr
      (exists_field_of_fieldEquals (field rfl) minimum), ?_⟩
    refine checked_bind_eq_ok.mpr ⟨_, requireObject_eq_ok.mpr
      (exists_field_of_fieldEquals (field rfl) maximum), ?_⟩
    refine require_then_eq_ok.mpr ⟨⟨describes.minimum_nonneg,
      minimumToken_le_maximumToken nonempty,
      vocabulary ▸ describes.maximum_lt⟩, ?_⟩
    refine require_then_eq_ok.mpr ⟨hasExactly_of_equals offsetsDescribed, ?_⟩
    refine require_then_eq_ok.mpr
      ⟨⟨offsetField rfl, offsetField rfl, offsetField rfl, ?_, ?_⟩, ?_⟩
    · rw [authorityOf.records]
      exact offsetField rfl
    · rw [authorityOf.records]
      exact offsetField rfl
    exact checked_bind_eq_ok.mpr ⟨_, requireSha256Field_eq_ok.mpr
      ⟨fieldEquals_str_iff.mp (offsetField rfl), sha256.isSha256 _⟩, rfl⟩

/-- Of a validated builder the reader accepts one whose implementation digest
is a string and that has a configuration. -/
theorem validateBuilder_iff
    {builder : JsonTree}
    (identified : BuilderMatches floats sha256 builder) :
    validateBuilder floats sha256 builder = .ok () ↔
      (∃ digest, builder.field? "implementation_sha256" =
        some (.str digest)) ∧
      (getField builder "config").IsMapping ∧
        (getField builder "config").names ≠ [] := by
  rw [← exists_requireSha256Field_iff identified.spelled]
  unfold validateBuilder
  constructor
  · intro accepted
    obtain ⟨-, accepted⟩ := require_then_eq_ok.mp accepted
    obtain ⟨-, accepted⟩ := require_then_eq_ok.mp accepted
    obtain ⟨digest, found, accepted⟩ := checked_bind_eq_ok.mp accepted
    obtain ⟨config, -⟩ := require_then_eq_ok.mp accepted
    exact ⟨⟨digest, found⟩, config⟩
  · rintro ⟨⟨digest, found⟩, config⟩
    refine require_then_eq_ok.mpr ⟨identified.names, ?_⟩
    refine require_then_eq_ok.mpr ⟨identified.implementation, ?_⟩
    refine checked_bind_eq_ok.mpr ⟨digest, found, ?_⟩
    refine require_then_eq_ok.mpr ⟨config, ?_⟩
    refine require_then_eq_ok.mpr ⟨identified.config, ?_⟩
    exact require_then_eq_ok.mpr ⟨identified.contract, rfl⟩

variable {roots : CacheRoots} {cache : CacheContents} {manifest : JsonTree}

/-- Of a validated manifest the reader accepts a strict one, where the archive
is as long as the job says. -/
theorem validateManifest_iff
    {archive : List Byte}
    (authorityOf : AuthorityOf sha256 job runtime manifestRaw fingerprint
      authority)
    (validated : CacheValidated floats sha256 job runtime roots cache manifest)
    (sources : SourcesMatch sha256 job manifest archive fingerprint)
    (length : archive.length = job.archiveCompressedBytes) :
    validateManifest floats sha256 authority manifest = .ok () ↔
      ManifestStrict manifest := by
  obtain ⟨tokens, offsets, -, -, payloads⟩ := validated.payloads
  unfold validateManifest
  constructor
  · intro accepted
    obtain ⟨-, accepted⟩ := require_then_eq_ok.mp accepted
    obtain ⟨-, accepted⟩ := require_then_eq_ok.mp accepted
    obtain ⟨-, accepted⟩ := require_then_eq_ok.mp accepted
    obtain ⟨-, accepted⟩ := require_then_eq_ok.mp accepted
    obtain ⟨documents, accepted⟩ := require_then_eq_ok.mp accepted
    obtain ⟨-, accepted⟩ := require_then_eq_ok.mp accepted
    obtain ⟨alignment, accepted⟩ := require_then_eq_ok.mp accepted
    obtain ⟨-, accepted⟩ := require_then_eq_ok.mp accepted
    obtain ⟨digest, record, accepted⟩ := checked_bind_eq_ok.mp accepted
    obtain ⟨_, described, accepted⟩ := checked_bind_eq_ok.mp accepted
    obtain ⟨minimum, maximum⟩ := (validatePayloadDescriptors_iff authorityOf
      validated.payloadNames payloads).mp described
    obtain ⟨implementation, config⟩ :=
      (validateBuilder_iff validated.builder).mp accepted
    exact ⟨documents, alignment, ⟨digest, (requireSha256Field_eq_ok.mp
      record).1⟩, minimum, maximum, implementation, config⟩
  · intro strict
    obtain ⟨digest, record⟩ :=
      (exists_requireSha256Field_iff validated.record).mpr strict.record
    refine require_then_eq_ok.mpr ⟨validated.names, ?_⟩
    refine require_then_eq_ok.mpr ⟨validated.contract, ?_⟩
    refine require_then_eq_ok.mpr ⟨?_, ?_⟩
    · have source := sources.source
      rw [length, sources.archiveSha256, sources.fingerprintSha256] at source
      rw [authorityOf.archive, authorityOf.reportPath, authorityOf.reportBytes,
        authorityOf.reportSha256, authorityOf.fingerprintPath,
        authorityOf.fingerprintBytes, authorityOf.fingerprintSha256]
      exact source
    refine require_then_eq_ok.mpr ⟨?_, ?_⟩
    · rw [authorityOf.tokenizer]
      exact validated.tokenizer
    refine require_then_eq_ok.mpr ⟨strict.documents, ?_⟩
    refine require_then_eq_ok.mpr ⟨?_, ?_⟩
    · rw [authorityOf.records, authorityOf.cleanBytes,
        authorityOf.contentTokens]
      exact validated.totals
    refine require_then_eq_ok.mpr ⟨strict.alignment, ?_⟩
    refine require_then_eq_ok.mpr ⟨?_, ?_⟩
    · rw [authorityOf.records, authorityOf.contentTokens]
      exact validated.alignmentTotals
    refine checked_bind_eq_ok.mpr ⟨digest, record, ?_⟩
    refine checked_bind_eq_ok.mpr ⟨(), (validatePayloadDescriptors_iff
      authorityOf validated.payloadNames payloads).mpr
        ⟨strict.minimum, strict.maximum⟩, ?_⟩
    exact (validateBuilder_iff validated.builder).mpr
      ⟨strict.implementation, strict.config⟩

/-! ## Sources -/

/-- Of validated sources the reader accepts those whose archive is as long as
the job says. -/
theorem authenticateSourceFiles_iff
    {archive result : List Byte}
    (authorityOf : AuthorityOf sha256 job runtime manifestRaw fingerprint
      authority)
    (validated : CacheValidated floats sha256 job runtime roots cache manifest)
    (archiveFound : roots.dataset job.archiveRelative = some archive)
    (fingerprintFound : roots.preprocess job.fingerprintRelative =
      some fingerprint)
    (sources : SourcesMatch sha256 job manifest archive fingerprint) :
    authenticateSourceFiles floats sha256 authority roots = .ok result ↔
      result = fingerprint ∧
        archive.length = job.archiveCompressedBytes := by
  obtain ⟨raw, report, reportFound, verified⟩ := validated.report
  have archivePath : authority.archive.path = job.archiveRelative :=
    congrArg ArchiveAuthority.path authorityOf.archive
  have archiveBytes : authority.archive.bytes = job.archiveCompressedBytes :=
    congrArg ArchiveAuthority.bytes authorityOf.archive
  have archiveSha256 : authority.archive.sha256 = job.archiveSha256 :=
    congrArg ArchiveAuthority.sha256 authorityOf.archive
  unfold authenticateSourceFiles
  rw [archivePath, authorityOf.reportPath, authorityOf.fingerprintPath]
  constructor
  · intro accepted
    obtain ⟨first, found, accepted⟩ := checked_bind_eq_ok.mp accepted
    obtain ⟨_, -, accepted⟩ := checked_bind_eq_ok.mp accepted
    obtain ⟨third, known, accepted⟩ := checked_bind_eq_ok.mp accepted
    obtain ⟨length, accepted⟩ := require_then_eq_ok.mp accepted
    obtain ⟨-, accepted⟩ := require_then_eq_ok.mp accepted
    obtain ⟨-, accepted⟩ := require_then_eq_ok.mp accepted
    obtain ⟨-, accepted⟩ := require_then_eq_ok.mp accepted
    obtain ⟨-, accepted⟩ := require_then_eq_ok.mp accepted
    obtain ⟨_, -, accepted⟩ := checked_bind_eq_ok.mp accepted
    obtain ⟨-, accepted⟩ := require_then_eq_ok.mp accepted
    obtain rfl := checked_pure_eq_ok.mp accepted
    rw [requireObject_eq_ok, archiveFound, Option.some.injEq] at found
    rw [requireObject_eq_ok, fingerprintFound, Option.some.injEq] at known
    rw [found, known, length]
    exact ⟨rfl, archiveBytes⟩
  · rintro ⟨rfl, length⟩
    have number {key : String} {value : Int}
        (found : job.report.field? key = some (.int value)) :
        report.fieldEquals key (.int value) = true :=
      fieldEquals_int_trans verified.equal
        (fieldEquals_int_iff.mpr found).1
    have text {key value : String}
        (found : job.report.field? key = some (.str value)) :
        report.fieldEquals key (.str value) = true :=
      fieldEquals_str_trans verified.equal found
    have reads := job.reads
    have binding : validatePreprocessReport floats authority raw = .ok () := by
      unfold validatePreprocessReport
      rw [authorityOf.archive, authorityOf.fingerprintPath,
        authorityOf.fingerprintSha256, authorityOf.records,
        authorityOf.cleanBytes, authorityOf.contentTokens]
      refine checked_bind_eq_ok.mpr ⟨report,
        requireObject_eq_ok.mpr verified.decoded, ?_⟩
      refine require_then_eq_ok.mpr ⟨verified.isMapping, ?_⟩
      exact require_then_eq_ok.mpr ⟨⟨
        fieldEquals_int_trans verified.equal reads.reportVersion,
        fieldEquals_int_trans verified.equal reads.fingerprintVersion,
        text reads.archiveFound, text reads.archiveSha256Found,
        number reads.archiveBytesFound, text reads.bucketFound,
        number reads.indexFound, text reads.fingerprintFound,
        text reads.fingerprintSha256Found, number reads.documentsFound,
        number reads.cleanBytesFound, number reads.exactTokensFound⟩, rfl⟩
    refine checked_bind_eq_ok.mpr ⟨archive,
      requireObject_eq_ok.mpr archiveFound, ?_⟩
    refine checked_bind_eq_ok.mpr ⟨raw,
      requireObject_eq_ok.mpr reportFound, ?_⟩
    refine checked_bind_eq_ok.mpr ⟨result,
      requireObject_eq_ok.mpr fingerprintFound, ?_⟩
    refine require_then_eq_ok.mpr ⟨length.trans archiveBytes.symm, ?_⟩
    refine require_then_eq_ok.mpr
      ⟨sources.archiveSha256.trans archiveSha256.symm, ?_⟩
    refine require_then_eq_ok.mpr
      ⟨verified.bytes.trans authorityOf.reportBytes.symm, ?_⟩
    refine require_then_eq_ok.mpr ⟨verified.size.2, ?_⟩
    refine require_then_eq_ok.mpr
      ⟨verified.sha256.trans authorityOf.reportSha256.symm, ?_⟩
    refine checked_bind_eq_ok.mpr ⟨(), binding, ?_⟩
    exact require_then_eq_ok.mpr ⟨authorityOf.fingerprintBytes.symm, rfl⟩

/-- The tokenizer that a build was loaded from is accepted. -/
theorem authenticateTokenizer_runtime (runtime : TokenizerRuntime) :
    authenticateTokenizer (.ok runtime.identity) runtime.authority =
      .ok () := by
  unfold authenticateTokenizer
  refine checked_bind_eq_ok.mpr ⟨runtime.identity, ?_, ?_⟩
  · exact require_then_eq_ok.mpr ⟨⟨runtime.manifestSha256.symm,
      runtime.vocabSize.symm, runtime.vocabularySha256.symm⟩, rfl⟩
  · exact require_then_eq_ok.mpr ⟨⟨fieldEquals_str_iff.mpr runtime.repoId,
      fieldEquals_str_iff.mpr runtime.revision, runtime.validation,
      fieldEquals_str_iff.mpr runtime.eosToken,
      (fieldEquals_int_iff.mpr runtime.eosTokenId).1⟩, rfl⟩

/-! ## Payloads -/

/-- Of validated payloads the reader accepts those whose offsets rise. -/
theorem openAndValidatePayloads_iff
    {tokens offsets : List Byte} {reader : CacheReader}
    (authorityOf : AuthorityOf sha256 job runtime manifestRaw fingerprint
      authority)
    (tokensFound : cache.file? tokenFile = some tokens)
    (offsetsFound : cache.file? offsetFile = some offsets)
    (payloads : PayloadsMatch sha256 job runtime (getField manifest "payloads")
      tokens offsets) :
    openAndValidatePayloads sha256 authority cache manifest = .ok reader ↔
      reader = ⟨manifest, tokens, offsets⟩ ∧
        (decodeWords 8 offsets).IsChain (· < ·) := by
  have described := getField_equals payloads.described
  have offsetsDescribed := getField_equals payloads.offsetsDescribed
  have field {key : String} {value : JsonTree}
      (found : List.lookup key _ = some value) :=
    fieldEquals_of_equals described found
  have offsetField {key : String} {value : JsonTree}
      (found : List.lookup key _ = some value) :=
    fieldEquals_of_equals offsetsDescribed found
  have scanned := payloads.scanned
  have count : (decodeWords 8 offsets).length = offsets.length / 8 := by simp
  have tokenCount := payloads.tokenCount
  rw [length_decodeWords] at tokenCount
  cases values : decodeWords 8 offsets with
  | nil =>
      rw [values, hashOffsets, checked_pure_eq_ok, Prod.mk.injEq] at scanned
      omega
  | cons first others =>
      rw [values, hashOffsets_eq_ok, Prod.mk.injEq] at scanned
      obtain ⟨zero, -, length, terminal⟩ := scanned
      have nonempty : decodeWords 2 tokens ≠ [] := by
        intro empty
        have counted := payloads.tokenCount
        rw [empty, List.length_nil] at counted
        have positive := job.exactTokens_pos
        omega
      unfold openAndValidatePayloads
      constructor
      · intro accepted
        obtain ⟨bytes, found, accepted⟩ := checked_bind_eq_ok.mp accepted
        obtain ⟨others_, known, accepted⟩ := checked_bind_eq_ok.mp accepted
        rw [requireObject_eq_ok, tokensFound, Option.some.injEq] at found
        rw [requireObject_eq_ok, offsetsFound, Option.some.injEq] at known
        subst found known
        obtain ⟨-, accepted⟩ := require_then_eq_ok.mp accepted
        obtain ⟨-, accepted⟩ := require_then_eq_ok.mp accepted
        obtain ⟨-, accepted⟩ := require_then_eq_ok.mp accepted
        obtain ⟨last, rising, accepted⟩ := checked_bind_eq_ok.mp accepted
        obtain ⟨-, accepted⟩ := require_then_eq_ok.mp accepted
        obtain ⟨-, accepted⟩ := require_then_eq_ok.mp accepted
        obtain ⟨-, accepted⟩ := require_then_eq_ok.mp accepted
        rw [values, scanOffsets_eq_ok] at rising
        exact ⟨(checked_pure_eq_ok.mp accepted).symm, rising.2.1⟩
      · rintro ⟨rfl, rising⟩
        refine checked_bind_eq_ok.mpr ⟨tokens,
          requireObject_eq_ok.mpr tokensFound, ?_⟩
        refine checked_bind_eq_ok.mpr ⟨offsets,
          requireObject_eq_ok.mpr offsetsFound, ?_⟩
        refine require_then_eq_ok.mpr ⟨?_, ?_⟩
        · have even := payloads.tokensEven
          rw [authorityOf.contentTokens]
          omega
        refine require_then_eq_ok.mpr ⟨?_, ?_⟩
        · have whole := payloads.offsetsWhole
          rw [values] at count
          rw [authorityOf.records]
          omega
        refine require_then_eq_ok.mpr
          ⟨⟨minimumToken_le_maximumToken nonempty, ?_⟩, ?_⟩
        · rw [authorityOf.tokenizer, runtime.vocabSize]
          exact payloads.maximum_lt
        refine checked_bind_eq_ok.mpr
          ⟨((first :: others).getLast (List.cons_ne_nil _ _) : Nat), ?_, ?_⟩
        · rw [values]
          exact scanOffsets_eq_ok.mpr ⟨zero, rising, rfl⟩
        refine require_then_eq_ok.mpr ⟨?_, ?_⟩
        · rw [authorityOf.contentTokens, terminal]
        refine require_then_eq_ok.mpr
          ⟨⟨field rfl, field rfl, field rfl⟩, ?_⟩
        exact require_then_eq_ok.mpr ⟨offsetField rfl, rfl⟩

/-! ## Fingerprints -/

theorem readLine_eq_nil_iff {limit : Nat} {text : List Byte} :
    (readLine (limit + 1) text).1 = [] ↔ text = [] := by
  cases text with
  | nil => simp [readLine]
  | cons byte text =>
      rw [readLine, List.take_succ_cons]
      by_cases equal : byte = newline
      · subst equal
        simp
      · have kept : (byte :: text.take limit).takeWhile (· ≠ newline) =
            byte :: (text.take limit).takeWhile (· ≠ newline) :=
          List.takeWhile_cons_of_pos (decide_eq_true equal)
        rw [kept]
        simp

/-- The fingerprints describe the documents of a job, each with as many tokens
as its span, and are what the alignment digest was taken from. -/
structure FingerprintAgrees
    (floats : FloatText)
    (sha256 : Sha256)
    (job : CacheJob)
    (manifest : JsonTree)
    (offsets text : List Byte)
    (rows : List DocumentRow) : Prop where
  count : rows.length = job.documents
  agree : RowsAgree floats sha256 job.archive offsets 0 text rows
  cleanBytes : (rows.map DocumentRow.sizeBytes).sum = job.cleanBytes
  record : (getField (getField manifest "documents") "alignment").fieldEquals
    "record_sha256" (.str (sha256.digest (alignmentOf floats offsets 0 rows))) =
      true

/-- The replay accepts fingerprints that agree. -/
theorem validateFingerprintAlignment_iff
    {decompress : List Byte -> Option (List Byte)}
    {tokens offsets : List Byte}
    (authorityOf : AuthorityOf sha256 job runtime manifestRaw fingerprint
      authority)
    (digest : sha256.digest fingerprint = job.fingerprintSha256)
    (payloads : PayloadsMatch sha256 job runtime (getField manifest "payloads")
      tokens offsets) :
    validateFingerprintAlignment floats sha256 decompress authority fingerprint
        ⟨manifest, tokens, offsets⟩ = .ok () ↔
      ∃ text rows, decompress fingerprint = some text ∧
        FingerprintAgrees floats sha256 job manifest offsets text rows := by
  unfold validateFingerprintAlignment
  rw [authorityOf.archive, authorityOf.records, authorityOf.cleanBytes,
    authorityOf.contentTokens, authorityOf.fingerprintSha256]
  constructor
  · intro accepted
    obtain ⟨text, found, accepted⟩ := checked_bind_eq_ok.mp accepted
    obtain ⟨final, aligned, accepted⟩ := checked_bind_eq_ok.mp accepted
    obtain ⟨ended, accepted⟩ := require_then_eq_ok.mp accepted
    obtain ⟨-, accepted⟩ := require_then_eq_ok.mp accepted
    obtain ⟨⟨-, clean, -⟩, accepted⟩ := require_then_eq_ok.mp accepted
    obtain ⟨record, -⟩ := require_then_eq_ok.mp accepted
    obtain ⟨rows, front, count, agree, textEq, alignment, -, cleanEq, -⟩ :=
      alignRows_eq_ok.mp aligned
    rw [readLine_eq_nil_iff.mp ended, List.append_nil] at textEq
    dsimp only at textEq
    subst textEq
    refine ⟨text, rows, requireObject_eq_ok.mp found, count, agree, ?_, ?_⟩
    · rw [← clean, cleanEq]
      exact (Nat.zero_add _).symm
    · rw [alignment] at record
      exact record
  · rintro ⟨text, rows, found, agrees⟩
    have scanned := payloads.scanned
    have sum := agrees.agree.sum_tokens
    have tokens : (rows.map DocumentRow.tokens).sum = job.exactTokens := by
      cases values : decodeWords 8 offsets with
      | nil =>
          rw [values, hashOffsets, checked_pure_eq_ok, Prod.mk.injEq] at scanned
          omega
      | cons first others =>
          rw [values, hashOffsets_eq_ok, Prod.mk.injEq] at scanned
          obtain ⟨rfl, -, length, terminal⟩ := scanned
          have last : (0 :: others).getD job.documents 0 =
              (0 :: others).getLast (List.cons_ne_nil _ _) := by
            rw [List.getLast_eq_getElem, List.getD_eq_getElem _ _ (by omega)]
            congr 1
            omega
          rw [values, agrees.count, Nat.zero_add, last] at sum
          simp only [List.getD_cons_zero, Nat.cast_zero, Int.sub_zero] at sum
          omega
    refine checked_bind_eq_ok.mpr ⟨text, requireObject_eq_ok.mpr found, ?_⟩
    refine checked_bind_eq_ok.mpr ⟨⟨[], alignmentOf floats offsets 0 rows,
      job.documents, job.cleanBytes, job.exactTokens⟩,
      alignRows_eq_ok.mpr ⟨rows, text, agrees.count, agrees.agree, ?_⟩, ?_⟩
    · refine ⟨(List.append_nil _).symm, rfl, ?_, ?_, ?_⟩
      · exact (agrees.count ▸ (Nat.zero_add _).symm)
      · exact (agrees.cleanBytes ▸ (Nat.zero_add _).symm)
      · exact (tokens ▸ (Nat.zero_add _).symm)
    refine require_then_eq_ok.mpr ⟨readLine_eq_nil_iff.mpr rfl, ?_⟩
    refine require_then_eq_ok.mpr ⟨digest, ?_⟩
    refine require_then_eq_ok.mpr ⟨⟨rfl, rfl, rfl⟩, ?_⟩
    exact require_then_eq_ok.mpr ⟨agrees.record, rfl⟩

/-! ## Agreement -/

/-- The manifest of a cache directory. -/
def CacheContents.manifest? (floats : FloatText) (cache : CacheContents) :
    Option JsonTree :=
  (cache.file? cacheManifestFile).bind fun raw =>
    (decodeUtf8 raw).bind (loads floats)

/-- What the reader asks of a job and a cache beyond validation: a canonical
archive path, a manifest that is short and strict, offsets that rise, and
fingerprints that agree with them. -/
structure ReaderAgrees
    (floats : FloatText)
    (sha256 : Sha256)
    (decompress : List Byte -> Option (List Byte))
    (job : CacheJob)
    (roots : CacheRoots)
    (cache : CacheContents) : Prop where
  archivePath : job.archiveRelative = expectedArchivePath job.bucket job.index
  archiveBytes : ∀ archive ∈ roots.dataset job.archiveRelative,
    archive.length = job.archiveCompressedBytes
  manifestBytes : ∀ raw ∈ cache.file? cacheManifestFile,
    raw.length ≤ maximumCacheManifestBytes
  strict : ∀ manifest ∈ cache.manifest? floats, ManifestStrict manifest
  rising : ∀ offsets ∈ cache.file? offsetFile,
    (decodeWords 8 offsets).IsChain (· < ·)
  fingerprint : ∀ fingerprint ∈ roots.preprocess job.fingerprintRelative,
    1 ≤ fingerprint.length ∧ ∀ manifest ∈ cache.manifest? floats,
      ∀ offsets ∈ cache.file? offsetFile, ∃ text rows,
        decompress fingerprint = some text ∧
          FingerprintAgrees floats sha256 job manifest offsets text rows

/-- The documents of a reader have the spans that the fingerprints count. -/
def MapsAsCounted
    (floats : FloatText)
    (sha256 : Sha256)
    (decompress : List Byte -> Option (List Byte))
    (job : CacheJob)
    (roots : CacheRoots)
    (reader : CacheReader) : Prop :=
  ∃ fingerprint text rows,
    roots.preprocess job.fingerprintRelative = some fingerprint ∧
      decompress fingerprint = some text ∧
      (rows : List DocumentRow).length = job.documents ∧
      RowsAgree floats sha256 job.archive reader.offsets 0 text rows

/-- A validated cache is opened with the authority of its job exactly when the
reader agrees. -/
theorem openCache_iff
    {decompress : List Byte -> Option (List Byte)}
    {archive tokens offsets : List Byte} {reader : CacheReader}
    (authorityOf : AuthorityOf sha256 job runtime manifestRaw fingerprint
      authority)
    (validated : CacheValidated floats sha256 job runtime roots cache manifest)
    (read : ManifestRead floats sha256 cache manifestRaw manifest)
    (archiveFound : roots.dataset job.archiveRelative = some archive)
    (fingerprintFound : roots.preprocess job.fingerprintRelative =
      some fingerprint)
    (sources : SourcesMatch sha256 job manifest archive fingerprint)
    (tokensFound : cache.file? tokenFile = some tokens)
    (offsetsFound : cache.file? offsetFile = some offsets)
    (payloads : PayloadsMatch sha256 job runtime (getField manifest "payloads")
      tokens offsets) :
    openCache floats sha256 decompress authority roots (.ok runtime.identity)
        cache = .ok reader ↔
      reader = ⟨manifest, tokens, offsets⟩ ∧
        manifestRaw.length ≤ maximumCacheManifestBytes ∧
        archive.length = job.archiveCompressedBytes ∧
        ManifestStrict manifest ∧
        (decodeWords 8 offsets).IsChain (· < ·) ∧
        ∃ text rows, decompress fingerprint = some text ∧
          FingerprintAgrees floats sha256 job manifest offsets text rows := by
  unfold openCache
  constructor
  · intro opened
    obtain ⟨-, opened⟩ := require_then_eq_ok.mp opened
    obtain ⟨bytes, found, opened⟩ := checked_bind_eq_ok.mp opened
    rw [requireObject_eq_ok, read.manifestRaw, Option.some.injEq] at found
    rw [← found] at opened
    obtain ⟨⟨-, short⟩, opened⟩ := require_then_eq_ok.mp opened
    obtain ⟨-, opened⟩ := require_then_eq_ok.mp opened
    obtain ⟨_, -, opened⟩ := checked_bind_eq_ok.mp opened
    obtain ⟨-, opened⟩ := require_then_eq_ok.mp opened
    obtain ⟨-, opened⟩ := require_then_eq_ok.mp opened
    obtain ⟨tree, decoded, opened⟩ := checked_bind_eq_ok.mp opened
    rw [requireObject_eq_ok, read.decoded, Option.some.injEq] at decoded
    rw [← decoded] at opened
    obtain ⟨-, opened⟩ := require_then_eq_ok.mp opened
    obtain ⟨_, described, opened⟩ := checked_bind_eq_ok.mp opened
    obtain ⟨shard, authenticated, opened⟩ := checked_bind_eq_ok.mp opened
    obtain ⟨_, -, opened⟩ := checked_bind_eq_ok.mp opened
    obtain ⟨inner, opensPayloads, opened⟩ := checked_bind_eq_ok.mp opened
    obtain ⟨_, aligned, opened⟩ := checked_bind_eq_ok.mp opened
    obtain ⟨sameShard, length⟩ := (authenticateSourceFiles_iff authorityOf
      validated archiveFound fingerprintFound sources).mp authenticated
    obtain ⟨sameReader, rising⟩ := (openAndValidatePayloads_iff authorityOf
      tokensFound offsetsFound payloads).mp opensPayloads
    rw [sameShard, sameReader, validateFingerprintAlignment_iff authorityOf
      sources.fingerprintSha256 payloads] at aligned
    exact ⟨(checked_pure_eq_ok.mp opened).symm.trans sameReader, short, length,
      (validateManifest_iff authorityOf validated sources length).mp described,
      rising, aligned⟩
  · rintro ⟨rfl, short, length, strict, rising, agrees⟩
    have sidecar := length_sidecarBytes sha256 manifestRaw
    refine require_then_eq_ok.mpr ⟨read.files, ?_⟩
    refine checked_bind_eq_ok.mpr ⟨manifestRaw,
      requireObject_eq_ok.mpr read.manifestRaw, ?_⟩
    refine require_then_eq_ok.mpr ⟨⟨authorityOf.manifestBytes ▸
      authority.manifestBytes_pos, short⟩, ?_⟩
    refine require_then_eq_ok.mpr ⟨⟨authorityOf.manifestBytes.symm,
      authorityOf.manifestSha256.symm⟩, ?_⟩
    refine checked_bind_eq_ok.mpr ⟨_,
      requireObject_eq_ok.mpr read.sidecarRaw, ?_⟩
    refine require_then_eq_ok.mpr ⟨sidecar, ?_⟩
    refine require_then_eq_ok.mpr ⟨?_, ?_⟩
    · rw [authorityOf.manifestSha256]
    refine checked_bind_eq_ok.mpr ⟨manifest,
      requireObject_eq_ok.mpr read.decoded, ?_⟩
    refine require_then_eq_ok.mpr ⟨⟨read.isMapping, read.canonical⟩, ?_⟩
    refine checked_bind_eq_ok.mpr ⟨(), (validateManifest_iff authorityOf
      validated sources length).mpr strict, ?_⟩
    refine checked_bind_eq_ok.mpr ⟨fingerprint, (authenticateSourceFiles_iff
      authorityOf validated archiveFound fingerprintFound sources).mpr
        ⟨rfl, length⟩, ?_⟩
    refine checked_bind_eq_ok.mpr ⟨(), ?_, ?_⟩
    · rw [authorityOf.tokenizer]
      exact authenticateTokenizer_runtime runtime
    refine checked_bind_eq_ok.mpr ⟨⟨manifest, tokens, offsets⟩,
      (openAndValidatePayloads_iff authorityOf tokensFound offsetsFound
        payloads).mpr ⟨rfl, rising⟩, ?_⟩
    exact checked_bind_eq_ok.mpr ⟨(), (validateFingerprintAlignment_iff
      authorityOf sources.fingerprintSha256 payloads).mpr agrees, rfl⟩

theorem readerAgrees_of_ok
    {decompress : List Byte -> Option (List Byte)} {reader : CacheReader}
    (validated : CacheValidated floats sha256 job runtime roots cache manifest)
    (opened : openForJob floats sha256 decompress job runtime roots cache =
      .ok reader) :
    ReaderAgrees floats sha256 decompress job roots cache := by
  obtain ⟨raw, read⟩ := validated.read
  obtain ⟨archive, prints, archiveFound, printsFound, sources⟩ :=
    validated.sources
  obtain ⟨tokens, offsets, tokensFound, offsetsFound, payloads⟩ :=
    validated.payloads
  have known : cache.manifest? floats = some manifest := by
    rw [CacheContents.manifest?, read.manifestRaw]
    exact read.decoded
  unfold openForJob at opened
  obtain ⟨bytes, found, opened⟩ := checked_bind_eq_ok.mp opened
  obtain ⟨shard, shardFound, opened⟩ := checked_bind_eq_ok.mp opened
  rw [requireObject_eq_ok, read.manifestRaw, Option.some.injEq] at found
  rw [requireObject_eq_ok, printsFound, Option.some.injEq] at shardFound
  rw [← found, ← shardFound] at opened
  obtain ⟨authority, formed, opened⟩ := checked_bind_eq_ok.mp opened
  obtain ⟨canonical, -, filled⟩ :=
    exists_cacheAuthority.mp ⟨authority, formed⟩
  obtain ⟨-, short, length, strict, rising, text, rows, decompressed,
      counted⟩ :=
    (openCache_iff (authorityOf_of_ok formed) validated read archiveFound
      printsFound sources tokensFound offsetsFound payloads).mp opened
  constructor
  · exact canonical
  · simpa [archiveFound] using length
  · simpa [read.manifestRaw] using short
  · simpa [known] using strict
  · simpa [offsetsFound] using rising
  · simpa [printsFound, known, offsetsFound] using
      ⟨filled, text, decompressed, rows, counted⟩

theorem ReaderAgrees.exists_reader
    {decompress : List Byte -> Option (List Byte)}
    (agrees : ReaderAgrees floats sha256 decompress job roots cache)
    (validated :
      CacheValidated floats sha256 job runtime roots cache manifest) :
    ∃ reader, openForJob floats sha256 decompress job runtime roots cache =
        .ok reader ∧
      MapsAsCounted floats sha256 decompress job roots reader := by
  obtain ⟨raw, read⟩ := validated.read
  obtain ⟨archive, prints, archiveFound, printsFound, sources⟩ :=
    validated.sources
  obtain ⟨tokens, offsets, tokensFound, offsetsFound, payloads⟩ :=
    validated.payloads
  have known : cache.manifest? floats = some manifest := by
    rw [CacheContents.manifest?, read.manifestRaw]
    exact read.decoded
  obtain ⟨filled, aligned⟩ := agrees.fingerprint prints printsFound
  obtain ⟨text, rows, decompressed, counted⟩ :=
    aligned manifest known offsets offsetsFound
  obtain ⟨authority, formed⟩ := exists_cacheAuthority.mpr
    ⟨agrees.archivePath, read.canonical ▸ inventoryJsonBytes_pos manifest,
      filled⟩
  refine ⟨⟨manifest, tokens, offsets⟩, ?_, prints, text, rows, printsFound,
    decompressed, counted.count, counted.agree⟩
  unfold openForJob
  refine checked_bind_eq_ok.mpr ⟨raw,
    requireObject_eq_ok.mpr read.manifestRaw, ?_⟩
  refine checked_bind_eq_ok.mpr ⟨prints,
    requireObject_eq_ok.mpr printsFound, ?_⟩
  refine checked_bind_eq_ok.mpr ⟨authority, formed, ?_⟩
  exact (openCache_iff (authorityOf_of_ok formed) validated read archiveFound
    printsFound sources tokensFound offsetsFound payloads).mpr
    ⟨rfl, agrees.manifestBytes raw read.manifestRaw,
      agrees.archiveBytes archive archiveFound, agrees.strict manifest known,
      agrees.rising offsets offsetsFound, text, rows, decompressed, counted⟩

end Authority

/-! ## An empty document -/

section EmptyDocument

/-- A report of two documents with one token. -/
def emptyReport : JsonTree :=
  .object [
    ("report_version", .int 1),
    ("fingerprint_version", .int 1),
    ("archive", .str (expectedArchivePath .python 0)),
    ("archive_sha256", .str zeroDigest),
    ("archive_compressed_bytes", .int 1),
    ("bucket", .str "python"),
    ("index", .int 0),
    ("fingerprint_file", .str (expectedFingerprintPath .python 0)),
    ("fingerprint_sha256", .str zeroDigest),
    ("documents", .int 2),
    ("clean_bytes", .int 2),
    ("exact_tokens", .int 1)]

/-- The job of that report. -/
def emptyJob : CacheJob where
  report := emptyReport
  reportSha256 := zeroDigest
  reportBytes := (inventoryJsonBytes wholeFloats emptyReport).length
  archiveRelative := expectedArchivePath .python 0
  bucket := .python
  index := 0
  documents := 2
  cleanBytes := 2
  exactTokens := 1
  archiveCompressedBytes := 1
  archiveSha256 := zeroDigest
  fingerprintSha256 := zeroDigest
  report_isMapping := rfl
  report_isSha256 := zeroDigest_isSha256
  reportBytes_pos := inventoryJsonBytes_pos _
  archive_safe := onlyAuthority.archive.path_safe
  report_safe := onlyAuthority.preprocessReport.path_safe
  fingerprint_safe := onlyAuthority.fingerprint.path_safe
  documents_pos := Nat.two_pos
  cleanBytes_pos := Nat.two_pos
  exactTokens_pos := Nat.one_pos
  archiveBytes_pos := Nat.one_pos
  archive_isSha256 := zeroDigest_isSha256
  fingerprint_isSha256 := zeroDigest_isSha256
  reads := ⟨by decide, by decide, rfl, rfl, rfl, rfl, rfl, rfl, rfl, rfl, rfl,
    rfl⟩

/-- A tokenizer of two tokens. -/
def emptyRuntime : TokenizerRuntime where
  identity := ⟨zeroDigest, zeroDigest, 2, .object [
    ("repo_id", .str starcodeRepoId),
    ("resolved_revision", .str (String.ofList (List.replicate 40 '0'))),
    ("validation", .object [
      ("eos_token", .str "e"),
      ("eos_token_id", .int 1)])]⟩
  authority := onlyAuthority.tokenizer
  manifestSha256 := rfl
  vocabularySha256 := rfl
  vocabSize := rfl
  repoId := rfl
  revision := rfl
  validation := rfl
  eosToken := rfl
  eosTokenId := rfl

/-- The sources of that job. -/
def emptyRoots : CacheRoots where
  dataset _ := some [0#8]
  preprocess path :=
    if path = emptyJob.reportRelative then
      some (inventoryJsonBytes wholeFloats emptyReport)
    else some [0#8]

/-- One token. -/
def emptyTokens : List Byte := [0#8, 0#8]

/-- The offsets of an empty document and of one with a token. -/
def emptyOffsets : List Byte := encodeWords 8 [0, 0, 1]

/-- The manifest that the builder writes for these payloads. -/
def emptyManifest : JsonTree :=
  manifestPayload wholeFloats zeroSha256 emptyJob {} [] emptyRuntime
    (zeroSha256.digest emptyTokens) (zeroSha256.digest emptyOffsets)
    (minimumToken (decodeWords 2 emptyTokens))
    (maximumToken (decodeWords 2 emptyTokens)) zeroDigest [0#8].length

/-- The cache of an empty document and of one with a token. -/
def emptyCache : CacheContents :=
  ⟨[(tokenFile, some emptyTokens), (offsetFile, some emptyOffsets),
    (cacheManifestFile, some (inventoryJsonBytes wholeFloats emptyManifest)),
    (cacheSidecarFile, some (sidecarBytes zeroDigest cacheManifestFile))]⟩

theorem exists_emptyValidated :
    ∃ manifest, CacheValidated wholeFloats zeroSha256 emptyJob emptyRuntime
      emptyRoots emptyCache manifest := by
  obtain ⟨report, reportDecoded, reportSame, reportDistinct, -⟩ :=
    @exists_decoded wholeFloats emptyReport (by
      simp [emptyReport, isExact_object_iff, isExact_str, isExact_int])
  obtain ⟨manifest, decoded, same, distinct, canonical⟩ :=
    @exists_decoded wholeFloats emptyManifest isExact_manifestPayload
  have characters : 2 ≤ (emptyReport.write wholeFloats false ++
      ['\n']).length ∧ (emptyReport.write wholeFloats false ++
        ['\n']).length ≤ 1024 := by
    decide +kernel
  have lower := length_le_encodeUtf8
    (emptyReport.write wholeFloats false ++ ['\n'])
  have upper := length_encodeUtf8_le
    (emptyReport.write wholeFloats false ++ ['\n'])
  have isMapping (tree : JsonTree) (fields : List (String × JsonTree))
      (same : tree.Same (.object fields)) : tree.IsMapping := by
    obtain ⟨others, rfl⟩ := same.exists_fields
    rfl
  have reportFound : emptyRoots.preprocess emptyJob.reportRelative =
      some (inventoryJsonBytes wholeFloats emptyReport) := by
    unfold emptyRoots
    dsimp only
    rw [if_pos rfl]
  have other : emptyJob.fingerprintRelative ≠ emptyJob.reportRelative := by
    decide +kernel
  have fingerprintFound : emptyRoots.preprocess emptyJob.fingerprintRelative =
      some [0#8] := by
    unfold emptyRoots
    dsimp only
    rw [if_neg other]
  have verified : ReportVerified wholeFloats zeroSha256 emptyJob
      (inventoryJsonBytes wholeFloats emptyReport) report := by
    refine ⟨⟨characters.1.trans lower, ?_⟩, reportDecoded,
      isMapping _ _ reportSame, rfl, rfl, reportDistinct.equals reportSame⟩
    rw [maximumReportBytes]
    exact upper.trans (by omega)
  have read : ManifestRead wholeFloats zeroSha256 emptyCache
      (inventoryJsonBytes wholeFloats emptyManifest) manifest :=
    ⟨⟨fun _ => id, fun _ => id⟩, by decide, rfl, rfl, decoded,
      isMapping _ _ same, canonical⟩
  have scanned : hashOffsets 0 (-1) (decodeWords 8 emptyOffsets) =
      .ok (3, 1) := by
    have values : decodeWords 8 emptyOffsets = [0, 0, 1] := by decide +kernel
    rw [values, hashOffsets_eq_ok]
    decide
  exact ⟨manifest, .of_same distinct same ⟨_, report, reportFound, verified⟩
    read rfl rfl rfl fingerprintFound rfl zeroDigest_isSha256 rfl rfl
    (by decide +kernel) (by decide +kernel) (by decide +kernel) rfl
    (by decide +kernel) scanned⟩

end EmptyDocument

end CodingLlm
