import CodingLlm.Pretrain.CacheInventoryManifest

/-!
# Completed raw-token caches

`validate_completed_cache`, which rehashes a cache and its sources before the
cache is reused, and `_manifest_payload`, which the builder writes.  Files are
their bytes; SHA-256 and the text of floats are parameters.
-/

namespace CodingLlm

open JsonTree Words

/-- `RawTokenCacheError`. -/
def cacheError (text : String) : PyError := .runtimeError text

/-! ## Names -/

/-- `TOKEN_FILE`. -/
def tokenFile : String := "tokens.u16"

/-- `OFFSET_FILE`. -/
def offsetFile : String := "offsets.u64"

/-- `OUTPUT_FILES`. -/
def outputFiles : List String :=
  [tokenFile, offsetFile, cacheManifestFile, cacheSidecarFile]

/-- `ALIGNMENT_AUTHORITY`. -/
def alignmentAuthority : String :=
  "manifest-index+raw-manifest+preprocess-fingerprint"

/-- The name of the module in `builder`. -/
def cacheImplementation : String := "pretrain.raw_token_cache"

/-- `TOKENIZATION_CONTRACT`. -/
def tokenizationContract : JsonTree :=
  .object [
    ("added_special_tokens", .bool false),
    ("boundary_tokens", .bool false),
    ("document_order", .str "raw-internal-manifest-order"),
    ("document_selection", .str "all"),
    ("padding", .bool false),
    ("token_payload", .str "document-content-only"),
    ("truncation", .bool false)]

/-- The bound on the size of a report: `maximum_bytes` and
`MAX_REPORT_BYTES`. -/
def maximumReportBytes : Nat := 8 * 1024 * 1024

/-! ## Jobs -/

/-- What `load_cache_job` requires of a report. -/
structure ReportReads
    (report : JsonTree)
    (archive : String)
    (bucket : Bucket)
    (index documents cleanBytes exactTokens archiveBytes : Nat)
    (archiveSha256 fingerprintSha256 : String) : Prop where
  reportVersion : report.fieldEquals "report_version" (.int 1) = true
  fingerprintVersion : report.fieldEquals "fingerprint_version" (.int 1) = true
  archiveFound : report.field? "archive" = some (.str archive)
  bucketFound : report.field? "bucket" = some (.str bucket.name)
  indexFound : report.field? "index" = some (.int index)
  fingerprintFound : report.field? "fingerprint_file" =
    some (.str (expectedFingerprintPath bucket index))
  documentsFound : report.field? "documents" = some (.int documents)
  cleanBytesFound : report.field? "clean_bytes" = some (.int cleanBytes)
  exactTokensFound : report.field? "exact_tokens" = some (.int exactTokens)
  archiveBytesFound : report.field? "archive_compressed_bytes" =
    some (.int archiveBytes)
  archiveSha256Found : report.field? "archive_sha256" = some (.str archiveSha256)
  fingerprintSha256Found : report.field? "fingerprint_sha256" =
    some (.str fingerprintSha256)

/-- A job with what `load_cache_job` has checked; the paths of its report and
its fingerprints are the canonical ones. -/
structure CacheJob where
  report : JsonTree
  reportSha256 : String
  reportBytes : Nat
  archiveRelative : String
  bucket : Bucket
  index : Nat
  documents : Nat
  cleanBytes : Nat
  exactTokens : Nat
  archiveCompressedBytes : Nat
  archiveSha256 : String
  fingerprintSha256 : String
  report_isMapping : report.IsMapping
  report_isSha256 : IsSha256 reportSha256
  reportBytes_pos : 1 ≤ reportBytes
  archive_safe : SafeRelative archiveRelative
  report_safe : SafeRelative (expectedReportPath bucket index)
  fingerprint_safe : SafeRelative (expectedFingerprintPath bucket index)
  documents_pos : 1 ≤ documents
  cleanBytes_pos : 1 ≤ cleanBytes
  exactTokens_pos : 1 ≤ exactTokens
  archiveBytes_pos : 1 ≤ archiveCompressedBytes
  archive_isSha256 : IsSha256 archiveSha256
  fingerprint_isSha256 : IsSha256 fingerprintSha256
  reads : ReportReads report archiveRelative bucket index documents cleanBytes
    exactTokens archiveCompressedBytes archiveSha256 fingerprintSha256

namespace CacheJob

/-- `report_relative`. -/
def reportRelative (job : CacheJob) : String :=
  expectedReportPath job.bucket job.index

/-- `fingerprint_relative`. -/
def fingerprintRelative (job : CacheJob) : String :=
  expectedFingerprintPath job.bucket job.index

end CacheJob

/-- `TokenizerIdentity`. -/
structure TokenizerIdentity where
  manifestSha256 : String
  vocabularySha256 : String
  vocabSize : Nat
  manifest : JsonTree

/-- `TokenizerRuntime`, with what `_load_tokenizer_runtime` has checked: its
descriptor is that of an authority that agrees with the identity. -/
structure TokenizerRuntime where
  identity : TokenizerIdentity
  authority : TokenizerAuthority
  manifestSha256 : authority.manifestSha256 = identity.manifestSha256
  vocabularySha256 : authority.vocabularySha256 = identity.vocabularySha256
  vocabSize : authority.vocabSize = identity.vocabSize
  repoId : identity.manifest.field? "repo_id" = some (.str authority.repoId)
  revision : identity.manifest.field? "resolved_revision" =
    some (.str authority.resolvedRevision)
  validation : (getField identity.manifest "validation").IsMapping
  eosToken : (getField identity.manifest "validation").field? "eos_token" =
    some (.str authority.eosToken)
  eosTokenId : (getField identity.manifest "validation").field?
    "eos_token_id" = some (.int authority.eosTokenId)

/-- `descriptor`. -/
def TokenizerRuntime.descriptor (runtime : TokenizerRuntime) : JsonTree :=
  runtime.authority.descriptor

/-! ## Files -/

/-- The regular files under the two source roots, by relative paths. -/
structure CacheRoots where
  dataset : String -> Option (List Byte)
  preprocess : String -> Option (List Byte)

/-- The directory of a cache; `none` for what is no regular file. -/
structure CacheContents where
  files : List (String × Option (List Byte))

/-- The bytes of a regular file of a cache. -/
def CacheContents.file? (cache : CacheContents) (name : String) :
    Option (List Byte) :=
  (cache.files.lookup name).bind id

/-! ## Payloads -/

/-- The smallest of some tokens, counted from 65,536. -/
def minimumToken (values : List Nat) : Int :=
  values.foldl (fun smallest value => min smallest (value : Int)) 65536

/-- The largest of some tokens, counted from −1. -/
def maximumToken (values : List Nat) : Int :=
  values.foldl (fun largest value => max largest (value : Int)) (-1)

/-- The result of `_hash_u16_payload`. -/
structure TokenScan where
  sha256 : String
  items : Nat
  minimum : Int
  maximum : Int

/-- The result of `_hash_u64_offsets`. -/
structure OffsetScan where
  sha256 : String
  count : Nat
  terminal : Int

/-- `_hash_u16_payload`. -/
def hashU16Payload (sha256 : Sha256) (raw : List Byte) :
    Checked TokenScan := do
  let _ ← require (raw.length % 2 = 0)
    (cacheError "uint16 token payload has an odd byte length")
  let values := decodeWords 2 raw
  return ⟨sha256.digest raw, values.length, minimumToken values,
    maximumToken values⟩

/-- The loop of `_hash_u64_offsets`: the count and the last offset. -/
def hashOffsets : Nat -> Int -> List Nat -> Checked (Nat × Int)
  | count, previous, [] => return (count, previous)
  | count, previous, value :: values => do
      let _ ← require (¬ (count = 0 ∧ value ≠ 0))
        (cacheError "First document offset is not zero")
      let _ ← require (previous ≤ value)
        (cacheError "Document offsets are not monotonic")
      hashOffsets (count + 1) value values

/-- `_hash_u64_offsets`. -/
def hashU64Offsets (sha256 : Sha256) (raw : List Byte) :
    Checked OffsetScan := do
  let _ ← require (raw.length % 8 = 0)
    (cacheError "uint64 offset payload has an invalid byte length")
  let (count, previous) ← hashOffsets 0 (-1) (decodeWords 8 raw)
  return ⟨sha256.digest raw, count, previous⟩

/-! ## Descriptors -/

/-- `expected_tokens`. -/
def tokenDescriptor (scan : TokenScan) : JsonTree :=
  .object [
    ("path", .str tokenFile),
    ("dtype", .str "uint16"),
    ("endianness", .str "little"),
    ("items", .int scan.items),
    ("bytes", .int (scan.items * 2)),
    ("sha256", .str scan.sha256),
    ("minimum_id", .int scan.minimum),
    ("maximum_id", .int scan.maximum)]

/-- `expected_offsets`. -/
def offsetDescriptor (scan : OffsetScan) : JsonTree :=
  .object [
    ("path", .str offsetFile),
    ("dtype", .str "uint64"),
    ("endianness", .str "little"),
    ("items", .int scan.count),
    ("bytes", .int (scan.count * 8)),
    ("sha256", .str scan.sha256)]

/-- `expected_source`: the archive and the fingerprints with given sizes. -/
def sourceDescriptor
    (archive report fingerprint : String)
    (bucket : Bucket)
    (index archiveBytes reportBytes fingerprintBytes : Nat)
    (archiveSha256 reportSha256 fingerprintSha256 : String) : JsonTree :=
  .object [
    ("archive", .object [
      ("path", .str archive),
      ("bucket", .str bucket.name),
      ("index", .int index),
      ("bytes", .int archiveBytes),
      ("sha256", .str archiveSha256)]),
    ("preprocess_report", .object [
      ("path", .str report),
      ("bytes", .int reportBytes),
      ("sha256", .str reportSha256),
      ("report_version", .int 1)]),
    ("fingerprint", .object [
      ("path", .str fingerprint),
      ("bytes", .int fingerprintBytes),
      ("sha256", .str fingerprintSha256),
      ("fingerprint_version", .int 1)])]

/-- The keys of a cache manifest. -/
def cacheManifestKeys : List String :=
  ["format", "format_version", "profile", "cache_complete", "training_ready",
    "tokenization", "non_authorities", "source", "tokenizer", "documents",
    "payloads", "builder"]

/-- The keys of `builder`. -/
def cacheBuilderKeys : List String :=
  ["implementation", "implementation_sha256", "config", "config_sha256",
    "tokenization_contract_sha256"]

/-- `SHA256_RE.fullmatch(str(value))`: the `str` of a value other than a string
or an integer is never 64 hexadecimal digits. -/
def spellsSha256 (value : JsonTree) : Bool :=
  match value with
  | .scalar (.str text) => IsSha256 text
  | .scalar (.int number) => IsSha256 (String.ofList (writeInt number))
  | _ => false

section Validation

variable (floats : FloatText) (sha256 : Sha256)

/-- `TOKENIZATION_CONTRACT_SHA256`. -/
def tokenizationContractSha256 : String :=
  sha256.digest (encodeUtf8 (tokenizationContract.write floats true))

/-- `_canonical_sha256`. -/
def canonicalSha256 (payload : JsonTree) : String :=
  sha256.digest (inventoryJsonBytes floats payload)

/-! ## Validation -/

/-- `_verify_job_report`. -/
def verifyJobReport (job : CacheJob) (roots : CacheRoots) : Checked Unit := do
  let raw ← requireObject (roots.preprocess job.reportRelative)
    (cacheError "Cannot inspect preprocess report")
  let _ ← require (2 ≤ raw.length ∧ raw.length ≤ maximumReportBytes)
    (cacheError "Preprocess report has an unsafe size")
  let report ← requireObject ((decodeUtf8 raw).bind (loads floats))
    (cacheError "Invalid preprocess report")
  let _ ← require report.IsMapping
    (cacheError "Preprocess report root is not an object")
  let _ ← require
    (raw.length = job.reportBytes ∧ sha256.digest raw = job.reportSha256 ∧
      report.equals job.report = true)
    (cacheError "Preprocess report changed after cache job discovery")
  return ()

/-- `_read_manifest`. -/
def readCacheManifest (cache : CacheContents) : Checked JsonTree := do
  let _ ← require (SameMembers (cache.files.map Prod.fst) outputFiles)
    (cacheError "Completed cache file set mismatch")
  let _ ← require (∀ file ∈ cache.files, file.2.isSome)
    (cacheError "cache output is not a non-symlink regular file")
  let missing := cacheError "Cannot inspect cache output"
  let raw ← requireObject (cache.file? cacheManifestFile) missing
  let sidecar ← requireObject (cache.file? cacheSidecarFile) missing
  let _ ← require (sidecar = sidecarBytes (sha256.digest raw) cacheManifestFile)
    (cacheError "Cache manifest sidecar mismatch")
  let manifest ← requireObject ((decodeUtf8 raw).bind (loads floats))
    (cacheError "Invalid cache manifest")
  let _ ← require (manifest.IsMapping ∧
      inventoryJsonBytes floats manifest = raw)
    (cacheError "Cache manifest is not canonical JSON")
  return manifest

/-- The contract of a cache manifest. -/
def cacheContract (manifest : JsonTree) : Prop :=
  manifest.fieldEquals "format" (.str cacheFormat) ∧
    manifest.fieldEquals "format_version" (.int cacheFormatVersion) ∧
    manifest.fieldEquals "profile" (.str cacheProfile) ∧
    (manifest.field? "cache_complete").any isTrue ∧
    (manifest.field? "training_ready").any isFalse ∧
    manifest.fieldEquals "tokenization" tokenizationContract ∧
    manifest.fieldEquals "non_authorities"
      (.array (nonAuthorities.map JsonTree.str))

instance (manifest : JsonTree) : Decidable (cacheContract manifest) :=
  inferInstanceAs (Decidable (_ ∧ _ ∧ _ ∧ _ ∧ _ ∧ _ ∧ _))

/-- The totals of `documents`. -/
def documentTotals (documents : JsonTree) (records cleanBytes tokens : Nat) :
    Prop :=
  documents.fieldEquals "records" (.int records) ∧
    documents.fieldEquals "clean_bytes" (.int cleanBytes) ∧
    documents.fieldEquals "content_tokens" (.int tokens)

instance (documents : JsonTree) (records cleanBytes tokens : Nat) :
    Decidable (documentTotals documents records cleanBytes tokens) :=
  inferInstanceAs (Decidable (_ ∧ _ ∧ _))

/-- The totals of `alignment`. -/
def alignmentTotals (alignment : JsonTree) (records tokens : Nat) : Prop :=
  alignment.fieldEquals "authority" (.str alignmentAuthority) ∧
    alignment.fieldEquals "offset_items" (.int (records + 1)) ∧
    alignment.fieldEquals "offset_zero" (.int 0) ∧
    alignment.fieldEquals "terminal_offset" (.int tokens)

instance (alignment : JsonTree) (records tokens : Nat) :
    Decidable (alignmentTotals alignment records tokens) :=
  inferInstanceAs (Decidable (_ ∧ _ ∧ _ ∧ _))

/-- `validate_completed_cache`. -/
def validateCompletedCache
    (job : CacheJob)
    (runtime : TokenizerRuntime)
    (roots : CacheRoots)
    (cache : CacheContents) : Checked JsonTree := do
  verifyJobReport floats sha256 job roots
  let manifest ← readCacheManifest floats sha256 cache
  let _ ← require (manifest.HasExactly cacheManifestKeys)
    (cacheError "Cache manifest top-level schema mismatch")
  let _ ← require (cacheContract manifest)
    (cacheError "Cache manifest contract mismatch")
  let _ ← require (manifest.fieldEquals "tokenizer" runtime.descriptor)
    (cacheError "Cache tokenizer identity mismatch")
  let archive ← requireObject (roots.dataset job.archiveRelative)
    (cacheError "Cannot inspect raw archive")
  let fingerprint ← requireObject (roots.preprocess job.fingerprintRelative)
    (cacheError "Cannot inspect fingerprint shard")
  let _ ← require (manifest.fieldEquals "source" (sourceDescriptor
      job.archiveRelative job.reportRelative job.fingerprintRelative job.bucket
      job.index archive.length job.reportBytes fingerprint.length
      (sha256.digest archive) job.reportSha256 (sha256.digest fingerprint)))
    (cacheError "Cache source identity mismatch")
  let _ ← require (sha256.digest archive = job.archiveSha256 ∧
      sha256.digest fingerprint = job.fingerprintSha256)
    (cacheError
      "Current source checksum differs from preprocess authority")
  let documents := getField manifest "documents"
  let _ ← require documents.IsMapping
    (cacheError "Cache document descriptor is invalid")
  let _ ← require (documentTotals documents job.documents job.cleanBytes
      job.exactTokens)
    (cacheError "Cache document totals mismatch")
  let alignment := getField documents "alignment"
  let _ ← require (alignment.IsMapping ∧
      alignmentTotals alignment job.documents job.exactTokens ∧
      spellsSha256 (getField alignment "record_sha256") = true)
    (cacheError "Cache alignment authority mismatch")
  let payloads := getField manifest "payloads"
  let _ ← require (payloads.HasExactly ["tokens", "offsets"])
    (cacheError "Cache payload inventory mismatch")
  let missing := cacheError "Cannot inspect cache payload"
  let tokens ← requireObject (cache.file? tokenFile) missing
  let tokenScan ← hashU16Payload sha256 tokens
  let offsets ← requireObject (cache.file? offsetFile) missing
  let offsetScan ← hashU64Offsets sha256 offsets
  let _ ← require
    (payloads.fieldEquals "tokens" (tokenDescriptor tokenScan) ∧
      payloads.fieldEquals "offsets" (offsetDescriptor offsetScan))
    (cacheError "Cache payload descriptor/checksum mismatch")
  let _ ← require
    (tokenScan.items = job.exactTokens ∧ offsetScan.count = job.documents + 1 ∧
      offsetScan.terminal = job.exactTokens ∧ 0 ≤ tokenScan.minimum ∧
      tokenScan.maximum < runtime.identity.vocabSize)
    (cacheError "Cache payload count/range invariant mismatch")
  let builder := getField manifest "builder"
  let _ ← require (builder.HasExactly cacheBuilderKeys)
    (cacheError "Cache builder identity is invalid")
  let _ ← require
    (builder.fieldEquals "implementation" (.str cacheImplementation) ∧
      spellsSha256 (getField builder "implementation_sha256") = true ∧
      builder.fieldEquals "config_sha256"
        (.str (canonicalSha256 floats sha256 (getField builder "config"))) ∧
      builder.fieldEquals "tokenization_contract_sha256"
        (.str (tokenizationContractSha256 floats sha256)))
    (cacheError "Cache builder/config digest mismatch")
  return manifest

/-! ## What the builder writes -/

/-- `CacheConfig`. -/
structure CacheConfig where
  expectedVocabSize : Nat := 49152
  maxDocumentsPerArchive : Nat := 2000000
  maxDocumentBytes : Nat := 16 * 1024 * 1024
  maxDocumentTokens : Nat := 8 * 1024 * 1024
  tokenizerBatchDocuments : Nat := 64
  tokenizerBatchBytes : Nat := 32 * 1024 * 1024
  tokenizerBatchTokens : Nat := 2 * 1024 * 1024
  maxManifestMemberBytes : Nat := 8 * 1024 * 1024 * 1024
  maxJsonLineBytes : Nat := 1024 * 1024
  minimumFreeBytes : Nat := 10 * 1024 * 1024 * 1024

/-- `identity_payload`. -/
def CacheConfig.identityPayload (config : CacheConfig) : JsonTree :=
  .object [
    ("expected_vocab_size", .int config.expectedVocabSize),
    ("max_document_bytes", .int config.maxDocumentBytes),
    ("max_document_tokens", .int config.maxDocumentTokens),
    ("max_documents_per_archive", .int config.maxDocumentsPerArchive),
    ("max_json_line_bytes", .int config.maxJsonLineBytes),
    ("max_manifest_member_bytes", .int config.maxManifestMemberBytes),
    ("minimum_free_bytes", .int config.minimumFreeBytes),
    ("tokenizer_batch_bytes", .int config.tokenizerBatchBytes),
    ("tokenizer_batch_documents", .int config.tokenizerBatchDocuments),
    ("tokenizer_batch_tokens", .int config.tokenizerBatchTokens)]

/-- `_builder_descriptor`, for the bytes of the module. -/
def builderDescriptor (config : CacheConfig) (implementation : List Byte) :
    JsonTree :=
  .object [
    ("implementation", .str cacheImplementation),
    ("implementation_sha256", .str (sha256.digest implementation)),
    ("config", config.identityPayload),
    ("config_sha256",
      .str (canonicalSha256 floats sha256 config.identityPayload)),
    ("tokenization_contract_sha256",
      .str (tokenizationContractSha256 floats sha256))]

/-- `_manifest_payload`. -/
def manifestPayload
    (job : CacheJob)
    (config : CacheConfig)
    (implementation : List Byte)
    (runtime : TokenizerRuntime)
    (tokensSha256 offsetsSha256 : String)
    (minimumTokenId maximumTokenId : Int)
    (alignmentSha256 : String)
    (fingerprintBytes : Nat) : JsonTree :=
  .object [
    ("format", .str cacheFormat),
    ("format_version", .int cacheFormatVersion),
    ("profile", .str cacheProfile),
    ("cache_complete", .bool true),
    ("training_ready", .bool false),
    ("tokenization", tokenizationContract),
    ("non_authorities", .array (nonAuthorities.map JsonTree.str)),
    ("source", sourceDescriptor job.archiveRelative job.reportRelative
      job.fingerprintRelative job.bucket job.index job.archiveCompressedBytes
      job.reportBytes fingerprintBytes job.archiveSha256 job.reportSha256
      job.fingerprintSha256),
    ("tokenizer", runtime.descriptor),
    ("documents", .object [
      ("records", .int job.documents),
      ("clean_bytes", .int job.cleanBytes),
      ("content_tokens", .int job.exactTokens),
      ("alignment", .object [
        ("authority", .str alignmentAuthority),
        ("record_sha256", .str alignmentSha256),
        ("offset_items", .int (job.documents + 1)),
        ("offset_zero", .int 0),
        ("terminal_offset", .int job.exactTokens)])]),
    ("payloads", .object [
      ("tokens", tokenDescriptor
        ⟨tokensSha256, job.exactTokens, minimumTokenId, maximumTokenId⟩),
      ("offsets", offsetDescriptor
        ⟨offsetsSha256, job.documents + 1, job.exactTokens⟩)]),
    ("builder", builderDescriptor floats sha256 config implementation)]

end Validation

end CodingLlm
