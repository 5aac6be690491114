import CodingLlm.Pretrain.RawTokenCache

/-!
# The reader of raw-token caches

`RawTokenCacheReader` up to the end of its constructor: the manifest, the
sources, the tokenizer and both payloads are authenticated, and the
fingerprints are replayed against the offsets.  Decompression is a parameter.
-/

namespace CodingLlm

open JsonTree Words

/-- `MAX_MANIFEST_BYTES`. -/
def maximumCacheManifestBytes : Nat := 4 * 1024 * 1024

/-- `MAX_FINGERPRINT_LINE_BYTES`. -/
def maximumFingerprintLineBytes : Nat := 1024 * 1024

/-- What an opened reader holds. -/
structure CacheReader where
  manifest : JsonTree
  tokens : List Byte
  offsets : List Byte

/-- `document_offsets`, on the bytes of the offsets. -/
def documentOffsets (offsets : List Byte) (index : Nat) : Nat × Nat :=
  let values := decodeWords 8 offsets
  (values.getD index 0, values.getD (index + 1) 0)

/-! ## Lines -/

/-- `b"\n"`. -/
def newline : Byte := 10#8

/-- The bytes that `bytes.strip` removes. -/
def isSpaceByte (byte : Byte) : Bool :=
  byte = 32#8 || (9 ≤ byte.toNat && byte.toNat ≤ 13)

/-- `readline(limit)`: the line, and what follows it. -/
def readLine (limit : Nat) (text : List Byte) : List Byte × List Byte :=
  let window := text.take limit
  let front := window.takeWhile (· ≠ newline)
  let line := front ++ (window.drop front.length).take 1
  (line, text.drop line.length)

/-! ## Scans -/

/-- The loop of `_scan_offsets`: the last offset. -/
def scanOffsets : Nat -> Int -> List Nat -> Checked Int
  | _, previous, [] => return previous
  | index, previous, value :: values => do
      if index = 0 then
        let _ ← require (value = 0)
          (cacheReadError "First document offset is not zero")
        scanOffsets (index + 1) value values
      else
        let _ ← require (previous < value)
          (cacheReadError "Document offsets are not strictly increasing")
        scanOffsets (index + 1) value values

section Reader

variable (floats : FloatText) (sha256 : Sha256)

/-! ## The manifest -/

/-- `_validate_payload_descriptors`. -/
def validatePayloadDescriptors
    (authority : RawTokenCacheAuthority)
    (payloads : JsonTree) : Checked Unit := do
  let _ ← require (payloads.HasExactly ["tokens", "offsets"])
    (cacheReadError "Cache payload inventory mismatch")
  let tokens := getField payloads "tokens"
  let offsets := getField payloads "offsets"
  let _ ← require (tokens.HasExactly ["path", "dtype", "endianness", "items",
      "bytes", "sha256", "minimum_id", "maximum_id"])
    (cacheReadError "Token payload schema mismatch")
  let _ ← require
    (tokens.fieldEquals "path" (.str tokenFile) ∧
      tokens.fieldEquals "dtype" (.str "uint16") ∧
      tokens.fieldEquals "endianness" (.str "little") ∧
      tokens.fieldEquals "items" (.int authority.contentTokens) ∧
      tokens.fieldEquals "bytes" (.int (authority.contentTokens * 2)))
    (cacheReadError "Token payload dtype/count/order mismatch")
  let _ ← requireSha256Field tokens "sha256"
  let range := cacheReadError "Token payload ID range is invalid"
  let minimum ← requireObject ((tokens.field? "minimum_id").bind int?) range
  let maximum ← requireObject ((tokens.field? "maximum_id").bind int?) range
  let _ ← require (0 ≤ minimum ∧ minimum ≤ maximum ∧
      maximum < authority.tokenizer.vocabSize) range
  let _ ← require (offsets.HasExactly
      ["path", "dtype", "endianness", "items", "bytes", "sha256"])
    (cacheReadError "Offset payload schema mismatch")
  let _ ← require
    (offsets.fieldEquals "path" (.str offsetFile) ∧
      offsets.fieldEquals "dtype" (.str "uint64") ∧
      offsets.fieldEquals "endianness" (.str "little") ∧
      offsets.fieldEquals "items" (.int (authority.records + 1)) ∧
      offsets.fieldEquals "bytes" (.int ((authority.records + 1) * 8)))
    (cacheReadError "Offset payload dtype/count/order mismatch")
  let _ ← requireSha256Field offsets "sha256"
  return ()

/-- `_validate_builder`. -/
def validateBuilder (builder : JsonTree) : Checked Unit := do
  let _ ← require (builder.HasExactly cacheBuilderKeys)
    (cacheReadError "Cache builder schema mismatch")
  let _ ← require (builder.fieldEquals "implementation"
      (.str cacheImplementation))
    (cacheReadError "Unknown cache builder implementation")
  let _ ← requireSha256Field builder "implementation_sha256"
  let config := getField builder "config"
  let _ ← require (config.IsMapping ∧ config.names ≠ [])
    (cacheReadError "Cache builder config is invalid")
  let _ ← require (builder.fieldEquals "config_sha256"
      (.str (canonicalSha256 floats sha256 config)))
    (cacheReadError "Cache builder config digest mismatch")
  let _ ← require (builder.fieldEquals "tokenization_contract_sha256"
      (.str (tokenizationContractSha256 floats sha256)))
    (cacheReadError "Cache tokenization contract digest mismatch")
  return ()

/-- `_validate_manifest`. -/
def validateManifest
    (authority : RawTokenCacheAuthority)
    (manifest : JsonTree) : Checked Unit := do
  let _ ← require (manifest.HasExactly cacheManifestKeys)
    (cacheReadError "Cache manifest top-level schema mismatch")
  let _ ← require (cacheContract manifest)
    (cacheReadError "Cache semantic format/profile mismatch")
  let _ ← require (manifest.fieldEquals "source" (sourceDescriptor
      authority.archive.path authority.preprocessReport.path
      authority.fingerprint.path authority.archive.bucket
      authority.archive.index authority.archive.bytes
      authority.preprocessReport.bytes authority.fingerprint.bytes
      authority.archive.sha256 authority.preprocessReport.sha256
      authority.fingerprint.sha256))
    (cacheReadError "Cache source binding mismatch")
  let _ ← require (manifest.fieldEquals "tokenizer"
      authority.tokenizer.descriptor)
    (cacheReadError "Cache tokenizer binding mismatch")
  let documents := getField manifest "documents"
  let _ ← require (documents.HasExactly
      ["records", "clean_bytes", "content_tokens", "alignment"])
    (cacheReadError "Cache document schema mismatch")
  let _ ← require (documentTotals documents authority.records
      authority.cleanBytes authority.contentTokens)
    (cacheReadError "Cache document totals mismatch")
  let alignment := getField documents "alignment"
  let _ ← require (alignment.HasExactly ["authority", "record_sha256",
      "offset_items", "offset_zero", "terminal_offset"])
    (cacheReadError "Cache alignment schema mismatch")
  let _ ← require (alignmentTotals alignment authority.records
      authority.contentTokens)
    (cacheReadError "Cache alignment totals mismatch")
  let _ ← requireSha256Field alignment "record_sha256"
  validatePayloadDescriptors authority (getField manifest "payloads")
  validateBuilder floats sha256 (getField manifest "builder")

/-! ## Sources -/

/-- `_validate_preprocess_report`. -/
def validatePreprocessReport
    (authority : RawTokenCacheAuthority)
    (raw : List Byte) : Checked Unit := do
  let report ← requireObject ((decodeUtf8 raw).bind (loads floats))
    (cacheReadError "Invalid preprocess report")
  let _ ← require report.IsMapping
    (cacheReadError "Preprocess report root is not an object")
  let _ ← require
    (report.fieldEquals "report_version" (.int 1) ∧
      report.fieldEquals "fingerprint_version" (.int 1) ∧
      report.fieldEquals "archive" (.str authority.archive.path) ∧
      report.fieldEquals "archive_sha256" (.str authority.archive.sha256) ∧
      report.fieldEquals "archive_compressed_bytes"
        (.int authority.archive.bytes) ∧
      report.fieldEquals "bucket" (.str authority.archive.bucket.name) ∧
      report.fieldEquals "index" (.int authority.archive.index) ∧
      report.fieldEquals "fingerprint_file"
        (.str authority.fingerprint.path) ∧
      report.fieldEquals "fingerprint_sha256"
        (.str authority.fingerprint.sha256) ∧
      report.fieldEquals "documents" (.int authority.records) ∧
      report.fieldEquals "clean_bytes" (.int authority.cleanBytes) ∧
      report.fieldEquals "exact_tokens" (.int authority.contentTokens))
    (cacheReadError "Preprocess report binding mismatch")
  return ()

/-- `_authenticate_source_files`: the bytes of the fingerprints. -/
def authenticateSourceFiles
    (authority : RawTokenCacheAuthority)
    (roots : CacheRoots) : Checked (List Byte) := do
  let missing := cacheReadError "Missing source file"
  let archive ← requireObject (roots.dataset authority.archive.path) missing
  let report ← requireObject
    (roots.preprocess authority.preprocessReport.path) missing
  let fingerprint ← requireObject
    (roots.preprocess authority.fingerprint.path) missing
  let _ ← require (archive.length = authority.archive.bytes)
    (cacheReadError "raw archive byte count mismatch")
  let _ ← require (sha256.digest archive = authority.archive.sha256)
    (cacheReadError "raw archive SHA-256 mismatch")
  let _ ← require (report.length = authority.preprocessReport.bytes)
    (cacheReadError "preprocess report byte count mismatch")
  let _ ← require (report.length ≤ maximumReportBytes)
    (cacheReadError "preprocess report exceeds its safety bound")
  let _ ← require (sha256.digest report = authority.preprocessReport.sha256)
    (cacheReadError "preprocess report SHA-256 mismatch")
  validatePreprocessReport floats authority report
  let _ ← require (fingerprint.length = authority.fingerprint.bytes)
    (cacheReadError "Fingerprint byte count mismatch")
  return fingerprint

/-- `verify_tokenizer_identity` with expectations, on what it finds without
them. -/
def verifyTokenizerIdentity
    (root : Checked TokenizerIdentity)
    (manifestSha256 vocabularySha256 : String)
    (vocabSize : Nat) : Checked TokenizerIdentity := do
  let identity ← root
  let _ ← require
    (identity.manifestSha256 = manifestSha256 ∧
      identity.vocabSize = vocabSize ∧
      identity.vocabularySha256 = vocabularySha256)
    (cacheReadError "Tokenizer authentication failed")
  return identity

/-- `_authenticate_tokenizer`. -/
def authenticateTokenizer
    (root : Checked TokenizerIdentity)
    (tokenizer : TokenizerAuthority) : Checked Unit := do
  let identity ← verifyTokenizerIdentity root tokenizer.manifestSha256
    tokenizer.vocabularySha256 tokenizer.vocabSize
  let validation := getField identity.manifest "validation"
  let _ ← require
    (identity.manifest.fieldEquals "repo_id" (.str tokenizer.repoId) ∧
      identity.manifest.fieldEquals "resolved_revision"
        (.str tokenizer.resolvedRevision) ∧
      validation.IsMapping ∧
      validation.fieldEquals "eos_token" (.str tokenizer.eosToken) ∧
      validation.fieldEquals "eos_token_id" (.int tokenizer.eosTokenId))
    (cacheReadError "Tokenizer semantic identity mismatch")
  return ()

/-! ## Payloads -/

/-- `_open_and_validate_payloads`. -/
def openAndValidatePayloads
    (authority : RawTokenCacheAuthority)
    (cache : CacheContents)
    (manifest : JsonTree) : Checked CacheReader := do
  let missing := cacheReadError "Cannot open payload"
  let tokens ← requireObject (cache.file? tokenFile) missing
  let offsets ← requireObject (cache.file? offsetFile) missing
  let _ ← require (tokens.length = authority.contentTokens * 2)
    (cacheReadError "Token payload byte count mismatch")
  let _ ← require (offsets.length = (authority.records + 1) * 8)
    (cacheReadError "Offset payload byte count mismatch")
  let values := decodeWords 2 tokens
  let _ ← require (minimumToken values ≤ maximumToken values ∧
      maximumToken values < authority.tokenizer.vocabSize)
    (cacheReadError "Token payload contains invalid IDs")
  let last ← scanOffsets 0 (-1) (decodeWords 8 offsets)
  let _ ← require (last = authority.contentTokens)
    (cacheReadError "Terminal document offset mismatch")
  let payloads := getField manifest "payloads"
  let described := getField payloads "tokens"
  let _ ← require
    (described.fieldEquals "sha256" (.str (sha256.digest tokens)) ∧
      described.fieldEquals "minimum_id" (.int (minimumToken values)) ∧
      described.fieldEquals "maximum_id" (.int (maximumToken values)))
    (cacheReadError "Token payload hash/range corruption")
  let _ ← require ((getField payloads "offsets").fieldEquals "sha256"
      (.str (sha256.digest offsets)))
    (cacheReadError "Offset payload hash corruption")
  return ⟨manifest, tokens, offsets⟩

/-! ## Fingerprints -/

/-- What the reader takes from a row of the fingerprints. -/
structure DocumentRow where
  memberPath : String
  contentSha256 : String
  sizeBytes : Nat
  tokens : Nat

/-- What a row binds. -/
def rowBinding
    (archive : ArchiveAuthority)
    (index : Nat)
    (memberPath : String)
    (row : JsonTree) : Prop :=
  row.fieldEquals "record_version" (.int 1) ∧
    row.fieldEquals "fingerprint_version" (.int 1) ∧
    row.fieldEquals "archive" (.str archive.path) ∧
    row.fieldEquals "archive_index" (.int archive.index) ∧
    row.fieldEquals "bucket" (.str archive.bucket.name) ∧
    row.fieldEquals "manifest_index" (.int index) ∧
    row.fieldEquals "doc_id" (.str (sha256.digest
      (encodeUtf8 (archive.path ++ "\x00" ++ memberPath).toList)))

instance (archive : ArchiveAuthority) (index : Nat) (memberPath : String)
    (row : JsonTree) : Decidable (rowBinding sha256 archive index memberPath row) :=
  inferInstanceAs (Decidable (_ ∧ _ ∧ _ ∧ _ ∧ _ ∧ _ ∧ _))

/-- One row of the fingerprints. -/
def readRow
    (archive : ArchiveAuthority)
    (index : Nat)
    (line : List Byte) : Checked DocumentRow := do
  let _ ← require (line ≠ []) (cacheReadError "Fingerprint has too few rows")
  let _ ← require (line.length ≤ maximumFingerprintLineBytes)
    (cacheReadError "Fingerprint row exceeds safety bound")
  let _ ← require (line.getLast? = some newline ∧
      ∃ byte ∈ line, isSpaceByte byte = false)
    (cacheReadError "Fingerprint contains a blank or unterminated row")
  let row ← requireObject ((decodeUtf8 line).bind (loads floats))
    (cacheReadError "Invalid fingerprint row")
  let _ ← require row.IsMapping
    (cacheReadError "Fingerprint row is not an object")
  let unsafePath := cacheReadError "Unsafe fingerprint member_path"
  let memberPath ← requireObject ((row.field? "member_path").bind str?)
    unsafePath
  let _ ← require (SafeRelative memberPath) unsafePath
  let _ ← require (rowBinding sha256 archive index memberPath row)
    (cacheReadError "Fingerprint manifest order/identity mismatch")
  let sizeBytes ← requirePositiveField row "size_bytes"
  let tokens ← requirePositiveField row "starcoder2_tokens"
  let contentSha256 ← requireSha256Field row "content_sha256"
  return ⟨memberPath, contentSha256, sizeBytes, tokens⟩

/-- What the alignment digest takes from a row. -/
def alignmentBytes (index : Nat) (row : DocumentRow) (span : Nat × Nat) :
    List Byte :=
  inventoryJsonBytes floats (.object [
    ("manifest_index", .int index),
    ("member_path", .str row.memberPath),
    ("content_sha256", .str row.contentSha256),
    ("token_start", .int span.1),
    ("token_end", .int span.2)])

/-- The state of the loop over the fingerprints. -/
structure AlignmentState where
  text : List Byte
  alignment : List Byte
  records : Nat
  cleanBytes : Nat
  contentTokens : Nat

/-- The loop of `_validate_fingerprint_alignment`. -/
def alignRows (archive : ArchiveAuthority) (offsets : List Byte) :
    (remaining index : Nat) -> AlignmentState -> Checked AlignmentState
  | 0, _, state => return state
  | remaining + 1, index, state => do
      let (line, text) := readLine (maximumFingerprintLineBytes + 1) state.text
      let row ← readRow floats sha256 archive index line
      let span := documentOffsets offsets index
      let _ ← require ((span.2 : Int) - span.1 = row.tokens)
        (cacheReadError "Fingerprint/cache token-span mismatch")
      alignRows archive offsets remaining (index + 1) ⟨text,
        state.alignment ++ alignmentBytes floats index row span,
        state.records + 1, state.cleanBytes + row.sizeBytes,
        state.contentTokens + row.tokens⟩

/-- `_validate_fingerprint_alignment`. -/
def validateFingerprintAlignment
    (decompress : List Byte -> Option (List Byte))
    (authority : RawTokenCacheAuthority)
    (fingerprint : List Byte)
    (reader : CacheReader) : Checked Unit := do
  let text ← requireObject (decompress fingerprint)
    (cacheReadError "Corrupt fingerprint shard")
  let state ← alignRows floats sha256 authority.archive reader.offsets
    authority.records 0 ⟨text, [], 0, 0, 0⟩
  let _ ← require
    ((readLine (maximumFingerprintLineBytes + 1) state.text).1 = [])
    (cacheReadError "Fingerprint has too many rows")
  let _ ← require (sha256.digest fingerprint = authority.fingerprint.sha256)
    (cacheReadError "Fingerprint SHA-256 mismatch")
  let _ ← require
    (state.records = authority.records ∧
      state.cleanBytes = authority.cleanBytes ∧
      state.contentTokens = authority.contentTokens)
    (cacheReadError "Fingerprint aggregate totals mismatch")
  let alignment := getField (getField reader.manifest "documents") "alignment"
  let _ ← require (alignment.fieldEquals "record_sha256"
      (.str (sha256.digest state.alignment)))
    (cacheReadError "Fingerprint/cache alignment digest mismatch")
  return ()

/-- `RawTokenCacheReader.__init__`. -/
def openCache
    (decompress : List Byte -> Option (List Byte))
    (authority : RawTokenCacheAuthority)
    (roots : CacheRoots)
    (tokenizerRoot : Checked TokenizerIdentity)
    (cache : CacheContents) : Checked CacheReader := do
  let _ ← require (SameMembers (cache.files.map Prod.fst) outputFiles)
    (cacheReadError "Cache directory closed-world inventory mismatch")
  let missing := cacheReadError "Cannot open cache file"
  let manifestRaw ← requireObject (cache.file? cacheManifestFile) missing
  let _ ← require (1 ≤ manifestRaw.length ∧
      manifestRaw.length ≤ maximumCacheManifestBytes)
    (cacheReadError "cache manifest size is outside its safety bound")
  let _ ← require
    (manifestRaw.length = authority.cacheManifestBytes ∧
      sha256.digest manifestRaw = authority.cacheManifestSha256)
    (cacheReadError "Wrong cache generation/manifest identity")
  let sidecarRaw ← requireObject (cache.file? cacheSidecarFile) missing
  let _ ← require (1 ≤ sidecarRaw.length ∧
      sidecarRaw.length ≤ maximumSidecarBytes)
    (cacheReadError "cache manifest sidecar size is outside its safety bound")
  let _ ← require (sidecarRaw =
      sidecarBytes authority.cacheManifestSha256 cacheManifestFile)
    (cacheReadError "Cache manifest sidecar mismatch")
  let manifest ← requireObject ((decodeUtf8 manifestRaw).bind (loads floats))
    (cacheReadError "Invalid cache manifest JSON")
  let _ ← require (manifest.IsMapping ∧
      inventoryJsonBytes floats manifest = manifestRaw)
    (cacheReadError "Cache manifest is not canonical JSON")
  validateManifest floats sha256 authority manifest
  let fingerprint ← authenticateSourceFiles floats sha256 authority roots
  authenticateTokenizer tokenizerRoot authority.tokenizer
  let reader ← openAndValidatePayloads sha256 authority cache manifest
  validateFingerprintAlignment floats sha256 decompress authority fingerprint
    reader
  return reader

end Reader

end CodingLlm
