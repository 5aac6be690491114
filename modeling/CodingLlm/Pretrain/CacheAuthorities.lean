import CodingLlm.Pretrain.GeometryWaiver
import CodingLlm.Scripts.PublishAllEligible

/-!
# Authorities of raw-token caches

`FileAuthority`, `ArchiveAuthority`, `TokenizerAuthority` and
`RawTokenCacheAuthority`: what a caller must know of a cache before it is
opened.  Their constructors check every field, and their dictionaries are read
back only as themselves.
-/

namespace CodingLlm

open JsonTree

/-- `RawTokenCacheReadError`. -/
def cacheReadError (text : String) : PyError := .runtimeError text

/-! ## Fields -/

/-- `_safe_relative`: no empty part, no `.` and no `..`, except that the path
`.` has no parts. -/
def SafeRelative (value : String) : Prop :=
  value ≠ "" ∧ '\x5c' ∉ value.toList ∧ '\x00' ∉ value.toList ∧
    (value = "." ∨ ∀ part ∈ value.toList.splitOn '/',
      part ≠ [] ∧ part ≠ ['.'] ∧ part ≠ ['.', '.'])

instance (value : String) : Decidable (SafeRelative value) :=
  inferInstanceAs (Decidable (_ ∧ _ ∧ _ ∧ (_ ∨ _)))

/-- `f"{index:06d}"`. -/
def sixDigits (index : Nat) : String :=
  let digits := Nat.toDigits 10 index
  String.ofList (List.replicate (6 - digits.length) '0' ++ digits)

/-- `f"part-{index:06d}"`. -/
def partName (index : Nat) : String := "part-" ++ sixDigits index

/-- `BUCKET_ARCHIVE_DIRECTORIES`. -/
def Bucket.archiveDirectory : Bucket -> String
  | .python => "raw/python"
  | .otherCode => "raw/other_code"
  | .finewebEdu => "raw/english/fineweb_edu"
  | .wikipedia => "raw/english/wikipedia"

/-! ## Files -/

/-- A file by its path, size and digest. -/
structure FileAuthority where
  path : String
  bytes : Nat
  sha256 : String
  path_safe : SafeRelative path
  bytes_pos : 1 ≤ bytes
  isSha256 : IsSha256 sha256
  deriving DecidableEq

/-- `FileAuthority(path, bytes, sha256)`. -/
def FileAuthority.of (path : String) (bytes : Int) (sha256 : String) :
    Checked FileAuthority :=
  if safe : SafeRelative path then
    if positive : 1 ≤ bytes then
      if digest : IsSha256 sha256 then
        .ok ⟨path, bytes.toNat, sha256, safe, Int.lt_toNat.mpr positive, digest⟩
      else .error (cacheReadError
        "source SHA-256 must be a lowercase SHA-256 digest")
    else .error (cacheReadError "source bytes must be a positive integer")
  else .error (cacheReadError "Unsafe source path")

/-- `asdict(file)`. -/
def FileAuthority.asdict (file : FileAuthority) : JsonTree :=
  .object [
    ("path", .str file.path),
    ("bytes", .int file.bytes),
    ("sha256", .str file.sha256)]

theorem FileAuthority.of_eq_ok
    {path sha256 : String} {bytes : Int} {file : FileAuthority} :
    FileAuthority.of path bytes sha256 = .ok file ↔
      file.path = path ∧ (file.bytes : Int) = bytes ∧ file.sha256 = sha256 := by
  unfold FileAuthority.of
  constructor
  · intro built
    split at built
    · split at built
      · split at built
        · cases built
          exact ⟨rfl, Int.toNat_of_nonneg (by omega), rfl⟩
        · cases built
      · cases built
    · cases built
  · rintro ⟨rfl, rfl, rfl⟩
    have positive := file.bytes_pos
    rw [dif_pos file.path_safe, dif_pos (by omega), dif_pos file.isSha256]
    simp

/-! ## Archives -/

/-- A raw archive. -/
structure ArchiveAuthority where
  path : String
  bucket : Bucket
  index : Nat
  bytes : Nat
  sha256 : String
  path_safe : SafeRelative path
  bytes_pos : 1 ≤ bytes
  isSha256 : IsSha256 sha256
  deriving DecidableEq

/-- `ArchiveAuthority(path, bucket, index, bytes, sha256)`. -/
def ArchiveAuthority.of
    (path bucket : String)
    (index bytes : Int)
    (sha256 : String) : Checked ArchiveAuthority :=
  if safe : SafeRelative path then
    match Bucket.ofName? bucket with
    | none => .error (cacheReadError "Unsupported archive bucket")
    | some bucket =>
        if 0 ≤ index then
          if positive : 1 ≤ bytes then
            if digest : IsSha256 sha256 then
              .ok ⟨path, bucket, index.toNat, bytes.toNat, sha256, safe,
                Int.lt_toNat.mpr positive, digest⟩
            else .error (cacheReadError
              "archive SHA-256 must be a lowercase SHA-256 digest")
          else .error (cacheReadError
            "archive bytes must be a positive integer")
        else .error (cacheReadError
          "Archive index must be a non-negative integer")
  else .error (cacheReadError "Unsafe archive path")

/-- `asdict(archive)`. -/
def ArchiveAuthority.asdict (archive : ArchiveAuthority) : JsonTree :=
  .object [
    ("path", .str archive.path),
    ("bucket", .str archive.bucket.name),
    ("index", .int archive.index),
    ("bytes", .int archive.bytes),
    ("sha256", .str archive.sha256)]

theorem Bucket.ofName?_eq_some {name : String} {bucket : Bucket} :
    Bucket.ofName? name = some bucket ↔ name = bucket.name := by
  constructor
  · intro found
    have named := List.find?_some found
    exact (of_decide_eq_true named).symm
  · rintro rfl
    cases bucket <;> decide

theorem ArchiveAuthority.of_eq_ok
    {path bucket sha256 : String} {index bytes : Int}
    {archive : ArchiveAuthority} :
    ArchiveAuthority.of path bucket index bytes sha256 = .ok archive ↔
      archive.path = path ∧ archive.bucket.name = bucket ∧
        (archive.index : Int) = index ∧ (archive.bytes : Int) = bytes ∧
          archive.sha256 = sha256 := by
  unfold ArchiveAuthority.of
  constructor
  · intro built
    split at built
    · split at built
      · cases built
      · next found =>
          split at built
          · split at built
            · split at built
              · cases built
                exact ⟨rfl, (Bucket.ofName?_eq_some.mp found).symm,
                  Int.toNat_of_nonneg ‹_›, Int.toNat_of_nonneg (by omega), rfl⟩
              · cases built
            · cases built
          · cases built
    · cases built
  · rintro ⟨rfl, rfl, rfl, rfl, rfl⟩
    have positive := archive.bytes_pos
    rw [dif_pos archive.path_safe, Bucket.ofName?_eq_some.mpr rfl]
    dsimp only
    rw [if_pos (by omega), dif_pos (by omega), dif_pos archive.isSha256]
    simp

/-- `_expected_cache_directory`. -/
def ArchiveAuthority.cacheDirectory (archive : ArchiveAuthority) : String :=
  "archives/" ++ archive.bucket.name ++ "/" ++ partName archive.index

/-! ## Tokenizers -/

/-- `STARCODE_REPO_ID`. -/
def starcodeRepoId : String := "bigcode/starcoder2-tokenizer"

/-- `REVISION_RE.fullmatch`. -/
def IsRevision (text : String) : Prop :=
  text.length = 40 ∧ ∀ character ∈ text.toList, isLowerHex character

instance (text : String) : Decidable (IsRevision text) :=
  @instDecidableAnd _ _ _ (List.decidableBAll _ text.toList)

/-- A pinned tokenizer. -/
structure TokenizerAuthority where
  repoId : String
  resolvedRevision : String
  manifestSha256 : String
  vocabularySha256 : String
  vocabSize : Nat
  eosToken : String
  eosTokenId : Nat
  repoId_eq : repoId = starcodeRepoId
  isRevision : IsRevision resolvedRevision
  manifest_isSha256 : IsSha256 manifestSha256
  vocabulary_isSha256 : IsSha256 vocabularySha256
  vocabSize_pos : 1 ≤ vocabSize
  vocabSize_le : vocabSize ≤ 65536
  eosToken_ne : eosToken ≠ ""
  eosTokenId_lt : eosTokenId < vocabSize
  deriving DecidableEq

/-- `TokenizerAuthority(...)`. -/
def TokenizerAuthority.of
    (repoId resolvedRevision manifestSha256 vocabularySha256 : String)
    (vocabSize : Int)
    (eosToken : String)
    (eosTokenId : Int) : Checked TokenizerAuthority :=
  if repo : repoId = starcodeRepoId then
    if revision : IsRevision resolvedRevision then
      if manifest : IsSha256 manifestSha256 then
        if vocabulary : IsSha256 vocabularySha256 then
          if positive : 1 ≤ vocabSize then
            if fits : vocabSize ≤ 65536 then
              if nonempty : eosToken ≠ "" then
                if inside : 0 ≤ eosTokenId ∧ eosTokenId < vocabSize then
                  .ok ⟨repoId, resolvedRevision, manifestSha256,
                    vocabularySha256, vocabSize.toNat, eosToken,
                    eosTokenId.toNat, repo, revision, manifest, vocabulary,
                    by omega, by omega, nonempty, by omega⟩
                else .error (cacheReadError "Tokenizer EOS token ID is invalid")
              else .error (cacheReadError
                "Tokenizer EOS token must be non-empty")
            else .error (cacheReadError
              "Tokenizer vocabulary does not fit uint16")
          else .error (cacheReadError
            "tokenizer vocab_size must be a positive integer")
        else .error (cacheReadError
          "tokenizer vocabulary SHA-256 must be a lowercase SHA-256 digest")
      else .error (cacheReadError
        "tokenizer manifest SHA-256 must be a lowercase SHA-256 digest")
    else .error (cacheReadError
      "Tokenizer revision must be a lowercase commit SHA")
  else .error (cacheReadError "Tokenizer repo must be the Starcoder one")

/-- `TokenizerAuthority.descriptor`. -/
def TokenizerAuthority.descriptor (tokenizer : TokenizerAuthority) :
    JsonTree :=
  .object [
    ("repo_id", .str tokenizer.repoId),
    ("resolved_revision", .str tokenizer.resolvedRevision),
    ("manifest_sha256", .str tokenizer.manifestSha256),
    ("vocabulary_sha256", .str tokenizer.vocabularySha256),
    ("vocab_size", .int tokenizer.vocabSize),
    ("eos_token", .str tokenizer.eosToken),
    ("eos_token_id", .int tokenizer.eosTokenId),
    ("eos_present_in_payload", .bool false)]

theorem TokenizerAuthority.of_eq_ok
    {repoId resolvedRevision manifestSha256 vocabularySha256 eosToken : String}
    {vocabSize eosTokenId : Int} {tokenizer : TokenizerAuthority} :
    TokenizerAuthority.of repoId resolvedRevision manifestSha256
        vocabularySha256 vocabSize eosToken eosTokenId = .ok tokenizer ↔
      tokenizer.repoId = repoId ∧
        tokenizer.resolvedRevision = resolvedRevision ∧
        tokenizer.manifestSha256 = manifestSha256 ∧
        tokenizer.vocabularySha256 = vocabularySha256 ∧
        (tokenizer.vocabSize : Int) = vocabSize ∧
        tokenizer.eosToken = eosToken ∧
        (tokenizer.eosTokenId : Int) = eosTokenId := by
  unfold TokenizerAuthority.of
  constructor
  · intro built
    split at built
    · split at built
      · split at built
        · split at built
          · split at built
            · split at built
              · split at built
                · split at built
                  · next inside =>
                      cases built
                      exact ⟨rfl, rfl, rfl, rfl,
                        Int.toNat_of_nonneg (by omega), rfl,
                        Int.toNat_of_nonneg inside.1⟩
                  · cases built
                · cases built
              · cases built
            · cases built
          · cases built
        · cases built
      · cases built
    · cases built
  · rintro ⟨rfl, rfl, rfl, rfl, rfl, rfl, rfl⟩
    have positive := tokenizer.vocabSize_pos
    have fits := tokenizer.vocabSize_le
    have inside := tokenizer.eosTokenId_lt
    rw [dif_pos tokenizer.repoId_eq, dif_pos tokenizer.isRevision,
      dif_pos tokenizer.manifest_isSha256,
      dif_pos tokenizer.vocabulary_isSha256, dif_pos (by omega),
      dif_pos (by omega), dif_pos tokenizer.eosToken_ne, dif_pos (by omega)]
    simp

/-! ## Caches -/

/-- `RAW` source paths of one archive: the archive, its report and its
fingerprints. -/
def expectedArchivePath (bucket : Bucket) (index : Nat) : String :=
  bucket.archiveDirectory ++ "/" ++ partName index ++ ".tar.zst"

def expectedReportPath (bucket : Bucket) (index : Nat) : String :=
  "reports/" ++ bucket.name ++ "/" ++ partName index ++ ".json"

def expectedFingerprintPath (bucket : Bucket) (index : Nat) : String :=
  "fingerprints/" ++ bucket.name ++ "/" ++ partName index ++ ".jsonl.zst"

/-- External trust for opening the cache of one archive. -/
structure RawTokenCacheAuthority where
  cacheManifestBytes : Nat
  cacheManifestSha256 : String
  archive : ArchiveAuthority
  preprocessReport : FileAuthority
  fingerprint : FileAuthority
  tokenizer : TokenizerAuthority
  records : Nat
  cleanBytes : Nat
  contentTokens : Nat
  manifestBytes_pos : 1 ≤ cacheManifestBytes
  manifest_isSha256 : IsSha256 cacheManifestSha256
  records_pos : 1 ≤ records
  cleanBytes_pos : 1 ≤ cleanBytes
  contentTokens_pos : 1 ≤ contentTokens
  archive_path : archive.path =
    expectedArchivePath archive.bucket archive.index
  report_path : preprocessReport.path =
    expectedReportPath archive.bucket archive.index
  fingerprint_path : fingerprint.path =
    expectedFingerprintPath archive.bucket archive.index
  deriving DecidableEq

/-- `RawTokenCacheAuthority(...)`. -/
def RawTokenCacheAuthority.of
    (cacheManifestBytes : Nat)
    (cacheManifestSha256 : String)
    (archive : ArchiveAuthority)
    (preprocessReport fingerprint : FileAuthority)
    (tokenizer : TokenizerAuthority)
    (records cleanBytes contentTokens : Nat) :
    Checked RawTokenCacheAuthority :=
  if counts : 1 ≤ cacheManifestBytes ∧ IsSha256 cacheManifestSha256 ∧
      1 ≤ records ∧ 1 ≤ cleanBytes ∧ 1 ≤ contentTokens then
    if archivePath : archive.path =
        expectedArchivePath archive.bucket archive.index then
      if reportPath : preprocessReport.path =
          expectedReportPath archive.bucket archive.index then
        if fingerprintPath : fingerprint.path =
            expectedFingerprintPath archive.bucket archive.index then
          .ok ⟨cacheManifestBytes, cacheManifestSha256, archive,
            preprocessReport, fingerprint, tokenizer, records, cleanBytes,
            contentTokens, counts.1, counts.2.1, counts.2.2.1, counts.2.2.2.1,
            counts.2.2.2.2, archivePath, reportPath, fingerprintPath⟩
        else .error (cacheReadError
          "Fingerprint authority path is not canonical")
      else .error (cacheReadError
        "Preprocess-report authority path is not canonical")
    else .error (cacheReadError "Archive authority path is not canonical")
  else .error (cacheReadError
    "cache authority fields must be positive integers and a SHA-256 digest")

theorem RawTokenCacheAuthority.of_eq_ok
    {cacheManifestBytes records cleanBytes contentTokens : Nat}
    {cacheManifestSha256 : String} {archive : ArchiveAuthority}
    {preprocessReport fingerprint : FileAuthority}
    {tokenizer : TokenizerAuthority} {authority : RawTokenCacheAuthority} :
    RawTokenCacheAuthority.of cacheManifestBytes cacheManifestSha256 archive
        preprocessReport fingerprint tokenizer records cleanBytes
        contentTokens = .ok authority ↔
      authority.cacheManifestBytes = cacheManifestBytes ∧
        authority.cacheManifestSha256 = cacheManifestSha256 ∧
        authority.archive = archive ∧
        authority.preprocessReport = preprocessReport ∧
        authority.fingerprint = fingerprint ∧
        authority.tokenizer = tokenizer ∧
        authority.records = records ∧
        authority.cleanBytes = cleanBytes ∧
        authority.contentTokens = contentTokens := by
  unfold RawTokenCacheAuthority.of
  constructor
  · intro built
    split at built
    · split at built
      · split at built
        · split at built
          · cases built
            exact ⟨rfl, rfl, rfl, rfl, rfl, rfl, rfl, rfl, rfl⟩
          · cases built
        · cases built
      · cases built
    · cases built
  · rintro ⟨rfl, rfl, rfl, rfl, rfl, rfl, rfl, rfl, rfl⟩
    rw [dif_pos ⟨authority.manifestBytes_pos, authority.manifest_isSha256,
      authority.records_pos, authority.cleanBytes_pos,
      authority.contentTokens_pos⟩, dif_pos authority.archive_path,
      dif_pos authority.report_path, dif_pos authority.fingerprint_path]

/-! ## Dictionaries read back -/

/-- `_file_authority`. -/
def fileAuthority (payload : JsonTree) (error : PyError) :
    Checked FileAuthority := do
  let _ ← require (payload.HasExactly ["path", "bytes", "sha256"]) error
  let path ← requireObject ((payload.field? "path").bind str?) error
  let bytes ← requireObject ((payload.field? "bytes").bind int?) error
  let sha256 ← requireObject ((payload.field? "sha256").bind str?) error
  (FileAuthority.of path bytes sha256).mapError fun _ => error

/-- `_archive_authority`. -/
def archiveAuthority (payload : JsonTree) (error : PyError) :
    Checked ArchiveAuthority := do
  let _ ← require
    (payload.HasExactly ["path", "bucket", "index", "bytes", "sha256"]) error
  let path ← requireObject ((payload.field? "path").bind str?) error
  let bucket ← requireObject ((payload.field? "bucket").bind str?) error
  let index ← requireObject ((payload.field? "index").bind int?) error
  let bytes ← requireObject ((payload.field? "bytes").bind int?) error
  let sha256 ← requireObject ((payload.field? "sha256").bind str?) error
  (ArchiveAuthority.of path bucket index bytes sha256).mapError fun _ => error

/-- `_tokenizer_authority`. -/
def tokenizerAuthority (payload : JsonTree) (error : PyError) :
    Checked TokenizerAuthority := do
  let _ ← require
    (payload.HasExactly ["repo_id", "resolved_revision", "manifest_sha256",
      "vocabulary_sha256", "vocab_size", "eos_token", "eos_token_id",
      "eos_present_in_payload"] ∧
      (payload.field? "eos_present_in_payload").any isFalse) error
  let repoId ← requireObject ((payload.field? "repo_id").bind str?) error
  let revision ← requireObject
    ((payload.field? "resolved_revision").bind str?) error
  let manifest ← requireObject
    ((payload.field? "manifest_sha256").bind str?) error
  let vocabulary ← requireObject
    ((payload.field? "vocabulary_sha256").bind str?) error
  let vocabSize ← requireObject ((payload.field? "vocab_size").bind int?) error
  let eosToken ← requireObject ((payload.field? "eos_token").bind str?) error
  let eosTokenId ← requireObject
    ((payload.field? "eos_token_id").bind int?) error
  (TokenizerAuthority.of repoId revision manifest vocabulary vocabSize eosToken
    eosTokenId).mapError fun _ => error

section ReadBack

variable {payload : JsonTree} {error : PyError}

theorem bind_str?_eq_some {key text : String} :
    (payload.field? key).bind str? = some text ↔
      payload.field? key = some (.str text) := by
  rw [Option.bind_eq_some_iff]
  constructor
  · rintro ⟨item, found, read⟩
    match item, read with
    | .scalar (.str value), read =>
        cases read
        exact found
  · exact fun found => ⟨_, found, rfl⟩

theorem bind_int?_eq_some {key : String} {value : Int} :
    (payload.field? key).bind int? = some value ↔
      payload.field? key = some (.int value) := by
  rw [Option.bind_eq_some_iff]
  constructor
  · rintro ⟨item, found, read⟩
    match item, read with
    | .scalar (.int value), read =>
        cases read
        exact found
  · exact fun found => ⟨_, found, rfl⟩

theorem exists_same_scalar {key : String} {value : JsonScalar} :
    (∃ item, payload.field? key = some item ∧ item.Same (.scalar value)) ↔
      payload.field? key = some (.scalar value) := by
  constructor
  · rintro ⟨item, found, same⟩
    rw [found, same.eq_scalar]
  · exact fun found => ⟨_, found, .refl _⟩

/-- A file is read from what is the same as its dictionary. -/
theorem fileAuthority_eq_ok {file : FileAuthority} :
    fileAuthority payload error = .ok file ↔ payload.Same file.asdict := by
  rw [FileAuthority.asdict, same_object_iff (by simp)]
  unfold fileAuthority
  rw [require_then_eq_ok]
  simp only [checked_bind_eq_ok, requireObject_eq_ok,
    bind_str?_eq_some, bind_int?_eq_some, mapError_eq_ok,
    FileAuthority.of_eq_ok, List.forall_mem_cons, exists_same_scalar, str, int]
  constructor
  · rintro ⟨names, _, path, _, bytes, _, sha256, rfl, rfl, rfl⟩
    exact ⟨names, path, bytes, sha256, List.forall_mem_nil _⟩
  · rintro ⟨names, path, bytes, sha256, -⟩
    exact ⟨names, _, path, _, bytes, _, sha256, rfl, rfl, rfl⟩

/-- An archive is read from what is the same as its dictionary. -/
theorem archiveAuthority_eq_ok {archive : ArchiveAuthority} :
    archiveAuthority payload error = .ok archive ↔
      payload.Same archive.asdict := by
  rw [ArchiveAuthority.asdict, same_object_iff (by simp)]
  unfold archiveAuthority
  rw [require_then_eq_ok]
  simp only [checked_bind_eq_ok, requireObject_eq_ok,
    bind_str?_eq_some, bind_int?_eq_some, mapError_eq_ok,
    ArchiveAuthority.of_eq_ok, List.forall_mem_cons, exists_same_scalar, str,
    int]
  constructor
  · rintro ⟨names, _, path, _, bucket, _, index, _, bytes, _, sha256, rfl, rfl,
      rfl, rfl, rfl⟩
    exact ⟨names, path, bucket, index, bytes, sha256, List.forall_mem_nil _⟩
  · rintro ⟨names, path, bucket, index, bytes, sha256, -⟩
    exact ⟨names, _, path, _, bucket, _, index, _, bytes, _, sha256, rfl, rfl,
      rfl, rfl, rfl⟩

theorem any_isFalse {key : String} :
    (payload.field? key).any isFalse = true ↔
      payload.field? key = some (.scalar (.bool false)) := by
  rw [Option.any_eq_true]
  constructor
  · rintro ⟨item, found, isFalse⟩
    match item, isFalse with
    | .scalar (.bool false), _ => exact found
  · exact fun found => ⟨_, found, rfl⟩

/-- A tokenizer is read from what is the same as its descriptor. -/
theorem tokenizerAuthority_eq_ok {tokenizer : TokenizerAuthority} :
    tokenizerAuthority payload error = .ok tokenizer ↔
      payload.Same tokenizer.descriptor := by
  rw [TokenizerAuthority.descriptor, same_object_iff (by simp)]
  unfold tokenizerAuthority
  rw [require_then_eq_ok]
  simp only [checked_bind_eq_ok, requireObject_eq_ok,
    bind_str?_eq_some, bind_int?_eq_some, mapError_eq_ok, any_isFalse,
    TokenizerAuthority.of_eq_ok, List.forall_mem_cons, exists_same_scalar, str,
    int, JsonTree.bool]
  constructor
  · rintro ⟨⟨names, eosAbsent⟩, _, repo, _, revision, _, manifest, _,
      vocabulary, _, size, _, eos, _, eosId, rfl, rfl, rfl, rfl, rfl, rfl, rfl⟩
    exact ⟨names, repo, revision, manifest, vocabulary, size, eos, eosId,
      eosAbsent, List.forall_mem_nil _⟩
  · rintro ⟨names, repo, revision, manifest, vocabulary, size, eos, eosId,
      eosAbsent, -⟩
    exact ⟨⟨names, eosAbsent⟩, _, repo, _, revision, _, manifest, _,
      vocabulary, _, size, _, eos, _, eosId, rfl, rfl, rfl, rfl, rfl, rfl, rfl⟩

end ReadBack

end CodingLlm
