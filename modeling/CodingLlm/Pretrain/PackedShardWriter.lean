import CodingLlm.Pretrain.Directory
import CodingLlm.Pretrain.PackedManifest

/-!
# The packed shard writer

`PackedShardWriter`, method by method.  The attributes of the object are the
fields of a structure that each method takes and returns; its files are the
directory that the methods act on.  The hash function is a parameter.
-/

namespace CodingLlm

open CrashLogic Words Slices

variable {Digest Cursor : Type}

/-! ## Construction arguments -/

/-- The arguments of `PackedShardWriter(...)` that identify a construction. -/
structure WriterArguments (Digest : Type) where
  domain : String
  split : String
  sequenceLength : Int
  vocabSize : Int
  eosTokenId : Int
  tokenizerManifestSha256 : DigestField Digest
  rowsPerShard : Int
  constructionSeed : Option Int
  curationPolicySha256 : DigestField Digest
  selectionManifestSha256 : DigestField Digest

/-- Arguments that the constructor accepted. -/
structure WriterConfig (Digest : Type) where
  domain : Domain
  split : String
  sequenceLength : Nat
  vocabSize : Nat
  eosTokenId : Nat
  tokenizerManifestSha256 : Digest
  rowsPerShard : Nat
  constructionSeed : Option Int
  curationPolicySha256 : Option Digest
  selectionManifestSha256 : Option Digest
  split_ne_empty : split ≠ ""
  two_le_sequenceLength : 2 ≤ sequenceLength
  vocabSize_bounds : 1 ≤ vocabSize ∧ vocabSize ≤ tokenValues
  eosTokenId_lt : eosTokenId < vocabSize
  rowsPerShard_pos : 1 ≤ rowsPerShard

/-- The argument checks of `__init__`. -/
def WriterArguments.check (arguments : WriterArguments Digest) :
    Checked (WriterConfig Digest) := do
  let tokenizerManifestSha256 ← arguments.tokenizerManifestSha256.requireSha256
  let curationPolicySha256 ← arguments.curationPolicySha256.optionalSha256
  let selectionManifestSha256 ←
    arguments.selectionManifestSha256.optionalSha256
  let domain ← requireString (.str arguments.domain) Domain.ofName?
    (.valueError "Unsupported domain")
  let ⟨splitNonempty⟩ ← require (arguments.split ≠ "")
    (.valueError "split must not be empty")
  let ⟨twoLe⟩ ← require (2 ≤ arguments.sequenceLength)
    (.valueError "sequence_length must be at least 2")
  let ⟨vocabBounds⟩ ← require
    (1 ≤ arguments.vocabSize ∧ arguments.vocabSize ≤ tokenValues)
    (.valueError "vocab_size must fit in uint16")
  let ⟨eosBounds⟩ ← require
    (0 ≤ arguments.eosTokenId ∧ arguments.eosTokenId < arguments.vocabSize)
    (.valueError "eos_token_id must be inside the vocabulary")
  let ⟨rowsPositive⟩ ← require (1 ≤ arguments.rowsPerShard)
    (.valueError "rows_per_shard must be positive")
  return {
    domain
    split := arguments.split
    sequenceLength := arguments.sequenceLength.toNat
    vocabSize := arguments.vocabSize.toNat
    eosTokenId := arguments.eosTokenId.toNat
    tokenizerManifestSha256
    rowsPerShard := arguments.rowsPerShard.toNat
    constructionSeed := arguments.constructionSeed
    curationPolicySha256
    selectionManifestSha256
    split_ne_empty := splitNonempty
    two_le_sequenceLength := by omega
    vocabSize_bounds := by omega
    eosTokenId_lt := by omega
    rowsPerShard_pos := by omega
  }

/-- `_identity()`. -/
def WriterConfig.identity (config : WriterConfig Digest) : Identity Digest where
  outputFormatVersion := formatVersion
  domain := config.domain
  split := config.split
  sequenceLength := config.sequenceLength
  vocabSize := config.vocabSize
  eosTokenId := config.eosTokenId
  rowsPerShard := config.rowsPerShard
  tokenizerManifestSha256 := config.tokenizerManifestSha256
  curationPolicySha256 := config.curationPolicySha256
  selectionManifestSha256 := config.selectionManifestSha256
  constructionSeed := config.constructionSeed

/-- `tokens_per_row`. -/
def WriterConfig.tokensPerRow (config : WriterConfig Digest) : Nat :=
  config.sequenceLength + 1

/-- Write aggregation of one process: rows per drain batch
(`_drain_batch_rows`, 256 when constructed) and rows of consumed buffer after
which the carry is compacted (256). -/
structure DrainPolicy where
  batchRows : Nat
  compactionRows : Nat
  batchRows_pos : 1 ≤ batchRows

/-- The aggregation that the constructor sets up. -/
def DrainPolicy.default : DrainPolicy := ⟨256, 256, by decide⟩

/-! ## The writer -/

/-- Bytes hashed so far for the open shard, by payload kind. -/
structure OpenShard where
  tokensDigest : List Byte
  startsDigest : List Byte

/-- The running digest of one kind. -/
def OpenShard.digest (openShard : OpenShard) : ShardKind -> List Byte
  | .tokens => openShard.tokensDigest
  | .starts => openShard.startsDigest

/-- The attributes of a `PackedShardWriter`.  `openShard` is there while the
two part files are open. -/
structure PackedShardWriter (Digest Cursor : Type) where
  config : WriterConfig Digest
  policy : DrainPolicy
  tokens : List Nat := []
  starts : List Bool := []
  bufferOffset : Nat := 0
  documents : Nat := 0
  sourceContentTokens : Nat := 0
  rows : Nat := 0
  validLossTokens : Nat := 0
  maskedBoundaryLabels : Nat := 0
  shards : List (ShardRecord Digest) := []
  openShard : Option OpenShard := none
  rowsInOpenShard : Nat := 0
  openShardDirty : Bool := false
  sourceCursor : Option Cursor := none
  finished : Bool := false
  resumed : Bool := false

/-- The shard record with the given names and contents. -/
def shardRecord
    (sha256 : List Byte -> Digest)
    (sequenceLength index rows : Nat)
    (name : Nat -> ShardKind -> FileName)
    (content : ShardKind -> List Byte) : ShardRecord Digest where
  index := index
  rows := rows
  tokens := ⟨name index .tokens, rows * rowBytes sequenceLength .tokens,
    sha256 (content .tokens)⟩
  starts := ⟨name index .starts, rows * rowBytes sequenceLength .starts,
    sha256 (content .starts)⟩

/-- The consecutive windows of `width + 1` elements, each starting on the last
element of the one before (the strided view of `_drain_rows`). -/
def stridedRows (span : List α) (width count : Nat) : List (List α) :=
  (List.range count).map fun row => slice span (row * width) (width + 1)

/-- `row_starts[:, 0] = True`. -/
def forceFirst : List Bool -> List Bool
  | [] => []
  | _ :: rest => true :: rest

namespace PackedShardWriter

variable (sha256 : List Byte -> Digest)

/-- The attributes after two empty part files have been opened. -/
def afterOpen (writer : PackedShardWriter Digest Cursor) :
    PackedShardWriter Digest Cursor :=
  { writer with
    openShard := some ⟨[], []⟩
    rowsInOpenShard := 0
    openShardDirty := false }

/-- `_open_shard`. -/
def openShardFiles (writer : PackedShardWriter Digest Cursor) :
    Fs Digest Cursor (PackedShardWriter Digest Cursor) :=
  match writer.openShard with
  | some _ => pure writer
  | none => do
      openExclusive (.shardPart writer.shards.length .tokens)
      openExclusive (.shardPart writer.shards.length .starts)
      return writer.afterOpen

/-- The attributes after the open shard has been completed. -/
def afterFinalize
    (writer : PackedShardWriter Digest Cursor)
    (openShard : OpenShard) : PackedShardWriter Digest Cursor :=
  { writer with
    shards := writer.shards ++ [shardRecord sha256
      writer.config.sequenceLength writer.shards.length
      writer.rowsInOpenShard .shard openShard.digest]
    openShard := none
    rowsInOpenShard := 0
    openShardDirty := false }

/-- `_finalize_open_shard`. -/
def finalizeOpenShard (writer : PackedShardWriter Digest Cursor) :
    Fs Digest Cursor (PackedShardWriter Digest Cursor) :=
  match writer.openShard with
  | none => pure writer
  | some openShard => do
      let index := writer.shards.length
      let rows := writer.rowsInOpenShard
      let _ ← Program.lift (require (1 ≤ rows)
        (.assertionError "Cannot finalize an empty shard"))
      syncFile (.shardPart index .tokens)
      syncFile (.shardPart index .starts)
      replaceFile (.shardPart index .tokens) (.shard index .tokens)
      replaceFile (.shardPart index .starts) (.shard index .starts)
      let tokenSize ← fileSize (.shard index .tokens)
      let _ ← Program.lift (require
        (tokenSize = rows * rowBytes writer.config.sequenceLength .tokens)
        (.ioError "Incorrect token shard size"))
      let startSize ← fileSize (.shard index .starts)
      let _ ← Program.lift (require
        (startSize = rows * rowBytes writer.config.sequenceLength .starts)
        (.ioError "Incorrect starts shard size"))
      return writer.afterFinalize sha256 openShard

/-- Drop the consumed part of the carry once it is long enough. -/
def compact (writer : PackedShardWriter Digest Cursor) :
    PackedShardWriter Digest Cursor :=
  if writer.config.sequenceLength * writer.policy.compactionRows ≤
      writer.bufferOffset then
    { writer with
      tokens := writer.tokens.drop writer.bufferOffset
      starts := writer.starts.drop writer.bufferOffset
      bufferOffset := 0 }
  else writer

/-- Tokens of the stream not yet consumed as row inputs. -/
def available (writer : PackedShardWriter Digest Cursor) : Nat :=
  writer.tokens.length - writer.bufferOffset

/-- `batch_rows`: complete rows available, rows left in the shard and the drain
batch, whichever is least. -/
def batchRows (writer : PackedShardWriter Digest Cursor) : Nat :=
  min ((writer.available - 1) / writer.config.sequenceLength)
    (min (writer.config.rowsPerShard - writer.rowsInOpenShard)
      writer.policy.batchRows)

/-- The token rows of the next batch. -/
def batchTokens (writer : PackedShardWriter Digest Cursor) :
    List (List Nat) :=
  stridedRows
    (slice writer.tokens writer.bufferOffset
      (writer.batchRows * writer.config.sequenceLength + 1))
    writer.config.sequenceLength writer.batchRows

/-- The start rows of the next batch, each beginning a segment. -/
def batchStarts (writer : PackedShardWriter Digest Cursor) :
    List (List Bool) :=
  (stridedRows
    (slice writer.starts writer.bufferOffset
      (writer.batchRows * writer.config.sequenceLength + 1))
    writer.config.sequenceLength writer.batchRows).map forceFirst

/-- `token_bytes` and `start_bytes` of the next batch. -/
def batchBytes (writer : PackedShardWriter Digest Cursor) :
    ShardKind -> List Byte
  | .tokens => writer.batchTokens.flatMap (encodeWords tokenItemSize)
  | .starts => writer.batchStarts.flatMap packBits

/-- `masked`: starts in the next batch past the first column. -/
def batchMasked (writer : PackedShardWriter Digest Cursor) : Nat :=
  (writer.batchStarts.map fun row => row.tail.countP id).sum

/-- The attributes after the next batch has been written. -/
def afterBatch
    (writer : PackedShardWriter Digest Cursor)
    (openShard : OpenShard) : PackedShardWriter Digest Cursor :=
  { writer with
    openShard := some
      ⟨openShard.tokensDigest ++ writer.batchBytes .tokens,
        openShard.startsDigest ++ writer.batchBytes .starts⟩
    openShardDirty := true
    maskedBoundaryLabels := writer.maskedBoundaryLabels + writer.batchMasked
    validLossTokens := writer.validLossTokens +
      (writer.batchRows * writer.config.sequenceLength - writer.batchMasked)
    rows := writer.rows + writer.batchRows
    rowsInOpenShard := writer.rowsInOpenShard + writer.batchRows
    bufferOffset := writer.bufferOffset +
      writer.batchRows * writer.config.sequenceLength }

/-- Write the next batch to the two part files. -/
def writeBatch (writer : PackedShardWriter Digest Cursor) :
    Fs Digest Cursor (PackedShardWriter Digest Cursor) :=
  match writer.openShard with
  | none => throw (.assertionError "Open packing shard state is incomplete")
  | some openShard => do
      let _ ← Program.lift (require (1 ≤ writer.batchRows)
        (.assertionError "Packed row drain made no progress"))
      let _ ← Program.lift (require
        (∀ row ∈ writer.batchStarts, (packBits row).length =
          startsBytesPerRow writer.config.sequenceLength)
        (.assertionError "Unexpected packed starts width"))
      appendBytes (.shardPart writer.shards.length .tokens)
        (writer.batchBytes .tokens)
      appendBytes (.shardPart writer.shards.length .starts)
        (writer.batchBytes .starts)
      return writer.afterBatch openShard

/-- One iteration of the loop of `_drain_rows`. -/
def drainBatch (writer : PackedShardWriter Digest Cursor) :
    Fs Digest Cursor (PackedShardWriter Digest Cursor) := do
  let writer ← writer.openShardFiles
  let writer ← writer.writeBatch
  let writer ← (
    if writer.rowsInOpenShard = writer.config.rowsPerShard then
      writer.finalizeOpenShard sha256
    else pure writer)
  return writer.compact

/-- `_drain_rows`.  Every iteration consumes a row, so the length of the
buffer bounds their number. -/
def drainRows (writer : PackedShardWriter Digest Cursor) :
    Fs Digest Cursor (PackedShardWriter Digest Cursor) :=
  Program.whileLoop (.assertionError "Packed row drain made no progress")
    (fun writer => decide (writer.config.tokensPerRow ≤ writer.available))
    (drainBatch sha256) writer.tokens.length writer

/-! ## The journal -/

/-- `open_shard` of the journal. -/
def journalOpenShard (writer : PackedShardWriter Digest Cursor) :
    Checked (Option (ShardRecord Digest)) :=
  if writer.rowsInOpenShard = 0 then .ok none
  else match writer.openShard with
    | none => .error (.assertionError "Open packing shard state is incomplete")
    | some openShard => .ok (some (shardRecord sha256
        writer.config.sequenceLength writer.shards.length
        writer.rowsInOpenShard .shardPart openShard.digest))

/-- `_journal_payload`. -/
def journalPayload
    (writer : PackedShardWriter Digest Cursor)
    (sourceCursor : Option Cursor) : Checked (Journal Digest Cursor) := do
  let openShard ← writer.journalOpenShard sha256
  return {
    format := packingJournalFormat
    formatVersion := packingJournalFormatVersion
    identity := writer.config.identity
    state := {
      sourceCursor
      documents := writer.documents
      sourceContentTokens := writer.sourceContentTokens
      rows := writer.rows
      validLossTokens := writer.validLossTokens
      maskedBoundaryLabels := writer.maskedBoundaryLabels
      carryTokens := writer.tokens.drop writer.bufferOffset
      carryStarts := writer.starts.drop writer.bufferOffset
      completedShards := writer.shards
      openShard } }

/-- The attributes after both part files have been synced. -/
def afterSync (writer : PackedShardWriter Digest Cursor) :
    PackedShardWriter Digest Cursor :=
  { writer with openShardDirty := false }

/-- `_sync_open_shard`. -/
def syncOpenShard (writer : PackedShardWriter Digest Cursor) :
    Fs Digest Cursor (PackedShardWriter Digest Cursor) :=
  if writer.openShardDirty = false then pure writer
  else match writer.openShard with
    | none => pure writer.afterSync
    | some _ => do
        syncFile (.shardPart writer.shards.length .tokens)
        syncFile (.shardPart writer.shards.length .starts)
        return writer.afterSync

/-- `_write_journal`. -/
def writeJournal
    (writer : PackedShardWriter Digest Cursor)
    (sourceCursor : Option Cursor) :
    Fs Digest Cursor (PackedShardWriter Digest Cursor) := do
  let writer ← writer.syncOpenShard
  let journal ← Program.lift (writer.journalPayload sha256 sourceCursor)
  atomicJson .journalTemporary .journal (.journal journal)
  return { writer with sourceCursor }

/-- `checkpoint`. -/
def checkpoint
    (writer : PackedShardWriter Digest Cursor)
    (sourceCursor : Cursor) :
    Fs Digest Cursor (PackedShardWriter Digest Cursor) := do
  let _ ← Program.lift (require (writer.finished = false)
    (.runtimeError "Cannot checkpoint after finish()"))
  writer.writeJournal sha256 (some sourceCursor)

/-- The checkpoint that a method makes when it is given a cursor. -/
def checkpointIfGiven
    (writer : PackedShardWriter Digest Cursor)
    (sourceCursor : Option Cursor) :
    Fs Digest Cursor (PackedShardWriter Digest Cursor) :=
  match sourceCursor with
  | none => pure writer
  | some cursor => writer.checkpoint sha256 cursor

/-! ## Documents -/

/-- The content checks of `add_document` on integer token ids. -/
def checkTokens (vocabSize : Nat) (tokenIds : List Int) :
    Checked (List Nat) := do
  let _ ← require (tokenIds ≠ [])
    (.valueError "Empty documents are not packable")
  let _ ← require (∀ tokenId ∈ tokenIds, 0 ≤ tokenId ∧ tokenId < vocabSize)
    (.valueError "Token ID is outside the vocabulary")
  return tokenIds.map Int.toNat

/-- The buffers after a document and its EOS have been appended. -/
def extend
    (writer : PackedShardWriter Digest Cursor)
    (values : List Nat) : PackedShardWriter Digest Cursor :=
  { writer with
    tokens := writer.tokens ++ values ++ [writer.config.eosTokenId]
    starts := writer.starts ++
      ([true] ++ List.replicate (values.length - 1) false) ++ [false]
    documents := writer.documents + 1
    sourceContentTokens := writer.sourceContentTokens + values.length }

/-- `add_document`. -/
def addDocument
    (writer : PackedShardWriter Digest Cursor)
    (tokenIds : List Int)
    (sourceCursor : Option Cursor) :
    Fs Digest Cursor (PackedShardWriter Digest Cursor) := do
  let _ ← Program.lift (require (writer.finished = false)
    (.runtimeError "Cannot add documents after finish()"))
  let values ← Program.lift (checkTokens writer.config.vocabSize tokenIds)
  let writer ← (writer.extend values).drainRows sha256
  writer.checkpointIfGiven sha256 sourceCursor

/-! ## Finishing -/

/-- How a shard record appears in the manifest. -/
def shardJson (shard : ShardRecord Digest) : ShardJson Digest where
  index := .int shard.index
  rows := .int shard.rows
  tokens := some
    ⟨shard.tokens.path, .int shard.tokens.bytes, .sha256 shard.tokens.sha256⟩
  starts := some
    ⟨shard.starts.path, .int shard.starts.bytes, .sha256 shard.starts.sha256⟩

/-- The manifest that `finish` writes. -/
def manifestDocument (writer : PackedShardWriter Digest Cursor) :
    PackedManifestJson Digest Cursor :=
  let config := writer.config
  let streamTokens : Int := writer.sourceContentTokens + writer.documents
  let inputTokens : Int := writer.rows * config.sequenceLength
  let storedUniqueStreamTokens : Int :=
    if writer.rows = 0 then 0 else inputTokens + 1
  { format := .str "packed-document-causal"
    formatVersion := .int formatVersion
    domain := .str config.domain.name
    split := .str config.split
    sequenceLength := .int config.sequenceLength
    tokensPerRow := .int config.tokensPerRow
    tokenDtype := .str tokenDtype
    startsEncoding := .str startsEncoding
    startsBytesPerRow := .int (startsBytesPerRow config.sequenceLength)
    vocabSize := .int config.vocabSize
    eosTokenId := .int config.eosTokenId
    rowsPerShard := .int config.rowsPerShard
    rows := .int writer.rows
    inputTokens := .int inputTokens
    validLossTokens := .int writer.validLossTokens
    maskedBoundaryLabels := .int writer.maskedBoundaryLabels
    documents := .int writer.documents
    sourceContentTokens := .int writer.sourceContentTokens
    streamTokens := .int streamTokens
    unusedAsInputTailTokens := .int (streamTokens - inputTokens)
    unstoredTailTokens := .int (streamTokens - storedUniqueStreamTokens)
    tokenizerManifestSha256 := .sha256 config.tokenizerManifestSha256
    curationPolicySha256 := .ofOption config.curationPolicySha256
    selectionManifestSha256 := .ofOption config.selectionManifestSha256
    constructionSeed := match config.constructionSeed with
      | none => .null
      | some seed => .int seed
    constructionLastSourceCursor := .ofOption writer.sourceCursor
    shards := some (writer.shards.map fun shard => some (shardJson shard)) }

/-- `_load_json(self.output_dir / "manifest.json")`. -/
def loadManifest : Fs Digest Cursor (PackedManifestJson Digest Cursor) :=
  Program.inspect readManifest

/-- `finish`. -/
def finish
    (writer : PackedShardWriter Digest Cursor)
    (sourceCursor : Option Cursor) :
    Fs Digest Cursor
      (PackedShardWriter Digest Cursor × PackedManifestJson Digest Cursor) :=
  if writer.finished then do
    let document ← loadManifest
    return (writer, document)
  else do
    let writer ← writer.checkpointIfGiven sha256 sourceCursor
    let writer ← writer.drainRows sha256
    let writer ← writer.finalizeOpenShard sha256
    atomicJson .manifestTemporary .manifest
      (.manifest writer.manifestDocument)
    unlinkIfExists .journal
    return ({ writer with finished := true }, writer.manifestDocument)

/-! ## Resuming -/

/-- `_generated_shard`: the shard regular expressions match exactly six
digits. -/
def generatedShard : FileName -> Option (Nat × ShardKind × Bool)
  | .shard index kind =>
      if index < 1000000 then some (index, kind, true) else none
  | .shardPart index kind =>
      if index < 1000000 then some (index, kind, false) else none
  | _ => none

/-- A name that starts with `..packing-journal.json.`. -/
def isJournalTemporary : FileName -> Bool
  | .journalTemporary _ => true
  | _ => false

/-- `_remove_stale_journal_temporaries`. -/
def removeStaleJournalTemporaries : Fs Digest Cursor Unit := do
  let names ← listDirectory
  Program.forEach (names.filter isJournalTemporary) unlinkFile

/-- `found["construction_seed"] == expected["construction_seed"]`. -/
def SeedMatches (found : PyValue) : Option Int -> Prop
  | none => found = .null
  | some seed => found.EqualsInt seed

instance (found : PyValue) (expected : Option Int) :
    Decidable (SeedMatches found expected) :=
  match expected with
  | none => inferInstanceAs (Decidable (found = .null))
  | some seed => inferInstanceAs (Decidable (found.EqualsInt seed))

/-- The identity comparison of `_resume_finished_manifest`. -/
structure IdentityMatches
    (manifest : PackedManifest Digest Cursor)
    (config : WriterConfig Digest) : Prop where
  domain : manifest.domain = config.domain
  split : manifest.split = config.split
  sequenceLength : manifest.sequenceLength = config.sequenceLength
  vocabSize : manifest.vocabSize = config.vocabSize
  eosTokenId : manifest.eosTokenId.toInt = config.eosTokenId
  rowsPerShard : manifest.rowsPerShard = config.rowsPerShard
  tokenizer :
    manifest.tokenizerManifestSha256 = config.tokenizerManifestSha256
  curation : manifest.curationPolicySha256 = config.curationPolicySha256
  selection :
    manifest.selectionManifestSha256 = config.selectionManifestSha256
  seed : SeedMatches manifest.constructionSeed config.constructionSeed

instance [DecidableEq Digest]
    (manifest : PackedManifest Digest Cursor)
    (config : WriterConfig Digest) :
    Decidable (IdentityMatches manifest config) :=
  decidable_of_iff
    (manifest.domain = config.domain ∧ manifest.split = config.split ∧
      manifest.sequenceLength = config.sequenceLength ∧
      manifest.vocabSize = config.vocabSize ∧
      manifest.eosTokenId.toInt = config.eosTokenId ∧
      manifest.rowsPerShard = config.rowsPerShard ∧
      manifest.tokenizerManifestSha256 = config.tokenizerManifestSha256 ∧
      manifest.curationPolicySha256 = config.curationPolicySha256 ∧
      manifest.selectionManifestSha256 = config.selectionManifestSha256 ∧
      SeedMatches manifest.constructionSeed config.constructionSeed)
    ⟨fun ⟨a, b, c, d, e, f, g, h, i, j⟩ => ⟨a, b, c, d, e, f, g, h, i, j⟩,
      fun ⟨a, b, c, d, e, f, g, h, i, j⟩ => ⟨a, b, c, d, e, f, g, h, i, j⟩⟩

/-- Both payload kinds, in the order the source visits them. -/
def shardKinds : List ShardKind := [.tokens, .starts]

/-- A completed payload file must be there with its full size. -/
def checkCompletedFile
    (directory : Directory Digest Cursor)
    (sequenceLength : Nat) (shard : Shard Digest) (kind : ShardKind) :
    Checked Unit :=
  match directory.payload? (.shard shard.index kind) with
  | none => .error (.ioError "Missing or truncated completed packing shard")
  | some file => do
      let _ ← require
        (file.bytes.length = shard.rows * rowBytes sequenceLength kind)
        (.ioError "Missing or truncated completed packing shard")
      return ()

/-- A parsed shard as a record with canonical names. -/
def completedRecord (sequenceLength : Nat) (shard : Shard Digest) :
    ShardRecord Digest where
  index := shard.index
  rows := shard.rows
  tokens := ⟨.shard shard.index .tokens,
    shard.rows * rowBytes sequenceLength .tokens, shard.tokensSha256⟩
  starts := ⟨.shard shard.index .starts,
    shard.rows * rowBytes sequenceLength .starts, shard.startsSha256⟩

/-- The checks of `_resume_finished_manifest`.  The recorded byte counts were
compared with the same values by the parser. -/
def checkFinishedManifest [DecidableEq Digest]
    (config : WriterConfig Digest)
    (document : PackedManifestJson Digest Cursor)
    (directory : Directory Digest Cursor) :
    Checked (PackedManifest Digest Cursor) := do
  let manifest ← parsePackedManifest document
  let _ ← require (IdentityMatches manifest config)
    (.valueError "Packed construction identity mismatch for completed output")
  manifest.shards.forM fun shard => shardKinds.forM fun kind =>
    checkCompletedFile directory config.sequenceLength shard kind
  let allowedPaths := [FileName.manifest, .journal] ++
    manifest.shards.flatMap fun shard =>
      shardKinds.map fun kind => FileName.shard shard.index kind
  let _ ← require (∀ name ∈ directory.keys, name ∈ allowedPaths)
    (.valueError "Completed packed output contains unknown files")
  return manifest

/-- `_resume_finished_manifest`. -/
def resumeFinishedManifest [DecidableEq Digest]
    (writer : PackedShardWriter Digest Cursor) :
    Fs Digest Cursor (PackedShardWriter Digest Cursor) := do
  let document ← loadManifest
  let manifest ← Program.inspect
    (checkFinishedManifest writer.config document)
  unlinkIfExists .journal
  return { writer with
    shards := manifest.shards.map
      (completedRecord writer.config.sequenceLength)
    documents := manifest.documents
    sourceContentTokens := manifest.sourceContentTokens
    rows := manifest.rows
    validLossTokens := manifest.validLossTokens
    maskedBoundaryLabels := manifest.maskedBoundaryLabels
    sourceCursor := manifest.constructionLastSourceCursor
    finished := true
    resumed := true }

/-- `_load_json(self._journal_path)`. -/
def loadJournal : Fs Digest Cursor (Journal Digest Cursor) :=
  Program.inspect fun directory =>
    match directory.lookup .journal with
    | some (.journal journal) => .ok journal
    | _ => .error (.valueError "Unsupported packing journal format")

/-- The checks on one payload of a completed shard in the journal. -/
def checkCompletedPayload [DecidableEq Digest]
    (config : WriterConfig Digest)
    (directory : Directory Digest Cursor)
    (shard : ShardRecord Digest) (expectedIndex : Nat) (kind : ShardKind) :
    Checked Unit := do
  let expectedBytes := shard.rows * rowBytes config.sequenceLength kind
  let _ ← require ((shard.payload kind).path = .shard expectedIndex kind)
    (.valueError "Invalid shard path in packing journal")
  let _ ← require ((shard.payload kind).bytes = expectedBytes)
    (.valueError "Invalid shard byte count in packing journal")
  match directory.payload? (.shard expectedIndex kind) with
  | none => .error (.ioError "Missing or truncated committed packing shard")
  | some file => do
      let _ ← require (file.bytes.length = expectedBytes)
        (.ioError "Missing or truncated committed packing shard")
      let _ ← require (sha256 file.bytes = (shard.payload kind).sha256)
        (.ioError "Committed packing shard checksum mismatch")
      return ()

/-- The checks on the completed shards of a journal from `position` on. -/
def checkCompletedShards [DecidableEq Digest]
    (config : WriterConfig Digest)
    (directory : Directory Digest Cursor) :
    Nat -> List (ShardRecord Digest) -> Checked Unit
  | _, [] => .ok ()
  | position, shard :: rest => do
      let _ ← require (shard.index = position)
        (.valueError "Packing journal shard indices must be contiguous")
      let _ ← require (shard.rows = config.rowsPerShard)
        (.valueError
          "Only full completed shards may appear in a packing journal")
      shardKinds.forM (checkCompletedPayload sha256 config directory
        shard position)
      checkCompletedShards config directory (position + 1) rest

/-- The checks on a journal's counters and carry. -/
def checkJournalState
    (config : WriterConfig Digest)
    (state : JournalState Digest Cursor) : Checked Unit := do
  let _ ← require
    (state.validLossTokens + state.maskedBoundaryLabels =
      state.rows * config.sequenceLength)
    (.valueError "Packing journal loss counters are inconsistent")
  let _ ← require
    (state.carryTokens.length = state.carryStarts.length ∧
      state.carryTokens.length ≤ config.sequenceLength)
    (.valueError "Packing journal carry buffers have inconsistent lengths")
  let _ ← require (∀ tokenId ∈ state.carryTokens, tokenId < config.vocabSize)
    (.valueError "Packing journal contains an invalid carry token")
  let _ ← require
    (state.sourceContentTokens + state.documents =
      state.rows * config.sequenceLength + state.carryTokens.length)
    (.valueError "Packing journal stream counters do not match its carry")
  return ()

/-- The scan of the directory against the completed shards of a journal. -/
def checkGeneratedFiles (shardCount : Nat) (names : List FileName) :
    Checked Unit := do
  names.forM fun name => do
    let _ ← require ((generatedShard name).isSome ∨ name = .journal)
      (.fileExistsError
        "Unknown file prevents fail-closed packing resume")
    return ()
  let generated := names.filterMap generatedShard
  (List.range shardCount).forM fun index => shardKinds.forM fun kind => do
    let _ ← require ((index, kind, true) ∈ generated)
      (.ioError "Committed packing shard file is missing")
    let _ ← require ((index, kind, false) ∉ generated)
      (.valueError "Committed packing shard also has a temporary part")
    return ()

/-- The checks on the journal document itself. -/
def checkJournal [DecidableEq Digest]
    (config : WriterConfig Digest)
    (journal : Journal Digest Cursor)
    (directory : Directory Digest Cursor) : Checked Unit := do
  let _ ← require (journal.format = packingJournalFormat)
    (.valueError "Unsupported packing journal format")
  let _ ← require (journal.formatVersion = packingJournalFormatVersion)
    (.valueError "Unsupported packing journal version")
  let _ ← require (journal.identity = config.identity)
    (.valueError "Packed construction identity mismatch")
  checkCompletedShards sha256 config directory 0 journal.state.completedShards
  checkJournalState config journal.state
  checkGeneratedFiles journal.state.completedShards.length directory.keys

/-- The one file that holds the open shard's payload. -/
def openCandidate
    (index : Nat) (kind : ShardKind)
    (directory : Directory Digest Cursor) : Checked FileName :=
  match directory.lookup (.shardPart index kind),
      directory.lookup (.shard index kind) with
  | some _, none => .ok (.shardPart index kind)
  | none, some _ => .ok (.shard index kind)
  | _, _ => .error (.ioError "Expected exactly one recoverable open shard")

/-- The checks on the bytes of the open shard's payload. -/
def checkOpenPrefix [DecidableEq Digest]
    (candidate : FileName) (expectedBytes : Nat) (expectedHash : Digest)
    (directory : Directory Digest Cursor) : Checked (List Byte) :=
  match directory.payload? candidate with
  | none => .error (.fileNotFoundError "No such file")
  | some file => do
      let _ ← require (expectedBytes ≤ file.bytes.length)
        (.ioError "Recoverable packing shard is truncated")
      let _ ← require
        (sha256 (file.bytes.take expectedBytes) = expectedHash)
        (.ioError "Open packing shard checksum mismatch")
      return file.bytes.take expectedBytes

/-- Roll one payload of the open shard back to its journaled prefix; returns
the bytes its digest restarts from. -/
def restoreOpenPayload [DecidableEq Digest]
    (config : WriterConfig Digest)
    (record : ShardRecord Digest) (openIndex : Nat) (kind : ShardKind) :
    Fs Digest Cursor (List Byte) := do
  let part := FileName.shardPart openIndex kind
  let expectedBytes := record.rows * rowBytes config.sequenceLength kind
  let _ ← Program.lift (require ((record.payload kind).path = part)
    (.valueError "Invalid open path in packing journal"))
  let _ ← Program.lift (require ((record.payload kind).bytes = expectedBytes)
    (.valueError "Invalid open byte count in packing journal"))
  let candidate ← Program.inspect (openCandidate openIndex kind)
  let digest ← Program.inspect
    (checkOpenPrefix sha256 candidate expectedBytes
      (record.payload kind).sha256)
  (if candidate = part then pure () else replaceFile candidate part)
  truncateFile part expectedBytes
  syncFile part
  return digest

/-- The open shard of a journal, rolled back, or the check that there is
none. -/
def restoreOpenShard [DecidableEq Digest]
    (config : WriterConfig Digest)
    (state : JournalState Digest Cursor) :
    Fs Digest Cursor (Option OpenShard) :=
  let openIndex := state.completedShards.length
  match state.openShard with
  | none => do
      let _ ← Program.lift (require
        (state.rows = openIndex * config.rowsPerShard)
        (.valueError
          "Packing journal total rows disagree with completed shards"))
      return none
  | some record => do
      let _ ← Program.lift (require (record.index = openIndex)
        (.valueError "Open packing shard index is not contiguous"))
      let _ ← Program.lift (require
        (1 ≤ record.rows ∧ record.rows < config.rowsPerShard)
        (.valueError "Invalid open packing shard row count"))
      let _ ← Program.lift (require
        (state.rows = openIndex * config.rowsPerShard + record.rows)
        (.valueError
          "Open packing shard rows disagree with total row counter"))
      let tokensDigest ←
        restoreOpenPayload sha256 config record openIndex .tokens
      let startsDigest ←
        restoreOpenPayload sha256 config record openIndex .starts
      return some ⟨tokensDigest, startsDigest⟩

/-- `keep_paths`: the files that resuming keeps. -/
def keepPaths (state : JournalState Digest Cursor) : List FileName :=
  (state.completedShards.flatMap fun shard =>
      [shard.tokens.path, shard.starts.path]) ++
    match state.openShard with
    | none => []
    | some _ => shardKinds.map fun kind =>
        FileName.shardPart state.completedShards.length kind

/-- Remove every generated shard file that is not kept. -/
def removeUnkept (keep : List FileName) : Fs Digest Cursor Unit := do
  let names ← listDirectory
  Program.forEach
    (names.filter fun name =>
      (generatedShard name).isSome && !decide (name ∈ keep))
    unlinkFile

/-- The attributes that a journal restores. -/
def afterRollback
    (writer : PackedShardWriter Digest Cursor)
    (state : JournalState Digest Cursor)
    (openShard : Option OpenShard) : PackedShardWriter Digest Cursor :=
  { writer with
    shards := state.completedShards
    documents := state.documents
    sourceContentTokens := state.sourceContentTokens
    rows := state.rows
    validLossTokens := state.validLossTokens
    maskedBoundaryLabels := state.maskedBoundaryLabels
    tokens := state.carryTokens
    starts := state.carryStarts
    bufferOffset := 0
    sourceCursor := state.sourceCursor
    openShard
    rowsInOpenShard := match state.openShard with
      | none => 0
      | some record => record.rows
    openShardDirty := false }

/-- `_resume_from_journal`. -/
def resumeFromJournal [DecidableEq Digest]
    (writer : PackedShardWriter Digest Cursor) :
    Fs Digest Cursor (PackedShardWriter Digest Cursor) := do
  let journal ← loadJournal
  Program.inspect (checkJournal sha256 writer.config journal)
  let openShard ← restoreOpenShard sha256 writer.config journal.state
  removeUnkept (keepPaths journal.state)
  return writer.afterRollback journal.state openShard

/-- The part of `__init__` for a directory without a manifest: start in an
empty one, resume another from its journal. -/
def startOrResume [DecidableEq Digest]
    (writer : PackedShardWriter Digest Cursor)
    (resume : Bool) :
    Fs Digest Cursor (PackedShardWriter Digest Cursor) := do
  let entries ← listDirectory
  if entries = [] then writer.writeJournal sha256 none
  else do
    let journaled ← fileExists .journal
    let _ ← Program.lift (require (resume = true ∧ journaled = true)
      (.fileExistsError
        "Refusing to write into non-empty packed-shard directory"))
    let writer ← writer.resumeFromJournal sha256
    return { writer with resumed := true }

/-- `PackedShardWriter(...)`. -/
def init [DecidableEq Digest]
    (arguments : WriterArguments Digest)
    (policy : DrainPolicy)
    (resume : Bool) :
    Fs Digest Cursor (PackedShardWriter Digest Cursor) := do
  let config ← Program.lift arguments.check
  let blank : PackedShardWriter Digest Cursor := { config, policy }
  (if resume then removeStaleJournalTemporaries else pure ())
  let complete ← fileExists .manifest
  if complete then do
    let _ ← Program.lift (require (resume = true) (.fileExistsError
      "Packed-shard construction is already complete"))
    blank.resumeFinishedManifest
  else blank.startOrResume sha256 resume

end PackedShardWriter
end CodingLlm
