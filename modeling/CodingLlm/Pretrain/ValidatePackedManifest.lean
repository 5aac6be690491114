import CodingLlm.Pretrain.PackedShardWriter

/-!
# Rows of a packed directory and their validation

How the two payload files of a shard are read as rows, what makes a row valid,
and `validate_packed_manifest`, which checks every row in bounded chunks and
recomputes the label counters.
-/

namespace CodingLlm

open Words Slices

variable {Digest Cursor : Type}

/-! ## Rows -/

/-- One row of the token file, as its memory map shows it. -/
def tokenRow (sequenceLength : Nat) (bytes : List Byte) (row : Nat) :
    List Nat :=
  decodeWords tokenItemSize
    (slice bytes (row * rowBytes sequenceLength .tokens)
      (rowBytes sequenceLength .tokens))

/-- One row of the starts file. -/
def startsRow (sequenceLength : Nat) (bytes : List Byte) (row : Nat) :
    List Byte :=
  slice bytes (row * rowBytes sequenceLength .starts)
    (rowBytes sequenceLength .starts)

/-- Labels of a row that are masked: starts past the first column. -/
def maskedLabels (sequenceLength : Nat) (starts : List Byte) : Nat :=
  (unpackBits (sequenceLength + 1) starts).tail.countP id

/-- `np.logical_and(starts[:, 1:], tokens[:, :-1] != eos_token_id)`, for one
row: no column may be a start that no EOS precedes. -/
def BoundariesFollowEos
    (sequenceLength : Nat) (eosTokenId : Int)
    (tokens : List Nat) (starts : List Byte) : Prop :=
  ∀ column ∈
      (unpackBits (sequenceLength + 1) starts).tail.zip tokens.dropLast,
    column.1 = true -> (column.2 : Int) = eosTokenId

instance
    (sequenceLength : Nat) (eosTokenId : Int)
    (tokens : List Nat) (starts : List Byte) :
    Decidable (BoundariesFollowEos sequenceLength eosTokenId tokens starts) :=
  inferInstanceAs (Decidable (∀ _ ∈ _, _))

/-- The unused high bits of the last byte of a start row, when there are
any, are zero. -/
def PaddingZero (sequenceLength : Nat) (starts : List Byte) : Prop :=
  (sequenceLength + 1) % 8 ≠ 0 ->
    starts.getLastD 0 &&& highBits ((sequenceLength + 1) % 8) = 0

instance (sequenceLength : Nat) (starts : List Byte) :
    Decidable (PaddingZero sequenceLength starts) :=
  inferInstanceAs (Decidable (_ -> _))

/-- A row that can be trained on. -/
structure RowValid
    (sequenceLength vocabSize : Nat) (eosTokenId : Int)
    (tokens : List Nat) (starts : List Byte) : Prop where
  tokens_length : tokens.length = sequenceLength + 1
  starts_length : starts.length = startsBytesPerRow sequenceLength
  tokens_lt : ∀ token ∈ tokens, token < vocabSize
  first_start : starts.getD 0 0 &&& 1 ≠ 0
  padding : PaddingZero sequenceLength starts
  boundaries : BoundariesFollowEos sequenceLength eosTokenId tokens starts

theorem and_one_ne_zero_iff (byte : Byte) :
    byte &&& 1 ≠ 0 ↔ byte.getLsbD 0 = true := by
  constructor
  · intro nonzero
    by_contra low
    apply nonzero
    apply BitVec.eq_of_getLsbD_eq
    intro bit _
    rw [BitVec.getLsbD_and]
    cases bit with
    | zero =>
        rw [Bool.not_eq_true] at low
        rw [low]
        rfl
    | succ bit =>
        have high : (1 : Byte).getLsbD (bit + 1) = false := by
          rw [show (1 : Byte) = BitVec.twoPow 8 0 by decide,
            BitVec.getLsbD_twoPow]
          simp
        rw [high, Bool.and_false]
        simp
  · intro low zero
    have bits := congrArg (fun value => value.getLsbD 0) zero
    simp only [BitVec.getLsbD_and, low] at bits
    exact absurd bits (by decide)

theorem bitAt_zero (bytes : List Byte) :
    bitAt bytes 0 = (bytes.getD 0 0).getLsbD 0 := rfl

/-- The set bits of a start row that begins a segment and has zero padding are
its first start and its masked labels. -/
theorem sum_popcount_of_starts
    {sequenceLength : Nat} {starts : List Byte}
    (width : starts.length = startsBytesPerRow sequenceLength)
    (firstStart : starts.getD 0 0 &&& 1 ≠ 0)
    (padding : PaddingZero sequenceLength starts) :
    (starts.map popcount).sum = maskedLabels sequenceLength starts + 1 := by
  have covers : sequenceLength + 1 ≤ 8 * starts.length := by
    rw [width, startsBytesPerRow]
    omega
  have head : unpackBits (sequenceLength + 1) starts =
      true :: (unpackBits (sequenceLength + 1) starts).tail := by
    have first := (and_one_ne_zero_iff _).mp firstStart
    rw [unpackBits, List.range_succ_eq_map, List.map_cons, List.tail_cons,
      bitAt_zero, first]
  rw [sum_popcount_eq_countP_unpackBits covers
    fun index past => bitAt_eq_false_of_highBits width padding past, head,
    List.countP_cons_of_pos rfl]
  rfl

theorem RowValid.sum_popcount
    {sequenceLength vocabSize : Nat} {eosTokenId : Int}
    {tokens : List Nat} {starts : List Byte}
    (valid : RowValid sequenceLength vocabSize eosTokenId tokens starts) :
    (starts.map popcount).sum = maskedLabels sequenceLength starts + 1 :=
  sum_popcount_of_starts valid.starts_length valid.first_start valid.padding

theorem maskedLabels_le (sequenceLength : Nat) (starts : List Byte) :
    maskedLabels sequenceLength starts ≤ sequenceLength := by
  refine List.countP_le_length.trans ?_
  simp

/-! ## Payload files -/

/-- A payload must be a regular file of the exact size. -/
def requireExactPayload
    (sequenceLength : Nat) (shard : Shard Digest)
    (directory : Directory Digest Cursor) (kind : ShardKind) :
    Checked (List Byte) :=
  match directory.payload? (.shard shard.index kind) with
  | none => .error
      (.ioError "Packed payload must be a regular non-symlink file")
  | some file => do
      let _ ← require
        (file.bytes.length = shard.rows * rowBytes sequenceLength kind)
        (.ioError "Size mismatch")
      return file.bytes

/-- The bytes of a payload file; nothing if there is no such file. -/
def payloadBytes
    (directory : Directory Digest Cursor) (index : Nat) (kind : ShardKind) :
    List Byte :=
  ((directory.payload? (.shard index kind)).map File.bytes).getD []

/-- A payload file of a shard is regular and has the exact size. -/
def PayloadExact
    (sequenceLength : Nat) (directory : Directory Digest Cursor)
    (shard : Shard Digest) (kind : ShardKind) : Prop :=
  ∃ file, directory.payload? (.shard shard.index kind) = some file ∧
    file.bytes.length = shard.rows * rowBytes sequenceLength kind

theorem PayloadExact.length_payloadBytes
    {sequenceLength : Nat} {directory : Directory Digest Cursor}
    {shard : Shard Digest} {kind : ShardKind}
    (exact : PayloadExact sequenceLength directory shard kind) :
    (payloadBytes directory shard.index kind).length =
      shard.rows * rowBytes sequenceLength kind := by
  obtain ⟨file, found, size⟩ := exact
  rw [payloadBytes, found]
  exact size

theorem requireExactPayload_eq_ok
    {sequenceLength : Nat} {shard : Shard Digest}
    {directory : Directory Digest Cursor} {kind : ShardKind}
    {bytes : List Byte} :
    requireExactPayload sequenceLength shard directory kind = .ok bytes ↔
      PayloadExact sequenceLength directory shard kind ∧
        bytes = payloadBytes directory shard.index kind := by
  unfold requireExactPayload PayloadExact payloadBytes
  cases found : directory.payload? (.shard shard.index kind) with
  | none => simp
  | some file =>
      simp only [require_then_eq_ok, checked_pure_eq_ok, Option.some.injEq,
        exists_eq_left', Option.map_some, Option.getD_some]
      exact and_congr_right fun _ => eq_comm

theorem length_tokenRow
    {sequenceLength rows row : Nat} {bytes : List Byte}
    (size : bytes.length = rows * rowBytes sequenceLength .tokens)
    (bound : row < rows) :
    (tokenRow sequenceLength bytes row).length = sequenceLength + 1 := by
  have inside := Nat.mul_le_mul_right (rowBytes sequenceLength .tokens)
    (Nat.succ_le_of_lt bound)
  rw [Nat.succ_mul] at inside
  rw [tokenRow, length_decodeWords, length_slice (by omega), rowBytes,
    Nat.mul_div_cancel _ (by decide)]

theorem length_startsRow
    {sequenceLength rows row : Nat} {bytes : List Byte}
    (size : bytes.length = rows * rowBytes sequenceLength .starts)
    (bound : row < rows) :
    (startsRow sequenceLength bytes row).length =
      startsBytesPerRow sequenceLength := by
  have inside := Nat.mul_le_mul_right (rowBytes sequenceLength .starts)
    (Nat.succ_le_of_lt bound)
  rw [Nat.succ_mul] at inside
  exact length_slice (by omega)

/-! ## Chunks of rows -/

/-- `semantic_chunk_rows`. -/
def semanticChunkRows : Nat := 4096

/-- The two label counters that validation recomputes. -/
structure LabelCounters where
  maskedBoundaryLabels : Int
  validLossTokens : Int

/-- The checks on one chunk of rows; returns its masked labels. -/
def checkChunk
    (sequenceLength vocabSize : Nat) (eosTokenId : Int)
    (tokens : List (List Nat)) (starts : List (List Byte)) : Checked Int := do
  let _ ← require (∀ row ∈ tokens, ∀ token ∈ row, token < vocabSize)
    (.valueError "Token ID is outside the vocabulary")
  let _ ← require (∀ row ∈ starts, row.getD 0 0 &&& 1 ≠ 0)
    (.valueError "Packed row does not begin an attention segment")
  let _ ← require (∀ row ∈ starts, PaddingZero sequenceLength row)
    (.valueError "Unused high start bits are nonzero")
  let _ ← require
    (∀ row ∈ tokens.zip starts,
      BoundariesFollowEos sequenceLength eosTokenId row.1 row.2)
    (.valueError "Segment start is not preceded by EOS")
  let setStartBits : Nat := (starts.map fun row => (row.map popcount).sum).sum
  return (setStartBits : Int) - starts.length

/-- The counters after `rows` more rows with the given masked labels. -/
def LabelCounters.add
    (sequenceLength : Nat) (counters : LabelCounters)
    (rows : Nat) (masked : Int) : LabelCounters where
  maskedBoundaryLabels := counters.maskedBoundaryLabels + masked
  validLossTokens :=
    counters.validLossTokens + ((rows * sequenceLength : Nat) - masked)

theorem LabelCounters.add_add
    (sequenceLength : Nat) (counters : LabelCounters)
    (rows more : Nat) (masked others : Int) :
    (counters.add sequenceLength rows masked).add sequenceLength more others =
      counters.add sequenceLength (rows + more) (masked + others) := by
  simp only [add, Nat.add_mul, Nat.cast_add, LabelCounters.mk.injEq]
  omega

@[simp] theorem LabelCounters.add_zero
    (sequenceLength : Nat) (counters : LabelCounters) :
    counters.add sequenceLength 0 0 = counters := by
  simp [add]

/-- One turn of the loop over the chunks of a shard. -/
def checkRowsFrom
    (sequenceLength vocabSize : Nat) (eosTokenId : Int) (rows : Nat)
    (tokenBytes startBytes : List Byte)
    (counters : LabelCounters) (first : Nat) : Checked LabelCounters := do
  let chunkRows := chunk rows semanticChunkRows first
  let chunkMasked ← checkChunk sequenceLength vocabSize eosTokenId
    (chunkRows.map (tokenRow sequenceLength tokenBytes))
    (chunkRows.map (startsRow sequenceLength startBytes))
  return counters.add sequenceLength chunkRows.length chunkMasked

/-- The checks on one shard, chunk by chunk, with the counters so far. -/
def checkShardRows
    (sequenceLength vocabSize : Nat) (eosTokenId : Int) (rows : Nat)
    (tokenBytes startBytes : List Byte) (counters : LabelCounters) :
    Checked LabelCounters :=
  (chunkBegins rows semanticChunkRows).foldlM
    (checkRowsFrom sequenceLength vocabSize eosTokenId rows
      tokenBytes startBytes)
    counters

/-- The checks of `validate_packed_manifest` on one shard. -/
def validateShard [DecidableEq Digest]
    (sha256 : List Byte -> Digest) (verifyChecksums : Bool)
    (manifest : PackedManifest Digest Cursor)
    (directory : Directory Digest Cursor)
    (counters : LabelCounters) (shard : Shard Digest) :
    Checked LabelCounters := do
  let tokenBytes ←
    requireExactPayload manifest.sequenceLength shard directory .tokens
  let startBytes ←
    requireExactPayload manifest.sequenceLength shard directory .starts
  let _ ← require
    (verifyChecksums = true -> sha256 tokenBytes = shard.tokensSha256)
    (.ioError "Checksum mismatch")
  let _ ← require
    (verifyChecksums = true -> sha256 startBytes = shard.startsSha256)
    (.ioError "Checksum mismatch")
  checkShardRows manifest.sequenceLength manifest.vocabSize
    manifest.eosTokenId.toInt shard.rows tokenBytes startBytes counters

/-- The names that a validated directory may hold. -/
def expectedNames (shards : List (Shard Digest)) : List FileName :=
  .manifest :: shards.flatMap fun shard =>
    [.shard shard.index .tokens, .shard shard.index .starts]

/-- `validate_packed_manifest`. -/
def validatePackedManifest [DecidableEq Digest]
    (sha256 : List Byte -> Digest) (verifyChecksums : Bool)
    (directory : Directory Digest Cursor) :
    Checked (PackedManifest Digest Cursor) := do
  let document ← readManifest directory
  let manifest ← parsePackedManifest document
  let _ ← require
    (∀ name ∈ directory.keys, name ∈ expectedNames manifest.shards)
    (.valueError "Packed directory contains unknown files")
  let counters ← manifest.shards.foldlM
    (validateShard sha256 verifyChecksums manifest directory) ⟨0, 0⟩
  let _ ← require
    ((manifest.validLossTokens : Int) = counters.validLossTokens)
    (.valueError "Manifest valid_loss_tokens mismatch")
  let _ ← require
    ((manifest.maskedBoundaryLabels : Int) = counters.maskedBoundaryLabels)
    (.valueError "Manifest masked_boundary_labels mismatch")
  return manifest

/-! ## What validation establishes -/

section Chunks

variable {sequenceLength vocabSize : Nat} {eosTokenId : Int}
variable {tokenBytes startBytes : List Byte}

/-- A row of a shard is valid as its payload files show it. -/
def RowValidIn
    (sequenceLength vocabSize : Nat) (eosTokenId : Int)
    (tokenBytes startBytes : List Byte) (row : Nat) : Prop :=
  RowValid sequenceLength vocabSize eosTokenId
    (tokenRow sequenceLength tokenBytes row)
    (startsRow sequenceLength startBytes row)

/-- Masked labels of the given rows. -/
def maskedIn
    (sequenceLength : Nat) (startBytes : List Byte) (rows : List Nat) : Nat :=
  (rows.map fun row =>
    maskedLabels sequenceLength (startsRow sequenceLength startBytes row)).sum

theorem maskedIn_append
    (sequenceLength : Nat) (startBytes : List Byte) (rows others : List Nat) :
    maskedIn sequenceLength startBytes (rows ++ others) =
      maskedIn sequenceLength startBytes rows +
        maskedIn sequenceLength startBytes others := by
  simp [maskedIn]

/-- Valid rows have one set bit each beside their masked labels. -/
theorem sum_popcount_rows
    {rows : List Nat}
    (valid : ∀ row ∈ rows, RowValidIn sequenceLength vocabSize eosTokenId
      tokenBytes startBytes row) :
    ((rows.map (startsRow sequenceLength startBytes)).map fun starts =>
        (starts.map popcount).sum).sum =
      maskedIn sequenceLength startBytes rows + rows.length := by
  induction rows with
  | nil => rfl
  | cons row rest inductionHypothesis =>
      have first := (valid row (by simp)).sum_popcount
      have others := inductionHypothesis
        fun other member => valid other (List.mem_cons_of_mem _ member)
      simp only [maskedIn, List.map_cons, List.sum_cons, List.length_cons]
        at others ⊢
      omega

/-- A chunk passes exactly when all of its rows are valid. -/
theorem checkChunk_eq_ok
    {rows : List Nat} {masked : Int}
    (tokensWidth : ∀ row ∈ rows,
      (tokenRow sequenceLength tokenBytes row).length = sequenceLength + 1)
    (startsWidth : ∀ row ∈ rows,
      (startsRow sequenceLength startBytes row).length =
        startsBytesPerRow sequenceLength) :
    checkChunk sequenceLength vocabSize eosTokenId
        (rows.map (tokenRow sequenceLength tokenBytes))
        (rows.map (startsRow sequenceLength startBytes)) = .ok masked ↔
      (∀ row ∈ rows, RowValidIn sequenceLength vocabSize eosTokenId
        tokenBytes startBytes row) ∧
      masked = maskedIn sequenceLength startBytes rows := by
  have total (valid : ∀ row ∈ rows, RowValidIn sequenceLength vocabSize
      eosTokenId tokenBytes startBytes row) :
      ((((rows.map (startsRow sequenceLength startBytes)).map fun starts =>
          (starts.map popcount).sum).sum : Nat) : Int) -
        (rows.map (startsRow sequenceLength startBytes)).length =
      maskedIn sequenceLength startBytes rows := by
    rw [sum_popcount_rows valid, List.length_map]
    omega
  simp only [checkChunk, require_then_eq_ok, List.zip_map',
    List.forall_mem_map, checked_pure_eq_ok]
  constructor
  · rintro ⟨inVocabulary, firstStarts, paddings, boundaries, rfl⟩
    have valid : ∀ row ∈ rows, RowValidIn sequenceLength vocabSize eosTokenId
        tokenBytes startBytes row := fun row member =>
      { tokens_length := tokensWidth row member
        starts_length := startsWidth row member
        tokens_lt := inVocabulary row member
        first_start := firstStarts row member
        padding := paddings row member
        boundaries := boundaries row member }
    exact ⟨valid, total valid⟩
  · rintro ⟨valid, rfl⟩
    exact ⟨fun row member => (valid row member).tokens_lt,
      fun row member => (valid row member).first_start,
      fun row member => (valid row member).padding,
      fun row member => (valid row member).boundaries, total valid⟩

/-- The chunks of a shard pass exactly when all of their rows are valid. -/
theorem foldlM_checkRowsFrom_eq_ok
    {rows : Nat} {firsts : List Nat} {counters result : LabelCounters}
    (tokensSize : tokenBytes.length = rows * rowBytes sequenceLength .tokens)
    (startsSize : startBytes.length = rows * rowBytes sequenceLength .starts) :
    firsts.foldlM (checkRowsFrom sequenceLength vocabSize eosTokenId rows
        tokenBytes startBytes) counters = .ok result ↔
      (∀ row ∈ firsts.flatMap (chunk rows semanticChunkRows),
        RowValidIn sequenceLength vocabSize eosTokenId
          tokenBytes startBytes row) ∧
      result = counters.add sequenceLength
        (firsts.flatMap (chunk rows semanticChunkRows)).length
        (maskedIn sequenceLength startBytes
          (firsts.flatMap (chunk rows semanticChunkRows))) := by
  induction firsts generalizing counters with
  | nil =>
      simp only [List.foldlM_nil, checked_pure_eq_ok, List.flatMap_nil]
      simp [maskedIn]
      exact eq_comm
  | cons first rest inductionHypothesis =>
      have inside : ∀ row ∈ chunk rows semanticChunkRows first, row < rows :=
        fun row member => lt_of_mem_chunk member
      have tokensWidth := fun row member =>
        length_tokenRow tokensSize (inside row member)
      have startsWidth := fun row member =>
        length_startsRow startsSize (inside row member)
      rw [List.foldlM_cons, checked_bind_eq_ok, List.flatMap_cons]
      simp only [checkRowsFrom, checked_bind_eq_ok, checked_pure_eq_ok]
      constructor
      · rintro ⟨_, ⟨masked, checked, rfl⟩, others⟩
        obtain ⟨valid, rfl⟩ :=
          (checkChunk_eq_ok tokensWidth startsWidth).mp checked
        obtain ⟨othersValid, rfl⟩ := inductionHypothesis.mp others
        refine ⟨?_, ?_⟩
        · intro row member
          exact (List.mem_append.mp member).elim (valid row) (othersValid row)
        · rw [LabelCounters.add_add, List.length_append, maskedIn_append,
            Nat.cast_add]
      · rintro ⟨valid, rfl⟩
        refine ⟨_, ⟨_, (checkChunk_eq_ok tokensWidth startsWidth).mpr
            ⟨fun row member => valid row (List.mem_append_left _ member),
              rfl⟩, rfl⟩,
          inductionHypothesis.mpr ⟨fun row member =>
            valid row (List.mem_append_right _ member), ?_⟩⟩
        rw [LabelCounters.add_add, List.length_append, maskedIn_append,
          Nat.cast_add]

/-- A shard passes exactly when all of its rows are valid. -/
theorem checkShardRows_eq_ok
    {rows : Nat} {counters result : LabelCounters}
    (tokensSize : tokenBytes.length = rows * rowBytes sequenceLength .tokens)
    (startsSize : startBytes.length = rows * rowBytes sequenceLength .starts) :
    checkShardRows sequenceLength vocabSize eosTokenId rows
        tokenBytes startBytes counters = .ok result ↔
      (∀ row < rows, RowValidIn sequenceLength vocabSize eosTokenId
        tokenBytes startBytes row) ∧
      result = counters.add sequenceLength rows
        (maskedIn sequenceLength startBytes (List.range rows)) := by
  rw [checkShardRows, foldlM_checkRowsFrom_eq_ok tokensSize startsSize,
    flatMap_chunk rows (by decide), List.length_range]
  simp only [List.mem_range]

end Chunks

section Shards

variable [DecidableEq Digest] {sha256 : List Byte -> Digest}
variable {verifyChecksums : Bool} {manifest : PackedManifest Digest Cursor}
variable {directory : Directory Digest Cursor}

/-- What validation establishes of a shard. -/
structure ShardValid
    (sha256 : List Byte -> Digest) (verifyChecksums : Bool)
    (manifest : PackedManifest Digest Cursor)
    (directory : Directory Digest Cursor) (shard : Shard Digest) :
    Prop where
  exact : ∀ kind,
    PayloadExact manifest.sequenceLength directory shard kind
  checksum : verifyChecksums = true -> ∀ kind,
    sha256 (payloadBytes directory shard.index kind) = shard.sha256 kind
  rows : ∀ row < shard.rows,
    RowValidIn manifest.sequenceLength manifest.vocabSize
      manifest.eosTokenId.toInt
      (payloadBytes directory shard.index .tokens)
      (payloadBytes directory shard.index .starts) row

/-- Masked labels of a shard. -/
def shardMasked
    (manifest : PackedManifest Digest Cursor)
    (directory : Directory Digest Cursor) (shard : Shard Digest) : Nat :=
  maskedIn manifest.sequenceLength
    (payloadBytes directory shard.index .starts) (List.range shard.rows)

theorem validateShard_eq_ok
    {counters result : LabelCounters} {shard : Shard Digest} :
    validateShard sha256 verifyChecksums manifest directory counters shard =
        .ok result ↔
      ShardValid sha256 verifyChecksums manifest directory shard ∧
      result = counters.add manifest.sequenceLength shard.rows
        (shardMasked manifest directory shard) := by
  simp only [validateShard, checked_bind_eq_ok (α := List Byte),
    requireExactPayload_eq_ok, require_then_eq_ok]
  constructor
  · rintro ⟨_, ⟨tokens, rfl⟩, _, ⟨starts, rfl⟩, tokensSum, startsSum, checked⟩
    obtain ⟨valid, rfl⟩ := (checkShardRows_eq_ok tokens.length_payloadBytes
      starts.length_payloadBytes).mp checked
    refine ⟨⟨?_, ?_, valid⟩, rfl⟩
    · rintro (_ | _)
      · exact tokens
      · exact starts
    · rintro verify (_ | _)
      · exact tokensSum verify
      · exact startsSum verify
  · rintro ⟨valid, rfl⟩
    exact ⟨_, ⟨valid.exact .tokens, rfl⟩, _, ⟨valid.exact .starts, rfl⟩,
      fun verify => valid.checksum verify .tokens,
      fun verify => valid.checksum verify .starts,
      (checkShardRows_eq_ok (valid.exact .tokens).length_payloadBytes
        (valid.exact .starts).length_payloadBytes).mpr ⟨valid.rows, rfl⟩⟩

theorem foldlM_validateShard_eq_ok
    {shards : List (Shard Digest)} {counters result : LabelCounters} :
    shards.foldlM (validateShard sha256 verifyChecksums manifest directory)
        counters = .ok result ↔
      (∀ shard ∈ shards,
        ShardValid sha256 verifyChecksums manifest directory shard) ∧
      result = counters.add manifest.sequenceLength
        (Shard.totalRows shards)
        ((shards.map (shardMasked manifest directory)).sum : Nat) := by
  induction shards generalizing counters with
  | nil =>
      simp only [List.foldlM_nil, checked_pure_eq_ok]
      simp [Shard.totalRows]
      exact eq_comm
  | cons shard rest inductionHypothesis =>
      rw [List.foldlM_cons, checked_bind_eq_ok]
      simp only [validateShard_eq_ok, List.forall_mem_cons,
        inductionHypothesis, Shard.totalRows, List.map_cons, List.sum_cons,
        Nat.cast_add]
      constructor
      · rintro ⟨_, ⟨valid, rfl⟩, others, rfl⟩
        exact ⟨⟨valid, others⟩, LabelCounters.add_add ..⟩
      · rintro ⟨⟨valid, others⟩, rfl⟩
        exact ⟨_, ⟨valid, rfl⟩, others, (LabelCounters.add_add ..).symm⟩

/-- `validate_packed_manifest` accepts exactly the directories whose manifest
parses, that hold no other files, whose shards are valid and whose recorded
masked labels are those of their rows. -/
theorem validatePackedManifest_eq_ok :
    validatePackedManifest sha256 verifyChecksums directory = .ok manifest ↔
      ∃ document, readManifest directory = .ok document ∧
        parsePackedManifest document = .ok manifest ∧
        (∀ name ∈ directory.keys, name ∈ expectedNames manifest.shards) ∧
        (∀ shard ∈ manifest.shards,
          ShardValid sha256 verifyChecksums manifest directory shard) ∧
        (manifest.shards.map (shardMasked manifest directory)).sum =
          manifest.maskedBoundaryLabels := by
  have losses := manifest.loss_eq
  have total := manifest.totalRows_eq
  simp only [validatePackedManifest, checked_bind_eq_ok (α := LabelCounters),
    checked_bind_eq_ok (α := PackedManifestJson Digest Cursor),
    checked_bind_eq_ok (α := PackedManifest Digest Cursor),
    require_then_eq_ok, foldlM_validateShard_eq_ok, checked_pure_eq_ok]
  constructor
  · rintro ⟨document, read, _, parsed, names, _, ⟨valid, rfl⟩, -, masked, rfl⟩
    simp only [LabelCounters.add, Int.zero_add, Nat.cast_inj] at masked
    exact ⟨document, read, parsed, names, valid, masked.symm⟩
  · rintro ⟨document, read, parsed, names, valid, masked⟩
    refine ⟨document, read, manifest, parsed, names, _, ⟨valid, rfl⟩, ?_, ?_,
      rfl⟩
    · simp only [LabelCounters.add, masked, total]
      omega
    · simp only [LabelCounters.add, masked, Int.zero_add]

end Shards

end CodingLlm
