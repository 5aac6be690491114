import CodingLlm.Pretrain.Format

/-!
# Parsing packed manifests

`_parse_packed_manifest` turns the JSON document into a checked manifest.  The
checks stand in the order of the source.
-/

namespace CodingLlm

variable {Digest Cursor : Type}

/-- Keep the equation under which a checked computation succeeded. -/
def evidence (computation : Checked α) :
    Checked {value : α // computation = .ok value} :=
  match computation with
  | .ok value => .ok ⟨value, rfl⟩
  | .error error => .error error

theorem evidence_eq_ok
    {computation : Checked α} {value : α}
    (succeeds : computation = .ok value) :
    evidence computation = .ok ⟨value, succeeds⟩ := by
  subst succeeds
  rfl

/-- `type(manifest.get(key)) is not int or manifest[key] < 0`. -/
def requireNonnegative (key : String) (value : PyValue) : Checked Nat :=
  match value.plainInt? with
  | some number =>
      if 0 ≤ number then .ok number.toNat
      else .error (.valueError ("Invalid '" ++ key ++ "'"))
  | none => .error (.valueError ("Invalid '" ++ key ++ "'"))

@[simp] theorem requireNonnegative_int (key : String) (value : Nat) :
    requireNonnegative key (.int value) = .ok value := by
  simp [requireNonnegative]

/-- `isinstance(value, int) and not isinstance(value, bool) and value >= 1`. -/
def requirePositive (value : PyValue) (error : PyError) :
    Checked {number : Nat // 1 ≤ number} :=
  match value.plainInt? with
  | some number =>
      if positive : 1 ≤ number then .ok ⟨number.toNat, by omega⟩
      else .error error
  | none => .error error

/-- What `requirePositive` returns is positive. -/
theorem positive_val (number : {number : Nat // 1 ≤ number}) :
    1 ≤ number.val :=
  number.property

theorem requirePositive_int
    (error : PyError) {value : Nat}
    (positive : 1 ≤ value) :
    requirePositive (.int value) error = .ok ⟨value, positive⟩ := by
  have cast : (1 : Int) ≤ value := by exact_mod_cast positive
  simp [requirePositive, cast]

/-- `isinstance(value, int)`, booleans included. -/
def requireInt (value : PyValue) (error : PyError) : Checked PyInt :=
  match value.pyInt? with
  | some number => .ok number
  | none => .error error

@[simp] theorem requireInt_int (error : PyError) (value : Int) :
    requireInt (.int value) error = .ok (.int value) := rfl

/-- A string out of a fixed set, or a non-empty string. -/
def requireString
    (value : PyValue) (accepted : String -> Option α) (error : PyError) :
    Checked α :=
  match value with
  | .str text =>
      match accepted text with
      | some result => .ok result
      | none => .error error
  | _ => .error error

theorem requireString_str
    {text : String} {accepted : String -> Option α} {result : α}
    (error : PyError)
    (found : accepted text = some result) :
    requireString (.str text) accepted error = .ok result := by
  simp [requireString, found]

/-- A non-empty string with the evidence that it is one. -/
def nonemptyString? (text : String) : Option {text : String // text ≠ ""} :=
  if nonempty : text ≠ "" then some ⟨text, nonempty⟩ else none

/-- An object, or the error for anything else. -/
def requireObject (value : Option α) (error : PyError) : Checked α :=
  match value with
  | some object => .ok object
  | none => .error error

@[simp] theorem requireObject_some (value : α) (error : PyError) :
    requireObject (some value) error = .ok value := rfl

theorem requireObject_eq_ok
    {value : Option α} {error : PyError} {object : α} :
    requireObject value error = .ok object ↔ value = some object := by
  cases value <;> simp [requireObject]

/-- The checks on the entry at `position` of the shard list. -/
def parseShard
    (sequenceLength rowsPerShard position : Nat)
    (last : Bool)
    (entry : Option (ShardJson Digest)) :
    Checked (Shard Digest) := do
  let payload ← requireObject entry (.valueError "Invalid shard entry")
  let _ ← require (payload.index.EqualsInt position)
    (.valueError "Non-contiguous shard index")
  let ⟨rows, _⟩ ← requirePositive payload.rows
    (.valueError "Invalid shard row count")
  let _ ← require (rows ≤ rowsPerShard)
    (.valueError "Invalid shard row count")
  let _ ← require (last = false -> rows = rowsPerShard)
    (.valueError "Only the final shard may be partial")
  let tokens ← requireObject payload.tokens
    (.valueError "Invalid shard payload metadata")
  let starts ← requireObject payload.starts
    (.valueError "Invalid shard payload metadata")
  let _ ← require (tokens.path = .shard position .tokens)
    (.valueError "Non-canonical token shard path")
  let _ ← require (starts.path = .shard position .starts)
    (.valueError "Non-canonical starts shard path")
  let _ ← require
    (tokens.bytes.EqualsInt (rows * rowBytes sequenceLength .tokens : Nat))
    (.valueError "Invalid recorded token shard size")
  let _ ← require
    (starts.bytes.EqualsInt (rows * rowBytes sequenceLength .starts : Nat))
    (.valueError "Invalid recorded starts shard size")
  let tokensSha256 ← tokens.sha256.requireSha256
  let startsSha256 ← starts.sha256.requireSha256
  return ⟨position, rows, tokensSha256, startsSha256⟩

/-- The loop over the shard list from `position` on. -/
def parseShards (sequenceLength rowsPerShard : Nat) :
    Nat -> List (Option (ShardJson Digest)) -> Checked (List (Shard Digest))
  | _, [] => .ok []
  | position, entry :: rest => do
      let shard ← parseShard sequenceLength rowsPerShard position
        rest.isEmpty entry
      let shards ← parseShards sequenceLength rowsPerShard (position + 1) rest
      return shard :: shards

theorem parseShard_ok
    {sequenceLength rowsPerShard position : Nat}
    {last : Bool}
    {entry : Option (ShardJson Digest)}
    {shard : Shard Digest}
    (parsed : parseShard sequenceLength rowsPerShard position last entry =
      .ok shard) :
    shard.index = position ∧
      (0 < shard.rows ∧ shard.rows ≤ rowsPerShard) ∧
      (last = false -> shard.rows = rowsPerShard) := by
  simp only [parseShard, checked_bind_eq_ok] at parsed
  obtain ⟨payload, -, -, -, ⟨rows, positive⟩, -, ⟨bounded⟩, -, ⟨full⟩, -,
    tokens, -, starts, -, -, -, -, -, -, -, -, -, tokensSha256, -,
    startsSha256, -, equal⟩ := parsed
  cases equal
  exact ⟨rfl, ⟨positive, bounded⟩, full⟩

/-- What the loop has checked of every shard it returns. -/
theorem parseShards_ok
    {sequenceLength rowsPerShard position : Nat}
    {entries : List (Option (ShardJson Digest))}
    {shards : List (Shard Digest)}
    (parsed : parseShards sequenceLength rowsPerShard position entries =
      .ok shards)
    (index : Nat) (bound : index < shards.length) :
    shards[index].index = position + index ∧
      (0 < shards[index].rows ∧ shards[index].rows ≤ rowsPerShard) ∧
      (index + 1 < shards.length -> shards[index].rows = rowsPerShard) := by
  induction entries generalizing position shards index with
  | nil =>
      cases parsed
      simp at bound
  | cons entry rest inductionHypothesis =>
      simp only [parseShards, checked_bind_eq_ok] at parsed
      obtain ⟨shard, shardParsed, tail, tailParsed, equal⟩ := parsed
      cases equal
      obtain ⟨shardIndex, shardRows, shardFull⟩ := parseShard_ok shardParsed
      cases index with
      | zero =>
          refine ⟨shardIndex, shardRows, ?_⟩
          intro more
          apply shardFull
          cases rest with
          | nil =>
              cases tailParsed
              simp at more
          | cons _ _ => rfl
      | succ index =>
          have smaller : index < tail.length := by simpa using bound
          obtain ⟨tailIndex, tailRows, tailFull⟩ :=
            inductionHypothesis tailParsed index smaller
          refine ⟨?_, tailRows, ?_⟩
          · simpa [Nat.add_assoc, Nat.add_comm 1] using tailIndex
          · intro more
            exact tailFull (by simpa using more)

/-- `_parse_packed_manifest`, from the loaded document on. -/
def parsePackedManifest (document : PackedManifestJson Digest Cursor) :
    Checked (PackedManifest Digest Cursor) := do
  let _ ← require (document.format = .str "packed-document-causal")
    (.valueError "Unsupported packed format")
  let _ ← require (document.formatVersion.EqualsInt formatVersion)
    (.valueError "Unsupported packed format version")
  let sequenceLength ←
    requireNonnegative "sequence_length" document.sequenceLength
  let tokensPerRow ← requireNonnegative "tokens_per_row" document.tokensPerRow
  let startsBytes ←
    requireNonnegative "starts_bytes_per_row" document.startsBytesPerRow
  let vocabSize ← requireNonnegative "vocab_size" document.vocabSize
  let rows ← requireNonnegative "rows" document.rows
  let inputTokens ← requireNonnegative "input_tokens" document.inputTokens
  let validLossTokens ←
    requireNonnegative "valid_loss_tokens" document.validLossTokens
  let maskedBoundaryLabels ←
    requireNonnegative "masked_boundary_labels" document.maskedBoundaryLabels
  let documents ← requireNonnegative "documents" document.documents
  let sourceContentTokens ←
    requireNonnegative "source_content_tokens" document.sourceContentTokens
  let streamTokens ← requireNonnegative "stream_tokens" document.streamTokens
  let unusedAsInputTailTokens ←
    requireNonnegative "unused_as_input_tail_tokens"
      document.unusedAsInputTailTokens
  let unstoredTailTokens ←
    requireNonnegative "unstored_tail_tokens" document.unstoredTailTokens
  let ⟨twoLe⟩ ← require (2 ≤ sequenceLength)
    (.valueError "Invalid row width")
  let _ ← require (tokensPerRow = sequenceLength + 1)
    (.valueError "Invalid row width")
  let _ ← require (startsBytes = startsBytesPerRow sequenceLength)
    (.valueError "Invalid starts width")
  let _ ← require (document.tokenDtype = .str tokenDtype)
    (.valueError "Unsupported token dtype")
  let _ ← require (document.startsEncoding = .str startsEncoding)
    (.valueError "Unsupported segment-start encoding")
  let domain ← requireString document.domain Domain.ofName?
    (.valueError "Invalid domain")
  let ⟨split, splitNonempty⟩ ← requireString document.split nonemptyString?
    (.valueError "Invalid split")
  let ⟨rowsPerShard, rowsPerShardPositive⟩ ←
    requirePositive document.rowsPerShard
      (.valueError "Invalid rows_per_shard")
  let ⟨vocabBounds⟩ ← require (1 ≤ vocabSize ∧ vocabSize ≤ tokenValues)
    (.valueError "Invalid vocabulary size")
  let eosTokenId ← requireInt document.eosTokenId
    (.valueError "Invalid EOS token ID")
  let ⟨eosBounds⟩ ← require
    (0 ≤ eosTokenId.toInt ∧ eosTokenId.toInt < vocabSize)
    (.valueError "Invalid EOS token ID")
  let ⟨inputEq⟩ ← require (inputTokens = rows * sequenceLength)
    (.valueError "Invalid input token count")
  let ⟨lossEq⟩ ← require
    (validLossTokens + maskedBoundaryLabels = inputTokens)
    (.valueError "Loss-token counters are inconsistent")
  let _ ← require (streamTokens = sourceContentTokens + documents)
    (.valueError "Source/EOS stream counters are inconsistent")
  let expectedUnusedTail : Int := (streamTokens : Int) - inputTokens
  let _ ← require
    (0 ≤ expectedUnusedTail ∧ expectedUnusedTail ≤ sequenceLength ∧
      (unusedAsInputTailTokens : Int) = expectedUnusedTail)
    (.valueError "Invalid unused input tail count")
  let storedUniqueStreamTokens : Nat :=
    if rows = 0 then 0 else inputTokens + 1
  let _ ← require
    ((unstoredTailTokens : Int) =
      (streamTokens : Int) - storedUniqueStreamTokens)
    (.valueError "Invalid unstored tail count")
  let tokenizerManifestSha256 ← document.tokenizerManifestSha256.requireSha256
  let curationPolicySha256 ← document.curationPolicySha256.optionalSha256
  let selectionManifestSha256 ←
    document.selectionManifestSha256.optionalSha256
  let cursor ← document.constructionLastSourceCursor.optionalMapping
  let entries ← requireObject document.shards
    (.valueError "Invalid shard list")
  let ⟨shards, shardsParsed⟩ ←
    evidence (parseShards sequenceLength rowsPerShard 0 entries)
  let ⟨totalEq⟩ ← require (Shard.totalRows shards = rows)
    (.valueError "Shard rows do not sum to manifest rows")
  return {
    domain, split, sequenceLength, vocabSize, eosTokenId, rowsPerShard, rows
    validLossTokens, maskedBoundaryLabels, documents, sourceContentTokens
    tokenizerManifestSha256, curationPolicySha256, selectionManifestSha256
    constructionSeed := document.constructionSeed
    constructionLastSourceCursor := cursor
    shards
    split_ne_empty := splitNonempty
    two_le_sequenceLength := twoLe
    vocabSize_bounds := vocabBounds
    eosTokenId_bounds := eosBounds
    rowsPerShard_pos := rowsPerShardPositive
    loss_eq := lossEq.trans inputEq
    shards_index := fun position bound => by
      simpa using (parseShards_ok shardsParsed position bound).1
    shards_rows := fun position bound =>
      (parseShards_ok shardsParsed position bound).2.1
    shards_full := fun position bound =>
      (parseShards_ok shardsParsed position bound).2.2
    totalRows_eq := totalEq
  }

end CodingLlm
