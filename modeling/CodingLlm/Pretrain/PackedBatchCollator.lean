import CodingLlm.Pretrain.PackedShardDataset

/-!
# Batches

`DomainMixtureDataset` routes an encoded reference to one of three packed
datasets; `PackedBatchCollator` makes model inputs, shifted labels, positions
and document ids of the rows.
-/

namespace CodingLlm

open Words Slices

variable {Digest Cursor : Type}

/-! ## Samples -/

/-- A packed row with the keys that `DomainMixtureDataset` adds.  The element
types are those of the two memory maps, so the collator's tests for integer
dtypes and for values of a byte hold of every sample. -/
structure SampleRow extends PackedRow where
  domainId : Nat
  sampleReference : Nat

/-- Add the keys of a domain and a reference to a packed row. -/
def PackedRow.sample
    (row : PackedRow) (domainId sampleReference : Nat) : SampleRow :=
  { row with domainId, sampleReference }

/-- `DomainMixtureDataset`: one packed dataset for each domain. -/
structure DomainMixtureDataset (Digest Cursor : Type) where
  datasets : Domain -> PackedShardDataset Digest Cursor

namespace DomainMixtureDataset

/-- The keys on which the manifests of a mixture must agree.  The row width
follows from the sequence length. -/
structure SharedKeys
    (manifest first : PackedManifest Digest Cursor) : Prop where
  sequenceLength : manifest.sequenceLength = first.sequenceLength
  vocabSize : manifest.vocabSize = first.vocabSize
  eosTokenId : manifest.eosTokenId.toInt = first.eosTokenId.toInt
  split : manifest.split = first.split
  tokenizer :
    manifest.tokenizerManifestSha256 = first.tokenizerManifestSha256

instance [DecidableEq Digest]
    (manifest first : PackedManifest Digest Cursor) :
    Decidable (SharedKeys manifest first) :=
  decidable_of_iff
    (manifest.sequenceLength = first.sequenceLength ∧
      manifest.vocabSize = first.vocabSize ∧
      manifest.eosTokenId.toInt = first.eosTokenId.toInt ∧
      manifest.split = first.split ∧
      manifest.tokenizerManifestSha256 = first.tokenizerManifestSha256)
    ⟨fun ⟨one, two, three, four, five⟩ => ⟨one, two, three, four, five⟩,
      fun ⟨one, two, three, four, five⟩ => ⟨one, two, three, four, five⟩⟩

/-- One turn of the constructor's loop over the opened datasets. -/
def checkDataset [DecidableEq Digest]
    (first manifest : PackedManifest Digest Cursor) (expected : Domain) :
    Checked Unit := do
  let _ ← require (manifest.domain = expected)
    (.valueError "Manifest declares another domain")
  let _ ← require (SharedKeys manifest first)
    (.valueError "All domain manifests must agree")
  return ()

/-- `DomainMixtureDataset(manifests, verify_checksums=...)`. -/
def new [DecidableEq Digest]
    (sha256 : List Byte -> Digest) (verifyChecksums : Bool)
    (directories : Domain -> Directory Digest Cursor) :
    Checked (DomainMixtureDataset Digest Cursor) := do
  let python ←
    PackedShardDataset.new sha256 verifyChecksums (directories .python)
  let otherCode ←
    PackedShardDataset.new sha256 verifyChecksums (directories .otherCode)
  let english ←
    PackedShardDataset.new sha256 verifyChecksums (directories .english)
  checkDataset python.manifest python.manifest .python
  checkDataset python.manifest otherCode.manifest .otherCode
  checkDataset python.manifest english.manifest .english
  return ⟨fun
    | .python => python
    | .otherCode => otherCode
    | .english => english⟩

/-- `__getitem__`. -/
def getItem
    (mixture : DomainMixtureDataset Digest Cursor)
    (directories : Domain -> Directory Digest Cursor) (reference : Nat) :
    Checked SampleRow := do
  let (domainId, rowId) := decodeReference reference
  let domain ← requireObject (Domain.ofId? domainId)
    (.indexError "Unknown encoded domain ID")
  let row ←
    (mixture.datasets domain).getItem (directories domain) rowId
  return row.sample domainId reference

end DomainMixtureDataset

/-! ## The collator -/

/-- `PackedBatchCollator`. -/
structure PackedBatchCollator where
  sequenceLength : Nat
  vocabSize : Option Int
  eosTokenId : Option Int

/-- What `PackedBatchCollator.__call__` returns. -/
structure Batch where
  inputIds : List (List Nat)
  labels : List (List Int)
  positionIds : List (List Int)
  documentIds : List (List Int)
  domainIds : List Nat
  rowIds : List Int
  sampleReferences : List Nat
  numLossTokens : Nat

namespace PackedBatchCollator

/-- `None`, or an integer that is no boolean. -/
def optionalInteger (field : String) : PyValue -> Checked (Option Int)
  | .null => .ok none
  | .int value => .ok (some value)
  | _ => .error (.typeError (field ++ " must be an integer"))

/-- `PackedBatchCollator(sequence_length, vocab_size=..., eos_token_id=...)`;
a missing argument is `null`. -/
def new (sequenceLength vocabSize eosTokenId : PyValue) :
    Checked PackedBatchCollator := do
  let sequenceLength ← requireObject sequenceLength.plainInt?
    (.typeError "sequence_length must be an integer")
  let _ ← require (2 ≤ sequenceLength)
    (.valueError "sequence_length must be at least 2")
  let _ ← require (vocabSize = .null ↔ eosTokenId = .null)
    (.valueError "vocab_size and eos_token_id must be supplied together")
  let vocabSize ← optionalInteger "vocab_size" vocabSize
  let eosTokenId ← optionalInteger "eos_token_id" eosTokenId
  let _ ← require (∀ size ∈ vocabSize, 1 ≤ size ∧ size ≤ tokenValues)
    (.valueError "vocab_size must fit in uint16")
  let _ ← require
    (∀ size ∈ vocabSize, ∀ eos ∈ eosTokenId, 0 ≤ eos ∧ eos < size)
    (.valueError "eos_token_id must be inside the vocabulary")
  return ⟨sequenceLength.toNat, vocabSize, eosTokenId⟩

/-- The start flags of a row. -/
def flags (sequenceLength : Nat) (row : SampleRow) : List Bool :=
  unpackBits (sequenceLength + 1) row.starts

/-- Running totals, as `np.cumsum` and `np.maximum.accumulate` of values that
are not negative. -/
def accumulate (combine : Int -> Int -> Int) (values : List Int) : List Int :=
  (values.scanl combine 0).tail

/-- `input_ids` of a row. -/
def inputIds (sequenceLength : Nat) (row : SampleRow) : List Nat :=
  row.tokens.take sequenceLength

/-- `labels` of a row: the next tokens, masked where one starts a segment. -/
def labels (sequenceLength : Nat) (row : SampleRow) : List Int :=
  List.zipWith (fun (token : Nat) start => if start then ignoreIndex else token)
    (row.tokens.drop 1) ((flags sequenceLength row).drop 1)

/-- `position_ids` of a row: the distance to the last start. -/
def positionIds (sequenceLength : Nat) (row : SampleRow) : List Int :=
  let inputStarts := (flags sequenceLength row).take sequenceLength
  let indices := (List.range sequenceLength).map Int.ofNat
  let lastStart := accumulate max
    (List.zipWith (fun start index => if start then index else 0)
      inputStarts indices)
  List.zipWith (· - ·) indices lastStart

/-- `document_ids` of a row: starts so far, from zero. -/
def documentIds (sequenceLength : Nat) (row : SampleRow) : List Int :=
  let inputStarts := (flags sequenceLength row).take sequenceLength
  (accumulate (· + ·) (inputStarts.map fun start => if start then 1 else 0)).map
    (· - 1)

/-- The tensors of rows that passed the checks. -/
def batch (sequenceLength : Nat) (rows : List SampleRow) : Batch where
  inputIds := rows.map (inputIds sequenceLength)
  labels := rows.map (labels sequenceLength)
  positionIds := rows.map (positionIds sequenceLength)
  documentIds := rows.map (documentIds sequenceLength)
  domainIds := rows.map SampleRow.domainId
  rowIds := rows.map fun row => row.rowId
  sampleReferences := rows.map SampleRow.sampleReference
  numLossTokens :=
    (rows.flatMap (labels sequenceLength)).countP fun label =>
      decide (label ≠ ignoreIndex)

/-- `__call__`. -/
def call (collator : PackedBatchCollator) (rows : List SampleRow) :
    Checked Batch := do
  let _ ← require (rows ≠ []) (.valueError "Cannot collate an empty batch")
  let _ ← require
    (∀ row ∈ rows, ∀ other ∈ rows, row.tokens.length = other.tokens.length)
    (.valueError "all input arrays must have the same shape")
  let _ ← require
    (∀ row ∈ rows, ∀ other ∈ rows, row.starts.length = other.starts.length)
    (.valueError "all input arrays must have the same shape")
  let _ ← require
    (∀ row ∈ rows, row.tokens.length = collator.sequenceLength + 1)
    (.valueError "Unexpected token batch shape")
  let _ ← require
    (∀ row ∈ rows,
      row.starts.length = startsBytesPerRow collator.sequenceLength)
    (.valueError "Unexpected starts batch shape")
  let _ ← require
    (∀ size ∈ collator.vocabSize, ∀ row ∈ rows, ∀ token ∈ row.tokens,
      (token : Int) < size)
    (.valueError "Packed batch contains a token outside the vocabulary")
  let _ ← require
    (∀ row ∈ rows, PaddingZero collator.sequenceLength row.starts)
    (.valueError "Packed batch has nonzero unused segment-start bits")
  let _ ← require
    (∀ row ∈ rows, (flags collator.sequenceLength row).getD 0 false = true)
    (.valueError "Every packed row must begin a new attention segment")
  let _ ← require
    (∀ eos ∈ collator.eosTokenId, ∀ row ∈ rows,
      BoundariesFollowEos collator.sequenceLength eos row.tokens row.starts)
    (.valueError "Packed batch has a segment start not preceded by EOS")
  return batch collator.sequenceLength rows

/-- The constructor accepts integers of an accepted manifest. -/
theorem new_eq_ok
    {sequenceLength vocabSize : Nat} {eosTokenId : Int}
    (width : 2 ≤ sequenceLength)
    (size : 1 ≤ vocabSize ∧ vocabSize ≤ tokenValues)
    (eos : 0 ≤ eosTokenId ∧ eosTokenId < vocabSize) :
    new (.int sequenceLength) (.int vocabSize) (.int eosTokenId) =
      .ok ⟨sequenceLength, some vocabSize, some eosTokenId⟩ := by
  unfold new
  rw [PyValue.plainInt?_int, requireObject_some, checked_ok_bind]
  refine (require_bind (by omega) _).trans ?_
  refine (require_bind (by simp) _).trans ?_
  simp only [optionalInteger, checked_ok_bind]
  refine (require_bind (by rintro _ ⟨⟩; omega) _).trans ?_
  refine (require_bind (by rintro _ ⟨⟩ _ ⟨⟩; exact eos) _).trans ?_
  rfl

/-! ## What is collated -/

section Rows

variable {sequenceLength vocabSize : Nat} {eosTokenId : Int}
variable {row : SampleRow} {rows : List SampleRow}

/-- A sample whose packed row is valid. -/
def SampleValid
    (sequenceLength vocabSize : Nat) (eosTokenId : Int)
    (row : SampleRow) : Prop :=
  RowValid sequenceLength vocabSize eosTokenId row.tokens row.starts

/-- The collator raises on no batch of valid rows. -/
theorem call_eq_ok
    (nonempty : rows ≠ [])
    (valid : ∀ row ∈ rows,
      SampleValid sequenceLength vocabSize eosTokenId row) :
    call ⟨sequenceLength, some vocabSize, some eosTokenId⟩ rows =
      .ok (batch sequenceLength rows) := by
  have tokensWidth := fun row member => (valid row member).tokens_length
  have startsWidth := fun row member => (valid row member).starts_length
  simp only [call, require_then_eq_ok, checked_pure_eq_ok]
  refine ⟨nonempty, ?_, ?_, tokensWidth, startsWidth, ?_, ?_, ?_, ?_,
    trivial⟩
  · intro row member other otherMember
    rw [tokensWidth row member, tokensWidth other otherMember]
  · intro row member other otherMember
    rw [startsWidth row member, startsWidth other otherMember]
  · rintro size equal row member token inRow
    cases equal
    exact_mod_cast (valid row member).tokens_lt token inRow
  · exact fun row member => (valid row member).padding
  · intro row member
    have first := (and_one_ne_zero_iff _).mp (valid row member).first_start
    rw [flags, unpackBits, List.range_succ_eq_map, List.map_cons,
      List.getD_cons_zero, bitAt_zero, first]
  · rintro eos equal row member
    cases equal
    exact (valid row member).boundaries

theorem getElem?_flags
    {column : Nat} (bound : column ≤ sequenceLength) :
    (flags sequenceLength row)[column]? =
      some (bitAt row.starts column) := by
  rw [flags, unpackBits, List.getElem?_map, List.getElem?_range (by omega)]
  rfl

/-- The input of a column is its token. -/
theorem getElem?_inputIds
    {column : Nat} (bound : column < sequenceLength) :
    (inputIds sequenceLength row)[column]? = row.tokens[column]? := by
  rw [inputIds, List.getElem?_take, if_pos bound]

/-- The label of a column is the next token, or masked if that starts a
segment. -/
theorem getElem?_labels
    {column : Nat} (bound : column < sequenceLength) :
    (labels sequenceLength row)[column]? =
      row.tokens[column + 1]?.map fun token =>
        if bitAt row.starts (column + 1) then ignoreIndex else token := by
  rw [labels, List.getElem?_zipWith, List.getElem?_drop, List.getElem?_drop,
    Nat.add_comm 1, getElem?_flags (by omega)]
  cases row.tokens[column + 1]? <;> rfl

/-- A token is never the index that masks a label. -/
theorem natCast_ne_ignoreIndex (token : Nat) : (token : Int) ≠ ignoreIndex := by
  unfold ignoreIndex
  omega

/-- Labels that count are those that no start masks. -/
theorem countP_zipWith_labels
    {tokens : List Nat} {starts : List Bool}
    (same : tokens.length = starts.length) :
    (List.zipWith (fun (token : Nat) start =>
        if start then ignoreIndex else (token : Int)) tokens starts).countP
        (fun label => decide (label ≠ ignoreIndex)) + starts.countP id =
      tokens.length := by
  induction tokens generalizing starts with
  | nil =>
      cases starts with
      | nil => rfl
      | cons start rest => cases same
  | cons token tokens inductionHypothesis =>
      cases starts with
      | nil => cases same
      | cons start rest =>
          have others := inductionHypothesis (Nat.succ.inj same)
          cases start with
          | true =>
              rw [List.zipWith_cons_cons, List.countP_cons_of_neg (by simp),
                List.countP_cons_of_pos rfl, List.length_cons]
              omega
          | false =>
              rw [List.zipWith_cons_cons,
                List.countP_cons_of_pos
                  (by simpa using natCast_ne_ignoreIndex token),
                List.countP_cons_of_neg (by simp), List.length_cons]
              omega

theorem countP_labels
    (width : row.tokens.length = sequenceLength + 1) :
    (labels sequenceLength row).countP
        (fun label => decide (label ≠ ignoreIndex)) +
      maskedLabels sequenceLength row.starts = sequenceLength := by
  have counted := @countP_zipWith_labels (row.tokens.drop 1)
    ((flags sequenceLength row).drop 1) (by simp [flags, width])
  rw [List.length_drop, width, Nat.add_sub_cancel] at counted
  rw [maskedLabels, ← List.drop_one]
  exact counted

/-- `num_loss_tokens` of a batch, with the masked labels of its rows, makes up
all of its labels. -/
theorem numLossTokens_batch
    (width : ∀ row ∈ rows, row.tokens.length = sequenceLength + 1) :
    (batch sequenceLength rows).numLossTokens +
        (rows.map fun row => maskedLabels sequenceLength row.starts).sum =
      rows.length * sequenceLength := by
  simp only [batch]
  induction rows with
  | nil => simp
  | cons row rest inductionHypothesis =>
      have others := inductionHypothesis fun other member =>
        width other (List.mem_cons_of_mem _ member)
      have first := countP_labels (width row (by simp))
      rw [List.flatMap_cons, List.countP_append, List.map_cons,
        List.sum_cons, List.length_cons, Nat.succ_mul]
      omega

end Rows

end PackedBatchCollator

/-! ## Batches of a packed dataset -/

section Datasets

variable {manifest : PackedManifest Digest Cursor}
variable {directory : Directory Digest Cursor}
variable {domainId : Nat} {references : Nat -> Nat}

/-- Read rows of one domain and collate them. -/
def PackedBatchCollator.collateRows
    (collator : PackedBatchCollator)
    (dataset : PackedShardDataset Digest Cursor)
    (directory : Directory Digest Cursor)
    (domainId : Nat) (references : Nat -> Nat) (ids : List Nat) :
    Checked Batch := do
  let samples ← ids.mapM fun row : Nat => do
    let item ← dataset.getItem directory row
    return item.sample domainId (references row)
  collator.call samples

/-- The sample of a row of a packed directory. -/
def packedSample
    (manifest : PackedManifest Digest Cursor)
    (directory : Directory Digest Cursor)
    (domainId : Nat) (references : Nat -> Nat) (row : Nat) : SampleRow :=
  (packedRow manifest directory row).sample domainId (references row)

@[simp] theorem packedSample_rowId
    (manifest : PackedManifest Digest Cursor)
    (directory : Directory Digest Cursor)
    (domainId : Nat) (references : Nat -> Nat) (row : Nat) :
    (packedSample manifest directory domainId references row).rowId = row :=
  rfl

/-- The collator of a validated directory raises on no batch of its rows. -/
theorem collateRows_eq_ok
    {ids : List Nat}
    (exact : PayloadsExact manifest directory)
    (valid : ∀ row < manifest.rows, PackedRowValid manifest directory row)
    (nonempty : ids ≠ [])
    (bound : ∀ row ∈ ids, row < manifest.rows) :
    PackedBatchCollator.collateRows
        ⟨manifest.sequenceLength, some manifest.vocabSize,
          some manifest.eosTokenId.toInt⟩
        manifest.dataset directory domainId references ids =
      .ok (PackedBatchCollator.batch manifest.sequenceLength
        (ids.map (packedSample manifest directory domainId references))) := by
  have read : ids.mapM (fun row : Nat => do
      let item ← manifest.dataset.getItem directory row
      return item.sample domainId (references row)) =
      .ok (ids.map
        (packedSample manifest directory domainId references)) := by
    refine checked_mapM_of_forall fun row member => ?_
    rw [getItem_dataset exact (bound row member), checked_ok_bind]
    rfl
  rw [PackedBatchCollator.collateRows, read, checked_ok_bind]
  refine PackedBatchCollator.call_eq_ok (by simpa using nonempty) ?_
  rw [List.forall_mem_map]
  exact fun row member => valid row (bound row member)

end Datasets

end CodingLlm
