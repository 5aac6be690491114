import CodingLlm.Pretrain.PackedOutput
import CodingLlm.Pretrain.CrashResume

/-!
# Packing is exact

Documents packed by the writer are read back through the dataset as the windows
of their stream, for every shard width and every drain policy.
-/

namespace CodingLlm

open CrashLogic Words Slices PackedStream

variable {Digest Cursor : Type}

/-! ## Packing and reading back -/

/-- `add_document` on each document in turn. -/
def addDocuments (sha256 : List Byte -> Digest) :
    List (List Nat) -> PackedShardWriter Digest Cursor ->
      Fs Digest Cursor (PackedShardWriter Digest Cursor)
  | [], writer => pure writer
  | document :: rest, writer => do
      let writer ← writer.addDocument sha256 (document.map Int.ofNat) none
      addDocuments sha256 rest writer

/-- Construct the writer, add every document and finish. -/
def packDocuments [DecidableEq Digest]
    (sha256 : List Byte -> Digest)
    (arguments : WriterArguments Digest)
    (policy : DrainPolicy)
    (documents : List (List Nat)) :
    Fs Digest Cursor (PackedShardWriter Digest Cursor) := do
  let writer ← PackedShardWriter.init sha256 arguments policy false
  let writer ← addDocuments sha256 documents writer
  let (writer, _) ← writer.finish sha256 none
  return writer

/-- Read every row of a dataset. -/
def PackedShardDataset.readAll
    (dataset : PackedShardDataset Digest Cursor)
    (directory : Directory Digest Cursor) : Checked (List PackedRow) :=
  (List.range dataset.length).mapM fun row : Nat =>
    dataset.getItem directory row

/-- Pack documents into an empty directory and read every row back. -/
def packAndRead [DecidableEq Digest]
    (sha256 : List Byte -> Digest)
    (arguments : WriterArguments Digest)
    (policy : DrainPolicy)
    (documents : List (List Nat)) : Checked (List PackedRow) := do
  let outcome := (packDocuments sha256 arguments policy documents).run
    (∅ : Directory Digest Unit)
  let _ ← outcome.result
  let dataset ← PackedShardDataset.new sha256 true outcome.final
  dataset.readAll outcome.final

/-! ## What is read -/

/-- Row `row` of the stream of the documents. -/
structure ExactRow
    (sequenceLength eosTokenId : Nat) (documents : List (List Nat))
    (row : Nat) (item : PackedRow) : Prop where
  rowId_eq : item.rowId = row
  tokens_eq : item.tokens =
    slice (PackedStream.ofDocuments eosTokenId documents).tokens
      (row * sequenceLength) (sequenceLength + 1)
  tokens_length : item.tokens.length = sequenceLength + 1
  starts_length : item.starts.length = startsBytesPerRow sequenceLength
  bitAt_iff : ∀ bit, bitAt item.starts bit = true ↔
    bit ≤ sequenceLength ∧
      (bit = 0 ∨ IsDocumentStart documents (row * sequenceLength + bit))

/-- The bytes that a row of a stream is packed into. -/
def streamRow
    (sequenceLength eosTokenId : Nat) (documents : List (List Nat))
    (row : Nat) : PackedRow where
  tokens := (PackedStream.ofDocuments eosTokenId documents).rowTokens
    sequenceLength row
  starts := packBits
    ((PackedStream.ofDocuments eosTokenId documents).rowStarts
      sequenceLength row)
  rowId := row

theorem streamRow_exact
    {sequenceLength eosTokenId row : Nat} {documents : List (List Nat)}
    (fits : row * sequenceLength + sequenceLength + 1 ≤
      (PackedStream.ofDocuments eosTokenId documents).tokens.length) :
    ExactRow sequenceLength eosTokenId documents row
      (streamRow sequenceLength eosTokenId documents row) where
  rowId_eq := rfl
  tokens_eq := rfl
  tokens_length := length_rowTokens fits
  starts_length := by
    rw [streamRow, length_packBits, length_rowStarts fits]
    rfl
  bitAt_iff := by
    intro bit
    rw [streamRow, bitAt_packBits, List.getD_eq_getElem?_getD]
    by_cases inside : bit ≤ sequenceLength
    · have start : (PackedStream.ofDocuments eosTokenId documents).starts[
          row * sequenceLength + bit]? = some true ↔
            IsDocumentStart documents (row * sequenceLength + bit) :=
        getElem?_starts_iff
      rw [getElem?_rowStarts fits inside, ← start]
      by_cases first : bit = 0
      · simp [first]
      · rw [if_neg first]
        cases (PackedStream.ofDocuments eosTokenId documents).starts[
          row * sequenceLength + bit]? <;> simp [inside, first]
    · rw [List.getElem?_eq_none (by rw [length_rowStarts fits]; omega)]
      simp [inside]

namespace Construction

variable {construction : Construction Digest Cursor}
variable {commit : Commit Cursor} {count : Nat}
variable {directory : Directory Digest Cursor}
variable {writer : PackedShardWriter Digest Cursor}

/-- Adding the documents that are left. -/
theorem safely_addDocuments
    {rest : List (List Nat)}
    (settled : construction.Settled commit count writer directory)
    (left : construction.documents.drop count = rest) :
    construction.Safely (addDocuments construction.sha256 rest writer)
      (fun added current => ∃ commit, construction.Settled commit
        construction.documents.length added current) directory := by
  induction rest generalizing commit count writer directory with
  | nil =>
      have all : count = construction.documents.length :=
        le_antisymm settled.live.tracks.count_le
          (List.drop_eq_nil_iff.mp left)
      rw [addDocuments, Safely, Program.wp_pure]
      exact ⟨commit, all ▸ settled⟩
  | cons document rest inductionHypothesis =>
      have inside : count < construction.documents.length := by
        by_contra past
        rw [List.drop_eq_nil_of_le (not_lt.mp past)] at left
        cases left
      rw [List.drop_eq_getElem_cons inside, List.cons.injEq] at left
      obtain ⟨rfl, left⟩ := left
      have member := List.getElem_mem inside
      refine (safely_addDocument settled
        (checkTokens_ofNat (construction.documents_ne _ member)
          (construction.documents_lt _ member))
        (List.getElem?_eq_getElem inside) (by simp)).andThen ?_
      rintro added current ⟨next, settled⟩
      exact inductionHypothesis settled left

/-- Packing the documents of a construction completes it. -/
theorem safely_packDocuments
    [DecidableEq Digest]
    {arguments : WriterArguments Digest}
    (accepts : arguments.check = .ok construction.config)
    (policy : DrainPolicy) :
    construction.Safely
      (packDocuments construction.sha256 arguments policy
        construction.documents)
      (fun _ current => ∃ cursor, construction.Complete cursor current)
      ∅ := by
  unfold packDocuments
  refine (safely_init_empty accepts policy fun _ => rfl).andThen ?_
  intro writer current settled
  refine (safely_addDocuments settled (List.drop_zero ..)).andThen ?_
  rintro added current ⟨commit, settled⟩
  refine (safely_finish settled (by simp)).andThen ?_
  rintro ⟨finished, _⟩ current ⟨last, -, -, -, complete⟩
  rw [Safely, Program.wp_pure]
  exact ⟨last, complete⟩

theorem exists_complete
    [DecidableEq Digest]
    (construction : Construction Digest Cursor)
    {arguments : WriterArguments Digest}
    (accepts : arguments.check = .ok construction.config)
    (policy : DrainPolicy) :
    ∃ writer cursor,
      ((packDocuments construction.sha256 arguments policy
        construction.documents).run
          (∅ : Directory Digest Cursor)).result = .ok writer ∧
      construction.Complete cursor
        ((packDocuments construction.sha256 arguments policy
          construction.documents).run
          (∅ : Directory Digest Cursor)).final := by
  obtain ⟨writer, ended, cursor, complete⟩ :=
    (safely_packDocuments accepts policy).terminates
  exact ⟨writer, cursor, ended, complete⟩

/-- Packing the documents of a construction and reading the rows back. -/
theorem packAndRead_eq
    [DecidableEq Digest]
    (construction : Construction Digest Unit)
    {arguments : WriterArguments Digest}
    (accepts : arguments.check = .ok construction.config)
    (policy : DrainPolicy) :
    packAndRead construction.sha256 arguments policy
        construction.documents =
      .ok ((List.range
          (construction.rowsAt construction.documents.length)).map
        (streamRow construction.config.sequenceLength
          construction.config.eosTokenId construction.documents)) := by
  obtain ⟨writer, cursor, ended, complete⟩ :=
    construction.exists_complete accepts policy
  unfold packAndRead
  simp only
  rw [ended, checked_ok_bind, complete.opens true, checked_ok_bind,
    PackedShardDataset.readAll]
  refine checked_mapM_of_forall fun row member => ?_
  have bound : row < construction.rowsAt construction.documents.length :=
    List.mem_range.mp member
  rw [getItem_dataset complete.payloadsExact bound,
    complete.packedRow_eq bound]
  rfl

end Construction

/-! ## Exactness -/

/-- The construction of a caller that never checkpoints. -/
def packing
    (sha256 : List Byte -> Digest)
    (config : WriterConfig Digest)
    (documents : List (List Nat))
    (nonempty : ∀ document ∈ documents, document ≠ [])
    (inVocabulary : ∀ document ∈ documents, ∀ token ∈ document,
      token < config.vocabSize) : Construction Digest Cursor where
  config := config
  sha256 := sha256
  documents := documents
  documents_ne := nonempty
  documents_lt := inVocabulary
  Admits := fun commit => commit = .initial
  admits_initial := rfl

/-- What the writer packs is the stream, cut into overlapping rows, whatever
the shard width and the drain policy are. -/
theorem packing_exact
    [DecidableEq Digest]
    {sha256 : List Byte -> Digest} {arguments : WriterArguments Digest}
    {config : WriterConfig Digest} {documents : List (List Nat)}
    (accepts : arguments.check = .ok config)
    (nonempty : ∀ document ∈ documents, document ≠ [])
    (inVocabulary : ∀ document ∈ documents, ∀ token ∈ document,
      token < config.vocabSize)
    (policy : DrainPolicy) :
    let outcome := (packDocuments sha256 arguments policy documents).run
      (∅ : Directory Digest Unit)
    let length := (PackedStream.ofDocuments config.eosTokenId
      documents).tokens.length
    (∃ writer dataset, outcome.result = .ok writer ∧
      PackedShardDataset.new sha256 true outcome.final = .ok dataset ∧
      dataset.length =
        (if length = 0 then 0 else (length - 1) / config.sequenceLength) ∧
      (∀ row < dataset.length, ∃ item,
        dataset.getItem outcome.final row = .ok item ∧
        ExactRow config.sequenceLength config.eosTokenId documents row
          item) ∧
      FullButLast config.rowsPerShard dataset.manifest.shards) ∧
    ∀ (others : WriterArguments Digest) (otherConfig : WriterConfig Digest)
        (otherPolicy : DrainPolicy),
      others.check = .ok otherConfig ->
      otherConfig.sequenceLength = config.sequenceLength ->
      otherConfig.vocabSize = config.vocabSize ->
      otherConfig.eosTokenId = config.eosTokenId ->
      packAndRead sha256 others otherPolicy documents =
        packAndRead sha256 arguments policy documents := by
  intro outcome length
  let construction : Construction Digest Unit :=
    packing sha256 config documents nonempty inVocabulary
  refine ⟨?_, ?_⟩
  · obtain ⟨writer, cursor, ended, complete⟩ :=
      construction.exists_complete accepts policy
    have complete : construction.Complete cursor outcome.final := complete
    have rows : construction.rowsAt construction.documents.length =
        if length = 0 then 0 else (length - 1) / config.sequenceLength := by
      rw [Construction.rowsAt, ← construction.length_stream]
      split
      · rename_i zero
        rw [show construction.stream.tokens.length = 0 from zero, rowCount]
        exact Nat.zero_div _
      · rfl
    refine ⟨writer, _, ended, complete.opens true, rows, ?_,
      (construction.packedManifest cursor).fullButLast⟩
    intro row bound
    refine ⟨_, getItem_dataset complete.payloadsExact bound, ?_⟩
    rw [complete.packedRow_eq bound]
    exact streamRow_exact (Construction.row_inside_stream bound)
  · intro others otherConfig otherPolicy otherAccepts width vocabulary eos
    have otherInVocabulary : ∀ document ∈ documents, ∀ token ∈ document,
        token < otherConfig.vocabSize := by
      rwa [vocabulary]
    let other : Construction Digest Unit :=
      packing sha256 otherConfig documents nonempty otherInVocabulary
    have rows : other.rowsAt other.documents.length =
        construction.rowsAt construction.documents.length :=
      congrArg (fun sequenceLength => rowCount sequenceLength
        (position documents documents.length)) width
    refine (other.packAndRead_eq otherAccepts otherPolicy).trans ?_
    refine Eq.trans ?_ (construction.packAndRead_eq accepts policy).symm
    rw [rows, show other.config.sequenceLength = _ from width,
      show other.config.eosTokenId = _ from eos]
    rfl

/-- Two documents of four tokens in all, drained row by row into shards of one
row, and by default into shards of two. -/
theorem packing_exact_small :
    (∃ writer dataset,
      ((packDocuments id smallArguments ⟨1, 0, by decide⟩
        smallDocuments).run (∅ : Directory (List Byte) Unit)).result =
          .ok writer ∧
      PackedShardDataset.new id true
        ((packDocuments id smallArguments ⟨1, 0, by decide⟩
          smallDocuments).run (∅ : Directory (List Byte) Unit)).final =
            .ok dataset ∧
      dataset.length = 2) ∧
    packAndRead id { smallArguments with rowsPerShard := 2 } .default
        smallDocuments =
      packAndRead id smallArguments ⟨1, 0, by decide⟩ smallDocuments := by
  obtain ⟨⟨writer, dataset, ended, opens, rows, -⟩, independent⟩ :=
    @packing_exact (List Byte) _ id smallArguments smallConfig smallDocuments
      smallArguments_check (by decide) (by decide) ⟨1, 0, by decide⟩
  exact ⟨⟨writer, dataset, ended, opens, rows⟩,
    independent _ { smallConfig with
      rowsPerShard := 2
      rowsPerShard_pos := by decide } .default rfl rfl rfl rfl⟩

end CodingLlm
