import CodingLlm.Pretrain.PackedShardWriter

/-!
# The packed stream

What packing means, independently of how the writer does it: the documents
become one stream of tokens, each document followed by one EOS, and row `r` is
the window of `T + 1` tokens that starts at position `r * T`.
-/

namespace CodingLlm

open Words Slices

/-- A token stream with its document-start flags. -/
structure PackedStream where
  tokens : List Nat
  starts : List Bool
  same_length : starts.length = tokens.length

namespace PackedStream

/-- The stream of a list of documents. -/
def ofDocuments (eosTokenId : Nat) (documents : List (List Nat)) :
    PackedStream where
  tokens := documents.flatMap fun document => document ++ [eosTokenId]
  starts := documents.flatMap fun document =>
    true :: List.replicate document.length false
  same_length := by
    simp [List.length_flatMap]

/-- Stream positions taken by the first `count` documents. -/
def position (documents : List (List Nat)) (count : Nat) : Nat :=
  ((documents.take count).map fun document => document.length + 1).sum

/-- The position is the first token of a document. -/
def IsDocumentStart (documents : List (List Nat)) (index : Nat) : Prop :=
  ∃ count < documents.length, position documents count = index

/-- Rows that a stream of the given length fills. -/
def rowCount (sequenceLength length : Nat) : Nat :=
  (length - 1) / sequenceLength

variable (stream : PackedStream)

/-- The tokens of a row. -/
def rowTokens (sequenceLength row : Nat) : List Nat :=
  slice stream.tokens (row * sequenceLength) (sequenceLength + 1)

/-- The start flags of a row, the first one forced. -/
def rowStarts (sequenceLength row : Nat) : List Bool :=
  forceFirst (slice stream.starts (row * sequenceLength) (sequenceLength + 1))

/-- The bytes of a row in a payload file. -/
def rowContent (sequenceLength : Nat) : ShardKind -> Nat -> List Byte
  | .tokens, row =>
      encodeWords tokenItemSize (stream.rowTokens sequenceLength row)
  | .starts, row => packBits (stream.rowStarts sequenceLength row)

/-- The bytes of consecutive rows in a payload file. -/
def content
    (sequenceLength : Nat) (kind : ShardKind) (first count : Nat) :
    List Byte :=
  pieces (stream.rowContent sequenceLength kind) first count

/-- Starts past the first column of a row: its masked labels. -/
def rowMasked (sequenceLength row : Nat) : Nat :=
  (stream.rowStarts sequenceLength row).tail.countP id

/-- Masked labels of the first rows. -/
def masked (sequenceLength rows : Nat) : Nat :=
  ((List.range rows).map (stream.rowMasked sequenceLength)).sum

/-! ## Positions -/

section Positions

variable {eosTokenId : Nat} {documents : List (List Nat)}

@[simp] theorem position_zero : position documents 0 = 0 := by
  simp [position]

theorem position_succ
    {count : Nat} (bound : count < documents.length) :
    position documents (count + 1) =
      position documents count + (documents[count].length + 1) := by
  simp only [position]
  rw [List.take_add_one, List.getElem?_eq_getElem bound, List.map_append,
    List.sum_append]
  rfl

theorem position_mono {first second : Nat} (le : first ≤ second) :
    position documents first ≤ position documents second := by
  obtain ⟨more, rfl⟩ := Nat.exists_eq_add_of_le le
  simp only [position, List.take_add, List.map_append, List.sum_append]
  omega

theorem le_position {count : Nat} (bound : count ≤ documents.length) :
    count ≤ position documents count := by
  induction count with
  | zero => simp
  | succ count inductionHypothesis =>
      rw [position_succ (by omega)]
      have := inductionHypothesis (by omega)
      omega

theorem length_tokens_ofDocuments :
    (ofDocuments eosTokenId documents).tokens.length =
      position documents documents.length := by
  simp [ofDocuments, position, List.length_flatMap]

/-- The first `position documents count` tokens are those of the first
`count` documents. -/
theorem take_position_tokens
    (eosTokenId : Nat) (documents : List (List Nat)) (count : Nat) :
    (ofDocuments eosTokenId documents).tokens.take
        (position documents count) =
      (ofDocuments eosTokenId (documents.take count)).tokens := by
  have split : (ofDocuments eosTokenId documents).tokens =
      (ofDocuments eosTokenId (documents.take count)).tokens ++
        (ofDocuments eosTokenId (documents.drop count)).tokens := by
    simp only [ofDocuments]
    rw [← List.flatMap_append, List.take_append_drop]
  have length : position documents count =
      (ofDocuments eosTokenId (documents.take count)).tokens.length := by
    simp [ofDocuments, position, List.length_flatMap]
  rw [split, length, List.take_left]

theorem take_position_starts
    (eosTokenId : Nat) (documents : List (List Nat)) (count : Nat) :
    (ofDocuments eosTokenId documents).starts.take
        (position documents count) =
      (ofDocuments eosTokenId (documents.take count)).starts := by
  have split : (ofDocuments eosTokenId documents).starts =
      (ofDocuments eosTokenId (documents.take count)).starts ++
        (ofDocuments eosTokenId (documents.drop count)).starts := by
    simp only [ofDocuments]
    rw [← List.flatMap_append, List.take_append_drop]
  have length : position documents count =
      (ofDocuments eosTokenId (documents.take count)).starts.length := by
    simp [ofDocuments, position, List.length_flatMap]
  rw [split, length, List.take_left]

/-- The slice between two document positions is the document and its EOS. -/
theorem slice_position_tokens
    (eosTokenId : Nat) {count : Nat} (bound : count < documents.length) :
    slice (ofDocuments eosTokenId documents).tokens
        (position documents count) (documents[count].length + 1) =
      documents[count] ++ [eosTokenId] := by
  have taken := take_position_tokens eosTokenId documents (count + 1)
  have before := take_position_tokens eosTokenId documents count
  have grown : (ofDocuments eosTokenId (documents.take (count + 1))).tokens =
      (ofDocuments eosTokenId (documents.take count)).tokens ++
        (documents[count] ++ [eosTokenId]) := by
    simp only [ofDocuments]
    rw [List.take_add_one, List.getElem?_eq_getElem bound,
      List.flatMap_append]
    simp
  rw [position_succ bound, List.take_add, before, grown] at taken
  exact List.append_cancel_left taken

theorem slice_position_starts
    (eosTokenId : Nat) {count : Nat} (bound : count < documents.length) :
    slice (ofDocuments eosTokenId documents).starts
        (position documents count) (documents[count].length + 1) =
      true :: List.replicate documents[count].length false := by
  have taken := take_position_starts eosTokenId documents (count + 1)
  have before := take_position_starts eosTokenId documents count
  have grown : (ofDocuments eosTokenId (documents.take (count + 1))).starts =
      (ofDocuments eosTokenId (documents.take count)).starts ++
        (true :: List.replicate documents[count].length false) := by
    simp only [ofDocuments]
    rw [List.take_add_one, List.getElem?_eq_getElem bound,
      List.flatMap_append]
    simp
  rw [position_succ bound, List.take_add, before, grown] at taken
  exact List.append_cancel_left taken

/-- Every stream position lies in exactly one document with its EOS. -/
theorem exists_document_of_lt
    {index : Nat}
    (bound : index < position documents documents.length) :
    ∃ count, ∃ inside : count < documents.length,
      position documents count ≤ index ∧
        index < position documents count + (documents[count].length + 1) := by
  have search : ∀ count ≤ documents.length,
      index < position documents count ->
        ∃ earlier, ∃ inside : earlier < documents.length,
          position documents earlier ≤ index ∧
            index < position documents earlier +
              (documents[earlier].length + 1) := by
    intro count
    induction count with
    | zero =>
        intro _ impossible
        simp at impossible
    | succ count inductionHypothesis =>
        intro within below
        by_cases earlier : index < position documents count
        · exact inductionHypothesis (by omega) earlier
        · rw [position_succ (by omega)] at below
          exact ⟨count, by omega, by omega, below⟩
  exact search documents.length le_rfl bound

/-- Inside a document there is no further start. -/
theorem not_isDocumentStart_between
    {count index : Nat}
    (low : position documents count < index)
    (high : index < position documents (count + 1)) :
    ¬IsDocumentStart documents index := by
  rintro ⟨other, -, rfl⟩
  rcases Nat.lt_or_ge count other with after | before
  · exact absurd high (not_lt.mpr (position_mono after))
  · exact absurd low (not_lt.mpr (position_mono before))

/-- The start flag of a stream position says whether it is the first token of
a document. -/
theorem getElem?_starts_iff
    {index : Nat} :
    (ofDocuments eosTokenId documents).starts[index]? = some true ↔
      IsDocumentStart documents index := by
  constructor
  · intro found
    have bound : index < position documents documents.length := by
      have := (List.getElem?_eq_some_iff.mp found).1
      rwa [(ofDocuments eosTokenId documents).same_length,
        length_tokens_ofDocuments] at this
    obtain ⟨count, inside, low, high⟩ := exists_document_of_lt bound
    refine ⟨count, inside, ?_⟩
    have entry := congrArg (fun row => row[index - position documents count]?)
      (slice_position_starts eosTokenId inside)
    simp only [getElem?_slice] at entry
    rw [if_pos (by omega), Nat.add_sub_cancel' low, found] at entry
    by_contra different
    obtain ⟨offset, offsetEq⟩ :
        ∃ offset, index - position documents count = offset + 1 :=
      ⟨index - position documents count - 1, by omega⟩
    rw [offsetEq, List.getElem?_cons_succ] at entry
    have impossible := List.mem_of_getElem? entry.symm
    simp at impossible
  · rintro ⟨count, inside, rfl⟩
    have entry := congrArg (fun row => row[0]?)
      (slice_position_starts eosTokenId inside)
    simpa [getElem?_slice] using entry

/-- A document start other than the first follows an EOS. -/
theorem eos_before_start
    {index : Nat}
    (start : IsDocumentStart documents (index + 1)) :
    (ofDocuments eosTokenId documents).tokens[index]? = some eosTokenId := by
  obtain ⟨count, inside, positionEq⟩ := start
  obtain ⟨previous, rfl⟩ : ∃ previous, count = previous + 1 := by
    cases count with
    | zero => simp at positionEq
    | succ previous => exact ⟨previous, rfl⟩
  have previousInside : previous < documents.length := by omega
  rw [position_succ previousInside] at positionEq
  have entry := congrArg (fun row => row[documents[previous].length]?)
    (slice_position_tokens eosTokenId previousInside)
  simp only [getElem?_slice] at entry
  rw [if_pos (by omega)] at entry
  have place : position documents previous + documents[previous].length =
      index := by omega
  rw [place] at entry
  simpa using entry

/-- Stream tokens are document tokens or EOS. -/
theorem mem_tokens_ofDocuments
    {token : Nat}
    (member : token ∈ (ofDocuments eosTokenId documents).tokens) :
    token = eosTokenId ∨ ∃ document ∈ documents, token ∈ document := by
  simp only [ofDocuments, List.mem_flatMap, List.mem_append,
    List.mem_singleton] at member
  obtain ⟨document, documentMember, inDocument | isEos⟩ := member
  · exact .inr ⟨document, documentMember, inDocument⟩
  · exact .inl isEos

end Positions

/-! ## Rows -/

section Rows

variable {stream} {sequenceLength row : Nat}

/-- A row that the stream fills ends inside it. -/
theorem row_fits
    {length : Nat}
    (positive : 0 < sequenceLength)
    (bound : row < rowCount sequenceLength length) :
    row * sequenceLength + sequenceLength + 1 ≤ length := by
  have fits : (row + 1) * sequenceLength ≤ length - 1 :=
    (Nat.le_div_iff_mul_le positive).mp bound
  have : 0 < (row + 1) * sequenceLength := by positivity
  rw [Nat.add_mul, Nat.one_mul] at fits this
  omega

/-- The rows of a stream leave at most a row's inputs over. -/
theorem rowCount_spec
    (length : Nat)
    (positive : 0 < sequenceLength) :
    rowCount sequenceLength length * sequenceLength ≤ length - 1 ∧
      length - 1 < rowCount sequenceLength length * sequenceLength +
        sequenceLength := by
  unfold rowCount
  have := Nat.div_add_mod (length - 1) sequenceLength
  have := Nat.mod_lt (length - 1) positive
  rw [Nat.mul_comm]
  omega

theorem length_rowTokens
    (fits : row * sequenceLength + sequenceLength + 1 ≤
      stream.tokens.length) :
    (stream.rowTokens sequenceLength row).length = sequenceLength + 1 :=
  length_slice (by omega)

@[simp] theorem length_forceFirst (flags : List Bool) :
    (forceFirst flags).length = flags.length := by
  cases flags <;> rfl

theorem length_rowStarts
    (fits : row * sequenceLength + sequenceLength + 1 ≤
      stream.tokens.length) :
    (stream.rowStarts sequenceLength row).length = sequenceLength + 1 := by
  rw [rowStarts, length_forceFirst]
  exact length_slice (by rw [stream.same_length]; omega)

/-- The first flag of a row is set and the others are those of the stream. -/
theorem getElem?_rowStarts
    {column : Nat}
    (fits : row * sequenceLength + sequenceLength + 1 ≤
      stream.tokens.length)
    (bound : column ≤ sequenceLength) :
    (stream.rowStarts sequenceLength row)[column]? =
      if column = 0 then some true
      else stream.starts[row * sequenceLength + column]? := by
  have nonempty : slice stream.starts (row * sequenceLength)
      (sequenceLength + 1) ≠ [] := by
    apply List.ne_nil_of_length_pos
    rw [length_slice (by rw [stream.same_length]; omega)]
    omega
  obtain ⟨first, rest, cons⟩ := List.exists_cons_of_ne_nil nonempty
  have entry := getElem?_slice stream.starts (row * sequenceLength)
    (sequenceLength + 1) column
  rw [if_pos (by omega), cons] at entry
  rw [rowStarts, cons, forceFirst]
  cases column with
  | zero => simp
  | succ column => simpa using entry

theorem getElem?_rowTokens
    {column : Nat}
    (bound : column ≤ sequenceLength) :
    (stream.rowTokens sequenceLength row)[column]? =
      stream.tokens[row * sequenceLength + column]? := by
  rw [rowTokens, getElem?_slice, if_pos (by omega)]

theorem length_rowContent
    (kind : ShardKind)
    (fits : row * sequenceLength + sequenceLength + 1 ≤
      stream.tokens.length) :
    (stream.rowContent sequenceLength kind row).length =
      rowBytes sequenceLength kind := by
  cases kind with
  | tokens =>
      simp [rowContent, rowBytes, length_rowTokens fits]
  | starts =>
      simp [rowContent, rowBytes, length_rowStarts fits, startsBytesPerRow]

theorem length_content
    (kind : ShardKind) {first count : Nat}
    (positive : 0 < sequenceLength)
    (bound : first + count ≤ rowCount sequenceLength stream.tokens.length) :
    (stream.content sequenceLength kind first count).length =
      count * rowBytes sequenceLength kind :=
  length_pieces fun _ _ high =>
    length_rowContent kind (row_fits positive (by omega))

theorem content_add
    (stream : PackedStream)
    (sequenceLength : Nat) (kind : ShardKind) (first count more : Nat) :
    stream.content sequenceLength kind first (count + more) =
      stream.content sequenceLength kind first count ++
        stream.content sequenceLength kind (first + count) more :=
  pieces_add _ _ _ _

@[simp] theorem content_zero
    (stream : PackedStream)
    (sequenceLength : Nat) (kind : ShardKind) (first : Nat) :
    stream.content sequenceLength kind first 0 = [] :=
  pieces_zero _ _

@[simp] theorem masked_zero
    (stream : PackedStream) (sequenceLength : Nat) :
    stream.masked sequenceLength 0 = 0 := rfl

theorem masked_add
    (stream : PackedStream) (sequenceLength rows more : Nat) :
    stream.masked sequenceLength (rows + more) =
      stream.masked sequenceLength rows +
        ((List.range more).map fun row =>
          stream.rowMasked sequenceLength (rows + row)).sum := by
  simp only [masked]
  rw [List.range_add, List.map_append, List.sum_append, List.map_map]
  rfl

theorem rowMasked_le
    (stream : PackedStream) (sequenceLength row : Nat) :
    stream.rowMasked sequenceLength row ≤ sequenceLength := by
  unfold rowMasked
  refine List.countP_le_length.trans ?_
  rw [List.length_tail, rowStarts, length_forceFirst]
  simp only [slice, List.length_take, List.length_drop]
  omega

theorem masked_le
    (stream : PackedStream) (sequenceLength rows : Nat) :
    stream.masked sequenceLength rows ≤ rows * sequenceLength := by
  induction rows with
  | zero => simp
  | succ rows inductionHypothesis =>
      rw [masked_add]
      have := stream.rowMasked_le sequenceLength rows
      simp only [List.range_one, List.map_cons, List.map_nil, List.sum_cons,
        List.sum_nil, Nat.add_zero, Nat.succ_mul]
      omega

end Rows

end PackedStream
end CodingLlm
