import CodingLlm.Pretrain.PackedBatchCollator
import CodingLlm.Pretrain.PackingExact

/-!
# Supervision

From the documents to the labels: over any division of the packed rows into
batches, every stream position after the first is the target of one label, and
that label is masked exactly on the first tokens of documents.
-/

namespace CodingLlm

open CrashLogic Words Slices PackedStream

variable {Digest Cursor : Type}

/-! ## Labels and their targets -/

/-- A place in a list of batches: which batch, which of its rows and which
column. -/
structure LabelCell where
  batch : Nat
  position : Nat
  column : Nat

/-- The label of a cell is computed from the token at the stream position
`target`, with the given input before it. -/
structure Targets
    (sequenceLength : Nat) (tensors : List Batch) (cell : LabelCell)
    (target : Nat) (input : Nat) (label : Int) : Prop where
  exists_row : ∃ tensor row, tensors[cell.batch]? = some tensor ∧
    tensor.rowIds[cell.position]? = some row ∧
    row * sequenceLength + cell.column + 1 = (target : Int) ∧
    (tensor.inputIds[cell.position]?.bind fun inputs =>
      inputs[cell.column]?) = some input ∧
    (tensor.labels[cell.position]?.bind fun labels =>
      labels[cell.column]?) = some label

/-- How a label supervises the token at a stream position. -/
structure Supervises
    (eosTokenId : Nat) (documents : List (List Nat))
    (target input : Nat) (label : Int) : Prop where
  input_eq : 1 ≤ target ∧
    (PackedStream.ofDocuments eosTokenId documents).tokens[target - 1]? =
      some input
  masked : IsDocumentStart documents target -> label = ignoreIndex
  label_eq : ¬IsDocumentStart documents target -> ∃ token,
    (PackedStream.ofDocuments eosTokenId documents).tokens[target]? =
      some token ∧ label = token
  same_document : label ≠ ignoreIndex ->
    ∃ count < documents.length, position documents count ≤ target - 1 ∧
      target < position documents (count + 1)
  eos : ∀ count (bound : count < documents.length),
    target = position documents count + documents[count].length ->
      documents[count].getLast? = some input ∧ label = eosTokenId

section Stream

variable {eosTokenId : Nat} {documents : List (List Nat)}
variable {target input : Nat} {label : Int}

/-- The next token, masked at document starts, supervises it. -/
theorem supervises_of_label
    (nonempty : ∀ document ∈ documents, document ≠ [])
    {token : Nat}
    (inputEq : (PackedStream.ofDocuments eosTokenId
      documents).tokens[target]? = some input)
    (tokenEq : (PackedStream.ofDocuments eosTokenId
      documents).tokens[target + 1]? = some token)
    (masked : IsDocumentStart documents (target + 1) -> label = ignoreIndex)
    (unmasked : ¬IsDocumentStart documents (target + 1) -> label = token) :
    Supervises eosTokenId documents (target + 1) input label where
  input_eq := ⟨Nat.succ_pos target, inputEq⟩
  masked := masked
  label_eq := fun inside => ⟨token, tokenEq, unmasked inside⟩
  same_document := by
    intro counts
    have inside : ¬IsDocumentStart documents (target + 1) :=
      fun start => counts (masked start)
    have total : (PackedStream.ofDocuments eosTokenId
        documents).tokens.length = position documents documents.length :=
      length_tokens_ofDocuments
    have bound : target + 1 < position documents documents.length :=
      total ▸ (List.getElem?_eq_some_iff.mp tokenEq).1
    obtain ⟨count, within, low, high⟩ := exists_document_of_lt bound
    refine ⟨count, within, ?_, by rwa [position_succ within]⟩
    have different : position documents count ≠ target + 1 :=
      fun equal => inside ⟨count, within, equal⟩
    omega
  eos := by
    intro count bound equal
    have filled := List.length_pos_iff.mpr
      (nonempty _ (List.getElem_mem bound))
    have document := slice_position_tokens eosTokenId bound
    have last := congrArg (fun row => row[documents[count].length - 1]?)
      document
    have eos := congrArg (fun row => row[documents[count].length]?) document
    simp only [getElem?_slice] at last eos
    rw [if_pos (by omega), List.getElem?_append_left (by omega)] at last
    rw [if_pos (by omega), List.getElem?_append_right (by omega), Nat.sub_self,
      ← equal, tokenEq] at eos
    have place : position documents count + (documents[count].length - 1) =
        target := by omega
    rw [place, inputEq] at last
    refine ⟨by rw [List.getLast?_eq_getElem?, ← last], ?_⟩
    have inside : ¬IsDocumentStart documents (target + 1) := by
      refine not_isDocumentStart_between
        (show position documents count < target + 1 by omega) ?_
      rw [position_succ bound]
      omega
    rw [unmasked inside]
    simpa using eos

end Stream

/-! ## Batches of all rows -/

section Batches

variable {construction : Construction Digest Cursor}
variable {cursor : Option Cursor} {directory : Directory Digest Cursor}
variable {domainId : Nat} {references : Nat -> Nat}
variable {batches : List (List Nat)}

/-- The batches that the collator makes of a finished construction. -/
def Construction.tensors
    (construction : Construction Digest Cursor) (cursor : Option Cursor)
    (directory : Directory Digest Cursor)
    (domainId : Nat) (references : Nat -> Nat)
    (batches : List (List Nat)) : List Batch :=
  batches.map fun ids =>
    PackedBatchCollator.batch construction.config.sequenceLength
      (ids.map (packedSample (construction.packedManifest cursor) directory
        domainId references))

/-- Two places in lists without repetition that hold the same element are the
same. -/
theorem place_unique
    {first second place other : Nat} {front back : List Nat} {row : Nat}
    (unique : batches.flatten.Nodup)
    (inFirst : batches[first]? = some front)
    (inSecond : batches[second]? = some back)
    (left : front[place]? = some row)
    (right : back[other]? = some row) :
    first = second ∧ place = other := by
  rw [List.nodup_flatten] at unique
  obtain ⟨firstBound, rfl⟩ := List.getElem?_eq_some_iff.mp inFirst
  obtain ⟨secondBound, rfl⟩ := List.getElem?_eq_some_iff.mp inSecond
  have same : first = second := by
    by_contra different
    have apart := List.pairwise_iff_getElem.mp unique.2
    rcases Nat.lt_or_gt_of_ne different with before | after
    · exact apart first second firstBound secondBound before
        (List.mem_of_getElem? left) (List.mem_of_getElem? right)
    · exact apart second first secondBound firstBound after
        (List.mem_of_getElem? right) (List.mem_of_getElem? left)
  subst same
  obtain ⟨placeBound, leftEq⟩ := List.getElem?_eq_some_iff.mp left
  obtain ⟨otherBound, rightEq⟩ := List.getElem?_eq_some_iff.mp right
  exact ⟨rfl, (unique.1 _ (List.getElem_mem _)).getElem_inj_iff.mp
    (leftEq.trans rightEq.symm)⟩

/-- The inputs of a row are stream tokens. -/
theorem getElem?_inputIds_packedSample
    (finished : construction.Finished cursor directory)
    {row column : Nat}
    (bound : row < construction.rowsAt construction.documents.length)
    (inside : column < construction.config.sequenceLength) :
    (PackedBatchCollator.inputIds construction.config.sequenceLength
        (packedSample (construction.packedManifest cursor) directory domainId
          references row))[column]? =
      construction.stream.tokens[
        row * construction.config.sequenceLength + column]? := by
  rw [PackedBatchCollator.getElem?_inputIds inside, packedSample,
    finished.packedRow_eq bound]
  exact getElem?_rowTokens (Nat.le_of_lt inside)

/-- The labels of a row are the next stream tokens, masked at document
starts. -/
theorem getElem?_labels_packedSample
    (domainId : Nat) (references : Nat -> Nat)
    (finished : construction.Finished cursor directory)
    {row column token : Nat}
    (bound : row < construction.rowsAt construction.documents.length)
    (inside : column < construction.config.sequenceLength)
    (found : construction.stream.tokens[
      row * construction.config.sequenceLength + column + 1]? = some token) :
    ∃ label,
      (PackedBatchCollator.labels construction.config.sequenceLength
        (packedSample (construction.packedManifest cursor) directory domainId
          references row))[column]? = some label ∧
      (IsDocumentStart construction.documents
        (row * construction.config.sequenceLength + column + 1) ->
          label = ignoreIndex) ∧
      (¬IsDocumentStart construction.documents
        (row * construction.config.sequenceLength + column + 1) ->
          label = token) := by
  have exact : ExactRow construction.config.sequenceLength
      construction.config.eosTokenId construction.documents row
      (packedRow (construction.packedManifest cursor) directory row) := by
    rw [finished.packedRow_eq bound]
    exact streamRow_exact (Construction.row_inside_stream bound)
  obtain ⟨sample, sampleEq⟩ : ∃ sample, sample = packedSample
    (construction.packedManifest cursor) directory domainId references row :=
      ⟨_, rfl⟩
  have start : bitAt sample.starts (column + 1) = true ↔
      IsDocumentStart construction.documents
        (row * construction.config.sequenceLength + column + 1) := by
    rw [sampleEq]
    refine (exact.bitAt_iff (column + 1)).trans ?_
    rw [and_iff_right (Nat.succ_le_of_lt inside),
      or_iff_right (Nat.succ_ne_zero column), Nat.add_assoc]
  have next : sample.tokens[column + 1]? = some token := by
    rw [sampleEq]
    refine (congrArg (fun tokens => tokens[column + 1]?)
      exact.tokens_eq).trans ?_
    rw [getElem?_slice, if_pos (Nat.succ_lt_succ inside), ← Nat.add_assoc]
    exact found
  rw [← sampleEq]
  refine ⟨if bitAt sample.starts (column + 1) then ignoreIndex else token,
    ?_, ?_, ?_⟩
  · rw [PackedBatchCollator.getElem?_labels inside, next]
    rfl
  · exact fun isStart => if_pos (start.mpr isStart)
  · exact fun noStart => if_neg (mt start.mp noStart)

/-- What the collated batches of a finished construction hold in a cell. -/
theorem targets_iff
    (finished : construction.Finished cursor directory)
    (bound : ∀ ids ∈ batches, ∀ row ∈ ids,
      row < construction.rowsAt construction.documents.length)
    {cell : LabelCell} {target input : Nat} {label : Int} :
    Targets construction.config.sequenceLength
        (construction.tensors cursor directory domainId references batches)
        cell target input label ↔
      ∃ ids row, batches[cell.batch]? = some ids ∧
        ids[cell.position]? = some row ∧
        cell.column < construction.config.sequenceLength ∧
        row * construction.config.sequenceLength + cell.column + 1 =
          target ∧
        construction.stream.tokens[target - 1]? = some input ∧
        ∃ token, construction.stream.tokens[target]? = some token ∧
          (IsDocumentStart construction.documents target ->
            label = ignoreIndex) ∧
          (¬IsDocumentStart construction.documents target ->
            label = token) := by
  have fits {row : Nat} (small : row <
      construction.rowsAt construction.documents.length) :=
    Construction.row_inside_stream small
  constructor
  · rintro ⟨tensor, row, inTensors, inRows, place, inInputs, inLabels⟩
    rw [Construction.tensors, List.getElem?_map, Option.map_eq_some_iff]
      at inTensors
    obtain ⟨ids, inBatches, rfl⟩ := inTensors
    simp only [PackedBatchCollator.batch, List.map_map, List.getElem?_map,
      Option.map_eq_some_iff] at inRows
    obtain ⟨row, inIds, rfl⟩ := inRows
    have small := bound ids (List.mem_of_getElem? inBatches) row
      (List.mem_of_getElem? inIds)
    simp only [PackedBatchCollator.batch, List.map_map, List.getElem?_map,
      inIds, Option.map_some, Option.bind_some, Function.comp_apply]
      at inInputs inLabels place
    have inside : cell.column < construction.config.sequenceLength := by
      have within := (List.getElem?_eq_some_iff.mp inInputs).1
      rw [PackedBatchCollator.inputIds, List.length_take] at within
      omega
    rw [packedSample_rowId] at place
    obtain rfl : row * construction.config.sequenceLength + cell.column + 1 =
        target := by
      exact_mod_cast place
    have fits := Construction.row_inside_stream small
    obtain ⟨token, tokenEq⟩ : ∃ token, construction.stream.tokens[
        row * construction.config.sequenceLength + cell.column + 1]? =
          some token :=
      ⟨_, List.getElem?_eq_getElem (by omega)⟩
    obtain ⟨found, foundEq, masked, unmasked⟩ :=
      getElem?_labels_packedSample domainId references finished small inside
        tokenEq
    rw [foundEq, Option.some.injEq] at inLabels
    rw [getElem?_inputIds_packedSample finished small inside] at inInputs
    subst inLabels
    exact ⟨ids, row, inBatches, inIds, inside, rfl, inInputs, token, tokenEq,
      masked, unmasked⟩
  · rintro ⟨ids, row, inBatches, inIds, inside, rfl, inputEq, token, tokenEq,
      masked, unmasked⟩
    have small := bound ids (List.mem_of_getElem? inBatches) row
      (List.mem_of_getElem? inIds)
    obtain ⟨found, foundEq, foundMasked, foundUnmasked⟩ :=
      getElem?_labels_packedSample domainId references finished small inside
        tokenEq
    have same : found = label := by
      by_cases start : IsDocumentStart construction.documents
          (row * construction.config.sequenceLength + cell.column + 1)
      · rw [foundMasked start, masked start]
      · rw [foundUnmasked start, unmasked start]
    subst same
    refine ⟨_, row, by rw [Construction.tensors, List.getElem?_map, inBatches,
        Option.map_some],
      ?_, by push_cast; rfl, ?_, ?_⟩
    · simp [PackedBatchCollator.batch, inIds]
    · simp only [PackedBatchCollator.batch, List.map_map, List.getElem?_map,
        inIds, Option.map_some, Option.bind_some, Function.comp_apply]
      rw [getElem?_inputIds_packedSample finished small inside]
      exact inputEq
    · simp only [PackedBatchCollator.batch, List.map_map, List.getElem?_map,
        inIds, Option.map_some, Option.bind_some, Function.comp_apply]
      exact foundEq

theorem forall_division
    {rows : Nat}
    (division : batches.flatten.Perm (List.range rows)) :
    ∀ ids ∈ batches, ∀ row ∈ ids, row < rows := by
  intro ids member row inside
  exact List.mem_range.mp
    (division.mem_iff.mp (List.mem_flatten.mpr ⟨ids, member, inside⟩))

/-- A row and a column are determined by the position they target. -/
theorem row_column_unique
    {width row other column otherColumn : Nat}
    (inside : column < width) (otherInside : otherColumn < width)
    (same : row * width + column + 1 = other * width + otherColumn + 1) :
    row = other ∧ column = otherColumn := by
  have positive : 0 < width := by omega
  have rows := congrArg (fun place => (place - 1) / width) same
  simp only [Nat.add_sub_cancel] at rows
  rw [Nat.add_comm, Nat.add_mul_div_right _ _ positive,
    Nat.div_eq_of_lt inside, Nat.add_comm (other * width),
    Nat.add_mul_div_right _ _ positive, Nat.div_eq_of_lt otherInside,
    Nat.zero_add, Nat.zero_add] at rows
  subst rows
  exact ⟨rfl, by omega⟩

/-- Every position of the rows is the target of one cell. -/
theorem existsUnique_targets
    (finished : construction.Finished cursor directory)
    (division : batches.flatten.Perm (List.range
      (construction.rowsAt construction.documents.length)))
    {target : Nat}
    (positive : 1 ≤ target)
    (within : target ≤
      construction.rowsAt construction.documents.length *
        construction.config.sequenceLength) :
    ∃! cell, ∃ input label, Targets construction.config.sequenceLength
      (construction.tensors cursor directory domainId references batches)
      cell target input label := by
  have bound := forall_division division
  have unique : batches.flatten.Nodup :=
    division.nodup_iff.mpr List.nodup_range
  simp only [targets_iff finished bound]
  have width := construction.sequenceLength_pos
  obtain ⟨place, rfl⟩ : ∃ place, target = place + 1 :=
    ⟨target - 1, by omega⟩
  have small : place / construction.config.sequenceLength <
      construction.rowsAt construction.documents.length :=
    Nat.div_lt_of_lt_mul (by rw [Nat.mul_comm]; omega)
  have fits := Construction.row_inside_stream small
  have split := Nat.div_add_mod' place construction.config.sequenceLength
  have inside := Nat.mod_lt place width
  obtain ⟨ids, inBatches, inIds⟩ := List.mem_flatten.mp
    (division.mem_iff.mpr (List.mem_range.mpr small))
  obtain ⟨batch, batchEq⟩ := List.getElem?_of_mem inBatches
  obtain ⟨position, positionEq⟩ := List.getElem?_of_mem inIds
  refine ⟨⟨batch, position, place % construction.config.sequenceLength⟩,
    ?_, ?_⟩
  · obtain ⟨label, masked, unmasked⟩ : ∃ label : Int,
        (IsDocumentStart construction.documents (place + 1) ->
          label = ignoreIndex) ∧
        (¬IsDocumentStart construction.documents (place + 1) ->
          label = construction.stream.tokens[place + 1]) := by
      by_cases start : IsDocumentStart construction.documents (place + 1)
      · exact ⟨_, fun _ => rfl, fun inside => absurd start inside⟩
      · exact ⟨_, fun isStart => absurd isStart start, fun _ => rfl⟩
    exact ⟨construction.stream.tokens[place], label, ids, _, batchEq,
      positionEq, inside, by rw [split], List.getElem?_eq_getElem _,
      construction.stream.tokens[place + 1], List.getElem?_eq_getElem _,
      masked, unmasked⟩
  · rintro ⟨otherBatch, otherPosition, column⟩ ⟨_, _, otherIds, row,
      otherBatchEq, otherPositionEq, otherInside, place', -⟩
    obtain ⟨rowEq, columnEq⟩ := row_column_unique otherInside inside
      (place'.trans (by rw [split]))
    subst rowEq columnEq
    obtain ⟨rfl, rfl⟩ := place_unique unique otherBatchEq batchEq
      otherPositionEq positionEq
    rfl

/-- Every label of the batches supervises the position it targets. -/
theorem supervises_of_targets
    (finished : construction.Finished cursor directory)
    (division : batches.flatten.Perm (List.range
      (construction.rowsAt construction.documents.length)))
    {cell : LabelCell} {target input : Nat} {label : Int}
    (targets : Targets construction.config.sequenceLength
      (construction.tensors cursor directory domainId references batches)
      cell target input label) :
    target ≤ construction.rowsAt construction.documents.length *
        construction.config.sequenceLength ∧
      Supervises construction.config.eosTokenId construction.documents target
        input label := by
  have bound := forall_division division
  obtain ⟨ids, row, inBatches, inIds, inside, rfl, inputEq, token, tokenEq,
    masked, unmasked⟩ := (targets_iff finished bound).mp targets
  refine ⟨?_, supervises_of_label construction.documents_ne inputEq tokenEq
    masked unmasked⟩
  have small := bound ids (List.mem_of_getElem? inBatches) row
    (List.mem_of_getElem? inIds)
  have within := Nat.mul_le_mul_right construction.config.sequenceLength
    (Nat.succ_le_of_lt small)
  rw [Nat.succ_mul] at within
  omega

end Batches

/-! ## Exactness -/

/-- From any documents, through the writer, the dataset and the collator: over
any division of all rows into batches, every stream position from 1 to the end
of the rows is the target of exactly one label, which supervises the token
there. -/
theorem supervision_exact
    [DecidableEq Digest]
    {sha256 : List Byte -> Digest} {arguments : WriterArguments Digest}
    {config : WriterConfig Digest} {documents : List (List Nat)}
    (accepts : arguments.check = .ok config)
    (nonempty : ∀ document ∈ documents, document ≠ [])
    (inVocabulary : ∀ document ∈ documents, ∀ token ∈ document,
      token < config.vocabSize)
    (policy : DrainPolicy) :
    let outcome := (packDocuments sha256 arguments policy documents).run
      (∅ : Directory Digest Unit)
    ∃ writer dataset collator, outcome.result = .ok writer ∧
      PackedShardDataset.new sha256 true outcome.final = .ok dataset ∧
      PackedBatchCollator.new (.int config.sequenceLength)
        (.int config.vocabSize) (.int config.eosTokenId) = .ok collator ∧
      dataset.length = rowCount config.sequenceLength
        (PackedStream.ofDocuments config.eosTokenId
          documents).tokens.length ∧
      ∀ (domainId : Nat) (references : Nat -> Nat)
          (batches : List (List Nat)),
        (∀ ids ∈ batches, ids ≠ []) ->
        batches.flatten.Perm (List.range dataset.length) ->
        ∃ tensors,
          batches.mapM (collator.collateRows dataset outcome.final domainId
            references) = .ok tensors ∧
          (∀ target, 1 ≤ target ->
            target ≤ dataset.length * config.sequenceLength ->
            ∃! cell, ∃ input label, Targets config.sequenceLength tensors
              cell target input label) ∧
          (∀ cell target input label, Targets config.sequenceLength tensors
            cell target input label ->
              target ≤ dataset.length * config.sequenceLength ∧
              Supervises config.eosTokenId documents target input label) ∧
          ∀ target, 1 ≤ target ->
            target ≤ dataset.length * config.sequenceLength ->
            ¬IsDocumentStart documents target ->
            ∃! cell, ∃ input label, label ≠ ignoreIndex ∧
              Targets config.sequenceLength tensors cell target input
                label := by
  intro outcome
  let construction : Construction Digest Unit :=
    packing sha256 config documents nonempty inVocabulary
  obtain ⟨writer, cursor, ended, complete⟩ :=
    construction.exists_complete accepts policy
  have complete : construction.Complete cursor outcome.final := complete
  refine ⟨writer, _, _, ended, complete.opens true,
    PackedBatchCollator.new_eq_ok config.two_le_sequenceLength
      config.vocabSize_bounds
      (by have := config.eosTokenId_lt; omega),
    congrArg (rowCount config.sequenceLength)
      construction.length_stream.symm, ?_⟩
  intro domainId references batches filled division
  have finished := complete.toFinished
  have collated : batches.mapM (PackedBatchCollator.collateRows
      ⟨config.sequenceLength, some config.vocabSize, some config.eosTokenId⟩
      (construction.packedManifest cursor).dataset outcome.final domainId
      references) =
      .ok (construction.tensors cursor outcome.final domainId references
        batches) :=
    checked_mapM_of_forall fun ids member =>
      collateRows_eq_ok finished.payloadsExact
        (fun row bound => finished.rowValid bound) (filled ids member)
        (forall_division division ids member)
  refine ⟨_, collated, fun target positive within =>
      existsUnique_targets finished division positive within,
    fun cell target input label targets =>
      supervises_of_targets finished division targets, ?_⟩
  intro target positive within noStart
  obtain ⟨cell, ⟨input, label, targets⟩, unique⟩ :=
    existsUnique_targets finished division positive within
  refine ⟨cell, ⟨input, label, ?_, targets⟩, ?_⟩
  · obtain ⟨_, supervises⟩ := supervises_of_targets finished division targets
    obtain ⟨token, -, rfl⟩ := supervises.label_eq noStart
    exact PackedBatchCollator.natCast_ne_ignoreIndex token
  · rintro other ⟨otherInput, otherLabel, -, otherTargets⟩
    exact unique other ⟨otherInput, otherLabel, otherTargets⟩

/-- The two small documents, collated in two batches of one row each. -/
theorem supervision_exact_small :
    ∃ dataset collator tensors,
      PackedShardDataset.new id true
        ((packDocuments id smallArguments .default smallDocuments).run
          (∅ : Directory (List Byte) Unit)).final = .ok dataset ∧
      [[1], [0]].mapM (PackedBatchCollator.collateRows collator dataset
        ((packDocuments id smallArguments .default smallDocuments).run
          (∅ : Directory (List Byte) Unit)).final 0 id) = .ok tensors ∧
      ∃! cell, ∃ input label, Targets 2 tensors cell 3 input label := by
  obtain ⟨writer, dataset, collator, -, opens, -, rows, batches⟩ :=
    @supervision_exact (List Byte) _ id smallArguments smallConfig
      smallDocuments smallArguments_check (by decide) (by decide) .default
  have two : dataset.length = 2 := rows.trans (by decide)
  obtain ⟨tensors, collated, unique, -⟩ := batches 0 id [[1], [0]]
    (by decide) (two ▸ (by decide))
  exact ⟨dataset, collator, tensors, opens, collated,
    unique 3 (by decide) (two ▸ (by decide))⟩

end CodingLlm
