import CodingLlm.Pretrain.DocumentSegments
import CodingLlm.Pretrain.Supervision
import Mathlib.Data.Int.ConditionallyCompleteOrder
import Mathlib.Data.Int.Interval

/-!
# Packed boundary diagnostics

`packed_boundary_diagnostics` checks a batch of packed rows and counts its
document boundaries; `_validate_overfit_result` wants as many masked targets as
boundaries.  A document that starts at the token after a row masks a target of
the row without being a boundary inside it.
-/

namespace CodingLlm
namespace OverfitChunk

open Words Slices PackedStream

/-! ## The diagnostics -/

/-- What `packed_boundary_diagnostics` returns. -/
structure BoundaryRecord where
  contract : String
  rows : Nat
  sequenceLength : Nat
  inRowDocumentBoundaries : Nat
  maskedBoundaryTargets : Nat
  supervisedTokens : Nat
  distinctDocumentSegments : Nat

/-- `document_ids[:, 1:] != document_ids[:, :-1]` of a row. -/
def transitionsOf (documentIds : List Int) : List Bool :=
  List.zipWith (fun after before => decide (after ≠ before))
    documentIds.tail documentIds.dropLast

/-- `labels.eq(-100)` of a row. -/
def maskOf (labels : List Int) : List Bool :=
  labels.map fun label => decide (label = ignoreIndex)

/-- `position_ids[:, 1:][transitions]` of a row. -/
def resetPositions (positionIds : List Int) (transitions : List Bool) :
    List Int :=
  ((positionIds.tail.zip transitions).filter Prod.snd).map Prod.fst

/-- `packed_boundary_diagnostics`. -/
def packedBoundaryDiagnostics (batch : Batch) : Checked BoundaryRecord := do
  let _ ← require
    (batch.positionIds.map List.length = batch.labels.map List.length ∧
      batch.documentIds.map List.length = batch.labels.map List.length)
    (.valueError "Packed diagnostic tensors must share shape [B, T]")
  let transitions := batch.documentIds.map transitionsOf
  let transitionTargets := batch.labels.map fun row => (maskOf row).dropLast
  let _ ← require (transitions = transitionTargets)
    (.valueError
      "Packed labels do not mask exactly the in-row document transitions")
  let _ ← require
    (∀ position ∈ (List.zipWith resetPositions batch.positionIds
      transitions).flatten, position = 0)
    (.valueError "Packed position IDs do not reset at document boundaries")
  let _ ← require (∀ row ∈ batch.positionIds, row.head? = some 0)
    (.valueError "Every packed physical row must start at position zero")
  let boundaries := transitions.flatten.countP id
  let _ ← require (1 ≤ boundaries)
    (.valueError "The fixed chunk contains no in-row document boundary")
  let supervisedTokens := batch.labels.flatten.countP fun label =>
    decide (label ≠ ignoreIndex)
  let _ ← require (1 ≤ supervisedTokens)
    (.valueError "The fixed chunk has no supervised tokens")
  return {
    contract := "packed-document-causal-boundaries-v1"
    rows := batch.labels.length
    sequenceLength := (batch.labels.headD []).length
    inRowDocumentBoundaries := boundaries
    maskedBoundaryTargets := (batch.labels.map maskOf).flatten.countP id
    supervisedTokens := supervisedTokens
    distinctDocumentSegments :=
      (batch.documentIds.map fun row => row.dedup.length).sum
  }

/-- The packed-boundary condition of `_validate_overfit_result`. -/
def ProvesBoundaries (record : BoundaryRecord) : Prop :=
  record.contract = "packed-document-causal-boundaries-v1" ∧
    record.rows = 6 ∧ record.sequenceLength = 4096 ∧
    1 ≤ record.inRowDocumentBoundaries ∧
    record.inRowDocumentBoundaries = record.maskedBoundaryTargets

/-! ## Rows by their start bits -/

section Rows

open PackedBatchCollator

variable {sequenceLength : Nat} {row : SampleRow}

theorem labels_mask
    (width : row.tokens.length = sequenceLength + 1) :
    maskOf (labels sequenceLength row) =
      (List.range sequenceLength).map fun column =>
        bitAt row.starts (column + 1) := by
  apply List.ext_getElem?
  intro column
  by_cases inside : column < sequenceLength
  · have token : row.tokens[column + 1]? = some row.tokens[column + 1] :=
      List.getElem?_eq_getElem (by omega)
    rw [maskOf, List.getElem?_map, getElem?_labels inside, token,
      List.getElem?_map, List.getElem?_range inside]
    cases isStart : bitAt row.starts (column + 1) with
    | true => simp [isStart]
    | false =>
        simpa [isStart] using natCast_ne_ignoreIndex row.tokens[column + 1]
  · have short : (labels sequenceLength row).length ≤ column := by
      simp [labels, flags, unpackBits, width]
      omega
    rw [maskOf, List.getElem?_eq_none (by simpa using short),
      List.getElem?_eq_none (by simpa using inside)]

theorem documentIds_eq :
    documentIds sequenceLength row =
      (List.range sequenceLength).map fun column =>
        (startsUpTo row.starts column : Int) - 1 := by
  apply List.ext_getElem?
  intro column
  by_cases inside : column < sequenceLength
  · rw [getElem?_documentIds inside, List.getElem?_map,
      List.getElem?_range inside]
    rfl
  · rw [List.getElem?_eq_none (by rw [length_documentIds]; omega),
      List.getElem?_eq_none (by simpa using inside)]

/-- Documents change inside a row where a start bit is set. -/
theorem transitionsOf_documentIds :
    transitionsOf (documentIds sequenceLength row) =
      (List.range (sequenceLength - 1)).map fun column =>
        bitAt row.starts (column + 1) := by
  rw [documentIds_eq]
  apply List.ext_getElem?
  intro column
  rw [transitionsOf, List.getElem?_zipWith, List.getElem?_tail,
    List.getElem?_dropLast]
  by_cases inside : column < sequenceLength - 1
  · have after : column + 1 < sequenceLength := by omega
    have before : column < sequenceLength := by omega
    simp only [List.getElem?_map, List.length_map, List.length_range,
      List.getElem?_range after, List.getElem?_range before,
      List.getElem?_range inside, if_pos inside, Option.map_some,
      Option.some.injEq]
    rw [startsUpTo_succ]
    cases bitAt row.starts (column + 1) with
    | true =>
        simp
        omega
    | false => simp
  · simp [inside]

/-- Positions begin again at start bits. -/
theorem resetPositions_eq_zero
    {position : Int}
    (member : position ∈ resetPositions (positionIds sequenceLength row)
      (transitionsOf (documentIds sequenceLength row))) :
    position = 0 := by
  rw [transitionsOf_documentIds] at member
  obtain ⟨⟨found, isStart⟩, listed, rfl⟩ := List.mem_map.mp member
  obtain ⟨zipped, started⟩ := List.mem_filter.mp listed
  obtain ⟨column, place⟩ := List.mem_iff_getElem?.mp zipped
  rw [List.getElem?_zip_eq_some] at place
  obtain ⟨atColumn, flag⟩ := place
  rw [List.getElem?_map, Option.map_eq_some_iff] at flag
  obtain ⟨index, found, flagged⟩ := flag
  obtain ⟨inside, rfl⟩ := List.getElem?_eq_some_iff.mp found
  rw [List.length_range] at inside
  rw [List.getElem_range] at flagged
  have isStart : bitAt row.starts (column + 1) = true :=
    flagged.trans started
  rw [List.getElem?_tail, getElem?_positionIds (by omega),
    segmentStart_of_bitAt isStart, Nat.sub_self] at atColumn
  exact (Option.some.inj atColumn).symm

theorem startsUpTo_eq_add
    {starts : List Byte}
    (first : bitAt starts 0 = true)
    (column : Nat) :
    startsUpTo starts column =
      1 + (List.range column).countP fun index => bitAt starts (index + 1) := by
  rw [startsUpTo, List.range_succ_eq_map, List.countP_cons_of_pos first,
    List.countP_map, Nat.add_comm]
  rfl

/-- The ids up to a column run from zero without a gap. -/
theorem toFinset_documentIds
    {starts : List Byte}
    (first : bitAt starts 0 = true)
    (column : Nat) :
    ((List.range (column + 1)).map fun index =>
        (startsUpTo starts index : Int) - 1).toFinset =
      Finset.Ico 0 (startsUpTo starts column : Int) := by
  induction column with
  | zero =>
      have one : startsUpTo starts 0 = 1 := startsUpTo_eq_add first 0
      simp only [Nat.zero_add, List.range_one, List.map_cons, List.map_nil, one]
      rfl
  | succ column inductionHypothesis =>
      have positive : 1 ≤ startsUpTo starts column := by
        rw [startsUpTo_eq_add first]
        omega
      rw [List.range_succ, List.map_append, List.toFinset_append,
        inductionHypothesis, startsUpTo_succ]
      ext value
      simp only [List.map_cons, List.map_nil, List.toFinset_cons,
        List.toFinset_nil, insert_empty_eq, Finset.mem_union, Finset.mem_Ico,
        Finset.mem_singleton]
      rw [startsUpTo_succ]
      split <;> push_cast <;> omega

/-- A row has a document for every start inside it, and one. -/
theorem length_dedup_documentIds
    (first : bitAt row.starts 0 = true)
    (filled : 1 ≤ sequenceLength) :
    (documentIds sequenceLength row).dedup.length =
      1 + (List.range (sequenceLength - 1)).countP fun column =>
        bitAt row.starts (column + 1) := by
  rw [← List.card_toFinset, documentIds_eq,
    ← Nat.sub_add_cancel filled, toFinset_documentIds first, Int.card_Ico,
    startsUpTo_eq_add first, Nat.add_sub_cancel]
  omega

end Rows

/-! ## Batches by their start bits -/

/-- Starts inside the rows. -/
def inRowStarts (sequenceLength : Nat) (rows : List SampleRow) : Nat :=
  (rows.map fun row => (List.range (sequenceLength - 1)).countP fun column =>
    bitAt row.starts (column + 1)).sum

/-- Starts right after the rows. -/
def nextStarts (sequenceLength : Nat) (rows : List SampleRow) : Nat :=
  rows.countP fun row => bitAt row.starts sequenceLength

/-- Targets that start no document. -/
def supervisedTargets (sequenceLength : Nat) (rows : List SampleRow) : Nat :=
  (rows.map fun row => (List.range sequenceLength).countP fun column =>
    !bitAt row.starts (column + 1)).sum

/-- Segments of the rows: one that begins each row, and one for every start
inside it. -/
def segmentsIn (sequenceLength : Nat) (rows : List SampleRow) : Nat :=
  (rows.map fun row => 1 + (List.range (sequenceLength - 1)).countP
    fun column => bitAt row.starts (column + 1)).sum

/-- What the diagnostics say of rows. -/
def boundaryRecord (sequenceLength : Nat) (rows : List SampleRow) :
    BoundaryRecord where
  contract := "packed-document-causal-boundaries-v1"
  rows := rows.length
  sequenceLength := sequenceLength
  inRowDocumentBoundaries := inRowStarts sequenceLength rows
  maskedBoundaryTargets :=
    inRowStarts sequenceLength rows + nextStarts sequenceLength rows
  supervisedTokens := supervisedTargets sequenceLength rows
  distinctDocumentSegments := segmentsIn sequenceLength rows

section Batches

open PackedBatchCollator

variable {sequenceLength : Nat} {rows : List SampleRow}

/-- Rows as wide as the collator wants them, each beginning with a start. -/
structure RowsFit (sequenceLength : Nat) (rows : List SampleRow) : Prop where
  two_le : 2 ≤ sequenceLength
  filled : rows ≠ []
  width : ∀ row ∈ rows, row.tokens.length = sequenceLength + 1
  first : ∀ row ∈ rows, bitAt row.starts 0 = true

theorem length_labels
    {row : SampleRow}
    (width : row.tokens.length = sequenceLength + 1) :
    (labels sequenceLength row).length = sequenceLength := by
  simp [labels, flags, unpackBits, width]

theorem countP_flatten_map
    {α β : Type}
    (test : β -> Bool)
    (values : α -> List β)
    (items : List α) :
    (items.map values).flatten.countP test =
      (items.map fun item => (values item).countP test).sum := by
  rw [List.countP_flatten, List.map_map]
  rfl

/-- The labels of a row up to the last are masked where its documents
change. -/
theorem dropLast_labels_mask
    {row : SampleRow}
    (width : row.tokens.length = sequenceLength + 1) :
    (maskOf (labels sequenceLength row)).dropLast =
      transitionsOf (documentIds sequenceLength row) := by
  rw [labels_mask width, transitionsOf_documentIds]
  cases sequenceLength with
  | zero => rfl
  | succ before =>
      rw [List.range_succ, List.map_append, List.map_singleton,
        List.dropLast_concat, Nat.add_sub_cancel]

/-- The masked labels of a row are its starts after the first column, and the
start right after it. -/
theorem countP_labels_mask
    {row : SampleRow}
    (filled : 1 ≤ sequenceLength)
    (width : row.tokens.length = sequenceLength + 1) :
    (maskOf (labels sequenceLength row)).countP id =
      (List.range (sequenceLength - 1)).countP (fun column =>
        bitAt row.starts (column + 1)) +
          if bitAt row.starts sequenceLength then 1 else 0 := by
  obtain ⟨before, rfl⟩ := Nat.exists_eq_add_of_le' filled
  rw [labels_mask width, List.countP_map, List.range_succ, List.countP_append,
    List.countP_singleton]
  rfl

theorem countP_supervised
    {row : SampleRow}
    (width : row.tokens.length = sequenceLength + 1) :
    ((labels sequenceLength row).countP fun label =>
        decide (label ≠ ignoreIndex)) =
      (List.range sequenceLength).countP fun column =>
        !bitAt row.starts (column + 1) := by
  have masked := congrArg (List.countP not) (labels_mask width)
  rw [maskOf, List.countP_map, List.countP_map] at masked
  simpa [Function.comp_def] using masked

theorem sum_lookahead (rows : List SampleRow) :
    (rows.map fun row =>
      if bitAt row.starts sequenceLength then 1 else 0).sum =
        nextStarts sequenceLength rows := by
  rw [nextStarts]
  induction rows with
  | nil => rfl
  | cons row rows inductionHypothesis =>
      rw [List.map_cons, List.sum_cons, inductionHypothesis,
        List.countP_cons, Nat.add_comm]

/-- The diagnostics of a batch raise exactly if no document begins inside a row
or no target is supervised, and otherwise count the start bits. -/
theorem packedBoundaryDiagnostics_batch (fit : RowsFit sequenceLength rows) :
    packedBoundaryDiagnostics (batch sequenceLength rows) = do
      let _ ← require (1 ≤ inRowStarts sequenceLength rows)
        (.valueError "The fixed chunk contains no in-row document boundary")
      let _ ← require (1 ≤ supervisedTargets sequenceLength rows)
        (.valueError "The fixed chunk has no supervised tokens")
      return boundaryRecord sequenceLength rows := by
  have filled : 1 ≤ sequenceLength := by
    have := fit.two_le
    omega
  have lengths : (batch sequenceLength rows).labels.map List.length =
      rows.map fun _ => sequenceLength := by
    rw [batch, List.map_map]
    exact List.map_congr_left fun row member =>
      length_labels (fit.width row member)
  have shapes : (batch sequenceLength rows).positionIds.map List.length =
        (batch sequenceLength rows).labels.map List.length ∧
      (batch sequenceLength rows).documentIds.map List.length =
        (batch sequenceLength rows).labels.map List.length := by
    rw [lengths, batch, List.map_map, List.map_map]
    exact ⟨List.map_congr_left fun _ _ => length_positionIds,
      List.map_congr_left fun _ _ => length_documentIds⟩
  have transitions : (batch sequenceLength rows).documentIds.map transitionsOf =
      rows.map fun row => transitionsOf (documentIds sequenceLength row) :=
    List.map_map
  have targets : ((batch sequenceLength rows).labels.map fun row =>
        (maskOf row).dropLast) =
      rows.map fun row => transitionsOf (documentIds sequenceLength row) := by
    rw [batch, List.map_map]
    exact List.map_congr_left fun row member =>
      dropLast_labels_mask (fit.width row member)
  have resets : ∀ position ∈ (List.zipWith resetPositions
      (batch sequenceLength rows).positionIds
      ((batch sequenceLength rows).documentIds.map transitionsOf)).flatten,
      position = 0 := by
    intro position member
    rw [transitions, batch, List.zipWith_map, List.zipWith_self] at member
    obtain ⟨found, listed, inside⟩ := List.mem_flatten.mp member
    obtain ⟨row, -, rfl⟩ := List.mem_map.mp listed
    exact resetPositions_eq_zero inside
  have begins : ∀ row ∈ (batch sequenceLength rows).positionIds,
      row.head? = some 0 := by
    intro positions member
    obtain ⟨row, -, rfl⟩ := List.mem_map.mp member
    rw [List.head?_eq_getElem?, getElem?_positionIds (by omega)]
    rfl
  have boundaries : ((batch sequenceLength rows).documentIds.map
        transitionsOf).flatten.countP id =
      inRowStarts sequenceLength rows := by
    rw [transitions, countP_flatten_map, inRowStarts]
    refine congrArg List.sum (List.map_congr_left fun row _ => ?_)
    rw [transitionsOf_documentIds, List.countP_map]
    rfl
  have supervised : ((batch sequenceLength rows).labels.flatten.countP
        fun label => decide (label ≠ ignoreIndex)) =
      supervisedTargets sequenceLength rows := by
    rw [batch, countP_flatten_map, supervisedTargets]
    exact congrArg List.sum (List.map_congr_left fun row member =>
      countP_supervised (fit.width row member))
  have masked : (((batch sequenceLength rows).labels.map
        maskOf).flatten.countP id) =
      inRowStarts sequenceLength rows + nextStarts sequenceLength rows := by
    rw [batch, List.map_map, countP_flatten_map, inRowStarts, ← sum_lookahead,
      ← List.sum_map_add]
    exact congrArg List.sum (List.map_congr_left fun row member =>
      countP_labels_mask filled (fit.width row member))
  have segments : ((batch sequenceLength rows).documentIds.map fun row =>
        row.dedup.length).sum = segmentsIn sequenceLength rows := by
    rw [batch, List.map_map]
    exact congrArg List.sum (List.map_congr_left fun row member =>
      length_dedup_documentIds (fit.first row member) filled)
  have width : ((batch sequenceLength rows).labels.headD []).length =
      sequenceLength := by
    obtain ⟨row, others, rfl⟩ := List.exists_cons_of_ne_nil fit.filled
    exact length_labels (fit.width row List.mem_cons_self)
  have count : (batch sequenceLength rows).labels.length = rows.length :=
    List.length_map _
  unfold packedBoundaryDiagnostics
  refine (require_bind shapes _).trans ?_
  refine (require_bind (transitions.trans targets.symm) _).trans ?_
  refine (require_bind resets _).trans ?_
  refine (require_bind begins _).trans ?_
  dsimp only
  rw [boundaries, supervised, masked, segments, width, count]
  rfl

/-- The promise that the gate makes of a batch: the diagnostics raise only if
no document begins inside a row or no target is supervised, they count what the
start bits say, and their record of six rows of 4096 columns is a proof of
boundary masking. -/
structure BoundaryPromise
    (sequenceLength : Nat) (rows : List SampleRow) (tensors : Batch) :
    Prop where
  raises : ∀ error, packedBoundaryDiagnostics tensors = .error error ->
    inRowStarts sequenceLength rows = 0 ∨
      supervisedTargets sequenceLength rows = 0
  counts : ∀ record, packedBoundaryDiagnostics tensors = .ok record ->
    record.inRowDocumentBoundaries = inRowStarts sequenceLength rows ∧
      record.supervisedTokens = supervisedTargets sequenceLength rows ∧
      record.distinctDocumentSegments = segmentsIn sequenceLength rows
  proves : ∀ record, packedBoundaryDiagnostics tensors = .ok record ->
    record.rows = 6 -> record.sequenceLength = 4096 ->
      ProvesBoundaries record

theorem packedBoundaryDiagnostics_eq_ok
    (fit : RowsFit sequenceLength rows) {record : BoundaryRecord} :
    packedBoundaryDiagnostics (batch sequenceLength rows) = .ok record ↔
      1 ≤ inRowStarts sequenceLength rows ∧
        1 ≤ supervisedTargets sequenceLength rows ∧
        boundaryRecord sequenceLength rows = record := by
  rw [packedBoundaryDiagnostics_batch fit, require_then_eq_ok,
    require_then_eq_ok, checked_pure_eq_ok]

/-- The record of a batch is a proof exactly if no start follows a row. -/
theorem provesBoundaries_iff
    (six : rows.length = 6)
    (width : sequenceLength = 4096)
    (inside : 1 ≤ inRowStarts sequenceLength rows) :
    ProvesBoundaries (boundaryRecord sequenceLength rows) ↔
      nextStarts sequenceLength rows = 0 := by
  constructor
  · intro proves
    have equal : inRowStarts sequenceLength rows =
        inRowStarts sequenceLength rows + nextStarts sequenceLength rows :=
      proves.2.2.2.2
    omega
  · intro none
    exact ⟨rfl, six, width, inside, by
      simp only [boundaryRecord, none, Nat.add_zero]⟩

theorem nextStarts_eq_zero :
    nextStarts sequenceLength rows = 0 ↔
      ∀ row ∈ rows, bitAt row.starts sequenceLength = false := by
  simp only [nextStarts, List.countP_eq_zero, Bool.not_eq_true]

theorem boundaryPromise_of_fit (fit : RowsFit sequenceLength rows) :
    BoundaryPromise sequenceLength rows (batch sequenceLength rows) ↔
      (rows.length = 6 -> sequenceLength = 4096 ->
        1 ≤ inRowStarts sequenceLength rows ->
        1 ≤ supervisedTargets sequenceLength rows ->
          ∀ row ∈ rows, bitAt row.starts sequenceLength = false) := by
  have returned (record : BoundaryRecord) :=
    @packedBoundaryDiagnostics_eq_ok _ _ fit record
  constructor
  · intro promise six width inside supervised
    have record := (returned _).mpr ⟨inside, supervised, rfl⟩
    exact nextStarts_eq_zero.mp ((provesBoundaries_iff six width inside).mp
      (promise.proves _ record six width))
  · intro none
    constructor
    · intro error raised
      by_contra both
      have record := (returned (boundaryRecord sequenceLength rows)).mpr
        ⟨by omega, by omega, rfl⟩
      rw [raised] at record
      cases record
    · intro record returns
      obtain ⟨-, -, rfl⟩ := (returned record).mp returns
      exact ⟨rfl, rfl, rfl⟩
    · intro record returns six width
      obtain ⟨inside, supervised, rfl⟩ := (returned record).mp returns
      exact (provesBoundaries_iff six width inside).mpr
        (nextStarts_eq_zero.mpr (none six width inside supervised))

/-- What the collator accepts fits. -/
theorem rowsFit_of_call
    {collator : PackedBatchCollator} {tensors : Batch}
    (two : 2 ≤ collator.sequenceLength)
    (collated : collator.call rows = .ok tensors) :
    RowsFit collator.sequenceLength rows ∧
      batch collator.sequenceLength rows = tensors := by
  simp only [call, require_then_eq_ok, checked_pure_eq_ok] at collated
  obtain ⟨filled, -, -, width, -, -, -, first, -, equal⟩ := collated
  refine ⟨⟨two, filled, width, fun row member => ?_⟩, equal⟩
  have begins := first row member
  rwa [List.getD_eq_getElem?_getD, getElem?_flags (Nat.zero_le _)] at begins

theorem two_le_of_new
    {collator : PackedBatchCollator} {width size eos : PyValue}
    (opened : PackedBatchCollator.new width size eos = .ok collator) :
    2 ≤ collator.sequenceLength := by
  unfold PackedBatchCollator.new at opened
  obtain ⟨value, -, opened⟩ := checked_bind_eq_ok.mp opened
  obtain ⟨wide, opened⟩ := require_then_eq_ok.mp opened
  obtain ⟨-, opened⟩ := require_then_eq_ok.mp opened
  obtain ⟨_, -, opened⟩ := checked_bind_eq_ok.mp opened
  obtain ⟨_, -, opened⟩ := checked_bind_eq_ok.mp opened
  obtain ⟨-, opened⟩ := require_then_eq_ok.mp opened
  obtain ⟨-, opened⟩ := require_then_eq_ok.mp opened
  obtain rfl := Except.ok.inj opened
  exact Int.le_toNat (by omega) |>.mpr wide

end Batches

/-! ## Rows of packed documents -/

/-- Documents that the writer packed, and a row that was read back. -/
structure WrittenRow
    {Digest : Type} [DecidableEq Digest] (sha256 : List Byte -> Digest) where
  arguments : WriterArguments Digest
  config : WriterConfig Digest
  accepts : arguments.check = .ok config
  documents : List (List Nat)
  nonempty : ∀ document ∈ documents, document ≠ []
  inVocabulary : ∀ document ∈ documents, ∀ token ∈ document,
    token < config.vocabSize
  policy : DrainPolicy
  verifyChecksums : Bool
  dataset : PackedShardDataset Digest Unit
  opens : PackedShardDataset.new sha256 verifyChecksums
    ((packDocuments sha256 arguments policy documents).run
      (∅ : Directory Digest Unit)).final = .ok dataset
  row : Nat
  item : PackedRow
  read : dataset.getItem
    ((packDocuments sha256 arguments policy documents).run
      (∅ : Directory Digest Unit)).final row = .ok item

namespace WrittenRow

variable {Digest : Type} [DecidableEq Digest] {sha256 : List Byte -> Digest}

/-- A written row holds its window of the documents. -/
theorem exact (written : WrittenRow sha256) :
    ExactRow written.config.sequenceLength written.config.eosTokenId
      written.documents written.row written.item := by
  let construction : Construction Digest Unit := packing sha256 written.config
    written.documents written.nonempty written.inVocabulary
  obtain ⟨writer, cursor, -, complete⟩ :=
    construction.exists_complete written.accepts written.policy
  have complete : construction.Complete cursor
      ((packDocuments sha256 written.arguments written.policy
        written.documents).run (∅ : Directory Digest Unit)).final := complete
  have opened := written.opens.symm.trans
    (complete.opens written.verifyChecksums)
  have read := written.read
  rw [Except.ok.inj opened,
    getItem_dataset_eq_ok complete.payloadsExact] at read
  obtain ⟨bound, equal⟩ := read
  rw [equal, complete.packedRow_eq bound]
  exact streamRow_exact (Construction.row_inside_stream bound)

end WrittenRow

section Written

open PackedBatchCollator

variable {Digest : Type} [DecidableEq Digest] {sha256 : List Byte -> Digest}

/-- The gate keeps its promise on the rows that a collator accepts, except for
six rows of 4096 columns that the diagnostics return a record for and one of
which a start follows; the starts of written rows are where documents
start. -/
theorem boundaryPromise_iff
    {width size eos : PyValue}
    {collator : PackedBatchCollator}
    {rows : List SampleRow}
    {tensors : Batch}
    (opened : PackedBatchCollator.new width size eos = .ok collator)
    (collated : collator.call rows = .ok tensors) :
    (BoundaryPromise collator.sequenceLength rows tensors ↔
      (rows.length = 6 -> collator.sequenceLength = 4096 ->
        1 ≤ inRowStarts collator.sequenceLength rows ->
        1 ≤ supervisedTargets collator.sequenceLength rows ->
          ∀ row ∈ rows, bitAt row.starts collator.sequenceLength = false)) ∧
      ∀ (written : WrittenRow sha256) (domainId reference : Nat),
        written.item.sample domainId reference ∈ rows ->
        ∀ column ≤ collator.sequenceLength,
          bitAt written.item.starts column = true ↔
            column = 0 ∨ IsDocumentStart written.documents
              (written.row * collator.sequenceLength + column) := by
  obtain ⟨fit, rfl⟩ := rowsFit_of_call (two_le_of_new opened) collated
  refine ⟨boundaryPromise_of_fit fit, ?_⟩
  intro written domainId reference member column inside
  have same : written.config.sequenceLength = collator.sequenceLength :=
    Nat.succ.inj (written.exact.tokens_length.symm.trans
      (fit.width _ member))
  rw [written.exact.bitAt_iff, same, and_iff_right inside]

/-- The writer's rows are collated, and each holds its window of the
documents. -/
theorem exists_collated
    {arguments : WriterArguments Digest}
    {config : WriterConfig Digest}
    {documents : List (List Nat)}
    (accepts : arguments.check = .ok config)
    (nonempty : ∀ document ∈ documents, document ≠ [])
    (inVocabulary : ∀ document ∈ documents, ∀ token ∈ document,
      token < config.vocabSize)
    {ids : List Nat}
    (filled : ids ≠ [])
    (bound : ∀ row ∈ ids, row < rowCount config.sequenceLength
      (position documents documents.length)) :
    ∃ (dataset : PackedShardDataset Digest Unit) (sample : Nat -> SampleRow)
        (tensors : Batch),
      PackedShardDataset.new sha256 true ((packDocuments sha256 arguments
        .default documents).run (∅ : Directory Digest Unit)).final =
          .ok dataset ∧
      PackedBatchCollator.new (.int config.sequenceLength)
        (.int config.vocabSize) (.int config.eosTokenId) =
          .ok ⟨config.sequenceLength, some config.vocabSize,
            some config.eosTokenId⟩ ∧
      collateRows ⟨config.sequenceLength, some config.vocabSize,
        some config.eosTokenId⟩ dataset ((packDocuments sha256 arguments
          .default documents).run (∅ : Directory Digest Unit)).final 0 id ids =
            .ok tensors ∧
      call ⟨config.sequenceLength, some config.vocabSize,
        some config.eosTokenId⟩ (ids.map sample) = .ok tensors ∧
      ∀ row ∈ ids, ExactRow config.sequenceLength config.eosTokenId documents
        row (sample row).toPackedRow := by
  let construction : Construction Digest Unit :=
    packing sha256 config documents nonempty inVocabulary
  obtain ⟨writer, cursor, -, complete⟩ :=
    construction.exists_complete accepts .default
  have complete : construction.Complete cursor
      ((packDocuments sha256 arguments .default documents).run
        (∅ : Directory Digest Unit)).final := complete
  have finished := complete.toFinished
  have valid (row : Nat) (member : row ∈ ids) :=
    finished.rowValid (bound row member)
  refine ⟨_, packedSample (construction.packedManifest cursor)
      ((packDocuments sha256 arguments .default documents).run
        (∅ : Directory Digest Unit)).final 0 id, _, complete.opens true,
    PackedBatchCollator.new_eq_ok config.two_le_sequenceLength
      config.vocabSize_bounds
      (by have := config.eosTokenId_lt; omega),
    collateRows_eq_ok finished.payloadsExact
      (fun row small => finished.rowValid small) filled bound,
    call_eq_ok (by simpa using filled) ?_, ?_⟩
  · rw [List.forall_mem_map]
    exact valid
  · intro row member
    have equal := finished.packedRow_eq (bound row member)
    have exact : ExactRow config.sequenceLength config.eosTokenId documents
        row (packedRow (construction.packedManifest cursor)
          ((packDocuments sha256 arguments .default documents).run
            (∅ : Directory Digest Unit)).final row) := by
      rw [equal]
      exact streamRow_exact (Construction.row_inside_stream
        (show row < construction.rowsAt construction.documents.length from
          bound row member))
    exact exact

end Written

/-- On a batch of one row there is nothing to reject. -/
theorem boundaryPromise_iff_small :
    ∃ rows tensors,
      PackedBatchCollator.call ⟨2, some 4, some 0⟩ rows = .ok tensors ∧
        BoundaryPromise 2 rows tensors := by
  obtain ⟨dataset, sample, tensors, -, opened, -, collated, -⟩ :=
    @exists_collated (List Byte) _ id smallArguments smallConfig
      smallDocuments smallArguments_check (by decide) (by decide) [0]
      (by decide) (by decide)
  exact ⟨_, tensors, collated,
    (@boundaryPromise_iff (List Byte) _ id _ _ _ _ _ _ opened
      collated).1.mpr fun _ wide => absurd wide (by decide)⟩

/-! ## A document that starts right after a row -/

/-- Rows of 4096 columns. -/
def lookaheadArguments : WriterArguments (List Byte) :=
  { smallArguments with sequenceLength := 4096 }

/-- The configuration that the constructor makes of them. -/
def lookaheadConfig : WriterConfig (List Byte) :=
  smallConfig.withSequenceLength 4096 (by decide)

/-- Documents that start at every multiple of 2048. -/
def lookaheadDocuments : List (List Nat) :=
  List.replicate 13 (List.replicate 2047 1)

theorem position_replicate
    {times count : Nat} (document : List Nat) (small : count ≤ times) :
    position (List.replicate times document) count =
      count * (document.length + 1) := by
  rw [position, List.take_replicate, Nat.min_eq_left small, List.map_replicate,
    List.sum_replicate, smul_eq_mul]

theorem position_lookaheadDocuments {count : Nat} (small : count ≤ 13) :
    position lookaheadDocuments count = count * 2048 := by
  rw [lookaheadDocuments, position_replicate _ small, List.length_replicate]

theorem isDocumentStart_lookahead {count : Nat} (small : count < 13) :
    IsDocumentStart lookaheadDocuments (count * 2048) :=
  ⟨count, by rwa [lookaheadDocuments, List.length_replicate],
    position_lookaheadDocuments (Nat.le_of_lt small)⟩

theorem one_le_sum_countP
    {rows : List SampleRow} {row : SampleRow}
    {test : SampleRow -> Nat -> Bool} {bound column : Nat}
    (member : row ∈ rows)
    (inside : column < bound)
    (holds : test row column = true) :
    1 ≤ (rows.map fun row => (List.range bound).countP (test row)).sum := by
  have positive : 0 < (List.range bound).countP (test row) :=
    List.countP_pos_iff.mpr ⟨column, List.mem_range.mpr inside, holds⟩
  exact Nat.le_trans positive (List.single_le_sum
    (fun _ _ => Nat.zero_le _) _ (List.mem_map_of_mem member))

/-- Every row of these documents is followed by a start: the diagnostics return
a record of six rows of 4096 columns, and it proves no boundary masking. -/
theorem boundaryPromise_lookahead :
    ∃ (dataset : PackedShardDataset (List Byte) Unit)
        (collator : PackedBatchCollator) (tensors : Batch)
        (record : BoundaryRecord),
      PackedShardDataset.new id true ((packDocuments id lookaheadArguments
        .default lookaheadDocuments).run (∅ : Directory (List Byte)
          Unit)).final = .ok dataset ∧
      PackedBatchCollator.new (.int 4096) (.int 4) (.int 0) = .ok collator ∧
      collator.collateRows dataset ((packDocuments id lookaheadArguments
        .default lookaheadDocuments).run (∅ : Directory (List Byte)
          Unit)).final 0 id (List.range 6) = .ok tensors ∧
      packedBoundaryDiagnostics tensors = .ok record ∧
      record.rows = 6 ∧ record.sequenceLength = 4096 ∧
      ¬ProvesBoundaries record := by
  have rowsFilled : rowCount 4096 (position lookaheadDocuments
      lookaheadDocuments.length) = 6 := by
    rw [lookaheadDocuments, List.length_replicate, position_replicate _ le_rfl,
      List.length_replicate]
    rfl
  obtain ⟨dataset, sample, tensors, opens, opened, read, collated, exact⟩ :=
    @exists_collated (List Byte) _ id lookaheadArguments lookaheadConfig
      lookaheadDocuments rfl
      (fun document member => by
        rw [List.eq_of_mem_replicate member]
        exact List.cons_ne_nil 1 (List.replicate 2046 1))
      (fun document member token inside => by
        rw [List.eq_of_mem_replicate member] at inside
        rw [List.eq_of_mem_replicate inside]
        decide)
      (List.range 6) (by decide)
      (fun row member => (List.mem_range.mp member).trans_eq rowsFilled.symm)
  obtain ⟨fit, rfl⟩ := rowsFit_of_call
    (show 2 ≤ lookaheadConfig.sequenceLength by decide) collated
  have first := exact 0 (by decide)
  have listed : sample 0 ∈ (List.range 6).map sample :=
    List.mem_map_of_mem (by decide)
  have start (count : Nat) (small : count * 2048 ≤ 4096) :
      bitAt (sample 0).starts (count * 2048) = true := by
    refine (first.bitAt_iff _).mpr ⟨small, .inr ?_⟩
    rw [Nat.zero_mul, Nat.zero_add]
    exact isDocumentStart_lookahead (by omega)
  have plain : bitAt (sample 0).starts 1 = false := by
    rw [← Bool.not_eq_true, first.bitAt_iff]
    rintro ⟨-, isFirst | isStart⟩
    · cases isFirst
    · refine not_isDocumentStart_between
        (show position lookaheadDocuments 0 < _ from ?_) ?_ isStart
      · rw [position_lookaheadDocuments (by decide)]
        decide
      · rw [position_lookaheadDocuments (by decide)]
        decide
  have inside : 1 ≤ inRowStarts 4096 ((List.range 6).map sample) :=
    one_le_sum_countP listed (show 2047 < 4096 - 1 by decide)
      (start 1 (by decide))
  have supervised : 1 ≤ supervisedTargets 4096 ((List.range 6).map sample) :=
    one_le_sum_countP listed (show 0 < 4096 by decide) (by simp [plain])
  refine ⟨dataset, _, _, _, opens, opened, read,
    (packedBoundaryDiagnostics_eq_ok fit).mpr ⟨inside, supervised, rfl⟩, by
      simp [boundaryRecord], rfl, ?_⟩
  intro proves
  have none := (provesBoundaries_iff (by simp) rfl inside).mp proves
  have absent := nextStarts_eq_zero.mp none _ listed
  rw [start 2 (by decide)] at absent
  cases absent

end OverfitChunk
end CodingLlm
