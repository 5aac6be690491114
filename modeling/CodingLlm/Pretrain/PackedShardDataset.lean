import CodingLlm.Pretrain.ValidatePackedManifest

/-!
# Random access to packed rows

`PackedShardDataset` routes a row id to its shard by bisecting the running row
totals.  Since only the last shard may be partial, row `r` is row
`r % rows_per_shard` of shard `r / rows_per_shard`.
-/

namespace CodingLlm

open Words Slices

variable {Digest Cursor : Type}

/-- What `PackedShardDataset.__getitem__` returns. -/
structure PackedRow where
  tokens : List Nat
  starts : List Byte
  rowId : Int
  deriving DecidableEq

/-- `PackedShardDataset`: the manifest and the running row totals. -/
structure PackedShardDataset (Digest Cursor : Type) where
  manifest : PackedManifest Digest Cursor
  ends : List Nat

/-- `bisect.bisect_right` on a sorted list: how many entries do not exceed the
row. -/
def bisectRight (ends : List Nat) (row : Nat) : Nat :=
  (ends.takeWhile fun total => decide (total ≤ row)).length

namespace PackedShardDataset

/-- `_require_exact_shard_files`. -/
def requireExactShardFiles
    (sequenceLength : Nat) (directory : Directory Digest Cursor)
    (shard : Shard Digest) : Checked (List Byte × List Byte) := do
  let tokenBytes ← requireExactPayload sequenceLength shard directory .tokens
  let startBytes ← requireExactPayload sequenceLength shard directory .starts
  return (tokenBytes, startBytes)

/-- The loop of the constructor over the shards, with the rows so far. -/
def shardEnds (sequenceLength : Nat) (directory : Directory Digest Cursor) :
    Nat -> List (Shard Digest) -> Checked (List Nat)
  | _, [] => .ok []
  | total, shard :: rest => do
      let _ ← requireExactShardFiles sequenceLength directory shard
      let ends ← shardEnds sequenceLength directory (total + shard.rows) rest
      return (total + shard.rows) :: ends

/-- The part of the constructor after the optional validation. -/
def load (directory : Directory Digest Cursor) :
    Checked (PackedShardDataset Digest Cursor) := do
  let document ← readManifest directory
  let manifest ← parsePackedManifest document
  let ends ← shardEnds manifest.sequenceLength directory 0 manifest.shards
  return ⟨manifest, ends⟩

/-- `PackedShardDataset(manifest_path, verify_checksums=...)`. -/
def new [DecidableEq Digest]
    (sha256 : List Byte -> Digest) (verifyChecksums : Bool)
    (directory : Directory Digest Cursor) :
    Checked (PackedShardDataset Digest Cursor) := do
  if verifyChecksums then
    let _ ← validatePackedManifest sha256 true directory
  load directory

/-- `__len__`. -/
def length (dataset : PackedShardDataset Digest Cursor) : Nat :=
  dataset.manifest.rows

/-- `__getitem__`. -/
def getItem
    (dataset : PackedShardDataset Digest Cursor)
    (directory : Directory Digest Cursor) (rowId : Int) :
    Checked PackedRow := do
  let rowId := if rowId < 0 then rowId + dataset.length else rowId
  let _ ← require (0 ≤ rowId ∧ rowId < dataset.length)
    (.indexError "row_id")
  let shardIndex := bisectRight dataset.ends rowId.toNat
  let shardStart :=
    if shardIndex = 0 then 0 else dataset.ends.getD (shardIndex - 1) 0
  let localRow := rowId.toNat - shardStart
  let shard ← requireObject dataset.manifest.shards[shardIndex]?
    (.indexError "list index out of range")
  let (tokenBytes, startBytes) ← requireExactShardFiles
    dataset.manifest.sequenceLength directory shard
  return {
    tokens := tokenRow dataset.manifest.sequenceLength tokenBytes localRow
    starts := startsRow dataset.manifest.sequenceLength startBytes localRow
    rowId
  }

end PackedShardDataset

/-! ## Where a row lies -/

section Rows

variable {manifest : PackedManifest Digest Cursor}
variable {directory : Directory Digest Cursor}

/-- The row of a packed directory, found by division. -/
def packedRow
    (manifest : PackedManifest Digest Cursor)
    (directory : Directory Digest Cursor) (row : Nat) : PackedRow where
  tokens := tokenRow manifest.sequenceLength
    (payloadBytes directory (row / manifest.rowsPerShard) .tokens)
    (row % manifest.rowsPerShard)
  starts := startsRow manifest.sequenceLength
    (payloadBytes directory (row / manifest.rowsPerShard) .starts)
    (row % manifest.rowsPerShard)
  rowId := row

/-- All payload files of a directory are as large as its manifest says. -/
def PayloadsExact
    (manifest : PackedManifest Digest Cursor)
    (directory : Directory Digest Cursor) : Prop :=
  ∀ shard ∈ manifest.shards, ∀ kind,
    PayloadExact manifest.sequenceLength directory shard kind

/-- The running totals of the shards' rows. -/
def totals : Nat -> List (Shard Digest) -> List Nat
  | _, [] => []
  | total, shard :: rest =>
      (total + shard.rows) :: totals (total + shard.rows) rest

theorem requireExactShardFiles_eq_ok
    {sequenceLength : Nat} {shard : Shard Digest}
    {files : List Byte × List Byte} :
    PackedShardDataset.requireExactShardFiles sequenceLength directory shard =
        .ok files ↔
      (∀ kind, PayloadExact sequenceLength directory shard kind) ∧
        files = (payloadBytes directory shard.index .tokens,
          payloadBytes directory shard.index .starts) := by
  simp only [PackedShardDataset.requireExactShardFiles, checked_bind_eq_ok,
    requireExactPayload_eq_ok, checked_pure_eq_ok]
  constructor
  · rintro ⟨_, ⟨tokens, rfl⟩, _, ⟨starts, rfl⟩, rfl⟩
    refine ⟨?_, rfl⟩
    rintro (_ | _)
    · exact tokens
    · exact starts
  · rintro ⟨exact, rfl⟩
    exact ⟨_, ⟨exact .tokens, rfl⟩, _, ⟨exact .starts, rfl⟩, rfl⟩

theorem shardEnds_eq_ok
    {sequenceLength total : Nat} {shards : List (Shard Digest)}
    {ends : List Nat} :
    PackedShardDataset.shardEnds sequenceLength directory total shards =
        .ok ends ↔
      (∀ shard ∈ shards, ∀ kind,
        PayloadExact sequenceLength directory shard kind) ∧
        ends = totals total shards := by
  induction shards generalizing total ends with
  | nil =>
      simp only [PackedShardDataset.shardEnds, totals, Except.ok.injEq]
      simp
  | cons shard rest inductionHypothesis =>
      simp only [PackedShardDataset.shardEnds, checked_bind_eq_ok,
        requireExactShardFiles_eq_ok, inductionHypothesis, totals,
        checked_pure_eq_ok, List.forall_mem_cons]
      constructor
      · rintro ⟨_, ⟨exact, rfl⟩, _, ⟨others, rfl⟩, rfl⟩
        exact ⟨⟨exact, others⟩, rfl⟩
      · rintro ⟨⟨exact, others⟩, rfl⟩
        exact ⟨_, ⟨exact, rfl⟩, _, ⟨others, rfl⟩, rfl⟩

/-- Only the last of the shards may be partial. -/
def FullButLast (width : Nat) (shards : List (Shard Digest)) : Prop :=
  ∀ position (bound : position < shards.length),
    shards[position].rows ≤ width ∧
      (position + 1 < shards.length -> shards[position].rows = width)

theorem FullButLast.tail
    {width : Nat} {shard : Shard Digest} {rest : List (Shard Digest)}
    (full : FullButLast width (shard :: rest)) : FullButLast width rest := by
  intro position bound
  have next := full (position + 1) (by simpa using bound)
  simpa using next

theorem FullButLast.head
    {width : Nat} {shard : Shard Digest} {rest : List (Shard Digest)}
    (full : FullButLast width (shard :: rest)) (nonempty : rest ≠ []) :
    shard.rows = width := by
  have positive := List.length_pos_iff.mpr nonempty
  exact (full 0 (by simp)).2 (by simpa using positive)

theorem PackedManifest.fullButLast (manifest : PackedManifest Digest Cursor) :
    FullButLast manifest.rowsPerShard manifest.shards := fun position bound =>
  ⟨(manifest.shards_rows position bound).2,
    manifest.shards_full position bound⟩

theorem bisectRight_cons (total row : Nat) (ends : List Nat) :
    bisectRight (total :: ends) row =
      if total ≤ row then bisectRight ends row + 1 else 0 := by
  by_cases le : total ≤ row
  · simp [bisectRight, le]
  · simp [bisectRight, le]

/-- Bisecting the running totals divides by the shard width. -/
theorem bisectRight_totals
    {width row : Nat} {shards : List (Shard Digest)}
    (full : FullButLast width shards)
    (position : Nat)
    (low : position * width ≤ row)
    (high : row < position * width + Shard.totalRows shards) :
    position + bisectRight (totals (position * width) shards) row =
      row / width := by
  induction shards generalizing position with
  | nil =>
      simp only [Shard.totalRows, List.map_nil, List.sum_nil] at high
      omega
  | cons shard rest inductionHypothesis =>
      have bounded := (full 0 (by simp)).1
      simp only [List.getElem_cons_zero] at bounded
      simp only [Shard.totalRows, List.map_cons, List.sum_cons] at high
      rw [totals, bisectRight_cons]
      split
      · rename_i passed
        have nonempty : rest ≠ [] := by
          rintro rfl
          simp only [List.map_nil, List.sum_nil] at high
          omega
        rw [full.head nonempty] at high passed ⊢
        rw [← Nat.succ_mul] at passed ⊢
        rw [← Nat.add_assoc, Nat.add_right_comm]
        refine inductionHypothesis full.tail (position + 1) passed ?_
        rw [Shard.totalRows, Nat.succ_mul]
        omega
      · rename_i within
        have positive : 0 < width := by omega
        symm
        rw [Nat.add_zero, Nat.div_eq_iff positive, Nat.mul_comm]
        rw [Nat.mul_comm] at low within
        omega

/-- Up to the last one, the running totals are multiples of the width. -/
theorem getD_totals
    {width index : Nat} {shards : List (Shard Digest)}
    (full : FullButLast width shards)
    (position : Nat)
    (bound : index + 1 < shards.length) :
    (totals (position * width) shards).getD index 0 =
      (position + index + 1) * width := by
  induction shards generalizing position index with
  | nil => simp at bound
  | cons shard rest inductionHypothesis =>
      have nonempty : rest ≠ [] := by
        rintro rfl
        simp at bound
      rw [totals, full.head nonempty, ← Nat.succ_mul]
      cases index with
      | zero => simp
      | succ index =>
          rw [List.getD_cons_succ, inductionHypothesis full.tail (position + 1)
            (by simpa using bound)]
          congr 1
          omega

/-- The rows of one shard, numbered through all shards. -/
theorem map_divMod_range'
    {width count : Nat} (position : Nat) (bounded : count ≤ width) :
    (List.range' (position * width) count).map
        (fun row => (row / width, row % width)) =
      (List.range count).map fun row => (position, row) := by
  rw [List.range'_eq_map_range, List.map_map]
  apply List.map_congr_left
  intro row member
  rw [List.mem_range] at member
  have small : row < width := by omega
  rw [Function.comp_apply, Nat.add_comm,
    Nat.add_mul_div_right _ _ (by omega), Nat.add_mul_mod_self_right,
    Nat.div_eq_of_lt small, Nat.mod_eq_of_lt small, Nat.zero_add]

/-- The rows of all shards in turn are those that division finds. -/
theorem FullButLast.cells
    {width : Nat} {shards : List (Shard Digest)}
    (full : FullButLast width shards)
    (position : Nat)
    (indexed : ∀ index (bound : index < shards.length),
      shards[index].index = position + index) :
    (shards.flatMap fun shard =>
        (List.range shard.rows).map fun row => (shard.index, row)) =
      (List.range' (position * width) (Shard.totalRows shards)).map
        fun row => (row / width, row % width) := by
  induction shards generalizing position with
  | nil => rfl
  | cons shard rest inductionHypothesis =>
      have first := indexed 0 (by simp)
      have bounded := (full 0 (by simp)).1
      simp only [List.getElem_cons_zero, Nat.add_zero] at first bounded
      have others : ∀ index (bound : index < rest.length),
          rest[index].index = position + 1 + index := by
        intro index bound
        have next := indexed (index + 1) (by simpa using bound)
        rw [List.getElem_cons_succ] at next
        omega
      rw [List.flatMap_cons,
        inductionHypothesis full.tail (position + 1) others, first,
        ← map_divMod_range' position bounded, ← List.map_append]
      congr 1
      simp only [Shard.totalRows, List.map_cons, List.sum_cons]
      by_cases nonempty : rest = []
      · subst nonempty
        simp
      · rw [full.head nonempty, Nat.succ_mul, List.range'_append_1]

theorem PackedManifest.cells (manifest : PackedManifest Digest Cursor) :
    (manifest.shards.flatMap fun shard =>
        (List.range shard.rows).map fun row => (shard.index, row)) =
      (List.range manifest.rows).map fun row =>
        (row / manifest.rowsPerShard, row % manifest.rowsPerShard) := by
  have cells := manifest.fullButLast.cells 0
    fun position bound => by simpa using manifest.shards_index position bound
  rwa [Nat.zero_mul, manifest.totalRows_eq, ← List.range_eq_range'] at cells

/-- The shard that holds a row. -/
theorem PackedManifest.exists_shard
    (manifest : PackedManifest Digest Cursor) {row : Nat}
    (bound : row < manifest.rows) :
    ∃ shard, manifest.shards[row / manifest.rowsPerShard]? = some shard ∧
      shard ∈ manifest.shards ∧
      shard.index = row / manifest.rowsPerShard ∧
      row % manifest.rowsPerShard < shard.rows := by
  have member : (row / manifest.rowsPerShard, row % manifest.rowsPerShard) ∈
      (List.range manifest.rows).map fun row =>
        (row / manifest.rowsPerShard, row % manifest.rowsPerShard) :=
    List.mem_map.mpr ⟨row, List.mem_range.mpr bound, rfl⟩
  rw [← manifest.cells] at member
  simp only [List.mem_flatMap, List.mem_map, List.mem_range,
    Prod.mk.injEq] at member
  obtain ⟨shard, inShards, local', inShard, index, rfl⟩ := member
  obtain ⟨position, inside, rfl⟩ := List.getElem_of_mem inShards
  rw [manifest.shards_index position inside] at index
  subst index
  exact ⟨_, List.getElem?_eq_getElem inside, inShards,
    manifest.shards_index _ inside, inShard⟩

end Rows

/-! ## Reading -/

section Reading

variable {manifest : PackedManifest Digest Cursor}
variable {directory : Directory Digest Cursor}

/-- The dataset of a manifest. -/
def PackedManifest.dataset
    (manifest : PackedManifest Digest Cursor) :
    PackedShardDataset Digest Cursor :=
  ⟨manifest, totals 0 manifest.shards⟩

@[simp] theorem PackedManifest.dataset_manifest
    (manifest : PackedManifest Digest Cursor) :
    manifest.dataset.manifest = manifest := rfl

theorem PackedManifest.bisectRight_ends
    (manifest : PackedManifest Digest Cursor) {row : Nat}
    (bound : row < manifest.rows) :
    bisectRight manifest.dataset.ends row = row / manifest.rowsPerShard := by
  have place := bisectRight_totals manifest.fullButLast 0
    (by simp) (by rwa [manifest.totalRows_eq, Nat.zero_mul, Nat.zero_add])
  rwa [Nat.zero_mul, Nat.zero_add] at place

/-- The first row of the shard that holds a row. -/
theorem PackedManifest.shardStart
    (manifest : PackedManifest Digest Cursor) {row : Nat}
    (bound : row < manifest.rows) :
    (if row / manifest.rowsPerShard = 0 then 0
      else manifest.dataset.ends.getD
        (row / manifest.rowsPerShard - 1) 0) =
      row / manifest.rowsPerShard * manifest.rowsPerShard := by
  obtain ⟨_, found, -⟩ := manifest.exists_shard bound
  have inside := (List.getElem?_eq_some_iff.mp found).1
  generalize row / manifest.rowsPerShard = position at inside ⊢
  cases position with
  | zero => simp
  | succ position =>
      have total := getD_totals manifest.fullButLast 0 inside
      rw [Nat.zero_mul, Nat.zero_add] at total
      rw [if_neg (Nat.succ_ne_zero position), Nat.succ_sub_one]
      exact total

/-- Every row of a packed directory can be read, and is the row that division
finds. -/
theorem getItem_dataset
    {row : Nat}
    (exact : PayloadsExact manifest directory)
    (bound : row < manifest.rows) :
    manifest.dataset.getItem directory row =
      .ok (packedRow manifest directory row) := by
  obtain ⟨shard, found, member, index, -⟩ := manifest.exists_shard bound
  have files := requireExactShardFiles_eq_ok.mpr
    ⟨exact shard member, rfl⟩
  have nonnegative : ¬(row : Int) < 0 := by omega
  have inside : 0 ≤ (row : Int) ∧
      (row : Int) < (manifest.dataset.length : Nat) := by
    have : row < manifest.dataset.length := bound
    omega
  unfold PackedShardDataset.getItem
  simp only [if_neg nonnegative]
  refine (require_bind inside _).trans ?_
  have localRow : row - row / manifest.rowsPerShard * manifest.rowsPerShard =
      row % manifest.rowsPerShard :=
    Nat.sub_eq_of_eq_add' (Nat.div_add_mod' row _).symm
  simp only [Int.toNat_natCast, manifest.bisectRight_ends bound,
    manifest.shardStart bound, manifest.dataset_manifest, localRow]
  rw [found, requireObject_some, checked_ok_bind, files, checked_ok_bind,
    index]
  rfl

/-- The directory has the given accepted manifest, and payload files of the
sizes it says. -/
structure Opens
    (manifest : PackedManifest Digest Cursor)
    (directory : Directory Digest Cursor) : Prop where
  parsed : ∃ document, readManifest directory = .ok document ∧
    parsePackedManifest document = .ok manifest
  exact : PayloadsExact manifest directory

/-- A dataset loads exactly when its manifest parses and its payload files have
their exact sizes. -/
theorem load_eq_ok {dataset : PackedShardDataset Digest Cursor} :
    PackedShardDataset.load directory = .ok dataset ↔
      ∃ manifest, Opens manifest directory ∧ dataset = manifest.dataset := by
  simp only [PackedShardDataset.load, checked_bind_eq_ok, shardEnds_eq_ok,
    checked_pure_eq_ok]
  constructor
  · rintro ⟨document, read, manifest, parsed, _, ⟨exact, rfl⟩, rfl⟩
    exact ⟨manifest, ⟨⟨document, read, parsed⟩, exact⟩, rfl⟩
  · rintro ⟨manifest, ⟨⟨document, read, parsed⟩, exact⟩, rfl⟩
    exact ⟨document, read, manifest, parsed, _, ⟨exact, rfl⟩, rfl⟩

/-- With checksums the directory is validated before. -/
theorem new_eq_ok
    [DecidableEq Digest] {sha256 : List Byte -> Digest}
    {verifyChecksums : Bool} {dataset : PackedShardDataset Digest Cursor} :
    PackedShardDataset.new sha256 verifyChecksums directory = .ok dataset ↔
      (verifyChecksums = true -> ∃ manifest,
        validatePackedManifest sha256 true directory = .ok manifest) ∧
      ∃ manifest, Opens manifest directory ∧ dataset = manifest.dataset := by
  cases verifyChecksums with
  | false => simpa [PackedShardDataset.new] using load_eq_ok
  | true =>
      rw [PackedShardDataset.new, if_pos rfl, checked_bind_eq_ok]
      simp only [load_eq_ok, forall_const]
      exact exists_and_right

/-- Only the rows of the manifest can be read. -/
theorem getItem_dataset_eq_ok
    {row : Nat} {item : PackedRow}
    (exact : PayloadsExact manifest directory) :
    manifest.dataset.getItem directory row = .ok item ↔
      row < manifest.rows ∧ item = packedRow manifest directory row := by
  by_cases bound : row < manifest.rows
  · rw [getItem_dataset exact bound, Except.ok.injEq, and_iff_right bound]
    exact eq_comm
  · rw [iff_false_right (fun both => bound both.1)]
    intro read
    unfold PackedShardDataset.getItem at read
    simp only [if_neg (show ¬(row : Int) < 0 by omega),
      require_then_eq_ok] at read
    exact bound (by exact_mod_cast read.1.2)

end Reading

/-! ## Validated directories -/

section Validated

variable {sha256 : List Byte -> Digest} {verifyChecksums : Bool}
variable {manifest : PackedManifest Digest Cursor}
variable {directory : Directory Digest Cursor}

/-- Masked labels of a row of a packed directory. -/
def rowMaskedLabels
    (manifest : PackedManifest Digest Cursor)
    (directory : Directory Digest Cursor) (row : Nat) : Nat :=
  maskedLabels manifest.sequenceLength
    (packedRow manifest directory row).starts

/-- A row of a packed directory is valid. -/
def PackedRowValid
    (manifest : PackedManifest Digest Cursor)
    (directory : Directory Digest Cursor) (row : Nat) : Prop :=
  RowValid manifest.sequenceLength manifest.vocabSize
    manifest.eosTokenId.toInt (packedRow manifest directory row).tokens
    (packedRow manifest directory row).starts

/-- What validation establishes of a directory with a given manifest. -/
structure Validated
    (sha256 : List Byte -> Digest) (verifyChecksums : Bool)
    (manifest : PackedManifest Digest Cursor)
    (directory : Directory Digest Cursor) : Prop where
  names : ∀ name ∈ directory.keys, name ∈ expectedNames manifest.shards
  exact : PayloadsExact manifest directory
  checksums : verifyChecksums = true -> ∀ shard ∈ manifest.shards, ∀ kind,
    sha256 (payloadBytes directory shard.index kind) = shard.sha256 kind
  rows : ∀ row < manifest.rows, PackedRowValid manifest directory row
  masked : ((List.range manifest.rows).map
    (rowMaskedLabels manifest directory)).sum = manifest.maskedBoundaryLabels

/-- A property of all rows, shard by shard. -/
theorem forall_cells_iff
    (manifest : PackedManifest Digest Cursor)
    (property : Nat -> Nat -> Prop) :
    (∀ shard ∈ manifest.shards, ∀ row < shard.rows,
        property shard.index row) ↔
      ∀ row < manifest.rows, property (row / manifest.rowsPerShard)
        (row % manifest.rowsPerShard) := by
  have members (cell : Nat × Nat) :=
    (congrArg (cell ∈ ·) manifest.cells).to_iff
  simp only [List.mem_flatMap, List.mem_map, List.mem_range] at members
  constructor
  · intro all row bound
    obtain ⟨shard, member, local', inside, equal⟩ :=
      (members _).mpr ⟨row, bound, rfl⟩
    simp only [Prod.mk.injEq] at equal
    rw [← equal.1, ← equal.2]
    exact all shard member local' inside
  · intro all shard member row inside
    obtain ⟨whole, bound, equal⟩ :=
      (members (shard.index, row)).mp ⟨shard, member, row, inside, rfl⟩
    simp only [Prod.mk.injEq] at equal
    rw [← equal.1, ← equal.2]
    exact all whole bound

/-- The masked labels of all shards are those of all rows. -/
theorem sum_shardMasked
    (manifest : PackedManifest Digest Cursor)
    (directory : Directory Digest Cursor) :
    (manifest.shards.map (shardMasked manifest directory)).sum =
      ((List.range manifest.rows).map
        (rowMaskedLabels manifest directory)).sum := by
  let inCell (cell : Nat × Nat) : Nat :=
    maskedLabels manifest.sequenceLength
      (startsRow manifest.sequenceLength
        (payloadBytes directory cell.1 .starts) cell.2)
  have cells := congrArg (fun cells => (cells.map inCell).sum) manifest.cells
  simp only [List.map_flatMap, List.map_map] at cells
  rw [List.flatMap_def, List.sum_flatten, List.map_map] at cells
  exact cells

theorem validatePackedManifest_eq_ok_iff [DecidableEq Digest] :
    validatePackedManifest sha256 verifyChecksums directory = .ok manifest ↔
      (∃ document, readManifest directory = .ok document ∧
        parsePackedManifest document = .ok manifest) ∧
      Validated sha256 verifyChecksums manifest directory := by
  have rows := forall_cells_iff manifest fun index row =>
    RowValidIn manifest.sequenceLength manifest.vocabSize
      manifest.eosTokenId.toInt (payloadBytes directory index .tokens)
      (payloadBytes directory index .starts) row
  rw [validatePackedManifest_eq_ok]
  constructor
  · rintro ⟨document, read, parsed, names, valid, masked⟩
    refine ⟨⟨document, read, parsed⟩, names,
      fun shard member => (valid shard member).exact,
      fun verify shard member => (valid shard member).checksum verify,
      rows.mp fun shard member => (valid shard member).rows, ?_⟩
    rw [← sum_shardMasked, masked]
  · rintro ⟨⟨document, read, parsed⟩, validated⟩
    refine ⟨document, read, parsed, validated.names, fun shard member =>
      ⟨validated.exact shard member,
        fun verify => validated.checksums verify shard member,
        rows.mpr validated.rows shard member⟩, ?_⟩
    rw [sum_shardMasked, validated.masked]

end Validated

end CodingLlm
