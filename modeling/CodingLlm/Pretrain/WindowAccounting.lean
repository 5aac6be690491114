import CodingLlm.Pretrain.LoadedBatches
import CodingLlm.Pretrain.DocumentSegments
import CodingLlm.Pretrain.TrainingHistory

/-!
# Counters of a window

The counters that an optimizer update adds up over the microbatches of all
ranks are those of the references it trains, computed from the start bits of
their rows, in whatever order and grouping the references are drawn.
-/

namespace CodingLlm

open Words Slices

variable {Digest Cursor : Type}

/-! ## Counters of references -/

section References

variable (manifests : Domain -> PackedManifest Digest Cursor)
variable (directories : Domain -> Directory Digest Cursor)
variable (sequenceLength : Nat)

/-- The counters of references. -/
def statsOf (references : List Nat) : WindowStats where
  lossTokens := totalOf (supervisedIn manifests directories references)
  modelLossTokens := totalOf (supervisedIn manifests directories references)
  inputTokens := references.length * sequenceLength
  domains := fun domain => {
    lossTokens := supervisedIn manifests directories references domain
    inputTokens := rowsIn references domain * sequenceLength
    rows := rowsIn references domain
  }

theorem statsOf_nil :
    statsOf manifests directories sequenceLength [] = WindowStats.zero := by
  unfold statsOf WindowStats.zero
  simp [supervisedIn, rowsIn, totalOf_eq]

theorem statsOf_append (front back : List Nat) :
    statsOf manifests directories sequenceLength (front ++ back) =
      (statsOf manifests directories sequenceLength front).add
        (statsOf manifests directories sequenceLength back) := by
  have supervised : supervisedIn manifests directories (front ++ back) =
      fun domain => supervisedIn manifests directories front domain +
        supervisedIn manifests directories back domain :=
    funext (supervisedIn_append front back)
  unfold statsOf WindowStats.add
  simp only [supervised, totalOf_add, List.length_append, rowsIn_append,
    Nat.add_mul]

/-- Counters do not depend on the order of the references. -/
theorem statsOf_perm
    {front back : List Nat}
    (same : front.Perm back) :
    statsOf manifests directories sequenceLength front =
      statsOf manifests directories sequenceLength back := by
  have supervised : supervisedIn manifests directories front =
      supervisedIn manifests directories back :=
    funext (supervisedIn_perm same)
  have rows : rowsIn front = rowsIn back :=
    funext fun _ => same.countP_eq _
  unfold statsOf
  rw [supervised, rows, same.length_eq]

/-- The counters of parts add up to those of the whole. -/
theorem total_statsOf (parts : List (List Nat)) :
    WindowStats.total
        (parts.map (statsOf manifests directories sequenceLength)) =
      statsOf manifests directories sequenceLength parts.flatten := by
  induction parts with
  | nil => exact (statsOf_nil manifests directories sequenceLength).symm
  | cons part rest inductionHypothesis =>
      rw [List.flatten_cons, statsOf_append, ← inductionHypothesis]
      rfl

end References

/-- Only one domain contributes. -/
theorem totalOf_single (domain : Domain) (values : Domain -> Nat) :
    (totalOf fun other =>
      if domain.id = other.id then values other else 0) = values domain := by
  cases domain <;> simp [totalOf_eq, Domain.id]

/-! ## Counters of a batch -/

theorem countedLossTokens_cons
    (row : List Int) (rest : List (List Int)) :
    countedLossTokens (row :: rest) =
      countedLossTokens [row] + countedLossTokens rest := by
  unfold countedLossTokens
  rw [List.flatten_cons, List.countP_append, List.flatten_cons,
    List.flatten_nil, List.append_nil]

/-- A collated batch declares the labels that count. -/
theorem numLossTokens_eq_counted
    (sequenceLength : Nat) (rows : List SampleRow) :
    (PackedBatchCollator.batch sequenceLength rows).numLossTokens =
      countedLossTokens
        (PackedBatchCollator.batch sequenceLength rows).labels := by
  unfold PackedBatchCollator.batch countedLossTokens
  dsimp only
  rw [List.flatMap_def]

section Batch

variable [DecidableEq Digest]
variable {sha256 : List Byte -> Digest}
variable {manifests : Domain -> PackedManifest Digest Cursor}
variable {directories : Domain -> Directory Digest Cursor}
variable {sequenceLength : Nat}

/-- References to rows of loadable directories of one width. -/
structure Trained
    (sha256 : List Byte -> Digest)
    (manifests : Domain -> PackedManifest Digest Cursor)
    (directories : Domain -> Directory Digest Cursor)
    (sequenceLength : Nat) (references : List Nat) : Prop where
  loadable : ∀ domain,
    Loadable sha256 (directories domain) (manifests domain)
  width : ∀ domain, (manifests domain).sequenceLength = sequenceLength
  addressed : ∀ reference ∈ references, ∃ domain row,
    Addresses manifests reference domain row

theorem Trained.subset
    {references others : List Nat}
    (trained : Trained sha256 manifests directories sequenceLength references)
    (subset : others ⊆ references) :
    Trained sha256 manifests directories sequenceLength others :=
  ⟨trained.loadable, trained.width,
    fun reference member => trained.addressed reference (subset member)⟩

theorem Trained.inDomains
    {references : List Nat}
    (trained : Trained sha256 manifests directories sequenceLength
      references) :
    ∀ reference ∈ references, ∃ domain : Domain,
      (decodeReference reference).1 = domain.id := by
  intro reference member
  obtain ⟨domain, row, addresses⟩ := trained.addressed reference member
  exact ⟨domain, by rw [addresses.decode_eq]⟩

section Row

variable {reference row : Nat} {domain : Domain}
variable (loadable : Loadable sha256 (directories domain) (manifests domain))
variable (width : (manifests domain).sequenceLength = sequenceLength)
variable (addresses : Addresses manifests reference domain row)

include loadable width addresses

theorem length_tokens_sampleOf :
    (sampleOf manifests directories reference).tokens.length =
      sequenceLength + 1 := by
  have valid := (loadable.validated.rows row addresses.row_lt).tokens_length
  rw [width] at valid
  rw [sampleOf_eq addresses]
  exact valid

/-- The labels of a row that count are its supervised labels. -/
theorem countedLossTokens_sampleOf :
    countedLossTokens [PackedBatchCollator.labels sequenceLength
        (sampleOf manifests directories reference)] =
      rowSupervisedLabels (manifests domain) (directories domain) row := by
  have counted := PackedBatchCollator.countP_labels
    (length_tokens_sampleOf loadable width addresses)
  have masked : maskedLabels sequenceLength
      (sampleOf manifests directories reference).starts =
        rowMaskedLabels (manifests domain) (directories domain) row := by
    rw [sampleOf_eq addresses, ← width]
    rfl
  rw [masked] at counted
  unfold countedLossTokens rowSupervisedLabels
  rw [List.flatten_cons, List.flatten_nil, List.append_nil, width]
  omega

end Row

variable {references : List Nat}

/-- The shapes of a batch of rows of one width. -/
theorem Trained.shapes
    (trained : Trained sha256 manifests directories sequenceLength
      references) :
    let batch := PackedBatchCollator.batch sequenceLength
      (references.map (sampleOf manifests directories))
    let shape := references.map fun _ => sequenceLength
    batch.inputIds.map List.length = shape ∧
      batch.positionIds.map List.length = shape ∧
      batch.documentIds.map List.length = shape ∧
      batch.labels.map List.length = shape := by
  have tokens (reference : Nat) (member : reference ∈ references) :
      (sampleOf manifests directories reference).tokens.length =
        sequenceLength + 1 := by
    obtain ⟨domain, row, addresses⟩ := trained.addressed reference member
    exact length_tokens_sampleOf (trained.loadable domain)
      (trained.width domain) addresses
  simp only [PackedBatchCollator.batch, List.map_map]
  refine ⟨?_, ?_, ?_, ?_⟩
  · apply List.map_congr_left
    intro reference member
    simp [PackedBatchCollator.inputIds, tokens reference member]
  · apply List.map_congr_left
    intro reference _
    exact PackedBatchCollator.length_positionIds
  · apply List.map_congr_left
    intro reference _
    exact PackedBatchCollator.length_documentIds
  · apply List.map_congr_left
    intro reference member
    simp [PackedBatchCollator.labels, PackedBatchCollator.flags, unpackBits,
      tokens reference member]

/-- The counted labels of a batch, in total and by domain. -/
theorem Trained.counted
    (trained : Trained sha256 manifests directories sequenceLength
      references) :
    let batch := PackedBatchCollator.batch sequenceLength
      (references.map (sampleOf manifests directories))
    countedLossTokens batch.labels =
        totalOf (supervisedIn manifests directories references) ∧
      (∀ domain : Domain,
        countedLossTokens (((batch.domainIds.zip batch.labels).filter
          fun row => decide (row.1 = domain.id)).map Prod.snd) =
            supervisedIn manifests directories references domain) ∧
      ∀ domain : Domain, ((batch.domainIds.zip batch.labels).filter
        fun row => decide (row.1 = domain.id)).length =
          rowsIn references domain := by
  induction references with
  | nil =>
      refine ⟨?_, fun _ => rfl, fun _ => rfl⟩
      simp [countedLossTokens, PackedBatchCollator.batch, supervisedIn,
        totalOf_eq]
  | cons reference rest inductionHypothesis =>
      obtain ⟨total, every, rows⟩ := inductionHypothesis
        (trained.subset (List.subset_cons_self reference rest))
      obtain ⟨domain, row, addresses⟩ :=
        trained.addressed reference (List.mem_cons_self ..)
      have own := countedLossTokens_sampleOf (trained.loadable domain)
        (trained.width domain) addresses
      have sample : (sampleOf manifests directories reference).domainId =
          domain.id := by
        rw [sampleOf_eq addresses]
        rfl
      have more (other : Domain) :
          supervisedIn manifests directories (reference :: rest) other =
            (if domain.id = other.id then
              rowSupervisedLabels (manifests other) (directories other) row
            else 0) + supervisedIn manifests directories rest other := by
        rw [supervisedIn_cons, addresses.decode_eq]
      refine ⟨?_, ?_, ?_⟩
      · rw [funext more, totalOf_add, totalOf_single, ← own, ← total]
        exact countedLossTokens_cons _ _
      · intro other
        rw [more, ← every other]
        simp only [PackedBatchCollator.batch, List.map_cons,
          List.zip_cons_cons, List.filter_cons, sample]
        by_cases same : domain.id = other.id
        · rw [if_pos (decide_eq_true same), if_pos same, List.map_cons,
            countedLossTokens_cons, ← Domain.id_injective same, own]
        · rw [if_neg (by simpa using same), if_neg same, Nat.zero_add]
      · intro other
        have counted : rowsIn (reference :: rest) other =
            rowsIn rest other + if domain.id = other.id then 1 else 0 := by
          unfold rowsIn
          rw [List.countP_cons, addresses.decode_eq]
          simp only [decide_eq_true_eq]
        rw [counted, ← rows other]
        simp only [PackedBatchCollator.batch, List.map_cons,
          List.zip_cons_cons, List.filter_cons, sample]
        by_cases same : domain.id = other.id
        · rw [if_pos (decide_eq_true same), if_pos same, List.length_cons]
        · rw [if_neg (by simpa using same), if_neg same, Nat.add_zero]

/-- No row supervises more labels than it has. -/
theorem Trained.supervisedIn_le
    (trained : Trained sha256 manifests directories sequenceLength
      references)
    (domain : Domain) :
    supervisedIn manifests directories references domain ≤
      rowsIn references domain * sequenceLength := by
  induction references with
  | nil => exact Nat.zero_le _
  | cons reference rest inductionHypothesis =>
      have others := inductionHypothesis
        (trained.subset (List.subset_cons_self reference rest))
      have own : rowSupervisedLabels (manifests domain) (directories domain)
          (decodeReference reference).2 ≤ sequenceLength := by
        rw [← trained.width domain]
        exact Nat.sub_le _ _
      have counted : rowsIn (reference :: rest) domain =
          rowsIn rest domain +
            if (decodeReference reference).1 = domain.id then 1 else 0 := by
        unfold rowsIn
        rw [List.countP_cons]
        simp only [decide_eq_true_eq]
      rw [supervisedIn_cons, counted, Nat.add_mul]
      split
      · rw [Nat.one_mul]
        omega
      · omega

/-- Some label of trained references is supervised. -/
theorem Trained.supervised_pos
    (trained : Trained sha256 manifests directories sequenceLength
      references)
    (nonempty : references ≠ []) :
    1 ≤ totalOf (supervisedIn manifests directories references) := by
  obtain ⟨reference, rest, rfl⟩ := List.exists_cons_of_ne_nil nonempty
  obtain ⟨domain, row, addresses⟩ :=
    trained.addressed reference (List.mem_cons_self ..)
  have positive := (trained.loadable domain).supervised row addresses.row_lt
  have single := totalOf_single domain fun other =>
    rowSupervisedLabels (manifests other) (directories other) row
  have below : (totalOf fun other => if domain.id = other.id then
      rowSupervisedLabels (manifests other) (directories other) row else 0) ≤
        totalOf (supervisedIn manifests directories (reference :: rest)) := by
    apply totalOf_le
    intro other
    rw [supervisedIn_cons, addresses.decode_eq]
    exact Nat.le_add_right _ _
  omega

/-- A microbatch of a rank counts what its references supervise. -/
theorem Trained.microbatchStats_eq
    {localBatchSize : Nat} {modelLossTokens : Batch -> Nat}
    (trained : Trained sha256 manifests directories sequenceLength
      references)
    (reported : ∀ batch, modelLossTokens batch =
      countedLossTokens batch.labels)
    (length : references.length = localBatchSize)
    (positive : 1 ≤ localBatchSize) :
    microbatchStats localBatchSize modelLossTokens
        (PackedBatchCollator.batch sequenceLength
          (references.map (sampleOf manifests directories))) =
      .ok (statsOf manifests directories sequenceLength references) := by
  have nonempty : references ≠ [] := by
    rintro rfl
    simp at length
    omega
  obtain ⟨total, every, rows⟩ := trained.counted
  obtain ⟨inputs, positions, documents, labels⟩ := trained.shapes
  have batchLength : (PackedBatchCollator.batch sequenceLength
      (references.map (sampleOf manifests directories))).inputIds.length =
        localBatchSize := by
    simp [PackedBatchCollator.batch, length]
  have width : (PackedBatchCollator.batch sequenceLength
      (references.map (sampleOf manifests directories))).width =
        sequenceLength := by
    obtain ⟨first, rest, rfl⟩ := List.exists_cons_of_ne_nil nonempty
    exact (List.cons.inj inputs).1
  have moved : moveBatch localBatchSize (PackedBatchCollator.batch
      sequenceLength (references.map (sampleOf manifests directories))) =
        .ok (totalOf (supervisedIn manifests directories references)) := by
    unfold moveBatch
    dsimp only
    rw [require_eq_ok (numLossTokens_eq_counted _ _), checked_ok_bind,
      require_eq_ok ⟨positions.trans inputs.symm, documents.trans inputs.symm,
        labels.trans inputs.symm⟩, checked_ok_bind,
      require_eq_ok batchLength, checked_ok_bind,
      require_eq_ok (by simp [PackedBatchCollator.batch, length]),
      checked_ok_bind, require_eq_ok, checked_ok_bind, total]
    · rfl
    · simp only [PackedBatchCollator.batch, List.map_map, List.mem_map]
      rintro _ ⟨reference, member, rfl⟩
      obtain ⟨domain, row, addresses⟩ := trained.addressed reference member
      rw [Function.comp_apply, sampleOf_eq addresses]
      change domain.id < Domain.order.length
      cases domain <;> decide
  unfold microbatchStats
  rw [moved, checked_ok_bind,
    require_eq_ok (trained.supervised_pos nonempty), checked_ok_bind,
    checked_pure_eq_ok]
  unfold statsOf
  rw [batchLength, width, length, reported, total]
  congr 1
  funext domain
  unfold domainStats
  dsimp only
  rw [every, rows, width]

end Batch

/-! ## Counters of all ranks -/

/-- The references of one microbatch of a rank among those of an update. -/
def rankReferences
    (globalMicrobatchRows localBatchSize : Nat) (rows : List Nat)
    (rank index : Nat) : List Nat :=
  slice (slice rows (index * globalMicrobatchRows) globalMicrobatchRows)
    (rank * localBatchSize) localBatchSize

theorem rankReferences_subset
    (globalMicrobatchRows localBatchSize : Nat) (rows : List Nat)
    (rank index : Nat) :
    rankReferences globalMicrobatchRows localBatchSize rows rank index ⊆
      rows := by
  intro reference member
  exact List.mem_of_mem_drop (List.mem_of_mem_take
    (List.mem_of_mem_drop (List.mem_of_mem_take member)))

/-- What all ranks draw in an update are the references of the update. -/
theorem rankReferences_perm
    {globalMicrobatchRows worldSize steps : Nat} {rows : List Nat}
    (divides : globalMicrobatchRows % worldSize = 0)
    (length : rows.length = steps * globalMicrobatchRows) :
    ((List.finRange worldSize).flatMap fun rank =>
      (List.range steps).flatMap fun index =>
        rankReferences globalMicrobatchRows (globalMicrobatchRows / worldSize)
          rows rank.val index).Perm rows := by
  have ranks : ((List.finRange worldSize).flatMap fun rank =>
      (List.range steps).flatMap fun index =>
        rankReferences globalMicrobatchRows (globalMicrobatchRows / worldSize)
          rows rank.val index) =
      (List.range worldSize).flatMap fun rank =>
        (List.range steps).flatMap fun index =>
          rankReferences globalMicrobatchRows
            (globalMicrobatchRows / worldSize) rows rank index := by
    rw [← @List.map_coe_finRange_eq_range worldSize, List.flatMap_map]
  have swapped : ((List.range worldSize).flatMap fun rank =>
      (List.range steps).flatMap fun index =>
        rankReferences globalMicrobatchRows (globalMicrobatchRows / worldSize)
          rows rank index).Perm
      ((List.range steps).flatMap fun index =>
        (List.range worldSize).flatMap fun rank =>
          rankReferences globalMicrobatchRows
            (globalMicrobatchRows / worldSize) rows rank index) := by
    rw [← Multiset.coe_eq_coe]
    simp only [← Multiset.coe_bind]
    exact Multiset.bind_bind _ _
  have microbatch (index : Nat) :
      ((List.range worldSize).flatMap fun rank =>
        rankReferences globalMicrobatchRows (globalMicrobatchRows / worldSize)
          rows rank index) =
        slice rows (index * globalMicrobatchRows) globalMicrobatchRows :=
    DistributedBatchSampler.flatMap_ranks divides index
  rw [ranks]
  apply swapped.trans
  simp only [microbatch]
  have joined := flatMap_range_eq_pieces
    (fun index => slice rows (index * globalMicrobatchRows)
      globalMicrobatchRows) 0 steps
  simp only [Nat.zero_add] at joined
  rw [joined, pieces_slice, Nat.zero_mul, ← length, slice_all]

end CodingLlm
