import CodingLlm.Scripts.UnionComponents

/-!
# Runs of the union phase

Every transaction of the phase keeps the forest of the database, no call raises
an error, and a call that returns `True` has computed the clusters.
-/

namespace CodingLlm

open CrashLogic
open UnionFind

/-! ## Limits -/

/-- Some limit was supplied. -/
def UnionLimits.Limited (limits : UnionLimits) : Prop :=
  limits.maxNewEdges ≠ none ∨ limits.maxNewFinalizationDocuments ≠ none

theorem nextLimit_positive
    {batchSize processed : Nat} {limit : Option Nat}
    (batches : 1 ≤ batchSize) (unreached : ¬limitReached limit processed = true) :
    1 ≤ nextLimit batchSize limit processed := by
  cases limit with
  | none => exact batches
  | some value =>
      simp only [limitReached, Option.any_some, decide_eq_true_eq] at unreached
      simp only [nextLimit, le_min_iff]
      omega

theorem ne_none_of_limitReached
    {processed : Nat} {limit : Option Nat}
    (reached : limitReached limit processed = true) : limit ≠ none := by
  rintro rfl
  cases reached

/-! ## Consuming edges -/

section Edges

variable {origin : UnionDatabase} {limits : UnionLimits}

/-- What a call reads of the frozen inventory. -/
structure OpenedOn (origin : UnionDatabase) (opening : UnionOpening) :
    Prop where
  documentCount : opening.documentCount = origin.documentCount
  maximumOrdinal : opening.maximumOrdinal = origin.documentCount
  totalEdges : opening.totalEdges = origin.edges.rows.length
  maximumEdgeId : opening.maximumEdgeId = maximumKey origin.edges

/-- The database and the variables between two batches of edges. -/
structure EdgeState (origin : UnionDatabase) (limits : UnionLimits)
    (opening : UnionOpening) (loop : EdgeLoop) (database : UnionDatabase)
    (forest : Forest) : Prop where
  state : UnionState origin database forest
  phase : database.phase = .union
  cursor : loop.cursor = database.edgeCursor
  merges : loop.merges = database.merges
  array : ∀ parents ∈ loop.parents, parents = forest.parent
  loaded : loop.parents = none ->
    needsParentArray database loop.cursor (maximumKey origin.edges) = false
  flattenRow : opening.flattenRow = database.unionFlattenCursor
  documentRow : opening.documentRow = database.unionDocumentCursor
  stopped : loop.stopped = true -> limits.Limited

/-- Edges left, and one more step to stop. -/
def edgesLeft (origin : UnionDatabase) (loop : EdgeLoop) : Nat :=
  (origin.edges.after loop.cursor).length + if loop.stopped then 0 else 1

/-- With edges left no later stage has begun. -/
theorem UnionState.edges_first
    {database : UnionDatabase} {forest : Forest}
    (state : UnionState origin database forest)
    (more : database.edgeCursor < maximumKey origin.edges) :
    database.unionFlattenCursor = none ∧
      database.unionDocumentCursor = none := by
  have notConsumed : ¬database.EdgesConsumed := by
    intro consumed
    rw [UnionDatabase.EdgesConsumed, state.stored.edges] at consumed
    omega
  have noFlatten : database.unionFlattenCursor = none := by
    rw [Option.eq_none_iff_forall_not_mem]
    intro payload member
    exact notConsumed (state.flattened payload member).1
  refine ⟨noFlatten, ?_⟩
  rw [Option.eq_none_iff_forall_not_mem]
  intro payload member
  obtain ⟨flat, isFlat, _⟩ := (state.rooted payload member).1
  rw [noFlatten] at isFlat
  cases isFlat

/-- A phase that is not over has recorded nothing yet. -/
theorem UnionState.events_eq
    {database : UnionDatabase} {forest : Forest}
    (state : UnionState origin database forest)
    (running : database.phase = .union) :
    database.events = origin.events := by
  rcases state.phase with unfinished | finished
  · exact unfinished.2
  · rw [finished.phase] at running
    cases running

/-- Rows of the next batch of edges. -/
structure EdgeBatch (origin : UnionDatabase) (cursor limit : Nat)
    (rows : List (Nat × Edge)) (last : Nat × Edge) : Prop where
  rows_eq : rows = (origin.edges.after cursor).take limit
  isLast : rows.getLast? = some last

theorem exists_edgeBatch
    {cursor count limit : Nat}
    (passed : origin.edges.Passed 0 cursor count)
    (more : cursor < maximumKey origin.edges) (positive : 1 ≤ limit) :
    ∃ last, EdgeBatch origin cursor limit
      ((origin.edges.after cursor).take limit) last := by
  have unfinished : count < origin.edges.rows.length := by
    by_contra finished
    have atEnd := eq_maximumKey passed (not_lt.mp finished)
    omega
  have nonempty := passed.batch_ne_nil unfinished positive
  exact ⟨_, rfl, List.getLast?_eq_some_getLast nonempty⟩

/-- The database after a batch of edges. -/
theorem stored_after_batch
    {database : UnionDatabase} {forest next : Forest} {memory : UnionMemory}
    {limit : Nat} {rows : List (Nat × Edge)} {last : Nat × Edge}
    (stored : UnionStored origin database forest)
    (batch : EdgeBatch origin database.edgeCursor limit rows last)
    (batched : Batched origin.documentCount (loadParents database.parents)
      (origin.edges.upTo database.edgeCursor ++ rows) last.1 next memory) :
    UnionStored origin { database with
      parents := writeParents database.parents memory.parents
        (memory.changed.sort (· ≤ ·))
      unionEdgeCursor := some memory.cursor
      unionMerges := some memory.merges } next where
  documents := stored.documents
  edges := stored.edges
  reached := by
    change origin.edges.Passed 0 memory.cursor
      (origin.edges.upTo memory.cursor).length
    rw [batched.cursor_eq]
    have isLast := batch.isLast
    rw [batch.rows_eq] at isLast
    have advanced := stored.reached.advance isLast
    rw [← List.length_append, ← Table.upTo_last _ isLast] at advanced
    exact advanced
  consumed := by
    have isLast := batch.isLast
    rw [batch.rows_eq] at isLast
    change Consumed origin.documentCount (origin.edges.upTo memory.cursor)
      memory.merges next
    rw [batched.cursor_eq, Table.upTo_last _ isLast, ← batch.rows_eq]
    exact batched.consumed
  loaded := by
    rw [batched.parents]
    exact loadParents_writeParents batched.unchanged
  parents := by
    intro document member
    rw [mem_keys_writeParents, Finset.mem_sort] at member
    rcases member with written | earlier
    · exact batched.changed_subset written
    · exact stored.parents document earlier

/-- One batch of edges. -/
theorem unionBatch_wp
    {opening : UnionOpening} {loop : EdgeLoop} {database : UnionDatabase}
    {forest : Forest} {limit : Nat} {rows : List (Nat × Edge)}
    {last : Nat × Edge}
    (inventory : UnionInventory origin)
    (holds : EdgeState origin limits opening loop database forest)
    (running : loop.stopped = false)
    (more : loop.cursor < maximumKey origin.edges)
    (batch : EdgeBatch origin loop.cursor limit rows last) :
    (unionBatch loop rows).wp
      (fun next final => (∃ forest,
        EdgeState origin limits opening next final forest) ∧
        edgesLeft origin next < edgesLeft origin loop)
      (fun _ _ => False) (Recoverable origin) database := by
  have nonempty : rows ≠ [] := by
    rintro rfl
    cases batch.isLast
  have stored := holds.state.stored
  obtain ⟨array, isArray⟩ : ∃ array, loop.parents = some array := by
    cases given : loop.parents with
    | some array => exact ⟨array, rfl⟩
    | none =>
        have needless := holds.loaded given
        rw [needsParentArray, Bool.or_eq_false_iff, decide_eq_false_iff_not]
          at needless
        exact absurd more needless.1
  have mirrored : array = forest.parent := holds.array array isArray
  have inside : Inside origin.documentCount rows := by
    intro row member
    rw [batch.rows_eq] at member
    exact inventory.endpoints row
      (origin.edges.mem_after_iff.mp (List.mem_of_mem_take member)).1
  have start : Batched origin.documentCount (loadParents database.parents)
      (origin.edges.upTo database.edgeCursor) loop.cursor forest
      ⟨array, ∅, loop.merges, loop.cursor⟩ := by
    refine ⟨?_, mirrored, ?_, Finset.empty_subset _, rfl⟩
    · rw [holds.merges]
      exact stored.consumed
    · intro document _
      rw [stored.loaded]
  obtain ⟨memory, ran, batched⟩ := batched_rows start inside
  rw [getLastD_keys batch.isLast] at batched
  rw [holds.cursor] at batch
  have next := stored_after_batch stored batch batched
  have unopened := holds.state.edges_first (holds.cursor ▸ more)
  have nextState : UnionState origin { database with
      parents := writeParents database.parents memory.parents
        (memory.changed.sort (· ≤ ·))
      unionEdgeCursor := some memory.cursor
      unionMerges := some memory.merges } (unionAll forest rows) := by
    refine ⟨next, ?_, ?_, .inl ⟨holds.phase, ?_⟩⟩
    · intro payload member
      rw [unopened.1] at member
      cases member
    · intro payload member
      rw [unopened.2] at member
      cases member
    · exact holds.state.events_eq holds.phase
  unfold unionBatch
  have available : requireParents loop.parents = .ok array := by
    rw [isArray]
    rfl
  apply Program.wp_lift_bind (require_eq_ok nonempty)
  apply Program.wp_lift_bind available
  apply Program.wp_lift_bind ran
  apply Program.wp_commit_bind ⟨_, nextState⟩
  rw [Program.wp_pure]
  refine ⟨⟨_, nextState, holds.phase, rfl, rfl, ?_, ?_, ?_, ?_, ?_⟩, ?_⟩
  · intro parents member
    rw [← Option.some.inj member]
    exact batched.parents
  · intro impossible
    cases impossible
  · exact holds.flattenRow
  · exact holds.documentRow
  · intro impossible
    cases impossible
  · have isLast := batch.isLast
    rw [batch.rows_eq] at isLast
    have left := origin.edges.after_last isLast
    have taken := List.length_pos_iff.mpr nonempty
    rw [batch.rows_eq, List.length_take] at taken
    simp only [edgesLeft, batched.cursor_eq, left, List.length_drop,
      holds.cursor, running, Bool.false_eq_true, if_false]
    omega

/-- The body of the loop over the edges. -/
theorem edgeStep_wp
    {opening : UnionOpening} {loop : EdgeLoop} {database : UnionDatabase}
    {forest : Forest}
    (inventory : UnionInventory origin) (batches : 1 ≤ limits.batchSize)
    (holds : EdgeState origin limits opening loop database forest)
    (running : loop.stopped = false)
    (more : loop.cursor < maximumKey origin.edges) :
    (edgeStep limits loop).wp
      (fun next final => (∃ forest,
        EdgeState origin limits opening next final forest) ∧
        edgesLeft origin next < edgesLeft origin loop)
      (fun _ _ => False) (Recoverable origin) database := by
  unfold edgeStep
  split
  · rename_i reached
    rw [Program.wp_pure]
    refine ⟨⟨forest, { holds with stopped := fun _ => ?_ }⟩, ?_⟩
    · exact .inl (ne_none_of_limitReached reached)
    · simp [edgesLeft, running]
  · rename_i unreached
    obtain ⟨last, batch⟩ := exists_edgeBatch
      (holds.cursor ▸ holds.state.stored.reached) more
      (nextLimit_positive batches unreached)
    apply Program.wp_query_bind
    rw [holds.state.stored.edges]
    exact unionBatch_wp inventory holds running more batch

/-- The loop over the edges. -/
theorem consumeEdges_wp
    {opening : UnionOpening} {loop : EdgeLoop} {database : UnionDatabase}
    {forest : Forest}
    (inventory : UnionInventory origin) (batches : 1 ≤ limits.batchSize)
    (opened : OpenedOn origin opening)
    (holds : EdgeState origin limits opening loop database forest) :
    (consumeEdges limits opening.maximumEdgeId opening.totalEdges loop).wp
      (fun last final => (∃ forest,
        EdgeState origin limits opening last final forest) ∧
        (last.stopped = true ∨ last.cursor = maximumKey origin.edges))
      (fun _ _ => False) (Recoverable origin) database := by
  rw [consumeEdges, opened.maximumEdgeId, opened.totalEdges]
  refine (Program.wp_whileLoop
    (fun loop database => ∃ forest,
      EdgeState origin limits opening loop database forest)
    (edgesLeft origin) ?_ ?_ ?_ ⟨forest, holds⟩).weaken ?_
  · rintro loop database ⟨forest, holds⟩ continues
    rw [Bool.and_eq_true, Bool.not_eq_true', decide_eq_true_eq] at continues
    exact edgeStep_wp inventory batches holds continues.1 continues.2
  · rintro loop database - continues
    rw [Bool.and_eq_true, Bool.not_eq_true'] at continues
    simp [edgesLeft, continues.1]
  · have whole := (Table.passed_start inventory.edgeIds).count_add
    have fewer : (origin.edges.after loop.cursor).length ≤
        origin.edges.rows.length := List.length_filter_le _ _
    unfold edgesLeft
    split <;> omega
  · rintro last final ⟨⟨forest, atEnd⟩, ended⟩
    refine ⟨⟨forest, atEnd⟩, ?_⟩
    rw [Bool.and_eq_false_iff, Bool.not_eq_false', decide_eq_false_iff_not]
      at ended
    refine ended.imp_right fun notBelow => ?_
    have upper := atEnd.state.stored.cursor_le
    rw [← atEnd.cursor] at upper
    omega

end Edges

end CodingLlm
