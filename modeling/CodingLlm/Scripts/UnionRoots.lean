import CodingLlm.Scripts.UnionRuns

/-!
# The roots of the union phase

Flattening changes no root of the forest, and the documents receive the roots
of a flat one.  Together with the consumed edges this makes every call, from
whatever a kill has left, end with the clusters or stop at a limit.
-/

namespace CodingLlm

open CrashLogic
open UnionFind

/-! ## Flattening parents -/

section Flatten

variable {origin : UnionDatabase} {limits : UnionLimits}

/-- The database and the variables between two batches of parents. -/
structure FlattenState (origin : UnionDatabase) (limits : UnionLimits)
    (opening : UnionOpening) (merges total maximum : Nat)
    (loop : FlattenLoop) (database : UnionDatabase) (forest : Forest) : Prop where
  state : UnionState origin database forest
  phase : database.phase = .union
  consumed : database.EdgesConsumed
  merged : merges = database.merges
  counted : total = database.parents.rows.length
  covered : maximum = maximumKey database.parents
  flattened : Flattened database forest loop.cursor loop.flattened
  array : ∀ parents ∈ loop.parents, parents = forest.parent
  loaded : loop.parents = none -> total ≤ loop.flattened
  recorded : database.unionFlattenCursor =
      some ⟨loop.cursor, loop.flattened, total⟩ ∨
    database.unionFlattenCursor = none ∧ opening.flattenRow = none ∧
      loop.flattened = 0
  documentRow : opening.documentRow = database.unionDocumentCursor
  stopped : loop.stopped = true -> limits.Limited

/-- Parents left, and one more step to stop. -/
def parentsLeft (total : Nat) (loop : FlattenLoop) : Nat :=
  (total - loop.flattened) + if loop.stopped then 0 else 1

/-- The parents table after a batch. -/
theorem flattened_after_batch
    {database : UnionDatabase} {forest : Forest} {cursor processed limit : Nat}
    {rows : List (Nat × Nat)} {last : Nat × Nat}
    (flattened : Flattened database forest cursor processed)
    (rows_eq : rows = (database.parents.after cursor).take limit)
    (isLast : rows.getLast? = some last)
    (payload : Option FlattenCursor) :
    Flattened { database with
      parents := updateParents database.parents
        ((rows.map Prod.fst).map fun document =>
          (document, forest.root document))
      unionFlattenCursor := payload }
      (forest.compressAll (rows.map Prod.fst)) last.1
      (processed + rows.length) where
  passed := by
    rw [rows_eq] at isLast
    have advanced := flattened.passed.advance isLast
    rw [← rows_eq] at advanced
    exact advanced.congr (keys_updateParents _ _)
  flat := by
    intro document member below
    rw [keys_updateParents] at member
    rw [Forest.parent_compressAll, Forest.root_compressAll]
    by_cases inBatch : document ∈ rows.map Prod.fst
    · rw [if_pos inBatch]
    · rw [if_neg inBatch]
      refine flattened.flat document member ?_
      obtain ⟨value, found⟩ := database.parents.mem_keys_iff.mp member
      have inTable := database.parents.lookup_eq_some_iff.mp found
      rw [rows_eq] at isLast
      have upTo := database.parents.mem_upTo_iff.mpr ⟨inTable, below⟩
      rw [database.parents.upTo_last isLast, List.mem_append] at upTo
      rcases upTo with earlier | new
      · exact (database.parents.mem_upTo_iff.mp earlier).2
      · rw [← rows_eq] at new
        exact absurd (List.mem_map_of_mem new) inBatch

/-- Compressing the forest with the table keeps what was stored. -/
theorem stored_after_flatten
    {database : UnionDatabase} {forest : Forest} {documents : List Nat}
    (stored : UnionStored origin database forest)
    (known : ∀ document ∈ documents, document ∈ database.parents.keys)
    (payload : Option FlattenCursor) :
    UnionStored origin { database with
      parents := updateParents database.parents
        (documents.map fun document => (document, forest.root document))
      unionFlattenCursor := payload } (forest.compressAll documents) where
  documents := stored.documents
  edges := stored.edges
  reached := stored.reached
  consumed := stored.consumed.of_root (Forest.root_compressAll _ _)
  loaded := loadParents_updateParents stored.loaded known
  parents := by
    intro document member
    rw [keys_updateParents] at member
    exact stored.parents document member

/-- While parents are left no document has been rooted. -/
theorem FlattenState.unrooted
    {opening : UnionOpening} {merges total maximum : Nat} {loop : FlattenLoop}
    {database : UnionDatabase} {forest : Forest}
    (holds : FlattenState origin limits opening merges total maximum
         loop database forest)
    (more : loop.flattened < total) :
    database.unionDocumentCursor = none := by
  rw [Option.eq_none_iff_forall_not_mem]
  intro payload member
  obtain ⟨flat, isFlat, finished⟩ := (holds.state.rooted payload member).1
  rcases holds.recorded with recorded | ⟨absent, -, -⟩
  · rw [recorded] at isFlat
    rw [← Option.some.inj isFlat] at finished
    change loop.flattened = total at finished
    omega
  · rw [absent] at isFlat
    cases isFlat

/-- One batch of parents. -/
theorem flattenBatch_wp
    {opening : UnionOpening} {merges total maximum limit : Nat}
    {loop : FlattenLoop}
    {database : UnionDatabase} {forest : Forest}
    (holds : FlattenState origin limits opening merges total maximum
         loop database forest)
    (running : loop.stopped = false) (more : loop.flattened < total)
    (positive : 1 ≤ limit) :
    (flattenBatch total loop
      (((database.parents.after loop.cursor).take limit).map Prod.fst)).wp
      (fun next final => (∃ forest,
        FlattenState origin limits opening merges total maximum
         next final forest) ∧
        parentsLeft total next < parentsLeft total loop)
      (fun _ _ => False) (Recoverable origin) database := by
  obtain ⟨array, isArray⟩ : ∃ array, loop.parents = some array := by
    cases given : loop.parents with
    | some array => exact ⟨array, rfl⟩
    | none =>
        have finished := holds.loaded given
        omega
  have mirrored : array = forest.parent := holds.array array isArray
  have nonempty := holds.flattened.passed.batch_ne_nil
    (holds.counted ▸ more) positive
  generalize rowsEq : (database.parents.after loop.cursor).take limit = rows
    at nonempty ⊢
  have isLast := List.getLast?_eq_some_getLast nonempty
  have known : ∀ document ∈ rows.map Prod.fst,
      document ∈ database.parents.keys := by
    intro document member
    obtain ⟨row, inRows, rfl⟩ := List.mem_map.mp member
    rw [← rowsEq] at inRows
    exact List.mem_map_of_mem
      (database.parents.mem_after_iff.mp (List.mem_of_mem_take inRows)).1
  have found : findAll loop.parents (rows.map Prod.fst) =
      .ok ((rows.map Prod.fst).map fun document =>
        (document, forest.root document),
        some (forest.compressAll (rows.map Prod.fst)).parent) := by
    rw [isArray, mirrored]
    exact findAll_parent forest _
  have lengths : ((rows.map Prod.fst).map fun document =>
      (document, forest.root document)).length = rows.length := by
    rw [List.length_map, List.length_map]
  have flattened := flattened_after_batch holds.flattened rowsEq.symm isLast
    (some ⟨(rows.getLast nonempty).1, loop.flattened + rows.length, total⟩)
  have nextState : UnionState origin { database with
      parents := updateParents database.parents
        ((rows.map Prod.fst).map fun document =>
          (document, forest.root document))
      unionFlattenCursor := some ⟨(rows.getLast nonempty).1,
        loop.flattened + rows.length, total⟩ }
      (forest.compressAll (rows.map Prod.fst)) := by
    refine ⟨stored_after_flatten holds.state.stored known _, ?_, ?_,
      .inl ⟨holds.phase, holds.state.events_eq holds.phase⟩⟩
    · intro payload member
      rw [← Option.some.inj member]
      refine ⟨holds.consumed, ?_, flattened⟩
      have sameLength := congrArg List.length (keys_updateParents
        database.parents ((rows.map Prod.fst).map fun document =>
          (document, forest.root document)))
      simp only [Table.keys, List.length_map] at sameLength
      exact holds.counted.trans sameLength.symm
    · intro payload member
      have unrooted := holds.unrooted more
      rw [unrooted] at member
      cases member
  have mapNonempty : rows.map Prod.fst ≠ [] :=
    fun isNil => nonempty (List.map_eq_nil_iff.mp isNil)
  unfold flattenBatch
  apply Program.wp_lift_bind (require_eq_ok mapNonempty)
  apply Program.wp_lift_bind found
  simp only [lengths, getLastD_keys isLast]
  apply Program.wp_commit_bind ⟨_, nextState⟩
  rw [Program.wp_pure]
  refine ⟨⟨_, nextState, holds.phase, holds.consumed, holds.merged, ?_, ?_,
    flattened, ?_, ?_, .inl rfl, holds.documentRow, ?_⟩, ?_⟩
  · exact (nextState.flattened _ rfl).2.1
  · rw [holds.covered]
    simp only [maximumKey, keys_updateParents]
  · intro parents member
    exact (Option.some.inj member).symm
  · intro impossible
    cases impossible
  · intro impossible
    cases impossible
  · have taken := List.length_pos_iff.mpr nonempty
    simp only [parentsLeft, running, Bool.false_eq_true, if_false]
    omega

/-- The body of the loop that flattens parents. -/
theorem flattenStep_wp
    {opening : UnionOpening} {merges total maximum : Nat} {loop : FlattenLoop}
    {database : UnionDatabase} {forest : Forest}
    (batches : 1 ≤ limits.batchSize)
    (holds : FlattenState origin limits opening merges total maximum
         loop database forest)
    (running : loop.stopped = false) (more : loop.flattened < total) :
    (flattenStep limits total loop).wp
      (fun next final => (∃ forest,
        FlattenState origin limits opening merges total maximum
         next final forest) ∧
        parentsLeft total next < parentsLeft total loop)
      (fun _ _ => False) (Recoverable origin) database := by
  unfold flattenStep
  split
  · rename_i reached
    rw [Program.wp_pure]
    refine ⟨⟨forest, { holds with stopped := fun _ => ?_ }⟩, ?_⟩
    · exact .inr (ne_none_of_limitReached reached)
    · simp [parentsLeft, running]
  · rename_i unreached
    apply Program.wp_query_bind
    exact flattenBatch_wp holds running more
      (nextLimit_positive batches unreached)

/-- The loop that flattens parents. -/
theorem flattenParents_wp
    {opening : UnionOpening} {merges total maximum : Nat} {loop : FlattenLoop}
    {database : UnionDatabase} {forest : Forest}
    (batches : 1 ≤ limits.batchSize)
    (holds : FlattenState origin limits opening merges total maximum
         loop database forest) :
    (flattenParents limits total loop).wp
      (fun last final => (∃ forest,
        FlattenState origin limits opening merges total maximum
         last final forest) ∧
        (last.stopped = true ∨ total ≤ last.flattened))
      (fun _ _ => False) (Recoverable origin) database := by
  unfold flattenParents
  refine (Program.wp_whileLoop
    (fun loop database => ∃ forest,
      FlattenState origin limits opening merges total maximum
         loop database forest)
    (parentsLeft total) ?_ ?_ ?_ ⟨forest, holds⟩).weaken ?_
  · rintro loop database ⟨forest, holds⟩ continues
    rw [Bool.and_eq_true, Bool.not_eq_true', decide_eq_true_eq] at continues
    exact flattenStep_wp batches holds continues.1 continues.2
  · rintro loop database - continues
    rw [Bool.and_eq_true, Bool.not_eq_true'] at continues
    simp [parentsLeft, continues.1]
  · unfold parentsLeft
    split <;> omega
  · rintro last final ⟨atEnd, ended⟩
    refine ⟨atEnd, ?_⟩
    rw [Bool.and_eq_false_iff, Bool.not_eq_false', decide_eq_false_iff_not,
      not_lt] at ended
    exact ended

/-- A flat table passes the check on it. -/
theorem parentsFlat_of_flat
    {database : UnionDatabase} {forest : Forest}
    (stored : UnionStored origin database forest)
    (flat : ∀ document, forest.parent document = forest.root document) :
    parentsFlat database.parents = true := by
  unfold parentsFlat
  rw [List.all_eq_true]
  intro child member
  have parentOf (document value : Nat)
      (found : database.parents.lookup document = some value) :
      forest.root document = value := by
    rw [← flat, ← stored.loaded, loadParents, found]
    rfl
  have isRoot := parentOf child.1 child.2
    (database.parents.lookup_eq_some_iff.mpr member)
  cases found : database.parents.lookup child.2 with
  | none => rfl
  | some parent =>
      have above := parentOf child.2 parent found
      rw [← isRoot, Forest.root_root, isRoot] at above
      exact decide_eq_true above.symm

end Flatten

/-! ## Assigning roots -/

section Roots

variable {origin : UnionDatabase} {limits : UnionLimits}

/-- The database and the variables between two batches of documents. -/
structure RootState (origin : UnionDatabase) (limits : UnionLimits)
    (merges total : Nat) (loop : RootLoop) (database : UnionDatabase) (forest : Forest) :
    Prop where
  state : UnionState origin database forest
  phase : database.phase = .union
  consumed : database.EdgesConsumed
  finished : database.FlattenFinished
  merged : merges = database.merges
  counted : total = database.parents.rows.length
  rooted : Rooted database forest loop.cursor loop.rooted
  stopped : loop.stopped = true -> limits.Limited

/-- Documents left, and one more step to stop. -/
def documentsLeft (documentCount : Nat) (loop : RootLoop) : Nat :=
  (documentCount - loop.rooted) + if loop.stopped then 0 else 1

theorem UnionStored.documents_length
    {database : UnionDatabase} {forest : Forest}
    (stored : UnionStored origin database forest) :
    database.documents.rows.length = origin.documentCount := by
  have lengths := congrArg List.length stored.documents
  simp only [Table.keys, List.length_map] at lengths
  exact lengths

theorem RootState.flat
    {merges total : Nat} {loop : RootLoop} {database : UnionDatabase}
    {forest : Forest}
    (holds : RootState origin limits merges total loop database forest)
    (document : Nat) : forest.parent document = forest.root document := by
  obtain ⟨payload, recorded, all⟩ := holds.finished
  obtain ⟨-, total, flattened⟩ := holds.state.flattened payload recorded
  exact holds.state.stored.flat flattened (total.symm.trans all.symm).le
    document

/-- The documents after a batch. -/
theorem rooted_after_batch
    {database : UnionDatabase} {forest : Forest} {cursor processed limit : Nat}
    {rows : List (Nat × Option Nat)} {last : Nat × Option Nat}
    (loaded : loadParents database.parents = forest.parent)
    (flat : ∀ document, forest.parent document = forest.root document)
    (rooted : Rooted database forest cursor processed)
    (rows_eq : rows = (database.documents.after cursor).take limit)
    (isLast : rows.getLast? = some last)
    (payload : Option DocumentCursor) :
    Rooted { database with
      documents := assignRoots database cursor last.1
      unionDocumentCursor := payload } forest last.1
      (processed + rows.length) where
  passed := by
    rw [rows_eq] at isLast
    have advanced := rooted.passed.advance isLast
    rw [← rows_eq] at advanced
    exact advanced.congr (Table.keys_modify _ _)
  roots := by
    intro document member below
    change (assignRoots database cursor last.1).lookup document = _
    rw [assignRoots, Table.keys_modify] at member
    obtain ⟨value, found⟩ := database.documents.mem_keys_iff.mp member
    rw [assignRoots, Table.lookup_modify, found, Option.map_some]
    by_cases earlier : document ≤ cursor
    · have before := rooted.roots document member earlier
      rw [found, Option.some.injEq] at before
      rw [if_neg (by omega), before]
    · have parent := congrFun loaded document
      rw [loadParents, flat] at parent
      rw [if_pos (by omega), parent]

/-- One batch of documents. -/
theorem rootBatch_wp
    {merges total limit : Nat} {loop : RootLoop} {database : UnionDatabase}
    {forest : Forest}
    (holds : RootState origin limits merges total loop database forest)
    (running : loop.stopped = false)
    (more : loop.rooted < origin.documentCount) (positive : 1 ≤ limit) :
    (rootBatch origin.documentCount loop
      (((database.documents.after loop.cursor).take limit).map Prod.fst)).wp
      (fun next final => (∃ forest,
        RootState origin limits merges total next final forest) ∧
        documentsLeft origin.documentCount next <
          documentsLeft origin.documentCount loop)
      (fun _ _ => False) (Recoverable origin) database := by
  have stored := holds.state.stored
  have nonempty := holds.rooted.passed.batch_ne_nil
    (stored.documents_length.symm ▸ more) positive
  generalize rowsEq : (database.documents.after loop.cursor).take limit = rows
    at nonempty ⊢
  have isLast := List.getLast?_eq_some_getLast nonempty
  have rooted := rooted_after_batch stored.loaded holds.flat holds.rooted
    rowsEq.symm isLast (some ⟨(rows.getLast nonempty).1,
      loop.rooted + rows.length, origin.documentCount⟩)
  have nextState : UnionState origin { database with
      documents := assignRoots database loop.cursor (rows.getLast nonempty).1
      unionDocumentCursor := some ⟨(rows.getLast nonempty).1,
        loop.rooted + rows.length, origin.documentCount⟩ } forest := by
    refine ⟨⟨?_, stored.edges, stored.reached, stored.consumed, stored.loaded,
      stored.parents⟩, ?_, ?_,
      .inl ⟨holds.phase, holds.state.events_eq holds.phase⟩⟩
    · exact (Table.keys_modify _ _).trans stored.documents
    · intro payload member
      obtain ⟨consumed, total, flattened⟩ :=
        holds.state.flattened payload member
      exact ⟨consumed, total, flattened.passed, flattened.flat⟩
    · intro payload member
      rw [← Option.some.inj member]
      exact ⟨holds.finished, rfl, rooted⟩
  have mapNonempty : rows.map Prod.fst ≠ [] :=
    fun isNil => nonempty (List.map_eq_nil_iff.mp isNil)
  unfold rootBatch
  apply Program.wp_lift_bind (require_eq_ok mapNonempty)
  simp only [List.length_map, getLastD_keys isLast]
  apply Program.wp_commit_bind ⟨_, nextState⟩
  rw [Program.wp_pure]
  refine ⟨⟨_, nextState, holds.phase, holds.consumed, holds.finished,
    holds.merged, holds.counted, rooted, ?_⟩, ?_⟩
  · intro impossible
    cases impossible
  · have taken := List.length_pos_iff.mpr nonempty
    simp only [documentsLeft, running, Bool.false_eq_true, if_false]
    omega

/-- The body of the loop that assigns roots. -/
theorem rootStep_wp
    {merges total : Nat} {loop : RootLoop} {database : UnionDatabase}
    {forest : Forest}
    (batches : 1 ≤ limits.batchSize)
    (holds : RootState origin limits merges total loop database forest)
    (running : loop.stopped = false)
    (more : loop.rooted < origin.documentCount) :
    (rootStep limits origin.documentCount loop).wp
      (fun next final => (∃ forest,
        RootState origin limits merges total next final forest) ∧
        documentsLeft origin.documentCount next <
          documentsLeft origin.documentCount loop)
      (fun _ _ => False) (Recoverable origin) database := by
  unfold rootStep
  split
  · rename_i reached
    rw [Program.wp_pure]
    refine ⟨⟨forest, { holds with stopped := fun _ => ?_ }⟩, ?_⟩
    · exact .inr (ne_none_of_limitReached reached)
    · simp [documentsLeft, running]
  · rename_i unreached
    apply Program.wp_query_bind
    exact rootBatch_wp holds running more
      (nextLimit_positive batches unreached)

/-- The loop that assigns roots. -/
theorem rootDocuments_wp
    {merges total : Nat} {loop : RootLoop} {database : UnionDatabase}
    {forest : Forest}
    (batches : 1 ≤ limits.batchSize)
    (holds : RootState origin limits merges total loop database forest) :
    (rootDocuments limits origin.documentCount loop).wp
      (fun last final => (∃ forest,
        RootState origin limits merges total last final forest) ∧
        (last.stopped = true ∨ origin.documentCount ≤ last.rooted))
      (fun _ _ => False) (Recoverable origin) database := by
  unfold rootDocuments
  refine (Program.wp_whileLoop
    (fun loop database => ∃ forest,
      RootState origin limits merges total loop database forest)
    (documentsLeft origin.documentCount) ?_ ?_ ?_ ⟨forest, holds⟩).weaken ?_
  · rintro loop database ⟨forest, holds⟩ continues
    rw [Bool.and_eq_true, Bool.not_eq_true', decide_eq_true_eq] at continues
    exact rootStep_wp batches holds continues.1 continues.2
  · rintro loop database - continues
    rw [Bool.and_eq_true, Bool.not_eq_true'] at continues
    simp [documentsLeft, continues.1]
  · unfold documentsLeft
    split <;> omega
  · rintro last final ⟨atEnd, ended⟩
    refine ⟨atEnd, ?_⟩
    rw [Bool.and_eq_false_iff, Bool.not_eq_false', decide_eq_false_iff_not,
      not_lt] at ended
    exact ended

end Roots

/-! ## A call -/

section Call

variable {origin : UnionDatabase} {limits : UnionLimits}

/-- What a call leaves: the phase is over if it returned `True`, and a limit
was supplied if not. -/
def UnionReturned (origin : UnionDatabase) (limits : UnionLimits) (done : Bool)
    (database : UnionDatabase) : Prop :=
  Recoverable origin database ∧
    (if done then database.phase = .emit else limits.Limited)

/-- From the last root on. -/
theorem closeRoots_wp
    {opening : UnionOpening} {merges total : Nat} {loop : RootLoop}
    {database : UnionDatabase} {forest : Forest}
    (inventory : UnionInventory origin) (opened : OpenedOn origin opening)
    (holds : RootState origin limits merges total loop database forest)
    (ended : loop.stopped = true ∨ origin.documentCount ≤ loop.rooted) :
    (closeRoots opening merges total loop).wp
      (UnionReturned origin limits) (fun _ _ => False) (Recoverable origin)
      database := by
  have stored := holds.state.stored
  unfold closeRoots
  split
  · rename_i stopped
    rw [Program.wp_pure]
    exact ⟨⟨forest, holds.state⟩, holds.stopped stopped⟩
  · rename_i running
    have finished := ended.resolve_left running
    rw [← stored.documents_length] at finished
    have atEnd : loop.cursor = opening.maximumOrdinal := by
      rw [opened.maximumOrdinal,
        ← (inventory.maximumOrdinal stored.documents).2]
      exact eq_maximumKey holds.rooted.passed finished
    have roots (document : Nat)
        (member : document ∈ database.documents.keys) :
        database.documents.lookup document =
          some (some (forest.root document)) :=
      holds.rooted.roots document member
        (holds.rooted.passed.key_le finished member)
    have complete : (database.documents.rows.all fun document =>
        document.2.isSome) = true := by
      rw [List.all_eq_true]
      intro document member
      have known := roots document.1 (List.mem_map_of_mem member)
      rw [database.documents.lookup_eq_some_iff.mpr member,
        Option.some.injEq] at known
      rw [known]
      rfl
    have counted : loop.rooted = origin.documentCount := by
      have upper := holds.rooted.passed.count_le
      rw [stored.documents_length] at upper finished
      omega
    have finalState : UnionState origin { database with
        phase := .emit
        events := database.events ++ [⟨opening.totalEdges, merges, total,
          loop.rooted⟩] } forest := by
      refine ⟨⟨stored.documents, stored.edges, stored.reached,
        stored.consumed, stored.loaded, stored.parents⟩, ?_, ?_, .inr ⟨rfl,
          holds.consumed, roots, ?_⟩⟩
      · intro payload member
        obtain ⟨consumed, total, flattened⟩ :=
          holds.state.flattened payload member
        exact ⟨consumed, total, flattened.passed, flattened.flat⟩
      · intro payload member
        obtain ⟨flat, total, rooted⟩ := holds.state.rooted payload member
        exact ⟨flat, total, rooted.passed, rooted.roots⟩
      · rw [holds.state.events_eq holds.phase, opened.totalEdges, counted,
          holds.merged, holds.counted]
        rfl
    apply Program.wp_lift_bind (require_eq_ok atEnd)
    apply Program.wp_query_bind
    apply Program.wp_lift_bind (require_eq_ok complete)
    unfold advanceUnion
    apply Program.wp_query_bind
    apply Program.wp_lift_bind (require_eq_ok holds.phase)
    apply Program.wp_commit_bind ⟨_, finalState⟩
    rw [Program.wp_pure]
    exact ⟨⟨_, finalState⟩, rfl⟩

/-- Where the assignment of roots starts. -/
theorem openRoots_ok
    {opening : UnionOpening} {database : UnionDatabase} {forest : Forest}
    (inventory : UnionInventory origin) (opened : OpenedOn origin opening)
    (state : UnionState origin database forest)
    (documentRow : opening.documentRow = database.unionDocumentCursor)
    (units : Nat) :
    ∃ start, openRoots opening.documentRow opening.documentCount units =
        .ok start ∧ start.stopped = false ∧
      Rooted database forest start.cursor start.rooted := by
  have members (document : Nat)
      (member : document ∈ database.documents.keys) :
      document ∈ Finset.Icc 1 origin.documentCount := by
    rw [state.stored.documents] at member
    exact (inventory.dense document).mp member
  rw [documentRow, opened.documentCount]
  cases recorded : database.unionDocumentCursor with
  | none =>
      refine ⟨_, rfl, rfl, Table.passed_start fun document member =>
        (Finset.mem_Icc.mp (members document member)).1, ?_⟩
      intro document member below
      have positive := (Finset.mem_Icc.mp (members document member)).1
      have atStart : document ≤ 0 := below
      omega
  | some payload =>
      obtain ⟨-, total, rooted⟩ := state.rooted payload recorded
      refine ⟨⟨payload.ordinal, payload.processedDocuments, units, false⟩, ?_,
        rfl, rooted⟩
      simp only [openRoots, require_bind total]
      rfl

/-- The row of an empty parent inventory. -/
theorem recordEmptyFlatten_wp
    {opening : UnionOpening} {merges total maximum : Nat} {loop : FlattenLoop}
    {database : UnionDatabase} {forest : Forest}
    (holds : FlattenState origin limits opening merges total maximum
         loop database forest)
    (finished : total ≤ loop.flattened) :
    (recordEmptyFlatten opening.flattenRow total).wp
      (fun _ final => UnionState origin final forest ∧
        final.phase = .union ∧ final.EdgesConsumed ∧ final.FlattenFinished ∧
        opening.documentRow = final.unionDocumentCursor ∧
        final.parents = database.parents ∧ final.merges = database.merges)
      (fun _ _ => False) (Recoverable origin) database := by
  have counted := holds.counted
  have upper := holds.flattened.passed.count_le
  unfold recordEmptyFlatten
  split
  · rename_i isEmpty
    have passed : database.parents.Passed 0 0 0 :=
      Table.passed_start holds.state.stored.parent_positive
    have flattened : Flattened database forest 0 0 := by
      refine ⟨passed, fun document member below => ?_⟩
      have positive := holds.state.stored.parent_positive document member
      omega
    have stored := holds.state.stored
    have nextState : UnionState origin { database with
        unionFlattenCursor := some ⟨0, 0, 0⟩ } forest := by
      refine ⟨⟨stored.documents, stored.edges, stored.reached,
        stored.consumed, stored.loaded, stored.parents⟩, ?_, ?_,
        .inl ⟨holds.phase, holds.state.events_eq holds.phase⟩⟩
      · intro payload member
        rw [← Option.some.inj member]
        exact ⟨holds.consumed, isEmpty.1.symm.trans counted,
          flattened.passed, flattened.flat⟩
      · intro payload member
        obtain ⟨-, total, rooted⟩ := holds.state.rooted payload member
        exact ⟨⟨_, rfl, rfl⟩, total, rooted.passed, rooted.roots⟩
    rw [Program.wp_commit]
    exact ⟨⟨_, nextState⟩, nextState, holds.phase, holds.consumed,
      ⟨_, rfl, rfl⟩, holds.documentRow, rfl, rfl⟩
  · rename_i notEmpty
    rw [Program.wp_pure]
    refine ⟨holds.state, holds.phase, holds.consumed, ?_, holds.documentRow,
      rfl, rfl⟩
    rcases holds.recorded with recorded | ⟨-, absent, none⟩
    · refine ⟨_, recorded, ?_⟩
      change loop.flattened = total
      omega
    · exact absurd ⟨by omega, absent⟩ notEmpty

/-- From the last flattened parent on. -/
theorem closeFlatten_wp
    {opening : UnionOpening} {merges total maximum : Nat} {loop : FlattenLoop}
    {database : UnionDatabase} {forest : Forest}
    (inventory : UnionInventory origin) (batches : 1 ≤ limits.batchSize)
    (opened : OpenedOn origin opening)
    (holds : FlattenState origin limits opening merges total maximum
         loop database forest)
    (ended : loop.stopped = true ∨ total ≤ loop.flattened) :
    (closeFlatten limits opening merges total maximum loop).wp
      (UnionReturned origin limits) (fun _ _ => False) (Recoverable origin)
      database := by
  unfold closeFlatten
  split
  · rename_i stopped
    rw [Program.wp_pure]
    exact ⟨⟨forest, holds.state⟩, holds.stopped stopped⟩
  · rename_i running
    have finished := ended.resolve_left running
    have atEnd : loop.cursor = maximum := by
      rw [holds.covered]
      exact eq_maximumKey holds.flattened.passed (holds.counted ▸ finished)
    rw [Program.wp_bind]
    refine (recordEmptyFlatten_wp holds finished).weaken ?_
    rintro - final ⟨state, phase, consumed, allFlat, documentRow, parents,
      merged⟩
    obtain ⟨start, opens, running, rooted⟩ := openRoots_ok
      inventory opened state documentRow loop.finalizationUnits
    have starts : RootState origin limits merges total start final forest := by
      refine ⟨state, phase, consumed, allFlat, holds.merged.trans merged.symm,
        ?_, rooted, fun stopped => ?_⟩
      · rw [parents]
        exact holds.counted
      · rw [running] at stopped
        cases stopped
    apply Program.wp_lift_bind (require_eq_ok atEnd)
    apply Program.wp_query_bind
    apply Program.wp_lift_bind
      (require_eq_ok (parentsFlat_of_flat state.stored starts.flat))
    apply Program.wp_lift_bind opens
    rw [Program.wp_bind, opened.documentCount]
    refine (rootDocuments_wp batches starts).weaken ?_
    rintro last after ⟨⟨forest, atLast⟩, stops⟩
    exact closeRoots_wp inventory opened atLast stops

/-- Where flattening starts. -/
theorem openFlatten_ok
    {opening : UnionOpening} {loop : EdgeLoop} {database : UnionDatabase}
    {forest : Forest}
    (holds : EdgeState origin limits opening loop database forest)
    (atEnd : loop.cursor = maximumKey origin.edges) :
    ∃ start, openFlatten loop.parents opening.flattenRow
        database.parents.rows.length = .ok start ∧
      FlattenState origin limits opening loop.merges
        database.parents.rows.length (maximumKey database.parents) start
        database forest := by
  have state := holds.state
  have consumed : database.EdgesConsumed := by
    rw [UnionDatabase.EdgesConsumed, ← holds.cursor, state.stored.edges]
    exact atEnd
  have needed (absent : loop.parents = none) :
      needsParentArray database loop.cursor (maximumKey origin.edges) =
        false := holds.loaded absent
  rw [holds.flattenRow]
  cases recorded : database.unionFlattenCursor with
  | none =>
      refine ⟨⟨loop.parents, 0, 0, 0, false⟩, rfl, state, holds.phase, consumed,
        holds.merges, rfl, rfl, ⟨?_, ?_⟩, holds.array, ?_,
        .inr ⟨recorded, holds.flattenRow.trans recorded, rfl⟩,
        holds.documentRow, ?_⟩
      · exact Table.passed_start state.stored.parent_positive
      · intro document member below
        have positive := state.stored.parent_positive document member
        have atStart : document ≤ 0 := below
        omega
      · intro absent
        have needless := needed absent
        simp only [needsParentArray, recorded, Bool.or_eq_false_iff,
          decide_eq_false_iff_not, not_lt] at needless
        exact needless.2
      · intro impossible
        cases impossible
  | some payload =>
      obtain ⟨-, total, flattened⟩ := state.flattened payload recorded
      refine ⟨⟨loop.parents, payload.document, payload.processedDocuments, 0,
        false⟩, ?_, state, holds.phase, consumed, holds.merges, rfl, rfl, flattened,
        holds.array, ?_, .inl ?_, holds.documentRow, ?_⟩
      · simp only [openFlatten, require_bind total]
        rfl
      · intro absent
        have needless := needed absent
        simp only [needsParentArray, recorded, Bool.or_eq_false_iff,
          decide_eq_false_iff_not, not_lt] at needless
        exact total ▸ needless.2
      · rw [recorded, ← total]
      · intro impossible
        cases impossible

/-- From the last edge on. -/
theorem closeEdges_wp
    {opening : UnionOpening} {loop : EdgeLoop} {database : UnionDatabase}
    {forest : Forest}
    (inventory : UnionInventory origin) (batches : 1 ≤ limits.batchSize)
    (opened : OpenedOn origin opening)
    (holds : EdgeState origin limits opening loop database forest)
    (ended : loop.stopped = true ∨ loop.cursor = maximumKey origin.edges) :
    (closeEdges limits opening loop).wp
      (UnionReturned origin limits) (fun _ _ => False) (Recoverable origin)
      database := by
  unfold closeEdges
  split
  · rename_i stopped
    rw [Program.wp_pure]
    exact ⟨⟨forest, holds.state⟩, holds.stopped stopped⟩
  · rename_i running
    have atEnd := ended.resolve_left running
    obtain ⟨start, opens, starts⟩ := openFlatten_ok holds atEnd
    apply Program.wp_lift_bind (require_eq_ok (by
      rw [opened.maximumEdgeId]
      exact atEnd))
    apply Program.wp_query_bind
    apply Program.wp_query_bind
    apply Program.wp_lift_bind opens
    rw [Program.wp_bind]
    refine (flattenParents_wp batches starts).weaken ?_
    rintro last after ⟨⟨forest, atLast⟩, stops⟩
    exact closeFlatten_wp inventory batches opened atLast stops

/-- The limits that the code accepts. -/
structure UnionLimits.Valid (limits : UnionLimits) : Prop where
  batchSize : 1 ≤ limits.batchSize
  maxNewEdges : ∀ value ∈ limits.maxNewEdges, 1 ≤ value
  maxNewFinalizationDocuments :
    ∀ value ∈ limits.maxNewFinalizationDocuments, 1 ≤ value

theorem requireLimit_ok
    {name : String} {limit : Option Nat}
    (valid : ∀ value ∈ limit, 1 ≤ value) : requireLimit name limit = .ok () := by
  simp only [requireLimit, require_bind valid]
  rfl

/-- What a call reads before it starts. -/
theorem openUnion_ok
    {database : UnionDatabase} {forest : Forest}
    (inventory : UnionInventory origin)
    (state : UnionState origin database forest)
    (running : database.phase = .union) (limits : UnionLimits) :
    ∃ opening, openUnion database = .ok opening ∧ OpenedOn origin opening ∧
      EdgeState origin limits opening
        ⟨opening.parents, opening.cursor, opening.merges, 0, false⟩ database
        forest := by
  obtain ⟨sameCount, maximum⟩ := inventory.maximumOrdinal
    state.stored.documents
  have edges := state.stored.edges
  have dense : database.documents.rows.length =
      maximumKey database.documents := sameCount.trans maximum.symm
  have within : database.unionEdgeCursor.getD 0 ≤
      maximumKey database.edges := by
    rw [edges]
    exact state.stored.cursor_le
  refine ⟨_, by
    simp only [openUnion, require_bind dense, require_bind within]
    rfl, ⟨sameCount, maximum, by rw [edges], by rw [edges]⟩, state, running, rfl, rfl, ?_, ?_, rfl, rfl, ?_⟩
  · intro parents member
    simp only at member
    split at member
    · rw [← Option.some.inj member]
      exact state.stored.loaded
    · cases member
  · intro absent
    simp only at absent
    split at absent
    · cases absent
    · rename_i needless
      rw [edges] at needless
      exact Bool.eq_false_iff.mpr needless
  · intro impossible
    cases impossible

/-- Every call of `union_edges`, from whatever a kill has left. -/
theorem unionEdges_wp
    {database : UnionDatabase}
    (inventory : UnionInventory origin) (valid : limits.Valid)
    (recoverable : Recoverable origin database) :
    (unionEdges limits).wp
      (UnionReturned origin limits) (fun _ _ => False) (Recoverable origin)
      database := by
  obtain ⟨forest, state⟩ := recoverable
  unfold unionEdges
  apply Program.wp_query_bind
  split
  · rename_i running
    obtain ⟨opening, opens, opened, starts⟩ :=
      openUnion_ok inventory state running limits
    unfold runUnion
    apply Program.wp_lift_bind (requireLimit_ok valid.maxNewEdges)
    apply Program.wp_lift_bind
      (requireLimit_ok valid.maxNewFinalizationDocuments)
    rw [Program.wp_bind, Program.wp_inspect_ok opens, Program.wp_bind]
    refine (consumeEdges_wp inventory valid.batchSize opened starts).weaken ?_
    rintro last final ⟨⟨forest, atLast⟩, ended⟩
    exact closeEdges_wp inventory valid.batchSize opened atLast ended
  · rename_i ended
    rw [Program.wp_pure]
    refine ⟨⟨forest, state⟩, ?_⟩
    rcases state.phase with running | finished
    · exact absurd running.1 ended
    · exact finished.phase

end Call

/-! ## Any number of calls and kills -/

/-- A call with limits that the code accepts. -/
def UnionCall (program : UnionProgram Bool) : Prop :=
  ∃ limits : UnionLimits, limits.Valid ∧ program = unionEdges limits

/-- What calls leave that are killed between their transactions. -/
def UnionReachable (origin database : UnionDatabase) : Prop :=
  Program.Survives UnionCall (fun committed left => left = committed) origin
    database

/-- The number of clusters. -/
noncomputable def clusterCount (inventory : UnionDatabase) : Nat :=
  Set.ncard {document | document ∈ inventory.documents.keys ∧
    IsClusterRoot inventory.edges document document}

/-- A finished phase: every document has the root of its cluster, and every
merge has made one cluster of two. -/
structure Clustered (origin database : UnionDatabase) : Prop where
  phase : database.phase = .emit
  documents : database.documents.keys = origin.documents.keys
  roots : ∀ document ∈ origin.documents.keys, ∃ root,
    database.documents.lookup document = some (some root) ∧
      IsClusterRoot origin.edges document root
  merges : database.merges + clusterCount origin = origin.documentCount
  events : ∃ parentDocuments, database.events = origin.events ++
    [⟨origin.edges.rows.length, database.merges, parentDocuments,
      origin.documentCount⟩]

section Reachable

variable {origin database : UnionDatabase}

theorem UnionReachable.recoverable
    (inventory : UnionInventory origin)
    (reached : UnionReachable origin database) :
    Recoverable origin database := by
  refine reached.invariant (Recoverable origin) inventory.recoverable ?_ ?_
  · rintro program before ⟨limits, valid, rfl⟩ recoverable
    exact ⟨_, _, unionEdges_wp inventory valid recoverable⟩
  · rintro before after recoverable rfl
    exact recoverable

/-- A finished phase has the clusters. -/
theorem Recoverable.clustered
    (inventory : UnionInventory origin)
    (recoverable : Recoverable origin database)
    (emitted : database.phase = .emit) : Clustered origin database := by
  obtain ⟨forest, state⟩ := recoverable
  have stored := state.stored
  rcases state.phase with ⟨running, -⟩ | finished
  · rw [running] at emitted
    cases emitted
  · have isRoot := stored.isClusterRoot finished.consumed
    refine ⟨emitted, stored.documents, ?_, ?_, _, finished.events⟩
    · intro document member
      rw [← stored.documents] at member
      exact ⟨_, finished.roots document member, isRoot document⟩
    · have clusters : {document | document ∈ origin.documents.keys ∧
          IsClusterRoot origin.edges document document} =
            (forest.roots origin.documentCount : Set Nat) := by
        ext document
        rw [Finset.mem_coe, Forest.roots, Finset.mem_filter,
          ← inventory.dense document]
        apply and_congr_right
        intro _
        constructor
        · intro least
          exact (isRoot document).unique least
        · intro fixed
          have least := isRoot document
          rwa [fixed] at least
      rw [clusterCount, clusters, Set.ncard_coe_finset]
      exact stored.consumed.counted

/-- There is only one finished database, as far as clusters go. -/
theorem Clustered.unique
    {other : UnionDatabase}
    (first : Clustered origin database) (second : Clustered origin other) :
    other.documents = database.documents ∧
      other.merges = database.merges := by
  constructor
  · apply Table.ext_lookup
    intro document
    by_cases member : document ∈ origin.documents.keys
    · obtain ⟨root, found, isRoot⟩ := first.roots document member
      obtain ⟨otherRoot, otherFound, otherIsRoot⟩ :=
        second.roots document member
      rw [found, otherFound, isRoot.unique otherIsRoot]
    · have absent : document ∉ database.documents.keys := by
        rw [first.documents]
        exact member
      have otherAbsent : document ∉ other.documents.keys := by
        rw [second.documents]
        exact member
      rw [(Table.lookup_eq_none_iff _).mpr absent,
        (Table.lookup_eq_none_iff _).mpr otherAbsent]
  · have counted := first.merges
    have otherCounted := second.merges
    omega

end Reachable

/-- Whatever calls and kills came before, a call raises no error; once one
returns `True` the documents have the least ordinals of their connected
components, and the result is that of any other such sequence. -/
theorem unionEdges_components
    {origin database : UnionDatabase} {limits : UnionLimits}
    (inventory : UnionInventory origin)
    (reached : UnionReachable origin database) (valid : limits.Valid) :
    ∃ done, ((unionEdges limits).run database).result = .ok done ∧
      (¬limits.Limited -> done = true) ∧
      (done = true ->
        Clustered origin ((unionEdges limits).run database).final ∧
        ∀ other, UnionReachable origin other -> other.phase = .emit ->
          other.documents =
              ((unionEdges limits).run database).final.documents ∧
            other.merges =
              ((unionEdges limits).run database).final.merges) := by
  have verified := unionEdges_wp inventory valid
    (reached.recoverable inventory)
  obtain ⟨done, result, recoverable, returned⟩ := verified.terminates
  refine ⟨done, result, ?_, ?_⟩
  · intro unlimited
    cases done with
    | true => rfl
    | false => exact absurd returned unlimited
  · rintro rfl
    have clustered := recoverable.clustered inventory returned
    refine ⟨clustered, fun other otherReached emitted => ?_⟩
    exact clustered.unique
      ((otherReached.recoverable inventory).clustered inventory emitted)

/-- Three documents, two of them joined by an edge of either kind. -/
def smallUnion : UnionDatabase where
  phase := .union
  documents := ⟨[(1, none), (2, none), (3, none)], by decide⟩
  edges := ⟨[(4, ⟨3, 1⟩), (9, ⟨1, 3⟩)], by decide⟩
  parents := Table.empty
  unionEdgeCursor := none
  unionMerges := none
  unionFlattenCursor := none
  unionDocumentCursor := none
  events := []

theorem unionEdges_components_small :
    ∃ done, ((unionEdges ⟨1, none, none⟩).run smallUnion).result = .ok done ∧
      (¬(⟨1, none, none⟩ : UnionLimits).Limited -> done = true) ∧
      (done = true ->
        Clustered smallUnion
          ((unionEdges ⟨1, none, none⟩).run smallUnion).final ∧
        ∀ other, UnionReachable smallUnion other -> other.phase = .emit ->
          other.documents = ((unionEdges ⟨1, none, none⟩).run
              smallUnion).final.documents ∧
            other.merges = ((unionEdges ⟨1, none, none⟩).run
              smallUnion).final.merges) := by
  refine unionEdges_components ⟨rfl, ?_, by decide, ?_, rfl, rfl, rfl, rfl,
    rfl⟩ .start ⟨le_rfl, ?_, ?_⟩
  · intro ordinal
    simp [smallUnion, Table.keys, UnionDatabase.documentCount]
    omega
  · unfold Inside
    decide
  · intro value member
    cases member
  · intro value member
    cases member

end CodingLlm
