import CodingLlm.Scripts.QuotaPrefix

/-!
# Quota selection with kills

`_select_quota_bounded` selects the allotted candidates in order, each once,
whatever the batch sizes are and wherever it is killed.  It ends with the
shortest prefix that reaches the target, which its validation accepts, or
raises exactly if the candidates have fewer tokens.
-/

namespace CodingLlm

open CrashLogic

/-! ## Inserted selections -/

section Insertion

variable {split : Split}

/-- Selections of new documents can be inserted. -/
theorem foldlM_insertSelected
    {rows : List (Digest × Nat)} {selected : Table Digest Selection}
    (distinct : (rows.map Prod.fst).Nodup)
    (fresh : ∀ row ∈ rows, ¬selected.Uses row.1) :
    ∃ final, rows.foldlM (insertSelected split) selected = .ok final ∧
      ∀ docId selection, final.lookup docId = some selection ↔
        (∃ row ∈ rows, docId = row.1 ∧ selection = ⟨split, row.2⟩) ∨
          selected.lookup docId = some selection := by
  induction rows generalizing selected with
  | nil => exact ⟨selected, rfl, fun _ _ => by simp⟩
  | cons row rest inductionHypothesis =>
      obtain ⟨isNew, restDistinct⟩ := List.nodup_cons.mp distinct
      obtain ⟨rowFresh, restFresh⟩ := List.forall_mem_cons.mp fresh
      have absent : selected.lookup row.1 = none := by
        rw [Table.Uses, Bool.not_eq_true, Option.isSome_eq_false_iff,
          Option.isNone_iff_eq_none] at rowFresh
        exact rowFresh
      have stillFresh : ∀ other ∈ rest,
          ¬(selected.upsert row.1 ⟨split, row.2⟩).Uses other.1 := by
        intro other member uses
        rw [Table.uses_iff_mem, Table.mem_keys_upsert] at uses
        rcases uses with same | used
        · exact isNew (same ▸ List.mem_map_of_mem member)
        · exact restFresh other member (Table.uses_iff_mem.mpr used)
      obtain ⟨final, inserted, lookups⟩ :=
        inductionHypothesis restDistinct stillFresh
      refine ⟨final, ?_, fun docId selection => ?_⟩
      · rw [List.foldlM_cons, insertSelected, insertRow,
          require_bind rowFresh]
        exact inserted
      · rw [lookups, Table.lookup_upsert]
        simp only [List.mem_cons, exists_eq_or_imp]
        by_cases same : docId = row.1
        · subst same
          rw [if_pos rfl, absent]
          simp [or_comm, eq_comm]
        · simp [same]

/-- Inserting more selections needs those before. -/
theorem insertSelected_append
    {front back : List (Digest × Nat)} {selected middle : Table Digest Selection}
    (inserted : front.foldlM (insertSelected split) selected = .ok middle) :
    (front ++ back).foldlM (insertSelected split) selected =
      back.foldlM (insertSelected split) middle := by
  rw [List.foldlM_append, inserted, checked_ok_bind]

end Insertion

/-! ## Counters of quotas -/

/-- A quota that has not started adds nothing to the counter. -/
theorem quotaProgressRows_update
    {progress : Subphase -> Option Progress} {split : Split}
    {category : Category} (next : Progress)
    (unstarted : progress (.selectionQuota split category) = none) :
    quotaProgressRows (Function.update progress
        (.selectionQuota split category) (some next)) =
      quotaProgressRows progress + next.processedRows := by
  unfold quotaProgressRows splitOrder categories
  cases split <;> cases category <;>
    simp [Function.update, unstarted] <;> omega

/-! ## States -/

/-- What a target allots to the candidates of a split and a category. -/
def quotaPlan (setting : CurationSetting) (tables : CurationTables)
    (split : Split) (category : Category) : List (QuotaKey × Nat) :=
  allot (setting.quotas.target split category)
    (cellCandidates tables split category).rows

/-- A quota can start: documents have tokens, none of its candidates has been
selected, and the counters agree. -/
structure QuotaReady (origin : CurationDatabase) (split : Split)
    (category : Category) : Prop where
  tokenized : ∀ row ∈ origin.tables.documents.rows, 1 ≤ row.2.tokens
  unselected : ∀ row ∈ (cellCandidates origin.tables split category).rows,
    ¬origin.selected.Uses (ofLex row.1).2
  unstarted : origin.progress (.selectionQuota split category) = none
  counted : origin.durable.selectedDocuments =
    quotaProgressRows origin.progress

/-- The progress of a quota after a number of documents. -/
def quotaProgress (setting : CurationSetting) (tables : CurationTables)
    (split : Split) (category : Category) (status : ProgressStatus)
    (count batches : Nat) : Progress :=
  ⟨status, .rank ((cellCandidates tables split category).cursorAt count),
    count,
    tokensOf ((quotaPlan setting tables split category).take count),
    batches, 0⟩

/-- The state of a quota that has selected a number of documents. -/
structure QuotaPoint (setting : CurationSetting) (origin : CurationDatabase)
    (split : Split) (category : Category) (status : ProgressStatus)
    (count : Nat) (progress : Progress) (database : CurationDatabase) :
    Prop where
  inRange : count ≤ (quotaPlan setting origin.tables split category).length
  selected : (selectionsOf ((quotaPlan setting origin.tables split
    category).take count)).foldlM (insertSelected split) origin.selected =
      .ok database.selected
  reached : ∃ batches,
    progress = quotaProgress setting origin.tables split category status
        count batches ∧
      database = { origin with
        selected := database.selected
        durable := { origin.durable with
          selectedDocuments := origin.durable.selectedDocuments + count }
        }.setProgress (.selectionQuota split category) progress

/-- A kill leaves a quota before its start or after some of its documents. -/
def QuotaStarted (setting : CurationSetting) (split : Split)
    (category : Category) (origin database : CurationDatabase) : Prop :=
  database = origin ∨ ∃ count progress,
    QuotaPoint setting origin split category .running count progress database

/-- A completed quota has selected what its target allots. -/
structure QuotaCompleted (setting : CurationSetting) (split : Split)
    (category : Category) (origin database : CurationDatabase) : Prop where
  enough : setting.quotas.target split category ≤
    tokensOf (cellCandidates origin.tables split category).rows
  point : ∃ progress, QuotaPoint setting origin split category .complete
    (quotaPlan setting origin.tables split category).length progress database

/-- Where a kill can leave a quota. -/
def QuotaReached (setting : CurationSetting) (split : Split)
    (category : Category) (origin database : CurationDatabase) : Prop :=
  QuotaStarted setting split category origin database ∨
    QuotaCompleted setting split category origin database

section Points

variable {setting : CurationSetting} {origin database : CurationDatabase}
variable {split : Split} {category : Category}
variable {status : ProgressStatus} {count : Nat} {progress : Progress}

theorem QuotaPoint.progress_eq
    (point : QuotaPoint setting origin split category status count progress
      database) :
    database.progress (.selectionQuota split category) = some progress := by
  obtain ⟨batches, -, equal⟩ := point.reached
  rw [equal]
  exact Function.update_self ..

theorem QuotaPoint.status_eq
    (point : QuotaPoint setting origin split category status count progress
      database) : progress.status = status := by
  obtain ⟨batches, rfl, -⟩ := point.reached
  rfl

theorem QuotaPoint.cursor_eq
    (point : QuotaPoint setting origin split category status count progress
      database) :
    progress.cursor =
      .rank ((cellCandidates origin.tables split category).cursorAt count) := by
  obtain ⟨batches, rfl, -⟩ := point.reached
  rfl

theorem QuotaPoint.processedTokens_eq
    (point : QuotaPoint setting origin split category status count progress
      database) :
    progress.processedTokens = tokensOf
      ((quotaPlan setting origin.tables split category).take count) := by
  obtain ⟨batches, rfl, -⟩ := point.reached
  rfl

theorem QuotaPoint.tables_eq
    (point : QuotaPoint setting origin split category status count progress
      database) : database.tables = origin.tables := by
  obtain ⟨batches, -, equal⟩ := point.reached
  rw [equal]
  rfl

/-- The counters agree after every batch. -/
theorem QuotaPoint.counted (ready : QuotaReady origin split category)
    (point : QuotaPoint setting origin split category status count progress
      database) :
    database.durable.selectedDocuments =
      quotaProgressRows database.progress := by
  obtain ⟨batches, isProgress, equal⟩ := point.reached
  rw [equal, CurationDatabase.setProgress,
    quotaProgressRows_update _ ready.unstarted, isProgress, ready.counted.symm]
  rfl

/-- No more tokens are selected than the target has. -/
theorem tokensOf_take_le (count : Nat) :
    tokensOf ((quotaPlan setting origin.tables split category).take count) ≤
      setting.quotas.target split category := by
  have whole := tokensOf_allot (setting.quotas.target split category)
    (cellCandidates origin.tables split category).rows
  have parts := tokensOf_append
    ((quotaPlan setting origin.tables split category).take count)
    ((quotaPlan setting origin.tables split category).drop count)
  rw [List.take_append_drop, quotaPlan, whole] at parts
  rw [quotaPlan]
  omega

/-- The documents of a plan are different. -/
theorem nodup_selectionsOf_plan :
    ((selectionsOf (quotaPlan setting origin.tables split category)).map
      Prod.fst).Nodup := by
  have ids : ((cellCandidates origin.tables split category).rows.map
      fun row => (ofLex row.1).2).Nodup := by
    apply List.Nodup.map_on
    · intro first firstMember second secondMember same
      obtain ⟨document, member, -, -, rfl⟩ :=
        mem_cellCandidates_iff.mp firstMember
      obtain ⟨other, otherMember, -, -, rfl⟩ :=
        mem_cellCandidates_iff.mp secondMember
      rw [row_eq_of_id member otherMember same]
    · exact (cellCandidates origin.tables split category).keys_nodup.of_map
  have sublist : (selectionsOf (quotaPlan setting origin.tables split
      category)).map Prod.fst =
        ((quotaPlan setting origin.tables split category).map Prod.fst).map
          fun key => (ofLex key).2 := by
    rw [selectionsOf, List.map_map, List.map_map]
    rfl
  rw [sublist, quotaPlan, keys_allot, List.map_take, List.map_map]
  exact ids.sublist (List.take_sublist _ _)

/-- The documents of a plan are candidates. -/
theorem mem_cell_of_mem_plan
    {row : QuotaKey × Nat}
    (member : row ∈ quotaPlan setting origin.tables split category) :
    ∃ candidate ∈ (cellCandidates origin.tables split category).rows,
      candidate.1 = row.1 := by
  have isKey : row.1 ∈ ((cellCandidates origin.tables split
      category).rows.map Prod.fst) := by
    have inPlan : row.1 ∈ (quotaPlan setting origin.tables split
        category).map Prod.fst := List.mem_map_of_mem member
    rw [quotaPlan, keys_allot] at inPlan
    exact List.mem_of_mem_take inPlan
  obtain ⟨candidate, inCell, same⟩ := List.mem_map.mp isKey
  exact ⟨candidate, inCell, same⟩

/-- The documents of a plan can be inserted, in any number of steps. -/
theorem exists_selected
    (setting : CurationSetting)
    (ready : QuotaReady origin split category)
    (count : Nat) :
    ∃ final, (selectionsOf ((quotaPlan setting origin.tables split
        category).take count)).foldlM (insertSelected split)
          origin.selected = .ok final ∧
      ∀ docId selection, final.lookup docId = some selection ↔
        (∃ row ∈ (quotaPlan setting origin.tables split category).take count,
          docId = (ofLex row.1).2 ∧ selection = ⟨split, row.2⟩) ∨
          origin.selected.lookup docId = some selection := by
  have distinct : ((selectionsOf ((quotaPlan setting origin.tables split
      category).take count)).map Prod.fst).Nodup := by
    have taken := nodup_selectionsOf_plan.sublist
      ((((quotaPlan setting origin.tables split category).take_sublist
        count).map fun row => ((ofLex row.1).2, row.2)).map Prod.fst)
    exact taken
  have fresh : ∀ row ∈ selectionsOf ((quotaPlan setting origin.tables split
      category).take count), ¬origin.selected.Uses row.1 := by
    intro row member
    obtain ⟨planned, inTaken, rfl⟩ := List.mem_map.mp member
    obtain ⟨candidate, inCell, same⟩ :=
      mem_cell_of_mem_plan (List.mem_of_mem_take inTaken)
    rw [← same]
    exact ready.unselected candidate inCell
  obtain ⟨final, inserted, lookups⟩ :=
    foldlM_insertSelected distinct fresh
  refine ⟨final, inserted, fun docId selection => ?_⟩
  rw [lookups, selectionsOf]
  simp only [List.mem_map, exists_exists_and_eq_and]

end Points

end CodingLlm
