import CodingLlm.Scripts.QuotaResult

/-!
# Quotas one after the other

The quotas of an inventory are selected one after the other, each by calls
that may be killed; a call of a quota that is complete changes nothing.
-/

namespace CodingLlm

open CrashLogic

/-- An inventory of which nothing has been selected. -/
structure Selectable (inventory : CurationDatabase) : Prop where
  tokenized : ∀ row ∈ inventory.tables.documents.rows, 1 ≤ row.2.tokens
  unselected : inventory.selected = Table.empty
  unstarted : ∀ split category,
    inventory.progress (.selectionQuota split category) = none
  uncounted : inventory.durable.selectedDocuments = 0

/-- Calls of `_select_quota_bounded` for some splits and categories. -/
def QuotaCalls (setting : CurationSetting) (cells : List (Split × Category))
    (program : CurationProgram Unit) : Prop :=
  ∃ cell ∈ cells, QuotaSelections setting cell.1 cell.2 program

/-- Runs that have selected some quotas one after the other; each was killed
any number of times before it ended, and restarts called those before it
again. -/
inductive QuotaRuns (setting : CurationSetting)
    (inventory : CurationDatabase) :
    List (Split × Category) -> CurationDatabase -> Prop
  | start : QuotaRuns setting inventory [] inventory
  | next
      {done : List (Split × Category)} {origin database : CurationDatabase}
      {split : Split} {category : Category}
      {program : CurationProgram Unit} :
      QuotaRuns setting inventory done origin ->
      (split, category) ∉ done ->
      Program.Survives (QuotaCalls setting ((split, category) :: done)) Eq
        origin database ->
      QuotaSelections setting split category program ->
      (program.run database).result = .ok () ->
      QuotaRuns setting inventory ((split, category) :: done)
        (program.run database).final

/-! ## Complete quotas -/

/-- A quota is complete, whatever else has been selected. -/
structure QuotaSettled (setting : CurationSetting) (split : Split)
    (category : Category) (database : CurationDatabase) : Prop where
  enough : setting.quotas.target split category ≤
    tokensOf (cellCandidates database.tables split category).rows
  progress : ∃ progress,
    database.progress (.selectionQuota split category) = some progress ∧
      progress.status = .complete ∧
      progress.cursor =
        .rank ((cellCandidates database.tables split category).cursorAt
          (quotaPlan setting database.tables split category).length) ∧
      progress.processedRows =
        (quotaPlan setting database.tables split category).length ∧
      progress.processedTokens = setting.quotas.target split category
  selected : ∀ row ∈ quotaPlan setting database.tables split category,
    database.selected.lookup (ofLex row.1).2 = some ⟨split, row.2⟩

section Quotas

variable {setting : CurationSetting} {origin database : CurationDatabase}
variable {split : Split} {category : Category} {batchSize : Nat}

/-- A call of a complete quota changes nothing. -/
theorem QuotaSettled.selectQuota_wp
    {crash : CurationDatabase -> Prop}
    (settled : QuotaSettled setting split category database)
    (counted : database.durable.selectedDocuments =
      quotaProgressRows database.progress) :
    (selectQuota setting batchSize split category).wp
      (fun _ final => final = database) (fun _ _ => False) crash
      database := by
  obtain ⟨progress, found, status, cursor, rows, tokens⟩ := settled.progress
  have validated : validateQuotaPrefix setting split category progress
      database = .ok () :=
    validateQuotaPrefix_ok settled.enough cursor rows rfl settled.selected
  unfold selectQuota startSubphase
  rw [Program.wp_bind]
  apply Program.wp_query_bind
  rw [found]
  simp only
  rw [Program.wp_pure]
  apply Program.wp_query_bind
  rw [Program.wp_bind]
  apply wp_checkThat (fun _ => ?_) (absurd counted)
  rw [if_pos status, Program.wp_bind]
  apply wp_checkThat (fun _ => ?_) (absurd tokens)
  rw [checkQuotaPrefix, Program.wp_inspect_ok validated]

/-- A completed quota is complete. -/
theorem QuotaCompleted.settled (ready : QuotaReady origin split category)
    (completed : QuotaCompleted setting split category origin database) :
    QuotaSettled setting split category database := by
  obtain ⟨enough, progress, point⟩ := completed
  have tables := point.tables_eq
  obtain ⟨batches, isProgress, -⟩ := point.reached
  constructor
  · rw [tables]
    exact enough
  · refine ⟨progress, point.progress_eq, point.status_eq, ?_, ?_, ?_⟩
    · rw [tables]
      exact point.cursor_eq
    · rw [tables, isProgress]
      rfl
    · rw [point.processedTokens_eq, List.take_length, quotaPlan,
        tokensOf_allot, min_eq_left enough]
  · intro row member
    rw [tables] at member
    rw [point.lookup_iff ready, List.take_length]
    exact .inl ⟨row, member, rfl, rfl⟩

/-- Wherever a quota is left, it is at some number of documents or has not
started. -/
theorem QuotaReached.point
    (reached : QuotaReached setting split category origin database) :
    database = origin ∨ ∃ status count progress,
      QuotaPoint setting origin split category status count progress
        database := by
  rcases reached with (rfl | ⟨count, progress, point⟩) | completed
  · exact .inl rfl
  · exact .inr ⟨_, count, progress, point⟩
  · obtain ⟨progress, point⟩ := completed.point
    exact .inr ⟨_, _, progress, point⟩

theorem QuotaPoint.progress_of_ne
    {status : ProgressStatus} {count : Nat} {progress : Progress}
    (point : QuotaPoint setting origin split category status count progress
      database)
    {other : Subphase} (different : other ≠ .selectionQuota split category) :
    database.progress other = origin.progress other := by
  obtain ⟨batches, -, equal⟩ := point.reached
  rw [equal]
  exact Function.update_of_ne different _ _

/-- A quota that runs leaves the complete ones complete. -/
theorem QuotaSettled.frame (ready : QuotaReady origin split category)
    {otherSplit : Split} {otherCategory : Category}
    (settled : QuotaSettled setting otherSplit otherCategory origin)
    (different : (otherSplit, otherCategory) ≠ (split, category))
    (reached : QuotaReached setting split category origin database) :
    QuotaSettled setting otherSplit otherCategory database := by
  rcases reached.point with rfl | ⟨status, count, progress, point⟩
  · exact settled
  have tables := point.tables_eq
  have other : Subphase.selectionQuota otherSplit otherCategory ≠
      .selectionQuota split category := by
    rintro equal
    injection equal with sameSplit sameCategory
    exact different (Prod.ext sameSplit sameCategory)
  constructor
  · rw [tables]
    exact settled.enough
  · rw [tables, point.progress_of_ne other]
    exact settled.progress
  · intro row member
    rw [tables] at member
    rw [point.lookup_iff ready]
    exact .inr (settled.selected row member)

theorem QuotaReached.counted (ready : QuotaReady origin split category)
    (reached : QuotaReached setting split category origin database) :
    database.durable.selectedDocuments =
      quotaProgressRows database.progress := by
  rcases reached.point with rfl | ⟨status, count, progress, point⟩
  · exact ready.counted
  · exact point.counted ready

/-- Killed calls of a quota and of those before it leave a state from which
the next call continues. -/
theorem quotaReached_of_calls
    {done : List (Split × Category)}
    (ready : QuotaReady origin split category)
    (settled : ∀ cell ∈ done, QuotaSettled setting cell.1 cell.2 origin)
    (pending : (split, category) ∉ done)
    (survives : Program.Survives
      (QuotaCalls setting ((split, category) :: done)) Eq origin database) :
    QuotaReached setting split category origin database := by
  refine survives.invariant (QuotaReached setting split category origin)
    (.inl (.inl rfl)) ?_ ?_
  · rintro program before ⟨cell, member, batchSize, batches, rfl⟩ reached
    rcases List.mem_cons.mp member with rfl | isDone
    · exact ⟨_, _, CodingLlm.selectQuota_wp ready batches reached⟩
    · have different : cell ≠ (split, category) :=
        fun same => pending (same ▸ isDone)
      exact ⟨_, _, ((settled cell isDone).frame ready different
        reached).selectQuota_wp (reached.counted ready)⟩
  · rintro before after reached rfl
    exact reached

end Quotas

/-! ## Every quota in turn -/

/-- Some quotas are complete and the others have not started. -/
structure QuotasDone (setting : CurationSetting)
    (inventory : CurationDatabase) (done : List (Split × Category))
    (database : CurationDatabase) : Prop where
  tables : database.tables = inventory.tables
  settled : ∀ cell ∈ done, QuotaSettled setting cell.1 cell.2 database
  unstarted : ∀ split category, (split, category) ∉ done ->
    database.progress (.selectionQuota split category) = none
  selected : ∀ docId selection,
    database.selected.lookup docId = some selection ->
      ∃ cell ∈ done, ∃ row ∈
        (cellCandidates inventory.tables cell.1 cell.2).rows,
        docId = (ofLex row.1).2
  counted : database.durable.selectedDocuments =
    quotaProgressRows database.progress

section Sequence

variable {setting : CurationSetting} {inventory origin : CurationDatabase}
variable {database : CurationDatabase} {done : List (Split × Category)}
variable {split : Split} {category : Category} {batchSize : Nat}

theorem Selectable.quotasDone (selectable : Selectable inventory) :
    QuotasDone setting inventory [] inventory := by
  constructor
  · rfl
  · simp
  · exact fun split category _ => selectable.unstarted split category
  · intro docId selection found
    rw [selectable.unselected] at found
    cases found
  · rw [selectable.uncounted, quotaProgressRows]
    simp [selectable.unstarted, splitOrder, categories]

/-- A document is a candidate of one quota only. -/
theorem candidate_unique
    {tables : CurationTables} {otherSplit : Split} {otherCategory : Category}
    {row other : QuotaKey × Nat}
    (member : row ∈ (cellCandidates tables split category).rows)
    (otherMember : other ∈
      (cellCandidates tables otherSplit otherCategory).rows)
    (same : (ofLex row.1).2 = (ofLex other.1).2) :
    (split, category) = (otherSplit, otherCategory) := by
  obtain ⟨document, inDocuments, isCategory, candidate, rfl⟩ :=
    mem_cellCandidates_iff.mp member
  obtain ⟨second, inDocuments', isCategory', candidate', rfl⟩ :=
    mem_cellCandidates_iff.mp otherMember
  obtain rfl := row_eq_of_id inDocuments inDocuments' same
  have splits := candidate.1.symm.trans candidate'.1
  rw [Option.some.injEq] at splits
  rw [splits, ← isCategory, isCategory']

/-- The next quota can start. -/
theorem QuotasDone.ready (selectable : Selectable inventory)
    (isDone : QuotasDone setting inventory done origin)
    (pending : (split, category) ∉ done) :
    QuotaReady origin split category := by
  constructor
  · rw [isDone.tables]
    exact selectable.tokenized
  · intro row member uses
    rw [isDone.tables] at member
    obtain ⟨selection, found⟩ := Option.isSome_iff_exists.mp uses
    obtain ⟨cell, cellDone, other, otherMember, same⟩ :=
      isDone.selected _ _ found
    exact pending (candidate_unique member otherMember same ▸ cellDone)
  · exact isDone.unstarted split category pending
  · exact isDone.counted

/-- A quota that is completed joins the complete ones. -/
theorem QuotasDone.next
    (isDone : QuotasDone setting inventory done origin)
    (ready : QuotaReady origin split category)
    (pending : (split, category) ∉ done)
    (completed : QuotaCompleted setting split category origin database) :
    QuotasDone setting inventory ((split, category) :: done) database := by
  have reached : QuotaReached setting split category origin database :=
    .inr completed
  obtain ⟨progress, point⟩ := completed.point
  constructor
  · rw [point.tables_eq, isDone.tables]
  · intro cell member
    rcases List.mem_cons.mp member with rfl | earlier
    · exact completed.settled ready
    · have different : cell ≠ (split, category) :=
        fun same => pending (same ▸ earlier)
      exact (isDone.settled cell earlier).frame ready different reached
  · intro otherSplit otherCategory new
    rw [List.mem_cons, not_or] at new
    have other : Subphase.selectionQuota otherSplit otherCategory ≠
        .selectionQuota split category := by
      rintro equal
      injection equal with sameSplit sameCategory
      exact new.1 (Prod.ext sameSplit sameCategory)
    rw [point.progress_of_ne other]
    exact isDone.unstarted otherSplit otherCategory new.2
  · intro docId selection found
    rw [point.lookup_iff ready, List.take_length] at found
    rcases found with ⟨row, member, rfl, -⟩ | earlier
    · obtain ⟨candidate, inCell, same⟩ := mem_cell_of_mem_plan member
      rw [isDone.tables] at inCell
      exact ⟨_, List.mem_cons_self .., candidate, inCell, by rw [same]⟩
    · obtain ⟨cell, member, candidate⟩ := isDone.selected docId selection
        earlier
      exact ⟨cell, List.mem_cons_of_mem _ member, candidate⟩
  · exact point.counted ready

/-- What runs of quotas leave. -/
theorem QuotaRuns.quotasDone (selectable : Selectable inventory)
    (runs : QuotaRuns setting inventory done database) :
    QuotasDone setting inventory done database := by
  induction runs with
  | start => exact selectable.quotasDone
  | next earlier pending survives called ended inductionHypothesis =>
      obtain ⟨batchSize, batches, rfl⟩ := called
      have ready := inductionHypothesis.ready selectable pending
      have reached := quotaReached_of_calls ready
        inductionHypothesis.settled pending survives
      exact inductionHypothesis.next ready pending
        ((selectQuota_wp ready batches reached).ok ended)

/-- After any runs, exactly the plans of the completed quotas are selected. -/
theorem QuotaRuns.selected_iff (selectable : Selectable inventory)
    (runs : QuotaRuns setting inventory done database)
    (docId : Digest) (selection : Selection) :
    database.selected.lookup docId = some selection ↔
      ∃ cell ∈ done,
        ∃ row ∈ quotaPlan setting inventory.tables cell.1 cell.2,
          docId = (ofLex row.1).2 ∧ selection = ⟨cell.1, row.2⟩ := by
  induction runs with
  | start => simp [selectable.unselected]
  | next earlier pending survives called ended inductionHypothesis =>
      obtain ⟨batchSize, batches, rfl⟩ := called
      have isDone := earlier.quotasDone selectable
      have ready := isDone.ready selectable pending
      have reached := quotaReached_of_calls ready isDone.settled pending
        survives
      obtain ⟨progress, point⟩ :=
        ((selectQuota_wp ready batches reached).ok ended).point
      rw [point.lookup_iff ready, List.take_length, inductionHypothesis,
        isDone.tables, List.exists_mem_cons_iff]

/-- Neither the order of the quotas nor the kills change what is selected. -/
theorem quotaRuns_selected_eq (selectable : Selectable inventory)
    {others : List (Split × Category)} {second : CurationDatabase}
    (runs : QuotaRuns setting inventory done database)
    (otherRuns : QuotaRuns setting inventory others second)
    (same : ∀ cell, cell ∈ done ↔ cell ∈ others) :
    database.selected = second.selected := by
  refine Table.ext_lookup fun docId => Option.ext fun selection => ?_
  rw [runs.selected_iff selectable, otherRuns.selected_iff selectable]
  simp only [same]

/-! ## The exact prefix -/

/-- A quota has selected the shortest prefix of its candidates that reaches
its target. -/
structure QuotaSelected (setting : CurationSetting)
    (origin : CurationDatabase) (split : Split) (category : Category)
    (final : CurationDatabase) : Prop where
  shortest : ∃ chosen front rest last remainder,
    ShortestPrefix (cellCandidates origin.tables split category).rows
        (setting.quotas.target split category) chosen front rest last
        remainder ∧
      tokensOf chosen = setting.quotas.target split category ∧
      ∀ docId selection, final.selected.lookup docId = some selection ↔
        (∃ row ∈ chosen, docId = (ofLex row.1).2 ∧
          selection = ⟨split, row.2⟩) ∨
          origin.selected.lookup docId = some selection
  determined : (selectionsOf (quotaPlan setting origin.tables split
    category)).foldlM (insertSelected split) origin.selected =
      .ok final.selected
  unchanged : final.tables = origin.tables
  accepted : ∃ progress,
    final.progress (.selectionQuota split category) = some progress ∧
      progress.status = .complete ∧
      progress.processedTokens = setting.quotas.target split category ∧
      validateQuotaPrefix setting split category progress final = .ok ()

theorem QuotaCompleted.quotaSelected
    (ready : QuotaReady origin split category)
    (completed : QuotaCompleted setting split category origin database) :
    QuotaSelected setting origin split category database := by
  have enough := completed.enough
  have settled := completed.settled ready
  obtain ⟨progress, point⟩ := completed.point
  obtain ⟨front, rest, last, remainder, isPrefix⟩ := exists_shortestPrefix
    (setting.quotas.positive split category) enough
  constructor
  · refine ⟨_, front, rest, last, remainder, isPrefix, ?_,
      fun docId selection => ?_⟩
    · rw [tokensOf_allot, min_eq_left enough]
    · rw [point.lookup_iff ready, List.take_length]
      rfl
  · exact completed.selected_eq
  · exact point.tables_eq
  · refine ⟨progress, point.progress_eq, point.status_eq, ?_,
      point.validated ready enough point.tables_eq rfl⟩
    rw [point.processedTokens_eq, List.take_length, quotaPlan,
      tokensOf_allot, min_eq_left enough]

/-- A quota selects the exact prefix: after any runs of other quotas and any
killed calls, the next call of `_select_quota_bounded` ends with the shortest
prefix that reaches the target, or raises exactly if the tokens of the
candidates do not reach it. -/
theorem selectQuota_shortest_prefix
    (selectable : Selectable inventory)
    (runs : QuotaRuns setting inventory done origin)
    (pending : (split, category) ∉ done)
    (survives : Program.Survives
      (QuotaCalls setting ((split, category) :: done)) Eq origin database)
    (batches : 1 ≤ batchSize) :
    (selectQuota setting batchSize split category).wp
      (fun _ final => setting.quotas.target split category ≤
          tokensOf (cellCandidates inventory.tables split category).rows ∧
        QuotaSelected setting origin split category final)
      (fun error _ => error = shortError ∧
        tokensOf (cellCandidates inventory.tables split category).rows <
          setting.quotas.target split category)
      (fun _ => True) database := by
  have isDone := runs.quotasDone selectable
  have ready := isDone.ready selectable pending
  have reached := quotaReached_of_calls ready isDone.settled pending survives
  rw [← isDone.tables]
  refine (selectQuota_wp ready batches reached).mono ?_ (fun _ _ => id)
    fun _ _ => trivial
  intro _ final completed
  exact ⟨completed.enough, completed.quotaSelected ready⟩

end Sequence

/-! ## A small inventory -/

/-- The small inventory with its only group in the test split. -/
def groupedDatabase : CurationDatabase :=
  { plainDatabase with
    tables := { plainTables with
      groups := Table.empty.upsert (Digest.ofNat 7) .test } }

theorem groupedDatabase_selectable : Selectable groupedDatabase where
  tokenized := by decide
  unselected := rfl
  unstarted := fun _ _ => rfl
  uncounted := rfl

theorem selectQuota_shortest_prefix_small :
    QuotaSelected plainSetting groupedDatabase .test .python
      ((selectQuota plainSetting 1 .test .python).run
        groupedDatabase).final := by
  have succeeds : ((selectQuota plainSetting 1 .test .python).run
      groupedDatabase).result = .ok () := rfl
  have ended := Program.wp.ok
    ( selectQuota_shortest_prefix groupedDatabase_selectable .start (by simp)
      .start le_rfl) succeeds
  exact ended.2

theorem quotaRuns_selected_eq_small :
    ((selectQuota plainSetting 1 .test .python).run
        groupedDatabase).final.selected =
      ((selectQuota plainSetting 2 .test .python).run
        groupedDatabase).final.selected :=
  quotaRuns_selected_eq groupedDatabase_selectable
    (.next .start (by simp) .start ⟨1, le_rfl, rfl⟩ rfl)
    (.next .start (by simp) .start ⟨2, one_le_two, rfl⟩ rfl) fun _ => .rfl

end CodingLlm
