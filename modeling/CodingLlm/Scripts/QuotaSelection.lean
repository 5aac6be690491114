import CodingLlm.Scripts.QuotaRuns

/-!
# The selection of a quota

One batch of a quota, the loop over its batches, and the validation of what
they leave.
-/

namespace CodingLlm

open CrashLogic

section Allotment

variable {κ : Type}

/-- Rows with tokens are allotted tokens. -/
theorem allot_tokenized
    {target : Nat} {rows : List (κ × Nat)}
    (tokenized : ∀ row ∈ rows, 1 ≤ row.2) :
    ∀ row ∈ allot target rows, 1 ≤ row.2 := by
  induction rows generalizing target with
  | nil => simp [allot]
  | cons row rest inductionHypothesis =>
      rw [List.forall_mem_cons] at tokenized
      obtain ⟨rowPositive, restPositive⟩ := tokenized
      unfold allot
      split
      · simp
      · rw [List.forall_mem_cons]
        refine ⟨?_, inductionHypothesis restPositive⟩
        simp only
        omega

/-- Rows with tokens have at least one token together. -/
theorem tokensOf_pos
    {rows : List (κ × Nat)} (tokenized : ∀ row ∈ rows, 1 ≤ row.2)
    (nonempty : rows ≠ []) : 1 ≤ tokensOf rows := by
  cases rows with
  | nil => exact absurd rfl nonempty
  | cons row rest =>
      have := tokenized row (List.mem_cons_self ..)
      rw [tokensOf_cons]
      omega

end Allotment

theorem selectionsOf_append (front back : List (QuotaKey × Nat)) :
    selectionsOf (front ++ back) = selectionsOf front ++ selectionsOf back :=
  List.map_append

section Cells

variable {setting : CurationSetting} {origin database : CurationDatabase}
variable {split : Split} {category : Category}
variable {status : ProgressStatus} {count : Nat} {progress : Progress}

/-- Candidates have tokens. -/
theorem QuotaReady.candidate_tokens (ready : QuotaReady origin split category) :
    ∀ row ∈ (cellCandidates origin.tables split category).rows,
      1 ≤ row.2 := by
  intro row member
  obtain ⟨document, inDocuments, -, -, rfl⟩ :=
    mem_cellCandidates_iff.mp member
  exact ready.tokenized document inDocuments

/-- Planned rows have tokens. -/
theorem QuotaReady.plan_tokens (ready : QuotaReady origin split category) :
    ∀ row ∈ quotaPlan setting origin.tables split category, 1 ≤ row.2 :=
  allot_tokenized ready.candidate_tokens

/-- The cursor after a number of candidates is the last planned key. -/
theorem cursorAt_plan
    (inRange : count ≤ (quotaPlan setting origin.tables split
      category).length) :
    (cellCandidates origin.tables split category).cursorAt count =
      ((quotaPlan setting origin.tables split category).take
        count).getLast?.map Prod.fst := by
  have keys := keys_allot (setting.quotas.target split category)
    (cellCandidates origin.tables split category).rows
  have taken : ((quotaPlan setting origin.tables split category).take
      count).map Prod.fst =
      ((cellCandidates origin.tables split category).rows.take
        count).map Prod.fst := by
    rw [quotaPlan] at inRange ⊢
    rw [List.map_take, List.map_take, keys, List.take_take,
      min_eq_left inRange]
  rw [Table.cursorAt, ← List.getLast?_map, ← List.getLast?_map, taken]

/-- What is left of the plan is allotted to the candidates that are left. -/
theorem plan_drop :
    (quotaPlan setting origin.tables split category).drop count =
      allot (setting.quotas.target split category -
          tokensOf ((quotaPlan setting origin.tables split category).take
            count))
        ((cellCandidates origin.tables split category).rows.drop count) :=
  allot_drop _ _ _

/-- A plan that ends early has all candidates. -/
theorem tokens_lt_of_plan_end
    (more : tokensOf ((quotaPlan setting origin.tables split category).take
      count) < setting.quotas.target split category)
    (ended : (quotaPlan setting origin.tables split category).drop count =
      []) :
    tokensOf (cellCandidates origin.tables split category).rows <
      setting.quotas.target split category := by
  have all : (quotaPlan setting origin.tables split category).take count =
      quotaPlan setting origin.tables split category := by
    have parts := List.take_append_drop count
      (quotaPlan setting origin.tables split category)
    rwa [ended, List.append_nil] at parts
  have whole := tokensOf_allot (setting.quotas.target split category)
    (cellCandidates origin.tables split category).rows
  rw [← quotaPlan] at whole
  rw [all, whole] at more
  omega

/-- A plan whose tokens reach the target ends there. -/
theorem plan_end
    (reached : tokensOf ((quotaPlan setting origin.tables split
      category).take count) = setting.quotas.target split category) :
    (quotaPlan setting origin.tables split category).drop count = [] := by
  rw [plan_drop, reached, Nat.sub_self, allot_zero]

end Cells

/-! ## One batch -/

/-- The database after a number of documents of a quota. -/
def quotaDatabase (setting : CurationSetting) (origin : CurationDatabase)
    (split : Split) (category : Category) (status : ProgressStatus)
    (count batches : Nat) (selected : Table Digest Selection) :
    CurationDatabase :=
  { origin with
    selected := selected
    durable := { origin.durable with
      selectedDocuments := origin.durable.selectedDocuments + count }
    }.setProgress (.selectionQuota split category)
      (quotaProgress setting origin.tables split category status count batches)

section Batches

variable {setting : CurationSetting} {origin database : CurationDatabase}
variable {split : Split} {category : Category} {batchSize count : Nat}
variable {progress : Progress} {crash : CurationDatabase -> Prop}

theorem quotaDatabase_point
    (status : ProgressStatus)
    (batches : Nat)
    {selected : Table Digest Selection}
    (inRange : count ≤ (quotaPlan setting origin.tables split category).length)
    (inserted : (selectionsOf ((quotaPlan setting origin.tables split
      category).take count)).foldlM (insertSelected split) origin.selected =
        .ok selected) :
    QuotaPoint setting origin split category status count
      (quotaProgress setting origin.tables split category status count batches)
      (quotaDatabase setting origin split category status count batches
        selected) :=
  ⟨inRange, inserted, batches, rfl, rfl⟩

/-- The next batch of a plan. -/
def planBatch (setting : CurationSetting) (tables : CurationTables)
    (split : Split) (category : Category) (batchSize count : Nat) :
    List (QuotaKey × Nat) :=
  ((quotaPlan setting tables split category).drop count).take batchSize

/-- The loop over the candidates finds the next batch of the plan. -/
theorem QuotaReady.fillBatch_eq (ready : QuotaReady origin split category)
    (batches : 1 ≤ batchSize)
    (more : tokensOf ((quotaPlan setting origin.tables split category).take
      count) < setting.quotas.target split category) :
    let next := planBatch setting origin.tables split category batchSize count
    fillBatch batchSize
        (setting.quotas.target split category -
          tokensOf ((quotaPlan setting origin.tables split category).take
            count))
        (mergedQuotaCandidates origin.tables split category
          ((cellCandidates origin.tables split category).cursorAt count))
        ⟨[], 0, none⟩ =
      ⟨selectionsOf next, tokensOf next, next.getLast?.map Prod.fst⟩ := by
  have tokenized : ∀ row ∈
      (cellCandidates origin.tables split category).rows.drop count,
      1 ≤ row.2 :=
    fun row member => ready.candidate_tokens row (List.mem_of_mem_drop member)
  rw [mergedQuotaCandidates_eq, Table.fromCursor_cursorAt,
    CodingLlm.fillBatch_eq tokenized batches (by simp only; omega)]
  simp only [planBatch, plan_drop, Nat.sub_zero, List.length_nil,
    List.nil_append, Nat.zero_add, Option.or_none]

/-- The plan up to the end of the next batch. -/
theorem take_planBatch :
    (quotaPlan setting origin.tables split category).take (count +
        (planBatch setting origin.tables split category batchSize
          count).length) =
      (quotaPlan setting origin.tables split category).take count ++
        planBatch setting origin.tables split category batchSize count := by
  rw [List.take_add]
  congr 1
  rw [planBatch, List.length_take, List.take_eq_take_iff]
  omega

/-- The tokens up to the end of the next batch. -/
theorem tokensOf_take_planBatch :
    tokensOf ((quotaPlan setting origin.tables split category).take (count +
        (planBatch setting origin.tables split category batchSize
          count).length)) =
      tokensOf ((quotaPlan setting origin.tables split category).take count) +
        tokensOf (planBatch setting origin.tables split category batchSize
          count) := by
  rw [take_planBatch, tokensOf_append]

/-- A committed batch. -/
theorem QuotaPoint.advance (ready : QuotaReady origin split category)
    (crashes : ∀ count progress database,
      QuotaPoint setting origin split category .running count progress
        database -> crash database)
    (point : QuotaPoint setting origin split category .running count progress
      database)
    {last : QuotaKey × Nat}
    (isLast : (planBatch setting origin.tables split category batchSize
      count).getLast? = some last) :
    let next := planBatch setting origin.tables split category batchSize count
    (commitQuotaBatch split category
        ⟨selectionsOf next, tokensOf next, some last.1⟩ last.1).wp
      (fun nextProgress final => QuotaPoint setting origin split category
        .running (count + next.length) nextProgress final)
      (fun _ _ => False) crash database := by
  intro next
  have nonempty : next ≠ [] := by
    rintro isEmpty
    rw [planBatch] at isLast
    simp only [next, planBatch] at isEmpty
    rw [isEmpty] at isLast
    cases isLast
  have positive : 1 ≤ (selectionsOf next).length := by
    rw [selectionsOf, List.length_map]
    exact List.length_pos_iff.mpr nonempty
  have taken : (quotaPlan setting origin.tables split category).take
      (count + next.length) =
      (quotaPlan setting origin.tables split category).take count ++ next :=
    take_planBatch
  have inRange : count + next.length ≤
      (quotaPlan setting origin.tables split category).length := by
    have lengths := congrArg List.length taken
    rw [List.length_append, List.length_take, List.length_take,
      min_eq_left point.inRange] at lengths
    omega
  have cursor : (cellCandidates origin.tables split category).cursorAt
      (count + next.length) = some last.1 := by
    rw [cursorAt_plan inRange, taken, List.getLast?_append_of_ne_nil _
      nonempty, isLast]
    rfl
  obtain ⟨selected, inserted, -⟩ :=
    exists_selected setting ready (count + next.length)
  have insertedNext : (selectionsOf next).foldlM (insertSelected split)
      database.selected = .ok selected := by
    rw [taken, selectionsOf_append, insertSelected_append point.selected]
      at inserted
    exact inserted
  obtain ⟨batches, isProgress, isDatabase⟩ := point.reached
  have running : progress.status = .running := point.status_eq
  have nextProgress : progress.next (.rank (some last.1))
      (selectionsOf next).length (tokensOf next) none =
        quotaProgress setting origin.tables split category .running
          (count + next.length) (batches + 1) := by
    rw [isProgress]
    simp only [Progress.next, quotaProgress, cursor, taken, tokensOf_append,
      selectionsOf, List.length_map, Option.getD_none]
  have found : ({ database with
      selected := selected
      durable := { database.durable with
        selectedDocuments := database.durable.selectedDocuments +
          (selectionsOf next).length } } :
        CurationDatabase).progress (.selectionQuota split category) =
      some progress := point.progress_eq
  have final := quotaDatabase_point .running (batches + 1) inRange inserted
  apply (Program.wp_effect_ok _).mpr ⟨crashes _ _ _ final, final⟩
  simp only [insertedNext, checked_ok_bind]
  rw [commitBoundedBatch_eq found running positive, nextProgress, isDatabase]
  simp only [quotaDatabase, CurationDatabase.setProgress,
    Function.update_idem, selectionsOf, List.length_map, Nat.add_assoc]

/-- The variables of the loop over a quota that has selected a number of
documents. -/
def QuotaLoopState (setting : CurationSetting) (origin : CurationDatabase)
    (split : Split) (category : Category) (loop : QuotaLoop)
    (database : CurationDatabase) : Prop :=
  ∃ count,
    QuotaPoint setting origin split category .running count loop.progress
        database ∧
      loop.remaining = setting.quotas.target split category -
        tokensOf ((quotaPlan setting origin.tables split category).take count)

/-- One turn of the loop selects the next batch, or finds too few tokens. -/
theorem quotaStep_wp (ready : QuotaReady origin split category)
    (batches : 1 ≤ batchSize)
    (crashes : ∀ count progress database,
      QuotaPoint setting origin split category .running count progress
        database -> crash database)
    {loop : QuotaLoop}
    (holds : QuotaLoopState setting origin split category loop database)
    (more : loop.remaining ≠ 0) :
    (quotaStep batchSize split category loop).wp
      (fun next final =>
        QuotaLoopState setting origin split category next final ∧
          next.remaining < loop.remaining)
      (fun error _ => error = shortError ∧
        tokensOf (cellCandidates origin.tables split category).rows <
          setting.quotas.target split category)
      crash database := by
  obtain ⟨count, point, remaining⟩ := holds
  have unreached : tokensOf ((quotaPlan setting origin.tables split
      category).take count) < setting.quotas.target split category := by
    omega
  have cursor : quotaCursor loop.progress =
      .ok ((cellCandidates origin.tables split category).cursorAt count) := by
    rw [quotaCursor, point.cursor_eq]
  unfold quotaStep
  apply Program.wp_lift_bind cursor
  apply Program.wp_query_bind
  rw [point.tables_eq, remaining, ready.fillBatch_eq batches unreached]
  simp only
  cases isLast : (planBatch setting origin.tables split category batchSize
    count).getLast? with
  | none =>
      rw [List.getLast?_eq_none_iff, planBatch, List.take_eq_nil_iff] at isLast
      have ended := isLast.resolve_left (by omega)
      exact (Program.wp_raise _).mpr
        ⟨rfl, tokens_lt_of_plan_end unreached ended⟩
  | some last =>
      rw [Option.map_some, Program.wp_bind]
      refine ((point.advance ready crashes isLast).mono ?_ ?_
        fun _ => id)
      · intro progress final next
        rw [Program.wp_pure]
        have nonempty : planBatch setting origin.tables split category
            batchSize count ≠ [] := by
          rintro isEmpty
          rw [isEmpty] at isLast
          cases isLast
        have positive : 1 ≤ tokensOf (planBatch setting origin.tables split
            category batchSize count) :=
          tokensOf_pos (fun row member => ready.plan_tokens row
            (List.mem_of_mem_drop (List.mem_of_mem_take member))) nonempty
        refine ⟨⟨_, next, ?_⟩, ?_⟩
        · rw [tokensOf_take_planBatch, Nat.sub_add_eq]
        · simp only
          omega
      · exact fun _ _ => False.elim

/-- The loop ends with the whole plan, or finds too few tokens. -/
theorem quotaLoop_wp (ready : QuotaReady origin split category)
    (batches : 1 ≤ batchSize)
    (crashes : ∀ count progress database,
      QuotaPoint setting origin split category .running count progress
        database -> crash database)
    {loop : QuotaLoop}
    (holds : QuotaLoopState setting origin split category loop database) :
    (Program.whileLoop (.assertionError "Quota loop made no progress")
        (fun loop => decide (loop.remaining ≠ 0))
        (quotaStep batchSize split category) loop.remaining loop).wp
      (fun last final => QuotaPoint setting origin split category .running
          (quotaPlan setting origin.tables split category).length
          last.progress final ∧
        setting.quotas.target split category ≤
          tokensOf (cellCandidates origin.tables split category).rows)
      (fun error _ => error = shortError ∧
        tokensOf (cellCandidates origin.tables split category).rows <
          setting.quotas.target split category)
      crash database := by
  refine (Program.wp_whileLoop
    (QuotaLoopState setting origin split category) QuotaLoop.remaining
    ?_ ?_ le_rfl holds).weaken ?_
  · intro value current state more
    exact quotaStep_wp ready batches crashes state (of_decide_eq_true more)
  · intro value current _ more
    exact Nat.pos_of_ne_zero (of_decide_eq_true more)
  · rintro last final ⟨⟨count, point, remaining⟩, ended⟩
    have isZero : last.remaining = 0 := by simpa using ended
    have bounded : tokensOf ((quotaPlan setting origin.tables split
        category).take count) ≤ setting.quotas.target split category :=
      tokensOf_take_le count
    have reached : tokensOf ((quotaPlan setting origin.tables split
        category).take count) = setting.quotas.target split category := by
      omega
    have drop := plan_end reached
    have all : count =
        (quotaPlan setting origin.tables split category).length := by
      have := point.inRange
      rw [List.drop_eq_nil_iff] at drop
      omega
    have whole := tokensOf_allot (setting.quotas.target split category)
      (cellCandidates origin.tables split category).rows
    rw [all, List.take_length, quotaPlan, whole] at reached
    exact ⟨all ▸ point, by omega⟩

end Batches

end CodingLlm
