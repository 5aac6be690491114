import CodingLlm.Scripts.CanonicalizeResult
import CodingLlm.Scripts.QuotaSelection

/-!
# The exact prefix of a quota

What a completed quota has selected, its validation, and runs with kills.
-/

namespace CodingLlm

open CrashLogic

/-! ## Validation -/

section Validation

variable {setting : CurationSetting} {origin database : CurationDatabase}
variable {split : Split} {category : Category} {progress : Progress}

theorem inPrefix_iff {cursor key : QuotaKey} :
    inPrefix cursor key = true ↔ key ≤ cursor := by
  rw [Prod.Lex.le_iff, inPrefix]
  simp

/-- Before the terminal row come the smaller keys. -/
theorem beforeTerminal_of_lt {cursor key : QuotaKey} (below : key < cursor) :
    beforeTerminal cursor key = true := by
  rw [Prod.Lex.lt_iff] at below
  rw [beforeTerminal, Bool.or_eq_true, decide_eq_true_eq, decide_eq_true_eq]
  rcases below with rank | ⟨-, docId⟩
  · exact .inl rank
  · exact .inr docId

theorem beforeTerminal_self (cursor : QuotaKey) :
    beforeTerminal cursor cursor = false := by
  simp [beforeTerminal]

/-- The rows that the validation reads are the planned candidates. -/
theorem perm_prefixRows {cursor : QuotaKey} :
    (category.buckets.flatMap
        (prefixRows origin.tables split cursor)).Perm
      ((cellCandidates origin.tables split category).upTo cursor) := by
  have upTo : (cellCandidates origin.tables split category).upTo cursor =
      (cellCandidates origin.tables split category).rows.filter fun row =>
        inPrefix cursor row.1 := by
    apply List.filter_congr
    intro row _
    rw [Bool.eq_iff_iff, inPrefix_iff, decide_eq_true_eq, not_lt]
  rw [upTo]
  exact perm_flatMap_buckets _

/-- The rows before the terminal one are summed up. -/
theorem tokensOf_before
    {rows front : List (QuotaKey × Nat)} {last : QuotaKey × Nat}
    (permuted : rows.Perm (front ++ [last]))
    (sorted : ∀ row ∈ front, row.1 < last.1) :
    ((rows.filter fun row => beforeTerminal last.1 row.1).map
      Prod.snd).sum = tokensOf front := by
  have kept : (front ++ [last]).filter (fun row =>
      beforeTerminal last.1 row.1) = front := by
    rw [List.filter_append, List.filter_eq_self.mpr fun row member =>
      beforeTerminal_of_lt (sorted row member)]
    simp [beforeTerminal_self]
  rw [((permuted.filter _).map Prod.snd).sum_nat, kept]
  rfl

/-- The terminal row of a selection. -/
theorem terminalTokens_eq
    {last : QuotaKey × Nat} {remainder : Nat}
    (tables : database.tables = origin.tables)
    (candidate : last ∈ (cellCandidates origin.tables split category).rows)
    (isSelected : database.selected.lookup (ofLex last.1).2 =
      some ⟨split, remainder⟩) :
    terminalTokens database split (ofLex last.1).2 =
      some (remainder, last.2) := by
  obtain ⟨document, inDocuments, -, -, isRow⟩ :=
    mem_cellCandidates_iff.mp candidate
  have docId : (ofLex last.1).2 = document.1 := by rw [← isRow]; rfl
  have tokens : document.2.tokens = last.2 := by rw [← isRow]; rfl
  have isDocument : database.tables.documents.lookup (ofLex last.1).2 =
      some document.2 := by
    rw [tables, docId, Table.lookup_eq_some_iff]
    exact inDocuments
  rw [terminalTokens, isSelected, isDocument]
  simp [tokens]

/-- The validation accepts what the loop selects, also after other
selections. -/
theorem validateQuotaPrefix_ok
    (enough : setting.quotas.target split category ≤
      tokensOf (cellCandidates origin.tables split category).rows)
    (cursor : progress.cursor =
      .rank ((cellCandidates origin.tables split category).cursorAt
        (quotaPlan setting origin.tables split category).length))
    (processed : progress.processedRows =
      (quotaPlan setting origin.tables split category).length)
    (tables : database.tables = origin.tables)
    (lookups : ∀ row ∈ quotaPlan setting origin.tables split category,
      database.selected.lookup (ofLex row.1).2 = some ⟨split, row.2⟩) :
    validateQuotaPrefix setting split category progress database = .ok () := by
  obtain ⟨front, rest, last, remainder, isPrefix⟩ := exists_shortestPrefix
    (setting.quotas.positive split category) enough
  have planned : quotaPlan setting origin.tables split category =
      front ++ [(last.1, remainder)] := isPrefix.chosen_eq
  have counted : (quotaPlan setting origin.tables split category).length =
      front.length + 1 := by
    rw [planned, List.length_append, List.length_singleton]
  have taken : (cellCandidates origin.tables split category).rows.take
      (front.length + 1) = front ++ [last] := by
    have split : front ++ last :: rest = (front ++ [last]) ++ rest := by
      rw [List.append_assoc, List.singleton_append]
    rw [isPrefix.rows_eq, split, List.take_left' (by simp)]
  have isCursor : (cellCandidates origin.tables split category).cursorAt
      (front.length + 1) = some last.1 := by
    rw [Table.cursorAt, taken, List.getLast?_concat]
    rfl
  have upTo : (cellCandidates origin.tables split category).upTo last.1 =
      front ++ [last] := by
    rw [Table.upTo_of_cursorAt _ isCursor, taken]
  rw [counted, isCursor] at cursor
  have permuted : (category.buckets.flatMap
      (prefixRows origin.tables split last.1)).Perm (front ++ [last]) :=
    upTo ▸ perm_prefixRows
  have sorted : ∀ row ∈ front, row.1 < last.1 := by
    have rows := (cellCandidates origin.tables split category).sorted
    rw [isPrefix.rows_eq] at rows
    intro row member
    exact (List.pairwise_append.mp rows).2.2 row member last
      (List.mem_cons_self ..)
  have before := tokensOf_before permuted sorted
  rw [planned] at lookups
  have length : (category.buckets.flatMap (prefixRows origin.tables split
      last.1)).length = progress.processedRows := by
    rw [permuted.length_eq, processed, counted, List.length_append,
      List.length_singleton]
  have missing : ((category.buckets.flatMap (prefixRows origin.tables split
      last.1)).filter fun row =>
        !decide (database.selected.Uses (ofLex row.1).2)).length = 0 := by
    rw [(permuted.filter _).length_eq, List.length_eq_zero_iff,
      List.filter_eq_nil_iff]
    intro row member
    rw [Bool.not_eq_true', decide_eq_false_iff_not, not_not, Table.Uses,
      Option.isSome_iff_exists]
    rcases List.mem_append.mp member with inFront | isLast
    · exact ⟨_, lookups row (List.mem_append_left _ inFront)⟩
    · obtain rfl := List.mem_singleton.mp isLast
      exact ⟨_, lookups (row.1, remainder)
        (List.mem_append_right _ (List.mem_singleton_self _))⟩
  have lastMember : last ∈
      (cellCandidates origin.tables split category).rows := by
    rw [isPrefix.rows_eq]
    exact List.mem_append_right _ (List.mem_cons_self ..)
  have terminal := terminalTokens_eq tables lastMember
    (lookups (last.1, remainder)
      (List.mem_append_right _ (List.mem_singleton_self _)))
  unfold validateQuotaPrefix
  rw [cursor]
  rw [← tables] at length missing before
  simp only
  rw [require_bind]
  · rfl
  · refine ⟨length, missing, _, terminal, ?_, isPrefix.positive,
      isPrefix.bounded⟩
    rw [before, Nat.add_comm]
    exact isPrefix.reached

end Validation

/-! ## One quota -/

/-- Calls of `_select_quota_bounded`, each with a batch size of its own. -/
def QuotaSelections (setting : CurationSetting) (split : Split)
    (category : Category) (program : CurationProgram Unit) : Prop :=
  ∃ batchSize, 1 ≤ batchSize ∧
    program = selectQuota setting batchSize split category

section Quotas

variable {setting : CurationSetting} {origin database : CurationDatabase}
variable {split : Split} {category : Category} {batchSize : Nat}
variable {progress : Progress}

/-- The whole plan of a quota has been selected. -/
theorem QuotaCompleted.selected_eq
    (completed : QuotaCompleted setting split category origin database) :
    (selectionsOf (quotaPlan setting origin.tables split category)).foldlM
      (insertSelected split) origin.selected = .ok database.selected := by
  obtain ⟨progress, point⟩ := completed.point
  have selected := point.selected
  rwa [List.take_length] at selected

/-- What has been selected after a number of documents. -/
theorem QuotaPoint.lookup_iff (ready : QuotaReady origin split category)
    {status : ProgressStatus} {count : Nat}
    (point : QuotaPoint setting origin split category status count progress
      database)
    (docId : Digest) (selection : Selection) :
    database.selected.lookup docId = some selection ↔
      (∃ row ∈ (quotaPlan setting origin.tables split category).take count,
        docId = (ofLex row.1).2 ∧ selection = ⟨split, row.2⟩) ∨
        origin.selected.lookup docId = some selection := by
  obtain ⟨final, inserted, lookups⟩ := exists_selected setting ready count
  rw [point.selected] at inserted
  obtain rfl := Except.ok.inj inserted
  exact lookups docId selection

/-- The validation accepts the progress at the end of a plan. -/
theorem QuotaPoint.validated (ready : QuotaReady origin split category)
    {status : ProgressStatus} {final : CurationDatabase}
    (enough : setting.quotas.target split category ≤
      tokensOf (cellCandidates origin.tables split category).rows)
    (point : QuotaPoint setting origin split category status
      (quotaPlan setting origin.tables split category).length progress
      database)
    (tables : final.tables = origin.tables)
    (selected : final.selected = database.selected) :
    validateQuotaPrefix setting split category progress final = .ok () := by
  obtain ⟨batches, isProgress, -⟩ := point.reached
  refine validateQuotaPrefix_ok enough point.cursor_eq
    (by rw [isProgress]; rfl) tables fun row member => ?_
  rw [selected, point.lookup_iff ready, List.take_length]
  exact .inl ⟨row, member, rfl, rfl⟩

/-- A quota that reached its target is completed. -/
theorem completeSubphase_quota_wp
    {crash : CurationDatabase -> Prop}
    (enough : setting.quotas.target split category ≤
      tokensOf (cellCandidates origin.tables split category).rows)
    (crashes : ∀ final,
      QuotaCompleted setting split category origin final -> crash final)
    (point : QuotaPoint setting origin split category .running
      (quotaPlan setting origin.tables split category).length progress
      database) :
    (completeSubphase (.selectionQuota split category)).wp
      (fun _ final => QuotaCompleted setting split category origin final ∧
        final.selected = database.selected ∧ final.tables = origin.tables)
      (fun _ _ => False) crash database := by
  obtain ⟨batches, isProgress, isDatabase⟩ := point.reached
  have found := point.progress_eq
  have completed : QuotaCompleted setting split category origin
      (database.setProgress (.selectionQuota split category)
        { progress with status := .complete }) := by
    refine ⟨enough, { progress with status := .complete }, le_rfl,
      point.selected, batches, ?_, ?_⟩
    · rw [isProgress]
      rfl
    · rw [isDatabase]
      simp only [CurationDatabase.setProgress, Function.update_idem]
  unfold completeSubphase
  rw [Program.wp_effect]
  simp only [found]
  exact ⟨crashes _ completed, completed, rfl, point.tables_eq⟩

/-- The progress that a quota finds or inserts, from wherever it was left. -/
theorem startSubphase_quota_wp
    (ready : QuotaReady origin split category)
    (reached : QuotaReached setting split category origin database) :
    (startSubphase (.selectionQuota split category) (.rank none)).wp
      (fun progress final =>
        (∃ count, QuotaPoint setting origin split category .running count
          progress final) ∨
        (final = database ∧
          setting.quotas.target split category ≤
            tokensOf (cellCandidates origin.tables split category).rows ∧
          QuotaPoint setting origin split category .complete
            (quotaPlan setting origin.tables split category).length progress
            final))
      (fun _ _ => False)
      (QuotaReached setting split category origin) database := by
  unfold startSubphase
  apply Program.wp_query_bind
  rcases reached with (rfl | ⟨count, progress, point⟩) | completed
  · rw [ready.unstarted]
    have first : QuotaPoint setting database split category .running 0 _ _ :=
      quotaDatabase_point .running 0 (Nat.zero_le _) rfl
    apply Program.wp_commit_bind (.inl (.inr ⟨0, _, first⟩))
    rw [Program.wp_pure]
    exact .inl ⟨0, first⟩
  · rw [point.progress_eq]
    exact (Program.wp_pure _).mpr (.inl ⟨count, point⟩)
  · obtain ⟨progress, point⟩ := completed.point
    rw [point.progress_eq]
    exact (Program.wp_pure _).mpr (.inr ⟨rfl, completed.enough, point⟩)

/-- The loop over a quota and its completion. -/
theorem fillQuota_wp (ready : QuotaReady origin split category)
    (batches : 1 ≤ batchSize)
    {count : Nat}
    (point : QuotaPoint setting origin split category .running count progress
      database) :
    (fillQuota setting batchSize split category progress).wp
      (fun _ final => QuotaCompleted setting split category origin final)
      (fun error _ => error = shortError ∧
        tokensOf (cellCandidates origin.tables split category).rows <
          setting.quotas.target split category)
      (QuotaReached setting split category origin) database := by
  have bounded : progress.processedTokens ≤
      setting.quotas.target split category := by
    rw [point.processedTokens_eq]
    exact tokensOf_take_le count
  unfold fillQuota
  rw [Program.wp_bind]
  apply wp_checkThat (fun _ => ?_) (absurd bounded)
  rw [Program.wp_bind]
  have entry : QuotaLoopState setting origin split category
      ⟨progress, setting.quotas.target split category -
        progress.processedTokens⟩ database :=
    ⟨count, point, by rw [point.processedTokens_eq]⟩
  refine (quotaLoop_wp ready batches
    (fun count progress database point => .inl (.inr ⟨count, progress, point⟩))
    entry).weaken ?_
  rintro last final ⟨whole, enough⟩
  have reached : last.progress.processedTokens =
      setting.quotas.target split category := by
    rw [whole.processedTokens_eq, List.take_length, quotaPlan, tokensOf_allot,
      min_eq_left enough]
  rw [Program.wp_bind]
  apply wp_checkThat (fun _ => ?_) (absurd reached)
  rw [Program.wp_bind]
  refine (completeSubphase_quota_wp enough (fun _ => .inr) whole).mono ?_
    (fun _ _ => False.elim) fun _ => id
  rintro _ after ⟨completed, selected, tables⟩
  rw [checkQuotaPrefix, Program.wp_inspect_ok
    (whole.validated ready enough tables selected)]
  exact completed

/-- One call of `_select_quota_bounded`. -/
theorem selectQuota_wp (ready : QuotaReady origin split category)
    (batches : 1 ≤ batchSize)
    (reached : QuotaReached setting split category origin database) :
    (selectQuota setting batchSize split category).wp
      (fun _ final => QuotaCompleted setting split category origin final)
      (fun error _ => error = shortError ∧
        tokensOf (cellCandidates origin.tables split category).rows <
          setting.quotas.target split category)
      (QuotaReached setting split category origin) database := by
  unfold selectQuota
  rw [Program.wp_bind]
  refine (startSubphase_quota_wp ready reached).mono ?_
    (fun _ _ => False.elim) fun _ => id
  intro progress current entered
  apply Program.wp_query_bind
  rw [Program.wp_bind]
  rcases entered with ⟨count, point⟩ | ⟨-, enough, point⟩
  · apply wp_checkThat (fun _ => ?_) (absurd (point.counted ready))
    have running : progress.status ≠ .complete := by
      rw [point.status_eq]
      decide
    rw [if_neg running]
    exact fillQuota_wp ready batches point
  · apply wp_checkThat (fun _ => ?_) (absurd (point.counted ready))
    have reached : progress.processedTokens =
        setting.quotas.target split category := by
      rw [point.processedTokens_eq, List.take_length, quotaPlan,
        tokensOf_allot, min_eq_left enough]
    rw [if_pos point.status_eq, Program.wp_bind]
    apply wp_checkThat (fun _ => ?_) (absurd reached)
    rw [checkQuotaPrefix, Program.wp_inspect_ok
      (point.validated ready enough point.tables_eq rfl)]
    exact ⟨enough, progress, point⟩

end Quotas

end CodingLlm
