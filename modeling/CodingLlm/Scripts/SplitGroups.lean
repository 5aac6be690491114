import CodingLlm.Scripts.QuotaSequence

/-!
# Groups do not leak between splits

The groups of the surviving documents get their splits wherever runs are
killed, so that documents of different splits share neither a content hash nor
a final cluster nor a group. Neither do those that the quotas then select.
-/

namespace CodingLlm

open CrashLogic

variable {setting : CurationSetting}

/-! ## What the loop writes -/

/-- Every digest lies below the last threshold. -/
theorem exists_assignGroupSplit (setting : CurationSetting)
    (groupId : Digest) :
    ∃ split, setting.assignGroupSplit groupId = .ok split := by
  unfold CurationSetting.assignGroupSplit splitThresholds
  generalize setting.stableDigestBytes _ groupId = digest
  have below : digest.leadingWord < 2 ^ 64 := by
    apply Nat.div_lt_of_lt_mul
    rw [← pow_add]
    exact digest.isLt
  simp only [splitOfValue, below, if_true]
  split
  · exact ⟨_, rfl⟩
  · split <;> exact ⟨_, rfl⟩

theorem groupsPass_writes {base : CurationTables}
    (isEmpty : base.groups = Table.empty) :
    (groupsPass setting).Writes base
      { base with groups := assignedGroups setting base } := by
  have inserts : (canonicalPass .selectionGroups Split (assignedGroups setting)
      groupsField.insert).Writes base _ :=
    KeysetPass.writes_of_insert groupsField isEmpty fun _ => rfl
  exact ⟨⟨inserts.sound.stable, inserts.sound.writes⟩, inserts.whole⟩

/-! ## Runs -/

/-- A canonicalized database without groups. -/
structure Unassigned (canonical : CurationDatabase) : Prop where
  phase : canonical.phase = .canonicalized
  groups : canonical.tables.groups = Table.empty
  unstarted : canonical.progress .selectionGroups = none

/-- Where a kill can leave the assignment. -/
def GroupsReached (setting : CurationSetting)
    (canonical database : CurationDatabase) : Prop :=
  (groupsPass setting).Started canonical database ∨
    (groupsPass setting).Completed canonical database

section Runs

variable {canonical database : CurationDatabase} {batchSize : Nat}
variable {status : ProgressStatus} {progress : Progress}

theorem groups_of_whole (unassigned : Unassigned canonical)
    (point : (groupsPass setting).Point canonical status
      ((groupsPass setting).rows canonical.tables).length progress
      database) :
    database.tables = { canonical.tables with
      groups := assignedGroups setting canonical.tables } := by
  have written := point.written
  rw [KeysetPass.written, List.take_length] at written
  exact Except.ok.inj
    (written.symm.trans (groupsPass_writes unassigned.groups).whole)

/-- The checks accept what the loop wrote. -/
theorem checkGroups_wp (unassigned : Unassigned canonical)
    {fail : PyError -> CurationDatabase -> Prop}
    {crash : CurationDatabase -> Prop}
    (point : (groupsPass setting).Point canonical status
      ((groupsPass setting).rows canonical.tables).length progress
      database) (text : String) :
    (checkGroups setting progress.processedRows text).wp
      (fun _ final => final = database) fail crash database := by
  unfold checkGroups
  apply Program.wp_query_bind
  rw [groups_of_whole unassigned point, point.processedRows_eq]
  exact wp_checkThat (fun _ => rfl) (absurd ⟨rfl, fun _ => id, rfl⟩)

/-- A run continues wherever a kill has left the assignment, and ends it. -/
theorem assignGroups_wp (unassigned : Unassigned canonical)
    (batches : 1 ≤ batchSize)
    (reached : GroupsReached setting canonical database) :
    (assignGroups setting batchSize).wp
      (fun _ final => (groupsPass setting).Completed canonical final)
      (fun _ _ => False) (GroupsReached setting canonical) database := by
  unfold assignGroups
  apply Program.wp_query_bind
  have phase : database.phase = .canonicalized := by
    rcases reached with started | completed
    · rw [started.sameOutside.phase, unassigned.phase]
    · rw [completed.sameOutside.phase, unassigned.phase]
  rw [if_neg (not_not.mpr phase), Program.wp_bind]
  rcases reached with started | ⟨progress, point⟩
  · refine (KeysetPass.run_wp batches
      (groupsPass_writes unassigned.groups).sound
      (fun _ _ _ point => .inl (.inr ⟨_, _, point⟩)) unassigned.unstarted
      started).weaken ?_
    intro progress middle point
    have running : ¬progress.status = .complete := by
      rw [point.status_eq]
      exact fun impossible => by cases impossible
    rw [if_neg running, Program.wp_bind]
    refine (checkGroups_wp unassigned point _).weaken ?_
    rintro _ _ rfl
    have found : _ = some progress := point.progress_eq
    unfold groupsPass at found
    rw [completeSubphase, Program.wp_effect, found]
    exact ⟨.inr ⟨_, point.complete⟩, _, point.complete⟩
  · unfold KeysetPass.run startSubphase
    rw [Program.wp_bind]
    apply Program.wp_query_bind
    rw [point.progress_eq]
    simp only [Program.wp_pure, point.status_eq, if_true]
    refine (checkGroups_wp unassigned point _).weaken ?_
    rintro _ _ rfl
    exact ⟨_, point⟩

end Runs

/-! ## No leakage -/

/-- Documents with nothing in common that could leak. -/
def Document.Apart (first second : Document) : Prop :=
  first.contentHash ≠ second.contentHash ∧
    first.finalCluster ≠ second.finalCluster ∧
    first.sourceGroup ≠ second.sourceGroup

/-- Every group of a survivor has the split of its digest and there are no
others; survivors of different splits share nothing. -/
structure SplitsIsolated (setting : CurationSetting)
    (tables : CurationTables) : Prop where
  assigned : ∀ groupId split, tables.groups.lookup groupId = some split ↔
    (∃ row ∈ acceptedRows tables, row.2.sourceGroup = groupId) ∧
      setting.assignGroupSplit groupId = .ok split
  grouped : ∀ row ∈ acceptedRows tables,
    ∃ split, tables.groups.lookup row.2.sourceGroup = some split
  isolated : ∀ first ∈ acceptedRows tables, ∀ second ∈ acceptedRows tables,
    tables.groups.lookup first.2.sourceGroup ≠
        tables.groups.lookup second.2.sourceGroup ->
      first.2.Apart second.2

theorem Canonicalized.splitsIsolated
    {ingested settled tables : CurationTables}
    (canonicalized : Canonicalized setting ingested settled tables) :
    SplitsIsolated setting
      { tables with groups := assignedGroups setting tables } := by
  have assigned (groupId : Digest) (split : Split) :
      (assignedGroups setting tables).lookup groupId = some split ↔
        (∃ row ∈ acceptedRows tables, row.2.sourceGroup = groupId) ∧
          setting.assignGroupSplit groupId = .ok split := by
    rw [assignedGroups, Table.lookup_filterMap, Option.bind_eq_some_iff,
      exists_and_right, ← Table.mem_keys_iff, Table.mem_keys_distinct,
      List.mem_map]
    cases setting.assignGroupSplit groupId <;> simp [Except.toOption]
  refine ⟨assigned, fun row member => ?_, fun first firstMember second
    secondMember different => ?_⟩
  · obtain ⟨split, isSplit⟩ :=
      exists_assignGroupSplit setting row.2.sourceGroup
    exact ⟨split, (assigned _ _).mpr ⟨⟨row, member, rfl⟩, isSplit⟩⟩
  · have apart (shared : first.2.contentHash = second.2.contentHash ∨
        first.2.finalCluster = second.2.finalCluster) : False :=
      different (by
        rw [canonicalized.distinct first firstMember second secondMember
          shared])
    exact ⟨fun same => apart (.inl same), fun same => apart (.inr same),
      fun same => different (by rw [same])⟩

/-- Calls of the assignment, each with a batch size of its own. -/
def GroupAssignments (setting : CurationSetting)
    (program : CurationProgram Unit) : Prop :=
  ∃ batchSize, 1 ≤ batchSize ∧ program = assignGroups setting batchSize

/-- The small inventory after its canonicalization. -/
def canonicalDatabase : CurationDatabase :=
  { plainDatabase with
    phase := .canonicalized
    tables := canonicalTables plainSetting plainTables }

section Selections

variable {inventory database : CurationDatabase}
variable {done : List (Split × Category)}

/-- What is selected qualifies for the split it is selected for. -/
theorem QuotaRuns.isCandidate (selectable : Selectable inventory)
    (runs : QuotaRuns setting inventory done database)
    {document : Digest × Document} {selection : Selection}
    (member : document ∈ inventory.tables.documents.rows)
    (found : database.selected.lookup document.1 = some selection) :
    inventory.tables.IsCandidate selection.split document := by
  obtain ⟨cell, -, row, inPlan, isDocument, rfl⟩ :=
    (runs.selected_iff selectable _ _).mp found
  obtain ⟨candidate, inCell, same⟩ := mem_cell_of_mem_plan inPlan
  obtain ⟨other, inDocuments, -, qualifies, rfl⟩ :=
    mem_cellCandidates_iff.mp inCell
  rw [← same] at isDocument
  obtain rfl := row_eq_of_id member inDocuments isDocument
  exact qualifies

/-- Documents selected for different splits share nothing. -/
def SelectionsIsolated (database : CurationDatabase) : Prop :=
  ∀ first ∈ database.tables.documents.rows,
    ∀ second ∈ database.tables.documents.rows, ∀ one other,
      database.selected.lookup first.1 = some one ->
        database.selected.lookup second.1 = some other ->
          one.split ≠ other.split -> first.2.Apart second.2

end Selections

/-- The small inventory after its assignment. -/
def assignedDatabase : CurationDatabase :=
  { canonicalDatabase with
    tables := { canonicalDatabase.tables with
      groups := assignedGroups plainSetting canonicalDatabase.tables } }

end CodingLlm
