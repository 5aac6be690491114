import CodingLlm.Scripts.PublicationAudit

/-!
# Totals of the kept documents

`selected_totals` counts the kept documents and their tokens, and the constant
audit agrees with the queries it stands for.
-/

namespace CodingLlm

variable {Blob : Type} [LinearOrder Blob]
variable {setting : PublicationSetting Blob}
variable {checkpoint : SourceCheckpoint}
variable {database : SourceDatabase Blob}
variable {authority : SourceAuthority}
variable {totals : List SelectedTotal}
variable {shards : List KeepShard}

/-! ## Cells -/

/-- The cell of a row of the authority query. -/
def cellOfKey (key : String ×ₗ WithBot String) : Option (Split × Category) :=
  match Bucket.ofName? (ofLex key).1,
    Split.all.find? fun split => decide ((ofLex key).2 = ↑split.name) with
  | some bucket, some split => some (split, bucket.category)
  | _, _ => none

theorem readSupplyCell_ok
    {row : (String ×ₗ WithBot String) × AuthorityCounts}
    {cell : SupplyCell}
    (read : readSupplyCell row = .ok cell) :
    cellOfKey row.1 = some (cell.split, cell.category) ∧
      cell.documents = row.2.documents ∧ cell.tokens = row.2.tokens := by
  unfold readSupplyCell at read
  unfold cellOfKey
  cases bucket : Bucket.ofName? (ofLex row.1).1 with
  | none => simp [bucket] at read
  | some known =>
      cases split : Split.all.find? fun split =>
          decide ((ofLex row.1).2 = ↑split.name) with
      | none => simp [bucket, split] at read
      | some named =>
          simp only [bucket, split] at read
          obtain ⟨_, equal⟩ := require_then_eq_ok.mp read
          have equal := checked_pure_eq_ok.mp equal
          subst equal
          exact ⟨rfl, rfl, rfl⟩

/-- Sums over the cells of a split and a domain are sums over the query. -/
theorem sum_cells
    {μ : Type} [AddCommMonoid μ]
    {rows : List ((String ×ₗ WithBot String) × AuthorityCounts)}
    {cells : List SupplyCell}
    (collected : rows.mapM readSupplyCell = .ok cells)
    {ofCell : SupplyCell -> μ} {ofCounts : AuthorityCounts -> μ}
    (agree : ∀ row cell, readSupplyCell row = .ok cell ->
      ofCell cell = ofCounts row.2)
    (split : Split) (category : Category) :
    ((cells.filter fun cell =>
      decide (cell.split = split ∧ cell.category = category)).map ofCell).sum =
        (rows.map fun row =>
          if cellOfKey row.1 = some (split, category) then ofCounts row.2
          else 0).sum := by
  induction checked_mapM_eq_ok.mp collected with
  | nil => rfl
  | cons read more inductionHypothesis =>
      rename_i row cell _ _
      have rest := inductionHypothesis (checked_mapM_eq_ok.mpr more)
      have key := (readSupplyCell_ok read).1
      rw [List.map_cons, List.sum_cons, ← rest]
      by_cases matched : cell.split = split ∧ cell.category = category
      · obtain ⟨rfl, rfl⟩ := matched
        rw [List.filter_cons_of_pos (by simp), List.map_cons, List.sum_cons,
          if_pos key, agree _ _ read]
      · rw [List.filter_cons_of_neg (by simpa using matched), if_neg,
          zero_add]
        rw [key]
        intro same
        injection same with same
        injection same with first second
        exact matched ⟨first, second⟩

/-! ## Totals -/

/-- A kept document of a split and a domain. -/
def KeptRow.InCell (row : KeptRow Blob) (split : Split)
    (category : Category) : Prop :=
  row.split = split.name ∧
    (Bucket.ofName? row.document.bucket).map Bucket.category = some category

instance (row : KeptRow Blob) (split : Split) (category : Category) :
    Decidable (row.InCell split category) :=
  inferInstanceAs (Decidable (_ ∧ _))

theorem Split.find_name (split : Split) :
    (Split.all.find? fun other => decide
      ((↑split.name : WithBot String) = ↑other.name)) = some split := by
  cases split <;> decide

theorem cellOfKey_named (bucket : String) (split : Split) :
    cellOfKey (toLex (bucket, ↑split.name)) =
      (Bucket.ofName? bucket).map fun place => (split, place.category) := by
  change (match Bucket.ofName? bucket, Split.all.find? fun other =>
    decide ((↑split.name : WithBot String) = ↑other.name) with
    | some place, some split => some (split, place.category)
    | _, _ => none) = _
  rw [Split.find_name]
  cases Bucket.ofName? bucket <;> rfl

section Totals

variable (checked : SourceValidated setting database authority)
variable (written :
  writeDecisionShards database authority.inventory = .ok shards)

include checked written

/-- The cell of a kept document. -/
theorem SourceValidated.cellOfKey_iff
    {row : KeptRow Blob}
    (member : row ∈ keptRows database shards)
    (split : Split) (category : Category) :
    cellOfKey (authorityRow database (row.docId, row.document)).key =
        some (split, category) ↔ row.InCell split category := by
  obtain ⟨free, grouped⟩ := checked.keptRow written member
  obtain ⟨known, hasSplit⟩ := checked.hasSplit free
  have named : row.split = known.name :=
    Option.some.inj (grouped.symm.trans hasSplit)
  have key : (authorityRow database (row.docId, row.document)).key =
      toLex (row.document.bucket, ↑known.name) := by
    unfold EligibleRow.key authorityRow
    dsimp only
    rw [hasSplit]
    rfl
  unfold KeptRow.InCell
  rw [key, cellOfKey_named, named]
  cases Bucket.ofName? row.document.bucket with
  | none => simp
  | some place =>
      simp only [Option.map_some, Option.some.injEq, Prod.mk.injEq]
      constructor
      · rintro ⟨rfl, rfl⟩
        exact ⟨rfl, rfl⟩
      · rintro ⟨same, rfl⟩
        exact ⟨Split.name_injective same, rfl⟩

/-- Sums of the query over a cell are sums over its kept documents. -/
theorem SourceValidated.sum_cell
    {μ : Type} [AddCancelCommMonoid μ]
    {count : AuthorityCounts -> μ}
    (additive : ∀ first second, count (first.add second) =
      count first + count second)
    (split : Split) (category : Category) :
    (authority.rows.rows.map fun row =>
      if cellOfKey row.1 = some (split, category) then count row.2
      else 0).sum =
        (((keptRows database shards).filter fun row =>
          decide (row.InCell split category)).map fun row =>
            count (authorityRow database
              (row.docId, row.document)).counts).sum := by
  let inCell (key : String ×ₗ WithBot String) (counts : AuthorityCounts) : μ :=
    if cellOfKey key = some (split, category) then count counts else 0
  have additiveInCell (key : String ×ₗ WithBot String)
      (first second : AuthorityCounts) :
      inCell key (first.add second) = inCell key first + inCell key second := by
    dsimp only [inCell]
    split
    · exact additive first second
    · rw [add_zero]
  have cells : ∀ row ∈ keptRows database shards,
      inCell (authorityRow database (row.docId, row.document)).key
          (authorityRow database (row.docId, row.document)).counts =
        if row.InCell split category then
          count (authorityRow database (row.docId, row.document)).counts
        else 0 := by
    intro row member
    simp only [inCell, checked.cellOfKey_iff written member]
  change (authority.rows.rows.map fun row => inCell row.1 row.2).sum = _
  rw [checked.rows_eq]
  unfold eligibleAuthority
  rw [Table.sum_groupRows additiveInCell, authorityJoins_eq,
    ← checked.keptRows_eq written, List.map_map, List.map_map, List.map_map]
  refine Eq.trans (congrArg List.sum (List.map_congr_left cells)) ?_
  rw [List.sum_map_ite]
  simp

/-- `selected_totals` counts the kept documents of every cell. -/
theorem SourceValidated.total_eq
    (audited : auditEligibleSupply authority = .ok totals)
    {total : SelectedTotal}
    (member : total ∈ totals) :
    total.documents = ((keptRows database shards).filter fun row =>
      decide (row.InCell total.split total.category)).length ∧
    total.selectedTokens = (((keptRows database shards).filter fun row =>
      decide (row.InCell total.split total.category)).map fun row =>
        row.document.tokens).sum := by
  unfold auditEligibleSupply at audited
  obtain ⟨cells, collected, audited⟩ := checked_bind_eq_ok.mp audited
  obtain ⟨_, audited⟩ := require_then_eq_ok.mp audited
  obtain rfl := checked_pure_eq_ok.mp audited
  rw [List.mem_flatMap] at member
  obtain ⟨split, _, member⟩ := member
  rw [List.mem_map] at member
  obtain ⟨category, _, rfl⟩ := member
  unfold supplyTotal
  dsimp only
  constructor
  · rw [sum_cells collected (fun _ _ read => (readSupplyCell_ok read).2.1),
      checked.sum_cell written (fun _ _ => rfl)]
    simp [EligibleRow.counts]
  · rw [sum_cells collected (fun _ _ read => (readSupplyCell_ok read).2.2),
      checked.sum_cell written (fun _ _ => rfl)]
    rfl

end Totals

/-! ## The audit -/

/-- In a database that passes the checks of the publisher, the seven counts of
the constant audit are those that its queries would find over the kept
documents; the kept documents are the ones that the authority query counts,
with distinct hashes and in groups with the recomputed split. -/
theorem leakageAudit_sound
    {cluster : Blob -> Blob}
    (fast : ∀ row ∈ database.documents.rows,
      row.2.finalCluster = cluster row.2.normalizedHash)
    (validated : validateSourceDatabase setting checkpoint database =
      .ok authority)
    (audited : auditEligibleSupply authority = .ok totals)
    (written : writeDecisionShards database authority.inventory =
      .ok shards) :
    recountLeakage (keptRows database shards) = leakageAudit ∧
    (∀ first ∈ database.documents.rows, ∀ second ∈ database.documents.rows,
      Kept shards first.2 -> Kept shards second.2 ->
        first.2.contentHash = second.2.contentHash ∨
            first.2.normalizedHash = second.2.normalizedHash ->
          first = second) ∧
    (keptRows database shards).map (fun row => (row.docId, row.document)) =
      database.documents.rows.filter (fun row => decide (Kept shards row.2)) ∧
    (∀ row ∈ database.documents.rows,
      Kept shards row.2 ↔ database.ReasonFree row.1) ∧
    (keptRows database shards).length = authority.accepted ∧
    (∀ total ∈ totals,
      total.documents = ((keptRows database shards).filter fun row =>
        decide (row.InCell total.split total.category)).length ∧
      total.selectedTokens = (((keptRows database shards).filter fun row =>
        decide (row.InCell total.split total.category)).map fun row =>
          row.document.tokens).sum) ∧
    (∀ row ∈ keptRows database shards,
      database.groups.lookup row.document.sourceGroup = some row.split ∧
        ∃ split, setting.assignGroupSplit row.document.sourceGroup =
            .ok split ∧ row.split = split.name) := by
  have checked := validateSourceDatabase_ok validated
  have kept : (database.documents.rows.filter fun row =>
      decide (Kept shards row.2)) = freeRows database := by
    apply List.filter_congr
    intro row member
    exact decide_eq_decide.mpr (checked.kept_iff written member)
  refine ⟨checked.recountLeakage_eq written fast, ?_, ?_,
    fun row => checked.kept_iff written, ?_,
    fun total => checked.total_eq written audited, ?_⟩
  · intro first firstIn second secondIn firstKept secondKept same
    have free {row : Blob × SourceDocument Blob}
        (member : row ∈ database.documents.rows)
        (isKept : Kept shards row.2) : row ∈ freeRows database := by
      rw [← kept, List.mem_filter]
      exact ⟨member, decide_eq_true isKept⟩
    have chosen := checked.chosen (free firstIn firstKept)
    have other := checked.chosen (free secondIn secondKept)
    have key : first.1 = second.1 := by
      rcases same with content | normalized
      · rw [content, other.1] at chosen
        exact (Option.some.inj chosen.1).symm
      · rw [fast first firstIn, normalized, ← fast second secondIn, other.2]
          at chosen
        exact (Option.some.inj chosen.2).symm
    have firstFound := (Table.lookup_eq_some_iff _).mpr firstIn
    have secondFound := (Table.lookup_eq_some_iff _).mpr secondIn
    rw [key, secondFound] at firstFound
    exact Prod.ext key (Option.some.inj firstFound).symm
  · rw [checked.keptRows_eq written, kept]
  · rw [checked.accepted_eq, ← checked.keptRows_eq written, List.length_map]
  · intro row member
    obtain ⟨_, grouped⟩ := checked.keptRow written member
    exact ⟨grouped, checked.recomputed grouped⟩

/-! ## A small database -/

/-- Ten documents in one archive, of which the last repeats the first. -/
def smallSource : SourceDatabase Nat where
  databaseVersion := .int 4
  phase := .str "canonicalized"
  archives := ⟨[("report", ⟨"shard", "python", 10⟩)], by decide⟩
  documents := ⟨(List.range 10).map fun index =>
    (index, ⟨["python", "python", "python", "other_code", "other_code",
      "other_code", "fineweb_edu", "wikipedia", "wikipedia", "python"].getD
        index "", "shard", index, 1, index % 9, index % 9, index % 9,
        index % 3⟩), by decide⟩
  reasons := [(9, "residual_exact_duplicate")]
  exactChoice := ⟨(List.range 9).map fun index => (index, index), by decide⟩
  finalChoice := ⟨(List.range 9).map fun index => (index, index), by decide⟩
  canonicalMap := ⟨(List.range 9).map fun index => (index, index), by decide⟩
  groups := ⟨[(0, "test"), (1, "validation"), (2, "train")], by decide⟩
  selected := 0
  outputArchives := 0
  durable := some ⟨1, 10, 0, 0⟩
  groupsProgress := some
    ⟨"complete", .object (), 3, .object ⟨.int 3, .int 0, .str "seed"⟩⟩
  canonicalizedEvents := [.object ⟨.int 9, .int 9, .int 9, .int 9⟩]
  archives_unique := by decide
  positions_unique := by decide
  reasons_unique := by decide

/-- Equal quotas, and groups spread over the splits. -/
def smallPublicationSetting : PublicationSetting Nat where
  seed := "seed"
  quotas := ⟨fun _ _ => 1, fun _ _ => by decide⟩
  splitValue := fun groupId => groupId * (2 ^ 64 / 3)

/-- The checkpoint of the small database. -/
def smallSourceCheckpoint : SourceCheckpoint where
  checkpointVersion := .int 2
  databaseVersion := .int 4
  phase := .str "canonicalized"
  identityFormatVersion := some (.int 6)
  counts := some ⟨.int 1, .int 10, .int 0, .int 0⟩

/-- Its authority. -/
def smallSourceAuthority : SourceAuthority where
  rows := eligibleAuthority smallSource
  inventory := {
    rejected := [("shard", 9)]
    reasons := Table.groupRows (· + ·) [("residual_exact_duplicate", 1)]
    associations := 1 }

/-- Its bitmap. -/
def smallKeepShards : List KeepShard :=
  [⟨"shard", 10, [0xff#8, 0x01#8], 9⟩]

/-- Nine documents of the small database are kept, without leakage. -/
theorem leakageAudit_sound_small :
    recountLeakage (keptRows smallSource smallKeepShards) = leakageAudit ∧
      (keptRows smallSource smallKeepShards).length = 9 := by
  have fast : ∀ row ∈ smallSource.documents.rows,
      row.2.finalCluster = id row.2.normalizedHash := by decide
  have validated : validateSourceDatabase smallPublicationSetting
      smallSourceCheckpoint smallSource = .ok smallSourceAuthority := rfl
  have audited : auditEligibleSupply smallSourceAuthority =
      .ok (Split.all.flatMap fun split => categories.map fun category =>
        ⟨split, category, 1, 1, 0⟩) := rfl
  have written : writeDecisionShards smallSource
      smallSourceAuthority.inventory = .ok smallKeepShards := rfl
  have sound := leakageAudit_sound fast validated audited written
  exact ⟨sound.1, sound.2.2.2.2.1.trans rfl⟩

end CodingLlm
