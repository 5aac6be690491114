import CodingLlm.Scripts.KeepBitmaps
import Mathlib.Algebra.BigOperators.Ring.Finset

/-!
# The constant leakage audit

The checks of the source database make every kept document the choice for its
content hash and for its cluster, in a group with the recomputed split, so that
no leakage query can find a row.
-/

namespace CodingLlm

open Words

variable {Blob : Type} [LinearOrder Blob]
variable {setting : PublicationSetting Blob}
variable {checkpoint : SourceCheckpoint}
variable {database : SourceDatabase Blob}
variable {authority : SourceAuthority}

/-! ## What a validated database satisfies -/

/-- The facts that `_validate_source_database` has checked on the tables. -/
structure SourceValidated
    (setting : PublicationSetting Blob)
    (database : SourceDatabase Blob)
    (authority : SourceAuthority) : Prop where
  rows_eq : authority.rows = eligibleAuthority database
  inventory_eq : loadRejectionInventory database = .ok authority.inventory
  covered : (authority.accepted + authority.uniqueRejected : Int) =
    (database.archives.rows.map fun row => row.2.documents).sum
  canonical : authority.invalidCanonical = 0
  tokens : authority.invalidTokens = 0
  grouped : authority.missingOrInvalidGroups = 0
  assigned : mismatchedGroups setting database = .ok 0

theorem validateSourceDatabase_ok
    (validated : validateSourceDatabase setting checkpoint database =
      .ok authority) :
    SourceValidated setting database authority := by
  unfold validateSourceDatabase at validated
  obtain ⟨_, _, validated⟩ := checked_bind_eq_ok.mp validated
  obtain ⟨groups, _, validated⟩ := checked_bind_eq_ok.mp validated
  obtain ⟨_, _, validated⟩ := checked_bind_eq_ok.mp validated
  obtain ⟨canonicalized, _, validated⟩ := checked_bind_eq_ok.mp validated
  obtain ⟨inventory, loaded, validated⟩ := checked_bind_eq_ok.mp validated
  obtain ⟨_, validated⟩ := require_then_eq_ok.mp validated
  obtain ⟨mismatched, assigned, validated⟩ := checked_bind_eq_ok.mp validated
  obtain ⟨accounted, validated⟩ := require_then_eq_ok.mp validated
  obtain ⟨noMismatch, validated⟩ := require_then_eq_ok.mp validated
  obtain rfl := checked_pure_eq_ok.mp validated
  obtain ⟨_, covered, canonical, tokens, grouped, _⟩ := accounted
  exact ⟨rfl, loaded, covered, canonical, tokens, grouped,
    noMismatch ▸ assigned⟩

/-- The documents without a reason. -/
def freeRows (database : SourceDatabase Blob) :
    List (Blob × SourceDocument Blob) :=
  database.documents.rows.filter fun row => decide (database.ReasonFree row.1)

/-- The row of the joins for a document. -/
def authorityRow (database : SourceDatabase Blob)
    (row : Blob × SourceDocument Blob) : EligibleRow Blob :=
  ⟨row.1, row.2,
    (database.canonicalMap.lookup row.1).map fun value => (row.1, value),
    ((database.exactChoice.lookup row.2.contentHash).filter
      fun value => decide (value = row.1)).map
        fun value => (row.2.contentHash, value),
    ((database.finalChoice.lookup row.2.finalCluster).filter
      fun value => decide (value = row.1)).map
        fun value => (row.2.finalCluster, value),
    (database.groups.lookup row.2.sourceGroup).map
      fun value => (row.2.sourceGroup, value)⟩

/-- The joins find at most one row for a document in every table. -/
theorem authorityJoins_eq :
    authorityJoins database =
      (freeRows database).map (authorityRow database) := by
  let Canonical := (Blob × SourceDocument Blob) × Option (Blob × Blob)
  unfold authorityJoins
  dsimp only
  rw [database.canonicalMap.leftJoin_keyOnly Prod.fst,
    database.exactChoice.leftJoin_key
      (fun row : Canonical => row.1.2.contentHash)
      (fun row value => decide (value = row.1.1)),
    database.finalChoice.leftJoin_key
      (fun row : Canonical × Option (Blob × Blob) => row.1.1.2.finalCluster)
      (fun row value => decide (value = row.1.1.1)),
    database.groups.leftJoin_keyOnly
      (fun row : (Canonical × Option (Blob × Blob)) × Option (Blob × Blob) =>
        row.1.1.1.2.sourceGroup)]
  simp only [List.map_map]
  rfl

namespace SourceValidated

variable (checked : SourceValidated setting database authority)

include checked

/-- Additive counts of the authority query are sums over documents. -/
theorem sum_eq
    {count : String ×ₗ WithBot String -> AuthorityCounts -> Nat}
    (additive : ∀ key first second, count key (first.add second) =
      count key first + count key second) :
    authority.sum count =
      ((freeRows database).map fun row =>
        count (authorityRow database row).key
          (authorityRow database row).counts).sum := by
  unfold SourceAuthority.sum
  rw [checked.rows_eq]
  unfold eligibleAuthority
  rw [Table.sum_groupRows additive, authorityJoins_eq, List.map_map,
    List.map_map]
  rfl

/-- The query counts every document without a reason. -/
theorem accepted_eq : authority.accepted = (freeRows database).length := by
  unfold SourceAuthority.accepted
  rw [checked.sum_eq fun _ _ _ => rfl]
  simp [EligibleRow.counts]

/-- A document without a reason is the choice for its hash and its cluster. -/
theorem chosen
    {row : Blob × SourceDocument Blob}
    (free : row ∈ freeRows database) :
    database.exactChoice.lookup row.2.contentHash = some row.1 ∧
      database.finalChoice.lookup row.2.finalCluster = some row.1 := by
  have zero : (authorityRow database row).counts.invalidCanonicalDocuments =
      0 := by
    have total := checked.canonical
    unfold SourceAuthority.invalidCanonical at total
    rw [checked.sum_eq fun _ _ _ => rfl] at total
    exact List.sum_eq_zero_iff.mp total _ (List.mem_map_of_mem free)
  have valid : ¬(authorityRow database row).InvalidCanonical := by
    intro invalid
    simp [EligibleRow.counts, invalid] at zero
  have found {choice : Option Blob} {key : Blob}
      (matched : (choice.filter fun value => decide (value = row.1)).map
        (fun value => (key, value)) ≠ none) : choice = some row.1 := by
    cases choice with
    | none => simp at matched
    | some value =>
        by_cases same : value = row.1
        · rw [same]
        · simp [Option.filter, same] at matched
  unfold EligibleRow.InvalidCanonical at valid
  rw [not_or, not_or] at valid
  exact ⟨found valid.2.1, found valid.2.2⟩

/-- A document without a reason has a group with a split. -/
theorem hasSplit
    {row : Blob × SourceDocument Blob}
    (free : row ∈ freeRows database) :
    ∃ split : Split,
      database.groups.lookup row.2.sourceGroup = some split.name := by
  have zero : (if SourceAuthority.KnownSplit (authorityRow database row).key
      then 0 else (authorityRow database row).counts.documents) = 0 := by
    have total := checked.grouped
    unfold SourceAuthority.missingOrInvalidGroups at total
    rw [checked.sum_eq] at total
    · exact List.sum_eq_zero_iff.mp total _ (List.mem_map_of_mem free)
    · intro key first second
      split <;> rfl
  have known : SourceAuthority.KnownSplit (authorityRow database row).key := by
    by_contra unknown
    simp [unknown, EligibleRow.counts] at zero
  obtain ⟨split, named⟩ := known
  refine ⟨split, ?_⟩
  unfold EligibleRow.key authorityRow at named
  cases group : database.groups.lookup row.2.sourceGroup with
  | none => simp [group] at named
  | some name =>
      simp only [group, Option.map_some, ofLex_toLex, WithBot.coe_inj] at named
      rw [named]

/-- Every group carries the recomputed split. -/
theorem recomputed
    {groupId : Blob} {name : String}
    (grouped : database.groups.lookup groupId = some name) :
    ∃ split, setting.assignGroupSplit groupId = .ok split ∧
      name = split.name := by
  have assigned := checked.assigned
  unfold mismatchedGroups at assigned
  obtain ⟨wrong, collected, counted⟩ := checked_bind_eq_ok.mp assigned
  have none := List.count_eq_zero.mp (checked_pure_eq_ok.mp counted)
  have member := (Table.lookup_eq_some_iff _).mp grouped
  obtain ⟨mismatch, there, body⟩ := exists_result_of_mapM collected member
  obtain ⟨split, assignedSplit, equal⟩ := checked_bind_eq_ok.mp body
  have equal := checked_pure_eq_ok.mp equal
  refine ⟨split, assignedSplit, ?_⟩
  by_contra differs
  rw [decide_eq_true differs] at equal
  exact none (equal ▸ there)

/-! ## The documents whose bit is set -/

/-- The rejected positions are those of the documents with a reason. -/
theorem mem_rejected
    {archive : String} {index : Int} :
    (archive, index) ∈ authority.inventory.rejected ↔
      ∃ row ∈ database.documents.rows, ¬database.ReasonFree row.1 ∧
        row.2.archive = archive ∧ row.2.manifestIndex = index := by
  have loaded := checked.inventory_eq
  unfold loadRejectionInventory at loaded
  obtain ⟨rows, collected, equal⟩ := checked_bind_eq_ok.mp loaded
  have rejected : authority.inventory.rejected =
      (rows.map fun row => (row.1.archive, row.1.manifestIndex)).dedup := by
    rw [← checked_pure_eq_ok.mp equal]
  rw [rejected, List.mem_dedup, List.mem_map]
  constructor
  · rintro ⟨⟨document, reason⟩, there, same⟩
    obtain ⟨entry, isReason, body⟩ := exists_item_of_mapM collected there
    cases found : database.documents.lookup entry.1 with
    | none => simp [found] at body
    | some other =>
        simp only [found] at body
        obtain ⟨_, equal⟩ := require_then_eq_ok.mp body
        injection checked_pure_eq_ok.mp equal with equal _
        subst equal
        injection same with archiveEq indexEq
        refine ⟨(entry.1, other), (Table.lookup_eq_some_iff _).mp found, ?_,
          archiveEq, indexEq⟩
        exact fun free => free entry isReason rfl
  · rintro ⟨⟨docId, document⟩, member, rejected, rfl, rfl⟩
    unfold SourceDatabase.ReasonFree at rejected
    push Not at rejected
    obtain ⟨entry, isReason, rfl⟩ := rejected
    have found := (Table.lookup_eq_some_iff _).mpr member
    obtain ⟨row, there, body⟩ := exists_result_of_mapM collected isReason
    simp only [found] at body
    obtain ⟨_, equal⟩ := require_then_eq_ok.mp body
    have equal := checked_pure_eq_ok.mp equal
    subst equal
    exact ⟨_, there, rfl⟩

/-- A document without a reason is at no rejected position. -/
theorem not_rejected_iff
    {row : Blob × SourceDocument Blob}
    (member : row ∈ database.documents.rows) :
    (row.2.archive, row.2.manifestIndex) ∉ authority.inventory.rejected ↔
      database.ReasonFree row.1 := by
  rw [checked.mem_rejected, ← not_iff_not, not_not]
  constructor
  · rintro ⟨other, there, rejected, archive, index⟩
    rwa [database.positions_unique other there row member archive index]
      at rejected
  · intro rejected
    exact ⟨row, member, rejected, rfl, rfl⟩

/-- There are as many rejected positions as documents with a reason. -/
theorem uniqueRejected_eq :
    authority.uniqueRejected =
      (database.documents.rows.filter fun row =>
        !decide (database.ReasonFree row.1)).length := by
  have distinct : authority.inventory.rejected.Nodup := by
    have loaded := checked.inventory_eq
    unfold loadRejectionInventory at loaded
    obtain ⟨rows, _, equal⟩ := checked_bind_eq_ok.mp loaded
    rw [← checked_pure_eq_ok.mp equal]
    exact List.nodup_dedup _
  have positions : ((database.documents.rows.filter fun row =>
      !decide (database.ReasonFree row.1)).map fun row =>
        (row.2.archive, row.2.manifestIndex)).Nodup := by
    apply List.Nodup.map_on
    · intro first inFirst second inSecond same
      injection same with archive index
      exact database.positions_unique first (List.mem_of_mem_filter inFirst)
        second (List.mem_of_mem_filter inSecond) archive index
    · exact (List.Nodup.of_map _ database.documents.keys_nodup).filter _
  have same : authority.inventory.rejected.Perm
      ((database.documents.rows.filter fun row =>
        !decide (database.ReasonFree row.1)).map fun row =>
          (row.2.archive, row.2.manifestIndex)) := by
    rw [List.perm_ext_iff_of_nodup distinct positions]
    rintro ⟨archive, index⟩
    rw [checked.mem_rejected, List.mem_map]
    simp only [List.mem_filter, Bool.not_eq_true', decide_eq_false_iff_not,
      Prod.mk.injEq]
    tauto
  unfold SourceAuthority.uniqueRejected
  rw [same.length_eq, List.length_map]

/-- All documents are counted by the archives. -/
theorem documents_eq :
    (database.documents.rows.length : Int) =
      (database.archives.rows.map fun row => row.2.documents).sum := by
  rw [← checked.covered, checked.accepted_eq, checked.uniqueRejected_eq]
  unfold freeRows
  rw [← List.countP_eq_length_filter, ← List.countP_eq_length_filter]
  have total : database.documents.rows.length = _ :=
    List.length_eq_countP_add_countP fun row =>
      decide (database.ReasonFree row.1)
  rw [total]
  push_cast
  congr 3
  funext row
  simp

end SourceValidated

/-! ## Shards -/

/-- What the decision shard of an archive says. -/
structure ArchiveDecided
    (database : SourceDatabase Blob)
    (inventory : RejectionInventory)
    (report : SourceArchive)
    (shard : KeepShard) : Prop where
  archive_eq : shard.archive = report.archive
  counted : ((database.documents.rows.countP fun row =>
    decide (row.2.archive = report.archive) : Nat) : Int) = report.documents
  inRange : ∀ row ∈ database.documents.rows,
    row.2.archive = report.archive ->
      0 ≤ row.2.manifestIndex ∧ row.2.manifestIndex < shard.records
  bit : ∀ index : Int, 0 ≤ index -> index < shard.records ->
    (bitAt shard.payload index.toNat = true ↔
      (report.archive, index) ∉ inventory.rejected)

theorem buildAllEligibleKeepBitmap_ok
    {records : Nat} {rejected : List Int} {payload : List Byte} {kept : Nat}
    (built : buildAllEligibleKeepBitmap records rejected =
      .ok (payload, kept)) {index : Int}
    (notNegative : 0 ≤ index) (inside : index < records) :
    bitAt payload index.toNat = true ↔ index ∉ rejected := by
  unfold buildAllEligibleKeepBitmap allEligibleBitmapPayloadBytes at built
  obtain ⟨payloadBytes, sized, built⟩ := checked_bind_eq_ok.mp built
  obtain ⟨_, sized⟩ := require_then_eq_ok.mp sized
  obtain rfl := checked_pure_eq_ok.mp sized
  obtain ⟨⟨_, ranged⟩, built⟩ := require_then_eq_ok.mp built
  obtain ⟨_, _, built⟩ := checked_bind_eq_ok.mp built
  injection checked_pure_eq_ok.mp built with built _
  have here : index.toNat < records := by omega
  rw [← built, bitAt_foldl_clearBit, bitAt_keepAll, decide_eq_true here,
    Bool.true_and, decide_eq_true_eq]
  constructor
  · intro clear member
    exact clear index member rfl
  · intro absent entry member equal
    have entryRange := ranged entry member
    apply absent
    have same : index = entry := by omega
    rwa [same]

theorem writeArchiveDecisions_ok
    {inventory : RejectionInventory} {report : SourceArchive}
    {shard : KeepShard}
    (written : writeArchiveDecisions database inventory report = .ok shard) :
    ArchiveDecided database inventory report shard := by
  unfold writeArchiveDecisions at written
  dsimp only at written
  obtain ⟨⟨counted, least, greatest⟩, written⟩ :=
    require_then_eq_ok.mp written
  obtain ⟨⟨payload, kept⟩, built, written⟩ := checked_bind_eq_ok.mp written
  obtain rfl := checked_pure_eq_ok.mp written
  constructor
  case archive_eq => rfl
  case counted =>
    rw [← counted, List.length_map, List.countP_eq_length_filter]
  case inRange =>
    intro row member archive
    have listed : row.2.manifestIndex ∈
        (database.documents.rows.filter fun row =>
          decide (row.2.archive = report.archive)).map fun row =>
            row.2.manifestIndex := by
      apply List.mem_map_of_mem
      rw [List.mem_filter]
      exact ⟨member, by simpa using archive⟩
    have lower := (List.min?_eq_some_iff.mp least).2 _ listed
    have upper := (List.max?_eq_some_iff.mp greatest).2 _ listed
    dsimp only
    omega
  case bit =>
    intro index notNegative inside
    rw [buildAllEligibleKeepBitmap_ok built notNegative inside]
    unfold RejectionInventory.ofArchive
    simp

/-! ## Kept documents -/

section Shards

variable {shards : List KeepShard}

/-- Every report has its decision shard, and every shard a report. -/
theorem writeDecisionShards_ok
    {inventory : RejectionInventory}
    (written : writeDecisionShards database inventory = .ok shards) :
    (∀ row ∈ database.archives.rows, ∃ shard ∈ shards,
      ArchiveDecided database inventory row.2 shard) ∧
    (∀ shard ∈ shards, ∃ row ∈ database.archives.rows,
      ArchiveDecided database inventory row.2 shard) := by
  unfold writeDecisionShards at written
  obtain ⟨reports, loaded, written⟩ := checked_bind_eq_ok.mp written
  have reports_eq : database.archives.rows.map Prod.snd = reports := by
    unfold loadReportInventory at loaded
    obtain ⟨_, loaded⟩ := require_then_eq_ok.mp loaded
    obtain ⟨_, loaded⟩ := require_then_eq_ok.mp loaded
    obtain ⟨_, loaded⟩ := require_then_eq_ok.mp loaded
    exact checked_pure_eq_ok.mp loaded
  constructor
  · intro row member
    have listed : row.2 ∈ reports.insertionSort fun first second =>
        first.archive ≤ second.archive := by
      rw [List.mem_insertionSort, ← reports_eq]
      exact List.mem_map_of_mem member
    obtain ⟨shard, there, decided⟩ := exists_result_of_mapM written listed
    exact ⟨shard, there, writeArchiveDecisions_ok decided⟩
  · intro shard there
    obtain ⟨report, listed, decided⟩ := exists_item_of_mapM written there
    rw [List.mem_insertionSort, ← reports_eq, List.mem_map] at listed
    obtain ⟨row, member, rfl⟩ := listed
    exact ⟨row, member, writeArchiveDecisions_ok decided⟩

variable (checked : SourceValidated setting database authority)
variable (written :
  writeDecisionShards database authority.inventory = .ok shards)

include checked written

/-- Every document lies in an archive of the inventory. -/
theorem SourceValidated.inInventory
    {row : Blob × SourceDocument Blob}
    (member : row ∈ database.documents.rows) :
    ∃ report ∈ database.archives.rows,
      report.2.archive = row.2.archive := by
  let names := database.archives.rows.map fun report => report.2.archive
  have distinct : names.Nodup := by
    apply List.Nodup.map_on
    · intro first inFirst second inSecond same
      exact database.archives_unique first inFirst second inSecond same
    · exact List.Nodup.of_map _ database.archives.keys_nodup
  have counted := sum_countP_names distinct
    (fun row : Blob × SourceDocument Blob => row.2.archive)
    database.documents.rows
  have perArchive : database.archives.rows.map
      (fun report => report.2.documents) =
        names.map fun name => ((database.documents.rows.countP fun row =>
          decide (row.2.archive = name) : Nat) : Int) := by
    rw [List.map_map]
    apply List.map_congr_left
    intro report inReports
    obtain ⟨shard, _, decided⟩ := (writeDecisionShards_ok written).1 report
      inReports
    exact decided.counted.symm
  have all : database.documents.rows.countP
      (fun row => decide (row.2.archive ∈ names)) =
        database.documents.rows.length := by
    rw [← counted, ← Int.natCast_inj, checked.documents_eq, perArchive,
      Nat.cast_list_sum, List.map_map]
    rfl
  have inNames := List.countP_eq_length.mp all row member
  rw [decide_eq_true_eq, List.mem_map] at inNames
  exact inNames

/-- A document is kept exactly if it has no reason. -/
theorem SourceValidated.kept_iff
    {row : Blob × SourceDocument Blob}
    (member : row ∈ database.documents.rows) :
    Kept shards row.2 ↔ database.ReasonFree row.1 := by
  rw [← checked.not_rejected_iff member]
  constructor
  · rintro ⟨shard, there, named, notNegative, inside, bit⟩
    obtain ⟨report, _, decided⟩ := (writeDecisionShards_ok written).2 shard
      there
    rw [decided.bit _ notNegative inside, ← decided.archive_eq, named] at bit
    exact bit
  · intro notRejected
    obtain ⟨report, inReports, named⟩ := checked.inInventory written member
    obtain ⟨shard, there, decided⟩ := (writeDecisionShards_ok written).1
      report inReports
    obtain ⟨notNegative, inside⟩ := decided.inRange row member named.symm
    refine ⟨shard, there, decided.archive_eq.trans named, notNegative,
      inside, ?_⟩
    rw [decided.bit _ notNegative inside, named]
    exact notRejected

/-- The rows that the leakage queries would see: one for each document without
a reason. -/
theorem SourceValidated.keptRows_eq :
    (keptRows database shards).map (fun row => (row.docId, row.document)) =
      freeRows database := by
  have kept : (database.documents.rows.filter fun row =>
      decide (Kept shards row.2)) = freeRows database := by
    apply List.filter_congr
    intro row member
    exact decide_eq_decide.mpr (checked.kept_iff written member)
  unfold keptRows
  rw [kept, List.map_filterMap]
  refine Eq.trans (List.filterMap_congr ?_) List.filterMap_some
  intro row free
  obtain ⟨split, grouped⟩ := checked.hasSplit free
  rw [grouped]
  rfl

/-- A row of the leakage queries. -/
theorem SourceValidated.keptRow
    {row : KeptRow Blob}
    (member : row ∈ keptRows database shards) :
    (row.docId, row.document) ∈ freeRows database ∧
      database.groups.lookup row.document.sourceGroup = some row.split := by
  constructor
  · rw [← checked.keptRows_eq written]
    exact List.mem_map_of_mem member
  · unfold keptRows at member
    obtain ⟨entry, _, found⟩ := List.mem_filterMap.mp member
    obtain ⟨split, grouped, rfl⟩ := Option.map_eq_some_iff.mp found
    exact grouped

/-- The rows of the leakage queries are distinct documents. -/
theorem SourceValidated.keptRows_distinct :
    ((keptRows database shards).map KeptRow.docId).Nodup := by
  have distinct : ((freeRows database).map Prod.fst).Nodup :=
    database.documents.keys_nodup.sublist
      (List.Sublist.map _ List.filter_sublist)
  rw [← checked.keptRows_eq written, List.map_map] at distinct
  exact distinct

end Shards

/-! ## Leakage counts -/

section Counts

variable {rows : List (KeptRow Blob)} {key : KeptRow Blob -> Blob}

/-- No group satisfies a condition that no list of rows with one key has. -/
theorem countGroups_eq_zero
    {having : List (KeptRow Blob) -> Bool}
    (never : ∀ value,
      having (rows.filter fun row => decide (key row = value)) = false) :
    countGroups key having rows = 0 := by
  unfold countGroups
  rw [List.length_eq_zero_iff, List.filter_eq_nil_iff]
  intro value _
  simp [never value]

/-- Rows that a key tells apart have groups of at most one row. -/
theorem group_length_le
    (distinct : (rows.map KeptRow.docId).Nodup)
    (determines : ∀ first ∈ rows, ∀ second ∈ rows,
      key first = key second -> first.docId = second.docId)
    (value : Blob) :
    (rows.filter fun row => decide (key row = value)).length ≤ 1 := by
  generalize grouped : rows.filter (fun row => decide (key row = value)) =
    group
  have within (row : KeptRow Blob) (member : row ∈ group) :
      row ∈ rows ∧ key row = value := by
    rw [← grouped, List.mem_filter, decide_eq_true_eq] at member
    exact member
  have apart : (group.map KeptRow.docId).Nodup := by
    rw [← grouped]
    exact distinct.sublist (List.Sublist.map _ List.filter_sublist)
  match group, within, apart with
  | [], _, _ => simp
  | [_], _, _ => simp
  | first :: second :: _, within, apart =>
      obtain ⟨firstIn, firstKey⟩ := within first (by simp)
      obtain ⟨secondIn, secondKey⟩ := within second (by simp)
      apply absurd (determines first firstIn second secondIn
        (firstKey.trans secondKey.symm))
      intro same
      simp [same] at apart

omit [LinearOrder Blob] in
theorem severalDocuments_eq_false
    {group : List (KeptRow Blob)}
    (single : group.length ≤ 1) : severalDocuments group = false := by
  simp [severalDocuments, single]

omit [LinearOrder Blob] in
theorem severalSplits_of_length_le
    {group : List (KeptRow Blob)}
    (single : group.length ≤ 1) : severalSplits group = false := by
  have shorter := (group.map KeptRow.split).dedup_sublist.length_le
  rw [List.length_map] at shorter
  simp only [severalSplits, decide_eq_false_iff_not, not_lt]
  omega

/-- Rows with one key have one split if the key determines it. -/
theorem severalSplits_eq_false
    (determines : ∀ first ∈ rows, ∀ second ∈ rows,
      key first = key second -> first.split = second.split)
    (value : Blob) :
    severalSplits (rows.filter fun row => decide (key row = value)) =
      false := by
  simp only [severalSplits, decide_eq_false_iff_not, not_lt]
  generalize listed : ((rows.filter fun row =>
    decide (key row = value)).map KeptRow.split).dedup = splits
  have distinct : splits.Nodup := by
    rw [← listed]
    exact List.nodup_dedup _
  have within (split : String) (member : split ∈ splits) :
      ∃ row ∈ rows, key row = value ∧ row.split = split := by
    rw [← listed, List.mem_dedup, List.mem_map] at member
    obtain ⟨row, inGroup, named⟩ := member
    rw [List.mem_filter, decide_eq_true_eq] at inGroup
    exact ⟨row, inGroup.1, inGroup.2, named⟩
  match splits, distinct, within with
  | [], _, _ => simp
  | [_], _, _ => simp
  | first :: second :: _, distinct, within =>
      obtain ⟨one, oneIn, oneKey, rfl⟩ := within first (by simp)
      obtain ⟨two, twoIn, twoKey, rfl⟩ := within second (by simp)
      have same := determines one oneIn two twoIn (oneKey.trans twoKey.symm)
      simp [same] at distinct

end Counts

/-! ## The audit -/

section Audit

variable {shards : List KeepShard}
variable (checked : SourceValidated setting database authority)
variable (written :
  writeDecisionShards database authority.inventory = .ok shards)

include checked written

theorem SourceValidated.contentHash_determines
    {first second : KeptRow Blob}
    (firstIn : first ∈ keptRows database shards)
    (secondIn : second ∈ keptRows database shards)
    (same : first.document.contentHash = second.document.contentHash) :
    first.docId = second.docId := by
  have chosen := (checked.chosen (checked.keptRow written firstIn).1).1
  have other := (checked.chosen (checked.keptRow written secondIn).1).1
  rw [same, other] at chosen
  exact (Option.some.inj chosen).symm

theorem SourceValidated.finalCluster_determines
    {first second : KeptRow Blob}
    (firstIn : first ∈ keptRows database shards)
    (secondIn : second ∈ keptRows database shards)
    (same : first.document.finalCluster = second.document.finalCluster) :
    first.docId = second.docId := by
  have chosen := (checked.chosen (checked.keptRow written firstIn).1).2
  have other := (checked.chosen (checked.keptRow written secondIn).1).2
  rw [same, other] at chosen
  exact (Option.some.inj chosen).symm

theorem SourceValidated.sourceGroup_determines
    {first second : KeptRow Blob}
    (firstIn : first ∈ keptRows database shards)
    (secondIn : second ∈ keptRows database shards)
    (same : first.document.sourceGroup = second.document.sourceGroup) :
    first.split = second.split := by
  have grouped := (checked.keptRow written firstIn).2
  have other := (checked.keptRow written secondIn).2
  rw [same, other] at grouped
  exact (Option.some.inj grouped).symm

/-- The queries of the audit count nothing. -/
theorem SourceValidated.recountLeakage_eq
    {cluster : Blob -> Blob}
    (fast : ∀ row ∈ database.documents.rows,
      row.2.finalCluster = cluster row.2.normalizedHash) :
    recountLeakage (keptRows database shards) = leakageAudit := by
  have distinct := checked.keptRows_distinct written
  have normalized (first : KeptRow Blob)
      (firstIn : first ∈ keptRows database shards)
      (second : KeptRow Blob)
      (secondIn : second ∈ keptRows database shards)
      (same : first.document.normalizedHash =
        second.document.normalizedHash) :
      first.docId = second.docId := by
    have inDocuments (row : KeptRow Blob)
        (member : row ∈ keptRows database shards) :
        (row.docId, row.document) ∈ database.documents.rows :=
      List.mem_of_mem_filter (checked.keptRow written member).1
    apply checked.finalCluster_determines written firstIn secondIn
    rw [fast _ (inDocuments first firstIn),
      fast _ (inDocuments second secondIn), same]
  have content (value : Blob) := group_length_le distinct
    (fun _ firstIn _ secondIn =>
      checked.contentHash_determines written firstIn secondIn) value
  have clusters (value : Blob) := group_length_le distinct
    (fun _ firstIn _ secondIn =>
      checked.finalCluster_determines written firstIn secondIn) value
  have normal (value : Blob) := group_length_le distinct normalized value
  have groups (value : Blob) := severalSplits_eq_false
    (fun _ firstIn _ secondIn =>
      checked.sourceGroup_determines written firstIn secondIn) value
  have codeGroups (value : Blob) :
      severalSplits (((keptRows database shards).filter fun row =>
        decide (row.document.bucket = Bucket.python.name ∨
          row.document.bucket = Bucket.otherCode.name)).filter fun row =>
            decide (row.document.sourceGroup = value)) = false := by
    apply severalSplits_eq_false
    intro first firstIn second secondIn
    exact checked.sourceGroup_determines written
      (List.mem_of_mem_filter firstIn) (List.mem_of_mem_filter secondIn)
  unfold recountLeakage leakageAudit
  congr 1
  · exact countGroups_eq_zero fun value =>
      severalSplits_of_length_le (content value)
  · exact countGroups_eq_zero fun value =>
      severalSplits_of_length_le (normal value)
  · exact countGroups_eq_zero fun value =>
      severalSplits_of_length_le (clusters value)
  · exact countGroups_eq_zero groups
  · apply countGroups_eq_zero
    intro value
    rw [codeGroups value, Bool.and_false]
  · exact countGroups_eq_zero fun value =>
      severalDocuments_eq_false (content value)
  · exact countGroups_eq_zero fun value =>
      severalDocuments_eq_false (normal value)

end Audit

end CodingLlm
