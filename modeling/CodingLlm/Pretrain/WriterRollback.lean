import CodingLlm.Pretrain.WriterResume

/-!
# Rolling back to the journal

The checks of `_resume_from_journal` on a committed directory, the restoration
of the open shard, and the removal of what was written after the commit.
-/

namespace CodingLlm

open CrashLogic Words Slices PackedStream

variable {Digest Cursor : Type}

namespace Construction

variable {construction : Construction Digest Cursor}
variable {commit : Commit Cursor}
variable {directory current : Directory Digest Cursor}
variable {kind : ShardKind} {file : File}

/-- The rows of the journaled open shard are rows of the stream. -/
theorem journaled_le
    (bound : commit.count ≤ construction.documents.length) :
    construction.completedAt commit.count *
        construction.config.rowsPerShard +
        construction.openRowsAt commit.count ≤
      construction.rowsAt construction.documents.length := by
  rw [← construction.rowsAt_eq]
  exact construction.rowsAt_mono bound

/-- So are those of every completed shard. -/
theorem completed_le
    {index : Nat}
    (bound : commit.count ≤ construction.documents.length)
    (before : index < construction.completedAt commit.count) :
    index * construction.config.rowsPerShard +
        construction.config.rowsPerShard ≤
      construction.rowsAt construction.documents.length := by
  have next := Nat.mul_le_mul_right construction.config.rowsPerShard
    (Nat.succ_le_of_lt before)
  rw [Nat.succ_mul] at next
  have := journaled_le bound
  omega

/-! ## The checks -/

/-- Every name is a shard name with a six-digit index or the journal. -/
def Generated (directory : Directory Digest Cursor) : Prop :=
  ∀ name, directory.Has name ->
    (PackedShardWriter.generatedShard name).isSome ∨ name = .journal

/-- The carry of a journal is at most a row's inputs long. -/
theorem length_carry
    {items : List α}
    (length : items.length = construction.stream.tokens.length)
    (bound : commit.count ≤ construction.documents.length) :
    (slice items
      (construction.rowsAt commit.count *
        construction.config.sequenceLength)
      (construction.fed commit.count -
        construction.rowsAt commit.count *
          construction.config.sequenceLength)).length =
      construction.fed commit.count -
        construction.rowsAt commit.count *
          construction.config.sequenceLength := by
  have whole := construction.fed_le_length bound
  have rows := construction.rowsAt_mul_le commit.count
  exact length_slice (by omega)

theorem checkJournalState_eq
    (bound : commit.count ≤ construction.documents.length) :
    PackedShardWriter.checkJournalState construction.config
      (construction.journal commit).state = .ok () := by
  have masked := construction.masked_le_inputs commit.count
  have rows := construction.rowsAt_mul_le commit.count
  have tail := construction.fed_le_rowsAt commit.count
  have documents := construction.count_le_fed bound
  have tokens := length_carry rfl bound
  have starts := length_carry construction.stream.same_length bound
  unfold PackedShardWriter.checkJournalState
  refine (require_bind (Nat.sub_add_cancel masked) _).trans ?_
  refine (require_bind
    ⟨tokens.trans starts.symm, tokens.trans_le (by omega)⟩ _).trans ?_
  refine (require_bind ?_ _).trans (require_bind ?_ _)
  · intro token member
    exact construction.tokens_lt
      (List.mem_of_mem_drop (List.mem_of_mem_take member))
  · simp only [Construction.journal]
    omega

/-- The completed shards of the journal from `position` on are all there. -/
theorem checkCompletedShards_eq
    [DecidableEq Digest]
    (committed : construction.Committed commit directory)
    {position more : Nat}
    (total : position + more = construction.completedAt commit.count) :
    PackedShardWriter.checkCompletedShards construction.sha256
        construction.config directory position
        ((List.range' position more).map fun index =>
          construction.record .shard index
            construction.config.rowsPerShard) = .ok () := by
  induction more generalizing position with
  | zero => rfl
  | succ more inductionHypothesis =>
      have payloads : PackedShardWriter.shardKinds.forM
          (PackedShardWriter.checkCompletedPayload construction.sha256
            construction.config directory
            (construction.record .shard position
              construction.config.rowsPerShard) position) = .ok () := by
        rw [checked_forM_eq_ok]
        intro kind _
        have found :=
          (committed.completed position (by omega) kind).1
        have size := construction.length_shardContent kind
          (completed_le committed.count_le
            (show position < _ by omega))
        unfold PackedShardWriter.checkCompletedPayload
        rw [Directory.payload?_eq_some.mpr found]
        cases kind <;>
          exact (require_bind rfl _).trans ((require_bind rfl _).trans
            ((require_bind size _).trans (require_bind rfl _)))
      rw [List.range'_succ, List.map_cons,
        PackedShardWriter.checkCompletedShards]
      refine (require_bind rfl _).trans ((require_bind rfl _).trans ?_)
      rw [payloads, checked_ok_bind]
      exact inductionHypothesis (by omega)

theorem generatedShard_eq_some
    {name : FileName} {index : Nat} {final : Bool} :
    PackedShardWriter.generatedShard name = some (index, kind, final) ↔
      index < 1000000 ∧
        name = if final then .shard index kind else .shardPart index kind := by
  constructor
  · intro generated
    cases name with
    | shard other otherKind =>
        simp only [PackedShardWriter.generatedShard] at generated
        split at generated
        · cases generated
          exact ⟨‹_›, rfl⟩
        · cases generated
    | shardPart other otherKind =>
        simp only [PackedShardWriter.generatedShard] at generated
        split at generated
        · cases generated
          exact ⟨‹_›, rfl⟩
        · cases generated
    | _ => cases generated
  · rintro ⟨bound, rfl⟩
    cases final <;> simp [PackedShardWriter.generatedShard, bound]

/-- The scan of a committed directory fails only on unknown names. -/
theorem checkGeneratedFiles_eq_ok
    (committed : construction.Committed commit directory) :
    PackedShardWriter.checkGeneratedFiles
        (construction.completedAt commit.count) directory.keys = .ok () ↔
      Generated directory := by
  have scan : directory.keys.forM (fun name => do
      let _ ← require
        ((PackedShardWriter.generatedShard name).isSome ∨ name = .journal)
        (.fileExistsError
          "Unknown file prevents fail-closed packing resume")
      return ()) = Except.ok () ↔ Generated directory := by
    rw [checked_forM_eq_ok]
    constructor
    · intro passes name present
      have passed := passes name (Directory.mem_keys.mpr present)
      rw [checked_bind_eq_ok] at passed
      obtain ⟨⟨known⟩, _⟩ := passed
      exact known
    · intro generated name member
      exact require_bind (generated name (Directory.mem_keys.mp member)) _
  unfold PackedShardWriter.checkGeneratedFiles
  rw [checked_bind_eq_ok]
  constructor
  · rintro ⟨_, passed, _⟩
    exact scan.mp passed
  · intro generated
    refine ⟨(), scan.mpr generated, ?_⟩
    rw [checked_forM_eq_ok]
    intro index member
    rw [checked_forM_eq_ok]
    intro kind _
    obtain ⟨sealed, noPart⟩ :=
      committed.completed index (List.mem_range.mp member) kind
    have present : directory.Has (.shard index kind) :=
      Directory.has_iff.mpr ⟨_, sealed⟩
    have sixDigits : index < 1000000 := by
      rcases generated _ present with known | isJournal
      · by_contra large
        simp [PackedShardWriter.generatedShard, large] at known
      · cases isJournal
    refine (require_bind ?_ _).trans (require_bind ?_ _)
    · rw [List.mem_filterMap]
      exact ⟨_, Directory.mem_keys.mpr present,
        generatedShard_eq_some.mpr ⟨sixDigits, rfl⟩⟩
    · rw [List.mem_filterMap]
      rintro ⟨name, inKeys, equal⟩
      obtain ⟨_, rfl⟩ := generatedShard_eq_some.mp equal
      have partly : directory.Has (.shardPart index kind) :=
        Directory.mem_keys.mp inKeys
      exact Directory.not_has_iff.mpr noPart partly

/-- On a committed directory `_resume_from_journal` rejects nothing but unknown
names. -/
theorem checkJournal_eq_ok
    [DecidableEq Digest]
    (committed : construction.Committed commit directory) :
    PackedShardWriter.checkJournal construction.sha256 construction.config
        (construction.journal commit) directory = .ok () ↔
      Generated directory := by
  have shards : PackedShardWriter.checkCompletedShards construction.sha256
      construction.config directory 0
      (construction.journal commit).state.completedShards = .ok () := by
    have all := checkCompletedShards_eq committed (Nat.zero_add _)
    rw [← List.range_eq_range'] at all
    exact all
  have count : (construction.journal commit).state.completedShards.length =
      construction.completedAt commit.count :=
    construction.length_fullShards _
  unfold PackedShardWriter.checkJournal
  rw [require_bind (by rfl), require_bind (by rfl), require_bind (by rfl),
    shards, checked_ok_bind, checkJournalState_eq committed.count_le,
    checked_ok_bind, count]
  exact checkGeneratedFiles_eq_ok committed

/-! ## The open shard -/

/-- The name of a file of the journaled open shard. -/
def openName
    (construction : Construction Digest Cursor) (commit : Commit Cursor)
    (final : Bool) (kind : ShardKind) : FileName :=
  if final then .shard (construction.completedAt commit.count) kind
  else .shardPart (construction.completedAt commit.count) kind

/-- Only the files of one payload of the open shard differ. -/
def SameButOpen
    (construction : Construction Digest Cursor) (commit : Commit Cursor)
    (kind : ShardKind) (directory current : Directory Digest Cursor) :
    Prop :=
  ∀ name, (∀ final, name ≠ construction.openName commit final kind) ->
    current.lookup name = directory.lookup name

theorem SameButOpen.insert_part
    (frame : construction.SameButOpen commit kind directory current)
    (entry : Entry Digest Cursor) :
    construction.SameButOpen commit kind directory
      (current.insert
        (.shardPart (construction.completedAt commit.count) kind) entry) := by
  intro name other
  have notPart : name ≠
      .shardPart (construction.completedAt commit.count) kind := other false
  rw [lookup_insert, if_neg notPart]
  exact frame name other

theorem SameButOpen.rename
    (entry : Entry Digest Cursor) :
    construction.SameButOpen commit kind directory
      ((directory.erase
        (.shard (construction.completedAt commit.count) kind)).insert
          (.shardPart (construction.completedAt commit.count) kind)
          entry) := by
  intro name other
  have notPart : name ≠
      .shardPart (construction.completedAt commit.count) kind := other false
  have notFinal : name ≠
      .shard (construction.completedAt commit.count) kind := other true
  rw [lookup_replace (by simp), if_neg notPart, if_neg notFinal]

/-- Replacing the files of one payload of the open shard by others that hold
the journaled prefix keeps the commit. -/
theorem Committed.modify_open
    (committed : construction.Committed commit directory)
    (frame : construction.SameButOpen commit kind directory current)
    (recoverable : construction.Recoverable commit kind current) :
    construction.Committed commit current where
  admitted := committed.admitted
  count_le := committed.count_le
  journal_eq := by
    rw [frame _ (by intro final; cases final <;> simp [openName])]
    exact committed.journal_eq
  completed := by
    intro index bound other
    have different : index ≠ construction.completedAt commit.count := by
      omega
    rw [frame _ (by intro final; cases final <;> simp [openName, different]),
      frame _ (by intro final; cases final <;> simp [openName, different])]
    exact committed.completed index bound other
  open_recoverable := by
    intro openRows other
    by_cases same : other = kind
    · rw [same]
      exact recoverable
    · unfold Recoverable
      rw [frame _ (by intro final; cases final <;> simp [openName, same]),
        frame _ (by intro final; cases final <;> simp [openName, same])]
      exact committed.open_recoverable openRows other
  names := by
    intro name present
    by_cases isOpen :
        ∃ final, name = construction.openName commit final kind
    · obtain ⟨final, rfl⟩ := isOpen
      cases final <;> trivial
    · apply committed.names
      rw [Directory.has_iff] at present ⊢
      rwa [frame name (fun final equal => isOpen ⟨final, equal⟩)] at present

/-- One payload of the open shard after it has been rolled back: exactly the
journaled bytes under the part name. -/
structure Restored
    (construction : Construction Digest Cursor)
    (commit : Commit Cursor) (kind : ShardKind)
    (directory : Directory Digest Cursor) : Prop where
  part_eq : directory.lookup
      (.shardPart (construction.completedAt commit.count) kind) =
    some (.payload (.sealed (construction.shardContent
      (construction.completedAt commit.count)
      (construction.openRowsAt commit.count) kind)))
  final_eq : directory.lookup
      (.shard (construction.completedAt commit.count) kind) = none

/-- A restored payload is recoverable. -/
theorem Restored.recoverable
    (restored : construction.Restored commit kind directory)
    (bound : commit.count ≤ construction.documents.length) :
    construction.Recoverable commit kind directory := by
  have size := construction.length_shardContent kind (journaled_le bound)
  refine ⟨_, ⟨le_rfl, size.ge, ?_⟩,
    .inl ⟨restored.part_eq, restored.final_eq⟩⟩
  rw [← size]
  exact List.take_length

/-- The bytes of the candidate start with the journaled prefix. -/
theorem checkOpenPrefix_eq
    [DecidableEq Digest]
    {name : FileName}
    (kept : construction.Protected commit kind file)
    (found : directory.lookup name = some (.payload file)) :
    PackedShardWriter.checkOpenPrefix construction.sha256 name
        (construction.openRowsAt commit.count *
          rowBytes construction.config.sequenceLength kind)
        (construction.sha256 (construction.shardContent
          (construction.completedAt commit.count)
          (construction.openRowsAt commit.count) kind)) directory =
      .ok (construction.shardContent
        (construction.completedAt commit.count)
        (construction.openRowsAt commit.count) kind) := by
  unfold PackedShardWriter.checkOpenPrefix
  rw [Directory.payload?_eq_some.mpr found]
  refine (require_bind (kept.durable.trans kept.synced_le) _).trans ?_
  refine (require_bind (congrArg _ kept.agree) _).trans ?_
  exact congrArg Except.ok kept.agree

/-- The last two effects on a payload: cut the part file to the journaled
prefix and sync it. -/
theorem safely_truncatePart
    {rest : Fs Digest Cursor α}
    {post : α -> Directory Digest Cursor -> Prop}
    (committed : construction.Committed commit directory)
    (kept : construction.Protected commit kind file)
    (found : directory.lookup
        (.shardPart (construction.completedAt commit.count) kind) =
      some (.payload file))
    (missing : directory.lookup
      (.shard (construction.completedAt commit.count) kind) = none)
    (restored : ∀ current, construction.Committed commit current ->
      construction.Restored commit kind current ->
      construction.SameButOpen commit kind directory current ->
      construction.Safely rest post current) :
    construction.Safely (do
      truncateFile (.shardPart (construction.completedAt commit.count) kind)
        (construction.openRowsAt commit.count *
          rowBytes construction.config.sequenceLength kind)
      syncFile (.shardPart (construction.completedAt commit.count) kind)
      rest)
      post directory := by
  have cut : construction.Protected commit kind
      ⟨file.bytes.take (construction.openRowsAt commit.count *
          rowBytes construction.config.sequenceLength kind),
        min file.synced (construction.openRowsAt commit.count *
          rowBytes construction.config.sequenceLength kind)⟩ := by
    have durable := kept.durable
    have written := kept.synced_le
    refine ⟨?_, ?_, ?_⟩
    · simp only [List.length_take]
      omega
    · simp only
      omega
    · rw [List.take_take, Nat.min_self]
      exact kept.agree
  rw [Safely, Program.wp_bind, wp_truncateFile found]
  have untouched : construction.SameButOpen commit kind directory
      directory := fun _ _ => rfl
  have truncated := committed.modify_open (untouched.insert_part _)
    ⟨_, cut, .inl ⟨by rw [lookup_insert, if_pos rfl],
      by rw [lookup_insert, if_neg (by simp), missing]⟩⟩
  refine ⟨.inr (.inl ⟨commit, truncated⟩), ?_⟩
  rw [Program.wp_bind, wp_syncFile (by rw [lookup_insert, if_pos rfl])]
  have whole : construction.Restored commit kind
      ((directory.insert
        (.shardPart (construction.completedAt commit.count) kind)
        (.payload ⟨file.bytes.take (construction.openRowsAt commit.count *
            rowBytes construction.config.sequenceLength kind),
          min file.synced (construction.openRowsAt commit.count *
            rowBytes construction.config.sequenceLength kind)⟩)).insert
        (.shardPart (construction.completedAt commit.count) kind)
        (.payload (.sealed (file.bytes.take
          (construction.openRowsAt commit.count *
            rowBytes construction.config.sequenceLength kind))))) := by
    refine ⟨?_, ?_⟩
    · rw [lookup_insert, if_pos rfl, kept.agree]
    · rw [lookup_insert, if_neg (by simp), lookup_insert,
        if_neg (by simp), missing]
  have synced := committed.modify_open
    ((untouched.insert_part _).insert_part _)
    (whole.recoverable committed.count_le)
  exact ⟨.inr (.inl ⟨commit, synced⟩), restored _ synced whole
    ((untouched.insert_part _).insert_part _)⟩

/-- Rolling back one payload of the open shard. -/
theorem safely_restoreOpenPayload
    [DecidableEq Digest]
    (committed : construction.Committed commit directory)
    (openRows : 0 < construction.openRowsAt commit.count) :
    construction.Safely
      (PackedShardWriter.restoreOpenPayload construction.sha256
        construction.config
        (construction.record .shardPart
          (construction.completedAt commit.count)
          (construction.openRowsAt commit.count))
        (construction.completedAt commit.count) kind)
      (fun digest current =>
        digest = construction.shardContent
          (construction.completedAt commit.count)
          (construction.openRowsAt commit.count) kind ∧
        construction.Committed commit current ∧
        construction.Restored commit kind current ∧
        construction.SameButOpen commit kind directory current)
      directory := by
  obtain ⟨file, kept, place⟩ := committed.open_recoverable openRows kind
  unfold PackedShardWriter.restoreOpenPayload
  refine Safely.require (by cases kind <;> rfl) ?_
  refine Safely.require (by cases kind <;> rfl) ?_
  have hash : ((construction.record .shardPart
      (construction.completedAt commit.count)
      (construction.openRowsAt commit.count)).payload kind).sha256 =
      construction.sha256 (construction.shardContent
        (construction.completedAt commit.count)
        (construction.openRowsAt commit.count) kind) := by
    cases kind <;> rfl
  rw [hash]
  rcases place with ⟨found, missing⟩ | ⟨missing, found⟩
  · have candidate : PackedShardWriter.openCandidate
        (construction.completedAt commit.count) kind directory =
          .ok (.shardPart (construction.completedAt commit.count) kind) := by
      rw [PackedShardWriter.openCandidate, found, missing]
    rw [Safely, Program.wp_bind, Program.wp_inspect_ok candidate,
      Program.wp_bind]
    refine (Program.wp_inspect_ok (checkOpenPrefix_eq kept found)).mpr ?_
    rw [if_pos rfl, Program.wp_bind, Program.wp_pure]
    refine safely_truncatePart committed kept found missing ?_
    intro current next restored frame
    rw [Safely, Program.wp_pure]
    exact ⟨rfl, next, restored, frame⟩
  · have candidate : PackedShardWriter.openCandidate
        (construction.completedAt commit.count) kind directory =
          .ok (.shard (construction.completedAt commit.count) kind) := by
      rw [PackedShardWriter.openCandidate, found, missing]
    rw [Safely, Program.wp_bind, Program.wp_inspect_ok candidate,
      Program.wp_bind]
    refine (Program.wp_inspect_ok (checkOpenPrefix_eq kept found)).mpr ?_
    have renamed := committed.modify_open (SameButOpen.rename _)
      ⟨file, kept, .inl
        ⟨by rw [lookup_replace (by simp), if_pos rfl],
          by rw [lookup_replace (by simp), if_neg (by simp), if_pos rfl]⟩⟩
    rw [if_neg (by simp), Program.wp_bind, wp_replaceFile found]
    refine ⟨.inr (.inl ⟨commit, renamed⟩), ?_⟩
    refine safely_truncatePart renamed kept
      (by rw [lookup_replace (by simp), if_pos rfl])
      (by rw [lookup_replace (by simp), if_neg (by simp), if_pos rfl]) ?_
    intro current next restored frame
    rw [Safely, Program.wp_pure]
    refine ⟨rfl, next, restored, ?_⟩
    intro name other
    rw [frame name other]
    exact SameButOpen.rename _ name other

/-- The payload files of a directory as far as a commit needs its open shard
rolled back. -/
def OpenRestored
    (construction : Construction Digest Cursor) (commit : Commit Cursor)
    (directory : Directory Digest Cursor) : Prop :=
  0 < construction.openRowsAt commit.count ->
    ∀ kind, construction.Restored commit kind directory

/-- The digests that the writer restarts from. -/
def restoredShard
    (construction : Construction Digest Cursor)
    (commit : Commit Cursor) : Option OpenShard :=
  if construction.openRowsAt commit.count = 0 then none
  else some
    ⟨construction.shardContent (construction.completedAt commit.count)
      (construction.openRowsAt commit.count) .tokens,
    construction.shardContent (construction.completedAt commit.count)
      (construction.openRowsAt commit.count) .starts⟩

/-- Restoring one payload does not touch the other. -/
theorem Restored.keep
    {other : ShardKind}
    (restored : construction.Restored commit other directory)
    (frame : construction.SameButOpen commit kind directory current)
    (different : other ≠ kind) :
    construction.Restored commit other current := by
  refine ⟨?_, ?_⟩
  · rw [frame _ (by intro final; cases final <;> simp [openName, different])]
    exact restored.part_eq
  · rw [frame _ (by intro final; cases final <;> simp [openName, different])]
    exact restored.final_eq

/-- A generated directory with an open shard has a six-digit index for it. -/
theorem Generated.openIndex_lt
    (generated : Generated directory)
    (committed : construction.Committed commit directory)
    (openRows : 0 < construction.openRowsAt commit.count) :
    construction.completedAt commit.count < 1000000 := by
  obtain ⟨file, _, place⟩ := committed.open_recoverable openRows .tokens
  by_contra large
  rcases place with ⟨there, _⟩ | ⟨_, there⟩ <;>
    rcases generated _ (Directory.has_iff.mpr ⟨_, there⟩) with
      known | isJournal
  · simp [PackedShardWriter.generatedShard, large] at known
  · cases isJournal
  · simp [PackedShardWriter.generatedShard, large] at known
  · cases isJournal

/-- Restoring the open shard touches no other file. -/
theorem safely_restoreOpenShard
    [DecidableEq Digest]
    (committed : construction.Committed commit directory) :
    construction.Safely
      (PackedShardWriter.restoreOpenShard construction.sha256
        construction.config (construction.journal commit).state)
      (fun openShard current =>
        openShard = construction.restoredShard commit ∧
        construction.Committed commit current ∧
        construction.OpenRestored commit current ∧
        ∀ name, current.lookup name = directory.lookup name ∨
          (0 < construction.openRowsAt commit.count ∧
            ∃ final kind, name = construction.openName commit final kind))
      directory := by
  have rows := construction.rowsAt_eq commit.count
  have count : (construction.journal commit).state.completedShards.length =
      construction.completedAt commit.count :=
    construction.length_fullShards _
  unfold PackedShardWriter.restoreOpenShard restoredShard OpenRestored
  rw [count]
  by_cases whole : construction.openRowsAt commit.count = 0
  · have closed : (construction.journal commit).state.openShard = none :=
      if_pos whole
    rw [closed, if_pos whole]
    rw [whole, Nat.add_zero] at rows
    refine Safely.require rows ?_
    rw [Safely, Program.wp_pure]
    exact ⟨rfl, committed, fun openRows => by omega, fun _ => .inl rfl⟩
  · have openRows := Nat.pos_of_ne_zero whole
    have opened : (construction.journal commit).state.openShard =
        some (construction.record .shardPart
          (construction.completedAt commit.count)
          (construction.openRowsAt commit.count)) := if_neg whole
    rw [opened, if_neg whole]
    refine Safely.require rfl (Safely.require
      ⟨openRows, construction.openRowsAt_lt commit.count⟩
      (Safely.require rows ?_))
    refine (safely_restoreOpenPayload committed openRows).andThen ?_
    rintro tokensDigest middle ⟨rfl, middleCommitted, tokens, first⟩
    refine (safely_restoreOpenPayload middleCommitted openRows).andThen ?_
    rintro startsDigest final ⟨rfl, finalCommitted, starts, second⟩
    rw [Safely, Program.wp_pure]
    refine ⟨rfl, finalCommitted, ?_, ?_⟩
    · intro _ kind
      cases kind with
      | tokens => exact tokens.keep second (by simp)
      | starts => exact starts
    · intro name
      by_cases isOpen :
          ∃ final kind, name = construction.openName commit final kind
      · exact .inr ⟨openRows, isOpen⟩
      · left
        rw [second name fun final equal => isOpen ⟨final, _, equal⟩,
          first name fun final equal => isOpen ⟨final, _, equal⟩]

/-! ## Removing later files -/

/-- The files that a commit keeps. -/
def Needed
    (construction : Construction Digest Cursor) (commit : Commit Cursor) :
    FileName -> Prop
  | .shard index _ => index < construction.completedAt commit.count
  | .shardPart index _ =>
      index = construction.completedAt commit.count ∧
        0 < construction.openRowsAt commit.count
  | _ => False

theorem mem_keepPaths
    {name : FileName} :
    name ∈ PackedShardWriter.keepPaths
        (construction.journal commit).state ↔
      construction.Needed commit name := by
  have count : (construction.journal commit).state.completedShards.length =
      construction.completedAt commit.count :=
    construction.length_fullShards _
  have shards : (construction.journal commit).state.completedShards =
      construction.fullShards (construction.completedAt commit.count) := rfl
  have opened : (construction.journal commit).state.openShard =
      if construction.openRowsAt commit.count = 0 then none
      else some (construction.record .shardPart
        (construction.completedAt commit.count)
        (construction.openRowsAt commit.count)) := rfl
  unfold PackedShardWriter.keepPaths
  rw [count, shards, opened, List.mem_append, fullShards]
  simp only [List.mem_flatMap, List.mem_map, List.mem_range,
    exists_exists_and_eq_and, record, shardRecord, List.mem_cons,
    List.not_mem_nil, or_false]
  constructor
  · rintro (⟨index, bound, rfl | rfl⟩ | isOpen)
    · exact bound
    · exact bound
    · split at isOpen
      · cases isOpen
      · rename_i found
        split at found
        · cases found
        · rename_i openRows
          simp only [PackedShardWriter.shardKinds, List.map_cons,
            List.map_nil, List.mem_cons, List.not_mem_nil, or_false]
            at isOpen
          rcases isOpen with rfl | rfl <;>
            exact ⟨rfl, Nat.pos_of_ne_zero openRows⟩
  · intro needed
    cases name with
    | shard index kind => cases kind <;> exact .inl ⟨index, needed, by simp⟩
    | shardPart index kind =>
        obtain ⟨rfl, openRows⟩ := needed
        right
        rw [if_neg (Nat.ne_of_gt openRows)]
        cases kind <;> simp [PackedShardWriter.shardKinds]
    | _ => cases needed

/-- Removing files that the commit does not need keeps it. -/
theorem Committed.without
    {gone : List FileName}
    (committed : construction.Committed commit directory)
    (restored : construction.OpenRestored commit directory)
    (without : directory.Without gone current)
    (unneeded : ∀ name ∈ gone, name ≠ .journal ∧
      ¬construction.Needed commit name) :
    construction.Committed commit current ∧
      construction.OpenRestored commit current := by
  have keep (name : FileName) (needed : construction.Needed commit name) :
      current.lookup name = directory.lookup name := by
    rw [without, if_neg]
    exact fun member => (unneeded name member).2 needed
  have stay {name : FileName} (missing : directory.lookup name = none) :
      current.lookup name = none := by
    rw [without, missing]
    split <;> rfl
  have openRestored : construction.OpenRestored commit current := by
    intro openRows kind
    obtain ⟨partEq, finalEq⟩ := restored openRows kind
    exact ⟨(keep (.shardPart _ kind) ⟨rfl, openRows⟩).trans partEq,
      stay finalEq⟩
  refine ⟨⟨committed.admitted, committed.count_le, ?_, ?_, ?_, ?_⟩,
    openRestored⟩
  · rw [without, if_neg (fun member => (unneeded _ member).1 rfl)]
    exact committed.journal_eq
  · intro index bound kind
    obtain ⟨sealed, noPart⟩ := committed.completed index bound kind
    exact ⟨(keep (.shard index kind) bound).trans sealed, stay noPart⟩
  · intro openRows kind
    exact (openRestored openRows kind).recoverable committed.count_le
  · intro name present
    apply committed.names
    rw [Directory.has_iff] at present ⊢
    rw [without] at present
    split at present
    · obtain ⟨_, impossible⟩ := present
      cases impossible
    · exact present

/-- The files in progress of a rolled back directory. -/
def restoredTail
    (construction : Construction Digest Cursor) (commit : Commit Cursor)
    (kind : ShardKind) : TailFile :=
  if construction.openRowsAt commit.count = 0 then .absent
  else .part (.sealed (construction.shardContent
    (construction.completedAt commit.count)
    (construction.openRowsAt commit.count) kind))

/-- Removing every generated file that is not kept leaves exactly the directory
of a live writer. -/
theorem safely_removeUnkept
    (committed : construction.Committed commit directory)
    (restored : construction.OpenRestored commit directory)
    (generated : Generated directory) :
    construction.Safely
      (PackedShardWriter.removeUnkept (PackedShardWriter.keepPaths
        (construction.journal commit).state))
      (fun _ current => construction.InProgress commit
        (construction.completedAt commit.count)
        (construction.restoredTail commit) current)
      directory := by
  have unneeded {name : FileName}
      (member : name ∈ directory.keys.filter fun name =>
        (PackedShardWriter.generatedShard name).isSome &&
          !decide (name ∈ PackedShardWriter.keepPaths
            (construction.journal commit).state)) :
      name ≠ .journal ∧ ¬construction.Needed commit name := by
    rw [List.mem_filter, Bool.and_eq_true, Bool.not_eq_true',
      decide_eq_false_iff_not, mem_keepPaths] at member
    refine ⟨?_, member.2.2⟩
    rintro rfl
    simp [PackedShardWriter.generatedShard] at member
  unfold PackedShardWriter.removeUnkept
  rw [Safely, Program.wp_bind, wp_listDirectory]
  refine wp_unlinkAll (directory.nodupKeys.filter _) ?_ ?_ ?_
  · intro name member
    exact Directory.mem_keys.mp (List.mem_filter.mp member).1
  · intro gone current members without
    exact .inr (.inl ⟨commit, (committed.without restored without
      fun name member => unneeded (members name member)).1⟩)
  · intro current without
    obtain ⟨committed', restored'⟩ := committed.without restored without
      fun name member => unneeded member
    have removed (name : FileName) (noJournal : name ≠ .journal)
        (useless : ¬construction.Needed commit name) :
        current.lookup name = none := by
      rw [without]
      split
      · rfl
      · rename_i kept
        rw [← Directory.not_has_iff]
        intro present
        rcases generated name present with known | isJournal
        · apply kept
          rw [List.mem_filter, Bool.and_eq_true, Bool.not_eq_true',
            decide_eq_false_iff_not, mem_keepPaths]
          exact ⟨Directory.mem_keys.mpr present, known, useless⟩
        · exact noJournal isJournal
    refine ⟨committed.admitted, committed.count_le,
      ⟨committed'.journal_eq, ?_, ?_, ?_⟩, le_rfl, ?_⟩
    · intro index kind
      by_cases before : index < construction.completedAt commit.count
      · rw [if_pos before]
        exact (committed'.completed index before kind).1
      · rw [if_neg before, removed (.shard index kind) (by simp) before,
          restoredTail]
        split
        · split <;> rfl
        · rfl
    · intro index kind
      by_cases isOpen : index = construction.completedAt commit.count ∧
          0 < construction.openRowsAt commit.count
      · obtain ⟨rfl, openRows⟩ := isOpen
        rw [if_pos rfl, restoredTail, if_neg (Nat.ne_of_gt openRows)]
        exact (restored' openRows kind).part_eq
      · rw [removed (.shardPart index kind) (by simp) isOpen, restoredTail]
        split
        · rw [if_pos]
          · rfl
          · by_contra openRows
            exact isOpen ⟨‹_›, Nat.pos_of_ne_zero openRows⟩
        · rfl
    · intro name noShard noJournal
      apply removed name noJournal
      intro needed
      cases name <;> first | exact noShard trivial | cases needed
    · intro _ openRows kind
      have size :=
        construction.length_shardContent kind (journaled_le
          committed.count_le)
      refine ⟨_, .inl (if_neg (Nat.ne_of_gt openRows)), le_rfl, size.ge, ?_⟩
      rw [← size]
      exact List.take_length

/-! ## The resumed writer -/

/-- The attributes that a journal restores are those after its documents. -/
theorem idle_afterRollback
    {writer : PackedShardWriter Digest Cursor}
    (blank : construction.Idle 0 writer)
    (bound : commit.count ≤ construction.documents.length) :
    construction.Idle commit.count
      (writer.afterRollback (construction.journal commit).state
        (construction.restoredShard commit)) := by
  have masked := construction.masked_le_inputs commit.count
  have documents := construction.count_le_fed bound
  have rows := construction.rowsAt_eq commit.count
  have less := construction.openRowsAt_lt commit.count
  have openRows : (writer.afterRollback (construction.journal commit).state
      (construction.restoredShard commit)).rowsInOpenShard =
        construction.openRowsAt commit.count := by
    simp only [PackedShardWriter.afterRollback, Construction.journal]
    by_cases whole : construction.openRowsAt commit.count = 0
    · rw [if_pos whole, whole]
    · rw [if_neg whole]
      rfl
  refine ⟨?_, ?_, rfl⟩
  · refine
      { config_eq := blank.tracks.config_eq
        count_le := bound
        unfinished := blank.tracks.unfinished
        offset_le := Nat.zero_le _
        same_length := ?_
        tokens_eq := List.drop_zero
        starts_eq := List.drop_zero
        documents_eq := rfl
        content_eq := Nat.sub_add_cancel documents
        rows_le := le_rfl
        masked_eq := rfl
        loss_eq := Nat.sub_add_cancel masked
        shards_eq := ?_
        rows_eq := ?_
        open_none := ?_
        open_some := ?_ }
    · exact (length_carry construction.stream.same_length bound).trans
        (length_carry rfl bound).symm
    · simp only [PackedShardWriter.afterRollback, Construction.journal,
        length_fullShards]
    · rw [openRows]
      simp only [PackedShardWriter.afterRollback, Construction.journal,
        length_fullShards]
      exact rows
    · rw [openRows]
      intro closed
      by_contra partly
      simp only [PackedShardWriter.afterRollback, restoredShard,
        if_neg partly] at closed
      cases closed
    · rw [openRows]
      intro openShard opened kind
      simp only [PackedShardWriter.afterRollback, Construction.journal,
        length_fullShards]
      simp only [PackedShardWriter.afterRollback, restoredShard] at opened
      split at opened
      · cases opened
      · cases opened
        cases kind <;> rfl
  · refine ⟨?_, ?_⟩
    · rw [openRows]
      exact less
    · rw [openRows]
      intro opened
      by_contra whole
      apply opened
      simp only [PackedShardWriter.afterRollback, restoredShard]
      rw [if_pos (by omega)]

/-- The rolled back part files are those of the resumed writer. -/
theorem partsAgree_afterRollback
    {writer : PackedShardWriter Digest Cursor}
    (idle : construction.Idle commit.count
      (writer.afterRollback (construction.journal commit).state
        (construction.restoredShard commit))) :
    construction.PartsAgree
      (writer.afterRollback (construction.journal commit).state
        (construction.restoredShard commit))
      (construction.restoredTail commit) := by
  have opened : (writer.afterRollback (construction.journal commit).state
      (construction.restoredShard commit)).openShard =
        construction.restoredShard commit := rfl
  unfold PartsAgree
  rw [opened, idle.shards_length, idle.rowsInOpenShard_eq, restoredShard]
  by_cases whole : construction.openRowsAt commit.count = 0
  · rw [if_pos whole]
    funext kind
    exact if_pos whole
  · rw [if_neg whole]
    intro kind
    exact ⟨_, if_neg whole, le_rfl, fun _ => rfl⟩

/-- `_resume_from_journal` on a committed directory: either an unknown name is
there and nothing changes, or the writer is settled on the commit. -/
theorem wp_resumeFromJournal
    [DecidableEq Digest]
    {writer : PackedShardWriter Digest Cursor}
    (blank : construction.Idle 0 writer)
    (committed : construction.Committed commit directory) :
    (writer.resumeFromJournal construction.sha256).wp
      (fun resumed current => Generated directory ∧
        construction.Settled commit commit.count resumed current)
      (fun _ current => ¬Generated directory ∧ current = directory)
      construction.CrashState directory := by
  unfold PackedShardWriter.resumeFromJournal
  rw [Program.wp_bind, PackedShardWriter.loadJournal]
  refine (Program.wp_inspect_ok (by rw [committed.journal_eq])).mpr ?_
  rw [Program.wp_bind, blank.tracks.config_eq]
  cases checked : PackedShardWriter.checkJournal construction.sha256
      construction.config (construction.journal commit) directory with
  | error error =>
      rw [Program.wp_inspect_error checked]
      refine ⟨fun generated => ?_, rfl⟩
      rw [(checkJournal_eq_ok committed).mpr generated] at checked
      cases checked
  | ok _ =>
      rw [Program.wp_inspect_ok checked]
      have generated := (checkJournal_eq_ok committed).mp checked
      have restoring : construction.Safely (do
          let openShard ← PackedShardWriter.restoreOpenShard
            construction.sha256 construction.config
            (construction.journal commit).state
          PackedShardWriter.removeUnkept (PackedShardWriter.keepPaths
            (construction.journal commit).state)
          return writer.afterRollback (construction.journal commit).state
            openShard)
          (fun resumed current => Generated directory ∧
            construction.Settled commit commit.count resumed current)
          directory := by
        refine (safely_restoreOpenShard committed).andThen ?_
        rintro openShard middle ⟨rfl, committed', restored, frame⟩
        have generated' : Generated middle := by
          intro name present
          rcases frame name with same | ⟨openRows, final, kind, rfl⟩
          · apply generated
            rw [Directory.has_iff] at present ⊢
            rwa [same] at present
          · left
            have sixDigits := generated.openIndex_lt committed openRows
            cases final <;>
              simp [openName, PackedShardWriter.generatedShard, sixDigits]
        refine (safely_removeUnkept committed' restored generated').andThen
          ?_
        intro _ final progress
        have idle := idle_afterRollback blank committed.count_le
        rw [Safely, Program.wp_pure]
        refine ⟨generated, ⟨idle.tracks, rfl,
          construction.restoredTail commit, ?_, ?_⟩, idle.room,
          idle.rows_eq⟩
        · rw [idle.shards_length]
          exact progress
        · exact partsAgree_afterRollback idle
      exact restoring.mono (fun _ _ => id) (fun _ _ => False.elim)
        (fun _ => id)

end Construction
end CodingLlm
