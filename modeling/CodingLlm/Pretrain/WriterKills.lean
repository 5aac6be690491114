import CodingLlm.Pretrain.FinishedOutput

/-!
# Kills and reopening without a journal

What a kill makes of a directory that a run may leave, what removing the stale
temporaries does to it, and how the writer reopens an empty directory and a
finished one.
-/

namespace CodingLlm

open CrashLogic Words Slices PackedStream

variable {Digest Cursor : Type}

namespace Construction

variable {construction : Construction Digest Cursor}
variable {commit : Commit Cursor} {cursor : Option Cursor}
variable {directory current : Directory Digest Cursor}
variable {kind : ShardKind} {file : File}

/-! ## Kills -/

theorem Protected.afterKill
    {left : File}
    (kept : construction.Protected commit kind file)
    (synced : left.synced = file.synced)
    (durable : file.synced ≤ left.bytes.length)
    (agree : left.bytes.take file.synced = file.bytes.take file.synced) :
    construction.Protected commit kind left := by
  refine ⟨by omega, by rw [synced]; exact kept.durable, ?_⟩
  rw [← kept.agree]
  have shorter (bytes : List Byte) :
      bytes.take (construction.openRowsAt commit.count *
          rowBytes construction.config.sequenceLength kind) =
        (bytes.take file.synced).take
          (construction.openRowsAt commit.count *
            rowBytes construction.config.sequenceLength kind) := by
    rw [List.take_take, Nat.min_eq_left kept.durable]
  rw [shorter, agree, ← shorter]

theorem Untouched.afterKill
    (untouched : Untouched directory)
    (killed : directory.AfterKill current) : Untouched current := by
  intro name present
  exact untouched name (killed.has present)

theorem Committed.afterKill
    (committed : construction.Committed commit directory)
    (killed : directory.AfterKill current) :
    construction.Committed commit current where
  admitted := committed.admitted
  count_le := committed.count_le
  journal_eq := killed.lookup_other committed.journal_eq (by simp)
  completed := by
    intro index bound kind
    obtain ⟨sealed, noPart⟩ := committed.completed index bound kind
    exact ⟨killed.lookup_sealed sealed, killed.lookup_none.mpr noPart⟩
  open_recoverable := by
    intro openRows kind
    obtain ⟨file, kept, place⟩ := committed.open_recoverable openRows kind
    rcases place with ⟨there, missing⟩ | ⟨missing, there⟩
    · obtain ⟨left, found, synced, durable, _, agree⟩ :=
        killed.lookup_payload there kept.synced_le
      exact ⟨left, kept.afterKill synced durable agree,
        .inl ⟨found, killed.lookup_none.mpr missing⟩⟩
    · obtain ⟨left, found, synced, durable, _, agree⟩ :=
        killed.lookup_payload there kept.synced_le
      exact ⟨left, kept.afterKill synced durable agree,
        .inr ⟨killed.lookup_none.mpr missing, found⟩⟩
  names := by
    intro name present
    exact committed.names name (killed.has present)

theorem Finished.afterKill
    (finished : construction.Finished cursor directory)
    (killed : directory.AfterKill current) :
    construction.Finished cursor current where
  manifest_eq := killed.lookup_other finished.manifest_eq (by simp)
  shard_eq := by
    intro index kind
    have before := finished.shard_eq index kind
    by_cases bound : index < construction.finalCount
    · rw [if_pos bound] at before ⊢
      exact killed.lookup_sealed before
    · rw [if_neg bound] at before ⊢
      exact killed.lookup_none.mpr before
  rest := by
    intro name noShard noManifest noJournal
    exact killed.lookup_none.mpr
      (finished.rest name noShard noManifest noJournal)

/-- Losing what was not durable leaves a directory that a run may leave. -/
theorem CrashState.afterKill
    (state : construction.CrashState directory)
    (killed : directory.AfterKill current) :
    construction.CrashState current := by
  rcases state with untouched | ⟨commit, committed⟩ | ⟨cursor, finished⟩
  · exact .inl (untouched.afterKill killed)
  · exact .inr (.inl ⟨commit, committed.afterKill killed⟩)
  · exact .inr (.inr ⟨cursor, finished.afterKill killed⟩)

end Construction

/-! ## Removing files -/

/-- `current` is `directory` without the given files. -/
def Directory.Without
    (directory : Directory Digest Cursor) (gone : List FileName)
    (current : Directory Digest Cursor) : Prop :=
  ∀ name, current.lookup name =
    if name ∈ gone then none else directory.lookup name

/-- Unlinking every file of a list, when all of them are there. -/
theorem wp_unlinkAll
    {post : Unit -> Directory Digest Cursor -> Prop}
    {fail : PyError -> Directory Digest Cursor -> Prop}
    {crash : Directory Digest Cursor -> Prop}
    {directory : Directory Digest Cursor} {names : List FileName}
    (nodup : names.Nodup)
    (present : ∀ name ∈ names, directory.Has name)
    (through : ∀ gone current, (∀ name ∈ gone, name ∈ names) ->
      directory.Without gone current -> crash current)
    (ended : ∀ current, directory.Without names current ->
      post () current) :
    (Program.forEach names unlinkFile).wp post fail crash directory := by
  refine (Program.wp_forEach
    (fun remaining current => ∃ gone, gone ++ remaining = names ∧
      directory.Without gone current)
    ⟨[], rfl, fun name => by simp⟩ ?step).weaken ?_
  case step =>
    rintro item rest current - ⟨gone, split, without⟩
    have member : item ∈ names := by
      rw [← split]
      simp
    have notGone : item ∉ gone := by
      rw [← split, List.nodup_append] at nodup
      intro inGone
      exact nodup.2.2 item inGone item (by simp) rfl
    obtain ⟨entry, found⟩ := Directory.has_iff.mp (present item member)
    have here : current.lookup item = some entry := by
      rw [without, if_neg notGone, found]
    have next : directory.Without (gone ++ [item])
        (current.erase item) := by
      intro name
      rw [lookup_erase, without]
      by_cases same : name = item
      · simp [same]
      · simp [same]
    rw [wp_unlinkFile here]
    refine ⟨through (gone ++ [item]) _ ?_ next,
      gone ++ [item], by rw [← split]; simp, next⟩
    intro name inGone
    rw [← split]
    simp only [List.mem_append, List.mem_cons] at inGone ⊢
    tauto
  rintro _ current ⟨gone, split, without⟩
  rw [List.append_nil] at split
  subst split
  exact ended current without

/-- The listed names are those that are there. -/
theorem Directory.mem_keys
    {directory : Directory Digest Cursor} {name : FileName} :
    name ∈ directory.keys ↔ directory.Has name :=
  AList.mem_keys.symm

namespace Construction

variable {construction : Construction Digest Cursor}
variable {commit : Commit Cursor} {cursor : Option Cursor}
variable {directory current : Directory Digest Cursor}

/-- No temporary journal is left. -/
def NoStale (directory : Directory Digest Cursor) : Prop :=
  ∀ suffix, directory.lookup (.journalTemporary suffix) = none

/-- `current` differs from `directory` only in that temporary journals are
missing. -/
def Cleaned (directory current : Directory Digest Cursor) : Prop :=
  ∀ name, current.lookup name = directory.lookup name ∨
    (PackedShardWriter.isJournalTemporary name = true ∧
      current.lookup name = none)

theorem Cleaned.lookup
    {name : FileName}
    (cleaned : Cleaned directory current)
    (durable : PackedShardWriter.isJournalTemporary name = false) :
    current.lookup name = directory.lookup name := by
  rcases cleaned name with same | ⟨temporary, _⟩
  · exact same
  · rw [durable] at temporary
    cases temporary

theorem Cleaned.has
    {name : FileName}
    (cleaned : Cleaned directory current)
    (present : current.Has name) : directory.Has name := by
  rw [Directory.has_iff] at present ⊢
  rcases cleaned name with same | ⟨_, missing⟩
  · rwa [same] at present
  · rw [missing] at present
    obtain ⟨_, impossible⟩ := present
    cases impossible

theorem Committed.cleaned
    (committed : construction.Committed commit directory)
    (cleaned : Cleaned directory current) :
    construction.Committed commit current := by
  apply committed.frame
  intro name durable
  apply cleaned.lookup
  cases name <;> simp_all [IsTemporary, PackedShardWriter.isJournalTemporary]

theorem Finished.cleaned
    (finished : construction.Finished cursor directory)
    (cleaned : Cleaned directory current) :
    construction.Finished cursor current where
  manifest_eq := by
    rw [cleaned.lookup rfl]
    exact finished.manifest_eq
  shard_eq := by
    intro index kind
    rw [cleaned.lookup rfl]
    exact finished.shard_eq index kind
  rest := by
    intro name noShard noManifest noJournal
    rcases cleaned name with same | ⟨_, missing⟩
    · rw [same]
      exact finished.rest name noShard noManifest noJournal
    · exact missing

theorem Untouched.cleaned
    (untouched : Untouched directory)
    (cleaned : Cleaned directory current) : Untouched current :=
  fun name present => untouched name (cleaned.has present)

theorem CrashState.cleaned
    (state : construction.CrashState directory)
    (cleaned : Cleaned directory current) :
    construction.CrashState current := by
  rcases state with untouched | ⟨commit, committed⟩ | ⟨cursor, finished⟩
  · exact .inl (untouched.cleaned cleaned)
  · exact .inr (.inl ⟨commit, committed.cleaned cleaned⟩)
  · exact .inr (.inr ⟨cursor, finished.cleaned cleaned⟩)

/-- `_remove_stale_journal_temporaries` removes temporary journals only. -/
theorem safely_removeStale
    (state : construction.CrashState directory) :
    construction.Safely PackedShardWriter.removeStaleJournalTemporaries
      (fun _ current => Cleaned directory current ∧ NoStale current)
      directory := by
  have cleaned {gone : List FileName} {current : Directory Digest Cursor}
      (temporaries : ∀ name ∈ gone, name ∈ directory.keys.filter
        PackedShardWriter.isJournalTemporary)
      (without : directory.Without gone current) :
      Cleaned directory current := by
    intro name
    by_cases isGone : name ∈ gone
    · exact .inr ⟨(List.mem_filter.mp (temporaries name isGone)).2,
        by rw [without, if_pos isGone]⟩
    · exact .inl (by rw [without, if_neg isGone])
  unfold PackedShardWriter.removeStaleJournalTemporaries
  rw [Safely, Program.wp_bind, wp_listDirectory]
  refine wp_unlinkAll (directory.nodupKeys.filter _) ?_ ?_ ?_
  · intro name member
    exact Directory.mem_keys.mp (List.mem_filter.mp member).1
  · intro gone current temporaries without
    exact state.cleaned (cleaned temporaries without)
  · intro current without
    refine ⟨cleaned (fun _ => id) without, ?_⟩
    intro suffix
    rw [without]
    split
    · rfl
    · rename_i kept
      rw [← Directory.not_has_iff, ← Directory.mem_keys]
      intro present
      exact kept (List.mem_filter.mpr ⟨present, rfl⟩)

/-! ## An empty directory -/

/-- The attributes of a writer that has been fed nothing. -/
theorem idle_blank
    (construction : Construction Digest Cursor) (policy : DrainPolicy) :
    construction.Idle 0
      { config := construction.config, policy := policy } where
  tracks := {
    config_eq := rfl
    count_le := Nat.zero_le _
    unfinished := rfl
    offset_le := Nat.zero_le _
    same_length := rfl
    tokens_eq := by simp [fed]
    starts_eq := by simp [fed]
    documents_eq := rfl
    content_eq := by simp [fed]
    rows_le := Nat.zero_le _
    masked_eq := by simp
    loss_eq := by simp
    shards_eq := rfl
    rows_eq := by simp
    open_none := fun _ => rfl
    open_some := by
      intro openShard impossible
      cases impossible }
  room := ⟨construction.config.rowsPerShard_pos,
    fun impossible => absurd rfl impossible⟩
  rows_eq := by simp [rowsAt, fed, rowCount]

/-- `__init__` in an empty directory commits the initial journal. -/
theorem safely_startFresh
    {writer : PackedShardWriter Digest Cursor}
    (idle : construction.Idle 0 writer)
    (closed : writer.openShard = none)
    (clean : writer.openShardDirty = false)
    (empty : ∀ name, directory.lookup name = none) :
    construction.Safely (writer.writeJournal construction.sha256 none)
      (construction.Settled .initial 0) directory := by
  unfold PackedShardWriter.writeJournal PackedShardWriter.syncOpenShard
  rw [if_pos clean, Safely, Program.wp_bind, Program.wp_pure,
    Program.wp_bind, idle.journalPayload_eq, Program.wp_lift_ok,
    Program.wp_bind]
  have empty' : writer.shards.length = 0 := by
    rw [idle.shards_length]
    simp [completedAt, rowsAt, fed, rowCount]
  refine safely_atomicJson (fun suffix => empty _) (by simp) ?_ ?_
  · intro current suffix value same
    left
    intro name present
    rw [Directory.has_iff, same, lookup_insert] at present
    by_cases isTemporary : name = .journalTemporary suffix
    · exact ⟨suffix, isTemporary⟩
    · rw [if_neg isTemporary, empty] at present
      obtain ⟨_, impossible⟩ := present
      cases impossible
  · intro final same
    have progress : construction.InProgress .initial writer.shards.length
        (fun _ => .absent) final := by
      rw [empty']
      refine ⟨construction.admits_initial, Nat.zero_le _,
        ⟨?_, ?_, ?_, ?_⟩, ?_, ?_⟩
      · rw [same, lookup_insert, if_pos rfl]
        rfl
      · intro index kind
        rw [same, lookup_insert, if_neg (by simp), empty]
        simp [TailFile.finalEntry]
      · intro index kind
        rw [same, lookup_insert, if_neg (by simp), empty]
        simp [TailFile.partEntry]
      · intro name _ noJournal
        rw [same, lookup_insert, if_neg noJournal, empty]
      · simp [Commit.initial, completedAt, rowsAt, fed, rowCount]
      · intro _ impossible
        simp [Commit.initial, openRowsAt, rowsAt, fed, rowCount] at impossible
    rw [Program.wp_pure]
    refine ⟨progress.crashState, ⟨⟨{ idle.tracks with }, rfl, _, progress,
      ?_⟩, ⟨idle.room.open_lt, idle.room.open_pos⟩, idle.rows_eq⟩⟩
    simp only [PartsAgree, closed]

end Construction
end CodingLlm
