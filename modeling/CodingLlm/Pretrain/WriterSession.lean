import CodingLlm.Pretrain.WriterRollback

/-!
# Sessions

A session constructs the writer and makes calls on it.  Killed sessions leave
directories; from each of them the next session starts.  Every directory of
every such history is one of three kinds: nothing committed, a committed
journal, or a finished output.
-/

namespace CodingLlm

open CrashLogic Words Slices PackedStream

variable {Digest Cursor : Type}

/-- A method call on the writer. -/
inductive Call (Cursor : Type)
  | addDocument (tokenIds : List Int) (sourceCursor : Option Cursor)
  | checkpoint (sourceCursor : Cursor)
  | finish (sourceCursor : Option Cursor)

/-- Make one call. -/
def Call.perform
    (sha256 : List Byte -> Digest)
    (writer : PackedShardWriter Digest Cursor) :
    Call Cursor -> Fs Digest Cursor (PackedShardWriter Digest Cursor)
  | .addDocument tokenIds sourceCursor =>
      writer.addDocument sha256 tokenIds sourceCursor
  | .checkpoint sourceCursor => writer.checkpoint sha256 sourceCursor
  | .finish sourceCursor => do
      let (writer, _) ← writer.finish sha256 sourceCursor
      return writer

/-- Make calls one after the other.  The caller may go on after an error; the
call that raised has then changed nothing. -/
def performAll
    (sha256 : List Byte -> Digest) :
    List (Call Cursor) -> PackedShardWriter Digest Cursor ->
      Fs Digest Cursor (PackedShardWriter Digest Cursor)
  | [], writer => pure writer
  | call :: rest, writer => do
      let writer ← tryCatch (call.perform sha256 writer) fun _ => pure writer
      performAll sha256 rest writer

/-- Construct the writer and make the calls that the caller decides on. -/
def session [DecidableEq Digest]
    (sha256 : List Byte -> Digest)
    (arguments : WriterArguments Digest)
    (policy : DrainPolicy)
    (resume : Bool)
    (caller : PackedShardWriter Digest Cursor -> List (Call Cursor)) :
    Fs Digest Cursor (PackedShardWriter Digest Cursor) := do
  let writer ← PackedShardWriter.init sha256 arguments policy resume
  performAll sha256 (caller writer) writer

namespace Construction

variable {construction : Construction Digest Cursor}
variable {commit : Commit Cursor} {cursor : Option Cursor} {count : Nat}
variable {directory current : Directory Digest Cursor}
variable {writer : PackedShardWriter Digest Cursor}

/-! ## Construction of the writer -/

/-- What a writer and its directory can be between two calls. -/
def Standing
    (construction : Construction Digest Cursor)
    (writer : PackedShardWriter Digest Cursor)
    (directory : Directory Digest Cursor) : Prop :=
  (∃ commit count, construction.Settled commit count writer directory) ∨
    ∃ cursor, construction.Final cursor writer ∧
      writer.finished = true ∧ construction.Complete cursor directory

/-- What resuming needs of a directory: no temporary manifest, and before the
manifest is there only shard indices of six digits. -/
def Resumable (directory : Directory Digest Cursor) : Prop :=
  (∀ suffix, ¬directory.Has (.manifestTemporary suffix)) ∧
    (directory.Has .manifest ∨
      ∀ index kind, directory.Has (.shard index kind) ∨
        directory.Has (.shardPart index kind) -> index < 1000000)

theorem Untouched.resumable
    (untouched : Untouched directory) : Resumable directory := by
  refine ⟨?_, .inr ?_⟩
  · intro suffix present
    obtain ⟨_, impossible⟩ := untouched _ present
    cases impossible
  · rintro index kind (present | present) <;>
      obtain ⟨_, impossible⟩ := untouched _ present <;>
      cases impossible

theorem Finished.resumable
    (finished : construction.Finished cursor directory) :
    Resumable directory := by
  refine ⟨?_, .inl (Directory.has_iff.mpr ⟨_, finished.manifest_eq⟩)⟩
  intro suffix
  rw [Directory.not_has_iff]
  exact finished.rest _ (by simp) (by simp) (by simp)

theorem Committed.no_manifest
    (committed : construction.Committed commit directory) :
    ¬directory.Has .manifest :=
  fun present => committed.names _ present

/-- Once stale temporaries are removed, a committed directory is generated
exactly when it was resumable. -/
theorem Committed.generated_iff
    (committed : construction.Committed commit directory)
    (cleaned : Cleaned directory current)
    (noStale : NoStale current) :
    Generated current ↔ Resumable directory := by
  have has {name : FileName}
      (durable : PackedShardWriter.isJournalTemporary name = false) :
      current.Has name ↔ directory.Has name := by
    rw [Directory.has_iff, Directory.has_iff, cleaned.lookup durable]
  constructor
  · intro generated
    refine ⟨?_, .inr ?_⟩
    · intro suffix present
      rcases generated _ ((has rfl).mpr present) with known | isJournal
      · cases known
      · cases isJournal
    · rintro index kind (present | present) <;>
        rcases generated _ ((has rfl).mpr present) with known | isJournal
      · by_contra large
        simp [PackedShardWriter.generatedShard, large] at known
      · cases isJournal
      · by_contra large
        simp [PackedShardWriter.generatedShard, large] at known
      · cases isJournal
  · rintro ⟨noTemporary, manifest | sixDigits⟩ name present
    · exact absurd manifest committed.no_manifest
    · have known := committed.names name (cleaned.has present)
      cases name with
      | shard index kind =>
          have bound := sixDigits index kind (.inl ((has rfl).mp present))
          simp [PackedShardWriter.generatedShard, bound]
      | shardPart index kind =>
          have bound := sixDigits index kind (.inr ((has rfl).mp present))
          simp [PackedShardWriter.generatedShard, bound]
      | journal => exact .inr rfl
      | journalTemporary suffix =>
          exact absurd present (Directory.not_has_iff.mpr (noStale suffix))
      | manifestTemporary suffix =>
          exact absurd ((has rfl).mp present) (noTemporary suffix)
      | manifest => exact known.elim
      | other _ => exact known.elim

/-- What a resumed writer exposes: the journal's cursor, or the finished
output. -/
structure Reopened
    (construction : Construction Digest Cursor)
    (directory : Directory Digest Cursor)
    (writer : PackedShardWriter Digest Cursor)
    (current : Directory Digest Cursor) : Prop where
  untouched : Untouched directory ->
    construction.Settled .initial 0 writer current
  committed : ∀ commit, construction.Committed commit directory ->
    construction.Settled commit commit.count writer current
  finished : ∀ cursor, construction.Finished cursor directory ->
    construction.Final cursor writer ∧ writer.finished = true ∧
      construction.Complete cursor current

theorem Untouched.not_has
    {name : FileName}
    (untouched : Untouched directory)
    (durable : ∀ suffix, name ≠ .journalTemporary suffix) :
    ¬directory.Has name := by
  intro present
  obtain ⟨suffix, equal⟩ := untouched name present
  exact durable suffix equal

theorem Committed.journal_has
    (committed : construction.Committed commit directory) :
    directory.Has .journal :=
  Directory.has_iff.mpr ⟨_, committed.journal_eq⟩

/-- Two commits of one directory are the same: both are read off its
journal. -/
theorem Committed.unique
    {other : Commit Cursor}
    (first : construction.Committed commit directory)
    (second : construction.Committed other directory) :
    commit = other := by
  have same := first.journal_eq.symm.trans second.journal_eq
  simp only [Option.some.injEq, Entry.journal.injEq] at same
  have cursors := congrArg (fun journal => journal.state.sourceCursor) same
  have counts := congrArg (fun journal => journal.state.documents) same
  cases commit
  cases other
  simp only [Construction.journal] at cursors counts
  rw [cursors, counts]

theorem Finished.unique
    {other : Option Cursor}
    (first : construction.Finished cursor directory)
    (second : construction.Finished other directory) :
    cursor = other := by
  have same := first.manifest_eq.symm.trans second.manifest_eq
  simp only [Option.some.injEq, Entry.manifest.injEq] at same
  have cursors :=
    congrArg (fun document => document.constructionLastSourceCursor) same
  cases cursor <;> cases other <;>
    simp_all [Construction.manifest, PackedShardWriter.manifestDocument,
      finalWriter, CursorField.ofOption]

/-- The part of `__init__` for a directory without a manifest, on a committed
directory. -/
theorem wp_startOrResume
    [DecidableEq Digest]
    (blank : construction.Idle 0 writer)
    (committed : construction.Committed commit directory) :
    (writer.startOrResume construction.sha256 true).wp
      (fun resumed current => Generated directory ∧
        construction.Settled commit commit.count resumed current)
      (fun _ _ => ¬Generated directory)
      construction.CrashState directory := by
  have nonempty : directory.keys ≠ [] := by
    intro empty
    have member := Directory.mem_keys.mpr committed.journal_has
    rw [empty] at member
    cases member
  unfold PackedShardWriter.startOrResume
  rw [Program.wp_bind, wp_listDirectory, if_neg nonempty, Program.wp_bind,
    wp_fileExists, decide_eq_true committed.journal_has, Program.wp_bind,
    require_eq_ok ⟨rfl, rfl⟩, Program.wp_lift_ok, Program.wp_bind]
  refine (wp_resumeFromJournal blank committed).mono ?_ ?_ (fun _ => id)
  · rintro resumed final ⟨generated, settled⟩
    rw [Program.wp_pure]
    exact ⟨generated, ⟨⟨{ settled.live.tracks with },
      settled.live.cursor_eq, settled.live.progress⟩,
      ⟨settled.room.open_lt, settled.room.open_pos⟩, settled.rows_eq⟩⟩
  · rintro _ _ ⟨unknown, _⟩
    exact unknown

/-- Reopening with `resume=True` fails exactly on directories that are not
resumable. -/
theorem wp_init_resume
    [DecidableEq Digest]
    {arguments : WriterArguments Digest}
    (accepts : arguments.check = .ok construction.config)
    (policy : DrainPolicy)
    (state : construction.CrashState directory) :
    (PackedShardWriter.init construction.sha256 arguments policy true).wp
      (fun writer current => Resumable directory ∧
        construction.Reopened directory writer current)
      (fun _ _ => ¬Resumable directory)
      construction.CrashState directory := by
  have blank := construction.idle_blank policy
  unfold PackedShardWriter.init
  rw [Program.wp_bind, accepts, Program.wp_lift_ok, Program.wp_bind,
    if_pos rfl]
  refine (safely_removeStale state).mono ?_ (fun _ _ => False.elim)
    (fun _ => id)
  rintro _ middle ⟨cleaned, noStale⟩
  rw [Program.wp_bind, wp_fileExists]
  rcases state with untouched | ⟨commit, committed⟩ | ⟨cursor, finished⟩
  · have empty : ∀ name, middle.lookup name = none := by
      intro name
      rw [← Directory.not_has_iff]
      intro present
      obtain ⟨suffix, rfl⟩ := untouched _ (cleaned.has present)
      exact Directory.not_has_iff.mpr (noStale suffix) present
    have noManifest : ¬middle.Has .manifest :=
      Directory.not_has_iff.mpr (empty _)
    have noKeys : middle.keys = [] := by
      rw [List.eq_nil_iff_forall_not_mem]
      intro name member
      exact Directory.not_has_iff.mpr (empty name)
        (Directory.mem_keys.mp member)
    rw [decide_eq_false noManifest, if_neg (by simp)]
    unfold PackedShardWriter.startOrResume
    rw [Program.wp_bind, wp_listDirectory, if_pos noKeys]
    refine (safely_startFresh blank rfl rfl empty).mono ?_
      (fun _ _ => False.elim) (fun _ => id)
    intro writer final settled
    refine ⟨untouched.resumable, fun _ => settled, ?_, ?_⟩
    · intro commit committed
      exact absurd committed.journal_has (untouched.not_has (by simp))
    · intro cursor finished
      exact absurd (Directory.has_iff.mpr ⟨_, finished.manifest_eq⟩)
        (untouched.not_has (by simp))
  · have committed' := committed.cleaned cleaned
    rw [decide_eq_false committed'.no_manifest, if_neg (by simp)]
    refine (wp_startOrResume blank committed').mono ?_ ?_ (fun _ => id)
    · rintro writer final ⟨generated, settled⟩
      refine ⟨(committed.generated_iff cleaned noStale).mp generated,
        ?_, ?_, ?_⟩
      · intro untouched
        exact absurd committed.journal_has (untouched.not_has (by simp))
      · intro other committedOther
        rw [← committed.unique committedOther]
        exact settled
      · intro cursor finished
        exact absurd (Directory.has_iff.mpr ⟨_, finished.manifest_eq⟩)
          committed.no_manifest
    · intro error final unknown resumable
      exact unknown
        ((committed.generated_iff cleaned noStale).mpr resumable)
  · have finished' := finished.cleaned cleaned
    have manifest : middle.Has .manifest :=
      Directory.has_iff.mpr ⟨_, finished'.manifest_eq⟩
    rw [decide_eq_true manifest, if_pos rfl, Program.wp_bind,
      require_eq_ok rfl, Program.wp_lift_ok]
    refine (safely_resumeFinished finished' policy).mono ?_
      (fun _ _ => False.elim) (fun _ => id)
    rintro writer final ⟨attributes, ended, output⟩
    refine ⟨finished.resumable, ?_, ?_, ?_⟩
    · intro untouched
      exact absurd (Directory.has_iff.mpr ⟨_, finished.manifest_eq⟩)
        (untouched.not_has (by simp))
    · intro commit committed
      exact absurd (Directory.has_iff.mpr ⟨_, finished.manifest_eq⟩)
        committed.no_manifest
    · intro other finishedOther
      rw [← finished.unique finishedOther]
      exact ⟨attributes, ended, output⟩

/-- Constructing the writer on an empty directory commits nothing. -/
theorem safely_init_empty
    [DecidableEq Digest]
    {arguments : WriterArguments Digest}
    (accepts : arguments.check = .ok construction.config)
    (policy : DrainPolicy)
    (empty : ∀ name, directory.lookup name = none) :
    construction.Safely
      (PackedShardWriter.init construction.sha256 arguments policy false)
      (construction.Settled .initial 0) directory := by
  have blank := construction.idle_blank policy
  have noManifest : ¬directory.Has .manifest :=
    Directory.not_has_iff.mpr (empty _)
  have noKeys : directory.keys = [] := by
    rw [List.eq_nil_iff_forall_not_mem]
    intro name member
    exact Directory.not_has_iff.mpr (empty name)
      (Directory.mem_keys.mp member)
  unfold PackedShardWriter.init
  rw [Safely, Program.wp_bind, accepts, Program.wp_lift_ok, Program.wp_bind,
    if_neg (by simp), Program.wp_pure, Program.wp_bind, wp_fileExists,
    decide_eq_false noManifest, if_neg (by simp)]
  unfold PackedShardWriter.startOrResume
  rw [Program.wp_bind, wp_listDirectory, if_pos noKeys]
  exact safely_startFresh blank rfl rfl empty

/-- Whatever a history left, constructing the writer either raises or yields a
writer that agrees with the directory. -/
theorem wp_init
    [DecidableEq Digest]
    {arguments : WriterArguments Digest}
    (accepts : arguments.check = .ok construction.config)
    (policy : DrainPolicy) (resume : Bool)
    (state : construction.CrashState directory) :
    (PackedShardWriter.init construction.sha256 arguments policy resume).wp
      (construction.Reopened directory) (fun _ _ => True)
      construction.CrashState directory := by
  cases resume with
  | true =>
      refine (wp_init_resume accepts policy state).mono ?_
        (fun _ _ _ => trivial) (fun _ => id)
      exact fun _ _ both => both.2
  | false =>
      by_cases noKeys : directory.keys = []
      · have empty : ∀ name, directory.lookup name = none := by
          intro name
          rw [← Directory.not_has_iff, ← Directory.mem_keys, noKeys]
          simp
        refine (safely_init_empty accepts policy empty).mono ?_
          (fun _ _ => False.elim) (fun _ => id)
        intro writer final settled
        refine ⟨fun _ => settled, ?_, ?_⟩
        · intro commit committed
          exact absurd committed.journal_has
            (Directory.not_has_iff.mpr (empty _))
        · intro cursor finished
          exact absurd (Directory.has_iff.mpr ⟨_, finished.manifest_eq⟩)
            (Directory.not_has_iff.mpr (empty _))
      · unfold PackedShardWriter.init
        rw [Program.wp_bind, accepts, Program.wp_lift_ok, Program.wp_bind,
          if_neg (by simp), Program.wp_pure, Program.wp_bind, wp_fileExists]
        by_cases manifest : directory.Has .manifest
        · rw [decide_eq_true manifest, if_pos rfl, Program.wp_bind,
            require_eq_error (by simp), Program.wp_lift_error]
          trivial
        · rw [decide_eq_false manifest, if_neg (by simp)]
          unfold PackedShardWriter.startOrResume
          rw [Program.wp_bind, wp_listDirectory, if_neg noKeys,
            Program.wp_bind, wp_fileExists, Program.wp_bind,
            require_eq_error (by simp), Program.wp_lift_error]
          trivial

/-! ## Calls -/

/-- From a number of documents on, the calls feed the construction's documents
in order, commit only what it admits, and finish only after the last. -/
def Follows (construction : Construction Digest Cursor) :
    Nat -> List (Call Cursor) -> Prop
  | _, [] => True
  | count, .addDocument tokenIds sourceCursor :: rest =>
      match PackedShardWriter.checkTokens construction.config.vocabSize
        tokenIds with
      | .ok values =>
          construction.documents[count]? = some values ∧
            (∀ given, sourceCursor = some given ->
              construction.Admits ⟨some given, count + 1⟩) ∧
            construction.Follows (count + 1) rest
      | .error _ => construction.Follows count rest
  | count, .checkpoint sourceCursor :: rest =>
      construction.Admits ⟨some sourceCursor, count⟩ ∧
        construction.Follows count rest
  | count, .finish sourceCursor :: _ =>
      count = construction.documents.length ∧
        ∀ given, sourceCursor = some given ->
          construction.Admits ⟨some given, count⟩

/-- Calls on a finished writer change nothing. -/
theorem safely_performAll_finished
    (calls : List (Call Cursor))
    (ended : writer.finished = true)
    (finished : construction.Finished cursor directory) :
    construction.Safely (performAll construction.sha256 calls writer)
      (fun result current => result = writer ∧ current = directory)
      directory := by
  induction calls with
  | nil =>
      rw [performAll, Safely, Program.wp_pure]
      exact ⟨rfl, rfl⟩
  | cons call rest inductionHypothesis =>
      have one : construction.Safely
          (tryCatch (call.perform construction.sha256 writer)
            fun _ => pure writer)
          (fun result current => result = writer ∧ current = directory)
          directory := by
        rw [Safely, Program.wp_tryCatch]
        cases call with
        | addDocument tokenIds sourceCursor =>
            rw [Call.perform, PackedShardWriter.addDocument, Program.wp_bind,
              require_eq_error (by simp [ended]), Program.wp_lift_error,
              Program.wp_pure]
            exact ⟨rfl, rfl⟩
        | checkpoint sourceCursor =>
            rw [Call.perform, PackedShardWriter.checkpoint, Program.wp_bind,
              require_eq_error (by simp [ended]), Program.wp_lift_error,
              Program.wp_pure]
            exact ⟨rfl, rfl⟩
        | finish sourceCursor =>
            rw [Call.perform, PackedShardWriter.finish, if_pos ended,
              Program.wp_bind, Program.wp_bind,
              PackedShardWriter.loadManifest]
            refine (Program.wp_inspect_ok
              (readManifest_eq finished.manifest_eq)).mpr ?_
            rw [Program.wp_pure, Program.wp_pure]
            exact ⟨rfl, rfl⟩
      rw [performAll]
      refine one.andThen ?_
      rintro result current ⟨rfl, rfl⟩
      exact inductionHypothesis

/-- One call of a caller that follows the construction. -/
theorem safely_performAll
    {calls : List (Call Cursor)}
    (settled : construction.Settled commit count writer directory)
    (follows : construction.Follows count calls) :
    construction.Safely (performAll construction.sha256 calls writer)
      construction.Standing directory := by
  induction calls generalizing commit count writer directory with
  | nil =>
      rw [performAll, Safely, Program.wp_pure]
      exact .inl ⟨commit, count, settled⟩
  | cons call rest inductionHypothesis =>
      rw [performAll, Safely, Program.wp_bind, Program.wp_tryCatch]
      cases call with
      | addDocument tokenIds sourceCursor =>
          rw [Follows] at follows
          cases checked : PackedShardWriter.checkTokens
              construction.config.vocabSize tokenIds with
          | error error =>
              rw [checked] at follows
              rw [Call.perform, PackedShardWriter.addDocument,
                Program.wp_bind,
                require_eq_ok settled.live.tracks.unfinished,
                Program.wp_lift_ok, Program.wp_bind,
                settled.live.tracks.config_eq, checked,
                Program.wp_lift_error, Program.wp_pure]
              exact inductionHypothesis settled follows
          | ok values =>
              rw [checked] at follows
              obtain ⟨next, admitted, others⟩ := follows
              refine (safely_addDocument settled checked next admitted).mono
                ?_ (fun _ _ => False.elim) (fun _ => id)
              rintro added middle ⟨commit, settled⟩
              exact inductionHypothesis settled others
      | checkpoint sourceCursor =>
          obtain ⟨admitted, others⟩ := follows
          have checkpointed : construction.Safely
              (writer.checkpointIfGiven construction.sha256
                (some sourceCursor))
              (fun written current => ∃ commit,
                construction.Settled commit count written current)
              directory := by
            apply safely_checkpointIfGiven settled
            rintro given equal
            cases equal
            exact admitted
          refine checkpointed.mono ?_ (fun _ _ => False.elim) (fun _ => id)
          rintro written middle ⟨commit, settled⟩
          exact inductionHypothesis settled others
      | finish sourceCursor =>
          obtain ⟨rfl, admitted⟩ := follows
          rw [Call.perform, Program.wp_bind]
          refine (safely_finish settled admitted).mono ?_
            (fun _ _ => False.elim) (fun _ => id)
          rintro ⟨ended, document⟩ middle
            ⟨last, finished, _, final, output⟩
          rw [Program.wp_pure]
          refine (safely_performAll_finished rest finished
            output.toFinished).weaken ?_
          rintro _ _ ⟨rfl, rfl⟩
          exact .inr ⟨last, final, finished, output⟩

/-- A session of a caller that follows the construction from the document that
the writer was opened at. -/
theorem wp_session
    [DecidableEq Digest]
    {arguments : WriterArguments Digest}
    (accepts : arguments.check = .ok construction.config)
    (policy : DrainPolicy) (resume : Bool)
    {caller : PackedShardWriter Digest Cursor -> List (Call Cursor)}
    (state : construction.CrashState directory)
    (follows : ∀ writer current,
      ((PackedShardWriter.init construction.sha256 arguments policy
        resume).run directory).result = .ok writer ->
      construction.Reopened directory writer current ->
      writer.finished = false ->
        construction.Follows writer.documents (caller writer)) :
    (session construction.sha256 arguments policy resume caller).wp
      construction.Standing (fun _ _ => True)
      construction.CrashState directory := by
  unfold session
  rw [Program.wp_bind]
  refine ((wp_init accepts policy resume state).and
    (Program.wp_result _)).mono ?_ (fun _ _ _ => trivial)
    (fun _ both => both.1)
  rintro writer current ⟨reopened, result⟩
  have calling {commit : Commit Cursor} {count : Nat}
      (settled : construction.Settled commit count writer current) :
      (performAll construction.sha256 (caller writer) writer).wp
        construction.Standing (fun _ _ => True)
        construction.CrashState current := by
    have calls := follows writer current result reopened
      settled.live.tracks.unfinished
    rw [settled.live.tracks.documents_eq] at calls
    exact (safely_performAll settled calls).mono (fun _ _ => id)
      (fun _ _ => False.elim) (fun _ => id)
  rcases state with untouched | ⟨commit, committed⟩ | ⟨cursor, output⟩
  · exact calling (reopened.untouched untouched)
  · exact calling (reopened.committed commit committed)
  · obtain ⟨final, ended, output⟩ := reopened.finished cursor output
    refine (safely_performAll_finished (caller writer) ended
      output.toFinished).mono ?_ (fun _ _ => False.elim) (fun _ => id)
    rintro _ _ ⟨rfl, rfl⟩
    exact .inr ⟨cursor, final, ended, output⟩

end Construction
end CodingLlm
