import CodingLlm.Pretrain.WriterRefeed

/-!
# Crashes and resumption

Two properties of every history of killed sessions.  A caller that feeds its
documents again from the exposed cursor ends with the output of a run that was
never interrupted.  And a directory can be reopened exactly when no temporary
manifest is in it and its shard indices have six digits.
-/

namespace CodingLlm

open CrashLogic Words Slices PackedStream

variable {Digest Cursor : Type}

/-! ## Transparency -/

section Transparency

/-- From an index on, the calls feed the documents in order, with cursors that
are the index of the next document, and finish only after the last. -/
def Feeds (documents : List (List Nat)) : Nat -> List (Call Nat) -> Prop
  | _, [] => True
  | next, .addDocument tokenIds sourceCursor :: rest =>
      documents[next]?.map (List.map Int.ofNat) = some tokenIds ∧
        (∀ given, sourceCursor = some given -> given = next + 1) ∧
        Feeds documents (next + 1) rest
  | next, .checkpoint sourceCursor :: rest =>
      sourceCursor = next ∧ Feeds documents next rest
  | next, .finish sourceCursor :: _ =>
      next = documents.length ∧
        ∀ given, sourceCursor = some given -> given = next

/-- A caller that feeds the documents from the exposed cursor on, the first one
when there is none. -/
def Refeeds
    (documents : List (List Nat))
    (caller : PackedShardWriter Digest Nat -> List (Call Nat)) : Prop :=
  ∀ writer, writer.finished = false ->
    Feeds documents (writer.sourceCursor.getD 0) (caller writer)

/-- A session of a caller that feeds the documents. -/
def FeedingSession
    [DecidableEq Digest]
    (sha256 : List Byte -> Digest)
    (config : WriterConfig Digest)
    (documents : List (List Nat))
    (program : Fs Digest Nat (PackedShardWriter Digest Nat)) : Prop :=
  ∃ arguments policy resume caller,
    arguments.check = .ok config ∧ Refeeds documents caller ∧
      program = session sha256 arguments policy resume caller

/-- The run ended normally with a finished writer. -/
def Finishes
    (outcome : Outcome (Directory Digest Nat) PyError
      (PackedShardWriter Digest Nat)) : Prop :=
  ∃ writer, outcome.result = .ok writer ∧ writer.finished = true

instance
    (outcome : Outcome (Directory Digest Nat) PyError
      (PackedShardWriter Digest Nat)) : Decidable (Finishes outcome) :=
  match equal : outcome.result with
  | .ok writer =>
      if ended : writer.finished = true then
        .isTrue ⟨writer, equal, ended⟩
      else .isFalse fun ⟨other, result, finished⟩ => by
        rw [equal] at result
        cases result
        exact ended finished
  | .error _ => .isFalse fun ⟨_, result, _⟩ => by
      rw [equal] at result
      cases result

/-- A manifest without the cursor of the last checkpoint. -/
def PackedManifestJson.withoutCursor
    (document : PackedManifestJson Digest Cursor) :
    PackedManifestJson Digest Cursor :=
  { document with constructionLastSourceCursor := .null }

/-- Two directories hold the same shard files, and manifests that agree on all
shard records and counters. -/
def SameOutput (left right : Directory Digest Nat) : Prop :=
  (∀ index kind, left.payload? (.shard index kind) =
      right.payload? (.shard index kind)) ∧
    ∃ leftDocument rightDocument,
      left.lookup .manifest = some (.manifest leftDocument) ∧
      right.lookup .manifest = some (.manifest rightDocument) ∧
      leftDocument.withoutCursor = rightDocument.withoutCursor

variable {sha256 : List Byte -> Digest} {config : WriterConfig Digest}
variable {documents : List (List Nat)}
variable {construction : Construction Digest Nat}
variable {directory current : Directory Digest Nat}

/-- The caller commits document indices. -/
def Construction.ByIndex (construction : Construction Digest Nat) : Prop :=
  ∀ commit, construction.Admits commit ↔
    commit.cursor.getD 0 = commit.count

/-- Calls that feed the documents follow their construction. -/
theorem Feeds.follows
    {next : Nat} {calls : List (Call Nat)}
    (byIndex : construction.ByIndex)
    (feeds : Feeds construction.documents next calls) :
    construction.Follows next calls := by
  induction calls generalizing next with
  | nil => trivial
  | cons call rest inductionHypothesis =>
      cases call with
      | addDocument tokenIds sourceCursor =>
          obtain ⟨found, cursors, others⟩ := feeds
          rw [Option.map_eq_some_iff] at found
          obtain ⟨document, present, rfl⟩ := found
          have member := List.mem_of_getElem? present
          rw [Construction.Follows,
            Construction.checkTokens_ofNat (construction.documents_ne _ member)
              (construction.documents_lt _ member)]
          refine ⟨present, ?_, inductionHypothesis others⟩
          intro given equal
          exact (byIndex _).mpr (cursors given equal)
      | checkpoint sourceCursor =>
          exact ⟨(byIndex _).mpr feeds.1, inductionHypothesis feeds.2⟩
      | finish sourceCursor =>
          refine ⟨feeds.1, ?_⟩
          intro given equal
          exact (byIndex _).mpr (feeds.2 given equal)

section Sessions

variable [DecidableEq Digest]
variable {arguments : WriterArguments Digest}
variable {caller : PackedShardWriter Digest Nat -> List (Call Nat)}

/-- A session of a caller that feeds the documents, from any directory such
sessions leave. -/
theorem wp_feedingSession
    (byIndex : construction.ByIndex)
    (accepts : arguments.check = .ok construction.config)
    (policy : DrainPolicy) (resume : Bool)
    (refeeds : Refeeds construction.documents caller)
    (state : construction.CrashState directory) :
    (session construction.sha256 arguments policy resume caller).wp
      construction.Standing (fun _ _ => True) construction.CrashState
      directory := by
  refine Construction.wp_session accepts policy resume state ?_
  intro writer current _ reopened unfinished
  have place {commit : Commit Nat}
      (settled : construction.Settled commit commit.count writer current) :
      writer.documents = writer.sourceCursor.getD 0 := by
    obtain ⟨_, progress, _⟩ := settled.live.progress
    rw [settled.live.tracks.documents_eq, settled.live.cursor_eq]
    exact ((byIndex commit).mp progress.admitted).symm
  have documentsEq : writer.documents = writer.sourceCursor.getD 0 := by
    rcases state with untouched | ⟨commit, committed⟩ | ⟨cursor, output⟩
    · exact place (reopened.untouched untouched)
    · exact place (reopened.committed commit committed)
    · have ended := (reopened.finished cursor output).2.1
      rw [unfinished] at ended
      cases ended
  rw [documentsEq]
  exact (refeeds writer unfinished).follows byIndex

/-- Whatever killed sessions left, it is a directory of the construction. -/
theorem crashState_of_survives
    (byIndex : construction.ByIndex)
    (history : Program.Survives (FeedingSession construction.sha256
      construction.config construction.documents)
      Directory.AfterKill ∅ directory) :
    construction.CrashState directory := by
  refine history.invariant _ ?_ ?_ ?_
  · left
    intro name present
    exact absurd present (AList.notMem_empty name)
  · rintro program before ⟨arguments, policy, resume, caller, accepts,
      refeeds, rfl⟩ state
    exact ⟨_, _,
      wp_feedingSession byIndex accepts policy resume refeeds state⟩
  · exact fun before after state killed => state.afterKill killed

/-- A session that finished leaves the output of the construction. -/
theorem finished_of_finishes
    (byIndex : construction.ByIndex)
    (accepts : arguments.check = .ok construction.config)
    (policy : DrainPolicy) (resume : Bool)
    (refeeds : Refeeds construction.documents caller)
    (state : construction.CrashState directory)
    (finishes : Finishes ((session construction.sha256 arguments policy
      resume caller).run directory)) :
    ∃ cursor, construction.Finished cursor
      ((session construction.sha256 arguments policy resume caller).run
        directory).final := by
  obtain ⟨writer, result, ended⟩ := finishes
  have standing :=
    (wp_feedingSession byIndex accepts policy resume refeeds state).ok
      result
  rcases standing with ⟨commit, count, settled⟩ | ⟨cursor, _, _, output⟩
  · rw [settled.live.tracks.unfinished] at ended
    cases ended
  · exact ⟨cursor, output.toFinished⟩

end Sessions

theorem sameOutput_of_finished
    {first second : Option Nat}
    (left : construction.Finished first directory)
    (right : construction.Finished second current) :
    SameOutput directory current := by
  refine ⟨?_, _, _, left.manifest_eq, right.manifest_eq, rfl⟩
  intro index kind
  unfold Directory.payload?
  rw [left.shard_eq, right.shard_eq]

/-- The construction of a caller whose cursors are document indices. -/
def feeding
    (sha256 : List Byte -> Digest)
    (config : WriterConfig Digest)
    (documents : List (List Nat))
    (nonempty : ∀ document ∈ documents, document ≠ [])
    (inVocabulary : ∀ document ∈ documents, ∀ token ∈ document,
      token < config.vocabSize) : Construction Digest Nat where
  config := config
  sha256 := sha256
  documents := documents
  documents_ne := nonempty
  documents_lt := inVocabulary
  Admits := fun commit => commit.cursor.getD 0 = commit.count
  admits_initial := rfl

end Transparency

/-! ## A small construction -/

section Small

/-- Arguments of a construction with rows of two inputs and shards of one row,
whose digests are the hashed bytes themselves. -/
def smallArguments : WriterArguments (List Byte) where
  domain := "python"
  split := "train"
  sequenceLength := 2
  vocabSize := 4
  eosTokenId := 0
  tokenizerManifestSha256 := .sha256 []
  rowsPerShard := 1
  constructionSeed := none
  curationPolicySha256 := .null
  selectionManifestSha256 := .null

/-- The configuration that the constructor makes of them. -/
def smallConfig : WriterConfig (List Byte) where
  domain := .python
  split := "train"
  sequenceLength := 2
  vocabSize := 4
  eosTokenId := 0
  tokenizerManifestSha256 := []
  rowsPerShard := 1
  constructionSeed := none
  curationPolicySha256 := none
  selectionManifestSha256 := none
  split_ne_empty := by decide
  two_le_sequenceLength := by decide
  vocabSize_bounds := by decide
  eosTokenId_lt := by decide
  rowsPerShard_pos := by decide

theorem smallArguments_check : smallArguments.check = .ok smallConfig := rfl

/-- A configuration for rows of another width. -/
def WriterConfig.withSequenceLength
    (config : WriterConfig Digest)
    (sequenceLength : Nat)
    (wide : 2 ≤ sequenceLength) : WriterConfig Digest :=
  { config with
    sequenceLength
    two_le_sequenceLength := wide }

/-- Two documents that fill two rows. -/
def smallDocuments : List (List Nat) := [[1, 2, 3], [1]]

/-- A caller that feeds them with a checkpoint after the first. -/
def smallCaller (writer : PackedShardWriter (List Byte) Nat) :
    List (Call Nat) :=
  match writer.sourceCursor with
  | none =>
      [.addDocument [1, 2, 3] (some 1), .addDocument [1] none, .finish none]
  | some 1 => [.addDocument [1] none, .finish none]
  | _ => []

theorem smallCaller_refeeds : Refeeds smallDocuments smallCaller := by
  intro writer _
  unfold smallCaller
  split <;> rename_i cursor <;> simp [Feeds, smallDocuments, cursor]

/-- The caller's session. -/
abbrev smallSession : Fs (List Byte) Nat (PackedShardWriter (List Byte) Nat) :=
  session id smallArguments .default true smallCaller

/-- What the session leaves when it is killed between the two renames of its
second shard. -/
def halfRenamed : Directory (List Byte) Nat :=
  (smallSession.run ∅).visited[20]?.getD ∅

theorem halfRenamed_survives :
    Program.Survives
      (FeedingSession id smallConfig smallDocuments)
      Directory.AfterKill ∅ halfRenamed :=
  .restart .start
    ⟨smallArguments, .default, true, smallCaller, smallArguments_check,
      smallCaller_refeeds, rfl⟩
    (.inr (List.mem_of_getElem?
      (show (smallSession.run ∅).visited[20]? = some halfRenamed from rfl)))
    (.refl _)

end Small

section Transparency

variable {sha256 : List Byte -> Digest} {config : WriterConfig Digest}
variable {documents : List (List Nat)}

/-- Crashes are transparent: after any number of kills at any moments, a caller
that feeds the documents again from the exposed cursor and finishes has the
same shard files, shard records and counters as a caller that was never
interrupted. -/
theorem resume_transparent
    [DecidableEq Digest]
    {directory : Directory Digest Nat}
    {arguments reference : WriterArguments Digest}
    {policy referencePolicy : DrainPolicy} {referenceResume : Bool}
    {caller referenceCaller :
      PackedShardWriter Digest Nat -> List (Call Nat)}
    (documentsNonempty : ∀ document ∈ documents, document ≠ [])
    (documentsInVocabulary : ∀ document ∈ documents, ∀ token ∈ document,
      token < config.vocabSize)
    (history : Program.Survives (FeedingSession sha256 config documents)
      Directory.AfterKill ∅ directory)
    (accepts : arguments.check = .ok config)
    (refeeds : Refeeds documents caller)
    (finishes : Finishes
      ((session sha256 arguments policy true caller).run directory))
    (referenceAccepts : reference.check = .ok config)
    (referenceRefeeds : Refeeds documents referenceCaller)
    (referenceFinishes : Finishes
      ((session sha256 reference referencePolicy referenceResume
        referenceCaller).run ∅)) :
    SameOutput
      ((session sha256 arguments policy true caller).run directory).final
      ((session sha256 reference referencePolicy referenceResume
        referenceCaller).run ∅).final := by
  have byIndex : (feeding sha256 config documents documentsNonempty
      documentsInVocabulary).ByIndex := fun _ => Iff.rfl
  obtain ⟨_, resumed⟩ := finished_of_finishes byIndex accepts policy true
    refeeds (crashState_of_survives byIndex history) finishes
  obtain ⟨_, uninterrupted⟩ := finished_of_finishes byIndex referenceAccepts
    referencePolicy referenceResume referenceRefeeds
    (crashState_of_survives byIndex .start) referenceFinishes
  exact sameOutput_of_finished resumed uninterrupted

/-- Resuming after the kill between the two renames gives the uninterrupted
output. -/
theorem resume_transparent_halfRenamed :
    halfRenamed.Has (.shard 1 .tokens) ∧
      halfRenamed.Has (.shardPart 1 .starts) ∧
      SameOutput (smallSession.run halfRenamed).final
        (smallSession.run ∅).final :=
  ⟨by decide, by decide,
    resume_transparent (by decide) (by decide) halfRenamed_survives
      smallArguments_check smallCaller_refeeds (by decide +kernel)
      smallArguments_check smallCaller_refeeds (by decide +kernel)⟩

end Transparency

/-! ## Reopening -/

section Reopening

/-- A session of any caller: any calls with any cursors, decided on from the
opened writer. -/
def AnySession
    [DecidableEq Digest]
    (sha256 : List Byte -> Digest)
    (config : WriterConfig Digest)
    (program : Fs Digest Cursor (PackedShardWriter Digest Cursor)) : Prop :=
  ∃ arguments policy resume caller,
    arguments.check = .ok config ∧
      program = session sha256 arguments policy resume caller

/-- The cursor that the journal in a directory commits. -/
def Directory.committedCursor
    (directory : Directory Digest Cursor) : Option Cursor :=
  match directory.lookup .journal with
  | some (.journal journal) => journal.state.sourceCursor
  | _ => none

/-- The writer exposes the finished manifest, if there is one, and else the
last committed cursor. -/
def Exposes
    (sha256 : List Byte -> Digest)
    (directory current : Directory Digest Cursor)
    (writer : PackedShardWriter Digest Cursor) : Prop :=
  match directory.lookup .manifest with
  | some (.manifest document) =>
      writer.finished = true ∧
        ((writer.finish sha256 none).run current).result =
          .ok (writer, document)
  | _ =>
      writer.finished = false ∧
        writer.sourceCursor = directory.committedCursor

/-- Constructing the writer again with `resume=True` does not raise, and
exposes what was committed. -/
def Reopens
    [DecidableEq Digest]
    (sha256 : List Byte -> Digest)
    (arguments : WriterArguments Digest)
    (policy : DrainPolicy)
    (directory : Directory Digest Cursor) : Prop :=
  ∃ writer,
    ((PackedShardWriter.init sha256 arguments policy true).run
      directory).result = .ok writer ∧
    Exposes sha256 directory
      ((PackedShardWriter.init sha256 arguments policy true).run
        directory).final writer

/-- Documents that the calls feed before they finish. -/
def fedBy (vocabSize : Nat) : List (Call Cursor) -> List (List Nat)
  | [] => []
  | .addDocument tokenIds _ :: rest =>
      match PackedShardWriter.checkTokens vocabSize tokenIds with
      | .ok values => values :: fedBy vocabSize rest
      | .error _ => fedBy vocabSize rest
  | .checkpoint _ :: rest => fedBy vocabSize rest
  | .finish _ :: _ => []

theorem mem_fedBy
    {vocabSize : Nat} {calls : List (Call Cursor)} {document : List Nat}
    (member : document ∈ fedBy vocabSize calls) :
    document ≠ [] ∧ ∀ token ∈ document, token < vocabSize := by
  induction calls with
  | nil => cases member
  | cons call rest inductionHypothesis =>
      cases call with
      | addDocument tokenIds sourceCursor =>
          rw [fedBy] at member
          cases checked : PackedShardWriter.checkTokens vocabSize tokenIds with
          | error error =>
              rw [checked] at member
              exact inductionHypothesis member
          | ok values =>
              rw [checked] at member
              rcases List.mem_cons.mp member with rfl | later
              · obtain ⟨⟨filled, bounded⟩, rfl⟩ :=
                  Construction.checkTokens_eq_ok.mp checked
                refine ⟨by simpa using filled, ?_⟩
                intro token inside
                obtain ⟨tokenId, present, rfl⟩ := List.mem_map.mp inside
                have := bounded tokenId present
                omega
              · exact inductionHypothesis later
      | checkpoint sourceCursor => exact inductionHypothesis member
      | finish sourceCursor => cases member

namespace Construction

variable {construction : Construction Digest Cursor}
variable {directory current : Directory Digest Cursor}

/-- Calls follow a construction that ends with the documents they feed. -/
theorem follows_fedBy
    (admitsAll : ∀ commit, construction.Admits commit)
    {count : Nat} {calls : List (Call Cursor)}
    (bound : count ≤ construction.documents.length)
    (rest : construction.documents.drop count =
      fedBy construction.config.vocabSize calls) :
    construction.Follows count calls := by
  induction calls generalizing count with
  | nil => trivial
  | cons call later inductionHypothesis =>
      cases call with
      | addDocument tokenIds sourceCursor =>
          rw [fedBy] at rest
          rw [Follows]
          cases checked : PackedShardWriter.checkTokens
              construction.config.vocabSize tokenIds with
          | error error =>
              rw [checked] at rest
              exact inductionHypothesis bound rest
          | ok values =>
              rw [checked] at rest
              have inside : count < construction.documents.length := by
                have lengths := congrArg List.length rest
                simp only [List.length_drop, List.length_cons] at lengths
                omega
              rw [List.drop_eq_getElem_cons inside, List.cons.injEq] at rest
              refine ⟨?_, fun _ _ => admitsAll _,
                inductionHypothesis inside rest.2⟩
              rw [List.getElem?_eq_getElem inside, rest.1]
      | checkpoint sourceCursor =>
          exact ⟨admitsAll _, inductionHypothesis bound rest⟩
      | finish sourceCursor =>
          refine ⟨?_, fun _ _ => admitsAll _⟩
          have lengths := congrArg List.length rest
          simp only [fedBy, List.length_drop, List.length_nil] at lengths
          omega

/-- The directories of all constructions with one configuration whose callers
may commit anything. -/
def AnyCrashState
    (sha256 : List Byte -> Digest) (config : WriterConfig Digest)
    (directory : Directory Digest Cursor) : Prop :=
  ∃ construction : Construction Digest Cursor,
    construction.sha256 = sha256 ∧ construction.config = config ∧
      (∀ commit, construction.Admits commit) ∧
      construction.CrashState directory

/-- For any calls on the opened writer there is a construction that the
directory belongs to and that the calls follow. -/
theorem exists_followed
    (admitsAll : ∀ commit, construction.Admits commit)
    (state : construction.CrashState directory)
    {writer : PackedShardWriter Digest Cursor}
    (reopened : construction.Reopened directory writer current)
    (calls : List (Call Cursor)) :
    ∃ next : Construction Digest Cursor,
      next.sha256 = construction.sha256 ∧
      next.config = construction.config ∧
      (∀ commit, next.Admits commit) ∧
      next.CrashState directory ∧
      (writer.finished = false -> next.Follows writer.documents calls) := by
  have refed {commit : Commit Cursor}
      (settled : construction.Settled commit commit.count writer current)
      (kept : ∀ documents ne lt,
        documents.take commit.count =
          construction.documents.take commit.count ->
        (construction.refeed documents ne lt).CrashState directory) :
      ∃ next : Construction Digest Cursor,
        next.sha256 = construction.sha256 ∧
        next.config = construction.config ∧
        (∀ commit, next.Admits commit) ∧
        next.CrashState directory ∧
        (writer.finished = false ->
          next.Follows writer.documents calls) := by
    have bound := settled.live.tracks.count_le
    have valid : ∀ document ∈
        construction.documents.take commit.count ++
          fedBy construction.config.vocabSize calls,
        document ≠ [] ∧ ∀ token ∈ document,
          token < construction.config.vocabSize := by
      intro document member
      rcases List.mem_append.mp member with before | fed
      · have old := List.mem_of_mem_take before
        exact ⟨construction.documents_ne document old,
          construction.documents_lt document old⟩
      · exact mem_fedBy fed
    have length : (construction.documents.take commit.count).length =
        commit.count := by
      rw [List.length_take]
      omega
    refine ⟨construction.refeed
      (construction.documents.take commit.count ++
        fedBy construction.config.vocabSize calls)
      (fun document member => (valid document member).1)
      (fun document member => (valid document member).2),
      rfl, rfl, admitsAll, kept _ _ _ ?_, ?_⟩
    · rw [List.take_append_of_le_length length.ge, List.take_take,
        Nat.min_self]
    · intro _
      rw [settled.live.tracks.documents_eq]
      apply follows_fedBy
      · exact admitsAll
      · simp only [refeed, List.length_append]
        omega
      · exact List.drop_left' length
  rcases state with untouched | ⟨commit, committed⟩ | ⟨cursor, output⟩
  · exact refed (reopened.untouched untouched)
      fun _ _ _ _ => .inl untouched
  · exact refed (reopened.committed commit committed)
      fun _ _ _ same => .inr (.inl ⟨commit, committed.refeed same⟩)
  · refine ⟨construction, rfl, rfl, admitsAll,
      .inr (.inr ⟨cursor, output⟩), ?_⟩
    intro unfinished
    rw [(reopened.finished cursor output).2.1] at unfinished
    cases unfinished

/-- A session of any caller from a directory of some construction: it ends with
a writer and a directory of some construction. -/
theorem wp_anySession
    [DecidableEq Digest]
    {sha256 : List Byte -> Digest} {config : WriterConfig Digest}
    {arguments : WriterArguments Digest}
    (accepts : arguments.check = .ok config)
    (policy : DrainPolicy) (resume : Bool)
    (caller : PackedShardWriter Digest Cursor -> List (Call Cursor))
    (state : AnyCrashState sha256 config directory) :
    (session sha256 arguments policy resume caller).wp
      (fun writer current => ∃ construction : Construction Digest Cursor,
        construction.sha256 = sha256 ∧ construction.config = config ∧
          construction.Standing writer current)
      (fun _ _ => True) (AnyCrashState sha256 config) directory := by
  obtain ⟨construction, rfl, rfl, admitsAll, state⟩ := state
  cases opened : ((PackedShardWriter.init construction.sha256 arguments
      policy resume).run directory).result with
  | error error =>
      refine (wp_session accepts policy resume state ?_).mono
        (fun _ _ standing => ⟨construction, rfl, rfl, standing⟩)
        (fun _ _ => id)
        fun _ visited => ⟨construction, rfl, rfl, admitsAll, visited⟩
      intro writer current result
      rw [opened] at result
      cases result
  | ok writer =>
      have reopened := (wp_init accepts policy resume state).ok opened
      obtain ⟨next, shaEq, configEq, nextAdmits, nextState, follows⟩ :=
        exists_followed admitsAll state reopened (caller writer)
      rw [← configEq] at accepts
      rw [← shaEq] at opened ⊢
      refine (wp_session accepts policy resume nextState ?_).mono
        (fun _ _ standing => ⟨next, rfl, configEq, standing⟩)
        (fun _ _ => id)
        fun _ visited => ⟨next, rfl, configEq, nextAdmits, visited⟩
      intro other current result _ unfinished
      rw [opened] at result
      cases result
      exact follows unfinished

/-- Killed sessions of any callers leave a directory of some construction. -/
theorem anyCrashState_of_survives
    [DecidableEq Digest]
    {sha256 : List Byte -> Digest} {config : WriterConfig Digest}
    (history : Program.Survives (AnySession sha256 config)
      Directory.AfterKill ∅ directory) :
    AnyCrashState sha256 config directory := by
  refine history.invariant _ ?_ ?_ ?_
  · refine ⟨⟨config, sha256, [], by simp, by simp, fun _ => True, trivial⟩,
      rfl, rfl, fun _ => trivial, .inl ?_⟩
    intro name present
    exact absurd present (AList.notMem_empty name)
  · rintro program before ⟨arguments, policy, resume, caller, accepts, rfl⟩
      state
    exact ⟨_, _, wp_anySession accepts policy resume caller state⟩
  · rintro before after ⟨construction, sha, config, admits, state⟩ killed
    exact ⟨construction, sha, config, admits, state.afterKill killed⟩

/-- A session that ends with a finished writer leaves a complete output, after
any killed sessions. -/
theorem exists_complete_of_finished
    [DecidableEq Digest]
    {sha256 : List Byte -> Digest} {config : WriterConfig Digest}
    {arguments : WriterArguments Digest}
    {policy : DrainPolicy} {resume : Bool}
    {caller : PackedShardWriter Digest Cursor -> List (Call Cursor)}
    {writer : PackedShardWriter Digest Cursor}
    (history : Program.Survives (AnySession sha256 config)
      Directory.AfterKill ∅ directory)
    (accepts : arguments.check = .ok config)
    (ended : ((session sha256 arguments policy resume caller).run
      directory).result = .ok writer)
    (finished : writer.finished = true) :
    ∃ (construction : Construction Digest Cursor) (cursor : Option Cursor),
      construction.sha256 = sha256 ∧ construction.config = config ∧
        construction.Complete cursor
          ((session sha256 arguments policy resume caller).run
            directory).final := by
  obtain ⟨construction, sha, configEq, standing⟩ :=
    (wp_anySession accepts policy resume caller
      (anyCrashState_of_survives history)).ok ended
  rcases standing with ⟨commit, count, settled⟩ | ⟨cursor, _, _, complete⟩
  · rw [settled.live.tracks.unfinished] at finished
    cases finished
  · exact ⟨construction, cursor, sha, configEq, complete⟩

/-- A reopened writer exposes what the directory had committed. -/
theorem Reopened.exposes
    {writer : PackedShardWriter Digest Cursor}
    (state : construction.CrashState directory)
    (reopened : construction.Reopened directory writer current) :
    Exposes construction.sha256 directory current writer := by
  unfold Exposes
  rcases state with untouched | ⟨commit, committed⟩ | ⟨cursor, output⟩
  · have settled := reopened.untouched untouched
    have noManifest := Directory.not_has_iff.mp
      (untouched.not_has (show ∀ suffix,
        FileName.manifest ≠ .journalTemporary suffix by simp))
    have noJournal := Directory.not_has_iff.mp
      (untouched.not_has (show ∀ suffix,
        FileName.journal ≠ .journalTemporary suffix by simp))
    rw [noManifest, Directory.committedCursor, noJournal]
    exact ⟨settled.live.tracks.unfinished, settled.live.cursor_eq⟩
  · have settled := reopened.committed commit committed
    rw [Directory.not_has_iff.mp committed.no_manifest,
      Directory.committedCursor, committed.journal_eq]
    exact ⟨settled.live.tracks.unfinished, settled.live.cursor_eq⟩
  · obtain ⟨final, ended, finished⟩ := reopened.finished cursor output
    rw [output.manifest_eq]
    refine ⟨ended, ?_⟩
    have run : (writer.finish construction.sha256 none).wp
        (fun result _ => result = (writer, construction.manifest cursor))
        (fun _ _ => False) (fun _ => True) current := by
      rw [PackedShardWriter.finish, if_pos ended, Program.wp_bind,
        PackedShardWriter.loadManifest]
      refine (Program.wp_inspect_ok
        (readManifest_eq finished.manifest_eq)).mpr ?_
      rw [Program.wp_pure]
    obtain ⟨_, result, rfl⟩ := run.terminates
    exact result

/-- On every directory that killed sessions leave, reopening with
`resume=True` succeeds exactly when the directory is resumable. -/
theorem reopens_iff
    [DecidableEq Digest]
    {sha256 : List Byte -> Digest} {config : WriterConfig Digest}
    {arguments : WriterArguments Digest}
    (accepts : arguments.check = .ok config)
    (policy : DrainPolicy)
    (state : AnyCrashState sha256 config directory) :
    Reopens sha256 arguments policy directory ↔ Resumable directory := by
  obtain ⟨construction, rfl, rfl, _, state⟩ := state
  have verified := wp_init_resume accepts policy state
  constructor
  · rintro ⟨writer, result, _⟩
    exact (verified.ok result).1
  · intro resumable
    cases result : ((PackedShardWriter.init construction.sha256 arguments
        policy true).run directory).result with
    | error error => exact absurd resumable (verified.error result)
    | ok writer =>
        exact ⟨writer, result, (verified.ok result).2.exposes state⟩

end Construction

/-- A directory that killed runs of the writer leave can be reopened, and then
exposes the last committed cursor or the finished manifest, exactly when no
temporary manifest is in it and, before the manifest is there, every shard
index has six digits. -/
theorem reopens_iff_resumable
    [DecidableEq Digest]
    {sha256 : List Byte -> Digest} {config : WriterConfig Digest}
    {directory : Directory Digest Cursor}
    {arguments : WriterArguments Digest}
    (history : Program.Survives (AnySession sha256 config)
      Directory.AfterKill ∅ directory)
    (accepts : arguments.check = .ok config)
    (policy : DrainPolicy) :
    Reopens sha256 arguments policy directory ↔
      Construction.Resumable directory :=
  Construction.reopens_iff accepts policy
    (Construction.anyCrashState_of_survives history)

/-- A session that finishes at once. -/
def finishingSession :
    Fs (List Byte) Nat (PackedShardWriter (List Byte) Nat) :=
  session id smallArguments .default true fun _ => [.finish none]

/-- What it leaves when it is killed after `_atomic_json` has created the
temporary manifest and before it has moved it. -/
def unfinishedManifest : Directory (List Byte) Nat :=
  (finishingSession.run ∅).visited[3]?.getD ∅

theorem unfinishedManifest_survives :
    Program.Survives (AnySession id smallConfig)
      Directory.AfterKill ∅ unfinishedManifest :=
  .restart .start
    ⟨smallArguments, .default, true, fun _ => [.finish none],
      smallArguments_check, rfl⟩
    (.inr (List.mem_of_getElem?
      (show (finishingSession.run ∅).visited[3]? =
        some unfinishedManifest from rfl)))
    (.refl _)

/-- After such a kill the writer can never be constructed again. -/
theorem unfinishedManifest_not_reopens :
    ¬∀ directory : Directory (List Byte) Nat,
      Program.Survives (AnySession id smallConfig)
        Directory.AfterKill ∅ directory ->
      Reopens id smallArguments .default directory := by
  intro everyCrash
  obtain ⟨writer, result, _⟩ :=
    everyCrash unfinishedManifest unfinishedManifest_survives
  have raised : ((PackedShardWriter.init id smallArguments .default true).run
      unfinishedManifest).result = .error (.fileExistsError
        "Unknown file prevents fail-closed packing resume") := rfl
  rw [raised] at result
  cases result

/-- The temporary manifest is what makes that directory unresumable. -/
theorem reopens_iff_resumable_unfinishedManifest :
    unfinishedManifest.Has (.manifestTemporary 1) ∧
      (Reopens id smallArguments .default unfinishedManifest ↔
        Construction.Resumable unfinishedManifest) :=
  ⟨by decide, reopens_iff_resumable unfinishedManifest_survives
    smallArguments_check .default⟩

end Reopening
end CodingLlm
