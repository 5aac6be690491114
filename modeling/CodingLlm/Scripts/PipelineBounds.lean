import CodingLlm.Scripts.AnalysisPipeline

/-!
# Order and bounds of the analysis pipeline

Whatever the sizes of the documents, the moves of the workers and the errors,
the batch and all that is in flight stay within their caps, metric lines are
written in archive order, and nothing is left outstanding.
-/

namespace CodingLlm
namespace RawStream

open CrashLogic Words

variable {Analysis : Type}

/-! ## Invariants -/

/-- The caps on a batch and on everything in flight. -/
structure Pipeline.Bounded
    (limits : PipelineLimits) (state : Pipeline Analysis) : Prop where
  batch : state.batchBytes ≤ limits.maxAnalysisBatchBytes
  inflight : state.pendingBytes + state.batchBytes ≤ limits.maxInflightBytes

/-- Every outstanding submission belongs to an entry. -/
def Tracked (pool : Pool) (entries : List (PendingBatch Analysis)) : Prop :=
  ∀ submission, (pool submission).Outstanding ->
    ∃ entry ∈ entries, entry.submission = submission

/-- Metric lines of documents, one each and in order. -/
def Written
    (environment : PipelineEnvironment Analysis)
    (lines : List (String × Analysis)) (documents : List Document) : Prop :=
  List.Forall₂ (fun line document => line.1 = document.memberPath ∧
    environment.analyzeDocument document.content = .ok line.2)
    lines documents

/-- The metric lines are those of the first of some documents. -/
def WrittenPrefix
    (environment : PipelineEnvironment Analysis)
    (documents : List Document) (state : Pipeline Analysis) : Prop :=
  ∃ written, written <+: documents ∧ Written environment state.metrics written

/-- The state between two helpers, after some documents were read, some of
which are just being written. -/
structure Sound
    (environment : PipelineEnvironment Analysis) (limits : PipelineLimits)
    (documents writing : List Document) (state : Pipeline Analysis) :
    Prop where
  bounded : state.Bounded limits
  tracked : Tracked state.pool state.pending
  batchBytes_eq : state.batchBytes = totalBytes state.batch
  pendingBytes_eq : state.pendingBytes =
    (state.pending.map PendingBatch.payloadBytes).sum
  results : ∀ entry ∈ state.pending, ∃ submission,
    entry.result = environment.analyzeDocumentBatch submission entry.documents
  written : ∃ written, Written environment state.metrics written ∧
    documents = written ++ writing ++
      state.pending.flatMap PendingBatch.documents ++ state.batch

/-- What holds at every step. -/
structure Visible
    (environment : PipelineEnvironment Analysis) (limits : PipelineLimits)
    (documents : List Document) (state : Pipeline Analysis) : Prop where
  bounded : state.Bounded limits
  written : WrittenPrefix environment documents state

/-- What holds when an error is raised, which is none on the accounting. -/
structure Failed
    (environment : PipelineEnvironment Analysis) (limits : PipelineLimits)
    (documents : List Document) (failure : Failure)
    (state : Pipeline Analysis) : Prop where
  raised : ∃ error, failure = .raised error
  visible : Visible environment limits documents state
  tracked : Tracked state.pool state.pending

/-- What draining does not touch. -/
structure Pipeline.Keeps (before after : Pipeline Analysis) : Prop where
  batch : after.batch = before.batch
  batchBytes : after.batchBytes = before.batchBytes
  report : after.report = before.report

theorem Pipeline.Keeps.refl (state : Pipeline Analysis) : state.Keeps state :=
  ⟨rfl, rfl, rfl⟩

theorem Pipeline.Keeps.trans
    {first second third : Pipeline Analysis}
    (before : first.Keeps second)
    (after : second.Keeps third) : first.Keeps third :=
  ⟨after.batch.trans before.batch, after.batchBytes.trans before.batchBytes,
    after.report.trans before.report⟩

/-! ## Workers -/

/-- A move makes nothing outstanding that was not. -/
theorem PoolMove.outstanding_apply
    {pool : Pool} {move : PoolMove} {submission : Nat}
    (outstanding : (move.apply pool submission).Outstanding) :
    (pool submission).Outstanding := by
  cases move with
  | starts other =>
      simp only [PoolMove.apply] at outstanding
      by_cases queued : pool other = .queued
      · rw [if_pos queued] at outstanding
        by_cases same : submission = other
        · rw [same, queued]
          exact .inl rfl
        · rwa [Function.update_of_ne same] at outstanding
      · rwa [if_neg queued] at outstanding
  | finishes other =>
      simp only [PoolMove.apply] at outstanding
      by_cases running : pool other = .running
      · rw [if_pos running] at outstanding
        by_cases same : submission = other
        · rw [same, running]
          exact .inr rfl
        · rwa [Function.update_of_ne same] at outstanding
      · rwa [if_neg running] at outstanding

theorem outstanding_foldl_apply
    {moves : List PoolMove} {pool : Pool} {submission : Nat}
    (outstanding :
      (moves.foldl PoolMove.apply pool submission).Outstanding) :
    (pool submission).Outstanding := by
  induction moves generalizing pool with
  | nil => exact outstanding
  | cons move moves inductionHypothesis =>
      exact PoolMove.outstanding_apply (inductionHypothesis outstanding)

variable {environment : PipelineEnvironment Analysis}
variable {limits : PipelineLimits} {documents writing all : List Document}
variable {state : Pipeline Analysis}
variable {entries rest : List (PendingBatch Analysis)}
variable {first : PendingBatch Analysis}

theorem Tracked.advance
    (tracked : Tracked state.pool entries) :
    Tracked (environment.advance state).pool entries :=
  fun submission outstanding =>
    tracked submission (outstanding_foldl_apply outstanding)

/-- A submission that is no longer outstanding need not be tracked. -/
theorem Tracked.settle
    {pool : Pool} {status : WorkStatus}
    (tracked : Tracked pool (first :: rest))
    (settled : ¬status.Outstanding) :
    Tracked (Function.update pool first.submission status) rest := by
  intro submission outstanding
  by_cases same : submission = first.submission
  · rw [same, Function.update_self] at outstanding
    exact absurd outstanding settled
  · rw [Function.update_of_ne same] at outstanding
    obtain ⟨entry, listed, isEntry⟩ := tracked submission outstanding
    rcases List.mem_cons.mp listed with isFirst | inRest
    · exact absurd (isEntry.symm.trans (congrArg _ isFirst)) same
    · exact ⟨entry, inRest, isEntry⟩

theorem Tracked.handOver
    {pool : Pool} {status : WorkStatus}
    (tracked : Tracked pool entries)
    (entry : PendingBatch Analysis) :
    Tracked (Function.update pool entry.submission status)
      (entries ++ [entry]) := by
  intro submission outstanding
  by_cases same : submission = entry.submission
  · exact ⟨entry, by simp, same.symm⟩
  · rw [Function.update_of_ne same] at outstanding
    obtain ⟨other, listed, isOther⟩ := tracked submission outstanding
    exact ⟨other, List.mem_append_left _ listed, isOther⟩

/-- A submission that is cancelled stays tracked. -/
theorem Tracked.cancelled
    {pool : Pool}
    (tracked : Tracked pool entries)
    (number : Nat) :
    Tracked (Function.update pool number .cancelled) entries := by
  intro submission outstanding
  by_cases same : submission = number
  · rw [same, Function.update_self] at outstanding
    rcases outstanding with cancelled | cancelled <;> cases cancelled
  · rw [Function.update_of_ne same] at outstanding
    exact tracked submission outstanding

/-! ## Steps -/

section Steps

variable {post : Unit -> Pipeline Analysis -> Prop}
variable {fail : Failure -> Pipeline Analysis -> Prop}
variable {crash : Pipeline Analysis -> Prop}

theorem wp_step (change : Pipeline Analysis -> Pipeline Analysis) :
    (environment.step change).wp post fail crash state ↔
      crash (change (environment.advance state)) ∧
        post () (change (environment.advance state)) :=
  Program.wp_commit _

theorem wp_raise
    {α : Type} {post : α -> Pipeline Analysis -> Prop} (error : PyError) :
    (raise error : Archiving Analysis α).wp post fail crash state ↔
      fail (.raised error) state :=
  Program.wp_throw _

theorem wp_mayRaise
    (holds : post () state)
    (raises : ∀ error, fail (.raised error) state) :
    environment.mayRaise.wp post fail crash state := by
  rw [PipelineEnvironment.mayRaise, Program.wp_inspect]
  cases environment.faults state.clock with
  | some error => exact raises error
  | none => exact holds

end Steps

theorem Sound.advance
    (sound : Sound environment limits documents writing state) :
    Sound environment limits documents writing
      (environment.advance state) where
  bounded := ⟨sound.bounded.batch, sound.bounded.inflight⟩
  tracked := sound.tracked.advance
  batchBytes_eq := sound.batchBytes_eq
  pendingBytes_eq := sound.pendingBytes_eq
  results := sound.results
  written := sound.written

theorem Sound.writtenPrefix
    (sound : Sound environment limits documents writing state)
    (isPrefix : documents <+: all) : WrittenPrefix environment all state := by
  obtain ⟨written, lines, rfl⟩ := sound.written
  refine ⟨written, List.IsPrefix.trans ?_ isPrefix, lines⟩
  rw [List.append_assoc, List.append_assoc]
  exact List.prefix_append _ _

theorem Sound.visible
    (sound : Sound environment limits documents writing state)
    (isPrefix : documents <+: all) : Visible environment limits all state :=
  ⟨sound.bounded, sound.writtenPrefix isPrefix⟩

theorem Sound.failed
    (sound : Sound environment limits documents writing state)
    (isPrefix : documents <+: all)
    (error : PyError) :
    Failed environment limits all (.raised error) state :=
  ⟨⟨error, rfl⟩, sound.visible isPrefix, sound.tracked⟩

/-! ## Draining -/

/-- What a batch comes to is the analyses of its documents, in order. -/
theorem written_zip
    {submission : Nat} {analyses : List Analysis}
    (result : environment.analyzeDocumentBatch submission documents =
      .ok analyses) :
    Written environment
      ((documents.map Document.memberPath).zip analyses) documents := by
  unfold PipelineEnvironment.analyzeDocumentBatch at result
  split at result
  · cases result
  · rw [checked_mapM_eq_ok] at result
    induction result with
    | nil => exact .nil
    | cons analysed _ inductionHypothesis =>
        exact .cons ⟨rfl, analysed⟩ inductionHypothesis

/-- Lines are written one by one. -/
theorem wp_writeMetricLines
    {lines : List (String × Analysis)}
    (sound : Sound environment limits documents writing state)
    (lined : Written environment lines writing)
    (isPrefix : documents <+: all) :
    (Program.forEach lines environment.writeMetricLine).wp
      (fun _ after => Sound environment limits documents [] after ∧
        state.Keeps after ∧ after.pending = state.pending)
      (Failed environment limits all)
      (Visible environment limits all) state := by
  let invariant (left : List (String × Analysis))
      (after : Pipeline Analysis) : Prop :=
    ∃ writing, Written environment left writing ∧
      Sound environment limits documents writing after ∧
        state.Keeps after ∧ after.pending = state.pending
  have entry : invariant lines state :=
    ⟨writing, lined, sound, .refl state, rfl⟩
  refine (Program.wp_forEach invariant entry ?_).weaken ?_
  · rintro line left current - ⟨writing, linedLeft, holds, keeps, pending⟩
    cases linedLeft with
    | @cons _ document _ others isLine linedOthers =>
    rw [PipelineEnvironment.writeMetricLine, Program.wp_bind]
    refine wp_mayRaise ?_ fun error => holds.failed isPrefix error
    rw [wp_step]
    have next : Sound environment limits documents others
        { environment.advance current with
          metrics := (environment.advance current).metrics ++ [line] } := by
      obtain ⟨written, linedWritten, rfl⟩ := holds.written
      have moved := holds.advance
      refine ⟨⟨moved.bounded.batch, moved.bounded.inflight⟩, moved.tracked,
        moved.batchBytes_eq, moved.pendingBytes_eq, moved.results,
        written ++ [document],
        List.rel_append linedWritten (.cons isLine .nil), ?_⟩
      simp [PipelineEnvironment.advance]
    exact ⟨next.visible isPrefix, others, linedOthers, next,
      ⟨keeps.batch, keeps.batchBytes, keeps.report⟩, pending⟩
  · rintro - after ⟨writing, lined, holds, keeps, pending⟩
    cases lined
    exact ⟨holds, keeps, pending⟩

/-- The spec of the part of `drain_one` that writes. -/
theorem wp_writeEntry
    (sound : Sound environment limits documents first.documents state)
    (isResult : ∃ submission, first.result =
      environment.analyzeDocumentBatch submission first.documents)
    (isPrefix : documents <+: all) :
    (environment.writeEntry first).wp
      (fun _ after => Sound environment limits documents [] after ∧
        state.Keeps after ∧ after.pending = state.pending)
      (Failed environment limits all)
      (Visible environment limits all) state := by
  obtain ⟨submission, isResult⟩ := isResult
  rw [PipelineEnvironment.writeEntry, Program.wp_bind, Program.wp_lift]
  cases result : first.result with
  | error error => exact sound.failed isPrefix error
  | ok analyses =>
      dsimp only [Except.mapError]
      split
      · rw [wp_raise]
        exact sound.failed isPrefix _
      · rw [Program.wp_bind]
        refine (wp_writeMetricLines sound
          (written_zip (isResult.symm.trans result)) isPrefix).weaken ?_
        rintro - after ⟨holds, keeps, pending⟩
        exact wp_mayRaise ⟨holds, keeps, pending⟩
          fun error => holds.failed isPrefix error

/-- The spec of `drain_one`: the first entry of `pending` is written. -/
theorem wp_drainOne
    (sound : Sound environment limits documents [] state)
    (isPending : state.pending = first :: rest)
    (isPrefix : documents <+: all) :
    environment.drainOne.wp
      (fun _ after => Sound environment limits documents [] after ∧
        state.Keeps after ∧ after.pending = rest)
      (Failed environment limits all)
      (Visible environment limits all) state := by
  have visible := sound.writtenPrefix isPrefix
  have bounded := sound.bounded
  have inflight := bounded.inflight
  have pendingBytes := sound.pendingBytes_eq
  obtain ⟨written, lined, isRead⟩ := sound.written
  rw [isPending, List.map_cons, List.sum_cons] at pendingBytes
  rw [isPending, List.flatMap_cons] at isRead
  let popped := { environment.advance state with pending := rest }
  let awaited := { environment.advance popped with
    pool := Function.update (environment.advance popped).pool
      first.submission .finished }
  let drained := { environment.advance awaited with
    pendingBytes :=
      (environment.advance awaited).pendingBytes - first.payloadBytes }
  have moved : Sound environment limits documents first.documents drained := by
    have tracked : Tracked (environment.advance popped).pool
        (first :: rest) := by
      rw [← isPending]
      exact Tracked.advance (Tracked.advance sound.tracked)
    refine ⟨⟨bounded.batch, ?_⟩, ?_, sound.batchBytes_eq, ?_, ?_, written,
      lined, ?_⟩
    · change state.pendingBytes - first.payloadBytes + state.batchBytes ≤ _
      omega
    · exact Tracked.advance (tracked.settle
        fun finished => by rcases finished with same | same <;> cases same)
    · change state.pendingBytes - first.payloadBytes = _
      rw [pendingBytes]
      exact Nat.add_sub_cancel_left _ _
    · intro entry listed
      exact sound.results entry (by
        rw [isPending]
        exact List.mem_cons_of_mem _ listed)
    · rw [isRead]
      change _ = written ++ first.documents ++
        rest.flatMap PendingBatch.documents ++ state.batch
      simp only [List.append_assoc, List.nil_append]
  rw [PipelineEnvironment.drainOne, Program.wp_bind, Program.wp_query,
    isPending]
  simp only [Program.wp_bind, PipelineEnvironment.await, wp_step]
  refine ⟨⟨⟨bounded.batch, bounded.inflight⟩, visible⟩,
    ⟨⟨bounded.batch, bounded.inflight⟩, visible⟩,
    moved.visible isPrefix, ?_⟩
  refine (wp_writeEntry moved (sound.results first (by
    rw [isPending]
    exact List.mem_cons_self)) isPrefix).weaken ?_
  rintro - after ⟨holds, keeps, pending⟩
  exact ⟨holds, ⟨keeps.batch, keeps.batchBytes, keeps.report⟩, pending⟩

/-- The spec of a loop that drains: at its end nothing is too large, or
nothing is pending. -/
theorem wp_drainWhile
    {tooLarge : Pipeline Analysis -> Bool}
    (sound : Sound environment limits documents [] state)
    (isPrefix : documents <+: all) :
    (environment.drainWhile tooLarge).wp
      (fun _ after => Sound environment limits documents [] after ∧
        state.Keeps after ∧
          (tooLarge after = false ∨ after.pending = []))
      (Failed environment limits all)
      (Visible environment limits all) state := by
  let invariant (more : Nat) (after : Pipeline Analysis) : Prop :=
    more = PipelineEnvironment.remaining tooLarge after ∧
      Sound environment limits documents [] after ∧ state.Keeps after
  have step (more : Nat) (current : Pipeline Analysis)
      (holds : invariant more current) (positive : decide (0 < more) = true) :
      (do
        environment.drainOne
        Program.query (PipelineEnvironment.remaining tooLarge) :
          Archiving Analysis Nat).wp
        (fun next after => invariant next after ∧ next < more)
        (Failed environment limits all)
        (Visible environment limits all) current := by
    obtain ⟨rfl, sound, keeps⟩ := holds
    have some := of_decide_eq_true positive
    unfold PipelineEnvironment.remaining at some
    split at some
    · rename_i large
      obtain ⟨first, rest, isPending⟩ :=
        List.exists_cons_of_length_pos some
      rw [Program.wp_bind]
      refine (wp_drainOne sound isPending isPrefix).weaken ?_
      rintro - after ⟨holds, keepsAfter, pending⟩
      rw [Program.wp_query]
      refine ⟨⟨rfl, holds, keeps.trans keepsAfter⟩, ?_⟩
      unfold PipelineEnvironment.remaining
      rw [if_pos large, isPending, pending]
      split
      · exact Nat.lt_succ_self _
      · exact Nat.succ_pos _
    · omega
  rw [PipelineEnvironment.drainWhile, Program.wp_bind, Program.wp_query,
    Program.wp_bind]
  refine (Program.wp_whileLoop invariant id step
    (fun _ _ _ positive => of_decide_eq_true positive) le_rfl
    ⟨rfl, sound, .refl state⟩).weaken ?_
  rintro more after ⟨⟨rfl, holds, keeps⟩, stopped⟩
  rw [Program.wp_pure]
  refine ⟨holds, keeps, ?_⟩
  have nothing := of_decide_eq_false stopped
  unfold PipelineEnvironment.remaining at nothing
  split at nothing
  · exact .inr (List.eq_nil_of_length_eq_zero (by omega))
  · rename_i small
    exact .inl (Bool.not_eq_true _ ▸ small)

/-! ## Submitting -/

theorem wp_observeMemory
    (sound : Sound environment limits documents [] state)
    (isPrefix : documents <+: all) :
    environment.observeMemory.wp
      (fun _ after => Sound environment limits documents [] after ∧
        state.Keeps after ∧ after.pending = state.pending)
      (Failed environment limits all)
      (Visible environment limits all) state := by
  rw [PipelineEnvironment.observeMemory, wp_step]
  have moved := sound.advance
  have next : Sound environment limits documents []
      { environment.advance state with
        peakBatchBytes := max (environment.advance state).peakBatchBytes
          (environment.advance state).batchBytes
        peakInflightBytes :=
          max (environment.advance state).peakInflightBytes
            ((environment.advance state).pendingBytes +
              (environment.advance state).batchBytes) } :=
    ⟨⟨moved.bounded.batch, moved.bounded.inflight⟩, moved.tracked,
      moved.batchBytes_eq, moved.pendingBytes_eq, moved.results,
      moved.written⟩
  exact ⟨next.visible isPrefix, next, ⟨rfl, rfl, rfl⟩, rfl⟩

/-- What a batch is handed over as. -/
theorem Sound.handOver
    {entry : PendingBatch Analysis} {status : WorkStatus}
    (sound : Sound environment limits documents [] state)
    (isDocuments : entry.documents = state.batch)
    (isPayload : entry.payloadBytes = state.batchBytes)
    (isResult : ∃ submission, entry.result =
      environment.analyzeDocumentBatch submission entry.documents) :
    Sound environment limits documents []
      (PipelineEnvironment.handOver entry status state) := by
  obtain ⟨written, lined, isRead⟩ := sound.written
  have inflight := sound.bounded.inflight
  refine ⟨⟨Nat.zero_le _, ?_⟩, sound.tracked.handOver entry, rfl, ?_, ?_,
    written, lined, ?_⟩
  · change state.pendingBytes + entry.payloadBytes + 0 ≤ _
    omega
  · change state.pendingBytes + entry.payloadBytes =
      ((state.pending ++ [entry]).map PendingBatch.payloadBytes).sum
    rw [sound.pendingBytes_eq, List.map_append, List.sum_append]
    rfl
  · intro other listed
    rcases List.mem_append.mp listed with before | isEntry
    · exact sound.results other before
    · rw [List.mem_singleton.mp isEntry]
      exact isResult
  · rw [isRead]
    change _ = written ++ [] ++
      (state.pending ++ [entry]).flatMap PendingBatch.documents ++ []
    rw [List.flatMap_append, List.flatMap_singleton, isDocuments,
      List.append_nil, List.append_nil, List.append_assoc]

/-- The spec of the submission: the batch is pending afterwards. -/
theorem wp_submit
    (sound : Sound environment limits documents [] state)
    (isPrefix : documents <+: all) :
    environment.submit.wp
      (fun _ after => Sound environment limits documents [] after ∧
        after.batch = [] ∧ after.pending ≠ [] ∧ after.report = state.report)
      (Failed environment limits all)
      (Visible environment limits all) state := by
  have handed (status : WorkStatus) :
      let entry : PendingBatch Analysis := {
        documents := state.batch
        payloadBytes := state.batchBytes
        submission := state.submittedBatches
        result := environment.analyzeDocumentBatch state.submittedBatches
          state.batch }
      (environment.step (PipelineEnvironment.handOver entry status)).wp
        (fun _ after => Sound environment limits documents [] after ∧
          after.batch = [] ∧ after.pending ≠ [] ∧
            after.report = state.report)
        (Failed environment limits all)
        (Visible environment limits all) state := by
    intro entry
    have next : Sound environment limits documents []
        (PipelineEnvironment.handOver entry status
          (environment.advance state)) :=
      sound.advance.handOver rfl rfl ⟨_, rfl⟩
    rw [wp_step]
    refine ⟨next.visible isPrefix, next, rfl, ?_, rfl⟩
    exact List.append_ne_nil_of_right_ne_nil _ (List.cons_ne_nil _ _)
  rw [PipelineEnvironment.submit, Program.wp_bind]
  refine wp_mayRaise ?_ fun error => sound.failed isPrefix error
  rw [Program.wp_bind, Program.wp_query]
  cases environment.workers with
  | some workers => exact handed .queued
  | none =>
      rw [Program.wp_bind, Program.wp_lift]
      cases analysed : environment.analyzeDocumentBatch
          state.submittedBatches state.batch with
      | error error =>
          dsimp only [id]
          rw [analysed]
          exact sound.failed isPrefix error
      | ok analyses =>
          have done := handed .finished
          dsimp only [id] at done ⊢
          rw [analysed] at done ⊢
          exact done

/-- The spec of `submit_batch`: the batch is empty afterwards. -/
theorem wp_submitBatch
    (sound : Sound environment limits documents [] state)
    (isPrefix : documents <+: all) :
    (environment.submitBatch limits).wp
      (fun _ after => Sound environment limits documents [] after ∧
        after.batch = [] ∧ after.report = state.report)
      (Failed environment limits all)
      (Visible environment limits all) state := by
  rw [PipelineEnvironment.submitBatch, Program.wp_bind, Program.wp_query]
  dsimp only [id]
  split
  · rename_i empty
    rw [Program.wp_pure]
    exact ⟨sound, empty, rfl⟩
  rw [Program.wp_bind]
  refine (wp_drainWhile sound isPrefix).weaken ?_
  rintro - drained ⟨holds, keeps, small⟩
  rw [Program.wp_bind, Program.wp_query]
  -- With nothing pending, the batch alone is within the cap in flight.
  have within : ¬limits.maxInflightBytes <
      drained.pendingBytes + drained.batchBytes := by
    rcases small with small | empty
    · exact of_decide_eq_false small
    · have batch := holds.bounded.batch
      have pendingBytes := holds.pendingBytes_eq
      have order := limits.batch_le_inflight
      rw [empty] at pendingBytes
      simp only [List.map_nil, List.sum_nil] at pendingBytes
      omega
  dsimp only [id]
  rw [if_neg within, Program.wp_bind]
  refine (wp_submit holds isPrefix).weaken ?_
  rintro - submitted ⟨handed, empty, pending, report⟩
  rw [Program.wp_bind]
  refine (wp_observeMemory handed isPrefix).weaken ?_
  rintro - observed ⟨seen, keepsSeen, samePending⟩
  rw [Program.wp_bind, Program.wp_query]
  have emptied := keepsSeen.batch.trans empty
  have reported := keepsSeen.report.trans (report.trans keeps.report)
  split
  · obtain ⟨first, rest, isPending⟩ :=
      List.exists_cons_of_ne_nil (samePending ▸ pending)
    refine (wp_drainOne seen isPending isPrefix).weaken ?_
    rintro - after ⟨last, keepsLast, -⟩
    exact ⟨last, keepsLast.batch.trans emptied,
      keepsLast.report.trans reported⟩
  · rw [Program.wp_pure]
    exact ⟨seen, emptied, reported⟩

/-- The spec of `make_room_for_document`: afterwards there is room. -/
theorem wp_makeRoomForDocument
    {documentBytes : Int}
    (sound : Sound environment limits documents [] state)
    (isPrefix : documents <+: all)
    (small : documentBytes ≤ limits.maxDocumentBytes) :
    (environment.makeRoomForDocument limits documentBytes).wp
      (fun _ after => Sound environment limits documents [] after ∧
        after.report = state.report ∧
        after.batchBytes + documentBytes ≤ limits.maxAnalysisBatchBytes ∧
        after.pendingBytes + after.batchBytes + documentBytes ≤
          limits.maxInflightBytes)
      (Failed environment limits all)
      (Visible environment limits all) state := by
  have documentFits := limits.document_le_batch
  have batchFits := limits.batch_le_inflight
  -- The rest of the helper, once the batch has room for the document.
  have drains {current : Pipeline Analysis}
      (holds : Sound environment limits documents [] current)
      (report : current.report = state.report)
      (room : current.batchBytes + documentBytes ≤
        limits.maxAnalysisBatchBytes) :
      (do
        environment.drainWhile fun state =>
          decide ((limits.maxInflightBytes : Int) <
            state.pendingBytes + state.batchBytes + documentBytes)
        let state ← Program.query id
        if (limits.maxAnalysisBatchBytes : Int) <
            state.batchBytes + documentBytes then
          throw (.accounting
            "Internal analysis batch byte accounting exceeded its cap")
        else if (limits.maxInflightBytes : Int) <
            state.pendingBytes + state.batchBytes + documentBytes then
          throw (.accounting
            "Internal in-flight byte accounting exceeded its cap")
        else return () : Archiving Analysis Unit).wp
      (fun _ after => Sound environment limits documents [] after ∧
        after.report = state.report ∧
        after.batchBytes + documentBytes ≤ limits.maxAnalysisBatchBytes ∧
        after.pendingBytes + after.batchBytes + documentBytes ≤
          limits.maxInflightBytes)
      (Failed environment limits all)
      (Visible environment limits all) current := by
    rw [Program.wp_bind]
    refine (wp_drainWhile holds isPrefix).weaken ?_
    rintro - after ⟨drained, keeps, ended⟩
    rw [Program.wp_bind, Program.wp_query]
    dsimp only [id]
    have batchBytes := keeps.batchBytes
    have within : (after.pendingBytes : Int) + after.batchBytes +
        documentBytes ≤ limits.maxInflightBytes := by
      rcases ended with inside | empty
      · exact not_lt.mp (of_decide_eq_false inside)
      · have pendingBytes := drained.pendingBytes_eq
        rw [empty] at pendingBytes
        simp only [List.map_nil, List.sum_nil] at pendingBytes
        omega
    rw [if_neg (by omega), if_neg (by omega), Program.wp_pure]
    exact ⟨drained, keeps.report.trans report, by omega, within⟩
  rw [PipelineEnvironment.makeRoomForDocument, Program.wp_bind,
    Program.wp_query]
  dsimp only [id]
  split
  · rw [Program.wp_bind]
    refine (wp_submitBatch sound isPrefix).weaken ?_
    rintro - submitted ⟨holds, empty, report⟩
    refine drains holds report ?_
    have batchBytes := holds.batchBytes_eq
    rw [empty] at batchBytes
    change submitted.batchBytes = 0 at batchBytes
    omega
  · rename_i fits
    refine drains sound rfl ?_
    have batchBytes := sound.batchBytes_eq
    by_cases empty : state.batch = []
    · rw [empty] at batchBytes
      change state.batchBytes = 0 at batchBytes
      omega
    · by_contra beyond
      exact fits ⟨empty, .inr (not_le.mp beyond)⟩

/-! ## Members -/

/-- The document of a member, if it is one and can be read. -/
def TarMember.document? (member : TarMember) : Option Document :=
  if member.isFile = true ∧ member.name ≠ "_manifest.jsonl" then
    match member.extracted with
    | some (.ok payload) => some ⟨member.name, payload⟩
    | _ => none
  else none

/-- The documents of a tar stream, in archive order. -/
def documentsOf (members : List TarMember) : List Document :=
  members.filterMap TarMember.document?

theorem documentsOf_prefix
    {before after members : List TarMember}
    (split : before ++ after = members) :
    documentsOf before <+: documentsOf members := by
  rw [← split, documentsOf, documentsOf, List.filterMap_append]
  exact List.prefix_append _ _

/-- The state between two turns of the loop over the members. -/
structure BetweenMembers
    (environment : PipelineEnvironment Analysis) (limits : PipelineLimits)
    (documents : List Document) (state : Pipeline Analysis) : Prop where
  sound : Sound environment limits documents [] state
  joined : state.report.isSome = true -> state.batch = [] ∧ state.pending = []

/-- A document is read into the batch. -/
theorem wp_append
    {document : Document}
    (sound : Sound environment limits documents [] state)
    (isPrefix : documents ++ [document] <+: all)
    (batchRoom : state.batchBytes + document.content.length ≤
      limits.maxAnalysisBatchBytes)
    (inflightRoom : state.pendingBytes + state.batchBytes +
      document.content.length ≤ limits.maxInflightBytes) :
    (environment.append document).wp
      (fun _ after => Sound environment limits (documents ++ [document]) []
        after ∧ after.report = state.report)
      (Failed environment limits all)
      (Visible environment limits all) state := by
  rw [PipelineEnvironment.append, wp_step]
  obtain ⟨written, lined, isRead⟩ := sound.written
  have moved := sound.advance
  have next : Sound environment limits (documents ++ [document]) []
      { environment.advance state with
        batch := (environment.advance state).batch ++ [document]
        batchBytes := (environment.advance state).batchBytes +
          document.content.length } := by
    refine ⟨⟨batchRoom, ?_⟩, moved.tracked, ?_, moved.pendingBytes_eq,
      moved.results, written, lined, ?_⟩
    · change state.pendingBytes +
        (state.batchBytes + document.content.length) ≤ _
      omega
    · change state.batchBytes + document.content.length =
        totalBytes (state.batch ++ [document])
      rw [sound.batchBytes_eq, totalBytes, totalBytes, List.map_append,
        List.sum_append]
      rfl
    · rw [isRead]
      exact List.append_assoc _ _ _
  exact ⟨next.visible isPrefix, next, rfl⟩

/-- The spec of a turn of the loop for a document. -/
theorem wp_processDocument
    {member : TarMember} {extracted : Checked (List Byte)}
    (holds : BetweenMembers environment limits documents state)
    (declared : member.size ≤ limits.maxDocumentBytes)
    (isDocument : ∀ payload, extracted = .ok payload ->
      documents ++ [⟨member.name, payload⟩] <+: all)
    (isPrefix : documents <+: all) :
    (environment.processDocument limits member extracted).wp
      (fun _ after => ∃ payload, extracted = .ok payload ∧
        BetweenMembers environment limits
          (documents ++ [⟨member.name, payload⟩]) after)
      (Failed environment limits all)
      (Visible environment limits all) state := by
  have sound := holds.sound
  rw [PipelineEnvironment.processDocument, Program.wp_bind, Program.wp_query]
  dsimp only [id]
  split
  · rw [wp_raise]
    exact sound.failed isPrefix _
  rename_i notJoined
  split
  · rw [wp_raise]
    exact sound.failed isPrefix _
  rw [Program.wp_bind]
  refine (wp_makeRoomForDocument sound isPrefix declared).weaken ?_
  rintro - roomy ⟨made, report, batchRoom, inflightRoom⟩
  rw [Program.wp_bind, Program.wp_lift]
  cases extracted with
  | error error => exact made.failed isPrefix error
  | ok payload =>
  dsimp only [Except.mapError]
  split
  · rw [wp_raise]
    exact made.failed isPrefix _
  rename_i notOversize
  split
  · rw [wp_raise]
    exact made.failed isPrefix _
  rename_i sized
  have length := not_not.mp sized
  -- A payload that was not cut is the content.
  have whole : payload.take (limits.maxDocumentBytes + 1) = payload := by
    rw [List.take_eq_self_iff]
    rw [List.length_take] at notOversize
    omega
  rw [whole] at length ⊢
  have nextPrefix := isDocument payload rfl
  rw [Program.wp_bind]
  refine (wp_append made nextPrefix (by
    change roomy.batchBytes + payload.length ≤ _
    omega) (by
    change roomy.pendingBytes + roomy.batchBytes + payload.length ≤ _
    omega)).weaken ?_
  rintro - appended ⟨read, reportAppended⟩
  rw [Program.wp_bind]
  refine (wp_observeMemory read nextPrefix).weaken ?_
  rintro - observed ⟨seen, keeps, -⟩
  have notReported : observed.report.isSome = false := by
    rw [keeps.report, reportAppended, report]
    exact Bool.not_eq_true _ ▸ notJoined
  rw [Program.wp_bind, wp_step]
  have counted : Sound environment limits
      (documents ++ [⟨member.name, payload⟩]) []
      { environment.advance observed with
        documentsRead := (environment.advance observed).documentsRead + 1 } :=
    have moved := seen.advance
    ⟨⟨moved.bounded.batch, moved.bounded.inflight⟩, moved.tracked,
      moved.batchBytes_eq, moved.pendingBytes_eq, moved.results,
      moved.written⟩
  refine ⟨counted.visible nextPrefix, ?_⟩
  have between {after : Pipeline Analysis}
      (holds : Sound environment limits
        (documents ++ [⟨member.name, payload⟩]) [] after)
      (same : after.report = observed.report) :
      environment.mayRaise.wp
        (fun _ after => ∃ other, (Except.ok payload : Checked (List Byte)) =
          .ok other ∧ BetweenMembers environment limits
            (documents ++ [⟨member.name, other⟩]) after)
        (Failed environment limits all)
        (Visible environment limits all) after := by
    refine wp_mayRaise ⟨payload, rfl, holds, fun joined => ?_⟩
      fun error => holds.failed nextPrefix error
    rw [same, notReported] at joined
    cases joined
  rw [Program.wp_bind, Program.wp_query]
  dsimp only [id]
  split
  · rw [Program.wp_bind]
    refine (wp_submitBatch counted nextPrefix).weaken ?_
    rintro - submitted ⟨last, -, same⟩
    exact between last same
  · exact between counted rfl

/-- The spec of a turn of the loop for the manifest. -/
theorem wp_processManifest
    {extracted : Checked (List Byte)}
    (holds : BetweenMembers environment limits documents state)
    (isPrefix : documents <+: all) :
    (environment.processManifest limits extracted).wp
      (fun _ => BetweenMembers environment limits documents)
      (Failed environment limits all)
      (Visible environment limits all) state := by
  have sound := holds.sound
  rw [PipelineEnvironment.processManifest, Program.wp_bind, Program.wp_query]
  dsimp only [id]
  split
  · rw [wp_raise]
    exact sound.failed isPrefix _
  rw [Program.wp_bind]
  refine (wp_submitBatch sound isPrefix).weaken ?_
  rintro - submitted ⟨handed, empty, -⟩
  rw [Program.wp_bind]
  refine (wp_drainWhile handed isPrefix).weaken ?_
  rintro - drained ⟨emptied, keeps, ended⟩
  have nothing : drained.pending = [] :=
    ended.resolve_left (by decide)
  rw [Program.wp_bind]
  refine wp_mayRaise ?_ fun error => emptied.failed isPrefix error
  rw [Program.wp_bind, Program.wp_query, Program.wp_bind, Program.wp_lift]
  dsimp only [id]
  cases environment.joinManifest extracted drained.metrics with
  | error error => exact emptied.failed isPrefix error
  | ok report =>
      dsimp only [Except.mapError]
      rw [wp_step]
      have moved := emptied.advance
      have next : Sound environment limits documents []
          { environment.advance drained with report := some report } :=
        ⟨⟨moved.bounded.batch, moved.bounded.inflight⟩, moved.tracked,
          moved.batchBytes_eq, moved.pendingBytes_eq, moved.results,
          moved.written⟩
      exact ⟨next.visible isPrefix, next,
        fun _ => ⟨keeps.batch.trans empty, nothing⟩⟩

/-- The spec of a turn of the loop over the members. -/
theorem wp_processMember
    {before after : List TarMember} {member : TarMember}
    (holds : BetweenMembers environment limits (documentsOf before) state)
    (split : before ++ member :: after = environment.members) :
    (environment.processMember limits member).wp
      (fun _ => BetweenMembers environment limits
        (documentsOf (before ++ [member])))
      (Failed environment limits (documentsOf environment.members))
      (Visible environment limits (documentsOf environment.members))
      state := by
  have sound := holds.sound
  have isPrefix := documentsOf_prefix split
  have nextSplit : (before ++ [member]) ++ after = environment.members := by
    rw [← split, List.append_assoc]
    rfl
  have nextPrefix := documentsOf_prefix nextSplit
  have next (found : Option Document) (isFound : member.document? = found) :
      documentsOf (before ++ [member]) = documentsOf before ++
        found.toList := by
    rw [documentsOf, List.filterMap_append, ← isFound]
    cases isDocument : member.document? <;> simp [documentsOf, isDocument]
  rw [PipelineEnvironment.processMember, Program.wp_bind]
  refine wp_mayRaise ?_ fun error => sound.failed isPrefix error
  by_cases isFile : member.isFile = false
  · rw [if_pos isFile, wp_raise]
    exact sound.failed isPrefix _
  rw [if_neg isFile]
  by_cases largeManifest : member.name = "_manifest.jsonl" ∧
      (limits.maxManifestMemberBytes : Int) < member.size
  · rw [if_pos largeManifest, wp_raise]
    exact sound.failed isPrefix _
  rw [if_neg largeManifest]
  by_cases largeDocument : member.name ≠ "_manifest.jsonl" ∧
      (limits.maxDocumentBytes : Int) < member.size
  · rw [if_pos largeDocument, wp_raise]
    exact sound.failed isPrefix _
  rw [if_neg largeDocument]
  cases isExtracted : member.extracted with
  | none =>
      rw [wp_raise]
      exact sound.failed isPrefix _
  | some extracted =>
  dsimp only
  by_cases isManifest : member.name = "_manifest.jsonl"
  · rw [if_pos isManifest]
    refine (wp_processManifest holds isPrefix).weaken ?_
    intro _ after between
    have none : member.document? = none :=
      if_neg fun isDocument => isDocument.2 isManifest
    rw [next _ none]
    exact (List.append_nil (documentsOf before)).symm ▸ between
  · rw [if_neg isManifest]
    have isDocument {payload : List Byte}
        (readable : extracted = .ok payload) :
        member.document? = some ⟨member.name, payload⟩ := by
      rw [TarMember.document?,
        if_pos ⟨Bool.not_eq_false _ ▸ isFile, isManifest⟩, isExtracted,
        readable]
    refine (wp_processDocument holds
      (not_lt.mp fun large => largeDocument ⟨isManifest, large⟩)
      (fun payload readable => ?_) isPrefix).weaken ?_
    · rw [next _ (isDocument readable)] at nextPrefix
      exact nextPrefix
    · rintro _ after ⟨payload, readable, between⟩
      rw [next _ (isDocument readable)]
      exact between

/-- The spec of what comes before the settlement: every document has its
line, and nothing is pending. -/
theorem wp_readArchive
    (start : Sound environment limits [] [] state)
    (unreported : state.report = none) :
    (environment.readArchive limits).wp
      (fun _ after => Visible environment limits
          (documentsOf environment.members) after ∧
        Written environment after.metrics
          (documentsOf environment.members) ∧
        Tracked after.pool after.pending)
      (Failed environment limits (documentsOf environment.members))
      (Visible environment limits (documentsOf environment.members))
      state := by
  let invariant (rest : List TarMember) (after : Pipeline Analysis) : Prop :=
    ∃ before, before ++ rest = environment.members ∧
      BetweenMembers environment limits (documentsOf before) after
  have entry : invariant environment.members state := by
    refine ⟨[], rfl, start, fun joined => ?_⟩
    rw [unreported] at joined
    cases joined
  rw [PipelineEnvironment.readArchive, Program.wp_bind]
  refine (Program.wp_forEach invariant entry ?_).weaken ?_
  · rintro member rest current - ⟨before, split, between⟩
    refine (wp_processMember between split).weaken ?_
    intro _ after next
    refine ⟨before ++ [member], ?_, next⟩
    rw [← split, List.append_assoc]
    rfl
  · rintro - after ⟨before, split, between⟩
    rw [List.append_nil] at split
    subst split
    have sound := between.sound
    have whole := List.prefix_refl (documentsOf environment.members)
    have ends : (do
        environment.mayRaise
        Program.inspect fun state =>
          (environment.checkReport state).mapError .raised
        environment.mayRaise : Archiving Analysis Unit).wp
        (fun _ after => Visible environment limits
            (documentsOf environment.members) after ∧
          Written environment after.metrics
            (documentsOf environment.members) ∧
          Tracked after.pool after.pending)
        (Failed environment limits (documentsOf environment.members))
        (Visible environment limits (documentsOf environment.members))
        after := by
      rw [Program.wp_bind]
      refine wp_mayRaise ?_ fun error => sound.failed whole error
      rw [Program.wp_bind, Program.wp_inspect]
      cases checked : environment.checkReport after with
      | error error => exact sound.failed whole error
      | ok done =>
          refine wp_mayRaise ⟨sound.visible whole, ?_, sound.tracked⟩
            fun error => sound.failed whole error
          rw [PipelineEnvironment.checkReport, checked_bind_eq_ok] at checked
          obtain ⟨report, isReport, -⟩ := checked
          have joined : after.report.isSome = true := by
            rw [requireObject_eq_ok.mp isReport]
            rfl
          obtain ⟨noBatch, noPending⟩ := between.joined joined
          obtain ⟨written, lined, isRead⟩ := sound.written
          rw [noBatch, noPending] at isRead
          simp only [List.flatMap_nil, List.append_nil] at isRead
          rw [isRead]
          exact lined
    cases environment.ending with
    | some error =>
        rw [Program.wp_bind, wp_raise]
        exact sound.failed whole error
    | none => exact ends

/-! ## Settling -/

/-- The spec of `settle_abandoned_work`: nothing is outstanding afterwards. -/
theorem wp_settleAbandonedWork
    {fail : Failure -> Pipeline Analysis -> Prop}
    (visible : Visible environment limits all state)
    (tracked : Tracked state.pool state.pending) :
    environment.settleAbandonedWork.wp
      (fun _ after => after.metrics = state.metrics ∧
        ∀ submission, ¬(after.pool submission).Outstanding)
      fail (Visible environment limits all) state := by
  have inflight := visible.bounded.inflight
  let invariant (entries : List (PendingBatch Analysis))
      (after : Pipeline Analysis) : Prop :=
    Visible environment limits all after ∧
      after.metrics = state.metrics ∧ Tracked after.pool entries
  have moved {entries next : List (PendingBatch Analysis)}
      {current : Pipeline Analysis} {pool : Pool}
      (holds : invariant entries current)
      (tracked : Tracked pool next) :
      invariant next { environment.advance current with pool := pool } :=
    ⟨⟨⟨holds.1.bounded.batch, holds.1.bounded.inflight⟩, holds.1.written⟩,
      holds.2.1, tracked⟩
  rw [PipelineEnvironment.settleAbandonedWork, Program.wp_bind,
    Program.wp_query, Program.wp_bind, wp_step]
  have cleared : invariant state.pending { environment.advance state with
      pending := [], pendingBytes := 0 } :=
    ⟨⟨⟨visible.bounded.batch, by
      change 0 + state.batchBytes ≤ _
      omega⟩, visible.written⟩, rfl, tracked.advance⟩
  refine ⟨cleared.1, ?_⟩
  rw [Program.wp_bind]
  -- Cancelling leaves what is outstanding among the abandoned entries.
  refine (Program.wp_forEach (fun _ => invariant state.pending) cleared
    ?_).weaken ?_
  · rintro entry entries current - holds
    rw [PipelineEnvironment.cancel, wp_step]
    have tracked : Tracked (environment.advance current).pool
        state.pending := Tracked.advance holds.2.2
    split
    · have next := moved holds (tracked.cancelled entry.submission)
      exact ⟨next.1, next⟩
    · have next := moved holds tracked
      exact ⟨next.1, next⟩
  · rintro - cancelled holds
    refine (Program.wp_forEach invariant holds ?_).weaken ?_
    · rintro entry entries current - holds
      rw [PipelineEnvironment.settle, Program.wp_bind, Program.wp_query]
      dsimp only [id]
      split
      · rename_i isCancelled
        rw [Program.wp_pure]
        refine ⟨holds.1, holds.2.1, fun submission outstanding => ?_⟩
        obtain ⟨other, listed, isOther⟩ := holds.2.2 submission outstanding
        rcases List.mem_cons.mp listed with isEntry | inEntries
        · rw [← isOther, isEntry, isCancelled] at outstanding
          rcases outstanding with same | same <;> cases same
        · exact ⟨other, inEntries, isOther⟩
      · rw [PipelineEnvironment.await, wp_step]
        have tracked : Tracked (environment.advance current).pool
            (entry :: entries) := Tracked.advance holds.2.2
        have next := moved holds (tracked.settle
          fun finished : WorkStatus.finished.Outstanding => by
            rcases finished with same | same <;> cases same)
        exact ⟨next.1, next⟩
    · rintro - after ⟨-, metrics, tracked⟩
      refine ⟨metrics, fun submission outstanding => ?_⟩
      obtain ⟨entry, listed, -⟩ := tracked submission outstanding
      cases listed

/-! ## Archives -/

/-- The spec of `process_archive`. -/
theorem wp_processArchive
    (environment : PipelineEnvironment Analysis)
    (limits : PipelineLimits) :
    (environment.processArchive limits).wp
      (fun _ after =>
        Written environment after.metrics
          (documentsOf environment.members) ∧
        ∀ submission, ¬(after.pool submission).Outstanding)
      (fun failure after => (∃ error, failure = .raised error) ∧
        ∀ submission, ¬(after.pool submission).Outstanding)
      (Visible environment limits (documentsOf environment.members))
      .empty := by
  have start : Sound environment limits [] []
      (.empty : Pipeline Analysis) := by
    refine ⟨⟨Nat.zero_le _, Nat.zero_le _⟩, fun submission outstanding => ?_,
      rfl, rfl, nofun, [], .nil, rfl⟩
    rcases outstanding with same | same <;> cases same
  rw [PipelineEnvironment.processArchive, Program.wp_bind,
    Program.wp_tryCatch]
  refine (wp_readArchive start rfl).mono ?_ ?_ fun _ => id
  · rintro - after ⟨visible, lined, tracked⟩
    refine (wp_settleAbandonedWork visible tracked).weaken ?_
    rintro - settled ⟨metrics, nothing⟩
    exact ⟨metrics.symm ▸ lined, nothing⟩
  · intro failure after failed
    rw [Program.wp_bind]
    refine (wp_settleAbandonedWork failed.visible failed.tracked).weaken ?_
    rintro - settled ⟨-, nothing⟩
    rw [Program.wp_throw]
    exact ⟨failed.raised, nothing⟩

/-- The pipeline keeps order and bounds: at every step the batch and all that
is in flight are within their caps and the lines are those of the first
documents in archive order; no error on the accounting is raised; a normal end
has one line for each document; and at the end, also after an error, no
submitted work is outstanding. -/
theorem processArchive_bounded
    (environment : PipelineEnvironment Analysis)
    (limits : PipelineLimits) :
    (∀ state ∈ ((environment.processArchive limits).run .empty).visited,
      state.Bounded limits ∧
        WrittenPrefix environment (documentsOf environment.members) state) ∧
      (∀ text, ((environment.processArchive limits).run .empty).result ≠
        .error (.accounting text)) ∧
      (((environment.processArchive limits).run .empty).result = .ok () ->
        Written environment
          ((environment.processArchive limits).run .empty).final.metrics
          (documentsOf environment.members)) ∧
      ∀ submission, ¬(((environment.processArchive limits).run
        .empty).final.pool submission).Outstanding := by
  have verified := wp_processArchive environment limits
  refine ⟨fun state visited => ?_, fun text raised => ?_, fun ended => ?_, ?_⟩
  · have visible := verified.1 state visited
    exact ⟨visible.bounded, visible.written⟩
  · obtain ⟨⟨error, same⟩, -⟩ := verified.error raised
    cases same
  · exact (verified.ok ended).1
  · cases ended : ((environment.processArchive limits).run .empty).result with
    | ok _ => exact (verified.ok ended).2
    | error _ => exact (verified.error ended).2

end RawStream
end CodingLlm
