import CodingLlm.Pretrain.CheckpointContents
import CodingLlm.Pretrain.TrainingHistory

/-!
# What a trainer keeps

A contract on the checkpoint directory and the trainers that saves, validation
records and updates of an order respect is kept by every activity of a process,
whatever the outside does meanwhile.
-/

namespace CodingLlm

open CrashLogic Words Slices

variable {Weights Optimizer Host Device Digest Identity Cursor : Type}
variable {worldSize : Nat}

/-- A loop depends on its body at its items only. -/
theorem checked_mapM_congr
    {items : List α} {body other : α -> Checked β}
    (same : ∀ item ∈ items, body item = other item) :
    items.mapM body = items.mapM other := by
  induction items with
  | nil => rfl
  | cons item rest inductionHypothesis =>
      rw [List.forall_mem_cons] at same
      rw [List.mapM_cons, List.mapM_cons, same.1,
        inductionHypothesis same.2]

/-! ## Samplers -/

/-- A sampler of a rank reads an order. -/
structure DistributedBatchSampler.Reads
    (order : List Nat) (rank worldSize : Nat)
    (sampler : DistributedBatchSampler Digest) : Prop where
  order_eq : sampler.order = order
  rank_eq : sampler.rank = rank
  worldSize_eq : sampler.worldSize = worldSize
  total_eq : sampler.totalGlobalMicrobatches =
    sampler.totalOptimizerUpdates * sampler.gradientAccumulationSteps

/-- The rank and the world size of accepted arguments. -/
theorem DistributedBatchSampler.place_of_checkArguments
    {arguments : SamplerArguments} {resumeState : ResumeState Digest}
    {place : SamplerPlace} {rank worldSize : Nat}
    (checked : checkArguments arguments resumeState = .ok place)
    (atRank : arguments.rank = .int rank)
    (ofWorld : arguments.worldSize = .int worldSize) :
    place.rank = rank ∧ place.worldSize = worldSize := by
  unfold checkArguments at checked
  obtain ⟨_, _, checked⟩ := checked_bind_eq_ok.mp checked
  obtain ⟨_, _, checked⟩ := checked_bind_eq_ok.mp checked
  obtain ⟨_, foundRank, checked⟩ := checked_bind_eq_ok.mp checked
  obtain ⟨_, foundWorld, checked⟩ := checked_bind_eq_ok.mp checked
  obtain ⟨_, _, checked⟩ := checked_bind_eq_ok.mp checked
  rw [requireInteger_eq_ok, atRank, PyValue.int.injEq] at foundRank
  rw [requireInteger_eq_ok, ofWorld, PyValue.int.injEq] at foundWorld
  simp only [require_then_eq_ok, checked_pure_eq_ok] at checked
  rw [← checked.2.2.2.2.2.2, ← foundRank, ← foundWorld]
  exact ⟨Int.toNat_natCast _, Int.toNat_natCast _⟩

/-- Every sampler that is constructed on a directory reads its order. -/
theorem DistributedBatchSampler.reads_of_new [DecidableEq Digest]
    {hash : FileHash Digest Cursor} {directory : OrderDirectory Digest}
    {manifest : OrderManifest Digest} {bytes : List Byte}
    {verifyChecksum : Bool} {arguments : SamplerArguments}
    {resumeState : ResumeState Digest} {rank worldSize : Nat}
    {sampler : DistributedBatchSampler Digest}
    (loaded : loadOrderManifest hash.bytes verifyChecksum directory =
      .ok (manifest, bytes))
    (built : new hash directory arguments resumeState = .ok sampler)
    (atRank : arguments.rank = .int rank)
    (ofWorld : arguments.worldSize = .int worldSize) :
    sampler.Reads (decodeWords referenceItemSize bytes) rank worldSize := by
  simp only [new, checked_bind_eq_ok] at built
  obtain ⟨⟨found, payload⟩, again, place, checked, _, frozen, document, _,
    begun⟩ := built
  obtain ⟨rfl, rfl⟩ := Loads.unique (loadOrderManifest_eq_ok.mp loaded)
    (loadOrderManifest_eq_ok.mp again)
  have placed := place_of_checkArguments checked atRank ofWorld
  have total : trainedMicrobatches found place.globalMicrobatchRows
      place.gradientAccumulationSteps =
        trainedUpdates found place.globalMicrobatchRows
          place.gradientAccumulationSteps *
            place.gradientAccumulationSteps := by
    rw [requireFrozenGeometry_eq_ok] at frozen
    unfold trainedMicrobatches
    split
    · rfl
    · rename_i fixed geometry
      unfold trainedUpdates
      rw [(frozen fixed geometry).2, geometry]
      rfl
  have base : (ofPlace found (decodeWords referenceItemSize payload)
      (hash.orderManifest document) place).Reads
        (decodeWords referenceItemSize payload) rank worldSize :=
    ⟨rfl, placed.1, placed.2, total⟩
  simp only [begin, require_then_eq_ok] at begun
  obtain ⟨_, _, resumed⟩ := begun
  cases resumeState with
  | none =>
      cases resumed
      exact base
  | state state =>
      obtain ⟨_, _, _, _, rfl⟩ := loadStateDict_eq_ok resumed
      exact ⟨base.order_eq, base.rank_eq, base.worldSize_eq, base.total_eq⟩
  | malformed => cases resumed

/-- What a validated sampler of the current position yields next. -/
theorem DistributedBatchSampler.Reads.getElem?_batches
    {order : List Nat} {rank worldSize drawn place : Nat}
    {sampler : DistributedBatchSampler Digest}
    (reads : sampler.Reads order rank worldSize)
    (inside : place < drawn)
    (bound : sampler.startGlobalMicrobatch + place <
      sampler.totalGlobalMicrobatches) :
    (sampler.batches.take drawn)[place]? =
      some (slice (slice order
          ((sampler.startGlobalMicrobatch + place) *
            sampler.globalMicrobatchRows) sampler.globalMicrobatchRows)
        (rank * (sampler.globalMicrobatchRows / worldSize))
        (sampler.globalMicrobatchRows / worldSize)) := by
  rw [getElem?_take_batches inside bound]
  unfold batch localBatchSize
  rw [reads.order_eq, reads.rank_eq, reads.worldSize_eq]

namespace TrainingSetup

variable {setup : TrainingSetup Weights Optimizer Host Device worldSize
  Digest Identity}

theorem checkSampler_eq_ok [DecidableEq Digest]
    {sampler : DistributedBatchSampler Digest}
    {completedMicrobatches : Nat} {result : Unit} :
    setup.checkSampler sampler completedMicrobatches = .ok result ↔
      (sampler.orderManifestSha256, sampler.manifest.orderSha256) =
        setup.dataIdentity ∧
      frozenTrainingGeometry sampler.manifest = .ok setup.geometry ∧
      sampler.globalMicrobatchRows = setup.config.globalMicrobatchRows ∧
      sampler.gradientAccumulationSteps =
        setup.config.gradientAccumulationSteps ∧
      sampler.optimizerUpdateRows = setup.geometry.optimizerUpdateRows ∧
      sampler.totalOptimizerUpdates = setup.config.maxSteps ∧
      sampler.startGlobalMicrobatch = completedMicrobatches := by
  simp only [checkSampler, require_then_eq_ok, checked_pure_eq_ok, and_true]

/-- Samplers of a call that start where the trainers are. -/
structure Positioned
    (setup : TrainingSetup Weights Optimizer Host Device worldSize Digest
      Identity)
    (order : List Nat) (call : TrainCall Digest worldSize) (start : Nat) :
    Prop where
  reads : ∀ rank, (call.samplers rank).Reads order rank.val worldSize
  rows : ∀ rank, (call.samplers rank).globalMicrobatchRows =
    setup.config.globalMicrobatchRows
  steps : ∀ rank, (call.samplers rank).gradientAccumulationSteps =
    setup.config.gradientAccumulationSteps
  updates : ∀ rank, (call.samplers rank).totalOptimizerUpdates =
    setup.config.maxSteps
  start : ∀ rank, (call.samplers rank).startGlobalMicrobatch = start

/-- The windows that iterators yield are those of the order, however many
batches the workers have drawn ahead. -/
theorem Positioned.drawWindows_eq
    {order : List Nat} {call : TrainCall Digest worldSize}
    {start turn step : Nat}
    (schedule : TrainSchedule Host Device worldSize)
    (positioned : setup.Positioned order call start)
    (aligned : start + turn * setup.config.gradientAccumulationSteps =
      step * setup.config.gradientAccumulationSteps)
    (inside : step < setup.config.maxSteps) :
    setup.drawWindows schedule call turn =
      setup.updateWindows (slice order (step * setup.config.updateRows)
        setup.config.updateRows) := by
  unfold drawWindows updateWindows
  dsimp only
  apply checked_mapM_congr
  intro rank _
  apply checked_mapM_congr
  intro index member
  have accumulation := List.mem_range.mp member
  have total : (call.samplers rank).totalGlobalMicrobatches =
      setup.config.maxSteps * setup.config.gradientAccumulationSteps := by
    rw [(positioned.reads rank).total_eq, positioned.updates,
      positioned.steps]
  have place : (call.samplers rank).startGlobalMicrobatch +
      (turn * setup.config.gradientAccumulationSteps + index) =
        step * setup.config.gradientAccumulationSteps + index := by
    rw [positioned.start, ← Nat.add_assoc, aligned]
  have bound : step * setup.config.gradientAccumulationSteps + index <
      setup.config.maxSteps * setup.config.gradientAccumulationSteps := by
    have later := Nat.mul_le_mul_right
      setup.config.gradientAccumulationSteps (Nat.succ_le_of_lt inside)
    rw [Nat.succ_mul] at later
    omega
  unfold nextBatch
  dsimp only
  rw [(positioned.reads rank).getElem?_batches (by omega)
    (by rw [place, total]; exact bound), requireObject_some, checked_ok_bind,
    place, positioned.rows]
  have rows : index * setup.config.globalMicrobatchRows +
      setup.config.globalMicrobatchRows ≤ setup.config.updateRows := by
    unfold TrajectoryConfig.updateRows
    have more := Nat.mul_le_mul_right setup.config.globalMicrobatchRows
      (Nat.succ_le_of_lt accumulation)
    rw [Nat.succ_mul] at more
    rw [Nat.mul_comm setup.config.globalMicrobatchRows]
    exact more
  have offset : (step * setup.config.gradientAccumulationSteps + index) *
      setup.config.globalMicrobatchRows =
        step * setup.config.updateRows +
          index * setup.config.globalMicrobatchRows := by
    unfold TrajectoryConfig.updateRows
    ring
  rw [slice_slice order rows, offset]
  rfl

end TrainingSetup

/-! ## Contracts of trainers -/

/-- What is kept of the directory with a process on it, of the directory when
the process is killed, and of the trainers, with the errors that may be
raised. -/
structure TrainerContract
    (setup : TrainingSetup Weights Optimizer Host Device worldSize Digest
      Identity) where
  disk : CheckpointDisk setup.Payload -> CheckpointProcess setup.Payload ->
    Prop
  diskCrash : CheckpointDisk setup.Payload -> Prop
  trainer : setup.Trainer -> Prop
  raises : PyError -> Prop
  crash_of_disk : ∀ directory process, disk directory process ->
    diskCrash directory

variable {setup : TrainingSetup Weights Optimizer Host Device worldSize Digest
  Identity}

namespace TrainerContract

/-- Saves, validation records and updates of an order respect a contract. -/
structure Lawful (contract : TrainerContract setup) (order : List Nat) :
    Prop where
  invalidated : ∀ directory process, contract.disk directory process ->
    contract.disk directory { process with lastCheckpoint := none }
  save : ∀ directory trainer, contract.disk directory trainer.process ->
    contract.trainer trainer ->
      (saveCheckpoint setup.steps trainer.process
        (setup.payload trainer)).wp
        (fun next final => contract.disk final next)
        (fun error final => contract.raises error ∧ contract.diskCrash final)
        contract.diskCrash directory
  process : ∀ trainer process, contract.trainer trainer ->
    contract.trainer { trainer with process := process }
  stopSignal : ∀ trainer signal, contract.trainer trainer ->
    contract.trainer { trainer with stopSignal := signal }
  validated : ∀ trainer, contract.trainer trainer ->
    setup.validationAtStartDue trainer = true ∨
      setup.validationDue trainer = true ->
    contract.trainer (setup.recordValidation trainer)
  aligned : ∀ trainer, contract.trainer trainer ->
    trainer.counters.completedMicrobatches =
      trainer.counters.completedSteps *
        setup.config.gradientAccumulationSteps
  update : ∀ trainer next, contract.trainer trainer ->
    setup.updateOfOrder order trainer.counters.completedSteps
      trainer.toTrainingProgress = .ok next ->
    contract.trainer { trainer with toTrainingProgress := next }
  update_raises : ∀ trainer error, contract.trainer trainer ->
    trainer.counters.completedSteps < setup.config.maxSteps ->
    setup.updateOfOrder order trainer.counters.completedSteps
      trainer.toTrainingProgress = .error error -> contract.raises error
  final_raises : ∀ trainer error, contract.trainer trainer ->
    setup.checkFinal trainer.counters = .error error -> contract.raises error

/-- The outside raises only what a contract allows. -/
structure Admits (contract : TrainerContract setup)
    (schedule : TrainSchedule Host Device worldSize) : Prop where
  stopSignal : ∀ site step error,
    schedule.stopSignal site step = .error error -> contract.raises error
  validates : ∀ step error,
    schedule.validates step = .error error -> contract.raises error

/-- The contract of a session whose trainers have given counters. -/
def during (contract : TrainerContract setup) (counters : TrainCounters) :
    Contract setup.Session PyError where
  holds session := contract.disk session.disk session.trainer.process ∧
    contract.trainer session.trainer ∧ session.trainer.counters = counters
  crash session := contract.diskCrash session.disk ∧
    contract.trainer session.trainer
  raises := contract.raises
  crash_of_holds := fun _ holds =>
    ⟨contract.crash_of_disk _ _ holds.1, holds.2.1⟩

end TrainerContract

/-! ## What changes nothing -/

@[simp] theorem onRankZero_preserveHostRngState
    (body : Host -> Host) (rngs : Fin worldSize -> RngState Host Device) :
    onRankZero (preserveHostRngState body) rngs = rngs := by
  funext rank
  unfold onRankZero
  split <;> rfl

namespace TrainingSetup

variable {schedule : TrainSchedule Host Device worldSize}
variable {post : Unit -> setup.Session -> Prop}
variable {fail : PyError -> setup.Session -> Prop}
variable {crash : setup.Session -> Prop} {session : setup.Session}

/-- Logging leaves the session as it was. -/
theorem logMetrics_wp
    {site : TrainSite}
    (crashes : crash session) (holds : post () session) :
    (setup.logMetrics schedule site).wp post fail crash session := by
  unfold logMetrics modify
  rw [Program.wp_commit]
  simp only [onRankZero_preserveHostRngState]
  exact ⟨crashes, holds⟩

theorem recordValidation_counters (trainer : setup.Trainer) :
    (setup.recordValidation trainer).toTrainingProgress =
      trainer.toTrainingProgress := by
  unfold recordValidation
  split
  · split <;> rfl
  · split <;> rfl

theorem recordValidation_process (trainer : setup.Trainer) :
    (setup.recordValidation trainer).process = trainer.process ∨
      (setup.recordValidation trainer).process =
        { trainer.process with lastCheckpoint := none } := by
  unfold recordValidation
  split
  · split
    · exact .inl rfl
    · exact .inr rfl
  · split
    · exact .inr rfl
    · exact .inl rfl

end TrainingSetup

/-! ## The methods of a trainer -/

section Methods

open TrainingSetup Contract

variable {contract : TrainerContract setup} {order : List Nat}
variable {counters : TrainCounters}
variable {schedule : TrainSchedule Host Device worldSize}

namespace TrainerContract

theorem logMetrics_met (site : TrainSite) :
    (contract.during counters).Met (setup.logMetrics schedule site) := by
  intro session holds
  exact logMetrics_wp ((contract.during counters).crash_of_holds _ holds) holds

/-- A program that only changes what no checkpoint and no update reads. -/
theorem stopSignal_met
    (lawful : contract.Lawful order) (signal : Nat) :
    (contract.during counters).Met (setup.modify fun trainer =>
      { trainer with stopSignal := signal }) := by
  apply Met.commit
  rintro session ⟨directory, trainer, same⟩
  exact ⟨directory, lawful.stopSignal _ _ trainer, same⟩

theorem saveCheckpoint_met
    (lawful : contract.Lawful order) (site : TrainSite) :
    (contract.during counters).Met (setup.saveCheckpoint schedule site) := by
  apply Met.query_bind
  rintro session ⟨directory, trainer, same⟩
  split
  · exact Met.pure _ session ⟨directory, trainer, same⟩
  · unfold onDisk
    rw [Program.wp_bind, Program.wp_within]
    apply (lawful.save _ _ directory trainer).mono
    · intro process disk saved
      rw [Program.wp_bind]
      unfold TrainingSetup.modify
      rw [Program.wp_commit]
      have next : (contract.during counters).holds
          { disk := disk
            trainer := { session.trainer with process := process } } :=
        ⟨saved, lawful.process _ _ trainer, same⟩
      exact ⟨(contract.during counters).crash_of_holds _ next,
        logMetrics_met site _ next⟩
    · rintro error disk ⟨allowed, crashed⟩
      exact ⟨allowed, crashed, trainer⟩
    · intro disk crashed
      exact ⟨crashed, trainer⟩

theorem honorStopRequest_met
    (lawful : contract.Lawful order)
    (site : TrainSite) (requested : Nat) (committed : Bool) :
    (contract.during counters).Met
      (setup.honorStopRequest schedule site requested committed) := by
  apply Met.ite fun _ => Met.pure _
  intro _
  apply Met.bind (Met.query _)
  intro reported
  apply Met.bind (stopSignal_met lawful requested)
  intro _
  apply Met.optional fun _ => saveCheckpoint_met lawful site
  apply Met.optional fun _ => logMetrics_met site
  exact Met.pure _

theorem distributedStopSignal_met
    (admits : contract.Admits schedule) (site : TrainSite) :
    (contract.during counters).Met
      (setup.distributedStopSignal schedule site) := by
  apply Met.bind (Met.query _)
  intro step
  exact Met.lift (admits.stopSignal site step)

theorem stopRequested_met
    (lawful : contract.Lawful order)
    (admits : contract.Admits schedule) (site : TrainSite) :
    (contract.during counters).Met (setup.stopRequested schedule site) := by
  apply Met.bind (distributedStopSignal_met admits site)
  intro requested
  exact honorStopRequest_met lawful site requested false

/-- A validation pass that is due. -/
theorem evaluateValidation_wp
    (lawful : contract.Lawful order)
    (admits : contract.Admits schedule) (site : TrainSite)
    {session : setup.Session}
    (holds : (contract.during counters).holds session)
    (due : setup.validationAtStartDue session.trainer = true ∨
      setup.validationDue session.trainer = true) :
    (setup.evaluateValidation schedule site).wp
      (fun _ => (contract.during counters).holds)
      (fun error final => contract.raises error ∧
        (contract.during counters).crash final)
      (contract.during counters).crash session := by
  have crash := (contract.during counters).crash_of_holds _ holds
  have runner : setup.validationRunner.isSome = true := by
    unfold validationAtStartDue validationDue at due
    simp only [Bool.and_eq_true] at due
    rcases due with ⟨⟨⟨runner, _⟩, _⟩, _⟩ | ⟨⟨⟨runner, _⟩, _⟩, _⟩
    · exact runner
    · exact runner
  unfold evaluateValidation TrainingSetup.read TrainingSetup.modify
  rw [Program.wp_bind, require_eq_ok runner, Program.wp_lift_ok,
    Program.wp_bind, Program.wp_query, Program.wp_bind, Program.wp_commit]
  refine ⟨crash, ?_⟩
  rw [Program.wp_bind, Program.wp_lift]
  cases passed : schedule.validates session.trainer.counters.completedSteps
    with
  | error error => exact ⟨admits.validates _ _ passed, crash⟩
  | ok _ =>
      dsimp only
      rw [Program.wp_bind]
      apply logMetrics_wp crash
      obtain ⟨directory, trainer, same⟩ := holds
      have next : (contract.during counters).holds
          { session with
            trainer := setup.recordValidation session.trainer } := by
        refine ⟨?_, lawful.validated _ trainer due, ?_⟩
        · rcases recordValidation_process session.trainer with
            unchanged | changed
          · rw [unchanged]
            exact directory
          · rw [changed]
            exact lawful.invalidated _ _ directory
        · rw [← same]
          exact congrArg TrainingProgress.counters
            (recordValidation_counters session.trainer)
      rw [Program.wp_commit]
      exact ⟨(contract.during counters).crash_of_holds _ next, next⟩

theorem startValidation_met
    (lawful : contract.Lawful order)
    (admits : contract.Admits schedule) :
    (contract.during counters).Met (setup.startValidation schedule) := by
  apply Met.query_bind
  intro session holds
  split
  · rename_i due
    rw [Program.wp_bind]
    apply (evaluateValidation_wp lawful admits _ holds (.inl due)).weaken
    intro _ final
    exact stopRequested_met lawful admits _ final
  · exact Met.pure _ session holds

theorem dueValidation_met
    (lawful : contract.Lawful order)
    (admits : contract.Admits schedule) :
    (contract.during counters).Met (setup.dueValidation schedule) := by
  apply Met.query_bind
  intro session holds
  split
  · rename_i due
    rw [Program.wp_bind]
    apply (evaluateValidation_wp lawful admits _ holds (.inr due)).weaken
    intro _ final
    apply Met.bind (saveCheckpoint_met lawful _)
    intro _
    exact stopRequested_met lawful admits _
  · exact Met.pure _ session holds

/-- What follows an update keeps the counters. -/
theorem afterUpdate_met
    (lawful : contract.Lawful order)
    (admits : contract.Admits schedule)
    (call : TrainCall Digest worldSize) :
    (contract.during counters).Met (setup.afterUpdate schedule call) := by
  have checkpoint : (contract.during counters).Met
      (setup.saveCheckpoint schedule .checkpoint) :=
    saveCheckpoint_met lawful _
  apply Met.bind (Met.query _)
  intro step
  apply Met.optional fun _ => logMetrics_met _
  apply Met.bind (stopRequested_met lawful admits _)
  intro stopped
  apply Met.ite fun _ => Met.pure _
  intro _
  apply Met.query_bind
  intro session holds
  have rest : (contract.during counters).Met (do
      if call.checkpointEvery ≠ 0 ∧ step % call.checkpointEvery = 0 then
        setup.saveCheckpoint schedule .checkpoint
      setup.stopRequested schedule .checkpoint) :=
    Met.optional (fun _ => checkpoint) (stopRequested_met lawful admits _)
  dsimp only
  split
  · rename_i due
    rw [Program.wp_bind]
    apply (evaluateValidation_wp lawful admits _ holds (.inr due)).weaken
    intro _ final
    exact rest final
  · exact rest session holds

end TrainerContract

end Methods

/-! ## Updates and whole runs -/

/-- An error of a loop is one of its turns. -/
theorem exists_item_of_mapM_error
    {items : List α} {body : α -> Checked β} {error : PyError}
    (raised : items.mapM body = .error error) :
    ∃ item ∈ items, body item = .error error := by
  induction items with
  | nil => cases raised
  | cons item rest inductionHypothesis =>
      rw [List.mapM_cons] at raised
      cases first : body item with
      | error other =>
          rw [first] at raised
          cases raised
          exact ⟨item, List.mem_cons_self .., first⟩
      | ok _ =>
          rw [first, checked_ok_bind] at raised
          cases others : rest.mapM body with
          | error other =>
              rw [others] at raised
              cases raised
              obtain ⟨found, member, same⟩ := inductionHypothesis others
              exact ⟨found, List.mem_cons_of_mem _ member, same⟩
          | ok _ =>
              rw [others] at raised
              cases raised

namespace TrainingSetup

/-- An update completes one step and its microbatches. -/
theorem optimizerUpdate_counters
    {windows : List (List Batch)}
    {progress next : TrainingProgress Weights Optimizer Host Device worldSize}
    (updated : setup.optimizerUpdate windows progress = .ok next) :
    ∃ stats, reduceWindowStats setup.localBatchSize setup.modelLossTokens
        windows = .ok stats ∧
      checkWindow setup.config setup.geometry progress.counters stats =
        .ok () ∧
      next.counters = progress.counters.advance setup.config stats := by
  unfold optimizerUpdate at updated
  obtain ⟨_, _, updated⟩ := checked_bind_eq_ok.mp updated
  obtain ⟨stats, reduced, updated⟩ := checked_bind_eq_ok.mp updated
  obtain ⟨_, checked, updated⟩ := checked_bind_eq_ok.mp updated
  obtain ⟨_, _, updated⟩ := checked_bind_eq_ok.mp updated
  refine ⟨stats, reduced, checked, ?_⟩
  rw [← checked_pure_eq_ok.mp updated]

theorem updateOfOrder_counters
    {order : List Nat} {step : Nat}
    {progress next : TrainingProgress Weights Optimizer Host Device worldSize}
    (updated : setup.updateOfOrder order step progress = .ok next) :
    next.counters.completedSteps = progress.counters.completedSteps + 1 ∧
      next.counters.completedMicrobatches =
        progress.counters.completedMicrobatches +
          setup.config.gradientAccumulationSteps := by
  unfold updateOfOrder at updated
  obtain ⟨_, _, updated⟩ := checked_bind_eq_ok.mp updated
  obtain ⟨_, _, _, counters⟩ := optimizerUpdate_counters updated
  rw [counters]
  exact ⟨rfl, rfl⟩

end TrainingSetup

namespace TrainerContract

open TrainingSetup Contract

variable {contract : TrainerContract setup} {order : List Nat}
variable {counters : TrainCounters}
variable {schedule : TrainSchedule Host Device worldSize}
variable {call : TrainCall Digest worldSize}

/-- The contract of a session. -/
def sessions (contract : TrainerContract setup) :
    Contract setup.Session PyError where
  holds session := contract.disk session.disk session.trainer.process ∧
    contract.trainer session.trainer
  crash session := contract.diskCrash session.disk ∧
    contract.trainer session.trainer
  raises := contract.raises
  crash_of_holds := fun _ holds =>
    ⟨contract.crash_of_disk _ _ holds.1, holds.2⟩

/-- With given counters a session keeps more than without. -/
theorem during_wp
    {program : setup.TrainerProgram α} {session : setup.Session}
    {post : α -> setup.Session -> Prop}
    (met : (contract.during counters).Met program)
    (holds : (contract.during counters).holds session)
    (ends : ∀ value final, (contract.during counters).holds final ->
      post value final) :
    program.wp post (fun error final => contract.raises error ∧
      contract.sessions.crash final) contract.sessions.crash session :=
  (met session holds).mono ends (fun _ _ => id) (fun _ => id)

theorem updateTurn_wp
    {session : setup.Session} {start turn : Nat}
    (lawful : contract.Lawful order)
    (positioned : setup.Positioned order call start)
    (holds : (contract.during counters).holds session)
    (microbatches : start + turn * setup.config.gradientAccumulationSteps =
      counters.completedMicrobatches)
    (inside : counters.completedSteps < setup.config.maxSteps) :
    (setup.updateTurn schedule call turn).wp
      (fun _ final => ∃ next, (contract.during next).holds final ∧
        next.completedSteps = counters.completedSteps + 1 ∧
        next.completedMicrobatches = counters.completedMicrobatches +
          setup.config.gradientAccumulationSteps)
      (fun error final => contract.raises error ∧
        contract.sessions.crash final)
      contract.sessions.crash session := by
  obtain ⟨directory, trainer, rfl⟩ := holds
  have windows : setup.drawWindows schedule call turn = _ :=
    positioned.drawWindows_eq schedule
      (microbatches.trans (lawful.aligned _ trainer)) inside
  have crash : contract.sessions.crash session :=
    ⟨contract.crash_of_disk _ _ directory, trainer⟩
  unfold updateTurn TrainingSetup.read TrainingSetup.modify
  rw [Program.wp_bind, Program.wp_query, Program.wp_bind, windows]
  change (Program.lift (setup.updateOfOrder order
    session.trainer.counters.completedSteps
      session.trainer.toTrainingProgress)).wp _ _ _ _
  rw [Program.wp_lift]
  cases updated : setup.updateOfOrder order
      session.trainer.counters.completedSteps
      session.trainer.toTrainingProgress with
  | error error =>
      exact ⟨lawful.update_raises _ _ trainer inside updated, crash⟩
  | ok next =>
      dsimp only
      rw [Program.wp_commit]
      have kept := lawful.update _ _ trainer updated
      exact ⟨⟨crash.1, kept⟩, next.counters, ⟨directory, kept, rfl⟩,
        updateOfOrder_counters updated⟩

/-- The loop of `train`, by induction on the turns that remain. -/
theorem trainLoop_wp
    {start : Nat}
    (lawful : contract.Lawful order)
    (admits : contract.Admits schedule)
    (positioned : setup.Positioned order call start)
    {remaining turn : Nat} {session : setup.Session}
    (holds : (contract.during counters).holds session)
    (microbatches : start + turn * setup.config.gradientAccumulationSteps =
      counters.completedMicrobatches)
    (inside : counters.completedSteps + remaining ≤ setup.config.maxSteps) :
    (setup.trainLoop schedule call remaining turn).wp
      (fun _ => contract.sessions.holds)
      (fun error final => contract.raises error ∧
        contract.sessions.crash final)
      contract.sessions.crash session := by
  induction remaining generalizing turn session counters with
  | zero =>
      apply (Program.wp_pure _).mpr
      exact ⟨holds.1, holds.2.1⟩
  | succ remaining inductionHypothesis =>
      unfold trainLoop
      rw [Program.wp_bind]
      apply (updateTurn_wp lawful positioned holds microbatches
        (by omega)).weaken
      rintro _ updated ⟨next, holds, steps, advanced⟩
      rw [Program.wp_bind]
      apply during_wp (afterUpdate_met lawful admits call) holds
      intro stopped final holds
      split
      · apply (Program.wp_pure _).mpr
        exact ⟨holds.1, holds.2.1⟩
      · apply inductionHypothesis holds
        · rw [advanced, ← microbatches, Nat.add_one_mul, Nat.add_assoc]
        · rw [steps]
          omega

/-- The samplers of a call read an order. -/
def ReadBy
    (order : List Nat) (call : TrainCall Digest worldSize) : Prop :=
  ∀ rank, (call.samplers rank).Reads order rank.val worldSize

variable [DecidableEq Digest]

theorem trainUpdates_wp
    {target : Nat} {session : setup.Session}
    (lawful : contract.Lawful order)
    (admits : contract.Admits schedule)
    (reads : ReadBy order call)
    (loaders : ∀ rank error, setup.checkSampler (call.samplers rank)
      counters.completedMicrobatches = .error error -> contract.raises error)
    (holds : (contract.during counters).holds session)
    (later : counters.completedSteps ≤ target)
    (bound : target ≤ setup.config.maxSteps) :
    (setup.trainUpdates schedule call target).wp
      (fun _ => contract.sessions.holds)
      (fun error final => contract.raises error ∧
        contract.sessions.crash final)
      contract.sessions.crash session := by
  have crash : contract.sessions.crash session :=
    (contract.during counters).crash_of_holds _ holds
  have same : session.trainer.counters = counters := holds.2.2
  unfold trainUpdates TrainingSetup.read TrainingSetup.modify
  rw [Program.wp_bind, Program.wp_query]
  simp only [same]
  split
  · apply (Program.wp_pure _).mpr
    exact ⟨holds.1, holds.2.1⟩
  · rw [Program.wp_bind, Program.wp_lift]
    cases checked : (List.finRange worldSize).mapM fun rank =>
        setup.checkSampler (call.samplers rank)
          counters.completedMicrobatches with
    | error error =>
        obtain ⟨rank, _, raised⟩ := exists_item_of_mapM_error checked
        exact ⟨loaders rank error raised, crash⟩
    | ok _ =>
        have accepted (rank : Fin worldSize) := checkSampler_eq_ok.mp
          (exists_result_of_mapM checked
            (List.mem_finRange rank)).choose_spec.2
        have positioned : setup.Positioned order call
            counters.completedMicrobatches :=
          ⟨reads, fun rank => (accepted rank).2.2.1,
            fun rank => (accepted rank).2.2.2.1,
            fun rank => (accepted rank).2.2.2.2.2.1,
            fun rank => (accepted rank).2.2.2.2.2.2⟩
        change Program.wp (_ >>= _) _ _ _ _
        rw [Program.wp_bind, Program.wp_commit]
        refine ⟨crash, ?_⟩
        rw [Program.wp_bind]
        apply (trainLoop_wp lawful admits positioned holds (by simp)
          (by omega)).weaken
        intro _ final ended
        rw [Program.wp_bind, Program.wp_query, Program.wp_lift]
        cases complete : setup.checkFinal final.trainer.counters with
        | error error =>
            exact ⟨lawful.final_raises _ _ ended.2 complete,
              contract.sessions.crash_of_holds _ ended⟩
        | ok _ => exact ended

/-- `train` keeps the contract. -/
theorem train_wp
    {session : setup.Session}
    (lawful : contract.Lawful order)
    (admits : contract.Admits schedule)
    (reads : ReadBy order call)
    (loaders : ∀ rank error, setup.checkSampler (call.samplers rank)
      session.trainer.counters.completedMicrobatches = .error error ->
        contract.raises error)
    (target : ¬(session.trainer.counters.completedSteps ≤
        call.untilStep.getD setup.config.maxSteps ∧
        call.untilStep.getD setup.config.maxSteps ≤
          setup.config.maxSteps) ->
      contract.raises (.valueError
        "until_step must be between current progress and max_steps"))
    (holds : contract.sessions.holds session) :
    (setup.train schedule call).wp
      (fun _ => contract.sessions.holds)
      (fun error final => contract.raises error ∧
        contract.sessions.crash final)
      contract.sessions.crash session := by
  have crash := contract.sessions.crash_of_holds _ holds
  have holds : (contract.during session.trainer.counters).holds session :=
    ⟨holds.1, holds.2, rfl⟩
  unfold train TrainingSetup.read
  rw [Program.wp_bind, Program.wp_query, Program.wp_bind, Program.wp_lift]
  by_cases inside : session.trainer.counters.completedSteps ≤
      call.untilStep.getD setup.config.maxSteps ∧
    call.untilStep.getD setup.config.maxSteps ≤ setup.config.maxSteps
  · rw [require_eq_ok inside]
    dsimp only
    rw [Program.wp_bind]
    apply during_wp (stopRequested_met lawful admits _) holds
    intro stopped entered holds
    split
    · apply (Program.wp_pure _).mpr
      exact ⟨holds.1, holds.2.1⟩
    · rw [Program.wp_bind]
      apply during_wp (startValidation_met lawful admits) holds
      intro stopped started holds
      split
      · apply (Program.wp_pure _).mpr
        exact ⟨holds.1, holds.2.1⟩
      · rw [Program.wp_bind]
        apply during_wp (dueValidation_met lawful admits) holds
        intro stopped caughtUp holds
        split
        · apply (Program.wp_pure _).mpr
          exact ⟨holds.1, holds.2.1⟩
        · exact trainUpdates_wp lawful admits reads loaders holds inside.1
            inside.2
  · rw [require_eq_error inside]
    exact ⟨target inside, crash⟩

omit [DecidableEq Digest] in
/-- `_finalize_training_run` keeps the contract. -/
theorem finalizeTrainingRun_wp
    {session : setup.Session}
    (lawful : contract.Lawful order)
    (admits : contract.Admits schedule)
    (holds : contract.sessions.holds session) :
    (setup.finalizeTrainingRun schedule).wp
      (fun _ => contract.sessions.holds)
      (fun error final => contract.raises error ∧
        contract.sessions.crash final)
      contract.sessions.crash session := by
  have met : (contract.during session.trainer.counters).Met
      (setup.finalizeTrainingRun schedule) := by
    apply Met.bind (saveCheckpoint_met lawful _)
    intro _
    apply Met.bind (distributedStopSignal_met admits _)
    intro requested
    apply Met.bind (honorStopRequest_met lawful _ _ _)
    intro _
    exact Met.pure _
  apply during_wp met ⟨holds.1, holds.2, rfl⟩
  intro _ final ended
  exact ⟨ended.1, ended.2.1⟩

end TrainerContract

end CodingLlm
