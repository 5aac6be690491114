import CodingLlm.Pretrain.CheckpointSaves

/-!
# Checkpoints over whole histories

The invariant of every history of starts, saves, kills and damages of `last`
on one checkpoint path, and what it says about the generations that a later
run can read.
-/

namespace CodingLlm

open CrashLogic CheckpointDisk

variable {Stamp : Type} {steps : Stamp -> Nat}
variable {disk : CheckpointDisk Stamp}
variable {process : Option (CheckpointProcess Stamp)}
variable {returned : Option (List Stamp)}

namespace CheckpointHistory

/-- What holds at every moment of a history. -/
structure Invariant
    (disk : CheckpointDisk Stamp)
    (process : Option (CheckpointProcess Stamp))
    (returned : Option (List Stamp)) : Prop where
  sound : disk.Sound returned
  trains : ∀ trainer, process = some trainer -> disk.Trains returned trainer

/-- Nothing runs in a sound directory. -/
theorem Invariant.idle (sound : disk.Sound returned) :
    Invariant disk none returned :=
  ⟨sound, fun _ same => nomatch same⟩

/-- Every history keeps the invariant. -/
theorem invariant
    (history : CheckpointHistory steps disk process returned) :
    Invariant disk process returned := by
  induction history with
  | empty => exact .idle .empty
  | started _ succeeded kept =>
      obtain ⟨sound, trains⟩ := (startRun_wp steps kept.sound _).ok succeeded
      refine ⟨sound, ?_⟩
      rintro _ ⟨⟩
      exact trains
  | startKilled _ killed lost kept =>
      apply Invariant.idle
      exact ((startRun_wp steps kept.sound _).killed kept.sound killed).lost
        lost
  | @saved disk process next returned stamp _ succeeded kept =>
      have trains := kept.trains process rfl
      have ended := (saveCheckpoint_wp steps kept.sound trains stamp).ok
        succeeded
      split at ended
      · rename_i skips
        rw [if_pos skips, ended.1, ended.2]
        exact kept
      · rename_i publishes
        obtain ⟨grown, rotates, saved⟩ := ended
        rw [if_neg publishes]
        refine ⟨saved.sound, ?_⟩
        rintro _ ⟨⟩
        exact saved.trains grown rotates
  | @saveKilled disk visited left process returned stamp _ killed lost kept =>
      have trains := kept.trains process rfl
      have spared := (saveCheckpoint_wp steps kept.sound trains stamp).killed
        ⟨kept.sound, trains.recovered⟩ killed
      exact .idle (spared.1.lost lost)
  | @changed disk process returned _ kept =>
      refine ⟨kept.sound, ?_⟩
      rintro _ ⟨⟩
      have trains := kept.trains process rfl
      exact ⟨trains.recovered, trains.resumed, trains.fresh, trains.keeps,
        fun _ same => nomatch same⟩
  | ended _ lost kept => exact .idle (kept.sound.lost lost)
  | damaged _ kept => exact .idle kept.sound.corruptLast

/-! ## What a later run can read -/

/-- The newest returned generation, or a later one, is in `last` unless it was
damaged; the one before it, or a later one, is in `previous`. -/
theorem Invariant.readable
    (kept : Invariant disk process returned)
    {generation : List Stamp}
    (known : returned = some generation) :
    (∃ inode, disk.entry .last = some inode ∧
      (disk.content inode = .corrupted ∨
        ∃ later, generation <+: later ∧
          disk.content inode = .complete later)) ∧
    (generation.length ≠ 1 ->
      ∃ earlier,
        (generation <+: earlier ∨ earlier = generation.dropLast) ∧
          disk.Holds .previous earlier ∧
            disk.corruptLast.Holds .previous earlier) := by
  have standing := kept.sound.standing _ _ .now .now
  constructor
  · cases named : disk.entry .last with
    | none =>
        apply absurd _ (standing.last_exists generation known)
        rw [named, Option.map_none]
    | some inode =>
        refine ⟨inode, rfl, ?_⟩
        rw [named, Option.map_some] at standing
        apply (standing.last_whole _ rfl).imp id
        rintro ⟨later, _, whole⟩
        refine ⟨later, ?_, whole⟩
        exact standing.last_keeps generation later known (by rw [whole])
  · intro several
    cases named : disk.entry .previous with
    | none =>
        rw [named] at standing
        exact absurd (standing.alone generation known rfl) several
    | some inode =>
        rw [named, Option.map_some] at standing
        obtain ⟨earlier, _, whole⟩ := standing.previous_whole _ rfl
        refine ⟨earlier, ?_, ⟨inode, named, whole⟩, ?_⟩
        · exact standing.previous_keeps generation earlier known
            (by rw [whole])
        · unfold CheckpointDisk.corruptLast
          cases last : disk.entry .last with
          | none => exact ⟨inode, named, whole⟩
          | some damaged =>
              refine ⟨inode, named, ?_⟩
              change Function.update disk.content damaged .corrupted inode = _
              rw [Function.update_of_ne _, whole]
              rintro rfl
              exact kept.sound.apart _ (.inl last.symm) (.inl named.symm)

/-- A save of the trainer that runs returns, and what a recovery has read
stays until then. -/
theorem Invariant.saves
    {trainer : CheckpointProcess Stamp}
    (kept : Invariant disk (some trainer) returned)
    (stamp : Stamp) :
    (∃ next,
      ((saveCheckpoint steps trainer stamp).run disk).result = .ok next ∧
        (¬trainer.Skips steps stamp ->
          next.lineage = trainer.lineage ++ [stamp] ∧
            ((saveCheckpoint steps trainer stamp).run disk).final.Holds
              .last next.lineage)) ∧
    (trainer.preservePrevious = true ->
      (∀ visited, (saveCheckpoint steps trainer stamp).Killed disk visited ->
        visited.Holds .previous trainer.lineage) ∧
      ((saveCheckpoint steps trainer stamp).run disk).final.Holds
        .previous trainer.lineage) := by
  have trains := kept.trains trainer rfl
  have verified := saveCheckpoint_wp steps kept.sound trains stamp
  obtain ⟨next, ended, saved⟩ := verified.terminates
  constructor
  · refine ⟨next, ended, ?_⟩
    intro publishes
    rw [if_neg publishes] at saved
    exact ⟨saved.1, saved.2.2.last⟩
  · intro preserves
    constructor
    · intro visited killed
      exact (verified.killed ⟨kept.sound, trains.recovered⟩ killed).2
        preserves
    · split at saved
      · rw [saved.2]
        exact trains.recovered preserves
      · exact saved.2.2.previous preserves

/-- The removal of temporaries removes them all and nothing else. -/
theorem Invariant.reconciles
    (kept : Invariant disk process returned) :
    ∃ removed,
      (reconcileCheckpointTemporaries.run disk).result = .ok removed ∧
        (∀ name, name ∈ removed ↔
          name.isTemporary = true ∧ disk.IsFile name) ∧
        (∀ name, (reconcileCheckpointTemporaries.run disk).final.entry name =
          if name.isTemporary = true then none else disk.entry name) ∧
        (∀ visited, reconcileCheckpointTemporaries.Killed disk visited ->
          visited.content = disk.content ∧
            ∀ name, name.isTemporary = false ->
              visited.entry name = disk.entry name) := by
  have verified := reconcileCheckpointTemporaries_wp
    kept.sound.numbered_entry
  obtain ⟨removed, ended, reconciled⟩ := verified.terminates
  refine ⟨removed, ended, reconciled.removed_iff, reconciled.entry, ?_⟩
  intro visited killed
  have reconciling : Reconciling disk visited := by
    apply verified.killed _ killed
    exact ⟨[], by simp, .inl disk.without_nil.symm⟩
  obtain ⟨gone, hidden, same⟩ := reconciling
  have entry (name : CheckpointName) :
      visited.entry name = (disk.without gone).entry name := by
    rcases same with rfl | rfl <;> rfl
  constructor
  · rcases same with rfl | rfl <;> rfl
  · intro name stays
    rw [entry]
    apply if_neg
    intro there
    simp [hidden name there] at stays

end CheckpointHistory

/-- In every history of a checkpoint path, published files are complete unless
`last` was damaged; after any save but the first of a lineage, `previous`
survives such damage, with at most one generation lost; the first save after a
recovery keeps what was recovered; and the removal of temporaries succeeds and
touches nothing else. -/
theorem checkpoint_generations_kept
    (history : CheckpointHistory steps disk process returned) :
    (∀ inode, disk.entry .previous = some inode ->
      ∃ lineage, disk.content inode = .complete lineage) ∧
    (∀ inode, disk.entry .last = some inode ->
      disk.content inode = .corrupted ∨
        ∃ lineage, disk.content inode = .complete lineage) ∧
    (∀ generation, returned = some generation ->
      (∃ inode, disk.entry .last = some inode ∧
        (disk.content inode = .corrupted ∨
          ∃ later, generation <+: later ∧
            disk.content inode = .complete later)) ∧
      (generation.length ≠ 1 ->
        ∃ earlier,
          (generation <+: earlier ∨ earlier = generation.dropLast) ∧
            disk.Holds .previous earlier ∧
              disk.corruptLast.Holds .previous earlier)) ∧
    (∀ trainer, process = some trainer ->
      (∀ generation, returned = some generation ->
        generation <+: trainer.lineage) ∧
      (trainer.preservePrevious = true ->
        disk.Holds .previous trainer.lineage) ∧
      ∀ stamp,
        (∃ next,
          ((saveCheckpoint steps trainer stamp).run disk).result =
              .ok next ∧
            (¬trainer.Skips steps stamp ->
              next.lineage = trainer.lineage ++ [stamp] ∧
                ((saveCheckpoint steps trainer stamp).run disk).final.Holds
                  .last next.lineage)) ∧
        (trainer.preservePrevious = true ->
          (∀ visited,
            (saveCheckpoint steps trainer stamp).Killed disk visited ->
              visited.Holds .previous trainer.lineage) ∧
          ((saveCheckpoint steps trainer stamp).run disk).final.Holds
            .previous trainer.lineage)) ∧
    (∃ removed,
      (reconcileCheckpointTemporaries.run disk).result = .ok removed ∧
        (∀ name, name ∈ removed ↔
          name.isTemporary = true ∧ disk.IsFile name) ∧
        (∀ name, (reconcileCheckpointTemporaries.run disk).final.entry name =
          if name.isTemporary = true then none else disk.entry name) ∧
        (∀ visited, reconcileCheckpointTemporaries.Killed disk visited ->
          visited.content = disk.content ∧
            ∀ name, name.isTemporary = false ->
              visited.entry name = disk.entry name)) := by
  have kept := history.invariant
  have standing := kept.sound.standing _ _ .now .now
  refine ⟨?_, ?_, fun _ => kept.readable, ?_, kept.reconciles⟩
  · intro inode named
    rw [named, Option.map_some] at standing
    obtain ⟨lineage, _, whole⟩ := standing.previous_whole _ rfl
    exact ⟨lineage, whole⟩
  · intro inode named
    rw [named, Option.map_some] at standing
    apply (standing.last_whole _ rfl).imp id
    rintro ⟨lineage, _, whole⟩
    exact ⟨lineage, whole⟩
  · rintro trainer rfl
    have trains := kept.trains trainer rfl
    exact ⟨trains.keeps, trains.recovered, kept.saves⟩

/-! ## Two saves of a new run -/

/-- A new run on an empty directory. -/
def newRun : Outcome (CheckpointDisk Nat) PyError (CheckpointProcess Nat) :=
  (startRun id .new).run .empty

/-- The first save of the new run. -/
def firstSave : Outcome (CheckpointDisk Nat) PyError (CheckpointProcess Nat) :=
  (saveCheckpoint id ⟨[], false, none⟩ 1).run newRun.final

/-- Its second save. -/
def secondSave :
    Outcome (CheckpointDisk Nat) PyError (CheckpointProcess Nat) :=
  (saveCheckpoint id ⟨[1], false, some (.last, 1)⟩ 2).run firstSave.final

theorem firstSave_history :
    CheckpointHistory id firstSave.final
      (some ⟨[1], false, some (.last, 1)⟩) (some [1]) :=
  .saved (.started .empty rfl) rfl

/-- After a first save that has returned, damage of `last` leaves nothing to
read: there is no `previous` yet. -/
theorem first_generation_lost :
    ∃ disk : CheckpointDisk Nat,
      CheckpointHistory id disk none (some [1]) ∧
        ¬∃ name lineage,
          (name = .last ∨ name = .previous) ∧ disk.Holds name lineage := by
  refine ⟨firstSave.final.corruptLast,
    .damaged (.ended firstSave_history (.inl rfl)), ?_⟩
  rintro ⟨name, lineage, rfl | rfl, inode, named, whole⟩
  · have number : inode = 1 := Option.some.inj (named.symm.trans rfl)
    subst number
    cases whole
  · cases named

/-- Two saves, and damage of `last` after them. -/
theorem checkpoint_generations_kept_twice :
    ∃ earlier, ([1, 2] <+: earlier ∨ earlier = [1]) ∧
      secondSave.final.corruptLast.Holds .previous earlier := by
  have history : CheckpointHistory id secondSave.final
      (some ⟨[1, 2], false, some (.last, 2)⟩) (some [1, 2]) :=
    .saved firstSave_history rfl
  obtain ⟨earlier, near, _, survives⟩ :=
    ((checkpoint_generations_kept history).2.2.1 [1, 2] rfl).2 (by decide)
  exact ⟨earlier, near, survives⟩

end CodingLlm
