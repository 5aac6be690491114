import CodingLlm.Library.Focus
import CodingLlm.Pretrain.CheckpointDisk

/-!
# What all files of a checkpoint directory hold

A property of every generation in the lineages of all files, published or not.
Saves of states that have it, starts, kills and damages keep it, and what a
run loads has it.
-/

namespace CodingLlm

open CrashLogic CheckpointProgram

variable {Stamp : Type} {holds : Stamp -> Prop}

namespace CheckpointDisk

/-- Every generation in a lineage has a property. -/
def LineageHolds (holds : Stamp -> Prop) (lineage : List Stamp) : Prop :=
  ∀ stamp ∈ lineage, holds stamp

/-- Every generation in every file has a property. -/
def ContentsHold
    (holds : Stamp -> Prop) (disk : CheckpointDisk Stamp) : Prop :=
  ∀ inode lineage, disk.content inode = .complete lineage ->
    LineageHolds holds lineage

namespace ContentsHold

theorem empty : ContentsHold holds (.empty : CheckpointDisk Stamp) := by
  intro inode lineage whole
  cases whole

/-- A file is written. -/
theorem update
    {before after : CheckpointDisk Stamp}
    {inode : Nat} {content : CheckpointContent Stamp}
    (every : ContentsHold holds before)
    (written : after.content = Function.update before.content inode content)
    (whole : ∀ lineage, content = .complete lineage ->
      LineageHolds holds lineage) : ContentsHold holds after := by
  intro other lineage complete
  rw [written] at complete
  by_cases same : other = inode
  · subst same
    rw [Function.update_self] at complete
    exact whole lineage complete
  · rw [Function.update_of_ne same] at complete
    exact every other lineage complete

theorem lost
    {before after : CheckpointDisk Stamp}
    (every : ContentsHold holds before)
    (lost : before.Lost after) : ContentsHold holds after := by
  rcases lost with rfl | power
  · exact every
  · intro inode lineage whole
    rcases power.unflushed inode with same | torn
    · rw [same] at whole
      exact every inode lineage whole
    · rw [torn] at whole
      cases whole

theorem corruptLast
    {disk : CheckpointDisk Stamp}
    (every : ContentsHold holds disk) :
    ContentsHold holds disk.corruptLast := by
  unfold CheckpointDisk.corruptLast
  cases disk.entry .last with
  | none => exact every
  | some inode => exact every.update rfl (by simp)

end ContentsHold

end CheckpointDisk

open CheckpointDisk

/-! ## Effects -/

section Effects

open Contract Program

theorem mkstemp_contents :
    (always (ContentsHold holds)).Met (mkstemp : CheckpointProgram Stamp Nat) := by
  apply Met.effect_always
  rintro disk _ _ every ⟨⟩
  exact every.update rfl (by simp)

theorem writePayload_contents
    {inode : Nat} {lineage : List Stamp}
    (good : LineageHolds holds lineage) :
    (always (ContentsHold holds)).Met (writePayload inode lineage) := by
  apply Met.commit
  intro disk every
  apply every.update rfl
  rintro _ ⟨⟩
  exact good

theorem fsyncFile_contents (inode : Nat) :
    (always (ContentsHold holds)).Met
      (fsyncFile inode : CheckpointProgram Stamp Unit) :=
  Met.commit fun _ every => every

theorem fsyncDirectory_contents :
    (always (ContentsHold holds)).Met
      (fsyncDirectory : CheckpointProgram Stamp Unit) :=
  Met.commit fun _ every => every

theorem link_contents (source target : CheckpointName) :
    (always (ContentsHold holds)).Met
      (link source target : CheckpointProgram Stamp Unit) := by
  apply Met.effect_always
  intro disk next _ every linked
  split at linked
  · cases linked
  · split at linked
    · cases linked
    · cases linked
      exact every

theorem replace_contents (source target : CheckpointName) :
    (always (ContentsHold holds)).Met
      (replace source target : CheckpointProgram Stamp Unit) := by
  apply Met.effect_always
  intro disk next _ every replaced
  split at replaced
  · cases replaced
  · cases replaced
    exact every

theorem unlink_contents (name : CheckpointName) :
    (always (ContentsHold holds)).Met
      (unlink name : CheckpointProgram Stamp Unit) := by
  apply Met.effect_always
  intro disk next _ every unlinked
  split at unlinked
  · cases unlinked
    exact every
  · cases unlinked

theorem discard_contents (name : CheckpointName) :
    (always (ContentsHold holds)).Met
      (CheckpointProgram.discard name : CheckpointProgram Stamp Unit) := by
  apply Met.bind (Met.query _)
  intro isFile
  exact Met.ite (fun _ => unlink_contents name) fun _ => Met.pure ()

end Effects

/-! ## Saves and starts -/

section Programs

open Contract Program

variable (steps : Stamp -> Nat)

theorem publishCheckpoint_contents
    {temporary : Nat} {lineage : List Stamp} {preservePrevious : Bool}
    (good : LineageHolds holds lineage) :
    (always (ContentsHold holds)).Met
      (publishCheckpoint temporary lineage preservePrevious) := by
  apply Met.bind (writePayload_contents good)
  intro _
  apply Met.bind (fsyncFile_contents _)
  intro _
  apply Met.bind (Met.query _)
  intro rotates
  apply Met.optional fun _ => link_contents _ _
  apply Met.bind (replace_contents _ _)
  intro _
  apply Met.bind fsyncDirectory_contents
  intro _
  apply Met.optional fun _ => replace_contents _ _
  exact fsyncDirectory_contents

theorem atomicTorchSave_contents
    {lineage : List Stamp} {preservePrevious : Bool}
    (good : LineageHolds holds lineage) :
    (always (ContentsHold holds)).Met
      (atomicTorchSave lineage preservePrevious) := by
  apply Met.bind mkstemp_contents
  intro temporary
  apply Met.tryCatch_always (publishCheckpoint_contents good)
  intro error
  apply Met.bind (discard_contents _)
  intro _
  apply Met.bind (discard_contents _)
  intro _
  exact Met.throw trivial

/-- A save of a state with the property, by a trainer whose lineage has it. -/
theorem saveCheckpoint_contents
    {process : CheckpointProcess Stamp} {stamp : Stamp}
    {disk : CheckpointDisk Stamp}
    (every : ContentsHold holds disk)
    (lineage : LineageHolds holds process.lineage)
    (good : holds stamp) :
    (saveCheckpoint steps process stamp).wp
      (fun next final => ContentsHold holds final ∧
        LineageHolds holds next.lineage)
      (fun _ => ContentsHold holds) (ContentsHold holds) disk := by
  have grown : LineageHolds holds (process.lineage ++ [stamp]) := by
    intro other member
    rcases List.mem_append.mp member with earlier | last
    · exact lineage other earlier
    · rw [List.mem_singleton.mp last]
      exact good
  unfold saveCheckpoint
  split
  · rw [wp_pure]
    exact ⟨every, lineage⟩
  · rw [wp_bind]
    apply (atomicTorchSave_contents grown).always_wp every
    intro _ final kept
    rw [wp_pure]
    exact ⟨kept, grown⟩

theorem removeMatches_contents (name : Nat -> CheckpointName) :
    (always (ContentsHold holds)).Met
      (removeMatches name : CheckpointProgram Stamp _) := by
  apply Met.bind (Met.query _)
  intro candidates
  apply Met.bind (Met.forEach fun _ _ => unlink_contents _)
  intro _
  exact Met.pure _

theorem reconcileCheckpointTemporaries_contents :
    (always (ContentsHold holds)).Met
      (reconcileCheckpointTemporaries : CheckpointProgram Stamp _) := by
  apply Met.bind (removeMatches_contents _)
  intro parts
  apply Met.bind (removeMatches_contents _)
  intro links
  apply Met.optional fun _ => fsyncDirectory_contents
  exact Met.pure _

theorem acquireCheckpointLease_contents :
    (always (ContentsHold holds)).Met
      (acquireCheckpointLease : CheckpointProgram Stamp Unit) := by
  apply Met.commit
  intro disk every
  split
  · exact every
  · exact every

/-- A generation that is loaded has the property. -/
theorem loadCheckpoint_contents
    {disk : CheckpointDisk Stamp} {name : CheckpointName}
    (every : ContentsHold holds disk) :
    (loadCheckpoint steps name).wp
      (fun process final => ContentsHold holds final ∧
        LineageHolds holds process.lineage)
      (fun _ => ContentsHold holds) (ContentsHold holds) disk := by
  unfold loadCheckpoint
  rw [wp_bind, wp_inspect]
  cases loaded : readCheckpoint name disk with
  | error _ => exact every
  | ok lineage =>
      apply (wp_pure _).mpr
      refine ⟨every, ?_⟩
      unfold readCheckpoint at loaded
      split at loaded
      · cases loaded
      · split at loaded
        · rename_i whole
          cases loaded
          exact every _ _ whole
        · cases loaded

/-- The start of a run. -/
theorem startRun_contents
    {disk : CheckpointDisk Stamp} (start : CheckpointStart)
    (every : ContentsHold holds disk) :
    (startRun steps start).wp
      (fun process final => ContentsHold holds final ∧
        LineageHolds holds process.lineage)
      (fun _ => ContentsHold holds) (ContentsHold holds) disk := by
  unfold startRun
  rw [wp_bind]
  apply (Met.inspect fun _ _ _ _ => trivial).always_wp every
  intro _ checked every
  rw [wp_bind]
  apply acquireCheckpointLease_contents.always_wp every
  intro _ leased every
  rw [wp_bind]
  apply reconcileCheckpointTemporaries_contents.always_wp every
  intro _ reconciled every
  cases start with
  | new =>
      apply (wp_pure _).mpr
      exact ⟨every, fun _ member => absurd member (by simp)⟩
  | resumeLast => exact loadCheckpoint_contents steps every
  | recoverPrevious => exact loadCheckpoint_contents steps every

end Programs

end CodingLlm
