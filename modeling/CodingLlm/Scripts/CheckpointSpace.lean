import CodingLlm.Pretrain.CheckpointSaves
import CodingLlm.Scripts.CheckpointAdmission
import Mathlib.Algebra.Order.BigOperators.Group.Finset

/-!
# The space that a run of saves needs

Which files the directory of a checkpoint path holds while a trainer saves and
rotates, and how many bytes that can become after an admission.
-/

namespace CodingLlm

open CrashLogic CheckpointProgram

variable {Stamp : Type}

namespace CheckpointDisk

/-! ## Files that take up space -/

/-- Both generations, and what a save has not yet renamed. -/
def heldNames (disk : CheckpointDisk Stamp) : List CheckpointName :=
  .last :: .previous ::
    (List.range disk.nextInode).flatMap fun id => [.part id, .link id]

/-- The files of these names; names of one file count once. -/
def heldInodes (disk : CheckpointDisk Stamp) : Finset Nat :=
  (disk.heldNames.filterMap disk.entry).toFinset

/-- The bytes that these files take up. -/
def heldBytes (disk : CheckpointDisk Stamp) (size : Nat -> Nat) : Nat :=
  ∑ inode ∈ disk.heldInodes, size inode

variable {disk : CheckpointDisk Stamp}

theorem ne_lock_of_mem_heldNames
    {name : CheckpointName}
    (held : name ∈ disk.heldNames) : name ≠ .lock := by
  rintro rfl
  simp [heldNames] at held

theorem mem_heldInodes
    {name : CheckpointName} {inode : Nat}
    (held : name ∈ disk.heldNames)
    (named : disk.entry name = some inode) : inode ∈ disk.heldInodes :=
  List.mem_toFinset.mpr (List.mem_filterMap.mpr ⟨name, held, named⟩)

theorem exists_heldName
    {inode : Nat}
    (held : inode ∈ disk.heldInodes) :
    ∃ name, name ≠ .lock ∧ disk.entry name = some inode := by
  obtain ⟨name, isHeld, named⟩ :=
    List.mem_filterMap.mp (List.mem_toFinset.mp held)
  exact ⟨name, ne_lock_of_mem_heldNames isHeld, named⟩

/-! ## One save -/

/-- Between two saves only the generations have names. -/
structure Settled (disk : CheckpointDisk Stamp) : Prop where
  named : ∀ name inode, disk.entry name = some inode -> inode < disk.nextInode
  noTemporary : ∀ name, name.isTemporary = true -> disk.entry name = none

/-- While a save runs, a file is its temporary file, the old `last` or the old
`previous`. -/
def SavesOver (before visited : CheckpointDisk Stamp) : Prop :=
  ∀ name inode, name ≠ .lock -> visited.entry name = some inode ->
    inode = before.nextInode ∨ before.entry .last = some inode ∨
      before.entry .previous = some inode

/-- What a save that has returned did to the names. -/
structure Rotated
    (before : CheckpointDisk Stamp)
    (preservePrevious : Bool)
    (after : CheckpointDisk Stamp) : Prop where
  settled : after.Settled
  nextInode : after.nextInode = before.nextInode + 1
  last : after.entry .last = some before.nextInode
  previous : after.entry .previous =
    if preservePrevious = true ∨ before.entry .last = none then
      before.entry .previous
    else before.entry .last

variable {before visited : CheckpointDisk Stamp}

theorem Settled.savesOver (settled : disk.Settled) : disk.SavesOver disk := by
  intro name inode notLock named
  cases name with
  | last => exact .inr (.inl named)
  | previous => exact .inr (.inr named)
  | lock => exact absurd rfl notLock
  | part id => simp [settled.noTemporary (.part id) rfl] at named
  | link id => simp [settled.noTemporary (.link id) rfl] at named

theorem SavesOver.setEntry
    (saves : before.SavesOver visited)
    (name : CheckpointName)
    (slot : Option Nat)
    (known : ∀ inode, slot = some inode ->
      inode = before.nextInode ∨ before.entry .last = some inode ∨
        before.entry .previous = some inode) :
    before.SavesOver (visited.setEntry name slot) := by
  intro other inode notLock named
  by_cases same : other = name
  · rw [same, setEntry_self] at named
    exact known inode named
  · rw [setEntry_of_ne _ _ _ same] at named
    exact saves other inode notLock named

theorem SavesOver.unlink
    (saves : before.SavesOver visited)
    (name : CheckpointName) :
    before.SavesOver (visited.setEntry name none) :=
  saves.setEntry name none (by simp)

theorem afterMkstemp_savesOver (settled : disk.Settled) :
    disk.SavesOver (afterMkstemp disk) := by
  intro name inode notLock named
  by_cases fresh : name = .part disk.nextInode
  · rw [fresh] at named
    left
    simpa [afterMkstemp] using named.symm
  · rw [afterMkstemp_entry fresh] at named
    exact settled.savesOver name inode notLock named

theorem Rotated.of_entry
    {after : CheckpointDisk Stamp} {preservePrevious : Bool}
    (settled : disk.Settled)
    (nextInode : after.nextInode = disk.nextInode + 1)
    (last : after.entry .last = some disk.nextInode)
    (previous : after.entry .previous =
      if preservePrevious = true ∨ disk.entry .last = none then
        disk.entry .previous
      else disk.entry .last)
    (lock : after.entry .lock = disk.entry .lock)
    (noTemporary : ∀ name, name.isTemporary = true ->
      after.entry name = none) :
    disk.Rotated preservePrevious after := by
  refine ⟨⟨?_, noTemporary⟩, nextInode, last, previous⟩
  have older (name : CheckpointName) (inode : Nat)
      (named : disk.entry name = some inode) : inode < after.nextInode := by
    have bound := settled.named name inode named
    omega
  intro name inode named
  cases name with
  | last =>
      rw [last] at named
      injection named with same
      omega
  | previous =>
      rw [previous] at named
      split at named
      · exact older _ _ named
      · exact older _ _ named
  | lock => exact older .lock _ (lock ▸ named)
  | part id => simp [noTemporary (.part id) rfl] at named
  | link id => simp [noTemporary (.link id) rfl] at named

end CheckpointDisk

open CheckpointDisk

section Save

variable {disk : CheckpointDisk Stamp} {preservePrevious : Bool}

/-- The rest of a save that does not rotate `previous`. -/
theorem wp_publish_keeps
    {visited : CheckpointDisk Stamp}
    (settled : disk.Settled)
    (saves : disk.SavesOver visited)
    (entry : visited.entry = (afterMkstemp disk).entry)
    (nextInode : visited.nextInode = disk.nextInode + 1)
    (keeps : preservePrevious = true ∨ disk.entry .last = none) :
    (do
      replace (.part disk.nextInode) .last
      fsyncDirectory
      fsyncDirectory : CheckpointProgram Stamp Unit).wp
      (fun _ final => disk.Rotated preservePrevious final)
      (fun _ _ => False) disk.SavesOver visited := by
  have named : visited.entry (.part disk.nextInode) =
      some disk.nextInode := by
    rw [entry]
    exact Function.update_self _ _ _
  have older (name : CheckpointName) (other : name ≠ .part disk.nextInode) :
      visited.entry name = disk.entry name := by
    rw [entry, afterMkstemp_entry other]
  have replaced : disk.SavesOver (visited.publish disk.nextInode) :=
    (saves.setEntry _ _ (by simp)).unlink _
  have others (name : CheckpointName) (notLast : name ≠ .last)
      (notPart : name ≠ .part disk.nextInode) :
      (visited.publish disk.nextInode).entry name = disk.entry name := by
    rw [publish_other visited notLast notPart, older name notPart]
  rw [Program.wp_bind, wp_replace named]
  refine ⟨replaced, ?_⟩
  rw [Program.wp_bind, wp_fsyncDirectory]
  refine ⟨replaced, ?_⟩
  rw [wp_fsyncDirectory]
  refine ⟨replaced, Rotated.of_entry settled nextInode ?_ ?_ ?_ ?_⟩
  · exact publish_last visited _
  · rw [if_pos keeps]
    exact others .previous (by simp) (by simp)
  · exact others .lock (by simp) (by simp)
  · intro name hidden
    change (visited.publish disk.nextInode).entry name = none
    by_cases fresh : name = .part disk.nextInode
    · rw [fresh]
      exact setEntry_self _ _ _
    · have notLast : name ≠ .last := by
        rintro rfl
        simp [CheckpointName.isTemporary] at hidden
      rw [others name notLast fresh, settled.noTemporary name hidden]

/-- The rest of a save that rotates `previous`. -/
theorem wp_publish_rotates
    {visited : CheckpointDisk Stamp} {old : Nat}
    (settled : disk.Settled)
    (saves : disk.SavesOver visited)
    (entry : visited.entry = (afterMkstemp disk).entry)
    (nextInode : visited.nextInode = disk.nextInode + 1)
    (rotates : preservePrevious = false)
    (last : disk.entry .last = some old) :
    (do
      link .last (.link disk.nextInode)
      replace (.part disk.nextInode) .last
      fsyncDirectory
      replace (.link disk.nextInode) .previous
      fsyncDirectory : CheckpointProgram Stamp Unit).wp
      (fun _ final => disk.Rotated preservePrevious final)
      (fun _ _ => False) disk.SavesOver visited := by
  have older (name : CheckpointName) (other : name ≠ .part disk.nextInode) :
      visited.entry name = disk.entry name := by
    rw [entry, afterMkstemp_entry other]
  let linked := visited.setEntry (.link disk.nextInode) (some old)
  let published := linked.publish disk.nextInode
  let ended := (published.setEntry .previous (some old)).setEntry
    (.link disk.nextInode) none
  have isOld (inode : Nat) (same : some old = some inode) :
      inode = disk.nextInode ∨ disk.entry .last = some inode ∨
        disk.entry .previous = some inode := by
    rw [last]
    exact .inr (.inl same)
  have savesLinked : disk.SavesOver linked := saves.setEntry _ _ isOld
  have savesPublished : disk.SavesOver published :=
    (savesLinked.setEntry _ _ (by simp)).unlink _
  have savesEnded : disk.SavesOver ended :=
    (savesPublished.setEntry _ _ isOld).unlink _
  have partLinked : linked.entry (.part disk.nextInode) =
      some disk.nextInode := by
    have named : visited.entry (.part disk.nextInode) =
        some disk.nextInode := by
      rw [entry]
      exact Function.update_self _ _ _
    exact (setEntry_of_ne _ _ _ (by simp)).trans named
  have linkPublished : published.entry (.link disk.nextInode) =
      some old :=
    (publish_other linked (by simp) (by simp)).trans (setEntry_self _ _ _)
  have lastNow : visited.entry .last = some old := by
    rw [older .last (by simp), last]
  have linkNow : visited.entry (.link disk.nextInode) = none := by
    rw [older _ (by simp), settled.noTemporary _ rfl]
  rw [Program.wp_bind, wp_link lastNow linkNow]
  refine ⟨savesLinked, ?_⟩
  rw [Program.wp_bind, wp_replace partLinked]
  refine ⟨savesPublished, ?_⟩
  rw [Program.wp_bind, wp_fsyncDirectory]
  refine ⟨savesPublished, ?_⟩
  rw [Program.wp_bind]
  have linkSynced : published.sync.entry (.link disk.nextInode) =
      some old := linkPublished
  refine (wp_replace linkSynced).mpr ⟨savesEnded, ?_⟩
  rw [wp_fsyncDirectory]
  have unlinked (name : CheckpointName)
      (notLink : name ≠ .link disk.nextInode) :
      ended.entry name =
        (published.setEntry .previous (some old)).entry name :=
    setEntry_of_ne _ _ _ notLink
  have endedOther (name : CheckpointName)
      (notLink : name ≠ .link disk.nextInode)
      (notPrevious : name ≠ .previous) (notLast : name ≠ .last)
      (notPart : name ≠ .part disk.nextInode) :
      ended.entry name = disk.entry name := by
    rw [unlinked name notLink, setEntry_of_ne published _ _ notPrevious,
      publish_other linked notLast notPart,
      setEntry_of_ne visited _ _ notLink, older name notPart]
  refine ⟨savesEnded, Rotated.of_entry settled nextInode ?_ ?_ ?_ ?_⟩
  · change ended.entry .last = some disk.nextInode
    rw [unlinked _ (by simp), setEntry_of_ne published _ _ (by simp)]
    exact publish_last linked _
  · have notKept : ¬(preservePrevious = true ∨ disk.entry .last = none) := by
      simp [rotates, last]
    change ended.entry .previous = _
    rw [if_neg notKept, last, unlinked _ (by simp)]
    exact setEntry_self published _ _
  · exact endedOther .lock (by simp) (by simp) (by simp) (by simp)
  · intro name hidden
    change ended.entry name = none
    by_cases fresh : name = .part disk.nextInode
    · rw [fresh, unlinked _ (by simp), setEntry_of_ne published _ _ (by simp)]
      exact setEntry_self _ _ _
    by_cases isLink : name = .link disk.nextInode
    · rw [isLink]
      exact setEntry_self _ _ _
    · have notGeneration (other : CheckpointName)
          (published : other.isTemporary = false) : name ≠ other := by
        rintro rfl
        simp [published] at hidden
      rw [endedOther name isLink (notGeneration _ rfl) (notGeneration _ rfl)
        fresh, settled.noTemporary name hidden]

/-- `_atomic_torch_save` between two settled directories. -/
theorem atomicTorchSave_rotates
    (settled : disk.Settled)
    (lineage : List Stamp) :
    (atomicTorchSave lineage preservePrevious).wp
      (fun _ final => disk.Rotated preservePrevious final)
      (fun _ _ => False) disk.SavesOver disk := by
  have created := afterMkstemp_savesOver settled
  apply (Program.wp_bind _ _).mpr
  refine (Program.wp_effect_ok rfl).mpr ⟨created, ?_⟩
  rw [Program.wp_tryCatch]
  apply Program.wp.mono _ (fun _ _ => id) (fun _ _ => False.elim)
    (fun _ => id)
  apply Program.wp_commit_bind (by exact created)
  apply Program.wp_commit_bind (by exact created)
  apply Program.wp_query_bind
  have lastNow : (afterMkstemp disk).entry .last = disk.entry .last :=
    afterMkstemp_entry (by simp)
  split
  · rename_i rotates
    simp only [Bool.and_eq_true, decide_eq_true_eq, Bool.not_eq_true']
      at rotates
    obtain ⟨old, named⟩ := Option.isSome_iff_exists.mp rotates.1
    exact wp_publish_rotates settled created rfl rfl rotates.2
      (lastNow.symm.trans named)
  · rename_i keeps
    refine wp_publish_keeps settled created rfl rfl ?_
    simp only [Bool.and_eq_true, decide_eq_true_eq, Bool.not_eq_true',
      not_and_or] at keeps
    rcases keeps with missing | preserves
    · right
      rw [← lastNow]
      simpa [IsFile] using missing
    · left
      simpa using preserves

end Save

end CodingLlm
