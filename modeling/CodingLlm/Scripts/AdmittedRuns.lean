import CodingLlm.Scripts.CheckpointSpace

/-!
# The space of admitted runs

The saves of a run that the launcher admitted, and the exact condition under
which they fit in the space that was free or held by the lineage.
-/

namespace CodingLlm

open CrashLogic CheckpointProgram CheckpointDisk

variable {Stamp : Type}

/-! ## Runs -/

/-- What happens to the checkpoints of a trainer. -/
inductive CheckpointEvent (Stamp : Type)
  | changed
  | save (stamp : Stamp)
  deriving DecidableEq, Repr

/-- The events of a run, from a trainer that has started. -/
def trainerEvents (steps : Stamp -> Nat) :
    List (CheckpointEvent Stamp) -> CheckpointProcess Stamp ->
      CheckpointProgram Stamp (CheckpointProcess Stamp)
  | [], process => return process
  | .changed :: rest, process =>
      trainerEvents steps rest { process with lastCheckpoint := none }
  | .save stamp :: rest, process =>
      saveCheckpoint steps process stamp >>= trainerEvents steps rest

section Bounds

variable {disk : CheckpointDisk Stamp} {steps : Stamp -> Nat}
variable {process : CheckpointProcess Stamp} {size : Nat -> Nat}
variable {generationBytes firstInode : Nat}

theorem mem_lineageInodes
    {inode : Nat} :
    inode ∈ disk.lineageInodes ↔
      disk.entry .last = some inode ∨ disk.entry .previous = some inode := by
  simp [CheckpointDisk.lineageInodes]

/-- A directory between two saves of a run whose files are not too large. -/
structure Bounded
    (disk : CheckpointDisk Stamp)
    (size : Nat -> Nat)
    (generationBytes firstInode : Nat) : Prop where
  settled : disk.Settled
  sizes : ∀ inode ∈ disk.lineageInodes, size inode ≤ generationBytes
  later : firstInode ≤ disk.nextInode

/-- Three files are the most that a save holds. -/
theorem Bounded.heldBytes_le
    {visited : CheckpointDisk Stamp}
    (bounded : Bounded disk size generationBytes firstInode)
    (future : ∀ inode, firstInode ≤ inode -> size inode ≤ generationBytes)
    (saves : disk.SavesOver visited) :
    visited.heldBytes size ≤ 3 * generationBytes := by
  have among : visited.heldInodes ⊆
      insert disk.nextInode disk.lineageInodes := by
    intro inode held
    obtain ⟨name, notLock, named⟩ := exists_heldName held
    rw [Finset.mem_insert, mem_lineageInodes]
    exact saves name inode notLock named
  have two : disk.lineageInodes.card ≤ 2 := by
    calc disk.lineageInodes.card
        ≤ ([CheckpointName.last, .previous].filterMap disk.entry).length :=
          List.toFinset_card_le _
      _ ≤ 2 := List.length_filterMap_le _ _
  have three : visited.heldInodes.card ≤ 3 :=
    calc visited.heldInodes.card
        ≤ (insert disk.nextInode disk.lineageInodes).card :=
          Finset.card_le_card among
      _ ≤ disk.lineageInodes.card + 1 := Finset.card_insert_le _ _
      _ ≤ 3 := by omega
  have each (inode : Nat) (held : inode ∈ visited.heldInodes) :
      size inode ≤ generationBytes := by
    rcases Finset.mem_insert.mp (among held) with rfl | older
    · exact future _ bounded.later
    · exact bounded.sizes inode older
  calc visited.heldBytes size
      ≤ visited.heldInodes.card * generationBytes :=
        Finset.sum_le_card_nsmul _ _ _ each
    _ ≤ 3 * generationBytes := Nat.mul_le_mul_right _ three

theorem Bounded.rotated
    {after : CheckpointDisk Stamp} {preservePrevious : Bool}
    (bounded : Bounded disk size generationBytes firstInode)
    (future : ∀ inode, firstInode ≤ inode -> size inode ≤ generationBytes)
    (rotated : disk.Rotated preservePrevious after) :
    Bounded after size generationBytes firstInode where
  settled := rotated.settled
  sizes := by
    intro inode held
    rw [mem_lineageInodes, rotated.last, rotated.previous] at held
    rcases held with same | older
    · injection same with same
      exact future inode (same ▸ bounded.later)
    · apply bounded.sizes
      rw [mem_lineageInodes]
      split at older
      · exact .inr older
      · exact .inl older
  later := by
    rw [rotated.nextInode]
    exact Nat.le_succ_of_le bounded.later

/-- One save, or a save that is skipped. -/
theorem saveCheckpoint_bounded
    (bounded : Bounded disk size generationBytes firstInode)
    (future : ∀ inode, firstInode ≤ inode -> size inode ≤ generationBytes)
    (stamp : Stamp) :
    (saveCheckpoint steps process stamp).wp
      (fun _ final => Bounded final size generationBytes firstInode)
      (fun _ _ => False)
      (fun visited => visited.heldBytes size ≤ 3 * generationBytes) disk := by
  unfold saveCheckpoint
  split
  · rw [Program.wp_pure]
    exact bounded
  · rw [Program.wp_bind]
    apply (atomicTorchSave_rotates bounded.settled _).mono
    · intro _ final rotated
      rw [Program.wp_pure]
      exact bounded.rotated future rotated
    · exact fun _ _ => id
    · exact fun _ => bounded.heldBytes_le future

/-- A run never holds more than three generations. -/
theorem trainerEvents_bounded
    (bounded : Bounded disk size generationBytes firstInode)
    (future : ∀ inode, firstInode ≤ inode -> size inode ≤ generationBytes)
    (events : List (CheckpointEvent Stamp)) :
    (trainerEvents steps events process).wp
      (fun _ final => Bounded final size generationBytes firstInode)
      (fun _ _ => False)
      (fun visited => visited.heldBytes size ≤ 3 * generationBytes) disk := by
  induction events generalizing disk process with
  | nil => exact (Program.wp_pure _).mpr bounded
  | cons event rest inductionHypothesis =>
      cases event with
      | changed => exact inductionHypothesis bounded
      | save stamp =>
          apply (Program.wp_bind _ _).mpr
          apply (saveCheckpoint_bounded bounded future stamp).weaken
          intro _ _ kept
          exact inductionHypothesis kept

end Bounds

/-! ## The third save -/

section Peak

variable {disk : CheckpointDisk Stamp} {steps : Stamp -> Nat}
variable {process : CheckpointProcess Stamp}
variable {crash : CheckpointDisk Stamp -> Prop}

/-- A save that is not skipped passes through the directory after `mkstemp`,
and the rest of the run starts from a rotated directory. -/
theorem exists_rotated
    {post : CheckpointProcess Stamp -> CheckpointDisk Stamp -> Prop}
    {fail : PyError -> CheckpointDisk Stamp -> Prop}
    (settled : disk.Settled)
    (stamp : Stamp)
    (rest : List (CheckpointEvent Stamp))
    (verified : (trainerEvents steps (.changed :: .save stamp :: rest)
      process).wp post fail crash disk) :
    crash (afterMkstemp disk) ∧
      ∃ next final, disk.Rotated process.preservePrevious final ∧
        next.preservePrevious = false ∧
          (trainerEvents steps rest next).wp post fail crash final := by
  have runs : (saveCheckpoint steps { process with lastCheckpoint := none }
      stamp >>= trainerEvents steps rest).wp post fail crash disk := verified
  have notSkipped : ¬CheckpointProcess.Skips steps
      { process with lastCheckpoint := none } stamp := by
    simp [CheckpointProcess.Skips]
  rw [saveCheckpoint, if_neg notSkipped, Program.wp_bind, Program.wp_bind]
    at runs
  constructor
  · have unfolded := (Program.wp_bind _ _).mp runs
    exact ((Program.wp_effect_ok rfl).mp unfolded).1
  · obtain ⟨_, ended, rotated⟩ :=
      (atomicTorchSave_rotates settled
        (process.lineage ++ [stamp])).terminates
    have later := runs.ok ended
    rw [Program.wp_pure] at later
    exact ⟨_, _, rotated, rfl, later⟩

/-- The third save of a run holds the files of the last three saves. -/
theorem exists_three
    (settled : disk.Settled)
    (stamp : Stamp)
    (verified : (trainerEvents steps [.changed, .save stamp, .changed,
      .save stamp, .changed, .save stamp] process).wp
        (fun _ _ => True) (fun _ _ => True) crash disk) :
    ∃ visited, crash visited ∧ ({disk.nextInode, disk.nextInode + 1,
      disk.nextInode + 2} : Finset Nat) ⊆ visited.heldInodes := by
  obtain ⟨-, second, afterFirst, first, rotates, verified⟩ :=
    exists_rotated settled stamp _ verified
  obtain ⟨-, third, afterSecond, rotated, -, verified⟩ :=
    exists_rotated first.settled stamp _ verified
  obtain ⟨crashes, -⟩ := exists_rotated rotated.settled stamp _ verified
  have previous : afterSecond.entry .previous = some disk.nextInode := by
    rw [rotated.previous, first.last, rotates]
    rfl
  have last : afterSecond.entry .last = some (disk.nextInode + 1) := by
    rw [rotated.last, first.nextInode]
  have nextInode : afterSecond.nextInode = disk.nextInode + 2 := by
    rw [rotated.nextInode, first.nextInode]
  have generation (name : CheckpointName) (inode : Nat)
      (isHeld : name = .last ∨ name = .previous)
      (entry : afterSecond.entry name = some inode) :
      inode ∈ (afterMkstemp afterSecond).heldInodes := by
    have there : name ∈ (afterMkstemp afterSecond).heldNames := by
      rcases isHeld with rfl | rfl <;> simp [heldNames]
    apply mem_heldInodes there
    rw [afterMkstemp_entry, entry]
    rcases isHeld with rfl | rfl <;> simp
  refine ⟨_, crashes, ?_⟩
  intro inode isNew
  simp only [Finset.mem_insert, Finset.mem_singleton] at isNew
  rcases isNew with rfl | rfl | rfl
  · exact generation .previous _ (.inr rfl) previous
  · exact generation .last _ (.inl rfl) last
  · rw [← nextInode]
    have there : .part afterSecond.nextInode ∈
        (afterMkstemp afterSecond).heldNames := by
      simp [heldNames, afterMkstemp]
    exact mem_heldInodes there (Function.update_self _ _ _)

end Peak

/-! ## Starting -/

section Start

variable {disk : CheckpointDisk Stamp} {steps : Stamp -> Nat}
variable {start : CheckpointStart}

/-- The lock file leaves the lineage as it is. -/
theorem acquireCheckpointLease_numbered
    (known : disk.Numbered) :
    (acquireCheckpointLease : CheckpointProgram Stamp Unit).wp
      (fun _ final => final.Numbered ∧
        final.lineageInodes = disk.lineageInodes ∧
          disk.nextInode ≤ final.nextInode)
      (fun _ _ => False) (fun _ => True) disk := by
  unfold acquireCheckpointLease
  rw [Program.wp_commit]
  refine ⟨trivial, ?_⟩
  cases locked : disk.entry .lock with
  | some inode => exact ⟨known, rfl, Nat.le_refl _⟩
  | none =>
      have other (name : CheckpointName) (differ : name ≠ .lock) :
          Function.update disk.entry .lock (some disk.nextInode) name =
            disk.entry name :=
        Function.update_of_ne differ _ _
      refine ⟨⟨?_, ?_⟩, ?_, Nat.le_succ _⟩
      · intro name inode there
        change inode < disk.nextInode + 1
        by_cases isLock : name = .lock
        · subst isLock
          simp only [Function.update_self, Option.some.injEq] at there
          omega
        · have older := known.named name inode ((other name isLock) ▸ there)
          omega
      · intro id inode there
        apply Nat.lt_succ_of_lt
        apply known.numbered id inode
        simpa [other] using there
      · ext inode
        simp only [mem_lineageInodes]
        rw [other .last (by simp), other .previous (by simp)]

/-- The start of a run leaves a settled directory with the same lineage. -/
theorem startRun_settles (known : disk.Numbered) :
    (startRun steps start).wp
      (fun _ final => final.Settled ∧
        final.lineageInodes = disk.lineageInodes ∧
          disk.nextInode ≤ final.nextInode)
      (fun _ _ => True) (fun _ => True) disk := by
  unfold startRun
  rw [Program.wp_bind, Program.wp_inspect]
  split
  · rw [Program.wp_bind]
    apply (acquireCheckpointLease_numbered known).mono _
      (fun _ _ => False.elim) (fun _ => id)
    rintro _ leased ⟨leasedKnown, leasedLineage, leasedLater⟩
    rw [Program.wp_bind]
    apply (reconcileCheckpointTemporaries_wp leasedKnown.numbered).mono _
      (fun _ _ => False.elim) (fun _ _ => trivial)
    intro removed final reconciled
    have nextInode : final.nextInode = leased.nextInode := by
      rcases reconciled.after_eq with rfl | rfl <;> rfl
    have settled : final.Settled := by
      constructor
      · intro name inode there
        rw [reconciled.entry] at there
        rw [nextInode]
        split at there
        · exact absurd there (by simp)
        · exact leasedKnown.named name inode there
      · intro name hidden
        rw [reconciled.entry, if_pos hidden]
    have lineage : final.lineageInodes = disk.lineageInodes := by
      rw [← leasedLineage]
      ext inode
      rw [mem_lineageInodes, mem_lineageInodes, reconciled.entry,
        reconciled.entry]
      rfl
    have ended : final.Settled ∧ final.lineageInodes = disk.lineageInodes ∧
        disk.nextInode ≤ final.nextInode :=
      ⟨settled, lineage, by omega⟩
    cases start with
    | new => exact (Program.wp_pure _).mpr ended
    | resumeLast =>
        apply (loadCheckpoint_wp steps .last _).mono _
          (fun _ _ _ => trivial) (fun _ => id)
        rintro _ _ ⟨rfl, -⟩
        exact ended
    | recoverPrevious =>
        apply (loadCheckpoint_wp steps .previous _).mono _
          (fun _ _ _ => trivial) (fun _ => id)
        rintro _ _ ⟨rfl, -⟩
        exact ended
  · trivial

end Start

/-! ## Admission -/

namespace CheckpointAdmission

variable {site : StorageSite Stamp}

/-- The bytes that the lineage holds at the admission. -/
def StorageSite.lineageBytes (site : StorageSite Stamp) : Nat :=
  ∑ inode ∈ site.disk.lineageInodes, (site.stat inode).size

/-- The sizes of files that exist, and of files to come. -/
structure StorageSite.RunSizes
    (site : StorageSite Stamp)
    (generationBytes : Nat)
    (size : Nat -> Nat) : Prop where
  existing : ∀ inode, inode < site.disk.nextInode ->
    size inode = (site.stat inode).size
  future : ∀ inode, site.disk.nextInode ≤ inode -> size inode ≤ generationBytes

/-- At every moment of every sequence of saves the files fit. -/
def StorageSite.SavesFit
    (site : StorageSite Stamp)
    (steps : Stamp -> Nat)
    (process : CheckpointProcess Stamp)
    (started : CheckpointDisk Stamp)
    (generationBytes available : Nat) : Prop :=
  ∀ size, site.RunSizes generationBytes size ->
    ∀ events visited,
      (trainerEvents steps events process).Killed started visited ->
        visited.heldBytes size ≤ available

theorem existingCheckpointSize_ok
    {name : CheckpointName} {path : PathParts} {label : String}
    {device : Nat} {bytes : Option Nat}
    (accepts : site.existingCheckpointSize name path label device =
      .ok bytes) :
    bytes = (site.disk.entry name).map fun inode => (site.stat inode).size := by
  unfold StorageSite.existingCheckpointSize at accepts
  split at accepts
  · rename_i missing
    rw [missing]
    exact (Except.ok.inj accepts).symm
  · rename_i inode found
    obtain ⟨_, accepts⟩ := require_then_eq_ok.mp accepts
    obtain ⟨_, accepts⟩ := require_then_eq_ok.mp accepts
    obtain ⟨_, accepts⟩ := require_then_eq_ok.mp accepts
    obtain ⟨_, accepts⟩ := require_then_eq_ok.mp accepts
    rw [found]
    exact (checked_pure_eq_ok.mp accepts).symm

section Admitted

variable {localDataRoot durableCheckpointRoot checkpointDirectory : PathParts}
variable {checkpointName : String} {resumeGeneration : ResumeGeneration}
variable {checkpointGenerationBytes : Nat}
variable {localMount durableMount : MountEvidence}
variable {inspection : CheckpointInspection}

/-- No generation of an admitted lineage is larger than declared. -/
theorem lineage_le_of_admitted
    (admits : inspectStorageAndCheckpoint site localDataRoot
      durableCheckpointRoot checkpointDirectory checkpointName
      resumeGeneration checkpointGenerationBytes =
        .ok (localMount, durableMount, inspection))
    (inode : Nat)
    (held : inode ∈ site.disk.lineageInodes) :
    (site.stat inode).size ≤ checkpointGenerationBytes := by
  obtain ⟨localRoot, -, admits⟩ := checked_bind_eq_ok.mp admits
  obtain ⟨durableRoot, -, admits⟩ := checked_bind_eq_ok.mp admits
  obtain ⟨_, -, admits⟩ := checked_bind_eq_ok.mp admits
  obtain ⟨_, admits⟩ := require_then_eq_ok.mp admits
  obtain ⟨_, admits⟩ := require_then_eq_ok.mp admits
  obtain ⟨parent, -, admits⟩ := checked_bind_eq_ok.mp admits
  obtain ⟨_, admits⟩ := require_then_eq_ok.mp admits
  obtain ⟨_, admits⟩ := require_then_eq_ok.mp admits
  obtain ⟨capabilities, -, admits⟩ := checked_bind_eq_ok.mp admits
  obtain ⟨_, -, admits⟩ := checked_bind_eq_ok.mp admits
  obtain ⟨latestBytes, latest, admits⟩ := checked_bind_eq_ok.mp admits
  obtain ⟨previousBytes, previous, admits⟩ := checked_bind_eq_ok.mp admits
  obtain ⟨choice, -, admits⟩ := checked_bind_eq_ok.mp admits
  obtain ⟨largest, admits⟩ := require_then_eq_ok.mp admits
  rw [existingCheckpointSize_ok latest, existingCheckpointSize_ok previous]
    at largest
  have isEntry := mem_lineageInodes.mp held
  generalize site.disk.entry .last = last at isEntry largest
  generalize site.disk.entry .previous = previous at isEntry largest
  rcases isEntry with rfl | rfl
  · refine le_trans ?_ largest
    cases previous <;> simp
  · refine le_trans ?_ largest
    cases last <;> simp

variable {steps : Stamp -> Nat} {process : CheckpointProcess Stamp}
variable {available : Nat}

/-- The directory in which an admitted trainer starts to save. -/
theorem bounded_of_admitted
    {size : Nat -> Nat}
    (admits : inspectStorageAndCheckpoint site localDataRoot
      durableCheckpointRoot checkpointDirectory checkpointName
      resumeGeneration checkpointGenerationBytes =
        .ok (localMount, durableMount, inspection))
    (starts : ((startRun steps resumeGeneration.start).run
      site.disk).result = .ok process)
    (sizes : site.RunSizes checkpointGenerationBytes size) :
    Bounded ((startRun steps resumeGeneration.start).run site.disk).final
      size checkpointGenerationBytes site.disk.nextInode := by
  obtain ⟨settled, lineage, later⟩ :=
    (startRun_settles site.numbered).ok starts
  refine ⟨settled, ?_, later⟩
  intro inode held
  rw [lineage] at held
  have exists_ : inode < site.disk.nextInode := by
    rcases mem_lineageInodes.mp held with named | named
    · exact site.numbered.named _ _ named
    · exact site.numbered.named _ _ named
  rw [sizes.existing inode exists_]
  exact lineage_le_of_admitted admits inode held

/-- Room for three generations is enough. -/
theorem savesFit_of_le
    (admits : inspectStorageAndCheckpoint site localDataRoot
      durableCheckpointRoot checkpointDirectory checkpointName
      resumeGeneration checkpointGenerationBytes =
        .ok (localMount, durableMount, inspection))
    (starts : ((startRun steps resumeGeneration.start).run
      site.disk).result = .ok process)
    (room : 3 * checkpointGenerationBytes ≤ available) :
    site.SavesFit steps process
      ((startRun steps resumeGeneration.start).run site.disk).final
      checkpointGenerationBytes available := by
  intro size sizes events visited killed
  have bounded := bounded_of_admitted admits starts sizes
  refine le_trans ?_ room
  exact (trainerEvents_bounded bounded sizes.future events).killed
    (bounded.heldBytes_le sizes.future bounded.settled.savesOver) killed

/-- Three saves of generations as large as declared need that room. -/
theorem le_of_savesFit
    [Inhabited Stamp]
    (starts : ((startRun steps resumeGeneration.start).run
      site.disk).result = .ok process)
    (fits : site.SavesFit steps process
      ((startRun steps resumeGeneration.start).run site.disk).final
      checkpointGenerationBytes available) :
    3 * checkpointGenerationBytes ≤ available := by
  obtain ⟨settled, -, later⟩ := (startRun_settles site.numbered).ok starts
  let size : Nat -> Nat := fun inode =>
    if inode < site.disk.nextInode then (site.stat inode).size
    else checkpointGenerationBytes
  have sizes : site.RunSizes checkpointGenerationBytes size := by
    constructor
    · intro inode older
      exact if_pos older
    · intro inode newer
      exact (if_neg (Nat.not_lt.mpr newer)).le
  have runs : (trainerEvents steps [.changed, .save default, .changed,
      .save default, .changed, .save default] process).wp
        (fun _ _ => True) (fun _ _ => True)
        (fun visited => visited.heldBytes size ≤ available)
        ((startRun steps resumeGeneration.start).run site.disk).final := by
    refine ⟨fun visited there => fits size sizes _ visited (.inr there), ?_⟩
    split <;> trivial
  obtain ⟨visited, bound, among⟩ := exists_three settled default runs
  refine le_trans ?_ bound
  generalize ((startRun steps resumeGeneration.start).run
    site.disk).final.nextInode = first at later among
  have full (inode : Nat) (new : first ≤ inode) :
      size inode = checkpointGenerationBytes :=
    if_neg (Nat.not_lt.mpr (later.trans new))
  calc 3 * checkpointGenerationBytes
      = ∑ inode ∈ ({first, first + 1, first + 2} : Finset Nat),
          size inode := by
        rw [Finset.sum_insert (by simp), Finset.sum_pair (by simp),
          full first (by omega), full (first + 1) (by omega),
          full (first + 2) (by omega)]
        omega
    _ ≤ visited.heldBytes size :=
        Finset.sum_le_sum_of_subset among

end Admitted

/-! ## A lineage of small generations -/

/-- Two generations of one byte each, on an empty mount with some free
bytes. -/
def oneByteSite (freeBytes : Nat) : StorageSite Nat where
  resolve := .directory
  inspectMount path :=
    if path = ["data"] then
      ⟨path, 1, some "/data", "ext4", some "/dev/nvme0", true, true,
        .localOrBlock⟩
    else
      ⟨path, 2, some "/durable", "fuse", some "mfs#host:1", false, false,
        .network⟩
  directoryDevice _ := 2
  probe _ := .ok ⟨true, true, true, true, true⟩
  lease := .missing
  disk :=
    { entry := fun name =>
        match name with
        | .last => some 1
        | .previous => some 0
        | _ => none
      synced := fun _ => none
      content := fun inode => .complete ([1, 2].take (inode + 1))
      flushed := fun _ => true
      nextInode := 2 }
  stat _ := ⟨.regular, 2, 1⟩
  freeBytes _ := freeBytes
  numbered := by
    constructor
    · intro name inode named
      change inode < 2
      cases name <;> cases named <;> decide
    · intro id inode named
      rcases named with named | named <;> cases named

/-- The admission of this lineage, with generations of one gibibyte. -/
def oneByteAdmission (freeBytes : Nat) :
    Checked (MountEvidence × MountEvidence × CheckpointInspection) :=
  inspectStorageAndCheckpoint (oneByteSite freeBytes) ["data"] ["durable"]
    ["durable"] "run.pt" .latest (1024 ^ 3)

theorem oneByteAdmission_ok
    {freeBytes : Nat}
    (admits : (oneByteAdmission freeBytes).toOption.map
      (·.2.2.freeBytes) = some freeBytes) :
    ∃ localMount durableMount inspection,
      oneByteAdmission freeBytes =
        .ok (localMount, durableMount, inspection) ∧
      inspection.freeBytes = freeBytes := by
  cases result : oneByteAdmission freeBytes with
  | error error =>
      rw [result] at admits
      cases admits
  | ok value =>
      rw [result] at admits
      exact ⟨_, _, _, rfl, Option.some.inj admits⟩

end CheckpointAdmission

end CodingLlm
