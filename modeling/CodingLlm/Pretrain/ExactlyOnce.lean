import CodingLlm.Pretrain.DistributedBatchSampler
import CodingLlm.Pretrain.BuiltOrder

/-!
# Consumption is exactly once

Over any chain of restarts, what the ranks of a run yield for the completed
microbatches is the next part of the order.
-/

namespace CodingLlm

open Words Slices

variable {Digest Cursor : Type}

namespace DistributedBatchSampler

/-! ## Construction and resumption -/

/-- The arguments of one rank of a run that does not skip microbatches. -/
def arguments
    (globalMicrobatchRows gradientAccumulationSteps worldSize rank : Nat)
    (verifyChecksum : Bool) : SamplerArguments where
  globalMicrobatchRows := .int globalMicrobatchRows
  gradientAccumulationSteps := .int gradientAccumulationSteps
  rank := .int rank
  worldSize := .int worldSize
  startGlobalMicrobatch := .int 0
  verifyChecksum := verifyChecksum

/-- A sampler at the start of an order. -/
def fresh
    (hash : FileHash Digest Cursor) (manifest : OrderManifest Digest)
    (bytes : List Byte) (document : OrderManifestJson Digest)
    (globalMicrobatchRows gradientAccumulationSteps worldSize rank : Nat) :
    DistributedBatchSampler Digest :=
  ofPlace manifest (decodeWords referenceItemSize bytes)
    (hash.orderManifest document)
    ⟨globalMicrobatchRows, gradientAccumulationSteps, rank, worldSize, 0⟩

/-- The geometry of a run fits an order and its number of ranks. -/
structure Fits
    (geometry : Option FrozenGeometry)
    (globalMicrobatchRows gradientAccumulationSteps worldSize : Nat) :
    Prop where
  globalMicrobatchRows_pos : 1 ≤ globalMicrobatchRows
  gradientAccumulationSteps_pos : 1 ≤ gradientAccumulationSteps
  worldSize_dvd : globalMicrobatchRows % worldSize = 0
  frozen : ∀ frozen ∈ geometry,
    globalMicrobatchRows = frozen.globalMicrobatchRows ∧
      gradientAccumulationSteps = frozen.gradientAccumulationSteps

theorem requireFrozenGeometry_eq_ok
    {geometry : Option FrozenGeometry}
    {globalMicrobatchRows gradientAccumulationSteps : Nat} {result : Unit} :
    requireFrozenGeometry geometry globalMicrobatchRows
        gradientAccumulationSteps = .ok result ↔
      ∀ frozen ∈ geometry,
        globalMicrobatchRows = frozen.globalMicrobatchRows ∧
          gradientAccumulationSteps = frozen.gradientAccumulationSteps := by
  cases geometry with
  | none => exact ⟨fun _ => nofun, fun _ => rfl⟩
  | some frozen =>
      simp only [requireFrozenGeometry, require_then_eq_ok,
        checked_pure_eq_ok]
      constructor
      · rintro ⟨rows, steps, -⟩ _ member
        cases member
        exact ⟨rows, steps⟩
      · intro same
        exact ⟨(same frozen rfl).1, (same frozen rfl).2, trivial⟩

theorem requireInteger_eq_ok
    {field : String} {value : PyValue} {number : Int} :
    requireInteger field value = .ok number ↔ value = .int number := by
  cases value <;> simp [requireInteger]

section Construction

variable [DecidableEq Digest]
variable {hash : FileHash Digest Cursor} {directory : OrderDirectory Digest}
variable {rows steps worldSize rank : Nat} {verifyChecksum : Bool}
variable {resumeState : ResumeState Digest}
variable {sampler : DistributedBatchSampler Digest}

omit [DecidableEq Digest] in
theorem checkArguments_eq_ok {place : SamplerPlace} :
    checkArguments (arguments rows steps worldSize rank verifyChecksum)
        resumeState = .ok place ↔
      1 ≤ rows ∧ 1 ≤ steps ∧ rank < worldSize ∧ rows % worldSize = 0 ∧
        place = ⟨rows, steps, rank, worldSize, 0⟩ := by
  unfold checkArguments
  simp only [arguments, requireInteger, checked_ok_bind,
    require_then_eq_ok, checked_pure_eq_ok, Int.toNat_natCast,
    Int.toNat_zero]
  constructor
  · rintro ⟨-, rowsPos, stepsPos, ⟨worldPos, rankNonneg, rankLt⟩, divides, -,
      equal⟩
    exact ⟨by omega, by omega, by omega, by exact_mod_cast divides,
      equal.symm⟩
  · rintro ⟨rowsPos, stepsPos, rankLt, divides, equal⟩
    exact ⟨.inr trivial, by omega, by omega, ⟨by omega, by omega, by omega⟩,
      by exact_mod_cast divides, le_rfl, equal.symm⟩

/-- A sampler is constructed exactly from a loadable order and a fitting
geometry, and then resumed. -/
theorem new_eq_ok :
    new hash directory (arguments rows steps worldSize rank verifyChecksum)
        resumeState = .ok sampler ↔
      ∃ manifest bytes document,
        Loads hash.bytes verifyChecksum directory manifest bytes ∧
        directory.manifest = some document ∧
        Fits manifest.geometry rows steps worldSize ∧ rank < worldSize ∧
        (fresh hash manifest bytes document rows steps worldSize
          rank).resume resumeState = .ok sampler := by
  have begins (sampler resumed : DistributedBatchSampler Digest)
      (start : sampler.startGlobalMicrobatch = 0) :
      sampler.begin resumeState = .ok resumed ↔
        sampler.resume resumeState = .ok resumed := by
    simp only [begin, require_then_eq_ok, start, Nat.zero_le, Nat.zero_mod,
      true_and]
  simp only [new, checked_bind_eq_ok, requireFrozenGeometry_eq_ok,
    checkArguments_eq_ok, requireObject_eq_ok]
  constructor
  · rintro ⟨⟨manifest, bytes⟩, loaded, _, ⟨rowsPos, stepsPos, rankLt,
      divides, rfl⟩, _, frozen, document, found, begun⟩
    exact ⟨manifest, bytes, document, loadOrderManifest_eq_ok.mp loaded,
      found, ⟨rowsPos, stepsPos, divides, frozen⟩, rankLt,
      (begins _ _ rfl).mp begun⟩
  · rintro ⟨manifest, bytes, document, loads, found, fits, rankLt, resumed⟩
    exact ⟨(manifest, bytes), loadOrderManifest_eq_ok.mpr loads, _,
      ⟨fits.globalMicrobatchRows_pos, fits.gradientAccumulationSteps_pos,
        rankLt, fits.worldSize_dvd, rfl⟩, (), fits.frozen, document, found,
      (begins _ _ rfl).mpr resumed⟩

theorem requireDigest_eq_ok
    {field : String} {found : DigestField Digest} {expected : Digest}
    {result : Unit} :
    requireDigest field found expected = .ok result ↔
      found = .sha256 expected := by
  cases found with
  | sha256 digest =>
      simp only [requireDigest, require_then_eq_ok, checked_pure_eq_ok,
        DigestField.sha256.injEq, and_true]
  | null => simp [requireDigest]
  | malformed => simp [requireDigest]

omit [DecidableEq Digest] in
theorem requireStatic_eq_ok
    {fields : List (String × PyValue × Nat)} {result : Unit} :
    requireStatic fields = .ok result ↔
      ∀ field ∈ fields, field.2.1 = .int field.2.2 := by
  induction fields with
  | nil => simp [requireStatic]
  | cons field rest inductionHypothesis =>
      rw [requireStatic, require_then_eq_ok, inductionHypothesis,
        List.forall_mem_cons]

/-- Loading a state moves the start to its cursor. -/
theorem loadStateDict_eq_ok
    {resumed : DistributedBatchSampler Digest} {state : SamplerState Digest}
    (loaded : sampler.loadStateDict state = .ok resumed) :
    ∃ completed : Nat, state.completedGlobalMicrobatches = .int completed ∧
      completed ≤ sampler.totalGlobalMicrobatches ∧
      completed % sampler.gradientAccumulationSteps = 0 ∧
      resumed = { sampler with startGlobalMicrobatch := completed } := by
  simp only [loadStateDict, checked_bind_eq_ok, exists_require,
    requireNatural_eq_ok, checked_pure_eq_ok] at loaded
  obtain ⟨-, -, _, -, -, _, -, _, -, _, -, _, -, _, -, _, -, completed,
    cursor, bound, aligned, _, -, equal⟩ := loaded
  exact ⟨completed, cursor, bound, aligned, equal.symm⟩

omit [DecidableEq Digest] in
/-- A state that a sampler saves. -/
theorem stateDict_eq_ok
    {value : PyValue} {state : SamplerState Digest}
    (saved : sampler.stateDict value = .ok state) :
    ∃ completed : Nat, value = .int completed ∧
      state.completedGlobalMicrobatches = .int completed ∧
      sampler.startGlobalMicrobatch ≤ completed ∧
      completed ≤ sampler.totalGlobalMicrobatches ∧
      completed % sampler.gradientAccumulationSteps = 0 := by
  simp only [stateDict, checked_bind_eq_ok, exists_require,
    requireNatural_eq_ok, checked_pure_eq_ok] at saved
  obtain ⟨completed, cursor, ⟨low, high⟩, aligned, rfl⟩ := saved
  exact ⟨completed, cursor, rfl, low, high, aligned⟩

omit [DecidableEq Digest] in
theorem exists_stateDict
    {completed : Nat}
    (low : sampler.startGlobalMicrobatch ≤ completed)
    (high : completed ≤ sampler.totalGlobalMicrobatches)
    (aligned : completed % sampler.gradientAccumulationSteps = 0) :
    ∃ state, sampler.stateDict (.int completed) = .ok state := by
  simp only [stateDict, checked_bind_eq_ok, exists_require,
    requireNatural_eq_ok, checked_pure_eq_ok]
  exact ⟨_, completed, rfl, ⟨low, high⟩, aligned, rfl⟩

/-- What samplers of one run share. -/
structure SameRun (sampler other : DistributedBatchSampler Digest) :
    Prop where
  manifest : sampler.manifest = other.manifest
  orderManifestSha256 : sampler.orderManifestSha256 =
    other.orderManifestSha256
  globalMicrobatchRows : sampler.globalMicrobatchRows =
    other.globalMicrobatchRows
  gradientAccumulationSteps : sampler.gradientAccumulationSteps =
    other.gradientAccumulationSteps
  worldSize : sampler.worldSize = other.worldSize
  totalOptimizerUpdates : sampler.totalOptimizerUpdates =
    other.totalOptimizerUpdates
  totalGlobalMicrobatches : sampler.totalGlobalMicrobatches =
    other.totalGlobalMicrobatches
  trainableRows : sampler.trainableRows = other.trainableRows

/-- A state is loaded by every sampler that shares a run with the one that
saved it. -/
theorem loadStateDict_stateDict
    {other : DistributedBatchSampler Digest} {value : PyValue}
    {state : SamplerState Digest}
    (saved : other.stateDict value = .ok state)
    (same : sampler.SameRun other)
    (fresh : sampler.iterationStarted = false) :
    ∃ resumed, sampler.loadStateDict state = .ok resumed := by
  simp only [stateDict, checked_bind_eq_ok, exists_require,
    requireNatural_eq_ok, checked_pure_eq_ok] at saved
  obtain ⟨completed, -, ⟨-, high⟩, aligned, rfl⟩ := saved
  simp only [loadStateDict, checked_bind_eq_ok, exists_require,
    requireObject_eq_ok, DomainField.mapping?_eq_some, requireStatic_eq_ok,
    requireDigest_eq_ok, forDomains_eq_ok, requireNatural_eq_ok,
    checked_pure_eq_ok]
  refine ⟨_, fresh, ?_, _, rfl, trivial, (), ?_, (), ?_, (), ?_, fun _ => (), ?_,
    (), ?_, (), ?_, completed, rfl, ?_, ?_, (), ?_, rfl⟩
  · simp [SamplerState.integerFields]
  · simp
  · rw [same.orderManifestSha256]
  · rw [same.manifest]
  · intro domain
    rw [same.manifest]
  · rw [same.manifest]
  · simp [same.globalMicrobatchRows, same.gradientAccumulationSteps,
      same.worldSize, same.totalGlobalMicrobatches,
      same.totalOptimizerUpdates, same.trainableRows, same.manifest,
      optimizerUpdateRows, droppedRows]
  · rw [same.totalGlobalMicrobatches]
    exact high
  · rw [same.gradientAccumulationSteps]
    exact aligned
  · simp [same.globalMicrobatchRows, same.gradientAccumulationSteps,
      same.manifest]

end Construction

/-! ## What a run trains -/

section Totals

variable {manifest : OrderManifest Digest} {rows steps worldSize : Nat}

/-- With a fitting geometry the frozen totals are those of the runtime. -/
theorem trainedMicrobatches_eq
    (fits : Fits manifest.geometry rows steps worldSize) :
    trainedMicrobatches manifest rows steps =
      manifest.rows / (rows * steps) * steps := by
  unfold trainedMicrobatches
  split
  · rename_i unfrozen
    simp only [trainedUpdates, unfrozen]
  · rename_i frozen found
    obtain ⟨rfl, rfl⟩ := fits.frozen frozen found
    rfl

end Totals

/-! ## Batches and microbatches -/

section Batches

variable {sampler : DistributedBatchSampler Digest}

/-- The batch at a place of what an iterator has yielded. -/
theorem getElem?_take_batches
    {drawn place : Nat}
    (inside : place < drawn)
    (bound : sampler.startGlobalMicrobatch + place <
      sampler.totalGlobalMicrobatches) :
    (sampler.batches.take drawn)[place]? =
      some (sampler.batch (sampler.startGlobalMicrobatch + place)) := by
  rw [List.getElem?_take_of_lt inside, batches, List.getElem?_map,
    List.getElem?_range' (by omega), Nat.one_mul, Option.map_some]

/-- The batches of all ranks in rank order are the global microbatch. -/
theorem flatMap_ranks
    {order : List Nat} {rows worldSize : Nat}
    (divides : rows % worldSize = 0)
    (globalMicrobatch : Nat) :
    ((List.range worldSize).flatMap fun rank =>
      slice (slice order (globalMicrobatch * rows) rows)
        (rank * (rows / worldSize)) (rows / worldSize)) =
      slice order (globalMicrobatch * rows) rows := by
  have whole : worldSize * (rows / worldSize) = rows :=
    Nat.mul_div_cancel' (Nat.dvd_of_mod_eq_zero divides)
  have joined := flatMap_range_eq_pieces (fun rank =>
    slice (slice order (globalMicrobatch * rows) rows)
      (rank * (rows / worldSize)) (rows / worldSize)) 0 worldSize
  simp only [Nat.zero_add] at joined
  rw [joined, pieces_slice, whole, Nat.zero_mul,
    slice_slice order (by omega), Nat.add_zero]

end Batches

/-- What the ranks have yielded for the first `count` microbatches of a run,
in microbatch and then rank order. -/
def completedReferences
    (worldSize : Nat) (samplers : Nat -> DistributedBatchSampler Digest)
    (drawn : Nat -> Nat) (count : Nat) : List Nat :=
  (List.range count).flatMap fun place =>
    (List.range worldSize).flatMap fun rank =>
      (((samplers rank).batches.take (drawn rank))[place]?).getD []

/-! ## Chains of runs -/

/-- What the completed microbatches of a chain of runs have consumed, and the
state from which the next run is built.  In each run the iterator of every rank
has yielded the completed microbatches and any number of prefetched ones, and
any rank saves the state. -/
inductive Chain [DecidableEq Digest]
    (hash : FileHash Digest Cursor) (directory : OrderDirectory Digest)
    (rows steps worldSize : Nat) :
    (completed : Nat) -> (consumed : List Nat) -> ResumeState Digest -> Prop
  | start : Chain hash directory rows steps worldSize 0 [] .none
  | run
      {completed next : Nat} {consumed : List Nat}
      {resumeState : ResumeState Digest} {state : SamplerState Digest}
      {samplers : Nat -> DistributedBatchSampler Digest}
      {verifyChecksum : Nat -> Bool} {drawn : Nat -> Nat} {saver : Nat}
      (before : Chain hash directory rows steps worldSize completed consumed
        resumeState)
      (built : ∀ rank < worldSize,
        new hash directory
          (arguments rows steps worldSize rank (verifyChecksum rank))
          resumeState = .ok (samplers rank))
      (yielded : ∀ rank < worldSize, next - completed ≤ drawn rank)
      (saver_lt : saver < worldSize)
      (saved : ((samplers saver).advance (drawn saver)).stateDict
        (.int next) = .ok state) :
      Chain hash directory rows steps worldSize next
        (consumed ++ completedReferences worldSize samplers drawn
          (next - completed)) (.state state)

section Chains

variable [DecidableEq Digest]
variable {hash : FileHash Digest Cursor} {directory : OrderDirectory Digest}
variable {rows steps worldSize completed : Nat} {consumed : List Nat}
variable {resumeState : ResumeState Digest}
variable {manifest : OrderManifest Digest} {bytes : List Byte}

/-- The cursor that a resume state carries. -/
def CursorIs (resumeState : ResumeState Digest) (completed : Nat) : Prop :=
  match resumeState with
  | .none => completed = 0
  | .state state => state.completedGlobalMicrobatches = .int completed
  | .malformed => False

theorem Chain.cursorIs
    (chain : Chain hash directory rows steps worldSize completed consumed
      resumeState) : CursorIs resumeState completed := by
  cases chain with
  | start => rfl
  | run _ _ _ _ saved =>
      obtain ⟨cursor, equal, recorded, -⟩ := stateDict_eq_ok saved
      cases equal
      exact recorded

/-- The orders that samplers load from one directory are the same. -/
theorem Loads.unique
    {verifyChecksum otherVerify : Bool}
    {other : OrderManifest Digest} {otherBytes : List Byte}
    (loads : Loads hash.bytes verifyChecksum directory manifest bytes)
    (again : Loads hash.bytes otherVerify directory other otherBytes) :
    other = manifest ∧ otherBytes = bytes := by
  have relax {verify : Bool} {some : OrderManifest Digest}
      {payload : List Byte}
      (loads : Loads hash.bytes verify directory some payload) :
      loadOrderManifest hash.bytes false directory = .ok (some, payload) :=
    loadOrderManifest_eq_ok.mpr
      ⟨loads.recorded, loads.payload, loads.length_eq, nofun⟩
  have equal := (relax loads).symm.trans (relax again)
  cases equal
  exact ⟨rfl, rfl⟩

/-- A sampler of a run starts at the cursor of the state. -/
theorem sampler_of_built
    {verifyChecksum otherVerify : Bool} {rank : Nat}
    {sampler : DistributedBatchSampler Digest}
    (loads : Loads hash.bytes verifyChecksum directory manifest bytes)
    (cursor : CursorIs resumeState completed)
    (built : new hash directory
      (arguments rows steps worldSize rank otherVerify) resumeState =
        .ok sampler) :
    ∃ document, directory.manifest = some document ∧
      Fits manifest.geometry rows steps worldSize ∧
      sampler = { fresh hash manifest bytes document rows steps worldSize
        rank with startGlobalMicrobatch := completed } := by
  obtain ⟨_, _, document, again, found, fits, -, resumed⟩ :=
    new_eq_ok.mp built
  obtain ⟨rfl, rfl⟩ := Loads.unique loads again
  refine ⟨document, found, fits, ?_⟩
  cases resumeState with
  | none =>
      cases cursor
      exact (Except.ok.inj resumed).symm
  | state state =>
      obtain ⟨other, recorded, -, -, equal⟩ := loadStateDict_eq_ok resumed
      rw [show state.completedGlobalMicrobatches = .int completed from cursor]
        at recorded
      cases recorded
      exact equal
  | malformed => exact cursor.elim

omit [DecidableEq Digest] in
/-- The completed microbatches of a run are the next part of the order. -/
theorem completedReferences_eq
    {samplers : Nat -> DistributedBatchSampler Digest} {drawn : Nat -> Nat}
    {document : OrderManifestJson Digest} {count : Nat}
    (divides : rows % worldSize = 0)
    (same : ∀ rank < worldSize, samplers rank =
      { fresh hash manifest bytes document rows steps worldSize rank with
        startGlobalMicrobatch := completed })
    (yielded : ∀ rank < worldSize, count ≤ drawn rank)
    (bound : completed + count ≤ trainedMicrobatches manifest rows steps) :
    completedReferences worldSize samplers drawn count =
      slice (decodeWords referenceItemSize bytes) (completed * rows)
        (count * rows) := by
  have place (index : Nat) (inside : index < count) :
      ((List.range worldSize).flatMap fun rank =>
        (((samplers rank).batches.take (drawn rank))[index]?).getD []) =
      slice (decodeWords referenceItemSize bytes)
        ((completed + index) * rows) rows := by
    rw [← flatMap_ranks divides (completed + index)]
    refine List.flatMap_congr fun rank member => ?_
    have rankLt := List.mem_range.mp member
    rw [getElem?_take_batches
      (Nat.lt_of_lt_of_le inside (yielded rank rankLt)) (by
        rw [same rank rankLt]
        exact Nat.lt_of_lt_of_le (Nat.add_lt_add_left inside completed)
          bound), Option.getD_some, same rank rankLt]
    rfl
  rw [completedReferences, List.flatMap_congr fun index member =>
    place index (List.mem_range.mp member)]
  exact (flatMap_range_eq_pieces (fun microbatch =>
    slice (decodeWords referenceItemSize bytes) (microbatch * rows) rows)
      completed count).trans (pieces_slice _ _ _ _)

/-- After any chain of runs a prefix of the order is consumed. -/
theorem Chain.consumed_eq
    {verifyChecksum : Bool}
    (loads : Loads hash.bytes verifyChecksum directory manifest bytes)
    (chain : Chain hash directory rows steps worldSize completed consumed
      resumeState) :
    consumed = (decodeWords referenceItemSize bytes).take
        (completed * rows) ∧
      completed ≤ manifest.rows / (rows * steps) * steps ∧
      completed % steps = 0 := by
  induction chain with
  | start => simp
  | @run completed next consumed resumeState state samplers _ drawn saver
      before built yielded saverLt saved inductionHypothesis =>
      obtain ⟨consumedEq, -, -⟩ := inductionHypothesis
      have starts := fun rank rankLt =>
        sampler_of_built loads before.cursorIs (built rank rankLt)
      obtain ⟨document, found, fits, saverEq⟩ := starts saver saverLt
      have same (rank : Nat) (rankLt : rank < worldSize) :
          samplers rank = { fresh hash manifest bytes document rows steps
            worldSize rank with startGlobalMicrobatch := completed } := by
        obtain ⟨other, otherFound, -, equal⟩ := starts rank rankLt
        rw [found] at otherFound
        cases otherFound
        exact equal
      obtain ⟨cursor, equal, -, low, high, aligned⟩ := stateDict_eq_ok saved
      cases equal
      have low : completed ≤ next := by
        rw [saverEq] at low
        exact low
      have high : next ≤ trainedMicrobatches manifest rows steps := by
        rw [saverEq] at high
        exact high
      have aligned : next % steps = 0 := by
        rw [saverEq] at aligned
        exact aligned
      refine ⟨?_, trainedMicrobatches_eq fits ▸ high, aligned⟩
      rw [completedReferences_eq fits.worldSize_dvd same yielded (by omega),
        consumedEq, Nat.sub_mul]
      have joined := slice_append_slice (decodeWords referenceItemSize bytes)
        0 (completed * rows) (next * rows - completed * rows)
      have grows := Nat.mul_le_mul_right rows low
      rw [Nat.zero_add, Nat.add_sub_cancel' grows] at joined
      exact joined

/-- From any point of a chain the next run can be built, and it can complete
any aligned number of microbatches, however many were prefetched. -/
theorem Chain.exists_run
    {verifyChecksum : Bool} {next : Nat}
    (loads : Loads hash.bytes verifyChecksum directory manifest bytes)
    (fits : Fits manifest.geometry rows steps worldSize)
    (worldPos : 0 < worldSize)
    (chain : Chain hash directory rows steps worldSize completed consumed
      resumeState)
    (later : completed ≤ next)
    (bound : next ≤ manifest.rows / (rows * steps) * steps)
    (aligned : next % steps = 0) :
    ∃ more state, Chain hash directory rows steps worldSize next
      (consumed ++ more) (.state state) := by
  obtain ⟨document, found, -⟩ := loads.recorded
  have bound : next ≤ trainedMicrobatches manifest rows steps :=
    (trainedMicrobatches_eq fits).symm ▸ bound
  have resumes (rank : Nat) : ∃ sampler,
      (fresh hash manifest bytes document rows steps worldSize rank).resume
        resumeState = .ok sampler := by
    cases chain with
    | start => exact ⟨_, rfl⟩
    | @run earlier _ _ _ _ samplers _ drawn saver before built _ saverLt
        saved =>
        obtain ⟨other, otherFound, -, saverEq⟩ :=
          sampler_of_built loads before.cursorIs (built saver saverLt)
        rw [found] at otherFound
        cases otherFound
        refine loadStateDict_stateDict saved ?_ rfl
        rw [saverEq]
        exact ⟨rfl, rfl, rfl, rfl, rfl, rfl, rfl, rfl⟩
  choose samplers resumed using resumes
  have built (rank : Nat) (rankLt : rank < worldSize) :
      new hash directory (arguments rows steps worldSize rank verifyChecksum)
        resumeState = .ok (samplers rank) :=
    new_eq_ok.mpr ⟨manifest, bytes, document, loads, found, fits, rankLt,
      resumed rank⟩
  obtain ⟨other, otherFound, -, first⟩ :=
    sampler_of_built loads chain.cursorIs (built 0 worldPos)
  obtain ⟨state, saved⟩ : ∃ state,
      ((samplers 0).advance (next - completed)).stateDict (.int next) =
        .ok state := by
    refine exists_stateDict ?_ ?_ ?_
    · rw [first]
      exact later
    · rw [first]
      exact bound
    · rw [first]
      exact aligned
  exact ⟨_, state, chain.run built (fun _ _ => le_rfl) worldPos saved⟩

end Chains

/-- The small order with its directory, if it can be loaded and its frozen
geometry, if there is one, is updates of one row. -/
def smallOrder : Checked
    (OrderDirectory (List Byte) × OrderManifest (List Byte) × List Byte) := do
  let directory ←
    buildTrainingOrder smallEnvironment smallOrderArguments .empty
  let loaded ← loadOrderManifest id true directory
  let _ ← require (loaded.1.geometry.all (fun frozen =>
      frozen.globalMicrobatchRows = 1 ∧
        frozen.gradientAccumulationSteps = 1) = true)
    (.assertionError "unexpected geometry")
  return (directory, loaded)

end DistributedBatchSampler

end CodingLlm
