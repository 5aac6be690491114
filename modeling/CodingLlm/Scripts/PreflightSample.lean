import CodingLlm.Library.Probes
import CodingLlm.Library.Slices
import CodingLlm.Pretrain.Values
import Mathlib.Data.Prod.Lex

/-!
# The sample of the operational preflight

`_sample_refinement_preflight_pairs` of `scripts/build_english_near_clusters.py`
reads forward from one probe for each stratum and pass.  A small candidate set
is measured whole exactly when every candidate is among the successors of some
probe.  The probe hash is a parameter.
-/

namespace CodingLlm

open Probes Slices

/-! ## Candidates and configuration -/

/-- The table `candidates`, in the order of its primary key. -/
structure CandidatePairs where
  rows : List (Nat ×ₗ Nat)
  sorted : rows.Pairwise (· < ·)
  ordered : ∀ row ∈ rows, (ofLex row).1 < (ofLex row).2

/-- The fields of `operational_preflight` that the sampler reads; validation
requires them to be at least one. -/
structure OperationalPreflight where
  requestedPairs : Nat
  strata : Nat
  successorsPerProbe : Nat
  maximumProbePasses : Nat
  requestedPairs_pos : 0 < requestedPairs
  strata_pos : 0 < strata
  successorsPerProbe_pos : 0 < successorsPerProbe
  maximumProbePasses_pos : 0 < maximumProbePasses

/-- `MIN(left_document),MAX(left_document),MAX(right_document)`. -/
structure CandidateBounds where
  minimumLeft : Nat
  maximumLeft : Nat
  maximumRight : Nat
  deriving DecidableEq, Repr

/-- The query for the bounds; `int(None)` of an empty table is a
`TypeError`. -/
def CandidatePairs.bounds (candidates : CandidatePairs) :
    Checked CandidateBounds :=
  let lefts := candidates.rows.map fun row => (ofLex row).1
  let rights := candidates.rows.map fun row => (ofLex row).2
  match lefts.min?, lefts.max?, rights.max? with
  | some minimumLeft, some maximumLeft, some maximumRight =>
      .ok ⟨minimumLeft, maximumLeft, maximumRight⟩
  | _, _, _ => .error (.typeError
      "int() argument must be a string, a bytes-like object or a real number")

/-! ## The sampler -/

/-- `target_left` and `target_right` of a stratum in a pass. -/
def CandidateBounds.probe
    (bounds : CandidateBounds) (probeHash : Nat -> Nat -> Nat)
    (strata passIndex stratum : Nat) : Nat ×ₗ Nat :=
  toLex (bounds.minimumLeft + (2 * stratum + 1) *
      (bounds.maximumLeft - bounds.minimumLeft + 1) / (2 * strata),
    probeHash passIndex stratum % (bounds.maximumRight + 1))

/-- The probes of a pass. -/
def CandidateBounds.passProbes
    (bounds : CandidateBounds) (probeHash : Nat -> Nat -> Nat)
    (strata passIndex : Nat) : List (Nat ×ₗ Nat) :=
  (List.range strata).map (bounds.probe probeHash strata passIndex)

/-- The loop over the passes. -/
def samplePasses
    (rows : List (Nat ×ₗ Nat)) (successorsPerProbe target : Nat)
    (passProbes : Nat -> List (Nat ×ₗ Nat)) :
    List Nat -> Finset (Nat ×ₗ Nat) -> Finset (Nat ×ₗ Nat)
  | [], selected => selected
  | passIndex :: rest, selected =>
      match collectProbes rows successorsPerProbe target selected
          (passProbes passIndex) with
      | .error returned => returned
      | .ok selected =>
          if selected.card = target then selected
          else samplePasses rows successorsPerProbe target passProbes rest
            selected

/-- `_sample_refinement_preflight_pairs`. -/
def sampleRefinementPreflightPairs
    (probeHash : Nat -> Nat -> Nat) (config : OperationalPreflight)
    (candidates : CandidatePairs) (totalCandidates : Nat) :
    Checked (List (Nat ×ₗ Nat)) :=
  if totalCandidates = 0 then .ok []
  else do
    let target := min config.requestedPairs totalCandidates
    let bounds ← candidates.bounds
    let strata := min config.strata target
    let selected := samplePasses candidates.rows config.successorsPerProbe
      target (bounds.passProbes probeHash strata)
      (List.range config.maximumProbePasses) ∅
    return selected.sort

/-- The batches whose pairs are refined, and their results. -/
def measureBatches {ρ : Type} (measure : Nat ×ₗ Nat -> ρ) (batchSize : Nat)
    (pairs : List (Nat ×ₗ Nat)) : List ρ :=
  (chunkBegins pairs.length batchSize).flatMap fun offset =>
    (slice pairs offset (min (offset + batchSize) pairs.length - offset)).map
      measure

/-- The first check of `_run_refinement_operational_preflight`. -/
def sampleFailures {ρ : Type} (config : OperationalPreflight)
    (totalCandidates : Nat) (results : List ρ) : List String :=
  if results.length ≠ min config.requestedPairs totalCandidates then
    ["representative_sample_incomplete"]
  else []

/-! ## What the sampler returns -/

/-- Every candidate is among the successors of a probe. -/
def CandidatePairs.WithinReach
    (candidates : CandidatePairs) (probeHash : Nat -> Nat -> Nat)
    (config : OperationalPreflight) : Prop :=
  ∃ bounds, candidates.bounds = .ok bounds ∧
    ∀ row ∈ candidates.rows, ∃ passIndex < config.maximumProbePasses,
      ∃ stratum < min config.strata candidates.rows.length,
        let probe := bounds.probe probeHash
          (min config.strata candidates.rows.length) passIndex stratum
        probe ≤ row ∧
          (candidates.rows.filter fun other =>
            probe ≤ other ∧ other < row).length < config.successorsPerProbe

/-- The sample of a small candidate set is the whole set, and the preflight
does not call it incomplete. -/
def SampleComplete
    (probeHash : Nat -> Nat -> Nat) (config : OperationalPreflight)
    (candidates : CandidatePairs) : Prop :=
  ∃ pairs,
    sampleRefinementPreflightPairs probeHash config candidates
      candidates.rows.length = .ok pairs ∧
    pairs.length = min config.requestedPairs candidates.rows.length ∧
    pairs.Nodup ∧ (∀ pair ∈ pairs, pair ∈ candidates.rows) ∧
    ∀ (ρ : Type) (measure : Nat ×ₗ Nat -> ρ), ∀ batchSize > 0,
      sampleFailures config candidates.rows.length
        (measureBatches measure batchSize pairs) = []

theorem length_measureBatches
    {ρ : Type} (measure : Nat ×ₗ Nat -> ρ) {batchSize : Nat}
    (positive : 0 < batchSize) (pairs : List (Nat ×ₗ Nat)) :
    (measureBatches measure batchSize pairs).length = pairs.length := by
  have whole := flatMap_slice_chunks pairs positive
  have mapped := congrArg (List.map measure) whole
  rw [List.map_flatMap] at mapped
  rw [measureBatches, mapped, List.length_map]

/-- The passes collect what all their probes reach. -/
theorem collected_samplePasses
    {rows : List (Nat ×ₗ Nat)} {limit target : Nat}
    {passProbes : Nat -> List (Nat ×ₗ Nat)} (passes : List Nat)
    {selected : Finset (Nat ×ₗ Nat)} (few : selected.card < target) :
    Collected target
      (selected ∪ ((passes.flatMap passProbes).flatMap
        (successors rows limit)).toFinset)
      (samplePasses rows limit target passProbes passes selected) := by
  induction passes generalizing selected with
  | nil =>
      rw [List.flatMap_nil, List.flatMap_nil, List.toFinset_nil,
        Finset.union_empty]
      exact ⟨subset_rfl, (Nat.min_eq_right few.le).symm⟩
  | cons passIndex rest inductionHypothesis =>
      have grown := @collectProbes_spec _ _ rows limit target selected few
        (passProbes passIndex)
      rw [samplePasses, List.flatMap_cons, List.flatMap_append,
        List.toFinset_append, ← Finset.union_assoc]
      cases ran : collectProbes rows limit target selected
          (passProbes passIndex) with
      | error returned =>
          rw [ran] at grown
          obtain ⟨enough, within⟩ := grown
          have whole := within.trans (@Finset.subset_union_left _ _ _
            ((rest.flatMap passProbes).flatMap
              (successors rows limit)).toFinset)
          have bounded := Finset.card_le_card whole
          exact ⟨whole, by dsimp only; omega⟩
      | ok more =>
          rw [ran] at grown
          obtain ⟨stillFew, rfl⟩ := grown
          dsimp only
          rw [if_neg stillFew.ne]
          exact inductionHypothesis stillFew

theorem CandidatePairs.exists_bounds
    {candidates : CandidatePairs} (nonempty : candidates.rows ≠ []) :
    ∃ bounds, candidates.bounds = .ok bounds := by
  unfold bounds
  obtain ⟨row, rest, isRows⟩ := List.exists_cons_of_ne_nil nonempty
  rw [isRows]
  exact ⟨_, rfl⟩

/-- The sampler returns a sorted part of the candidates, as large as the
requested number and the reach of the probes allow. -/
theorem sample_eq_ok
    {probeHash : Nat -> Nat -> Nat} {config : OperationalPreflight}
    {candidates : CandidatePairs} {bounds : CandidateBounds}
    (nonempty : candidates.rows ≠ []) (known : candidates.bounds = .ok bounds) :
    ∃ selected, sampleRefinementPreflightPairs probeHash config candidates
        candidates.rows.length = .ok selected.sort ∧
      Collected (min config.requestedPairs candidates.rows.length)
        (((List.range config.maximumProbePasses).flatMap
          (bounds.passProbes probeHash (min config.strata
            (min config.requestedPairs candidates.rows.length)))).flatMap
              (successors candidates.rows
                config.successorsPerProbe)).toFinset
        selected := by
  have size := List.length_pos_iff.mpr nonempty
  have some : (∅ : Finset (Nat ×ₗ Nat)).card <
      min config.requestedPairs candidates.rows.length := by
    rw [Finset.card_empty]
    exact Nat.lt_min.mpr ⟨config.requestedPairs_pos, size⟩
  have collected := @collected_samplePasses candidates.rows
    config.successorsPerProbe _ (bounds.passProbes probeHash (min config.strata
      (min config.requestedPairs candidates.rows.length)))
    (List.range config.maximumProbePasses) ∅ some
  rw [Finset.empty_union] at collected
  refine ⟨_, ?_, collected⟩
  unfold sampleRefinementPreflightPairs
  rw [if_neg size.ne', known]
  rfl

/-- A small candidate set is sampled whole if and only if the probes reach all
of it. -/
theorem sample_complete_iff
    (probeHash : Nat -> Nat -> Nat) (config : OperationalPreflight)
    (candidates : CandidatePairs) (nonempty : candidates.rows ≠ [])
    (few : candidates.rows.length ≤ config.requestedPairs) :
    SampleComplete probeHash config candidates ↔
      candidates.WithinReach probeHash config := by
  obtain ⟨bounds, known⟩ := CandidatePairs.exists_bounds nonempty
  obtain ⟨selected, returned, collected⟩ :=
    @sample_eq_ok probeHash config candidates bounds nonempty known
  rw [Nat.min_eq_right few] at collected
  have distinct : candidates.rows.Nodup :=
    candidates.sorted.imp fun below => below.ne
  have reach : candidates.WithinReach probeHash config ↔
      selected.card = candidates.rows.length := by
    rw [Collected.card_eq_iff distinct collected]
    have sorted := candidates.sorted
    constructor
    · rintro ⟨again, isBounds, reached⟩ row member
      obtain rfl := Except.ok.inj (isBounds.symm.trans known)
      obtain ⟨passIndex, isPass, stratum, isStratum, before, near⟩ :=
        reached row member
      exact ⟨_, List.mem_flatMap.mpr ⟨passIndex, List.mem_range.mpr isPass,
        List.mem_map.mpr ⟨stratum, List.mem_range.mpr isStratum, rfl⟩⟩,
        (mem_successors_iff sorted).mpr ⟨member, before, near⟩⟩
    · intro reached
      refine ⟨bounds, known, fun row member => ?_⟩
      obtain ⟨key, isKey, found⟩ := reached row member
      obtain ⟨passIndex, isPass, inPass⟩ := List.mem_flatMap.mp isKey
      obtain ⟨stratum, isStratum, rfl⟩ := List.mem_map.mp inPass
      obtain ⟨-, before, near⟩ := (mem_successors_iff sorted).mp found
      exact ⟨passIndex, List.mem_range.mp isPass, stratum,
        List.mem_range.mp isStratum, before, near⟩
  rw [reach]
  constructor
  · rintro ⟨pairs, again, size, -⟩
    obtain rfl := Except.ok.inj (returned.symm.trans again)
    rwa [Finset.length_sort, Nat.min_eq_right few] at size
  · intro full
    have size : (selected.sort (· ≤ ·)).length =
        min config.requestedPairs candidates.rows.length := by
      rw [Finset.length_sort, full, Nat.min_eq_right few]
    refine ⟨_, returned, size, Finset.sort_nodup _ _, ?_, ?_⟩
    · intro pair member
      have chosen := collected.subset ((Finset.mem_sort _).mp member)
      obtain ⟨key, -, found⟩ :=
        List.mem_flatMap.mp (List.mem_toFinset.mp chosen)
      exact (successors_subset found).1
    · intro ρ measure batchSize positive
      refine if_neg (not_not.mpr ?_)
      rw [length_measureBatches measure positive, size]

/-! ## Two sets of candidates -/

/-- The repository's configuration. -/
def englishPreflight : OperationalPreflight where
  requestedPairs := 10000
  strata := 256
  successorsPerProbe := 64
  maximumProbePasses := 4
  requestedPairs_pos := by decide
  strata_pos := by decide
  successorsPerProbe_pos := by decide
  maximumProbePasses_pos := four_pos

/-- Two pairs of documents far from each other. -/
def farCandidates : CandidatePairs where
  rows := [toLex (0, 1), toLex (10, 11)]
  sorted := by decide
  ordered := by decide

/-- One pair of documents. -/
def oneCandidate : CandidatePairs where
  rows := [toLex (0, 1)]
  sorted := by decide
  ordered := by decide

/-- Of two far pairs the first one is before every probe. -/
theorem far_candidates_incomplete :
    ¬∀ (probeHash : Nat -> Nat -> Nat) (config : OperationalPreflight)
      (candidates : CandidatePairs), candidates.rows ≠ [] ->
        candidates.rows.length ≤ config.requestedPairs ->
          SampleComplete probeHash config candidates := by
  intro complete
  obtain ⟨pairs, returned, size, -⟩ := complete (fun _ _ => 0)
    englishPreflight farCandidates (by decide) (by decide)
  have only : sampleRefinementPreflightPairs (fun _ _ => 0) englishPreflight
      farCandidates 2 = .ok [toLex (10, 11)] := by
    decide +kernel
  obtain rfl := Except.ok.inj (returned.symm.trans only)
  exact absurd size (by decide)

theorem sample_complete_one :
    SampleComplete (fun _ _ => 0) englishPreflight oneCandidate := by
  refine (sample_complete_iff (fun _ _ => 0) englishPreflight oneCandidate
    (by decide) (by decide)).mpr ⟨⟨0, 0, 1⟩, rfl, ?_⟩
  intro row member
  rw [List.mem_singleton.mp member]
  exact ⟨0, by decide, 0, by decide, by decide, by decide⟩

end CodingLlm
