import CodingLlm.Pretrain.FinalizerCalls
import CodingLlm.Pretrain.BuiltOrder

/-!
# Reuse of finalized corpora

A corpus that is found complete is adopted after a comparison of its geometry
alone.  What a call reports complete is therefore faithful to its seed and its
token caps exactly when those are the recorded ones.
-/

namespace CodingLlm

open CrashLogic Words

variable {Digest Cursor Json : Type}

/-! ## What a built order records -/

/-- A built order records the seed and the target of its plan. -/
theorem OrderPlan.built_records [DecidableEq Digest]
    {environment : OrderEnvironment Digest Cursor} {plan : OrderPlan}
    {directory : OrderDirectory Digest}
    (built : buildTrainingOrder environment plan.arguments .empty =
      .ok directory) :
    ∃ document budget, directory.manifest = some document ∧
      document.inputTokenBudget = some budget ∧
      document.seed = .int plan.seed ∧
      budget.expectedTotal = .int plan.expectedTokens ∧
      budget.tolerance = .int plan.toleranceTokens := by
  obtain ⟨draft, success, rfl⟩ := buildTrainingOrder_eq_ok built
  have drafted := drafted_of_draftTrainingOrder success
  refine ⟨_, _, rfl, rfl, congrArg PyValue.int drafted.seed, ?_⟩
  obtain ⟨_, -, selected, -⟩ := drafted.references
  cases selected with
  | all untargeted => cases untargeted
  | capped _ selected _ =>
      obtain ⟨weights, target, -, capped⟩ := selectCapped_eq_ok selected
      have tolerance := capped.tolerance
      rw [toleranceOrDefault, if_neg (by nofun)] at tolerance
      simp only [OrderDraft.inputTokenBudget, capped.target_eq]
      exact ⟨capped.expectedTotal.symm, tolerance.symm⟩

namespace PackedHandoff

variable [DecidableEq Digest]

/-- The three orders are what `build_training_order` makes of the packed
manifests for a configuration and a geometry. -/
def Faithful (handoff : PackedHandoff Digest Cursor Json)
    (config : FinalizationConfig) (geometry : FrozenGeometry)
    (root : CorpusRoot Digest Cursor Json) : Prop :=
  ∀ split, ∃ plan directory,
    handoff.authority.orderPlan config split (some geometry) = .ok plan ∧
    buildTrainingOrder
      (handoff.environment.orderEnvironment handoff.origin.packed)
      plan.arguments .empty = .ok directory ∧
    root.orders split = some directory

omit [DecidableEq Digest] in
/-- An `order_configuration` has the seeds of a configuration and the token
targets that its caps come to. -/
def Agrees (handoff : PackedHandoff Digest Cursor Json)
    (config : FinalizationConfig) (geometry : FrozenGeometry)
    (configuration : OrderConfiguration) : Prop :=
  ∀ split, ∃ plan,
    handoff.authority.orderPlan config split (some geometry) = .ok plan ∧
    configuration.orderSeeds split = plan.seed ∧
    (configuration.expectedInputTokens split).EqualsInt
      plan.expectedTokens ∧
    (configuration.inputTokenTolerance split).EqualsInt plan.toleranceTokens

variable {handoff : PackedHandoff Digest Cursor Json}

/-- The orders of a publication are faithful to the configurations with which
its manifest agrees. -/
theorem Publication.faithful_iff
    (publication : handoff.Publication) (config : FinalizationConfig)
    {root : CorpusRoot Digest Cursor Json}
    (orders : ∀ split,
      root.orders split = some (publication.directory split)) :
    handoff.Faithful config publication.geometry root ↔
      handoff.Agrees config publication.geometry
        publication.manifest.orderConfiguration := by
  refine forall_congr' fun split => ?_
  obtain ⟨built, accepted⟩ := FinalizerEnvironment.intendedOrder_eq_ok.mp
    (publication.intended split)
  have recorded := Authority.orderPlan_plannedFrom (publication.planned split)
  have seeds : publication.manifest.orderConfiguration.orderSeeds split =
      (publication.plan split).seed := recorded.seed_eq.symm
  constructor
  · rintro ⟨plan, directory, planned, rebuilt, found⟩
    cases (orders split).symm.trans found
    obtain ⟨document, budget, manifest, budgeted, seed, expected, tolerance⟩ :=
      OrderPlan.built_records rebuilt
    cases accepted.manifest.symm.trans manifest
    cases accepted.budget.symm.trans budgeted
    refine ⟨plan, planned, ?_, ?_, ?_⟩
    · have same := accepted.identity.2.2.1
      rw [seed, PyValue.equalsInt_int] at same
      rw [seeds]
      omega
    · change (publication.order split).budget.expectedTotal.EqualsInt _
      rw [expected, PyValue.equalsInt_int]
    · change (publication.order split).budget.tolerance.EqualsInt _
      rw [tolerance, PyValue.equalsInt_int]
  · rintro ⟨plan, planned, sameSeed, sameExpected, sameTolerance⟩
    have asked := Authority.orderPlan_plannedFrom planned
    have expected := Int.ofNat_injective
      (PyValue.EqualsInt.unique sameExpected accepted.matchesBudget.1)
    have tolerance := Int.ofNat_injective
      (PyValue.EqualsInt.unique sameTolerance accepted.matchesBudget.2.2)
    have actual : plan.actualTokens =
        (publication.plan split).actualTokens := by
      have one := asked.tokens_eq
      have two := recorded.tokens_eq
      omega
    have same : plan = publication.plan split :=
      OrderPlan.ext (asked.split_eq.trans recorded.split_eq.symm)
        (sameSeed.symm.trans seeds)
        (asked.geometry_eq.trans recorded.geometry_eq.symm) expected actual
        tolerance
    exact ⟨plan, publication.directory split, planned, same ▸ built,
      orders split⟩

/-- The geometry of final mode is the one that was given. -/
theorem modeGeometry_final
    {config : FinalizationConfig} {geometry : Option FrozenGeometry}
    {globalMicrobatchRows gradientAccumulationSteps : Int}
    (checked : modeGeometry config (.final globalMicrobatchRows
      gradientAccumulationSteps) = .ok geometry) :
    ∃ frozen, geometry = some frozen ∧
      globalMicrobatchRows = frozen.globalMicrobatchRows ∧
      gradientAccumulationSteps = frozen.gradientAccumulationSteps := by
  obtain ⟨frozen, valid, equal⟩ := checked_bind_eq_ok.mp checked
  cases equal
  simp only [validateGeometry, checked_bind_eq_ok, exists_require,
    checked_pure_eq_ok] at valid
  obtain ⟨rowsPos, stepsPos, -, -, rfl⟩ := valid
  exact ⟨_, rfl, (Int.toNat_of_nonneg (by omega)).symm,
    (Int.toNat_of_nonneg (by omega)).symm⟩

/-- Whatever calls have run before, under whichever configurations: a call
that reports completion has the orders of its own configuration in place,
unless it found the corpus complete and the recorded configuration differs. -/
theorem reuse_faithful_iff [DecidableEq Json]
    (handoff : PackedHandoff Digest Cursor Json)
    {root : CorpusRoot Digest Cursor Json}
    (reached : handoff.Reaches (fun _ _ => True) root)
    {config : FinalizationConfig} {mode : FinalizationMode}
    {manifest : FinalManifest Digest Json}
    (ended : ((handoff.environment.run config mode).run root).result =
      .ok (.complete manifest)) :
    ∃ geometry : FrozenGeometry,
      (∀ globalMicrobatchRows gradientAccumulationSteps,
        mode = .final globalMicrobatchRows gradientAccumulationSteps ->
        globalMicrobatchRows = geometry.globalMicrobatchRows ∧
          gradientAccumulationSteps = geometry.gradientAccumulationSteps) ∧
      manifest.orderConfiguration.frozenGlobalMicrobatchRows =
        geometry.globalMicrobatchRows ∧
      manifest.orderConfiguration.frozenGradientAccumulationSteps =
        geometry.gradientAccumulationSteps ∧
      (handoff.Faithful config geometry
          ((handoff.environment.run config mode).run root).final ↔
        (root.manifest ≠ none -> root.sidecar ≠ none ->
          handoff.Agrees config geometry manifest.orderConfiguration)) := by
  have consistent : handoff.Consistent (fun _ _ => True) root :=
    reached.consistent fun _ _ _ _ _ => trivial
  cases (wp_run consistent fun _ _ => trivial).ok ended with
  | @finalized geometry _ _ checked incomplete finalized =>
      obtain ⟨-, -, -, publication, rfl, rfl, rfl, orders⟩ :=
        finalized.complete manifest rfl
      refine ⟨publication.geometry, ?_, rfl, rfl, ?_⟩
      · rintro _ _ rfl
        obtain ⟨_, equal, given⟩ := modeGeometry_final checked
        cases equal
        exact given
      · refine iff_of_true (fun split => ?_) fun _ complete =>
          absurd incomplete complete
        exact ⟨_, _, publication.planned split,
          (FinalizerEnvironment.intendedOrder_eq_ok.mp
            (publication.intended split)).1, orders split⟩
  | @adopted geometry _ _ checked complete published same reported =>
      obtain ⟨-, publication, -, orders, rfl⟩ :=
        consistent.manifest manifest published
      refine ⟨publication.geometry, ?_, rfl, rfl, ?_⟩
      · rintro _ _ rfl
        obtain ⟨frozen, rfl, rows, steps⟩ := modeGeometry_final checked
        obtain ⟨⟨sameRows, sameSteps⟩, -⟩ := require_then_eq_ok.mp same
        exact ⟨rows.trans sameRows.symm, steps.trans sameSteps.symm⟩
      · have present : root.manifest ≠ none := by
          rw [published]
          nofun
        rw [publication.faithful_iff config fun split => by
          rw [reported.orders, orders]]
        exact ⟨fun agrees _ _ => agrees, fun agrees => agrees present complete⟩

end PackedHandoff

/-! ## A small corpus -/

/-- Two rows of either code domain and one of English. -/
def smallCorpusDirectory (split : Split) (domain : Domain) :
    Directory (List Byte) Unit :=
  ((packDocuments id
    { smallArguments with
      split := split.name, domain := domain.name, rowsPerShard := 2 }
    .default (if domain = .english then [[1, 2]] else [[1, 2, 1, 2]])).run
      ∅).final

/-- The small directories below a root that nobody has finalized. -/
def smallCorpus : CorpusRoot (List Byte) Unit Unit where
  journal := some ⟨⟨2, ()⟩, ()⟩
  packed := fun path =>
    ((Split.all.flatMap fun split => Domain.order.map (Prod.mk split)).find?
      fun cell => (packedPath cell.1 cell.2).path = path).map fun cell =>
        smallCorpusDirectory cell.1 cell.2
  documentIndexes := fun _ _ => some ⟨.int 1, .int 1, ()⟩
  orders := fun _ => none
  staging := fun _ => none
  provenance := fun _ => none
  manifest := none
  sidecar := none
  temporaries := []

/-- An environment whose authorities accept the small corpus. -/
def smallFinalizer : FinalizerEnvironment (List Byte) Unit Unit where
  hash := ⟨smallEnvironment.hash, fun _ => [], fun _ => [], fun _ => [],
    fun _ => []⟩
  shuffles := smallEnvironment.shuffles
  numpyVersion := "2.0.0"
  numpyVersion_ne_empty := smallEnvironment_numpyVersion
  checkJournal := fun _ => pure ()
  checkRestoreReceipt := fun _ _ => pure ()
  readExternal := fun _ => pure ⟨(), [], (), (), [], []⟩
  readArchives := fun _ _ => pure ⟨[⟨"part-000000.tar", [], 1, 2⟩], by simp⟩
  checkPacked := fun _ _ _ _ _ => pure ()
  checkDocumentIndex := fun _ _ _ _ _ _ => pure ()
  provenancePayload := fun _ _ => ()
  splitIsolation := fun _ => ()

/-- Orders of five rows, under a seed. -/
def seededConfig (seed : Nat) : FinalizationConfig where
  orderSeed := seed
  maximumTrainInputTokens := 10
  maximumValidationInputTokens := 10
  maximumTestInputTokens := 10
  expectedOptimizerBatchRows := 5
  worldSize := 1
  maximumTrainInputTokens_pos := by decide
  maximumValidationInputTokens_pos := by decide
  maximumTestInputTokens_pos := by decide
  expectedOptimizerBatchRows_pos := by decide
  worldSize_pos := Nat.one_pos

/-- `run("final", 5, 1)` under a seed. -/
def seededRun (seed : Nat) :
    Finalization (List Byte) Unit Unit (Completion (List Byte) Unit) :=
  smallFinalizer.run (seededConfig seed) (.final 5 1)

/-- The manifest of a call that reports completion. -/
def Completion.manifest? :
    Checked (Completion Digest Json) -> Option (FinalManifest Digest Json)
  | .ok (.complete manifest) => some manifest
  | _ => none

theorem Completion.manifest?_eq_some
    {result : Checked (Completion Digest Json)}
    {manifest : FinalManifest Digest Json} :
    Completion.manifest? result = some manifest ↔
      result = .ok (.complete manifest) := by
  unfold Completion.manifest?
  split <;> simp_all

theorem smallCorpus_authenticates :
    ∃ authority, smallFinalizer.authenticate smallCorpus = .ok authority :=
  exists_of_isOk (by decide +kernel)

/-- The handoff of the small corpus. -/
def smallHandoff
    {authority : Authority (List Byte) Unit Unit}
    (authenticated :
      smallFinalizer.authenticate smallCorpus = .ok authority) :
    PackedHandoff (List Byte) Unit Unit where
  environment := smallFinalizer
  origin := smallCorpus
  authority := authority
  authenticated := authenticated
  orders := fun _ => rfl
  staging := fun _ => rfl
  provenance := fun _ => rfl
  manifest := rfl
  sidecar := rfl

/-- The first call on the small corpus has the orders of its configuration in
place. -/
theorem reuse_faithful_iff_small :
    ∃ (handoff : PackedHandoff (List Byte) Unit Unit)
      (geometry : FrozenGeometry), geometry.globalMicrobatchRows = 5 ∧
      handoff.Faithful (seededConfig 0) geometry
        ((seededRun 0).run smallCorpus).final := by
  obtain ⟨authority, authenticated⟩ := smallCorpus_authenticates
  obtain ⟨manifest, reported⟩ : ∃ manifest,
      Completion.manifest? ((seededRun 0).run smallCorpus).result =
        some manifest := Option.isSome_iff_exists.mp (by decide +kernel)
  obtain ⟨geometry, given, -, -, faithful⟩ :=
    PackedHandoff.reuse_faithful_iff (smallHandoff authenticated) .start
      (Completion.manifest?_eq_some.mp reported)
  have rows := (given 5 1 rfl).1
  exact ⟨_, geometry, by omega, faithful.mpr fun _ complete =>
    absurd rfl complete⟩

/-- A call with another seed reports completion for the orders of the first
seed. -/
theorem other_seed_adopted :
    ¬∀ (handoff : PackedHandoff (List Byte) Unit Unit)
        (root : CorpusRoot (List Byte) Unit Unit),
      handoff.Reaches (fun _ _ => True) root ->
      ∀ config mode manifest,
        ((handoff.environment.run config mode).run root).result =
          .ok (.complete manifest) ->
        ∃ geometry, handoff.Faithful config geometry
          ((handoff.environment.run config mode).run root).final := by
  intro alwaysFaithful
  obtain ⟨authority, authenticated⟩ := smallCorpus_authenticates
  -- the call under the first seed is killed before it removes the journal
  obtain ⟨root, found⟩ : ∃ root, ((seededRun 0).run smallCorpus).visited.find?
      (fun state => state.sidecar.isSome) = some root :=
    Option.isSome_iff_exists.mp (by decide +kernel)
  obtain ⟨manifest, reported⟩ : ∃ manifest,
      Completion.manifest? ((seededRun 1).run root).result =
        some manifest := by
    have both : ((((seededRun 0).run smallCorpus).visited.find?
        fun state => state.sidecar.isSome).bind fun state =>
          Completion.manifest? ((seededRun 1).run state).result).isSome =
            true := by decide +kernel
    rw [found] at both
    exact Option.isSome_iff_exists.mp both
  have ended := Completion.manifest?_eq_some.mp reported
  have reached (called : FinalizationConfig -> FinalizationMode -> Prop)
      (first : called (seededConfig 0) (.final 5 1)) :
      (smallHandoff authenticated).Reaches called root :=
    .restart .start ⟨_, _, first, rfl⟩ (.inr (List.mem_of_find?_eq_some found))
      ⟨rfl, fun _ => Iff.rfl⟩
  have consistent : (smallHandoff authenticated).Consistent
      (fun config _ => config = seededConfig 0) root :=
    (reached (fun config _ => config = seededConfig 0) rfl).consistent
      fun _ _ _ same _ => same
  have sealed := List.find?_some found
  obtain ⟨geometry, faithful⟩ := alwaysFaithful (smallHandoff authenticated)
    root (reached _ trivial) (seededConfig 1) (.final 5 1) manifest ended
  obtain ⟨plan, directory, planned, built, held⟩ := faithful .train
  obtain ⟨document, budget, written, -, seed, -⟩ :=
    OrderPlan.built_records built
  have loose : (smallHandoff authenticated).Consistent (fun _ _ => True)
      root :=
    (reached (fun _ _ => True) trivial).consistent fun _ _ _ _ _ => trivial
  cases (PackedHandoff.wp_run loose fun _ _ => trivial).ok ended with
  | finalized _ incomplete _ =>
      rw [incomplete] at sealed
      cases sealed
  | adopted _ _ _ _ adopted =>
      change ((seededRun 1).run root).final.orders .train = _ at held
      rw [show ((seededRun 1).run root).final.orders = root.orders from
        adopted.orders] at held
      obtain ⟨_, _, plan', order, rfl, planned', intended⟩ :=
        consistent.orders _ _ held
      have accepted := (FinalizerEnvironment.intendedOrder_eq_ok.mp
        intended).2
      cases written.symm.trans accepted.manifest
      have same := accepted.identity.2.2.1
      rw [seed, PyValue.equalsInt_int,
        (Authority.orderPlan_plannedFrom planned).seed_eq,
        (Authority.orderPlan_plannedFrom planned').seed_eq] at same
      cases same

end CodingLlm
