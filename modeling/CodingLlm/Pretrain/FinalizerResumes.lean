import CodingLlm.Pretrain.FinalizerReuse

/-!
# Resumed finalization

Under one configuration and one geometry, every state that kills leave is one
that an uninterrupted call passes through or completes.
-/

namespace CodingLlm

open CrashLogic

variable {Digest Cursor Json : Type}

namespace PackedHandoff

variable [DecidableEq Digest]
variable {handoff : PackedHandoff Digest Cursor Json}
variable {root : CorpusRoot Digest Cursor Json}
variable {config : FinalizationConfig} {mode : FinalizationMode}
variable {globalMicrobatchRows gradientAccumulationSteps : Int}

/-- The calls under one configuration and one geometry. -/
def CallsOf (config : FinalizationConfig)
    (globalMicrobatchRows gradientAccumulationSteps : Int)
    (called : FinalizationConfig) (mode : FinalizationMode) : Prop :=
  called = config ∧ (mode = .heldout ∨
    mode = .final globalMicrobatchRows gradientAccumulationSteps)

/-- The configurations and geometries of these calls. -/
def PlansOf (config : FinalizationConfig)
    (globalMicrobatchRows gradientAccumulationSteps : Int) : Calls :=
  fun called geometry => called = config ∧ (geometry = none ∨
    modeGeometry config
      (.final globalMicrobatchRows gradientAccumulationSteps) = .ok geometry)

theorem plansOf_of_callsOf
    {called : FinalizationConfig} {geometry : Option FrozenGeometry}
    (calls : CallsOf config globalMicrobatchRows gradientAccumulationSteps
      called mode)
    (checked : modeGeometry called mode = .ok geometry) :
    PlansOf config globalMicrobatchRows gradientAccumulationSteps called
      geometry := by
  obtain ⟨rfl, rfl | rfl⟩ := calls
  · cases checked
    exact ⟨rfl, .inl rfl⟩
  · exact ⟨rfl, .inr checked⟩

omit [DecidableEq Digest] in
/-- The train order has one geometry and the others have none. -/
theorem singlePlan_plansOf :
    handoff.SinglePlan (PlansOf config globalMicrobatchRows
      gradientAccumulationSteps) := by
  intro config config' geometry geometry' split plan plan' called called'
    planned planned'
  obtain ⟨rfl, given⟩ := called
  obtain ⟨rfl, given'⟩ := called'
  have same : handoff.authority.orderPlan config' split geometry =
      handoff.authority.orderPlan config' split geometry' := by
    by_cases train : split = .train
    · subst train
      obtain ⟨frozen, rfl⟩ := Authority.orderPlan_train_geometry planned
      obtain ⟨frozen', rfl⟩ := Authority.orderPlan_train_geometry planned'
      obtain impossible | given := given
      · cases impossible
      obtain impossible | given' := given'
      · cases impossible
      cases given.symm.trans given'
      rfl
    · exact Authority.orderPlan_heldout train geometry geometry'
  exact Except.ok.inj (planned.symm.trans (same.trans planned'))

/-- The orders of a publication are the intended ones. -/
theorem Publication.intendedFor
    (publication : handoff.Publication) (split : Split) :
    handoff.intendedFor publication.config split (some publication.geometry) =
      .ok (publication.directory split, publication.order split) := by
  rw [PackedHandoff.intendedFor, publication.planned, checked_ok_bind,
    publication.intended]

/-- A publication is what an uninterrupted call comes to. -/
theorem Publication.outcome
    (publication : handoff.Publication) :
    handoff.outcome publication.config (some publication.geometry) =
      .ok (.complete publication.manifest) := by
  unfold PackedHandoff.outcome
  rw [intendedFor_heldout (by decide) _ none (some publication.geometry),
    publication.intendedFor, checked_ok_bind,
    intendedFor_heldout (by decide) _ none (some publication.geometry),
    publication.intendedFor, checked_ok_bind]
  dsimp only
  rw [publication.intendedFor, checked_ok_bind]
  unfold Publication.manifest
  refine congrArg (fun orders => Except.ok (Completion.complete
    (handoff.environment.finalManifest handoff.authority publication.config
      publication.geometry orders _))) ?_
  funext split
  cases split <;> rfl

/-- Publications of one configuration and geometry have the same orders. -/
theorem Publication.directory_eq
    {first second : handoff.Publication}
    (config : first.config = second.config)
    (geometry : first.geometry = second.geometry) :
    first.directory = second.directory := by
  funext split
  have one := first.intendedFor split
  rw [config, geometry, second.intendedFor] at one
  exact (congrArg Prod.fst (Except.ok.inj one)).symm

section Results

/-- The publication of a complete corpus has the geometry of final mode. -/
theorem Consistent.publication
    {manifest : FinalManifest Digest Json}
    (consistent : handoff.Consistent
      (PlansOf config globalMicrobatchRows gradientAccumulationSteps) root)
    (published : root.manifest = some manifest) :
    ∃ publication : handoff.Publication, publication.config = config ∧
      modeGeometry config
        (.final globalMicrobatchRows gradientAccumulationSteps) =
          .ok (some publication.geometry) ∧
      (∀ split, root.orders split = some (publication.directory split)) ∧
      manifest = publication.manifest := by
  obtain ⟨-, publication, ⟨same, given⟩, orders, equal⟩ :=
    consistent.manifest manifest published
  obtain impossible | given := given
  · cases impossible
  · exact ⟨publication, same, given, orders, equal⟩

variable [DecidableEq Json]

/-- A call on the handoff itself ends as its outcome does. -/
theorem result_origin
    (calls : CallsOf config globalMicrobatchRows gradientAccumulationSteps
      config mode) :
    ((handoff.environment.run config mode).run handoff.origin).result =
      (modeGeometry config mode >>= handoff.outcome config) := by
  have verified := wp_run (handoff.consistent_origin
    (PlansOf config globalMicrobatchRows gradientAccumulationSteps))
    fun geometry => plansOf_of_callsOf calls
  cases ended : ((handoff.environment.run config mode).run
    handoff.origin).result with
  | ok value =>
      cases verified.ok ended with
      | finalized checked _ finalized =>
          rw [checked, checked_ok_bind, finalized.outcome]
      | adopted _ complete => exact absurd handoff.sidecar complete
  | error error =>
      cases (verified.error ended).2 with
      | arguments refused =>
          rw [refused]
          rfl
      | finalizing checked _ refused =>
          rw [checked, checked_ok_bind, refused singlePlan_plansOf]
      | adopting _ published =>
          rw [handoff.manifest] at published
          cases published

/-- A call that raises in a reachable state raises on the handoff. -/
theorem Consistent.raises
    {error : PyError}
    (consistent : handoff.Consistent
      (PlansOf config globalMicrobatchRows gradientAccumulationSteps) root)
    (calls : CallsOf config globalMicrobatchRows gradientAccumulationSteps
      config mode)
    (ended : ((handoff.environment.run config mode).run root).result =
      .error error) :
    ((handoff.environment.run config mode).run handoff.origin).result =
      .error error := by
  rw [result_origin calls]
  cases ((wp_run consistent fun geometry =>
    plansOf_of_callsOf calls).error ended).2 with
  | arguments refused =>
      rw [refused]
      rfl
  | finalizing checked _ refused =>
      rw [checked, checked_ok_bind, refused singlePlan_plansOf]
  | @adopting geometry manifest _ checked published refused =>
      obtain ⟨publication, -, given, -, rfl⟩ :=
        consistent.publication published
      obtain ⟨-, rfl | rfl⟩ := calls
      · cases checked
        cases refused
      · cases given.symm.trans checked
        rw [FinalizerEnvironment.requireSameGeometry,
          require_bind ⟨rfl, rfl⟩] at refused
        cases refused

/-- A final call that returns leaves the manifest and the orders that it would
have left on the handoff. -/
theorem Consistent.returns
    {value : Completion Digest Json}
    (consistent : handoff.Consistent
      (PlansOf config globalMicrobatchRows gradientAccumulationSteps) root)
    (ended : ((handoff.environment.run config (.final globalMicrobatchRows
      gradientAccumulationSteps)).run root).result = .ok value) :
    ∃ publication : handoff.Publication, publication.config = config ∧
      modeGeometry config
        (.final globalMicrobatchRows gradientAccumulationSteps) =
          .ok (some publication.geometry) ∧
      value = .complete publication.manifest ∧
      ((handoff.environment.run config (.final globalMicrobatchRows
        gradientAccumulationSteps)).run root).final.manifest =
          some publication.manifest ∧
      ∀ split, ((handoff.environment.run config (.final globalMicrobatchRows
        gradientAccumulationSteps)).run root).final.orders split =
          some (publication.directory split) := by
  have calls : CallsOf config globalMicrobatchRows gradientAccumulationSteps
      config (.final globalMicrobatchRows gradientAccumulationSteps) :=
    ⟨rfl, .inr rfl⟩
  cases (wp_run consistent fun geometry =>
    plansOf_of_callsOf calls).ok ended with
  | @finalized geometry _ _ checked incomplete finalized =>
      obtain ⟨frozen, rfl, -, -⟩ := modeGeometry_final checked
      have outcome := finalized.outcome
      unfold PackedHandoff.outcome at outcome
      obtain ⟨_, -, outcome⟩ := checked_bind_eq_ok.mp outcome
      obtain ⟨_, -, outcome⟩ := checked_bind_eq_ok.mp outcome
      obtain ⟨_, -, outcome⟩ := checked_bind_eq_ok.mp outcome
      have completes := (checked_pure_eq_ok.mp outcome).symm
      obtain ⟨written, -, -, publication, same, geometry, equal, orders⟩ :=
        finalized.complete _ completes
      cases geometry
      rw [← equal] at completes written
      exact ⟨publication, same, checked, completes, written, orders⟩
  | @adopted geometry manifest _ checked complete published same reported =>
      obtain ⟨publication, sameConfig, given, orders, rfl⟩ :=
        consistent.publication published
      exact ⟨publication, sameConfig, given, rfl, reported.manifest,
        fun split => by rw [reported.orders, orders]⟩

end Results

/-! ## Published last -/

/-- A complete corpus: the manifest has its sidecar, and what it names is
there and complete. -/
structure CompleteCorpus
    (environment : FinalizerEnvironment Digest Cursor Json)
    (root : CorpusRoot Digest Cursor Json)
    (manifest : FinalManifest Digest Json) : Prop where
  published : root.manifest = some manifest
  sidecar : root.sidecar = some (environment.hash.finalManifest manifest)
  orders : ∀ split, ∃ directory document, root.orders split = some directory ∧
    directory.manifest = some document ∧
    environment.hash.orderManifest document = (manifest.orders split).sha256 ∧
    ∃ order, validateTrainingOrder environment.hash.toFileHash root.packed true
      directory = .ok order
  provenance : ∀ file, ∃ payload, root.provenance file = some payload ∧
    environment.hash.provenance payload = manifest.provenance file

/-- Wherever calls under one configuration and geometry are killed, what
packing left is untouched, the journal is missing only from a complete corpus,
a published order is a validated one, no call raises that does not raise on
the handoff, and a final call that returns leaves the manifest and the orders
of an uninterrupted one. -/
theorem publishes_last_and_resumes [DecidableEq Json]
    (handoff : PackedHandoff Digest Cursor Json)
    (config : FinalizationConfig)
    (globalMicrobatchRows gradientAccumulationSteps : Int)
    {root : CorpusRoot Digest Cursor Json}
    (reached : handoff.Reaches (CallsOf config globalMicrobatchRows
      gradientAccumulationSteps) root) :
    (root.packed = handoff.origin.packed ∧
      root.documentIndexes = handoff.origin.documentIndexes ∧
      (root.journal = none ∨ root.journal = handoff.origin.journal)) ∧
    (root.journal = none ->
      ∃ manifest, CompleteCorpus handoff.environment root manifest) ∧
    (∀ split directory, root.orders split = some directory ->
      ∃ order, validateTrainingOrder handoff.environment.hash.toFileHash
        root.packed true directory = .ok order) ∧
    (∀ mode error,
      CallsOf config globalMicrobatchRows gradientAccumulationSteps config
        mode ->
      ((handoff.environment.run config mode).run root).result =
        .error error ->
      ((handoff.environment.run config mode).run handoff.origin).result =
        .error error) ∧
    ∀ value,
      ((handoff.environment.run config (.final globalMicrobatchRows
        gradientAccumulationSteps)).run root).result = .ok value ->
      ∃ manifest, value = .complete manifest ∧
        ((handoff.environment.run config (.final globalMicrobatchRows
          gradientAccumulationSteps)).run handoff.origin).result =
            .ok (.complete manifest) ∧
        ((handoff.environment.run config (.final globalMicrobatchRows
          gradientAccumulationSteps)).run root).final.manifest =
            some manifest ∧
        ((handoff.environment.run config (.final globalMicrobatchRows
          gradientAccumulationSteps)).run handoff.origin).final.manifest =
            some manifest ∧
        ((handoff.environment.run config (.final globalMicrobatchRows
          gradientAccumulationSteps)).run root).final.orders =
          ((handoff.environment.run config (.final globalMicrobatchRows
            gradientAccumulationSteps)).run handoff.origin).final.orders := by
  have consistent : handoff.Consistent (PlansOf config globalMicrobatchRows
      gradientAccumulationSteps) root :=
    reached.consistent fun called mode geometry calls checked =>
      plansOf_of_callsOf calls checked
  have validated {directory : OrderDirectory Digest}
      {order : PublishedOrder Digest} {plan : OrderPlan}
      (same : handoff.intended plan = .ok (directory, order)) :
      ∃ manifest, validateTrainingOrder handoff.environment.hash.toFileHash
        root.packed true directory = .ok manifest := by
    rw [consistent.packed]
    exact (FinalizerEnvironment.intendedOrder_eq_ok.mp same).2.validated
  refine ⟨⟨consistent.packed, consistent.documentIndexes, ?_⟩, ?_, ?_, ?_, ?_⟩
  · exact consistent.journal.symm.imp_left And.left
  · intro missing
    have complete : root.sidecar ≠ none := by
      rcases consistent.journal with present | ⟨-, complete⟩
      · rw [missing, handoff.authentic.journal] at present
        cases present
      · exact complete
    obtain ⟨digest, sealed⟩ := Option.ne_none_iff_exists'.mp complete
    obtain ⟨manifest, published, rfl⟩ := consistent.sidecar digest sealed
    obtain ⟨provenance, publication, -, orders, rfl⟩ :=
      consistent.manifest manifest published
    refine ⟨_, published, sealed, fun split => ?_, fun file => ?_⟩
    · have same := publication.intended split
      have accepted := (FinalizerEnvironment.intendedOrder_eq_ok.mp same).2
      exact ⟨_, _, orders split, accepted.manifest, rfl, validated same⟩
    · exact ⟨_, provenance file, rfl⟩
  · intro split directory found
    obtain ⟨_, _, plan, order, -, -, same⟩ :=
      consistent.orders split directory found
    exact validated same
  · intro mode error calls ended
    exact consistent.raises calls ended
  · intro value ended
    obtain ⟨publication, rfl, checked, rfl, written, orders⟩ :=
      consistent.returns ended
    have uninterrupted : ((handoff.environment.run publication.config
        (.final globalMicrobatchRows gradientAccumulationSteps)).run
          handoff.origin).result = .ok (.complete publication.manifest) := by
      rw [result_origin ⟨rfl, .inr rfl⟩, checked, checked_ok_bind,
        publication.outcome]
    obtain ⟨other, config, checked', equal, written', orders'⟩ :=
      (handoff.consistent_origin (PlansOf publication.config
        globalMicrobatchRows gradientAccumulationSteps)).returns uninterrupted
    have geometry : publication.geometry = other.geometry :=
      Option.some.inj (Except.ok.inj (checked.symm.trans checked'))
    have directories := Publication.directory_eq config.symm geometry
    refine ⟨_, rfl, uninterrupted, written, ?_, ?_⟩
    · rw [written', Completion.complete.inj equal]
    · funext split
      rw [orders, orders', directories]

end PackedHandoff

/-- A final call that was killed while it staged the test order is repeated,
and leaves the orders of an uninterrupted call. -/
theorem publishes_last_and_resumes_staging :
    ∃ root : CorpusRoot (List Words.Byte) Unit Unit,
      (root.staging .test).isSome = true ∧
      ((seededRun 0).run root).final.orders =
        ((seededRun 0).run smallCorpus).final.orders := by
  obtain ⟨authority, authenticated⟩ := smallCorpus_authenticates
  obtain ⟨root, found⟩ : ∃ root, ((seededRun 0).run smallCorpus).visited.find?
      (fun state => (state.staging .test).isSome) = some root :=
    Option.isSome_iff_exists.mp (by decide +kernel)
  obtain ⟨manifest, reported⟩ : ∃ manifest,
      Completion.manifest? ((seededRun 0).run root).result =
        some manifest := by
    have both : ((((seededRun 0).run smallCorpus).visited.find?
        fun state => (state.staging .test).isSome).bind fun state =>
          Completion.manifest? ((seededRun 0).run state).result).isSome =
            true := by decide +kernel
    rw [found] at both
    exact Option.isSome_iff_exists.mp both
  have reached : (smallHandoff authenticated).Reaches
      (PackedHandoff.CallsOf (seededConfig 0) 5 1) root :=
    .restart .start ⟨_, _, ⟨rfl, .inr rfl⟩, rfl⟩
      (.inr (List.mem_of_find?_eq_some found)) ⟨rfl, fun _ => Iff.rfl⟩
  obtain ⟨-, -, -, -, returns⟩ := PackedHandoff.publishes_last_and_resumes
    (smallHandoff authenticated) (seededConfig 0) 5 1 reached
  obtain ⟨_, -, -, -, -, orders⟩ :=
    returns _ (Completion.manifest?_eq_some.mp reported)
  have staged := List.find?_some found
  exact ⟨root, staged, orders⟩

end CodingLlm
