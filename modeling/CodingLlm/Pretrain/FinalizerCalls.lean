import CodingLlm.Pretrain.FinalizerRuns

/-!
# Calls of a finalizer

A whole call from any consistent state: what it reports, what it leaves, and
what it comes to when every call has the same plans.
-/

namespace CodingLlm

open CrashLogic

variable {Digest Cursor Json : Type}

/-- A held-out order is built alike for every geometry. -/
theorem FinalizerEnvironment.buildSplitOrder_heldout [DecidableEq Digest]
    {environment : FinalizerEnvironment Digest Cursor Json}
    {authority : Authority Digest Cursor Json} {split : Split}
    (heldout : split ≠ .train) (config : FinalizationConfig)
    (first second : Option FrozenGeometry) :
    environment.buildSplitOrder authority config split first =
      environment.buildSplitOrder authority config split second := by
  unfold buildSplitOrder
  rw [Authority.orderPlan_heldout heldout first second]

namespace PackedHandoff

variable [DecidableEq Digest]
variable {handoff : PackedHandoff Digest Cursor Json} {calls : Calls}
variable {root : CorpusRoot Digest Cursor Json}
variable {config : FinalizationConfig}

/-! ## Final publication -/

section Publish

variable [DecidableEq Json]

/-- Behind its orders, a publication goes through. -/
theorem wp_publishCorpus
    {fail : PyError -> CorpusRoot Digest Cursor Json -> Prop}
    (consistent : handoff.Consistent calls root)
    (incomplete : root.sidecar = none)
    (publication : handoff.Publication)
    (called : calls publication.config (some publication.geometry))
    (orders : ∀ split,
      root.orders split = some (publication.directory split)) :
    (handoff.environment.publishCorpus handoff.authority publication.config
      publication.geometry publication.order).wp
      (fun value final => value = .complete publication.manifest ∧
        handoff.Reported calls root publication.manifest final)
      fail (handoff.Consistent calls) root := by
  unfold FinalizerEnvironment.publishCorpus
  rw [Program.wp_bind]
  refine (wp_writeProvenance consistent).mono ?_ (fun _ _ => False.elim)
    (fun _ => id)
  rintro _ written ⟨rfl, consistent, grows, provenance⟩
  have stillIncomplete : written.sidecar = none :=
    grows.sidecar.trans incomplete
  have held (split : Split) :
      written.orders split = some (publication.directory split) :=
    grows.orders split _ (orders split)
  have allHeld : written.orders = root.orders := by
    funext split
    rw [held, orders]
  have finishes {last : CorpusRoot Digest Cursor Json}
      (consistent : handoff.Consistent calls last)
      (published : last.manifest = some publication.manifest)
      (complete : last.sidecar ≠ none) (same : last.orders = root.orders) :
      (handoff.environment.validateCompleted
          handoff.authority.journal.identity >>= fun completed =>
        pure (Completion.complete completed)).wp
        (fun value final => value = .complete publication.manifest ∧
          handoff.Reported calls root publication.manifest final)
        fail (handoff.Consistent calls) last := by
    rw [Program.wp_bind]
    refine (wp_validateCompleted consistent published complete).weaken ?_
    rintro _ final ⟨rfl, reported⟩
    rw [Program.wp_pure]
    exact ⟨rfl, { reported with orders := reported.orders.trans same }⟩
  have seals {last : CorpusRoot Digest Cursor Json}
      (consistent : handoff.Consistent calls last)
      (published : last.manifest = some publication.manifest)
      (unsealed : last.sidecar = none) (same : last.orders = root.orders) :
      (ensureArtifact .sidecar CorpusRoot.sidecar
          (handoff.environment.hash.finalManifest publication.manifest)
          (CorpusRoot.setSidecar
            (handoff.environment.hash.finalManifest publication.manifest))
          (portableFinalizationError "Existing corpus sidecar differs")).wp
        (fun _ => (handoff.environment.validateCompleted
            handoff.authority.journal.identity >>= fun completed =>
          pure (Completion.complete completed)).wp
          (fun value final => value = .complete publication.manifest ∧
            handoff.Reported calls root publication.manifest final)
          fail (handoff.Consistent calls))
        fail (handoff.Consistent calls) last := by
    refine wp_ensureArtifact consistent ?_ ?_ ?_
    · intro found present
      rw [unsealed] at present
      cases present
    · intro present
      rw [unsealed] at present
      cases present
    · intro _
      have sealed := consistent.setSidecar published
      exact ⟨sealed, finishes sealed published nofun same⟩
  rw [Program.wp_bind]
  refine wp_ensureArtifact consistent ?_ ?_ ?_
  · intro found present
    obtain ⟨-, other, -, otherOrders, rfl⟩ :=
      consistent.manifest found present
    exact Publication.manifest_eq fun split =>
      Option.some.inj ((otherOrders split).symm.trans (held split))
  · intro present
    rw [Program.wp_bind]
    exact seals consistent present stillIncomplete allHeld
  · intro _
    have published := consistent.setManifest publication called held
      provenance stillIncomplete
    rw [Program.wp_bind]
    exact ⟨published, seals published rfl stillIncomplete allHeld⟩

end Publish

/-! ## What a call comes to -/

/-- What an uninterrupted call on the handoff returns or raises. -/
def outcome (handoff : PackedHandoff Digest Cursor Json)
    (config : FinalizationConfig) (geometry : Option FrozenGeometry) :
    Checked (Completion Digest Json) := do
  let validation ← handoff.intendedFor config .validation none
  let test ← handoff.intendedFor config .test none
  match geometry with
  | none => return .heldoutOrders fun split =>
      if split = .test then test.2 else validation.2
  | some geometry => do
      let train ← handoff.intendedFor config .train (some geometry)
      return .complete (handoff.environment.finalManifest handoff.authority
        config geometry
        (fun
          | .train => train.2
          | .validation => validation.2
          | .test => test.2)
        fun file => handoff.environment.hash.provenance
          (handoff.document file))

/-- What a call on an incomplete corpus has done when it returns. -/
structure Finalized
    (handoff : PackedHandoff Digest Cursor Json) (calls : Calls)
    (config : FinalizationConfig) (geometry : Option FrozenGeometry)
    (value : Completion Digest Json)
    (final : CorpusRoot Digest Cursor Json) : Prop where
  consistent : handoff.Consistent calls final
  outcome : handoff.outcome config geometry = .ok value
  complete : ∀ manifest, value = .complete manifest ->
    final.manifest = some manifest ∧ final.sidecar ≠ none ∧
      final.journal = none ∧
      ∃ publication : handoff.Publication, publication.config = config ∧
        some publication.geometry = geometry ∧
        publication.manifest = manifest ∧
        ∀ split, final.orders split = some (publication.directory split)

/-- A call that raises on an incomplete corpus leaves it consistent, and when
all calls have the same plans it raises on the handoff too. -/
structure FinalizationRefused
    (handoff : PackedHandoff Digest Cursor Json) (calls : Calls)
    (config : FinalizationConfig) (geometry : Option FrozenGeometry)
    (error : PyError) (final : CorpusRoot Digest Cursor Json) : Prop where
  consistent : handoff.Consistent calls final
  outcome : handoff.SinglePlan calls ->
    handoff.outcome config geometry = .error error

/-- A call on an incomplete corpus. -/
theorem wp_finalizeHandoff [DecidableEq Json]
    {geometry : Option FrozenGeometry}
    (consistent : handoff.Consistent calls root)
    (incomplete : root.sidecar = none)
    (called : calls config geometry) :
    (handoff.environment.finalizeHandoff config geometry).wp
      (handoff.Finalized calls config geometry)
      (handoff.FinalizationRefused calls config geometry)
      (handoff.Consistent calls) root := by
  unfold FinalizerEnvironment.finalizeHandoff
  rw [Program.wp_bind,
    Program.wp_inspect_ok (consistent.authenticate_eq incomplete),
    Program.wp_bind]
  rw [FinalizerEnvironment.buildSplitOrder_heldout (by decide) config none
    geometry]
  refine (wp_buildSplitOrder consistent called).mono ?_ ?_ (fun _ => id)
  rotate_left
  · rintro error final ⟨kept, raises⟩
    refine ⟨kept, fun single => ?_⟩
    rw [outcome, intendedFor_heldout (by decide) config none geometry,
      raises single]
    rfl
  intro validation built first
  obtain ⟨validationDirectory, hasValidation, sameValidation⟩ :=
    first.published
  rw [intendedFor_heldout (by decide) config geometry none]
    at sameValidation
  rw [Program.wp_bind,
    FinalizerEnvironment.buildSplitOrder_heldout (by decide) config none
      geometry]
  refine (wp_buildSplitOrder first.consistent called).mono ?_ ?_ (fun _ => id)
  rotate_left
  · rintro error final ⟨kept, raises⟩
    refine ⟨kept, fun single => ?_⟩
    rw [outcome, sameValidation, checked_ok_bind,
      intendedFor_heldout (by decide) config none geometry, raises single]
    rfl
  intro test both second
  obtain ⟨testDirectory, hasTest, sameTest⟩ := second.published
  rw [intendedFor_heldout (by decide) config geometry none] at sameTest
  cases geometry with
  | none =>
      rw [Program.wp_pure]
      refine ⟨second.consistent, ?_, nofun⟩
      rw [outcome, sameValidation, checked_ok_bind, sameTest, checked_ok_bind]
      rfl
  | some geometry =>
      rw [Program.wp_bind]
      refine (wp_buildSplitOrder second.consistent called).mono ?_ ?_
        (fun _ => id)
      · intro train all third
        obtain ⟨trainDirectory, hasTrain, sameTrain⟩ := third.published
        have result : handoff.outcome config (some geometry) =
            .ok (.complete (handoff.environment.finalManifest
              handoff.authority config geometry
              (fun
                | .train => train
                | .validation => validation
                | .test => test)
              fun file => handoff.environment.hash.provenance
                (handoff.document file))) := by
          rw [outcome, sameValidation, checked_ok_bind, sameTest,
            checked_ok_bind]
          dsimp only
          rw [sameTrain, checked_ok_bind]
          rfl
        rw [intendedFor_heldout (by decide) config none (some geometry)]
          at sameValidation sameTest
        obtain ⟨validationPlan, planned, intended⟩ :=
          checked_bind_eq_ok.mp sameValidation
        obtain ⟨testPlan, planned', intended'⟩ :=
          checked_bind_eq_ok.mp sameTest
        obtain ⟨trainPlan, planned'', intended''⟩ :=
          checked_bind_eq_ok.mp sameTrain
        let publication : handoff.Publication := {
          config, geometry
          plan := fun
            | .train => trainPlan
            | .validation => validationPlan
            | .test => testPlan
          directory := fun
            | .train => trainDirectory
            | .validation => validationDirectory
            | .test => testDirectory
          order := fun
            | .train => train
            | .validation => validation
            | .test => test
          planned := fun split => by
            cases split <;> assumption
          intended := fun split => by
            cases split <;> assumption
        }
        have held (split : Split) :
            all.orders split = some (publication.directory split) := by
          cases split with
          | train => exact hasTrain
          | validation =>
              exact third.extends_root.orders _ _
                (second.extends_root.orders _ _ hasValidation)
          | test => exact third.extends_root.orders _ _ hasTest
        have stillIncomplete : all.sidecar = none :=
          third.extends_root.sidecar.trans
            (second.extends_root.sidecar.trans
              (first.extends_root.sidecar.trans incomplete))
        refine (wp_publishCorpus third.consistent stillIncomplete publication
          called held).weaken ?_
        rintro _ final ⟨rfl, reported⟩
        refine ⟨reported.consistent, result, ?_⟩
        rintro _ ⟨⟩
        refine ⟨reported.manifest, reported.sidecar, reported.journal,
          publication, rfl, rfl, rfl, fun split => ?_⟩
        rw [reported.orders]
        exact held split
      · rintro error final ⟨kept, raises⟩
        refine ⟨kept, fun single => ?_⟩
        rw [outcome, sameValidation, checked_ok_bind, sameTest,
          checked_ok_bind]
        dsimp only
        rw [raises single]
        rfl

/-! ## Whole calls -/

section Run

variable {mode : FinalizationMode}

/-- How a call returns: it finalized an incomplete corpus, or it adopted a
complete one. -/
inductive Returns
    (handoff : PackedHandoff Digest Cursor Json) (calls : Calls)
    (root : CorpusRoot Digest Cursor Json) (config : FinalizationConfig)
    (mode : FinalizationMode) :
    Completion Digest Json -> CorpusRoot Digest Cursor Json -> Prop
  | finalized
      {geometry : Option FrozenGeometry} {value : Completion Digest Json}
      {final : CorpusRoot Digest Cursor Json}
      (checked : modeGeometry config mode = .ok geometry)
      (incomplete : root.sidecar = none)
      (finalized : handoff.Finalized calls config geometry value final) :
      Returns handoff calls root config mode value final
  | adopted
      {geometry : Option FrozenGeometry}
      {manifest : FinalManifest Digest Json}
      {final : CorpusRoot Digest Cursor Json}
      (checked : modeGeometry config mode = .ok geometry)
      (complete : root.sidecar ≠ none)
      (published : root.manifest = some manifest)
      (same : FinalizerEnvironment.requireSameGeometry
        manifest.orderConfiguration geometry = .ok ())
      (reported : handoff.Reported calls root manifest final) :
      Returns handoff calls root config mode (.complete manifest) final

/-- How a call raises: over its arguments, over what an incomplete corpus lets
it build, or over the geometry of a complete one. -/
inductive Raises
    (handoff : PackedHandoff Digest Cursor Json) (calls : Calls)
    (root : CorpusRoot Digest Cursor Json) (config : FinalizationConfig)
    (mode : FinalizationMode) : PyError -> Prop
  | arguments {error : PyError}
      (refused : modeGeometry config mode = .error error) :
      Raises handoff calls root config mode error
  | finalizing
      {geometry : Option FrozenGeometry} {error : PyError}
      (checked : modeGeometry config mode = .ok geometry)
      (incomplete : root.sidecar = none)
      (refused : handoff.SinglePlan calls ->
        handoff.outcome config geometry = .error error) :
      Raises handoff calls root config mode error
  | adopting
      {geometry : Option FrozenGeometry}
      {manifest : FinalManifest Digest Json} {error : PyError}
      (checked : modeGeometry config mode = .ok geometry)
      (published : root.manifest = some manifest)
      (refused : FinalizerEnvironment.requireSameGeometry
        manifest.orderConfiguration geometry = .error error) :
      Raises handoff calls root config mode error

/-- A call from any consistent state. -/
theorem wp_run [DecidableEq Json]
    (consistent : handoff.Consistent calls root)
    (called : ∀ geometry, modeGeometry config mode = .ok geometry ->
      calls config geometry) :
    (handoff.environment.run config mode).wp
      (handoff.Returns calls root config mode)
      (fun error final => handoff.Consistent calls final ∧
        handoff.Raises calls root config mode error)
      (handoff.Consistent calls) root := by
  unfold FinalizerEnvironment.run
  rw [Program.wp_bind, Program.wp_lift]
  cases checked : modeGeometry config mode with
  | error error => exact ⟨consistent, .arguments checked⟩
  | ok geometry =>
      have called := called geometry checked
      dsimp only
      rw [Program.wp_bind, Program.wp_query, Program.wp_bind,
        Program.wp_query]
      cases sealed : root.sidecar with
      | none =>
          have finalizes :
              (handoff.environment.finalizeHandoff config geometry).wp
                (handoff.Returns calls root config mode)
                (fun error final => handoff.Consistent calls final ∧
                  handoff.Raises calls root config mode error)
                (handoff.Consistent calls) root := by
            refine (wp_finalizeHandoff consistent sealed called).mono ?_ ?_
              (fun _ => id)
            · intro value final finalized
              exact .finalized checked sealed finalized
            · intro error final refused
              exact ⟨refused.consistent,
                .finalizing checked sealed refused.outcome⟩
          cases root.manifest <;> exact finalizes
      | some digest =>
          have complete : root.sidecar ≠ none := by
            rw [sealed]
            nofun
          obtain ⟨manifest, published, -⟩ := consistent.sidecar digest sealed
          rw [published]
          refine (wp_adoptCompleted consistent published complete).mono ?_ ?_
            (fun _ => id)
          · rintro _ final ⟨rfl, same, reported⟩
            exact .adopted checked complete published same reported
          · rintro error final ⟨kept, refused⟩
            exact ⟨kept, .adopting checked published refused⟩

/-- The states that calls reach, with kills at any point. -/
abbrev Reaches [DecidableEq Json]
    (handoff : PackedHandoff Digest Cursor Json)
    (called : FinalizationConfig -> FinalizationMode -> Prop) :
    CorpusRoot Digest Cursor Json -> Prop :=
  Program.Survives
    (fun program : Finalization Digest Cursor Json (Completion Digest Json) =>
      ∃ config mode, called config mode ∧
        program = handoff.environment.run config mode)
    StagingLost handoff.origin

/-- Every state that calls reach is consistent. -/
theorem Reaches.consistent [DecidableEq Json]
    {called : FinalizationConfig -> FinalizationMode -> Prop}
    (reached : handoff.Reaches called root)
    (admitted : ∀ config mode geometry, called config mode ->
      modeGeometry config mode = .ok geometry -> calls config geometry) :
    handoff.Consistent calls root := by
  refine Program.Survives.invariant (handoff.Consistent calls) reached
    (handoff.consistent_origin calls) ?_ ?_
  · rintro _ before ⟨config, mode, isCalled, rfl⟩ consistent
    exact ⟨_, _, wp_run consistent fun geometry =>
      admitted config mode geometry isCalled⟩
  · intro before left consistent lost
    exact consistent.stagingLost lost

end Run

end PackedHandoff
end CodingLlm
