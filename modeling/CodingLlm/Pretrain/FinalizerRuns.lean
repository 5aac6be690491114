import CodingLlm.Pretrain.FinalizerInvariant

/-!
# Runs of a finalizer

What one call does from any consistent state: it adopts or builds the orders
that its plans intend, publishes what no earlier call has published, and finds
nothing to refuse in what an earlier call left.
-/

namespace CodingLlm

open CrashLogic

variable {Digest Cursor Json : Type}

namespace PackedHandoff

variable [DecidableEq Digest]
variable {handoff : PackedHandoff Digest Cursor Json} {calls : Calls}
variable {root : CorpusRoot Digest Cursor Json}

/-- All calls have the same plan for a split. -/
def SinglePlan (handoff : PackedHandoff Digest Cursor Json) (calls : Calls) :
    Prop :=
  ∀ {config config' : FinalizationConfig}
    {geometry geometry' : Option FrozenGeometry} {split : Split}
    {plan plan' : OrderPlan},
    calls config geometry -> calls config' geometry' ->
    handoff.authority.orderPlan config split geometry = .ok plan ->
    handoff.authority.orderPlan config' split geometry' = .ok plan' ->
    plan = plan'

/-- The order that a configuration intends for a split. -/
def intendedFor (handoff : PackedHandoff Digest Cursor Json)
    (config : FinalizationConfig) (split : Split)
    (geometry : Option FrozenGeometry) :
    Checked (OrderDirectory Digest × PublishedOrder Digest) :=
  handoff.authority.orderPlan config split geometry >>= handoff.intended

/-- A held-out order is intended for every geometry alike. -/
theorem intendedFor_heldout {split : Split} (heldout : split ≠ .train)
    (config : FinalizationConfig) (first second : Option FrozenGeometry) :
    handoff.intendedFor config split first =
      handoff.intendedFor config split second := by
  unfold intendedFor
  rw [Authority.orderPlan_heldout heldout first second]

/-! ## One order -/

section Order

variable {config : FinalizationConfig} {geometry : Option FrozenGeometry}
variable {split : Split} {plan : OrderPlan}

/-- After its order is built a split has the order that the plan intends. -/
structure Ordered
    (handoff : PackedHandoff Digest Cursor Json) (calls : Calls)
    (root : CorpusRoot Digest Cursor Json) (plan : OrderPlan)
    (order : PublishedOrder Digest) (final : CorpusRoot Digest Cursor Json) :
    Prop where
  consistent : handoff.Consistent calls final
  extends_root : Extends root final
  published : ∃ directory, final.orders plan.split = some directory ∧
    handoff.intended plan = .ok (directory, order)

/-- A build that raises leaves a consistent state, and a single plan raises
what its order raises. -/
structure Refused
    (handoff : PackedHandoff Digest Cursor Json) (calls : Calls)
    (plan : OrderPlan) (error : PyError)
    (final : CorpusRoot Digest Cursor Json) : Prop where
  consistent : handoff.Consistent calls final
  raises : handoff.SinglePlan calls -> handoff.intended plan = .error error

/-- The staged order is built, checked and renamed. -/
theorem wp_stageOrder
    (consistent : handoff.Consistent calls root)
    (called : calls config geometry)
    (planned : handoff.authority.orderPlan config plan.split geometry =
      .ok plan)
    (absent : root.orders plan.split = none) :
    (handoff.environment.stageOrder plan).wp
      (handoff.Ordered calls root plan) (handoff.Refused calls plan)
      (handoff.Consistent calls) root := by
  have staged (directory : Option (OrderDirectory Digest)) :
      handoff.Consistent calls (root.setStaging plan.split directory) :=
    consistent.setStaging absent directory
  have again (first second : Option (OrderDirectory Digest)) :
      (root.setStaging plan.split first).setStaging plan.split second =
        root.setStaging plan.split second := by
    simp only [CorpusRoot.setStaging, Function.update_idem]
  unfold FinalizerEnvironment.stageOrder
  simp only [Program.wp_bind, Program.wp_query, Program.wp_commit,
    Program.wp_lift, again]
  refine ⟨staged _, ?_⟩
  rw [consistent.packed]
  cases built : asFinalizationError "Cannot build order"
    (buildTrainingOrder (handoff.environment.orderEnvironment
      handoff.origin.packed) plan.arguments .empty) with
  | error error =>
      refine ⟨staged _, fun _ => ?_⟩
      rw [intended, FinalizerEnvironment.intendedOrder, built]
      rfl
  | ok directory =>
      refine ⟨staged _, staged _, staged _, staged _, ?_⟩
      cases checked : handoff.environment.validateStagedOrder
        handoff.origin.packed plan directory with
      | error error =>
          refine ⟨staged _, fun _ => ?_⟩
          rw [intended, FinalizerEnvironment.intendedOrder, built,
            checked_ok_bind, checked]
          rfl
      | ok order =>
          have same : handoff.intended plan = .ok (directory, order) := by
            rw [intended, FinalizerEnvironment.intendedOrder, built,
              checked_ok_bind, checked]
            rfl
          have intends : handoff.Intends calls plan.split directory :=
            ⟨config, geometry, plan, order, called, planned, same⟩
          have published := (staged (some directory)).publishOrder absent
            intends
          have grows : Extends root
              ((root.setStaging plan.split (some directory)).publishOrder
                plan.split directory) :=
            ⟨rfl, rfl, rfl, (extends_publishOrder absent).orders⟩
          refine ⟨published, ?_⟩
          rw [Program.wp_pure]
          exact ⟨published, grows, directory, Function.update_self _ _ _,
            same⟩

/-- A stale staging directory is removed first. -/
theorem wp_removeStaging
    {post : Unit -> CorpusRoot Digest Cursor Json -> Prop}
    {fail : PyError -> CorpusRoot Digest Cursor Json -> Prop}
    (consistent : handoff.Consistent calls root)
    (absent : root.orders split = none) (directory : OrderDirectory Digest)
    (after : post () (root.setStaging split none)) :
    (removeStaging split directory).wp post fail (handoff.Consistent calls)
      root := by
  have staged (directory : Option (OrderDirectory Digest)) :
      handoff.Consistent calls (root.setStaging split directory) :=
    consistent.setStaging absent directory
  have again (first second : Option (OrderDirectory Digest)) :
      (root.setStaging split first).setStaging split second =
        root.setStaging split second := by
    simp only [CorpusRoot.setStaging, Function.update_idem]
  unfold removeStaging
  simp only [Program.wp_bind, Program.wp_commit, again]
  exact ⟨staged _, staged _, staged _, staged _, after⟩

/-- An order is built or adopted as its plan intends. -/
theorem wp_buildOrder
    (consistent : handoff.Consistent calls root)
    (called : calls config geometry)
    (planned : handoff.authority.orderPlan config plan.split geometry =
      .ok plan) :
    (handoff.environment.buildOrder plan).wp
      (handoff.Ordered calls root plan) (handoff.Refused calls plan)
      (handoff.Consistent calls) root := by
  unfold FinalizerEnvironment.buildOrder
  simp only [Program.wp_bind, Program.wp_query]
  cases final : root.orders plan.split with
  | none =>
      cases staging : root.staging plan.split with
      | none => exact wp_stageOrder consistent called planned final
      | some directory =>
          rw [Program.wp_bind]
          refine wp_removeStaging consistent final directory ?_
          refine (wp_stageOrder (consistent.setStaging final none) called
            planned final).weaken ?_
          intro order last ordered
          exact ⟨ordered.consistent,
            ⟨ordered.extends_root.journal, ordered.extends_root.manifest,
              ordered.extends_root.sidecar, ordered.extends_root.orders⟩,
            ordered.published⟩
  | some directory =>
      have noStaging : root.staging plan.split = none :=
        consistent.staging _ (by rw [final]; exact Option.some_ne_none _)
      obtain ⟨config', geometry', plan', order', called', planned', same⟩ :=
        consistent.orders _ _ final
      have accepted' := (FinalizerEnvironment.intendedOrder_eq_ok.mp same).2
      rw [noStaging]
      simp only [Program.wp_bind, Program.wp_query, Program.wp_lift,
        consistent.packed]
      cases checked : handoff.environment.validateOrder
        handoff.origin.packed plan directory with
      | ok order =>
          have accepted := FinalizerEnvironment.validateOrder_eq_ok.mp checked
          obtain ⟨samePlan, sameOrder⟩ := accepted.unique accepted'
          subst samePlan sameOrder
          exact ⟨consistent, .refl root, directory, final, same⟩
      | error error =>
          refine ⟨consistent, fun single => ?_⟩
          have samePlan := single called called' planned planned'
          subst samePlan
          rw [FinalizerEnvironment.validateOrder_eq_ok.mpr accepted']
            at checked
          cases checked

/-- After `_build_order` a split has the order that is intended for it. -/
structure SplitOrdered
    (handoff : PackedHandoff Digest Cursor Json) (calls : Calls)
    (root : CorpusRoot Digest Cursor Json) (config : FinalizationConfig)
    (split : Split) (geometry : Option FrozenGeometry)
    (order : PublishedOrder Digest) (final : CorpusRoot Digest Cursor Json) :
    Prop where
  consistent : handoff.Consistent calls final
  extends_root : Extends root final
  published : ∃ directory, final.orders split = some directory ∧
    handoff.intendedFor config split geometry = .ok (directory, order)

/-- `_build_order` of a split. -/
theorem wp_buildSplitOrder
    (consistent : handoff.Consistent calls root)
    (called : calls config geometry) :
    (handoff.environment.buildSplitOrder handoff.authority config split
      geometry).wp
      (handoff.SplitOrdered calls root config split geometry)
      (fun error final => handoff.Consistent calls final ∧
        (handoff.SinglePlan calls ->
          handoff.intendedFor config split geometry = .error error))
      (handoff.Consistent calls) root := by
  unfold FinalizerEnvironment.buildSplitOrder intendedFor
  simp only [Program.wp_bind, Program.wp_lift]
  cases planned : handoff.authority.orderPlan config split geometry with
  | error error => exact ⟨consistent, fun _ => rfl⟩
  | ok plan =>
      have splitEq := (Authority.orderPlan_plannedFrom planned).split_eq
      refine (wp_buildOrder consistent called
        (by rw [splitEq]; exact planned)).mono ?_ ?_ (fun _ => id)
      · intro order final ordered
        obtain ⟨directory, published, same⟩ := ordered.published
        refine ⟨ordered.consistent, ordered.extends_root, directory,
          splitEq ▸ published, ?_⟩
        rw [intendedFor, planned, checked_ok_bind, same]
      · intro error final refused
        exact ⟨refused.consistent, refused.raises⟩

end Order

/-! ## Publication -/

section Publication

omit [DecidableEq Digest] in
@[simp] theorem removeTemporary_addTemporary (artifact : Artifact) :
    (root.addTemporary artifact).removeTemporary artifact = root := by
  simp [CorpusRoot.addTemporary, CorpusRoot.removeTemporary]

/-- An artifact is adopted or published. -/
theorem wp_ensureArtifact [DecidableEq α]
    {artifact : Artifact} {value : α} {error : PyError}
    {read : CorpusRoot Digest Cursor Json -> Option α}
    {write : CorpusRoot Digest Cursor Json -> CorpusRoot Digest Cursor Json}
    {post : Unit -> CorpusRoot Digest Cursor Json -> Prop}
    {fail : PyError -> CorpusRoot Digest Cursor Json -> Prop}
    (consistent : handoff.Consistent calls root)
    (agrees : ∀ found, read root = some found -> found = value)
    (adopted : read root = some value -> post () root)
    (published : read root = none ->
      handoff.Consistent calls (write root) ∧ post () (write root)) :
    (ensureArtifact artifact read value write error).wp post fail
      (handoff.Consistent calls) root := by
  unfold ensureArtifact
  simp only [Program.wp_bind, Program.wp_query]
  cases existing : read root with
  | some found =>
      have same := agrees found existing
      subst same
      simp only [Program.wp_bind, require_eq_ok, Program.wp_lift_ok,
        Program.wp_pure]
      exact adopted existing
  | none =>
      simp only [atomicBytes, Program.wp_bind, Program.wp_commit,
        removeTemporary_addTemporary]
      exact ⟨consistent.temporaries _, published existing⟩

/-- Every provenance file is there in the end. -/
theorem wp_writeProvenance [DecidableEq Json]
    (consistent : handoff.Consistent calls root) :
    (handoff.environment.writeProvenance handoff.authority).wp
      (fun digests final =>
        (digests = fun file =>
          handoff.environment.hash.provenance (handoff.document file)) ∧
        handoff.Consistent calls final ∧ Extends root final ∧
        ∀ file, final.provenance file = some (handoff.document file))
      (fun _ _ => False) (handoff.Consistent calls) root := by
  unfold FinalizerEnvironment.writeProvenance
  rw [Program.wp_bind]
  -- a file that is not among those still to come has its document
  refine (Program.wp_forEach (fun rest current =>
    handoff.Consistent calls current ∧ Extends root current ∧
      ∀ file, file ∉ rest ->
        current.provenance file = some (handoff.document file))
    ⟨consistent, .refl root, fun file missing =>
      absurd (ProvenanceFile.mem_sorted file) missing⟩ ?_).weaken ?_
  · rintro file rest current - ⟨consistent, grows, written⟩
    refine wp_ensureArtifact consistent
      (fun found present => consistent.provenance file found present) ?_ ?_
    · intro present
      refine ⟨consistent, grows, fun other missing => ?_⟩
      by_cases same : other = file
      · exact same ▸ present
      · exact written other (by simp [same, missing])
    · intro absent
      refine ⟨consistent.setProvenance file, consistent.setProvenance file,
        ⟨grows.journal, grows.manifest, grows.sidecar, grows.orders⟩,
        fun other missing => ?_⟩
      by_cases same : other = file
      · subst same
        exact Function.update_self _ _ _
      · exact (Function.update_of_ne same _ _).trans
          (written other (by simp [same, missing]))
  · rintro - final ⟨consistent, grows, written⟩
    rw [Program.wp_pure]
    exact ⟨rfl, consistent, grows, fun file => written file (by simp)⟩

/-- Two publications of the same directories have the same manifest. -/
theorem Publication.manifest_eq
    {first second : handoff.Publication}
    (same : ∀ split, first.directory split = second.directory split) :
    first.manifest = second.manifest := by
  have unique (split : Split) : first.plan split = second.plan split ∧
      first.order split = second.order split := by
    have one := first.intended split
    have two := second.intended split
    rw [same split] at one
    exact (FinalizerEnvironment.intendedOrder_eq_ok.mp one).2.unique
      (FinalizerEnvironment.intendedOrder_eq_ok.mp two).2
  have orders : first.order = second.order :=
    funext fun split => (unique split).2
  have one := Authority.orderPlan_plannedFrom (first.planned .train)
  have two := Authority.orderPlan_plannedFrom (second.planned .train)
  have seed : first.config.orderSeed = second.config.orderSeed := by
    have seeds := one.seed_eq.symm.trans
      ((congrArg OrderPlan.seed (unique .train).1).trans two.seed_eq)
    omega
  have geometry : first.geometry = second.geometry :=
    Option.some.inj (one.geometry_eq.symm.trans
      ((congrArg OrderPlan.geometry (unique .train).1).trans two.geometry_eq))
  unfold manifest FinalizerEnvironment.finalManifest
    FinalizerEnvironment.orderConfiguration
  rw [orders, geometry, seed]

/-! ## The completed corpus -/

section Completed

variable [DecidableEq Json] {manifest : FinalManifest Digest Json}

/-- Whatever is complete passes the checks of a completed corpus. -/
theorem Consistent.checkCompleted
    (consistent : handoff.Consistent calls root)
    (published : root.manifest = some manifest)
    (complete : root.sidecar ≠ none) :
    handoff.environment.checkCompleted handoff.authority.journal.identity
      root = .ok manifest := by
  obtain ⟨provenance, publication, -, orders, rfl⟩ :=
    consistent.manifest _ published
  obtain ⟨digest, sealed⟩ := Option.ne_none_iff_exists'.mp complete
  obtain ⟨_, same, rfl⟩ := consistent.sidecar _ sealed
  cases published.symm.trans same
  have authentic := handoff.authentic
  have packed (split : Split) (domain : Domain) :
      handoff.environment.checkPackedDescriptor root
        (publication.manifest.packed split domain) split domain =
          .ok () := by
    unfold FinalizerEnvironment.checkPackedDescriptor
    rw [show publication.manifest.packed split domain =
      handoff.environment.packedDescriptor
        (handoff.authority.packed split domain)
        (handoff.authority.documentIndexes split domain) from rfl]
    unfold FinalizerEnvironment.packedDescriptor
    rw [consistent.packed, authentic.opens split domain, requireObject_some,
      checked_ok_bind, authentic.reads, checked_ok_bind, require_bind rfl,
      authentic.parses, checked_ok_bind, require_bind ⟨rfl, rfl, rfl⟩,
      consistent.documentIndexes, authentic.documentIndexes,
      requireObject_some, checked_ok_bind, require_bind rfl]
    rfl
  have ordered (split : Split) :
      handoff.environment.checkOrderDescriptor root
        (publication.manifest.orders split) split = .ok () := by
    have accepted := (FinalizerEnvironment.intendedOrder_eq_ok.mp
      (publication.intended split)).2
    obtain ⟨validated, passes⟩ := accepted.validated
    unfold FinalizerEnvironment.checkOrderDescriptor
    rw [show publication.manifest.orders split =
      handoff.environment.orderDescriptor (publication.order split) from rfl]
    unfold FinalizerEnvironment.orderDescriptor
    rw [orders split, requireObject_some, checked_ok_bind, accepted.manifest,
      requireObject_some, checked_ok_bind, require_bind rfl,
      consistent.packed, passes]
    rfl
  have proved (file : ProvenanceFile) :
      handoff.environment.checkProvenance root publication.manifest file =
        .ok () := by
    unfold FinalizerEnvironment.checkProvenance
    rw [show publication.manifest.provenance file =
      handoff.environment.hash.provenance (handoff.document file) from rfl,
      provenance file, requireObject_some, checked_ok_bind, require_bind rfl]
    rfl
  have splits : (forSplits fun split => do
      let _ ← forDomains fun domain =>
        handoff.environment.checkPackedDescriptor root
          (publication.manifest.packed split domain) split domain
      handoff.environment.checkOrderDescriptor root
        (publication.manifest.orders split) split) = .ok fun _ => () :=
    forSplits_eq_ok.mpr fun split => checked_bind_eq_ok.mpr
      ⟨_, forDomains_eq_ok.mpr (packed split), ordered split⟩
  have identity : publication.manifest.identity =
      handoff.authority.journal.identity := rfl
  unfold FinalizerEnvironment.checkCompleted
  rw [published, requireObject_some, checked_ok_bind, require_bind sealed,
    require_bind identity, splits, checked_ok_bind]
  simp only [ProvenanceFile.sorted, List.forM, proved, checked_ok_bind]
  rfl

/-- What a call leaves that reports completion. -/
structure Reported
    (handoff : PackedHandoff Digest Cursor Json) (calls : Calls)
    (root : CorpusRoot Digest Cursor Json)
    (manifest : FinalManifest Digest Json)
    (final : CorpusRoot Digest Cursor Json) : Prop where
  consistent : handoff.Consistent calls final
  manifest : final.manifest = some manifest
  sidecar : final.sidecar ≠ none
  orders : final.orders = root.orders
  journal : final.journal = none

/-- `_validate_completed` refuses nothing and removes the journal. -/
theorem wp_validateCompleted
    {fail : PyError -> CorpusRoot Digest Cursor Json -> Prop}
    (consistent : handoff.Consistent calls root)
    (published : root.manifest = some manifest)
    (complete : root.sidecar ≠ none) :
    (handoff.environment.validateCompleted
      handoff.authority.journal.identity).wp
      (fun found final => found = manifest ∧
        handoff.Reported calls root manifest final)
      fail (handoff.Consistent calls) root := by
  unfold FinalizerEnvironment.validateCompleted
  rw [Program.wp_bind,
    Program.wp_inspect_ok (consistent.checkCompleted published complete),
    Program.wp_bind, Program.wp_query]
  cases journal : root.journal with
  | none =>
      rw [Program.wp_pure]
      exact ⟨rfl, consistent, published, complete, rfl, journal⟩
  | some _ =>
      have removed := consistent.removeJournal complete
      dsimp only
      rw [Program.wp_bind, Program.wp_commit, Program.wp_pure]
      exact ⟨removed, rfl, removed, published, complete, rfl, rfl⟩

/-- A completed corpus is adopted unless its geometry is another one. -/
theorem wp_adoptCompleted
    {geometry : Option FrozenGeometry}
    (consistent : handoff.Consistent calls root)
    (published : root.manifest = some manifest)
    (complete : root.sidecar ≠ none) :
    (handoff.environment.adoptCompleted geometry manifest).wp
      (fun value final => value = .complete manifest ∧
        FinalizerEnvironment.requireSameGeometry manifest.orderConfiguration
          geometry = .ok () ∧
        handoff.Reported calls root manifest final)
      (fun error final => handoff.Consistent calls final ∧
        FinalizerEnvironment.requireSameGeometry manifest.orderConfiguration
          geometry = .error error)
      (handoff.Consistent calls) root := by
  obtain ⟨provenance, publication, -, -, rfl⟩ :=
    consistent.manifest _ published
  have archives : handoff.environment.checkCompletedArchives
      publication.manifest root = .ok () := by
    unfold FinalizerEnvironment.checkCompletedArchives
    rw [show publication.manifest.provenance .source =
      handoff.environment.hash.provenance (handoff.document .source) from rfl,
      provenance .source, requireObject_some, checked_ok_bind,
      require_bind rfl]
    change (requireObject (some handoff.authority.archives) _ >>= _) = _
    rw [requireObject_some, checked_ok_bind,
      require_bind handoff.authority.archives_ne_nil]
    rfl
  unfold FinalizerEnvironment.adoptCompleted
  rw [Program.wp_bind, Program.wp_lift]
  cases same : FinalizerEnvironment.requireSameGeometry
    publication.manifest.orderConfiguration geometry with
  | error error => exact ⟨consistent, rfl⟩
  | ok =>
      dsimp only
      rw [Program.wp_bind,
        show publication.manifest.identity =
          handoff.authority.journal.identity from rfl,
        handoff.authentic.external, Program.wp_lift_ok, Program.wp_bind,
        Program.wp_inspect_ok archives, Program.wp_bind]
      refine (wp_validateCompleted consistent published complete).weaken ?_
      rintro _ final ⟨rfl, reported⟩
      rw [Program.wp_pure]
      exact ⟨rfl, rfl, reported⟩

end Completed
end Publication

end PackedHandoff
end CodingLlm
