import CodingLlm.Pretrain.FinalizedOrders

/-!
# What finalizers keep

In every state that finalizers reach, a published order is one that some call
intended, published documents are the ones of the handoff, and the journal is
gone only behind the sidecar.
-/

namespace CodingLlm

open CrashLogic

variable {Digest Cursor Json : Type}

/-! ## Handoffs -/

namespace FinalizerEnvironment

variable {environment : FinalizerEnvironment Digest Cursor Json}
variable {root : CorpusRoot Digest Cursor Json}
variable {authority : Authority Digest Cursor Json}

/-- What authenticating a corpus root establishes. -/
structure Authentic
    (environment : FinalizerEnvironment Digest Cursor Json)
    (root : CorpusRoot Digest Cursor Json)
    (authority : Authority Digest Cursor Json) : Prop where
  journal : root.journal = some authority.journal
  external : environment.readExternal authority.journal.identity =
    .ok authority.external
  opens : ∀ split domain, root.packed (packedPath split domain).path =
    some (authority.packed split domain).directory
  reads : ∀ split domain,
    readManifest (authority.packed split domain).directory =
      .ok (authority.packed split domain).document
  parses : ∀ split domain,
    parsePackedManifest (authority.packed split domain).document =
      .ok (authority.packed split domain).manifest
  documentIndexes : ∀ split domain, root.documentIndexes split domain =
    some (authority.documentIndexes split domain)

theorem authentic_of_authenticate
    (authenticated : environment.authenticate root = .ok authority) :
    environment.Authentic root authority := by
  simp only [authenticate, checked_bind_eq_ok, requireObject_eq_ok,
    forSplits_eq_ok, forDomains_eq_ok, readPacked, readDocumentIndex,
    asFinalizationError_eq_ok, checked_pure_eq_ok] at authenticated
  obtain ⟨journal, present, _, -, _, -, external, readsExternal, archives, -,
    packed, readsPacked, indexes, readsIndexes, rfl⟩ := authenticated
  constructor
  · exact present
  · exact readsExternal
  all_goals
    intro split domain
    obtain ⟨_, ⟨directory, opens, document, reads, manifest, parses, rfl⟩, _,
      -, same⟩ := readsPacked split domain
    obtain ⟨index, found, _, -, sameIndex⟩ := readsIndexes split domain
    simp only [← same, ← sameIndex]
    assumption

/-- Authentication reads nothing that a finalizer publishes. -/
theorem authenticate_congr
    {root' : CorpusRoot Digest Cursor Json}
    (journal : root'.journal = root.journal)
    (packed : root'.packed = root.packed)
    (documentIndexes : root'.documentIndexes = root.documentIndexes) :
    environment.authenticate root' = environment.authenticate root := by
  simp only [authenticate, readPacked, readDocumentIndex, journal, packed,
    documentIndexes]

end FinalizerEnvironment

/-- A packed corpus that `authenticate` accepts and no finalizer has touched. -/
structure PackedHandoff (Digest Cursor Json : Type) where
  environment : FinalizerEnvironment Digest Cursor Json
  origin : CorpusRoot Digest Cursor Json
  authority : Authority Digest Cursor Json
  authenticated : environment.authenticate origin = .ok authority
  orders : ∀ split, origin.orders split = none
  staging : ∀ split, origin.staging split = none
  provenance : ∀ file, origin.provenance file = none
  manifest : origin.manifest = none
  sidecar : origin.sidecar = none

namespace PackedHandoff

variable [DecidableEq Digest]
variable {handoff : PackedHandoff Digest Cursor Json}

omit [DecidableEq Digest] in
theorem authentic (handoff : PackedHandoff Digest Cursor Json) :
    handoff.environment.Authentic handoff.origin handoff.authority :=
  FinalizerEnvironment.authentic_of_authenticate handoff.authenticated

/-- The order that a plan intends in a handoff. -/
abbrev intended (handoff : PackedHandoff Digest Cursor Json)
    (plan : OrderPlan) :
    Checked (OrderDirectory Digest × PublishedOrder Digest) :=
  handoff.environment.intendedOrder handoff.origin.packed plan

/-- The provenance document that every call writes to a file. -/
abbrev document (handoff : PackedHandoff Digest Cursor Json)
    (file : ProvenanceFile) : ProvenancePayload Digest Json :=
  handoff.environment.provenanceDocument handoff.authority file

/-- The three orders that one configuration and geometry intend. -/
structure Publication (handoff : PackedHandoff Digest Cursor Json) where
  config : FinalizationConfig
  geometry : FrozenGeometry
  plan : Split -> OrderPlan
  directory : Split -> OrderDirectory Digest
  order : Split -> PublishedOrder Digest
  planned : ∀ split, handoff.authority.orderPlan config split
    (some geometry) = .ok (plan split)
  intended : ∀ split, handoff.intended (plan split) =
    .ok (directory split, order split)

/-- The manifest of a publication. -/
def Publication.manifest (publication : handoff.Publication) :
    FinalManifest Digest Json :=
  handoff.environment.finalManifest handoff.authority publication.config
    publication.geometry publication.order fun file =>
      handoff.environment.hash.provenance (handoff.document file)

/-- The configurations and geometries of the calls that may have run. -/
abbrev Calls : Type := FinalizationConfig -> Option FrozenGeometry -> Prop

/-- A directory is the order that some call intends for a split. -/
def Intends (handoff : PackedHandoff Digest Cursor Json) (calls : Calls)
    (split : Split) (directory : OrderDirectory Digest) : Prop :=
  ∃ config geometry plan order, calls config geometry ∧
    handoff.authority.orderPlan config split geometry = .ok plan ∧
    handoff.intended plan = .ok (directory, order)

/-- The invariant of every state that finalizers reach from a handoff. -/
structure Consistent (handoff : PackedHandoff Digest Cursor Json)
    (calls : Calls) (root : CorpusRoot Digest Cursor Json) : Prop where
  packed : root.packed = handoff.origin.packed
  documentIndexes : root.documentIndexes = handoff.origin.documentIndexes
  journal : root.journal = handoff.origin.journal ∨
    root.journal = none ∧ root.sidecar ≠ none
  orders : ∀ split directory, root.orders split = some directory ->
    handoff.Intends calls split directory
  staging : ∀ split, root.orders split ≠ none -> root.staging split = none
  provenance : ∀ file payload, root.provenance file = some payload ->
    payload = handoff.document file
  manifest : ∀ manifest, root.manifest = some manifest ->
    (∀ file, root.provenance file = some (handoff.document file)) ∧
      ∃ publication : handoff.Publication,
        calls publication.config (some publication.geometry) ∧
        (∀ split, root.orders split = some (publication.directory split)) ∧
        manifest = publication.manifest
  sidecar : ∀ digest, root.sidecar = some digest ->
    ∃ manifest, root.manifest = some manifest ∧
      digest = handoff.environment.hash.finalManifest manifest

/-- What only grows while a corpus is being finalized. -/
structure Extends (root final : CorpusRoot Digest Cursor Json) : Prop where
  journal : final.journal = root.journal
  manifest : final.manifest = root.manifest
  sidecar : final.sidecar = root.sidecar
  orders : ∀ split directory, root.orders split = some directory ->
    final.orders split = some directory

variable {calls : Calls} {root : CorpusRoot Digest Cursor Json}

omit [DecidableEq Digest] in
theorem Extends.refl (root : CorpusRoot Digest Cursor Json) :
    Extends root root :=
  ⟨rfl, rfl, rfl, fun _ _ => id⟩

/-- A handoff starts out consistent. -/
theorem consistent_origin (handoff : PackedHandoff Digest Cursor Json)
    (calls : Calls) : handoff.Consistent calls handoff.origin where
  packed := rfl
  documentIndexes := rfl
  journal := .inl rfl
  orders := fun split directory found => by
    rw [handoff.orders] at found
    cases found
  staging := fun split _ => handoff.staging split
  provenance := fun file payload found => by
    rw [handoff.provenance] at found
    cases found
  manifest := fun manifest found => by
    rw [handoff.manifest] at found
    cases found
  sidecar := fun digest found => by
    rw [handoff.sidecar] at found
    cases found

/-- An incomplete corpus still has its journal. -/
theorem Consistent.journal_present
    (consistent : handoff.Consistent calls root)
    (incomplete : root.sidecar = none) :
    root.journal = handoff.origin.journal := by
  rcases consistent.journal with present | ⟨-, complete⟩
  · exact present
  · exact absurd incomplete complete

/-- Every incomplete corpus authenticates as the handoff did. -/
theorem Consistent.authenticate_eq
    (consistent : handoff.Consistent calls root)
    (incomplete : root.sidecar = none) :
    handoff.environment.authenticate root = .ok handoff.authority := by
  rw [FinalizerEnvironment.authenticate_congr
    (consistent.journal_present incomplete) consistent.packed
    consistent.documentIndexes]
  exact handoff.authenticated

/-! ## Effects -/

section Effects

variable {split : Split}

/-- A staging directory of an order that does not exist may hold anything. -/
theorem Consistent.setStaging
    (consistent : handoff.Consistent calls root)
    (absent : root.orders split = none)
    (directory : Option (OrderDirectory Digest)) :
    handoff.Consistent calls (root.setStaging split directory) where
  packed := consistent.packed
  documentIndexes := consistent.documentIndexes
  journal := consistent.journal
  orders := consistent.orders
  staging := fun other present => by
    have different : other ≠ split := fun same => present (same ▸ absent)
    exact (Function.update_of_ne different _ _).trans
      (consistent.staging other present)
  provenance := consistent.provenance
  manifest := consistent.manifest
  sidecar := consistent.sidecar

/-- An order that a call intends may be published. -/
theorem Consistent.publishOrder
    {directory : OrderDirectory Digest}
    (consistent : handoff.Consistent calls root)
    (absent : root.orders split = none)
    (intends : handoff.Intends calls split directory) :
    handoff.Consistent calls (root.publishOrder split directory) where
  packed := consistent.packed
  documentIndexes := consistent.documentIndexes
  journal := consistent.journal
  orders := fun other found held => by
    by_cases same : other = split
    · subst same
      rw [show (root.publishOrder other directory).orders other =
        some directory from Function.update_self _ _ _] at held
      cases held
      exact intends
    · exact consistent.orders other found
        ((Function.update_of_ne same _ _).symm.trans held)
  staging := fun other present => by
    by_cases same : other = split
    · subst same
      exact Function.update_self _ _ _
    · refine (Function.update_of_ne same _ _).trans
        (consistent.staging other fun missing => present ?_)
      exact (Function.update_of_ne same _ _).trans missing
  provenance := consistent.provenance
  manifest := fun manifest found => by
    obtain ⟨-, publication, -, complete, -⟩ := consistent.manifest _ found
    rw [complete split] at absent
    cases absent
  sidecar := consistent.sidecar

omit [DecidableEq Digest] in
theorem extends_publishOrder
    {directory : OrderDirectory Digest} (absent : root.orders split = none) :
    Extends root (root.publishOrder split directory) where
  journal := rfl
  manifest := rfl
  sidecar := rfl
  orders := fun other found held => by
    have different : other ≠ split := by
      rintro rfl
      rw [held] at absent
      cases absent
    exact (Function.update_of_ne different _ _).trans held

/-- The temporaries of `mkstemp` do not matter. -/
theorem Consistent.temporaries
    (consistent : handoff.Consistent calls root) (left : List Artifact) :
    handoff.Consistent calls { root with temporaries := left } :=
  { consistent with }

theorem Consistent.setProvenance
    (consistent : handoff.Consistent calls root) (file : ProvenanceFile) :
    handoff.Consistent calls
      (root.setProvenance file (handoff.document file)) :=
  have written (other : ProvenanceFile)
      (payload : ProvenancePayload Digest Json)
      (found : (root.setProvenance file (handoff.document file)).provenance
        other = some payload) :
      payload = handoff.document other := by
    by_cases same : other = file
    · subst same
      rw [show (root.setProvenance other (handoff.document other)).provenance
        other = some (handoff.document other) from
        Function.update_self _ _ _] at found
      exact (Option.some.inj found).symm
    · exact consistent.provenance other payload
        ((Function.update_of_ne same _ _).symm.trans found)
  { consistent with
    provenance := written
    manifest := fun manifest found => by
      obtain ⟨complete, publication⟩ := consistent.manifest manifest found
      refine ⟨fun other => ?_, publication⟩
      by_cases same : other = file
      · subst same
        exact Function.update_self _ _ _
      · exact (Function.update_of_ne same _ _).trans (complete other) }

/-- The manifest follows the orders and the provenance. -/
theorem Consistent.setManifest
    (consistent : handoff.Consistent calls root)
    (publication : handoff.Publication)
    (called : calls publication.config (some publication.geometry))
    (orders : ∀ split,
      root.orders split = some (publication.directory split))
    (provenance : ∀ file,
      root.provenance file = some (handoff.document file))
    (incomplete : root.sidecar = none) :
    handoff.Consistent calls (root.setManifest publication.manifest) :=
  { consistent with
    manifest := fun manifest found => by
      cases found
      exact ⟨provenance, publication, called, orders, rfl⟩
    sidecar := fun digest found => by
      rw [show (root.setManifest publication.manifest).sidecar = none from
        incomplete] at found
      cases found }

/-- The sidecar follows the manifest. -/
theorem Consistent.setSidecar
    {manifest : FinalManifest Digest Json}
    (consistent : handoff.Consistent calls root)
    (published : root.manifest = some manifest) :
    handoff.Consistent calls (root.setSidecar
      (handoff.environment.hash.finalManifest manifest)) :=
  { consistent with
    journal := consistent.journal.imp_right fun gone => ⟨gone.1, nofun⟩
    sidecar := fun digest found => ⟨manifest, published, by
      cases found
      rfl⟩ }

/-- The journal goes last. -/
theorem Consistent.removeJournal
    (consistent : handoff.Consistent calls root)
    (complete : root.sidecar ≠ none) :
    handoff.Consistent calls root.removeJournal :=
  { consistent with journal := .inr ⟨rfl, complete⟩ }

/-- What a kill may make of a corpus root: a staging directory keeps nothing
for certain. -/
structure StagingLost (before left : CorpusRoot Digest Cursor Json) :
    Prop where
  rest : left = { before with staging := left.staging }
  exists_iff : ∀ split, left.staging split = none ↔
    before.staging split = none

theorem Consistent.stagingLost
    {left : CorpusRoot Digest Cursor Json}
    (consistent : handoff.Consistent calls root)
    (lost : StagingLost root left) : handoff.Consistent calls left := by
  rw [lost.rest]
  exact { consistent with
    staging := fun split present =>
      (lost.exists_iff split).mpr (consistent.staging split present) }

end Effects

end PackedHandoff
end CodingLlm
