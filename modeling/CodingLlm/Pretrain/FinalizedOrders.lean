import CodingLlm.Pretrain.PortableFinalize

/-!
# Orders that a finalizer adopts

An order is accepted under at most one plan, whichever of the two checks looks
at it, so an order that a later call adopts is the one it would have built.
-/

namespace CodingLlm

variable {Digest Cursor Json : Type}

/-! ## Plans -/

theorem PyValue.EqualsInt.unique
    {value : PyValue} {first second : Int}
    (left : value.EqualsInt first) (right : value.EqualsInt second) :
    first = second := by
  have same := left.symm.trans right
  exact Int.cast_injective (Option.some.inj same)

theorem PyValue.EqualsOptional.unique
    {value : PyValue} {first second : Option Nat}
    (left : value.EqualsOptional first)
    (right : value.EqualsOptional second) : first = second := by
  cases first with
  | none =>
      cases second with
      | none => rfl
      | some count =>
          rw [show value = .null from left] at right
          exact absurd right (not_equalsInt_null _)
  | some first =>
      cases second with
      | none =>
          rw [show value = .null from right] at left
          exact absurd left (not_equalsInt_null _)
      | some second =>
          exact congrArg some (Int.ofNat_injective
            ((show value.EqualsInt first from left).unique right))

/-- A geometry is known by its two counts. -/
theorem FrozenGeometry.option_eq
    {first second : Option FrozenGeometry}
    (rows : first.map globalMicrobatchRows = second.map globalMicrobatchRows)
    (steps : first.map gradientAccumulationSteps =
      second.map gradientAccumulationSteps) : first = second := by
  cases first with
  | none => exact (Option.map_eq_none_iff.mp rows.symm).symm
  | some first =>
      cases second with
      | none => cases rows
      | some second =>
          cases first
          cases second
          simp only [Option.map_some, Option.some.injEq] at rows steps
          subst rows steps
          rfl

namespace Authority

variable {authority : Authority Digest Cursor Json}
variable {config : FinalizationConfig} {split : Split}
variable {geometry : Option FrozenGeometry} {plan : OrderPlan}

/-- What a plan takes from its configuration. -/
structure PlannedFrom
    (config : FinalizationConfig) (split : Split)
    (geometry : Option FrozenGeometry) (plan : OrderPlan) : Prop where
  split_eq : plan.split = split
  seed_eq : plan.seed = config.orderSeed + split.index
  geometry_eq : plan.geometry = if split = .train then geometry else none
  tokens_eq : plan.actualTokens + plan.toleranceTokens = plan.expectedTokens

theorem orderPlan_plannedFrom
    (planned : authority.orderPlan config split geometry = .ok plan) :
    PlannedFrom config split geometry plan := by
  unfold orderPlan at planned
  obtain ⟨rows, -, planned⟩ := checked_bind_eq_ok.mp planned
  cases split with
  | train =>
      obtain ⟨within, planned⟩ := require_then_eq_ok.mp planned
      cases planned
      exact ⟨rfl, rfl, rfl, Nat.add_sub_of_le within⟩
  | validation =>
      cases planned
      exact ⟨rfl, rfl, rfl, rfl⟩
  | test =>
      cases planned
      exact ⟨rfl, rfl, rfl, rfl⟩

/-- Only the plan of the train order looks at the geometry. -/
theorem orderPlan_heldout
    (heldout : split ≠ .train) (first second : Option FrozenGeometry) :
    authority.orderPlan config split first =
      authority.orderPlan config split second := by
  cases split with
  | train => exact absurd rfl heldout
  | validation => rfl
  | test => rfl

/-- The train order is planned for a geometry only. -/
theorem orderPlan_train_geometry
    (planned : authority.orderPlan config .train geometry = .ok plan) :
    ∃ frozen, geometry = some frozen := by
  unfold orderPlan targetRows at planned
  obtain ⟨rows, target, -⟩ := checked_bind_eq_ok.mp planned
  obtain ⟨frozen, given, -⟩ := checked_bind_eq_ok.mp target
  exact ⟨frozen, requireObject_eq_ok.mp given⟩

end Authority

/-! ## Accepted orders -/

theorem asFinalizationError_eq_ok
    {text : String} {computation : Checked α} {value : α} :
    asFinalizationError text computation = .ok value ↔
      computation = .ok value := by
  unfold asFinalizationError
  cases computation with
  | ok found => rfl
  | error error =>
      constructor
      · intro equal
        dsimp only at equal
        split at equal <;> cases equal
      · nofun

namespace FinalizerEnvironment

variable [DecidableEq Digest]
variable {environment : FinalizerEnvironment Digest Cursor Json}
variable {store : PackedStore Digest Cursor} {plan : OrderPlan}
variable {directory : OrderDirectory Digest} {order : PublishedOrder Digest}

/-- What both checks of an order establish. -/
structure Accepted
    (environment : FinalizerEnvironment Digest Cursor Json)
    (store : PackedStore Digest Cursor) (plan : OrderPlan)
    (directory : OrderDirectory Digest) (order : PublishedOrder Digest) :
    Prop where
  validated : ∃ manifest, validateTrainingOrder environment.hash.toFileHash
    store true directory = .ok manifest
  manifest : directory.manifest = some order.document
  consumption : ∃ consumption,
    order.document.trainingConsumption = some consumption ∧
      plan.MatchesGeometry consumption
  identity : plan.MatchesIdentity order.document
  budget : order.document.inputTokenBudget = some order.budget
  matchesBudget : plan.MatchesBudget order.budget

theorem validatedOrder_eq_ok
    {text : String} {document : OrderManifestJson Digest} :
    environment.validatedOrder store text directory = .ok document ↔
      (∃ manifest, validateTrainingOrder environment.hash.toFileHash store
        true directory = .ok manifest) ∧
      directory.manifest = some document := by
  simp only [validatedOrder, checked_bind_eq_ok, asFinalizationError_eq_ok,
    requireObject_eq_ok]
  exact ⟨fun ⟨manifest, validated, found⟩ => ⟨⟨manifest, validated⟩, found⟩,
    fun ⟨⟨manifest, validated⟩, found⟩ => ⟨manifest, validated, found⟩⟩

/-- `_validate_order` accepts an order. -/
theorem validateOrder_eq_ok :
    environment.validateOrder store plan directory = .ok order ↔
      environment.Accepted store plan directory order := by
  simp only [validateOrder, checked_bind_eq_ok, validatedOrder_eq_ok,
    requireObject_eq_ok, exists_require, checked_pure_eq_ok]
  constructor
  · rintro ⟨document, ⟨validated, found⟩, consumption, recorded, identity,
      geometry, budget, budgeted, target, rfl⟩
    exact ⟨validated, found, ⟨consumption, recorded, geometry⟩, identity,
      budgeted, target⟩
  · intro accepted
    obtain ⟨consumption, recorded, geometry⟩ := accepted.consumption
    exact ⟨order.document, ⟨accepted.validated, accepted.manifest⟩,
      consumption, recorded, accepted.identity, geometry, order.budget,
      accepted.budget, accepted.matchesBudget, rfl⟩

/-- `_validate_staged_order` accepts an order. -/
theorem validateStagedOrder_eq_ok :
    environment.validateStagedOrder store plan directory = .ok order ↔
      environment.Accepted store plan directory order := by
  simp only [validateStagedOrder, checked_bind_eq_ok, validatedOrder_eq_ok,
    requireObject_eq_ok, exists_require, checked_pure_eq_ok]
  constructor
  · rintro ⟨document, ⟨validated, found⟩, consumption, recorded, budget,
      budgeted, ⟨identity, target, geometry⟩, rfl⟩
    exact ⟨validated, found, ⟨consumption, recorded, geometry⟩, identity,
      budgeted, target⟩
  · intro accepted
    obtain ⟨consumption, recorded, geometry⟩ := accepted.consumption
    exact ⟨order.document, ⟨accepted.validated, accepted.manifest⟩,
      consumption, recorded, order.budget, accepted.budget,
      ⟨accepted.identity, accepted.matchesBudget, geometry⟩, rfl⟩

/-- The order that a plan intends is the one its build writes, accepted. -/
theorem intendedOrder_eq_ok :
    environment.intendedOrder store plan = .ok (directory, order) ↔
      buildTrainingOrder (environment.orderEnvironment store) plan.arguments
        .empty = .ok directory ∧
      environment.Accepted store plan directory order := by
  simp only [intendedOrder, checked_bind_eq_ok, asFinalizationError_eq_ok,
    validateStagedOrder_eq_ok, checked_pure_eq_ok, Prod.mk.injEq]
  constructor
  · rintro ⟨_, built, _, accepted, rfl, rfl⟩
    exact ⟨built, accepted⟩
  · rintro ⟨built, accepted⟩
    exact ⟨_, built, _, accepted, rfl, rfl⟩

/-- An order is accepted under one plan, and read as one document. -/
theorem Accepted.unique
    {plan' : OrderPlan} {order' : PublishedOrder Digest}
    (first : environment.Accepted store plan directory order)
    (second : environment.Accepted store plan' directory order') :
    plan = plan' ∧ order = order' := by
  obtain ⟨document, budget⟩ := order
  obtain ⟨document', budget'⟩ := order'
  obtain rfl : document = document' :=
    Option.some.inj (first.manifest.symm.trans second.manifest)
  obtain rfl : budget = budget' :=
    Option.some.inj (first.budget.symm.trans second.budget)
  refine ⟨?_, rfl⟩
  obtain ⟨consumption, recorded, rows, steps⟩ := first.consumption
  obtain ⟨consumption', recorded', rows', steps'⟩ := second.consumption
  obtain rfl : consumption = consumption' :=
    Option.some.inj (recorded.symm.trans recorded')
  obtain ⟨-, split, seed, -⟩ := first.identity
  obtain ⟨-, split', seed', -⟩ := second.identity
  obtain ⟨expected, actual, tolerance⟩ := first.matchesBudget
  obtain ⟨expected', actual', tolerance'⟩ := second.matchesBudget
  have sameSplit : plan.split = plan'.split :=
    Split.name_injective (PyValue.str.inj (split.symm.trans split'))
  have sameGeometry : plan.geometry = plan'.geometry :=
    FrozenGeometry.option_eq (rows.unique rows') (steps.unique steps')
  have sameSeed := Int.ofNat_injective (seed.unique seed')
  have sameExpected := Int.ofNat_injective (expected.unique expected')
  have sameActual := Int.ofNat_injective (actual.unique actual')
  have sameTolerance := Int.ofNat_injective (tolerance.unique tolerance')
  exact OrderPlan.ext sameSplit sameSeed sameGeometry sameExpected sameActual
    sameTolerance

end FinalizerEnvironment

end CodingLlm
