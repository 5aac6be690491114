import CodingLlm.Scripts.UniformSupply

/-!
# From a packed supply to an accepted policy

Under the default caps a supply reaches an accepted acceptance policy exactly
when the held-out caps are whole quanta of rows that it can fill, besides what
its train rows need.
-/

namespace CodingLlm
namespace CorpusQualification

variable {Digest Cursor Json : Type} [DecidableEq Digest]
variable {environment : FinalizerEnvironment Digest Cursor Json}
variable {supply : PackedSupply environment} {plan : OrderPlan}
variable {rows orderSeed : Nat} {geometry : FrozenGeometry}

/-! ## Plans -/

/-- The rows of the train order. -/
def trainRows (sequenceLength : Nat) : Nat :=
  52580000000 / sequenceLength / 192 * 192

/-- What `_validate_geometry` has established under the default caps. -/
theorem validateGeometry_production
    {globalMicrobatchRows gradientAccumulationSteps : Int}
    (accepts : validateGeometry (productionFinalization orderSeed)
      globalMicrobatchRows gradientAccumulationSteps = .ok geometry) :
    geometry.updateRows = 192 ∧ geometry.globalMicrobatchRows % 6 = 0 := by
  unfold validateGeometry at accepts
  simp only [checked_bind_eq_ok, exists_require, checked_pure_eq_ok]
    at accepts
  obtain ⟨rowsPos, stepsPos, whole, batch, rfl⟩ := accepts
  have product : (globalMicrobatchRows.toNat : Int) *
      gradientAccumulationSteps.toNat = 192 := by
    rw [Int.toNat_of_nonneg (by omega), Int.toNat_of_nonneg (by omega)]
    exact batch
  have remainder : globalMicrobatchRows % 6 = 0 := whole
  refine ⟨Int.ofNat_injective ?_, ?_⟩
  · simpa [FrozenGeometry.updateRows] using product
  · change globalMicrobatchRows.toNat % 6 = 0
    omega

/-- The plan of the train order. -/
theorem orderPlan_train_eq_ok
    (update : geometry.updateRows = 192) :
    supply.authority.orderPlan (productionFinalization orderSeed) .train
        (some geometry) = .ok plan ↔
      1 ≤ trainRows supply.sequenceLength ∧ 1 ≤ supply.sequenceLength ∧
      (∀ domain, weightedRowCounts (trainRows supply.sequenceLength)
        expectedWeights domain ≤ supply.rows .train domain) ∧
      plan = ⟨.train, orderSeed, some geometry, 52580000000,
        trainRows supply.sequenceLength * supply.sequenceLength,
        52580000000 -
          trainRows supply.sequenceLength * supply.sequenceLength⟩ := by
  have aligned : (productionFinalization orderSeed).cap .train /
      supply.sequenceLength / geometry.updateRows * geometry.updateRows =
        trainRows supply.sequenceLength := by
    rw [update]
    rfl
  have below : trainRows supply.sequenceLength * supply.sequenceLength ≤
      52580000000 :=
    calc trainRows supply.sequenceLength * supply.sequenceLength
        ≤ 52580000000 / supply.sequenceLength * supply.sequenceLength :=
          Nat.mul_le_mul_right _ (Nat.div_mul_le_self _ _)
      _ ≤ 52580000000 := Nat.div_mul_le_self _ _
  simp only [Authority.orderPlan, Authority.targetRows, requireObject_some,
    checked_ok_bind, alignedTrainRows, checked_bind_eq_ok, exists_require,
    checked_pure_eq_ok, strictWeightedRowCounts_eq_ok]
  constructor
  · rintro ⟨_, ⟨_, ⟨⟨-, width, -⟩, enough, rfl⟩, _, ⟨positive, rfl⟩, fills,
      rfl⟩, within, rfl⟩
    rw [show supply.authority.sequenceLength = supply.sequenceLength from rfl,
      aligned] at fills positive ⊢
    exact ⟨positive, width, fun domain => fills domain domain.mem_order, rfl⟩
  · rintro ⟨positive, width, fills, rfl⟩
    have unit : geometry.updateRows ≤ trainRows supply.sequenceLength := by
      rw [update]
      unfold trainRows at positive ⊢
      omega
    rw [← aligned] at positive fills unit ⊢
    refine ⟨_, ⟨_, ⟨⟨(by decide : 1 ≤ 52580000000), width, geometry.updateRows_pos⟩, unit, rfl⟩,
      _, ⟨positive, rfl⟩, fun domain _ => fills domain, rfl⟩, ?_, rfl⟩
    rw [← aligned] at below
    exact below

/-- The plan of a held-out order. -/
theorem orderPlan_heldout_eq_ok
    {split : Split}
    (heldout : split ≠ .train) :
    supply.authority.orderPlan (productionFinalization orderSeed) split
        (some geometry) = .ok plan ↔
      ∃ rows, largestFeasibleRows (supply.rows split)
          (500000000 / supply.sequenceLength) 5 = .ok rows ∧
        plan = ⟨split, orderSeed + split.index, none,
          rows * supply.sequenceLength, rows * supply.sequenceLength, 0⟩ := by
  cases split with
  | train => exact absurd rfl heldout
  | validation =>
      simp only [Authority.orderPlan, Authority.targetRows, checked_bind_eq_ok,
        checked_pure_eq_ok]
      exact exists_congr fun rows => and_congr_right fun _ => eq_comm
  | test =>
      simp only [Authority.orderPlan, Authority.targetRows, checked_bind_eq_ok,
        checked_pure_eq_ok]
      exact exists_congr fun rows => and_congr_right fun _ => eq_comm

/-- Plans of the train order are met. -/
theorem meets_train
    (update : geometry.updateRows = 192)
    (planned : supply.authority.orderPlan (productionFinalization orderSeed)
      .train (some geometry) = .ok plan) :
    Meets supply plan (trainRows supply.sequenceLength) := by
  obtain ⟨positive, width, fills, rfl⟩ :=
    (orderPlan_train_eq_ok update).mp planned
  have below : trainRows supply.sequenceLength * supply.sequenceLength ≤
      52580000000 :=
    calc trainRows supply.sequenceLength * supply.sequenceLength
        ≤ 52580000000 / supply.sequenceLength * supply.sequenceLength :=
          Nat.mul_le_mul_right _ (Nat.div_mul_le_self _ _)
      _ ≤ 52580000000 := Nat.div_mul_le_self _ _
  constructor
  case expected_pos => exact (by decide : 1 ≤ 52580000000)
  case selectable =>
    change 52580000000 / supply.sequenceLength / geometry.updateRows *
      geometry.updateRows = _
    rw [update]
    rfl
  case rows_pos => exact positive
  case actual_eq => rfl
  case tolerance_eq => exact Nat.add_sub_of_le below
  case enough => exact fills

/-- Plans of held-out orders are met. -/
theorem meets_heldout
    {split : Split} {quanta : Nat}
    (width : 1 ≤ supply.sequenceLength)
    (positive : 1 ≤ quanta)
    (fills : FillsQuanta (supply.rows split) quanta)
    (planned : plan = ⟨split, orderSeed + split.index, none,
      quanta * 5 * supply.sequenceLength, quanta * 5 * supply.sequenceLength,
        0⟩) :
    Meets supply plan (quanta * 5) := by
  subst planned
  constructor
  case expected_pos =>
    exact Nat.mul_pos (by omega) width
  case selectable => exact Nat.mul_div_cancel _ width
  case rows_pos => omega
  case actual_eq => rfl
  case tolerance_eq => rfl
  case enough =>
    intro domain
    rw [weightedRowCounts_quanta]
    exact fills domain domain.mem_order

/-! ## Checks of orders -/

/-- The order of a plan that is met, as the qualifier reads it. -/
theorem Meets.finalizedOrder_eq_ok
    {config : FinalizationConfig} {split : Split}
    (meets : Meets supply plan rows)
    (planned : supply.authority.orderPlan config split (some geometry) =
      .ok plan) :
    ∃ order, finalizedOrder environment supply.store supply.authority config
      geometry split = .ok order ∧
        RecordsPlan plan rows supply.sequenceLength order := by
  obtain ⟨directory, published, order, intended, validated, records⟩ :=
    meets.built
  refine ⟨order, ?_, records⟩
  rw [finalizedOrder, planned, checked_ok_bind, intended, checked_ok_bind]
  exact validated

/-- The realized mixture of a number of rows is within the tolerance. -/
def MixtureWithin (rows : Nat) : Prop :=
  ∀ domain ∈ Domain.order,
    |(weightedRowCounts rows expectedWeights domain : Rat) / rows -
      expectedWeights.weight domain| ≤ 1 / 10 ^ 6

omit [DecidableEq Digest] in
/-- What the qualifier asks of an order that records a plan. -/
theorem RecordsPlan.checkOrder_eq_ok
    {targets : Split -> Nat} {order : OrderManifest Digest}
    {sequenceLength : Nat}
    (records : RecordsPlan plan rows sequenceLength order)
    (target : targets plan.split = plan.expectedTokens)
    (actual : actualTokens order = plan.actualTokens)
    (within : plan.actualTokens ≤ plan.expectedTokens) :
    (∃ summary, checkOrder (.withTargets targets) plan.split order =
      .ok summary) ↔
      (plan.expectedTokens : Int) - plan.actualTokens ≤
          ((plan.expectedTokens : Rat) * (1 / 10 ^ 3)).ceil ∧
        MixtureWithin rows ∧ 6 ≤ rows ∧
          checkConsumptionGeometry (.withTargets targets) plan.split order =
            .ok () := by
  have close : order.expectedInputTokenWeights.AllClose
      expectedWeights.weight := by
    rw [records.weights_eq]
    exact DomainField.allClose_ofWeights _
  simp only [checkOrder, checked_bind_eq_ok, exists_require,
    requireObject_eq_ok, checked_pure_eq_ok]
  rw [records.realized_eq]
  have expected : (QualificationConfig.withTargets targets).expectedTargets
      plan.split = plan.expectedTokens := target
  rw [expected, actual, records.rows_eq]
  constructor
  · rintro ⟨_, -, -, ⟨-, shortfall⟩, -, realized, mapped, -, mixture, enough,
      _, geometry, -⟩
    cases mapped
    exact ⟨shortfall, mixture, enough, geometry⟩
  · rintro ⟨shortfall, mixture, enough, geometry⟩
    exact ⟨_, records.split_eq, records.target_eq, ⟨by omega, shortfall⟩,
      close, _, rfl, fun _ _ => rfl, mixture, enough, (), geometry, rfl⟩

omit [DecidableEq Digest] in
/-- The geometry of an order that records the plan of a split. -/
theorem RecordsPlan.checkConsumptionGeometry_eq_ok
    {targets : Split -> Nat} {order : OrderManifest Digest}
    {sequenceLength : Nat}
    (records : RecordsPlan plan rows sequenceLength order)
    (positive : 1 ≤ rows)
    (frozen : match plan.geometry with
      | none => plan.split ≠ .train
      | some geometry => plan.split = .train ∧
          geometry.globalMicrobatchRows % 6 = 0 ∧ geometry.updateRows ∣ rows) :
    checkConsumptionGeometry (.withTargets targets) plan.split order =
      .ok () := by
  have consumed := records.geometry_eq
  unfold checkConsumptionGeometry
  cases found : order.consumption with
  | none =>
      rw [OrderManifest.geometry, found, Option.map_none] at consumed
      rw [← consumed] at frozen
      cases split : plan.split with
      | train => exact absurd split frozen
      | validation => rfl
      | test => rfl
  | some consumption =>
      rw [OrderManifest.geometry, found, Option.map_some] at consumed
      rw [← consumed] at frozen
      obtain ⟨isTrain, whole, updates⟩ := frozen
      rw [isTrain, records.rows_eq]
      obtain ⟨count, rfl⟩ := updates
      have unit := consumption.updateRows_pos
      have number : consumption.optimizerUpdates
          (consumption.updateRows * count) = count :=
        Nat.mul_div_cancel_left _ unit
      have wide : 6 ≤ consumption.globalMicrobatchRows := by
        have width := consumption.globalMicrobatchRows_pos
        omega
      have complete : consumption.updateRows * count -
          consumption.consumedRows (consumption.updateRows * count) = 0 := by
        rw [FrozenGeometry.consumedRows, number, Nat.mul_comm count,
          Nat.sub_self]
      have updated : 1 ≤ consumption.optimizerUpdates
          (consumption.updateRows * count) :=
        number.symm ▸ Nat.pos_of_mul_pos_left positive
      exact (require_bind ⟨wide, whole⟩ _).trans
        ((require_bind complete _).trans ((require_bind updated _).trans rfl))

/-! ## The whole way -/

/-- Only production targets are accepted. -/
theorem inspectAcceptancePolicy_eq_ok {targets : Split -> Nat} :
    inspectAcceptancePolicy
        (QualificationConfig.withTargets targets).acceptancePolicy =
      .ok () ↔ targets = expectedInputTokenTargets := by
  unfold inspectAcceptancePolicy
  simp only [checked_bind_eq_ok, exists_require, checked_pure_eq_ok]
  constructor
  · rintro ⟨-, production, -⟩
    funext split
    apply production
    cases split <;> simp [Split.all]
  · rintro rfl
    refine ⟨rfl, fun _ _ => rfl, fun _ _ => rfl, ?_, ?_, ?_, ?_, trivial⟩
    · change (0 : Rat) ≤ 1 / 10 ^ 3 ∧ (1 : Rat) / 10 ^ 3 ≤ 1 / 10 ^ 3
      norm_num
    · change (0 : Rat) ≤ 1 / 10 ^ 6 ∧ (1 : Rat) / 10 ^ 6 ≤ 1 / 10 ^ 6
      norm_num
    · exact le_refl 8
    · exact ⟨rfl, rfl, rfl, rfl, rfl⟩

theorem validate_production :
    (QualificationConfig.withTargets expectedInputTokenTargets).validate =
      .ok () := by
  have targets : ∀ split ∈ Split.all, 1 ≤ expectedInputTokenTargets split := by
    decide
  have positive : ∀ domain ∈ Domain.order,
      0 < expectedWeights.weight domain := by
    intro domain _
    cases domain <;> norm_num [expectedWeights]
  have sums : |totalOf expectedWeights.weight - 1| ≤ 1 / 10 ^ 15 := by
    rw [expectedWeights.total_eq]
    norm_num
  have tolerance : (0 : Rat) ≤ 1 / 10 ^ 6 := by norm_num
  have fraction : (0 : Rat) ≤ 1 / 10 ^ 3 ∧ (1 : Rat) / 10 ^ 3 < 1 := by
    norm_num
  exact (require_bind targets _).trans <| (require_bind positive _).trans <|
    (require_bind sums _).trans <| (require_bind tolerance _).trans <|
    (require_bind fraction _).trans <|
    (require_bind (by decide : 1 ≤ 8) _).trans <|
    (require_bind (by decide : 1 ≤ 6) _).trans <|
    (require_bind (rfl : 6 = 6) _).trans rfl

/-- The whole way succeeds when each order does for the production targets. -/
theorem authorizePolicy_eq_ok :
    (∃ policy, authorizePolicy environment supply.store supply.authority
      orderSeed geometry = .ok policy) ↔
      ∀ split, ∃ order,
        finalizedOrder environment supply.store supply.authority
            (productionFinalization orderSeed) geometry split = .ok order ∧
          expectedTotal? order = some (expectedInputTokenTargets split) ∧
            ∃ summary, checkOrder (.withTargets expectedInputTokenTargets)
              split order = .ok summary := by
  simp only [authorizePolicy, checked_bind_eq_ok, checked_pure_eq_ok,
    forSplits_eq_ok, requireObject_eq_ok]
  constructor
  · rintro ⟨_, orders, finalized, targets, targeted, _, -, summaries, checks,
      _, accepted, -⟩ split
    obtain rfl := inspectAcceptancePolicy_eq_ok.mp accepted
    exact ⟨orders split, finalized split, targeted split, _, checks split⟩
  · intro each
    choose orders finalized targeted summaries checks using each
    exact ⟨_, orders, finalized, _, targeted, (), validate_production,
      summaries, checks, (), inspectAcceptancePolicy_eq_ok.mpr rfl, rfl⟩

/-- What a supply needs for its train order. -/
structure TrainsWithin (supply : PackedSupply environment) : Prop where
  fills : ∀ domain, weightedRowCounts (trainRows supply.sequenceLength)
    expectedWeights domain ≤ supply.rows .train domain
  shortfall : 52580000000 ≤
    trainRows supply.sequenceLength * supply.sequenceLength + 52580000
  mixture : MixtureWithin (trainRows supply.sequenceLength)

/-- What a supply needs for a held-out order of the whole cap. -/
structure HoldsOut
    (supply : PackedSupply environment) (split : Split) : Prop where
  divides : 5 * supply.sequenceLength ∣ 500000000
  fills : FillsQuanta (supply.rows split)
    (500000000 / (5 * supply.sequenceLength))
  enough : 6 ≤ 500000000 / supply.sequenceLength

/-- An order reaches the policy for the production targets. -/
def Reaches
    (supply : PackedSupply environment) (orderSeed : Nat)
    (geometry : FrozenGeometry) (split : Split) : Prop :=
  ∃ order,
    finalizedOrder environment supply.store supply.authority
        (productionFinalization orderSeed) geometry split = .ok order ∧
      expectedTotal? order = some (expectedInputTokenTargets split) ∧
        ∃ summary, checkOrder (.withTargets expectedInputTokenTargets)
          split order = .ok summary

theorem PackedSupply.sequenceLength_pos (supply : PackedSupply environment) :
    1 ≤ supply.sequenceLength := by
  have two := (supply.manifests .train .python).two_le_sequenceLength
  rw [supply.sequenceLength_eq] at two
  exact Nat.le_of_succ_le two

/-- A plan that is met reaches the policy if its target is the one of
production, and its order passes. -/
theorem Meets.reaches_iff
    (meets : Meets supply plan rows)
    (planned : supply.authority.orderPlan (productionFinalization orderSeed)
      plan.split (some geometry) = .ok plan)
    (frozen : match plan.geometry with
      | none => plan.split ≠ .train
      | some geometry => plan.split = .train ∧
          geometry.globalMicrobatchRows % 6 = 0 ∧
            geometry.updateRows ∣ rows) :
    Reaches supply orderSeed geometry plan.split ↔
      plan.expectedTokens = expectedInputTokenTargets plan.split ∧
        (plan.expectedTokens : Int) - plan.actualTokens ≤
            ((plan.expectedTokens : Rat) * (1 / 10 ^ 3)).ceil ∧
          MixtureWithin rows ∧ 6 ≤ rows := by
  have positive := supply.sequenceLength_pos
  obtain ⟨order, finalized, records⟩ := meets.finalizedOrder_eq_ok planned
  have whole := (@accountedRows_selectableRows supply.sequenceLength
    plan.expectedTokens positive plan.geometry).1
  rw [meets.selectable] at whole
  have actual : actualTokens order = plan.actualTokens := by
    rw [actualTokens, records.rows_eq, records.geometry_eq,
      records.sequenceLength_eq, whole, meets.actual_eq]
  have within : plan.actualTokens ≤ plan.expectedTokens := by
    have tolerance := meets.tolerance_eq
    omega
  have checks (target : expectedInputTokenTargets plan.split =
      plan.expectedTokens) :=
    records.checkOrder_eq_ok target actual within
  constructor
  · rintro ⟨_, same, targeted, summary, checked⟩
    obtain rfl := Except.ok.inj (finalized.symm.trans same)
    have target := Option.some.inj (records.target_eq.symm.trans targeted)
    obtain ⟨shortfall, mixture, enough, -⟩ :=
      (checks target.symm).mp ⟨summary, checked⟩
    exact ⟨target, shortfall, mixture, enough⟩
  · rintro ⟨target, shortfall, mixture, enough⟩
    refine ⟨order, finalized, target ▸ records.target_eq,
      (checks target.symm).mpr ⟨shortfall, mixture, enough, ?_⟩⟩
    exact records.checkConsumptionGeometry_eq_ok meets.rows_pos frozen

theorem mixtureWithin_quanta
    {quanta : Nat}
    (positive : 1 ≤ quanta) : MixtureWithin (quanta * 5) := by
  intro domain _
  have known : (quanta : Rat) ≠ 0 := by
    rw [Nat.cast_ne_zero]
    omega
  have exact : (weightedRowCounts (quanta * 5) expectedWeights domain : Rat) /
      (quanta * 5 : Nat) = expectedWeights.weight domain := by
    rw [weightedRowCounts_quanta]
    cases domain <;> simp only [quantumRows, expectedWeights] <;>
      push_cast <;> field_simp
  rw [exact, sub_self, abs_zero]
  norm_num

theorem heldout_reaches_iff
    {split : Split}
    (heldout : split ≠ .train) :
    Reaches supply orderSeed geometry split ↔ HoldsOut supply split := by
  have width := supply.sequenceLength_pos
  have target : expectedInputTokenTargets split = 500000000 := by
    cases split with
    | train => exact absurd rfl heldout
    | validation => rfl
    | test => rfl
  -- A plan of whole quanta reaches the policy when it is the whole cap.
  have reaches {quanta : Nat} (positive : 1 ≤ quanta)
      (fills : FillsQuanta (supply.rows split) quanta)
      (largest : largestFeasibleRows (supply.rows split)
        (500000000 / supply.sequenceLength) 5 = .ok (quanta * 5)) :
      Reaches supply orderSeed geometry split ↔
        quanta * 5 * supply.sequenceLength = 500000000 ∧ 6 ≤ quanta * 5 := by
    have meets : Meets supply ⟨split, orderSeed + split.index, none,
        quanta * 5 * supply.sequenceLength,
        quanta * 5 * supply.sequenceLength, 0⟩ (quanta * 5) :=
      meets_heldout width positive fills rfl
    refine (meets.reaches_iff ((orderPlan_heldout_eq_ok heldout).mpr
      ⟨_, largest, rfl⟩) heldout).trans ?_
    dsimp only
    rw [target, sub_self]
    refine and_congr_right fun whole => ?_
    have room : (0 : Int) ≤ (((quanta * 5 * supply.sequenceLength : Nat) :
        Rat) * (1 / 10 ^ 3)).ceil := by
      rw [whole]
      decide +kernel
    exact ⟨fun holds => holds.2.2,
      fun enough => ⟨room, mixtureWithin_quanta positive, enough⟩⟩
  constructor
  · intro found
    obtain ⟨order, finalized, -⟩ := id found
    obtain ⟨plan, planned, -⟩ := checked_bind_eq_ok.mp finalized
    obtain ⟨rows, largest, -⟩ := (orderPlan_heldout_eq_ok heldout).mp planned
    obtain ⟨quanta, rfl, positive, -, fills, -⟩ :=
      largestFeasibleRows_eq_ok.mp largest
    obtain ⟨whole, enough⟩ := (reaches positive fills largest).mp found
    have quotient : 500000000 / (5 * supply.sequenceLength) = quanta := by
      rw [← whole, Nat.mul_assoc]
      exact Nat.mul_div_cancel _ (by omega)
    have rows : 500000000 / supply.sequenceLength = quanta * 5 := by
      rw [← whole]
      exact Nat.mul_div_cancel _ width
    exact ⟨⟨quanta, by rw [← whole]; ring⟩, quotient.symm ▸ fills,
      rows.symm ▸ enough⟩
  · rintro ⟨⟨quanta, whole⟩, fills, enough⟩
    have total : quanta * 5 * supply.sequenceLength = 500000000 := by
      rw [whole]
      ring
    have quotient : 500000000 / (5 * supply.sequenceLength) = quanta := by
      rw [whole]
      exact Nat.mul_div_cancel_left _ (by omega)
    have rows : 500000000 / supply.sequenceLength = quanta * 5 := by
      rw [← total]
      exact Nat.mul_div_cancel _ width
    rw [quotient] at fills
    rw [rows] at enough
    refine (reaches (by omega) fills (largestFeasibleRows_eq_ok.mpr
      ⟨quanta, rfl, by omega, ?_, fills, ?_⟩)).mpr ⟨total, enough⟩
    · rw [rows, Nat.mul_div_cancel _ (by decide)]
    · rw [rows, Nat.mul_div_cancel _ (by decide)]
      omega

theorem train_reaches_iff
    (update : geometry.updateRows = 192)
    (whole : geometry.globalMicrobatchRows % 6 = 0) :
    Reaches supply orderSeed geometry .train ↔ TrainsWithin supply := by
  have limit : (((52580000000 : Nat) : Rat) * (1 / 10 ^ 3)).ceil =
      52580000 := by
    decide +kernel
  have reaches {plan : OrderPlan}
      (planned : supply.authority.orderPlan
        (productionFinalization orderSeed) .train (some geometry) =
          .ok plan) :
      Reaches supply orderSeed geometry .train ↔
        TrainsWithin supply := by
    have meets := meets_train update planned
    obtain ⟨positive, -, fills, rfl⟩ :=
      (orderPlan_train_eq_ok update).mp planned
    refine (meets.reaches_iff planned ⟨rfl, whole, ?_⟩).trans ?_
    · rw [update]
      exact Dvd.intro_left _ rfl
    dsimp only
    rw [limit]
    constructor
    · rintro ⟨-, shortfall, mixture, -⟩
      exact ⟨fills, by omega, mixture⟩
    · intro within
      have shortfall := within.shortfall
      refine ⟨rfl, by omega, within.mixture, ?_⟩
      unfold trainRows at positive ⊢
      omega
  constructor
  · intro found
    obtain ⟨order, finalized, -⟩ := id found
    obtain ⟨plan, planned, -⟩ := checked_bind_eq_ok.mp finalized
    exact (reaches planned).mp found
  · intro within
    have positive : 1 ≤ trainRows supply.sequenceLength := by
      have shortfall := within.shortfall
      by_contra missing
      rw [Nat.lt_one_iff.mp (Nat.not_le.mp missing)] at shortfall
      omega
    exact (reaches ((orderPlan_train_eq_ok update).mpr ⟨positive,
      supply.sequenceLength_pos, within.fills, rfl⟩)).mpr within

/-- Under the default caps a supply reaches an accepted policy exactly when it
has the train rows for one, and the held-out caps are whole quanta of rows that
it can fill. -/
theorem authorizePolicy_iff
    {globalMicrobatchRows gradientAccumulationSteps : Int}
    (accepts : validateGeometry (productionFinalization orderSeed)
      globalMicrobatchRows gradientAccumulationSteps = .ok geometry) :
    (∃ policy, authorizePolicy environment supply.store supply.authority
      orderSeed geometry = .ok policy) ↔
      TrainsWithin supply ∧ HoldsOut supply .validation ∧
        HoldsOut supply .test := by
  obtain ⟨update, whole⟩ := validateGeometry_production accepts
  have validation := @heldout_reaches_iff _ _ _ _ environment supply orderSeed
    geometry .validation nofun
  have test := @heldout_reaches_iff _ _ _ _ environment supply orderSeed
    geometry .test nofun
  rw [authorizePolicy_eq_ok, ← train_reaches_iff update whole, ← validation,
    ← test]
  constructor
  · intro each
    exact ⟨each .train, each .validation, each .test⟩
  · rintro ⟨train, validation, test⟩ split
    cases split
    · exact train
    · exact validation
    · exact test

/-! ## Supplies of one size -/

/-- The domains can fill the default cap of each split, up to the allowed
shortfall. -/
def FillsCaps (supply : PackedSupply environment) : Prop :=
  ∀ split, ∃ rows,
    rows * supply.sequenceLength ≤ (productionFinalization 0).cap split ∧
      (productionFinalization 0).cap split ≤
          rows * supply.sequenceLength +
            (productionFinalization 0).cap split / 1000 ∧
        ∀ domain, weightedRowCounts rows expectedWeights domain ≤
          supply.rows split domain

theorem weightedRowCounts_le (rows : Nat) (domain : Domain) :
    weightedRowCounts rows expectedWeights domain ≤ rows := by
  have total := totalOf_weightedRowCounts rows expectedWeights
  rw [totalOf_eq] at total
  cases domain <;> omega

/-- The mixture of a million rows is within the tolerance. -/
theorem mixtureWithin_of_le (many : 10 ^ 6 ≤ rows) : MixtureWithin rows := by
  intro domain _
  have positive : (0 : Rat) < rows := Nat.cast_pos.mpr (by omega)
  have near : |((weightedRowCounts rows expectedWeights domain : Nat) : Rat) -
      rows * expectedWeights.weight domain| ≤ 1 := by
    rw [← exactRows_eq]
    exact Apportionment.abs_units_sub_le
      (exactRows_nonneg rows expectedWeights domain)
  have large : (10 : Rat) ^ 6 ≤ rows := by exact_mod_cast many
  rw [div_sub' positive.ne', abs_div, abs_of_pos positive]
  calc |((weightedRowCounts rows expectedWeights domain : Nat) : Rat) -
          rows * expectedWeights.weight domain| / rows
      ≤ 1 / rows := div_le_div_of_nonneg_right near positive.le
    _ ≤ 1 / 10 ^ 6 := one_div_le_one_div_of_le (by norm_num) large

/-- The geometry of six ranks that pass over 32 microbatches. -/
def sixRankGeometry : FrozenGeometry := ⟨6, 32, Nat.succ_pos 5, Nat.succ_pos 31⟩

theorem validateGeometry_sixRanks :
    validateGeometry (productionFinalization orderSeed) 6 32 =
      .ok sixRankGeometry := by
  have positive : (1 : Int) ≤ 6 ∧ (1 : Int) ≤ 32 := by decide
  have whole : (6 : Int) % (6 : Nat) = 0 := by decide
  have batch : (6 : Int) * 32 = (192 : Nat) := by decide
  exact (require_bind positive.1 _).trans <|
    (require_bind positive.2 _).trans <| (require_bind whole _).trans <|
    (require_bind batch _).trans rfl

/-- At 2048 tokens a row the caps can be filled and the orders are finalized,
but the whole quanta of the held-out orders stop short of the 500,000,000
tokens that the policy asks for. -/
theorem heldout_total_rejected :
    ∃ supply : PackedSupply smallFinalizer,
      supply.sequenceLength = 2048 ∧ FillsCaps supply ∧
      validateGeometry (productionFinalization 7) 6 32 =
        .ok sixRankGeometry ∧
      (∀ split, ∃ order, finalizedOrder smallFinalizer supply.store
        supply.authority (productionFinalization 7) sixRankGeometry split =
          .ok order) ∧
      ¬∃ policy, authorizePolicy smallFinalizer supply.store supply.authority
        7 sixRankGeometry = .ok policy := by
  obtain ⟨supply, width, rows⟩ := @exists_uniformSupply 2048 30000000
    (by decide) (by decide) (by decide)
  have enough (split : Split) {count : Nat} (few : count ≤ 30000000)
      (domain : Domain) : weightedRowCounts count expectedWeights domain ≤
        supply.rows split domain := by
    rw [rows]
    exact (weightedRowCounts_le count domain).trans few
  have quotient : 500000000 / supply.sequenceLength / 5 = 48828 := by
    rw [width]
  have heldout (split : Split) (heldout : split ≠ .train) :
      ∃ order, finalizedOrder smallFinalizer supply.store supply.authority
        (productionFinalization 7) sixRankGeometry split = .ok order := by
    have fills : FillsQuanta (supply.rows split) 48828 := by
      intro domain _
      rw [rows]
      cases domain <;> decide
    have largest : largestFeasibleRows (supply.rows split)
        (500000000 / supply.sequenceLength) 5 = .ok (48828 * 5) :=
      largestFeasibleRows_eq_ok.mpr ⟨48828, rfl, by decide, quotient.ge, fills,
        fun more beyond within => absurd within (by omega)⟩
    obtain ⟨order, finalized, -⟩ :=
      (meets_heldout supply.sequenceLength_pos (by decide) fills
        rfl).finalizedOrder_eq_ok
          ((orderPlan_heldout_eq_ok heldout).mpr ⟨_, largest, rfl⟩)
    exact ⟨order, finalized⟩
  have train : ∃ order, finalizedOrder smallFinalizer supply.store
      supply.authority (productionFinalization 7) sixRankGeometry .train =
        .ok order := by
    have count : trainRows supply.sequenceLength = 25673664 := by
      rw [width]
      rfl
    have planned := (@orderPlan_train_eq_ok _ _ _ _ smallFinalizer supply
      ⟨.train, 7, some sixRankGeometry, 52580000000,
        trainRows supply.sequenceLength * supply.sequenceLength,
        52580000000 -
          trainRows supply.sequenceLength * supply.sequenceLength⟩
      7 sixRankGeometry rfl).mpr ⟨by omega, supply.sequenceLength_pos,
        enough .train (by omega), rfl⟩
    obtain ⟨order, finalized, -⟩ :=
      (meets_train rfl planned).finalizedOrder_eq_ok planned
    exact ⟨order, finalized⟩
  refine ⟨supply, width, ?_, validateGeometry_sixRanks, ?_, ?_⟩
  · intro split
    rw [width]
    cases split with
    | train => exact ⟨25673664, by decide, by decide, enough _ (by decide)⟩
    | validation => exact ⟨244140, by decide, by decide, enough _ (by decide)⟩
    | test => exact ⟨244140, by decide, by decide, enough _ (by decide)⟩
  · intro split
    cases split with
    | train => exact train
    | validation => exact heldout _ nofun
    | test => exact heldout _ nofun
  · intro accepted
    have divides :=
      ((heldout_reaches_iff (show Split.validation ≠ .train by decide)).mp
        (authorizePolicy_eq_ok.mp accepted .validation)).divides
    rw [width] at divides
    exact absurd divides (by decide)

/-- At 2000 tokens a row the held-out caps are whole quanta, and an ample
supply is accepted. -/
theorem authorizePolicy_wholeQuanta :
    ∃ supply : PackedSupply smallFinalizer,
      supply.sequenceLength = 2000 ∧
      ∃ policy, authorizePolicy smallFinalizer supply.store supply.authority
        7 sixRankGeometry = .ok policy := by
  obtain ⟨supply, width, rows⟩ := @exists_uniformSupply 2000 30000000
    (by decide) (by decide) (by decide)
  have count : trainRows supply.sequenceLength = 26289984 := by
    rw [width]
    rfl
  have train : TrainsWithin supply := by
    constructor
    case fills =>
      intro domain
      rw [rows, count]
      exact (weightedRowCounts_le _ domain).trans (by decide)
    case shortfall =>
      rw [count, width]
      decide
    case mixture =>
      rw [count]
      exact mixtureWithin_of_le (by decide)
  have heldout (split : Split) : HoldsOut supply split := by
    constructor
    case divides =>
      rw [width]
      decide
    case fills =>
      intro domain _
      rw [rows, width]
      cases domain <;> decide
    case enough =>
      rw [width]
      decide
  exact ⟨supply, width, (authorizePolicy_iff validateGeometry_sixRanks).mpr
    ⟨train, heldout .validation, heldout .test⟩⟩

end CorpusQualification
end CodingLlm
