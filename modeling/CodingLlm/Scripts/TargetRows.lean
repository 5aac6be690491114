import CodingLlm.Scripts.PortableAuthorization
import Mathlib.Order.Lattice.Nat

/-!
# The rows of a target

`_largest_feasible_rows` finds the greatest number of whole quanta whose strict
allocation fits, because an allocation of more rows gives no domain fewer; and
what `_target_rows` returns is what the builder selects for the budget that
`_order_budget` derives from it.
-/

namespace CodingLlm

open Apportionment

/-! ## Allocations of more rows -/

section Allocations

variable {rows quanta : Nat}

/-- Whole quanta are allocated besides the rest. -/
theorem exactRows_add_quanta (domain : Domain) :
    exactRows (rows + quanta * 5) expectedWeights domain =
      exactRows rows expectedWeights domain +
        (quantumRows quanta domain : Nat) := by
  rw [← exactRows_quanta, exactRows_eq, exactRows_eq, exactRows_eq]
  push_cast
  ring

theorem rankedDomains_add_quanta :
    rankedDomains (exactRows (rows + quanta * 5) expectedWeights) =
      rankedDomains (exactRows rows expectedWeights) := by
  have fraction (domain : Domain) :
      exactRows (rows + quanta * 5) expectedWeights domain -
          floorOf (exactRows (rows + quanta * 5) expectedWeights domain) =
        exactRows rows expectedWeights domain -
          floorOf (exactRows rows expectedWeights domain) := by
    rw [exactRows_add_quanta,
      floorOf_add_nat (exactRows_nonneg rows expectedWeights domain)]
    push_cast
    ring
  unfold rankedDomains
  simp only [fraction]

theorem weightedRowCounts_add_quanta (domain : Domain) :
    weightedRowCounts (rows + quanta * 5) expectedWeights domain =
      weightedRowCounts rows expectedWeights domain +
        quantumRows quanta domain := by
  have total : rows + quanta * 5 =
      rows + (Domain.order.map (quantumRows quanta)).sum := by
    simp only [Domain.order, List.map_cons, List.map_nil, List.sum_cons,
      List.sum_nil, quantumRows]
    omega
  have exact : exactRows (rows + quanta * 5) expectedWeights =
      fun domain => exactRows rows expectedWeights domain +
        (quantumRows quanta domain : Nat) := by
    funext other
    exact exactRows_add_quanta other
  unfold weightedRowCounts
  rw [rankedDomains_add_quanta, exact]
  nth_rewrite 1 [total]
  exact units_add_nat domain.mem_order
    fun other _ => exactRows_nonneg rows expectedWeights other

/-- Fewer than five rows are allocated in steps of one row. -/
theorem weightedRowCounts_fewRows :
    ∀ more < 5, ∀ less ≤ more, ∀ domain ∈ Domain.order,
      weightedRowCounts less expectedWeights domain ≤
          weightedRowCounts more expectedWeights domain ∧
        weightedRowCounts more expectedWeights domain ≤
          quantumRows 1 domain := by
  decide +kernel

/-- An allocation of more rows gives no domain fewer. -/
theorem weightedRowCounts_mono
    {less more : Nat}
    (le : less ≤ more)
    (domain : Domain) :
    weightedRowCounts less expectedWeights domain ≤
      weightedRowCounts more expectedWeights domain := by
  have first := @weightedRowCounts_add_quanta (less % 5) (less / 5) domain
  have second := @weightedRowCounts_add_quanta (more % 5) (more / 5) domain
  rw [Nat.mod_add_div'] at first second
  have smallLess := weightedRowCounts_fewRows (less % 5)
    (Nat.mod_lt _ (by decide)) (less % 5) le_rfl domain domain.mem_order
  rw [first, second]
  rcases Nat.eq_or_lt_of_le (Nat.div_le_div_right le : less / 5 ≤ more / 5)
    with same | fewer
  · have small := weightedRowCounts_fewRows (more % 5)
      (Nat.mod_lt _ (by decide)) (less % 5) (by omega) domain domain.mem_order
    rw [same]
    exact Nat.add_le_add_right small.1 _
  · have quanta : quantumRows 1 domain + quantumRows (less / 5) domain ≤
        quantumRows (more / 5) domain := by
      cases domain <;> simp only [quantumRows] <;> omega
    have bounded := smallLess.2
    omega

end Allocations

/-! ## The greatest feasible rows -/

/-- Rows in whole quanta, within a cap, whose strict allocation fits every
domain. -/
structure FeasibleRows
    (available : Domain -> Nat) (maximumRows rowQuantum rows : Nat) :
    Prop where
  quantum : rowQuantum ∣ rows
  positive : 1 ≤ rows
  within : rows ≤ maximumRows
  fits : ∃ counts,
    strictWeightedRowCounts rows expectedWeights = .ok counts ∧
      ∀ domain ∈ Domain.order, counts domain ≤ available domain

/-- An allocation that fits every domain. -/
def AllocationFits (available : Domain -> Nat) (rows : Nat) : Prop :=
  ∀ domain ∈ Domain.order,
    weightedRowCounts rows expectedWeights domain ≤ available domain

instance (available : Domain -> Nat) (rows : Nat) :
    Decidable (AllocationFits available rows) :=
  inferInstanceAs (Decidable (∀ _ ∈ _, _))

section Greatest

variable {available : Domain -> Nat} {maximumRows rowQuantum rows : Nat}

theorem feasibleRows_iff :
    FeasibleRows available maximumRows rowQuantum rows ↔
      rowQuantum ∣ rows ∧ 1 ≤ rows ∧ rows ≤ maximumRows ∧
        AllocationFits available rows := by
  constructor
  · rintro ⟨quantum, positive, within, counts, counted, fits⟩
    obtain ⟨-, rfl⟩ := strictWeightedRowCounts_eq_ok.mp counted
    exact ⟨quantum, positive, within, fits⟩
  · rintro ⟨quantum, positive, within, fits⟩
    exact ⟨quantum, positive, within, _,
      strictWeightedRowCounts_eq_ok.mpr ⟨positive, rfl⟩, fits⟩

/-- What the search of `_largest_feasible_rows` ends at. -/
theorem exists_searchUnits
    (available : Domain -> Nat) (maximumRows : Nat)
    (quantum : 1 ≤ rowQuantum) :
    ∃ units, searchUnits (fun units => do
        let counts ←
          strictWeightedRowCounts (units * rowQuantum) expectedWeights
        return decide (∀ domain ∈ Domain.order,
          counts domain ≤ available domain))
        0 (maximumRows / rowQuantum) = .ok units ∧
      units ≤ maximumRows / rowQuantum ∧
      (1 ≤ units -> AllocationFits available (units * rowQuantum)) ∧
      ∀ more, units < more -> more ≤ maximumRows / rowQuantum ->
        ¬AllocationFits available (more * rowQuantum) := by
  have decides (units : Nat) (positive : 1 ≤ units) :
      (do
        let counts ←
          strictWeightedRowCounts (units * rowQuantum) expectedWeights
        return decide (∀ domain ∈ Domain.order,
          counts domain ≤ available domain) : Checked Bool) =
        .ok (decide (AllocationFits available (units * rowQuantum))) := by
    have counts : strictWeightedRowCounts (units * rowQuantum)
        expectedWeights = .ok (weightedRowCounts (units * rowQuantum)
          expectedWeights) :=
      strictWeightedRowCounts_eq_ok.mpr
        ⟨Nat.mul_pos positive quantum, rfl⟩
    rw [counts, checked_ok_bind]
    rfl
  have closed (less more : Nat) (le : less ≤ more)
      (fits : AllocationFits available (more * rowQuantum)) :
      AllocationFits available (less * rowQuantum) :=
    fun domain listed => (weightedRowCounts_mono
      (Nat.mul_le_mul_right rowQuantum le) domain).trans (fits domain listed)
  obtain ⟨units, ended, -, upper, found, maximal⟩ :=
    searchUnits_eq decides closed (Nat.zero_le (maximumRows / rowQuantum))
  exact ⟨units, ended, upper, fun positive => found (by omega), maximal⟩

/-- `_largest_feasible_rows` returns the greatest feasible rows. -/
theorem largestFeasibleRows_eq_ok_iff :
    largestFeasibleRows available maximumRows rowQuantum = .ok rows ↔
      IsGreatest {rows | FeasibleRows available maximumRows rowQuantum rows}
        rows := by
  rcases Nat.eq_zero_or_pos rowQuantum with rfl | quantum
  · rw [largestFeasibleRows, require_eq_error (by omega)]
    refine ⟨by rintro ⟨⟩, fun greatest => ?_⟩
    have feasible : FeasibleRows available maximumRows 0 rows := greatest.1
    have none := Nat.eq_zero_of_zero_dvd feasible.quantum
    have positive := feasible.positive
    omega
  obtain ⟨units, ended, upper, found, maximal⟩ :=
    exists_searchUnits available maximumRows quantum
  have inside : units * rowQuantum ≤ maximumRows :=
    (Nat.le_div_iff_mul_le quantum).mp upper
  -- Every feasible number of rows is a number of quanta that was searched.
  have bounded {rows : Nat}
      (feasible : FeasibleRows available maximumRows rowQuantum rows) :
      rows ≤ units * rowQuantum := by
    obtain ⟨divides, -, within, fits⟩ := feasibleRows_iff.mp feasible
    obtain ⟨quanta, rfl⟩ := divides
    rw [Nat.mul_comm] at within fits ⊢
    have searched := (Nat.le_div_iff_mul_le quantum).mpr within
    by_contra beyond
    exact maximal quanta (lt_of_mul_lt_mul_right (not_le.mp beyond)
      (Nat.zero_le _)) searched fits
  rw [largestFeasibleRows, require_then_eq_ok, ended, checked_ok_bind,
    require_then_eq_ok, checked_pure_eq_ok]
  constructor
  · rintro ⟨-, positive, rfl⟩
    refine ⟨feasibleRows_iff.mpr ⟨Dvd.intro_left _ rfl, positive, inside,
      found (Nat.pos_of_mul_pos_right positive)⟩, fun _ => bounded⟩
  · intro greatest
    obtain ⟨-, positive, within, -⟩ := feasibleRows_iff.mp greatest.1
    have atMost := bounded greatest.1
    have atLeast : units * rowQuantum ≤ rows :=
      greatest.2 (feasibleRows_iff.mpr ⟨Dvd.intro_left _ rfl, by omega,
        inside, found (Nat.pos_of_mul_pos_right (by omega :
          0 < units * rowQuantum))⟩)
    exact ⟨⟨by omega, quantum⟩, by omega, by omega⟩

/-- `_largest_feasible_rows` raises exactly when no rows are feasible. -/
theorem largestFeasibleRows_eq_error_iff :
    (∃ error, largestFeasibleRows available maximumRows rowQuantum =
        .error error) ↔
      ∀ rows, ¬FeasibleRows available maximumRows rowQuantum rows := by
  constructor
  · rintro ⟨error, raised⟩ rows feasible
    have bounded : BddAbove
        {rows | FeasibleRows available maximumRows rowQuantum rows} :=
      ⟨maximumRows, fun _ feasible => feasible.within⟩
    have greatest : IsGreatest
        {rows | FeasibleRows available maximumRows rowQuantum rows}
        (sSup {rows | FeasibleRows available maximumRows rowQuantum rows}) :=
      ⟨Nat.sSup_mem ⟨rows, feasible⟩ bounded,
        fun _ feasible => le_csSup bounded feasible⟩
    rw [largestFeasibleRows_eq_ok_iff.mpr greatest] at raised
    cases raised
  · intro none
    cases outcome : largestFeasibleRows available maximumRows rowQuantum with
    | error error => exact ⟨error, rfl⟩
    | ok rows =>
        exact absurd (largestFeasibleRows_eq_ok_iff.mp outcome).1 (none rows)

end Greatest

/-! ## Targets and budgets -/

namespace CorpusQualification

variable {Digest Cursor Json : Type} [DecidableEq Digest]
variable {environment : FinalizerEnvironment Digest Cursor Json}
variable {supply : PackedSupply environment} {plan : OrderPlan}
variable {config : FinalizationConfig} {rows : Nat}

/-- The budget of the train rows is met. -/
theorem meets_of_targetRows_train
    {geometry : Option FrozenGeometry}
    (targeted : supply.authority.targetRows config .train geometry =
      .ok rows) :
    ∃ plan, supply.authority.orderPlan config .train geometry = .ok plan ∧
      plan.split = .train ∧ Meets supply plan rows ∧
        ∃ frozen, plan.geometry = some frozen ∧ frozen.updateRows ∣ rows := by
  have reads := targeted
  simp only [Authority.targetRows, alignedTrainRows, checked_bind_eq_ok,
    exists_require, checked_pure_eq_ok, requireObject_eq_ok,
    strictWeightedRowCounts_eq_ok] at reads
  obtain ⟨frozen, rfl, aligned, ⟨⟨capPos, -, -⟩, -, whole⟩, counts,
    ⟨positive, rfl⟩, enough, rfl⟩ := reads
  have below : aligned * supply.sequenceLength ≤ config.cap .train := by
    rw [← whole]
    calc config.cap .train / supply.sequenceLength / frozen.updateRows *
            frozen.updateRows * supply.sequenceLength
        ≤ config.cap .train / supply.sequenceLength *
            supply.sequenceLength :=
          Nat.mul_le_mul_right _ (Nat.div_mul_le_self _ _)
      _ ≤ config.cap .train := Nat.div_mul_le_self _ _
  refine ⟨⟨.train, config.orderSeed + Split.index .train, some frozen,
    config.maximumTrainInputTokens, aligned * supply.sequenceLength,
    config.maximumTrainInputTokens - aligned * supply.sequenceLength⟩, ?_,
    rfl, ?_, frozen, rfl, ?_⟩
  · rw [Authority.orderPlan, targeted, checked_ok_bind]
    exact require_bind below _
  · constructor
    case expected_pos => exact capPos
    case selectable => exact whole
    case rows_pos => exact positive
    case actual_eq => rfl
    case tolerance_eq => exact Nat.add_sub_of_le below
    case enough => exact fun domain => enough domain domain.mem_order
  · rw [← whole]
    exact Dvd.intro_left _ rfl

/-- The budget of held-out rows is met. -/
theorem meets_of_feasibleRows
    {split : Split} {seed maximumRows : Nat}
    (feasible : FeasibleRows (supply.rows split) maximumRows 5 rows) :
    Meets supply ⟨split, seed, none, rows * supply.sequenceLength,
      rows * supply.sequenceLength, 0⟩ rows := by
  obtain ⟨-, positive, -, fits⟩ := feasibleRows_iff.mp feasible
  have width := supply.sequenceLength_pos
  constructor
  case expected_pos => exact Nat.mul_pos positive width
  case selectable => exact Nat.mul_div_cancel _ width
  case rows_pos => exact positive
  case actual_eq => rfl
  case tolerance_eq => rfl
  case enough => exact fun domain => fits domain domain.mem_order

/-- The budget of the rows of a target is met. -/
theorem meets_of_targetRows
    {split : Split} {geometry : Option FrozenGeometry}
    (targeted : supply.authority.targetRows config split geometry = .ok rows) :
    ∃ plan, supply.authority.orderPlan config split geometry = .ok plan ∧
      plan.split = split ∧ Meets supply plan rows ∧
        (split = .train -> ∃ frozen, plan.geometry = some frozen ∧
          frozen.updateRows ∣ rows) := by
  have heldout (isHeldout : split ≠ .train)
      (found : largestFeasibleRows (supply.rows split)
        (config.cap split / supply.sequenceLength) 5 = .ok rows)
      (planned : supply.authority.orderPlan config split geometry =
        .ok ⟨split, config.orderSeed + split.index, none,
          rows * supply.sequenceLength, rows * supply.sequenceLength, 0⟩) :
      ∃ plan, supply.authority.orderPlan config split geometry = .ok plan ∧
        plan.split = split ∧ Meets supply plan rows ∧
          (split = .train -> ∃ frozen, plan.geometry = some frozen ∧
            frozen.updateRows ∣ rows) :=
    ⟨_, planned, rfl,
      meets_of_feasibleRows (largestFeasibleRows_eq_ok_iff.mp found).1,
      fun isTrain => absurd isTrain isHeldout⟩
  cases split with
  | train =>
      obtain ⟨plan, planned, isTrain, meets, whole⟩ :=
        meets_of_targetRows_train targeted
      exact ⟨plan, planned, isTrain, meets, fun _ => whole⟩
  | validation =>
      refine heldout (by decide) targeted ?_
      rw [Authority.orderPlan, targeted, checked_ok_bind]
      rfl
  | test =>
      refine heldout (by decide) targeted ?_
      rw [Authority.orderPlan, targeted, checked_ok_bind]
      rfl

/-- What the document of an order of a plan says of its rows. -/
structure RecordsRows
    (order : PublishedOrder Digest) (split : Split) (rows : Nat) : Prop where
  rows_eq : order.document.rows = .int rows
  nothingDropped : split = .train ->
    ∃ consumption, order.document.trainingConsumption = some consumption ∧
      consumption.droppedTailRows = .int 0

/-- The order of a plan that is met is built and accepted, and records its
rows. -/
theorem Meets.recordsRows
    {split : Split}
    (meets : Meets supply plan rows)
    (whole : split = .train -> ∃ frozen, plan.geometry = some frozen ∧
      frozen.updateRows ∣ rows) :
    ∃ directory order,
      environment.intendedOrder supply.store plan = .ok (directory, order) ∧
        RecordsRows order split rows := by
  obtain ⟨directory, order, -, intended, -, -⟩ := meets.built
  refine ⟨directory, order, intended, ?_⟩
  obtain ⟨built, accepted⟩ :=
    FinalizerEnvironment.intendedOrder_eq_ok.mp intended
  obtain ⟨draft, success, rfl⟩ := buildTrainingOrder_eq_ok built
  have drafted := drafted_of_draftTrainingOrder success
  have inputs := supply.inputs plan.split
  obtain ⟨-, -, manifests, -⟩ := drafted.inputs_eq rfl inputs.stored
    fun domain => ⟨true, inputs.validated domain⟩
  obtain ⟨target, drafts⟩ := exists_draftsPlan drafted
  obtain ⟨-, -, totalRows, -⟩ := meets.common_eq drafts manifests
  have document := Option.some.inj accepted.manifest
  constructor
  · rw [← document]
    change PyValue.int draft.selection.totalRows = _
    rw [totalRows]
  · intro isTrain
    obtain ⟨frozen, isFrozen, updates⟩ := whole isTrain
    have geometry := drafts.geometry_eq.trans isFrozen
    have consumed : frozen.consumedRows rows = rows :=
      Nat.div_mul_cancel updates
    rw [← document]
    refine ⟨draft.trainingConsumption, rfl, ?_⟩
    rw [OrderDraft.trainingConsumption, geometry, totalRows]
    change PyValue.int (rows - frozen.consumedRows rows : Int) = .int 0
    rw [consumed, sub_self]

/-- Caps of a thousand rows of four tokens, and three tokens. -/
def thousandRowFinalization : FinalizationConfig where
  orderSeed := 7
  maximumTrainInputTokens := 4003
  maximumValidationInputTokens := 4003
  maximumTestInputTokens := 4003
  expectedOptimizerBatchRows := 192
  worldSize := 6
  maximumTrainInputTokens_pos := by decide
  maximumValidationInputTokens_pos := by decide
  maximumTestInputTokens_pos := by decide
  expectedOptimizerBatchRows_pos :=
    (productionFinalization 7).expectedOptimizerBatchRows_pos
  worldSize_pos := (productionFinalization 7).worldSize_pos

end CorpusQualification
end CodingLlm
