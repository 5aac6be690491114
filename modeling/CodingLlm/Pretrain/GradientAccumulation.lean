import CodingLlm.Pretrain.WindowAccounting
import Mathlib.Algebra.BigOperators.Fin
import Mathlib.Algebra.Module.LinearMap.Defs
import Mathlib.Algebra.Module.Rat
import Mathlib.Algebra.Order.BigOperators.Group.Finset

/-!
# Gradient accumulation

The accumulation window of `Trainer.train`: every rank adds up the gradients of
its microbatches' loss sums, the last backward pass averages them over the
ranks, and they are scaled by the number of ranks over the supervised tokens of
all ranks.  Losses are elements of a vector space over the rationals, and the
backward pass is linear.
-/

namespace CodingLlm

/-- What an update reads of the packed rows: of each reference the loss sum of
its row and the number of its supervised tokens. -/
structure RowLosses (Loss : Type) where
  lossSum : Nat -> Loss
  lossTokens : Nat -> Nat

namespace RowLosses

variable {Loss : Type} [AddCommGroup Loss]

/-- `output.loss_sum` of a microbatch. -/
def microbatchLoss (rows : RowLosses Loss) (references : List Nat) : Loss :=
  (references.map rows.lossSum).sum

omit [AddCommGroup Loss] in
/-- `token_count` of a microbatch. -/
def tokenCount (rows : RowLosses Loss) (references : List Nat) : Nat :=
  (references.map rows.lossTokens).sum

end RowLosses

/-- The gradients and the counters of the ranks in a window. -/
structure AccumulationState (Gradient : Type) (worldSize : Nat) where
  gradients : Fin worldSize -> Gradient
  lossTokens : Fin worldSize -> Nat

section Window

variable {Loss Gradient : Type}
variable [AddCommGroup Loss] [Module ℚ Loss]
variable [AddCommGroup Gradient] [Module ℚ Gradient]
variable {worldSize : Nat}

/-- The all-reduce of DDP, which averages over the ranks.  A single rank is not
wrapped. -/
def averageGradients (gradients : Fin worldSize -> Gradient) :
    Fin worldSize -> Gradient :=
  if 1 < worldSize then
    fun _ => (worldSize : ℚ)⁻¹ • ∑ rank, gradients rank
  else gradients

variable (backward : Loss →ₗ[ℚ] Gradient) (rows : RowLosses Loss)

/-- The body of the loop over the microbatches of a window; only the last one
is not inside `no_sync`. -/
def accumulate (steps : Nat) (microbatches : Nat -> Fin worldSize -> List Nat)
    (state : AccumulationState Gradient worldSize) (index : Nat) :
    Checked (AccumulationState Gradient worldSize) := do
  let _ ← require (∀ rank, 1 ≤ rows.tokenCount (microbatches index rank))
    (.valueError "Microbatch contains no supervised tokens")
  let gradients := fun rank => state.gradients rank +
    backward (rows.microbatchLoss (microbatches index rank))
  return {
    gradients :=
      if index + 1 = steps then averageGradients gradients else gradients
    lossTokens := fun rank =>
      state.lossTokens rank + rows.tokenCount (microbatches index rank) }

/-- The window of an update, up to the gradients that are clipped and given to
the optimizer. -/
def updateGradients
    (steps : Nat) (microbatches : Nat -> Fin worldSize -> List Nat) :
    Checked (Fin worldSize -> Gradient) := do
  let state ← (List.range steps).foldlM
    (accumulate backward rows steps microbatches)
    ⟨fun _ => 0, fun _ => 0⟩
  let globalLossTokens := ∑ rank, state.lossTokens rank
  let _ ← require (1 ≤ globalLossTokens)
    (.valueError "Accumulation window contains no supervised tokens")
  let gradientScale : ℚ := worldSize / globalLossTokens
  return fun rank => gradientScale • state.gradients rank

/-- The gradient of the mean token loss of some rows. -/
def meanGradient (references : List Nat) : Gradient :=
  backward ((rows.tokenCount references : ℚ)⁻¹ •
    rows.microbatchLoss references)

end Window

/-- What a rank has drawn in the first microbatches of a window. -/
def drawnReferences {worldSize : Nat}
    (microbatches : Nat -> Fin worldSize -> List Nat) (count : Nat)
    (rank : Fin worldSize) : List Nat :=
  (List.range count).flatMap fun index => microbatches index rank

/-! ## Sums over references -/

namespace RowLosses

variable {Loss : Type} [AddCommGroup Loss] (rows : RowLosses Loss)

theorem microbatchLoss_append (front back : List Nat) :
    rows.microbatchLoss (front ++ back) =
      rows.microbatchLoss front + rows.microbatchLoss back := by
  simp [microbatchLoss]

omit [AddCommGroup Loss] in
theorem tokenCount_append (front back : List Nat) :
    rows.tokenCount (front ++ back) =
      rows.tokenCount front + rows.tokenCount back := by
  simp [tokenCount]

theorem microbatchLoss_perm {first second : List Nat}
    (perm : first.Perm second) :
    rows.microbatchLoss first = rows.microbatchLoss second :=
  (perm.map rows.lossSum).sum_eq

omit [AddCommGroup Loss] in
theorem tokenCount_perm {first second : List Nat}
    (perm : first.Perm second) :
    rows.tokenCount first = rows.tokenCount second :=
  (perm.map rows.lossTokens).sum_eq

theorem microbatchLoss_ranks {worldSize : Nat}
    (drawn : Fin worldSize -> List Nat) :
    rows.microbatchLoss ((List.finRange worldSize).flatMap drawn) =
      ∑ rank, rows.microbatchLoss (drawn rank) := by
  rw [microbatchLoss, List.map_flatMap, List.flatMap_def, List.sum_flatten,
    List.map_map, Fin.sum_univ_def]
  rfl

omit [AddCommGroup Loss] in
theorem tokenCount_ranks {worldSize : Nat}
    (drawn : Fin worldSize -> List Nat) :
    rows.tokenCount ((List.finRange worldSize).flatMap drawn) =
      ∑ rank, rows.tokenCount (drawn rank) := by
  rw [tokenCount, List.map_flatMap, List.flatMap_def, List.sum_flatten,
    List.map_map, Fin.sum_univ_def]
  rfl

omit [AddCommGroup Loss] in
/-- References whose rows are supervised count some tokens. -/
theorem tokenCount_pos {references : List Nat} (nonempty : references ≠ [])
    (supervised : ∀ reference ∈ references,
      1 ≤ rows.lossTokens reference) : 1 ≤ rows.tokenCount references := by
  obtain ⟨reference, rest, rfl⟩ := List.exists_cons_of_ne_nil nonempty
  have first := supervised reference List.mem_cons_self
  rw [tokenCount, List.map_cons, List.sum_cons]
  omega

end RowLosses

/-! ## Windows -/

section Window

variable {Loss Gradient : Type}
variable [AddCommGroup Loss] [Module ℚ Loss]
variable [AddCommGroup Gradient] [Module ℚ Gradient]
variable {worldSize steps count : Nat}
variable {backward : Loss →ₗ[ℚ] Gradient} {rows : RowLosses Loss}
variable {microbatches : Nat -> Fin worldSize -> List Nat}
variable {state : AccumulationState Gradient worldSize}

theorem drawnReferences_succ (rank : Fin worldSize) :
    drawnReferences microbatches (count + 1) rank =
      drawnReferences microbatches count rank ++ microbatches count rank := by
  rw [drawnReferences, List.range_succ, List.flatMap_append,
    List.flatMap_singleton]
  rfl

/-- Averaging, whether or not the model is wrapped. -/
theorem averageGradients_eq (positive : 0 < worldSize)
    (gradients : Fin worldSize -> Gradient) :
    averageGradients gradients =
      fun _ => (worldSize : ℚ)⁻¹ • ∑ rank, gradients rank := by
  unfold averageGradients
  split
  · rfl
  · obtain rfl : worldSize = 1 := by omega
    funext rank
    rw [Fin.sum_univ_one, Nat.cast_one, inv_one, one_smul,
      Subsingleton.elim rank 0]

/-- What the ranks hold inside a window. -/
structure Accumulated (backward : Loss →ₗ[ℚ] Gradient)
    (rows : RowLosses Loss) (steps : Nat)
    (microbatches : Nat -> Fin worldSize -> List Nat) (count : Nat)
    (state : AccumulationState Gradient worldSize) : Prop where
  local_ : count < steps -> ∀ rank, state.gradients rank =
    backward (rows.microbatchLoss (drawnReferences microbatches count rank))
  averaged : count = steps -> ∀ rank, state.gradients rank =
    (worldSize : ℚ)⁻¹ • ∑ other, backward
      (rows.microbatchLoss (drawnReferences microbatches count other))
  lossTokens : ∀ rank, state.lossTokens rank =
    rows.tokenCount (drawnReferences microbatches count rank)

/-- One microbatch of every rank. -/
theorem Accumulated.accumulate
    (positive : 0 < worldSize) (inside : count < steps)
    (accumulated :
      Accumulated backward rows steps microbatches count state)
    {next : AccumulationState Gradient worldSize}
    (ran : CodingLlm.accumulate backward rows steps microbatches state count =
      .ok next) :
    Accumulated backward rows steps microbatches (count + 1) next := by
  simp only [CodingLlm.accumulate, require_then_eq_ok,
    checked_pure_eq_ok] at ran
  obtain ⟨-, rfl⟩ := ran
  have added (rank : Fin worldSize) : state.gradients rank +
      backward (rows.microbatchLoss (microbatches count rank)) =
        backward (rows.microbatchLoss
          (drawnReferences microbatches (count + 1) rank)) := by
    rw [accumulated.local_ inside rank, drawnReferences_succ,
      rows.microbatchLoss_append, map_add]
  constructor
  · intro before rank
    dsimp only
    rw [if_neg (by omega), added rank]
  · intro atEnd rank
    dsimp only
    rw [if_pos atEnd, averageGradients_eq positive]
    simp only [added]
  · intro rank
    dsimp only
    rw [accumulated.lossTokens rank, drawnReferences_succ,
      rows.tokenCount_append]

/-- The microbatches of a window up to one of them. -/
theorem Accumulated.window
    (positive : 0 < worldSize) (inside : count ≤ steps)
    (ran : (List.range count).foldlM
      (CodingLlm.accumulate backward rows steps microbatches)
      ⟨fun _ => 0, fun _ => 0⟩ = .ok state) (some : 0 < steps) :
    Accumulated backward rows steps microbatches count state := by
  induction count generalizing state with
  | zero =>
      obtain rfl := Except.ok.inj ran
      refine ⟨fun _ rank => ?_, fun none => ?_, fun _ => rfl⟩
      · exact (map_zero backward).symm
      · omega
  | succ count inductionHypothesis =>
      rw [List.range_succ, List.foldlM_append, checked_bind_eq_ok] at ran
      obtain ⟨before, earlier, last⟩ := ran
      obtain ⟨next, stepped, ended⟩ := checked_bind_eq_ok.mp last
      obtain rfl := Except.ok.inj ended
      exact (inductionHypothesis (by omega) earlier).accumulate positive
        (by omega) stepped

/-- A window scales to the gradient of the mean token loss of what the ranks
drew. -/
theorem updateGradients_eq
    (positive : 0 < worldSize) (some : 0 < steps) {references : List Nat}
    (drawn : ((List.finRange worldSize).flatMap
      (drawnReferences microbatches steps)).Perm references)
    {gradients : Fin worldSize -> Gradient}
    (ran : updateGradients backward rows steps microbatches = .ok gradients) :
    gradients = fun _ => meanGradient backward rows references := by
  simp only [updateGradients, checked_bind_eq_ok, exists_require,
    checked_pure_eq_ok] at ran
  obtain ⟨state, window, -, rfl⟩ := ran
  have accumulated := Accumulated.window positive le_rfl window some
  have tokens : ∑ rank, state.lossTokens rank = rows.tokenCount references := by
    rw [← rows.tokenCount_perm drawn, rows.tokenCount_ranks]
    exact Finset.sum_congr rfl fun rank _ => accumulated.lossTokens rank
  have losses : ∑ rank, backward
      (rows.microbatchLoss (drawnReferences microbatches steps rank)) =
        backward (rows.microbatchLoss references) := by
    rw [← map_sum, ← rows.microbatchLoss_ranks, rows.microbatchLoss_perm drawn]
  have ranks : (worldSize : ℚ) ≠ 0 := Nat.cast_ne_zero.mpr positive.ne'
  funext rank
  rw [accumulated.averaged rfl rank, losses, tokens, smul_smul, meanGradient,
    map_smul]
  congr 1
  field_simp

/-- A window of supervised microbatches has its gradients. -/
theorem exists_updateGradients
    (positive : 0 < worldSize) (some : 0 < steps)
    (supervised : ∀ index < steps, ∀ rank,
      1 ≤ rows.tokenCount (microbatches index rank)) :
    ∃ gradients,
      updateGradients backward rows steps microbatches = .ok gradients := by
  have window (count : Nat) (inside : count ≤ steps) :
      ∃ state, (List.range count).foldlM
        (accumulate backward rows steps microbatches)
        ⟨fun _ => 0, fun _ => 0⟩ = .ok state := by
    induction count with
    | zero => exact ⟨_, rfl⟩
    | succ count inductionHypothesis =>
        obtain ⟨before, earlier⟩ := inductionHypothesis (by omega)
        rw [List.range_succ, List.foldlM_append, earlier, checked_ok_bind,
          List.foldlM_cons, accumulate,
          require_bind (supervised count (by omega))]
        exact ⟨_, rfl⟩
  obtain ⟨state, ran⟩ := window steps le_rfl
  have accumulated := Accumulated.window positive le_rfl ran some
  have counted : 1 ≤ ∑ rank, state.lossTokens rank := by
    have first : 1 ≤ state.lossTokens ⟨0, positive⟩ := by
      rw [accumulated.lossTokens]
      obtain ⟨steps, rfl⟩ := Nat.exists_eq_add_of_lt some
      rw [Nat.zero_add, drawnReferences_succ, rows.tokenCount_append]
      have last := supervised steps (by omega) ⟨0, positive⟩
      omega
    exact first.trans
      (Finset.single_le_sum (fun _ _ => Nat.zero_le _) (Finset.mem_univ _))
  unfold updateGradients
  rw [ran, checked_ok_bind, require_bind counted]
  exact ⟨_, rfl⟩

end Window

end CodingLlm
