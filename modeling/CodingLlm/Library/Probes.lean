import Mathlib.Data.Finset.Sort

/-!
# Sampling an ordered list by probes

A probe reads a bounded number of rows from a key on.  Rows are collected from
one probe after the other until there are enough; which rows a list of probes
can reach decides how many there will be.
-/

namespace CodingLlm
namespace Probes

variable {κ : Type*} [LinearOrder κ]

/-- The first rows at or after a key. -/
def successors (rows : List κ) (limit : Nat) (key : κ) : List κ :=
  (rows.filter fun row => key ≤ row).take limit

/-- One more row; enough rows end the search. -/
def collect (target : Nat) (selected : Finset κ) (row : κ) :
    Except (Finset κ) (Finset κ) :=
  let selected := insert row selected
  if selected.card = target then .error selected else .ok selected

/-- The rows of one probe after the other. -/
def collectProbes (rows : List κ) (limit target : Nat)
    (selected : Finset κ) (keys : List κ) :
    Except (Finset κ) (Finset κ) :=
  keys.foldlM (fun selected key =>
    (successors rows limit key).foldlM (collect target) selected) selected

/-- A row is reached by a probe. -/
def Reached (rows : List κ) (limit : Nat) (keys : List κ) (row : κ) : Prop :=
  ∃ key ∈ keys, row ∈ successors rows limit key

/-- What a search ends with: enough of the rows within reach, or all of
them. -/
structure Collected (target : Nat) (reach selected : Finset κ) : Prop where
  subset : selected ⊆ reach
  card : selected.card = min target reach.card

/-! ## Reach of a probe -/

theorem successors_subset
    {rows : List κ} {limit : Nat} {key row : κ}
    (member : row ∈ successors rows limit key) : row ∈ rows ∧ key ≤ row := by
  have kept := List.mem_filter.mp (List.mem_of_mem_take member)
  exact ⟨kept.1, decide_eq_true_eq.mp kept.2⟩

/-- A sorted list's row is among the first of its kind if few rows precede
it. -/
theorem mem_take_filter_iff
    {rows : List κ} (sorted : rows.Pairwise (· < ·)) {limit : Nat} {row : κ}
    (member : row ∈ rows) :
    row ∈ rows.take limit ↔
      (rows.filter fun other => other < row).length < limit := by
  induction rows generalizing limit with
  | nil => exact absurd member List.not_mem_nil
  | cons first rest inductionHypothesis =>
      obtain ⟨below, sortedRest⟩ := List.pairwise_cons.mp sorted
      cases limit with
      | zero => simp
      | succ limit =>
          rw [List.take_succ_cons, List.mem_cons]
          by_cases same : row = first
          · subst same
            have none : (row :: rest).filter (fun other => other < row) =
                [] := by
              rw [List.filter_eq_nil_iff]
              intro other otherMember
              rcases List.mem_cons.mp otherMember with rfl | later
              · simp
              · simpa using (below other later).le
            simp [none]
          · have inRest : row ∈ rest :=
              (List.mem_cons.mp member).resolve_left same
            rw [List.filter_cons_of_pos (by simpa using below row inRest),
              List.length_cons, Nat.succ_lt_succ_iff,
              ← inductionHypothesis sortedRest inRest]
            exact or_iff_right same

/-- A probe reaches the rows with few rows between it and them. -/
theorem mem_successors_iff
    {rows : List κ} (sorted : rows.Pairwise (· < ·)) {limit : Nat}
    {key row : κ} :
    row ∈ successors rows limit key ↔ row ∈ rows ∧ key ≤ row ∧
      (rows.filter fun other => key ≤ other ∧ other < row).length < limit := by
  by_cases reachable : row ∈ rows ∧ key ≤ row
  · have kept : row ∈ rows.filter fun other => key ≤ other :=
      List.mem_filter.mpr ⟨reachable.1, decide_eq_true_eq.mpr reachable.2⟩
    have sortedKept : (rows.filter fun other => key ≤ other).Pairwise
        (· < ·) := sorted.filter _
    rw [successors, mem_take_filter_iff sortedKept kept, List.filter_filter]
    simp only [reachable, true_and, Bool.decide_and, Bool.and_comm]
  · constructor
    · exact fun member => absurd (successors_subset member) reachable
    · exact fun member => absurd ⟨member.1, member.2.1⟩ reachable

/-! ## Searches -/

theorem foldlM_collect
    {target : Nat} {selected : Finset κ} (few : selected.card < target)
    (found : List κ) :
    match found.foldlM (collect target) selected with
    | .error returned => returned.card = target ∧
        returned ⊆ selected ∪ found.toFinset
    | .ok more => more.card < target ∧ more = selected ∪ found.toFinset := by
  induction found generalizing selected with
  | nil => exact ⟨few, (Finset.union_empty selected).symm⟩
  | cons row rest inductionHypothesis =>
      have regroup : selected ∪ (row :: rest).toFinset =
          insert row selected ∪ rest.toFinset := by
        rw [List.toFinset_cons, Finset.union_insert, Finset.insert_union]
      rw [List.foldlM_cons, regroup]
      by_cases enough : (insert row selected).card = target
      · have stops : collect target selected row =
            .error (insert row selected) := if_pos enough
        rw [stops]
        exact ⟨enough, Finset.subset_union_left⟩
      · have continues : collect target selected row =
            .ok (insert row selected) := if_neg enough
        have stillFew : (insert row selected).card < target := by
          have grown := Finset.card_insert_le row selected
          omega
        rw [continues]
        exact inductionHypothesis stillFew

theorem collectProbes_eq
    {rows : List κ} {limit target : Nat} {selected : Finset κ}
    (keys : List κ) :
    collectProbes rows limit target selected keys =
      (keys.flatMap (successors rows limit)).foldlM (collect target)
        selected := by
  induction keys generalizing selected with
  | nil => rfl
  | cons key rest inductionHypothesis =>
      rw [List.flatMap_cons, List.foldlM_append, collectProbes,
        List.foldlM_cons]
      congr 1
      funext more
      exact inductionHypothesis

/-- What a list of probes collects. -/
theorem collectProbes_spec
    {rows : List κ} {limit target : Nat} {selected : Finset κ}
    (few : selected.card < target) (keys : List κ) :
    match collectProbes rows limit target selected keys with
    | .error returned => returned.card = target ∧
        returned ⊆ selected ∪ (keys.flatMap (successors rows limit)).toFinset
    | .ok more => more.card < target ∧
        more = selected ∪
          (keys.flatMap (successors rows limit)).toFinset := by
  rw [collectProbes_eq]
  exact foldlM_collect few _

/-- A search within the rows finds them all if and only if every row is
reached. -/
theorem Collected.card_eq_iff
    {rows : List κ} (distinct : rows.Nodup) {limit : Nat} {keys : List κ}
    {selected : Finset κ}
    (collected : Collected rows.length
      (keys.flatMap (successors rows limit)).toFinset selected) :
    selected.card = rows.length ↔ ∀ row ∈ rows, Reached rows limit keys row := by
  have within : (keys.flatMap (successors rows limit)).toFinset ⊆
      rows.toFinset := by
    intro row member
    obtain ⟨key, -, found⟩ := List.mem_flatMap.mp (List.mem_toFinset.mp member)
    exact List.mem_toFinset.mpr (successors_subset found).1
  have size : rows.toFinset.card = rows.length :=
    List.toFinset_card_of_nodup distinct
  have bounded := Finset.card_le_card within
  rw [collected.card]
  constructor
  · intro full row member
    have whole := Finset.eq_of_subset_of_card_le within (by omega)
    have found : row ∈ (keys.flatMap (successors rows limit)).toFinset :=
      whole ▸ List.mem_toFinset.mpr member
    exact List.mem_flatMap.mp (List.mem_toFinset.mp found)
  · intro reached
    have whole : rows.toFinset ⊆
        (keys.flatMap (successors rows limit)).toFinset := by
      intro row member
      exact List.mem_toFinset.mpr
        (List.mem_flatMap.mpr (reached row (List.mem_toFinset.mp member)))
    have enough := Finset.card_le_card whole
    omega

end Probes
end CodingLlm
