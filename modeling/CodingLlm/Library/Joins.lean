import CodingLlm.Library.Queries
import Mathlib.Algebra.Order.BigOperators.Group.List
import Mathlib.Tactic.Abel

/-!
# Joins and sums over groups

A left join with a table on its key adds at most one row to each row, and sums
over the groups of a query are sums over its rows.
-/

namespace CodingLlm

/-- `LEFT JOIN`. -/
def leftJoin (on : α -> β -> Bool) (rows : List α) (other : List β) :
    List (α × Option β) :=
  rows.flatMap fun row =>
    match other.filter (on row) with
    | [] => [(row, none)]
    | matched => matched.map fun entry => (row, some entry)

namespace Table

variable {κ α β : Type} [LinearOrder κ]

/-- Rows with one key, and perhaps more. -/
theorem filter_key
    (table : Table κ β) (key : κ) (also : β -> Bool) :
    table.rows.filter (fun entry => decide (entry.1 = key) && also entry.2) =
      (((table.lookup key).filter also).map fun value =>
        (key, value)).toList := by
  have onKey : table.rows.filter (fun entry => decide (entry.1 = key)) =
      ((table.lookup key).map fun value => (key, value)).toList := by
    have distinct := table.keys_nodup
    unfold keys at distinct
    unfold lookup
    generalize table.rows = rows at distinct ⊢
    induction rows with
    | nil => rfl
    | cons row rest inductionHypothesis =>
        rw [List.map_cons, List.nodup_cons] at distinct
        by_cases same : row.1 = key
        · have none : rest.filter (fun entry => decide (entry.1 = key)) =
              [] := by
            rw [List.filter_eq_nil_iff]
            intro entry member equal
            apply distinct.1
            rw [same, ← of_decide_eq_true equal]
            exact List.mem_map_of_mem member
          rw [List.filter_cons_of_pos (by simpa using same), none,
            List.find?_cons_of_pos (by simpa using same)]
          simp [← same]
        · rw [List.filter_cons_of_neg (by simpa using same),
            List.find?_cons_of_neg (by simpa using same)]
          exact inductionHypothesis distinct.2
  have split : table.rows.filter
      (fun entry => decide (entry.1 = key) && also entry.2) =
        (table.rows.filter fun entry => decide (entry.1 = key)).filter
          fun entry => also entry.2 := by
    rw [List.filter_filter]
    congr 1
    funext entry
    exact Bool.and_comm _ _
  rw [split, onKey]
  cases table.lookup key with
  | none => rfl
  | some value =>
      by_cases holds : also value <;> simp [holds, Option.filter]

/-- A left join on the key of a table looks the key up. -/
theorem leftJoin_key
    (table : Table κ β) (key : α -> κ) (also : α -> β -> Bool)
    (rows : List α) :
    leftJoin (fun row entry => decide (entry.1 = key row) && also row entry.2)
        rows table.rows =
      rows.map fun row =>
        (row, ((table.lookup (key row)).filter (also row)).map fun value =>
          (key row, value)) := by
  unfold leftJoin
  induction rows with
  | nil => rfl
  | cons row rest inductionHypothesis =>
      rw [List.flatMap_cons, inductionHypothesis, List.map_cons,
        table.filter_key (key row) (also row)]
      cases (table.lookup (key row)).filter (also row) <;> rfl

/-- A left join on the key alone. -/
theorem leftJoin_keyOnly
    (table : Table κ β) (key : α -> κ) (rows : List α) :
    leftJoin (fun row entry => decide (entry.1 = key row)) rows table.rows =
      rows.map fun row =>
        (row, (table.lookup (key row)).map fun value => (key row, value)) := by
  have all := table.leftJoin_key key (fun _ _ => true) rows
  simp only [Bool.and_true] at all
  rw [all]
  apply List.map_congr_left
  intro row _
  cases table.lookup (key row) <;> rfl

/-! ## Sums over groups -/

variable {μ : Type} [AddCancelCommMonoid μ]

theorem sum_upsert
    (table : Table κ α) (measure : κ -> α -> μ) (key : κ) (value : α) :
    ((table.upsert key value).rows.map fun row => measure row.1 row.2).sum +
        ((table.lookup key).map (measure key)).getD 0 =
      (table.rows.map fun row => measure row.1 row.2).sum +
        measure key value := by
  obtain ⟨rows, sorted⟩ := table
  unfold upsert lookup
  simp only
  induction rows with
  | nil => simp [upsertRow]
  | cons row rest inductionHypothesis =>
      have below := (List.pairwise_cons.mp sorted).1
      have restSorted := (List.pairwise_cons.mp sorted).2
      unfold upsertRow
      split
      · rename_i before
        have absent : (row :: rest).find? (fun entry =>
            decide (entry.1 = key)) = none := by
          rw [List.find?_eq_none]
          intro entry member equal
          rw [decide_eq_true_eq] at equal
          rcases List.mem_cons.mp member with rfl | inRest
          · exact before.ne' equal
          · exact (before.trans (below entry inRest)).ne' equal
        rw [absent]
        simp only [List.map_cons, List.sum_cons, Option.map_none,
          Option.getD_none]
        abel
      · split
        · rename_i later
          rw [List.find?_cons_of_neg (by simpa using later.ne)]
          have rest := inductionHypothesis restSorted
          simp only [List.map_cons, List.sum_cons]
          rw [add_assoc, rest]
          abel
        · rename_i notBefore notAfter
          have same : row.1 = key :=
            le_antisymm (not_lt.mp notBefore) (not_lt.mp notAfter)
          rw [List.find?_cons_of_pos (by simpa using same)]
          simp only [List.map_cons, List.sum_cons, Option.map_some,
            Option.getD_some, same]
          abel

/-- A measure that adds up in every group adds up over all rows. -/
theorem sum_groupRows
    {combine : α -> α -> α} {measure : κ -> α -> μ}
    (additive : ∀ key first second,
      measure key (combine first second) =
        measure key first + measure key second)
    (rows : List (κ × α)) :
    ((groupRows combine rows).rows.map fun row => measure row.1 row.2).sum =
      (rows.map fun row => measure row.1 row.2).sum := by
  induction rows with
  | nil => rfl
  | cons row rest inductionHypothesis =>
      unfold groupRows
      dsimp only
      rw [List.map_cons, List.sum_cons, ← inductionHypothesis]
      cases found : (groupRows combine rest).lookup row.1 with
      | none =>
          have step := (groupRows combine rest).sum_upsert measure row.1 row.2
          rw [found, Option.map_none, Option.getD_none, add_zero] at step
          rw [step, add_comm]
      | some value =>
          have step := (groupRows combine rest).sum_upsert measure row.1
            (combine row.2 value)
          rw [found, Option.map_some, Option.getD_some, additive] at step
          apply add_right_cancel (b := measure row.1 value)
          rw [step]
          abel

end Table

/-- Rows counted by the names of a column are the rows with one of them. -/
theorem sum_countP_names
    [DecidableEq β] {names : List β}
    (distinct : names.Nodup) (column : α -> β) (rows : List α) :
    (names.map fun name =>
      rows.countP fun row => decide (column row = name)).sum =
        rows.countP fun row => decide (column row ∈ names) := by
  induction names with
  | nil => simp
  | cons name rest inductionHypothesis =>
      obtain ⟨fresh, distinct⟩ := List.nodup_cons.mp distinct
      rw [List.map_cons, List.sum_cons, inductionHypothesis distinct]
      clear inductionHypothesis
      induction rows with
      | nil => rfl
      | cons row others counted =>
          simp only [List.countP_cons, decide_eq_true_eq, List.mem_cons]
            at counted ⊢
          by_cases here : column row = name
          · have elsewhere : column row ∉ rest := here ▸ fresh
            rw [if_pos here, if_neg elsewhere, if_pos (.inl here)]
            omega
          · by_cases there : column row ∈ rest
            · rw [if_neg here, if_pos there, if_pos (.inr there)]
              omega
            · rw [if_neg here, if_neg there, if_neg (by tauto)]
              omega

end CodingLlm
