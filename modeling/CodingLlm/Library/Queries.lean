import CodingLlm.Library.Table
import Mathlib.Order.Bounds.Basic

/-!
# Queries over ordered tables

Selections in the order of the primary key, groups with their least value,
inserts that fail on a key in use, and cursors that have not moved yet.
-/

namespace CodingLlm
namespace Table

variable {κ α β : Type} [LinearOrder κ]

/-! ## Selections -/

/-- The rows that a function keeps, with the values it gives them. -/
def filterMap (table : Table κ α) (select : κ -> α -> Option β) :
    Table κ β where
  rows := table.rows.filterMap fun row =>
    (select row.1 row.2).map fun value => (row.1, value)
  sorted := by
    apply List.Pairwise.filterMap _ _ table.sorted
    intro first second below firstRow firstKept secondRow secondKept
    obtain ⟨firstValue, -, rfl⟩ := Option.map_eq_some_iff.mp firstKept
    obtain ⟨secondValue, -, rfl⟩ := Option.map_eq_some_iff.mp secondKept
    exact below

theorem mem_filterMap_iff
    (table : Table κ α) (select : κ -> α -> Option β)
    {key : κ} {value : β} :
    (key, value) ∈ (table.filterMap select).rows ↔
      ∃ old, (key, old) ∈ table.rows ∧ select key old = some value := by
  rw [filterMap, List.mem_filterMap]
  constructor
  · rintro ⟨row, member, kept⟩
    obtain ⟨found, isValue, equal⟩ := Option.map_eq_some_iff.mp kept
    obtain ⟨rfl, rfl⟩ := Prod.mk.inj equal
    exact ⟨row.2, member, isValue⟩
  · rintro ⟨old, member, kept⟩
    exact ⟨(key, old), member, by rw [kept]; rfl⟩

theorem lookup_filterMap
    (table : Table κ α) (select : κ -> α -> Option β) (key : κ) :
    (table.filterMap select).lookup key =
      (table.lookup key).bind (select key) := by
  apply Option.ext
  intro value
  rw [lookup_eq_some_iff, mem_filterMap_iff, Option.bind_eq_some_iff]
  simp only [lookup_eq_some_iff]

/-! ## Groups -/

/-- `GROUP BY` the key of each row, with one value for each group. -/
def groupRows (combine : α -> α -> α) : List (κ × α) -> Table κ α
  | [] => empty
  | row :: rest =>
      let groups := groupRows combine rest
      groups.upsert row.1 (match groups.lookup row.1 with
        | none => row.2
        | some value => combine row.2 value)

/-- `MIN(value) ... GROUP BY key`. -/
def groupMin [LinearOrder α] (rows : List (κ × α)) : Table κ α :=
  groupRows min rows

/-- `SELECT DISTINCT key`. -/
def distinct (keys : List κ) : Table κ Unit :=
  groupRows (fun _ _ => ()) (keys.map fun key => (key, ()))

theorem mem_keys_upsert
    (table : Table κ α) {key other : κ} {value : α} :
    other ∈ (table.upsert key value).keys ↔
      other = key ∨ other ∈ table.keys := by
  rw [mem_keys_iff, lookup_upsert]
  by_cases same : other = key
  · simp [same]
  · simp [same, mem_keys_iff]

@[simp] theorem keys_empty : (empty : Table κ α).keys = [] := rfl

@[simp] theorem lookup_empty (key : κ) :
    (empty : Table κ α).lookup key = none := rfl

theorem mem_keys_groupRows
    (combine : α -> α -> α) {rows : List (κ × α)} {key : κ} :
    key ∈ (groupRows combine rows).keys ↔ key ∈ rows.map Prod.fst := by
  induction rows with
  | nil => rfl
  | cons row rest inductionHypothesis =>
      rw [groupRows, mem_keys_upsert, inductionHypothesis, List.map_cons,
        List.mem_cons]

theorem mem_keys_distinct {keys : List κ} {key : κ} :
    key ∈ (distinct keys).keys ↔ key ∈ keys := by
  rw [distinct, mem_keys_groupRows, List.map_map]
  simp

/-- The value of a group is the least one of its rows. -/
theorem lookup_groupMin_iff
    [LinearOrder α] {rows : List (κ × α)} {key : κ} {least : α} :
    (groupMin rows).lookup key = some least ↔
      IsLeast {value | (key, value) ∈ rows} least := by
  unfold groupMin
  induction rows generalizing least with
  | nil => simp [groupRows, IsLeast]
  | cons row rest inductionHypothesis =>
      rw [groupRows, lookup_upsert]
      by_cases same : key = row.1
      · rw [if_pos same]
        subst same
        have members : {value | (row.1, value) ∈ row :: rest} =
            insert row.2 {value | (row.1, value) ∈ rest} := by
          ext value
          simp [Prod.ext_iff]
        rw [members, Option.some.injEq]
        cases found : (groupRows min rest).lookup row.1 with
        | none =>
            have isEmpty : {value | (row.1, value) ∈ rest} = ∅ := by
              rw [lookup_eq_none_iff, mem_keys_groupRows] at found
              apply Set.eq_empty_of_forall_notMem
              intro value member
              exact found (List.mem_map.mpr ⟨_, member, rfl⟩)
            rw [isEmpty, insert_empty_eq]
            constructor
            · rintro rfl
              exact isLeast_singleton
            · intro isLeast
              exact isLeast_singleton.unique isLeast
        | some value =>
            have isLeast := (inductionHypothesis).mp found
            have combined := isLeast.insert row.2
            constructor
            · rintro rfl
              exact combined
            · intro other
              exact combined.unique other
      · rw [if_neg same, inductionHypothesis]
        have members : {value | (key, value) ∈ row :: rest} =
            {value | (key, value) ∈ rest} := by
          ext value
          simp [Prod.ext_iff, same]
        rw [members]

/-- Rows in the order of a key that no two of them share. -/
def indexBy (rows : List (κ × α)) : Table κ α :=
  groupRows (fun value _ => value) rows

theorem mem_indexBy_iff
    {rows : List (κ × α)} (distinct : (rows.map Prod.fst).Nodup)
    {row : κ × α} : row ∈ (indexBy rows).rows ↔ row ∈ rows := by
  rw [indexBy, ← lookup_eq_some_iff]
  induction rows with
  | nil => simp [groupRows]
  | cons first rest inductionHypothesis =>
      obtain ⟨isNew, restDistinct⟩ := List.nodup_cons.mp distinct
      rw [groupRows, lookup_upsert]
      have value : (match (groupRows (fun value _ => value) rest).lookup
          first.1 with
        | none => first.2
        | some _ => first.2) = first.2 := by
        split <;> rfl
      rw [value]
      by_cases same : row.1 = first.1
      · rw [if_pos same, Option.some.injEq, List.mem_cons]
        constructor
        · exact fun equal => .inl (Prod.ext same equal.symm)
        · rintro (rfl | inRest)
          · rfl
          · exact absurd (List.mem_map.mpr ⟨row, inRest, same⟩) isNew
      · rw [if_neg same, inductionHypothesis restDistinct, List.mem_cons]
        constructor
        · exact .inr
        · rintro (rfl | inRest)
          · exact absurd rfl same
          · exact inRest

/-! ## Inserts -/

/-- A row after all others. -/
theorem upsertRow_last
    {key : κ} {value : α} {rows : List (κ × α)}
    (largest : ∀ row ∈ rows, row.1 < key) :
    upsertRow key value rows = rows ++ [(key, value)] := by
  induction rows with
  | nil => rfl
  | cons row rest inductionHypothesis =>
      have below := largest row (List.mem_cons_self ..)
      have restBelow : ∀ other ∈ rest, other.1 < key := fun other member =>
        largest other (List.mem_cons_of_mem _ member)
      rw [upsertRow, if_neg below.not_gt, if_pos below,
        inductionHypothesis restBelow, List.cons_append]

/-- A key is in use. -/
def Uses (table : Table κ α) (key : κ) : Prop :=
  (table.lookup key).isSome = true

instance (table : Table κ α) (key : κ) : Decidable (table.Uses key) :=
  inferInstanceAs (Decidable (_ = true))

theorem uses_iff_mem {table : Table κ α} {key : κ} :
    table.Uses key ↔ key ∈ table.keys := by
  rw [Uses, Option.isSome_iff_exists, mem_keys_iff]

/-- The first rows of a table. -/
def prefixTable (table : Table κ α) (count : Nat) : Table κ α where
  rows := table.rows.take count
  sorted := table.sorted.sublist (List.take_sublist _ _)

@[simp] theorem prefixTable_zero (table : Table κ α) :
    table.prefixTable 0 = empty := rfl

theorem prefixTable_length (table : Table κ α) :
    table.prefixTable table.rows.length = table := by
  obtain ⟨rows, sorted⟩ := table
  simp [prefixTable]

/-- The next row of a table has a key that no row before it uses, and follows
them. -/
theorem upsert_prefixTable
    (table : Table κ α) {count : Nat} (inRange : count < table.rows.length) :
    ¬(table.prefixTable count).Uses table.rows[count].1 ∧
      (table.prefixTable count).upsert table.rows[count].1
        table.rows[count].2 = table.prefixTable (count + 1) := by
  have below : ∀ row ∈ table.rows.take count,
      row.1 < table.rows[count].1 := by
    intro row member
    obtain ⟨index, indexBound, rfl⟩ := List.getElem_of_mem member
    rw [List.length_take] at indexBound
    rw [List.getElem_take]
    exact List.pairwise_iff_getElem.mp table.sorted index count _ inRange
      (by omega)
  constructor
  · rw [uses_iff_mem, keys, List.mem_map]
    rintro ⟨row, member, same⟩
    exact absurd (below row member) (same ▸ lt_irrefl _)
  · unfold upsert
    simp only [prefixTable, mk.injEq]
    rw [upsertRow_last below, List.take_add_one,
      List.getElem?_eq_getElem inRange]
    rfl

/-! ## Cursors that may not have moved -/

/-- Rows after a cursor; all of them before it has moved. -/
def fromCursor (table : Table κ α) : Option κ -> List (κ × α)
  | none => table.rows
  | some cursor => table.after cursor

/-- The cursor after a number of rows. -/
def cursorAt (table : Table κ α) (count : Nat) : Option κ :=
  (table.rows.take count).getLast?.map Prod.fst

@[simp] theorem cursorAt_zero (table : Table κ α) :
    table.cursorAt 0 = none := rfl

/-- From the cursor after a number of rows come the others. -/
theorem fromCursor_cursorAt (table : Table κ α) (count : Nat) :
    table.fromCursor (table.cursorAt count) = table.rows.drop count := by
  unfold cursorAt
  cases isLast : (table.rows.take count).getLast? with
  | none =>
      rw [List.getLast?_eq_none_iff, List.take_eq_nil_iff] at isLast
      rcases isLast with rfl | isEmpty
      · rfl
      · simp [fromCursor, isEmpty]
  | some last =>
      simp only [Option.map_some, fromCursor, after]
      obtain ⟨init, taken⟩ := List.getLast?_eq_some_iff.mp isLast
      have sorted := table.sorted
      rw [← List.take_append_drop count table.rows, List.pairwise_append,
        taken] at sorted
      have lastMember : last ∈ init ++ [last] :=
        List.mem_append_right init (List.mem_singleton_self last)
      conv_lhs => rw [← List.take_append_drop count table.rows, taken]
      rw [List.filter_append, List.filter_eq_nil_iff.mpr,
        List.filter_eq_self.mpr, List.nil_append]
      · intro row inBack
        exact decide_eq_true (sorted.2.2 last lastMember row inBack)
      · intro row inFront
        rw [decide_eq_true_eq, not_lt]
        rcases List.mem_append.mp inFront with inInit | isSame
        · exact ((List.pairwise_append.mp sorted.1).2.2 row inInit last
            (List.mem_singleton_self last)).le
        · rw [List.mem_singleton.mp isSame]

theorem fromCursor_sorted (table : Table κ α) (cursor : Option κ) :
    (table.fromCursor cursor).Pairwise fun first second =>
      first.1 < second.1 := by
  cases cursor with
  | none => exact table.sorted
  | some last => exact table.after_sorted last

/-- Up to the key of a row come the rows before it and the row. -/
theorem upTo_of_cursorAt
    (table : Table κ α) {count : Nat} {cursor : κ}
    (isCursor : table.cursorAt count = some cursor) :
    table.upTo cursor = table.rows.take count := by
  have whole := table.upTo_append_after cursor
  have left := table.fromCursor_cursorAt count
  rw [isCursor, fromCursor] at left
  rw [left] at whole
  conv_rhs at whole => rw [← List.take_append_drop count table.rows]
  exact List.append_cancel_right whole

/-- A batch after the first rows moves the cursor behind it. -/
theorem cursorAt_add
    (table : Table κ α) {count limit : Nat} {last : κ × α}
    (isLast : ((table.rows.drop count).take limit).getLast? = some last) :
    table.cursorAt (count + ((table.rows.drop count).take limit).length) =
      some last.1 := by
  obtain ⟨init, taken⟩ := List.getLast?_eq_some_iff.mp isLast
  have split : table.rows.take
      (count + ((table.rows.drop count).take limit).length) =
      table.rows.take count ++ (table.rows.drop count).take limit := by
    rw [List.take_add, List.length_take]
    congr 1
    rw [List.take_eq_take_iff]
    omega
  rw [cursorAt, split, taken, ← List.append_assoc,
    List.getLast?_append_of_ne_nil _ (List.cons_ne_nil _ _)]
  rfl

end Table
end CodingLlm
