import Mathlib.Data.List.Sort

/-!
# Ordered tables and keyset pagination

A table holds one row for each of its keys, in the order of the keys.  Reading
it in batches after the last key of the batch before reads every row once.
-/

namespace CodingLlm

/-- Rows by a unique key, in the order of the keys. -/
structure Table (κ α : Type) [LinearOrder κ] where
  rows : List (κ × α)
  sorted : rows.Pairwise fun first second => first.1 < second.1

namespace Table

variable {κ α : Type} [LinearOrder κ]

/-- A table without rows. -/
def empty : Table κ α := ⟨[], .nil⟩

/-- The keys in order. -/
def keys (table : Table κ α) : List κ := table.rows.map Prod.fst

/-- The value at a key. -/
def lookup (table : Table κ α) (key : κ) : Option α :=
  (table.rows.find? fun row => row.1 = key).map Prod.snd

/-- Rows whose keys lie after a cursor. -/
def after (table : Table κ α) (cursor : κ) : List (κ × α) :=
  table.rows.filter fun row => cursor < row.1

/-- Rows whose keys lie at or before a cursor. -/
def upTo (table : Table κ α) (cursor : κ) : List (κ × α) :=
  table.rows.filter fun row => ¬cursor < row.1

/-- Change the value of every row. -/
def modify (table : Table κ α) (change : κ -> α -> α) : Table κ α where
  rows := table.rows.map fun row => (row.1, change row.1 row.2)
  sorted := List.pairwise_map.mpr table.sorted

/-- Put a row in its place, over the one with the same key. -/
def upsertRow (key : κ) (value : α) : List (κ × α) -> List (κ × α)
  | [] => [(key, value)]
  | row :: rest =>
      if key < row.1 then (key, value) :: row :: rest
      else if row.1 < key then row :: upsertRow key value rest
      else (key, value) :: rest

theorem key_of_mem_upsertRow
    {key : κ} {value : α} {rows : List (κ × α)} {row : κ × α}
    (member : row ∈ upsertRow key value rows) :
    row.1 = key ∨ row ∈ rows := by
  induction rows with
  | nil =>
      rw [upsertRow, List.mem_singleton] at member
      exact .inl (congrArg Prod.fst member)
  | cons first rest inductionHypothesis =>
      unfold upsertRow at member
      split at member
      · rcases List.mem_cons.mp member with rfl | kept
        · exact .inl rfl
        · exact .inr kept
      · split at member
        · rcases List.mem_cons.mp member with rfl | inRest
          · exact .inr (List.mem_cons_self ..)
          · exact (inductionHypothesis inRest).imp_right
              (List.mem_cons_of_mem _)
        · rcases List.mem_cons.mp member with rfl | kept
          · exact .inl rfl
          · exact .inr (List.mem_cons_of_mem _ kept)

theorem pairwise_upsertRow
    (key : κ) (value : α) {rows : List (κ × α)}
    (sorted : rows.Pairwise fun first second => first.1 < second.1) :
    (upsertRow key value rows).Pairwise fun first second =>
      first.1 < second.1 := by
  induction rows with
  | nil => exact List.pairwise_singleton _ _
  | cons row rest inductionHypothesis =>
      have below := (List.pairwise_cons.mp sorted).1
      have restSorted := (List.pairwise_cons.mp sorted).2
      unfold upsertRow
      split
      · rename_i before
        refine List.pairwise_cons.mpr ⟨fun other member => ?_, sorted⟩
        rcases List.mem_cons.mp member with rfl | inRest
        · exact before
        · exact before.trans (below other inRest)
      · split
        · rename_i later
          refine List.pairwise_cons.mpr ⟨fun other member => ?_,
            inductionHypothesis restSorted⟩
          rcases key_of_mem_upsertRow member with same | inRest
          · exact same ▸ later
          · exact below other inRest
        · rename_i notBefore notAfter
          have same : row.1 = key :=
            le_antisymm (not_lt.mp notBefore) (not_lt.mp notAfter)
          exact List.pairwise_cons.mpr ⟨fun other member =>
            same ▸ below other member, restSorted⟩

/-- `INSERT ... ON CONFLICT DO UPDATE`. -/
def upsert (table : Table κ α) (key : κ) (value : α) : Table κ α where
  rows := upsertRow key value table.rows
  sorted := pairwise_upsertRow key value table.sorted

/-! ## Lookup -/

section Lookup

variable (table : Table κ α)

theorem keys_sorted : table.keys.Pairwise (· < ·) :=
  List.pairwise_map.mpr table.sorted

theorem keys_nodup : table.keys.Nodup :=
  table.keys_sorted.imp fun below => below.ne

/-- The value at a key is that of the only row with it. -/
theorem lookup_eq_some_iff {key : κ} {value : α} :
    table.lookup key = some value ↔ (key, value) ∈ table.rows := by
  obtain ⟨rows, sorted⟩ := table
  unfold lookup
  simp only
  induction rows with
  | nil => simp
  | cons row rest inductionHypothesis =>
      have below := (List.pairwise_cons.mp sorted).1
      have restSorted := (List.pairwise_cons.mp sorted).2
      rw [List.find?_cons]
      by_cases same : row.1 = key
      · simp only [same, decide_true, Option.map_some, Option.some.injEq,
          List.mem_cons]
        constructor
        · rintro rfl
          exact .inl (Prod.ext same.symm rfl)
        · rintro (equal | inRest)
          · exact (congrArg Prod.snd equal).symm
          · exact absurd same (below _ inRest).ne
      · simp only [same, decide_false, inductionHypothesis restSorted,
          List.mem_cons]
        refine ⟨.inr, fun either => either.resolve_left ?_⟩
        rintro rfl
        exact same rfl

theorem lookup_eq_none_iff {key : κ} :
    table.lookup key = none ↔ key ∉ table.keys := by
  rw [keys, List.mem_map, Option.eq_none_iff_forall_ne_some]
  constructor
  · rintro absent ⟨row, member, rfl⟩
    exact absent row.2 (table.lookup_eq_some_iff.mpr member)
  · intro absent value found
    exact absent ⟨_, table.lookup_eq_some_iff.mp found, rfl⟩

theorem mem_keys_iff {key : κ} :
    key ∈ table.keys ↔ ∃ value, table.lookup key = some value := by
  rw [← Option.isSome_iff_exists, Option.isSome_iff_ne_none, ne_eq,
    lookup_eq_none_iff, not_not]

theorem lookup_modify (change : κ -> α -> α) (key : κ) :
    (table.modify change).lookup key =
      (table.lookup key).map (change key) := by
  refine Option.ext fun value => ?_
  rw [lookup_eq_some_iff, Option.map_eq_some_iff, modify, List.mem_map]
  simp only [lookup_eq_some_iff]
  constructor
  · rintro ⟨row, member, equal⟩
    obtain ⟨rfl, rfl⟩ := Prod.mk.inj equal
    exact ⟨row.2, member, rfl⟩
  · rintro ⟨old, member, rfl⟩
    exact ⟨_, member, rfl⟩

@[simp] theorem keys_modify (change : κ -> α -> α) :
    (table.modify change).keys = table.keys := by
  rw [keys, modify, List.map_map]
  rfl

theorem lookup_upsert (key other : κ) (value : α) :
    (table.upsert key value).lookup other =
      if other = key then some value else table.lookup other := by
  obtain ⟨rows, sorted⟩ := table
  unfold lookup upsert
  simp only
  clear sorted
  induction rows with
  | nil =>
      rw [upsertRow, List.find?_cons]
      by_cases same : other = key
      · simp [same]
      · simp [same, Ne.symm same]
  | cons row rest inductionHypothesis =>
      unfold upsertRow
      by_cases before : key < row.1
      · rw [if_pos before, List.find?_cons]
        by_cases same : other = key
        · simp [same]
        · simp [same, Ne.symm same]
      · rw [if_neg before]
        by_cases later : row.1 < key
        · rw [if_pos later, List.find?_cons]
          by_cases found : row.1 = other
          · subst found
            simp [later.ne]
          · simp only [found, decide_false, inductionHypothesis,
              List.find?_cons]
        · have same : row.1 = key :=
            le_antisymm (not_lt.mp before) (not_lt.mp later)
          rw [if_neg later, List.find?_cons, List.find?_cons]
          by_cases isKey : other = key
          · simp [isKey]
          · simp [isKey, Ne.symm isKey, same]

/-- Tables with the same values at the same keys are the same. -/
theorem ext_lookup
    {first second : Table κ α}
    (same : ∀ key, first.lookup key = second.lookup key) : first = second := by
  have stored (table : Table κ α) (row : κ × α) :
      table.lookup row.1 = some row.2 ↔ row ∈ table.rows :=
    table.lookup_eq_some_iff
  have members (row : κ × α) : row ∈ first.rows ↔ row ∈ second.rows := by
    rw [← stored, same, stored]
  have nodup (table : Table κ α) : table.rows.Nodup :=
    table.sorted.imp fun below equal => below.ne (congrArg Prod.fst equal)
  have permuted : first.rows.Perm second.rows :=
    (List.perm_ext_iff_of_nodup (nodup first) (nodup second)).mpr members
  obtain ⟨firstRows, firstSorted⟩ := first
  obtain ⟨secondRows, secondSorted⟩ := second
  have equal : firstRows = secondRows :=
    permuted.eq_of_pairwise (fun _ _ _ _ below above =>
      absurd (below.trans above) (lt_irrefl _)) firstSorted secondSorted
  subst equal
  rfl

end Lookup

/-! ## Keyset pagination -/

section Keyset

variable (table : Table κ α)

/-- The rows after a cursor follow the ones up to it. -/
theorem upTo_append_after (cursor : κ) :
    table.upTo cursor ++ table.after cursor = table.rows := by
  obtain ⟨rows, sorted⟩ := table
  unfold upTo after
  simp only
  induction rows with
  | nil => rfl
  | cons row rest inductionHypothesis =>
      have below := (List.pairwise_cons.mp sorted).1
      have restSorted := (List.pairwise_cons.mp sorted).2
      by_cases later : cursor < row.1
      · have all : ∀ other ∈ rest, cursor < other.1 := fun other member =>
          later.trans (below other member)
        rw [List.filter_cons_of_neg (by simpa using later),
          List.filter_cons_of_pos (by simpa using later),
          List.filter_eq_nil_iff.mpr (by simpa using all),
          List.filter_eq_self.mpr (by simpa using all), List.nil_append]
      · rw [List.filter_cons_of_pos (by simpa using later),
          List.filter_cons_of_neg (by simpa using later), List.cons_append,
          inductionHypothesis restSorted]

theorem mem_after_iff {cursor : κ} {row : κ × α} :
    row ∈ table.after cursor ↔ row ∈ table.rows ∧ cursor < row.1 := by
  rw [after, List.mem_filter, decide_eq_true_eq]

theorem mem_upTo_iff {cursor : κ} {row : κ × α} :
    row ∈ table.upTo cursor ↔ row ∈ table.rows ∧ row.1 ≤ cursor := by
  rw [upTo, List.mem_filter, decide_eq_true_eq, not_lt]

theorem after_sorted (cursor : κ) :
    (table.after cursor).Pairwise fun first second => first.1 < second.1 :=
  table.sorted.filter _

/-- After the last row of a batch come the rows that the batch left out. -/
theorem after_last
    {cursor : κ} {limit : Nat} {last : κ × α}
    (isLast : ((table.after cursor).take limit).getLast? = some last) :
    table.after last.1 = (table.after cursor).drop limit := by
  have sorted := table.after_sorted cursor
  rw [← List.take_append_drop limit (table.after cursor),
    List.pairwise_append] at sorted
  obtain ⟨init, taken⟩ := List.getLast?_eq_some_iff.mp isLast
  have member : last ∈ table.after cursor :=
    List.mem_of_mem_take (taken ▸ List.mem_append_right init
      (List.mem_singleton_self last))
  have past : cursor < last.1 := (table.mem_after_iff.mp member).2
  have narrowed : table.after last.1 =
      (table.after cursor).filter fun row => last.1 < row.1 := by
    unfold after
    rw [List.filter_filter]
    refine List.filter_congr fun row _ => ?_
    by_cases later : last.1 < row.1
    · simp [later, past.trans later]
    · simp [later]
  rw [narrowed]
  conv_lhs => rw [← List.take_append_drop limit (table.after cursor)]
  rw [List.filter_append, List.filter_eq_nil_iff.mpr,
    List.filter_eq_self.mpr, List.nil_append]
  · intro row inBack
    exact decide_eq_true (sorted.2.2 last (taken ▸ List.mem_append_right init
      (List.mem_singleton_self last)) row inBack)
  · intro row inFront
    rw [decide_eq_true_eq, not_lt]
    rw [taken] at inFront sorted
    rcases List.mem_append.mp inFront with inInit | isSame
    · exact ((List.pairwise_append.mp sorted.1).2.2 row inInit last
        (List.mem_singleton_self last)).le
    · rw [List.mem_singleton.mp isSame]

/-- Up to the last row of a batch come the rows before it and the batch. -/
theorem upTo_last
    {cursor : κ} {limit : Nat} {last : κ × α}
    (isLast : ((table.after cursor).take limit).getLast? = some last) :
    table.upTo last.1 =
      table.upTo cursor ++ (table.after cursor).take limit := by
  have whole := (table.upTo_append_after last.1).trans
    (table.upTo_append_after cursor).symm
  rw [table.after_last isLast] at whole
  conv_rhs at whole => rw [← List.take_append_drop limit (table.after cursor)]
  rw [← List.append_assoc] at whole
  exact List.append_cancel_right whole

/-- Nothing comes after a cursor that no key exceeds. -/
theorem after_eq_nil_iff {cursor : κ} :
    table.after cursor = [] ↔ ∀ key ∈ table.keys, key ≤ cursor := by
  rw [after, List.filter_eq_nil_iff, keys, List.forall_mem_map]
  simp only [decide_eq_true_eq, not_lt]

end Keyset

/-! ## Cursors -/

/-- A cursor that started below every key and has passed a number of rows. -/
structure Passed (table : Table κ α) (start cursor : κ) (count : Nat) :
    Prop where
  counted : (table.upTo cursor).length = count
  reached : cursor = start ∨ cursor ∈ table.keys

theorem length_upTo (table : Table κ α) (cursor : κ) :
    (table.upTo cursor).length =
      (table.keys.filter fun key => ¬cursor < key).length := by
  rw [keys, List.filter_map, List.length_map]
  rfl

section Cursor

variable {table : Table κ α} {start cursor : κ} {count : Nat}

/-- Nothing has been passed before the first batch. -/
theorem passed_start (below : ∀ key ∈ table.keys, start < key) :
    table.Passed start start 0 where
  counted := by
    rw [length_upTo, List.length_eq_zero_iff, List.filter_eq_nil_iff]
    intro key member
    simpa using below key member
  reached := .inl rfl

theorem Passed.count_add (passed : table.Passed start cursor count) :
    count + (table.after cursor).length = table.rows.length := by
  rw [← passed.counted, ← List.length_append, upTo_append_after]

theorem Passed.count_le (passed : table.Passed start cursor count) :
    count ≤ table.rows.length :=
  (Nat.le_add_right _ _).trans_eq passed.count_add

/-- A batch is empty only if every row has been passed. -/
theorem Passed.batch_ne_nil
    (passed : table.Passed start cursor count)
    (more : count < table.rows.length)
    {limit : Nat} (positive : 1 ≤ limit) :
    (table.after cursor).take limit ≠ [] := by
  intro isEmpty
  have lengths := congrArg List.length isEmpty
  have total := passed.count_add
  rw [List.length_take, List.length_nil] at lengths
  omega

/-- A batch moves the cursor to its last row. -/
theorem Passed.advance
    (passed : table.Passed start cursor count)
    {limit : Nat} {last : κ × α}
    (isLast : ((table.after cursor).take limit).getLast? = some last) :
    table.Passed start last.1
      (count + ((table.after cursor).take limit).length) where
  counted := by
    rw [table.upTo_last isLast, List.length_append, passed.counted]
  reached := by
    apply Or.inr
    have inBatch := List.mem_of_getLast? isLast
    have inTable := (table.mem_after_iff.mp (List.mem_of_mem_take inBatch)).1
    exact List.mem_map_of_mem inTable

/-- Once every row has been passed, no key exceeds the cursor. -/
theorem Passed.key_le
    (passed : table.Passed start cursor count)
    (finished : table.rows.length ≤ count)
    {key : κ} (member : key ∈ table.keys) : key ≤ cursor := by
  have total := passed.count_add
  have noMore : table.after cursor = [] :=
    List.length_eq_zero_iff.mp (by omega)
  exact table.after_eq_nil_iff.mp noMore key member

/-- Only the keys count. -/
theorem Passed.congr
    (passed : table.Passed start cursor count)
    {other : Table κ β} (sameKeys : other.keys = table.keys) :
    other.Passed start cursor count where
  counted := by
    rw [length_upTo, sameKeys, ← length_upTo]
    exact passed.counted
  reached := by
    rw [sameKeys]
    exact passed.reached

end Cursor

end Table

end CodingLlm
