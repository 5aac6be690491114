import Mathlib.Data.List.Basic
import Mathlib.Data.Nat.Find

/-!
# Densified rings

A ring of bins is densified in place: from the first bin on, an empty bin takes
a value made of its index and of the next filled bin around the ring.  A bin
that an earlier one has filled may be that next bin, but the result is a
function of the ring before.
-/

namespace CodingLlm
namespace Densification

variable {α ε : Type}

/-- The value of a bin, if there is one. -/
def valueAt (bins : List (Option α)) (index : Nat) : Option α :=
  (bins[index]?).join

/-- Look for a filled bin at `index + offset` and on, around the ring. -/
def search (bins : List (Option α)) (index : Nat) :
    (fuel offset : Nat) -> Option (Nat × α)
  | 0, _ => none
  | fuel + 1, offset =>
      match valueAt bins ((index + offset) % bins.length) with
      | some value => some ((index + offset) % bins.length, value)
      | none => search bins index fuel (offset + 1)

variable (fill : Nat -> Nat -> α -> Except ε α)

/-- Fill a bin if it is empty. -/
def fillBin (bins : List (Option α)) (index : Nat) :
    Except ε (List (Option α)) :=
  match valueAt bins index with
  | some _ => .ok bins
  | none =>
      match search bins index bins.length 1 with
      | none => .ok bins
      | some (donor, value) => do
          let filled ← fill index donor value
          return bins.set index (some filled)

/-- Fill the bins one after the other. -/
def densify (bins : List (Option α)) : Except ε (List (Option α)) :=
  (List.range bins.length).foldlM (fillBin fill) bins

/-- The nearest filled bin at or after an index, around the ring. -/
def donor? (bins : List (Option α)) (index : Nat) : Option (Nat × α) :=
  search bins index bins.length 0

/-- The value of a bin made of its index and its donor.  Past the last filled
bin the search comes to the first bin, which by then has its own value from
the same donor. -/
def donated (index donor : Nat) (value : α) : Except ε α :=
  if index = donor then .ok value
  else if index < donor ∨ donor = 0 then fill index donor value
  else do
    let first ← fill 0 donor value
    fill index 0 first

/-- `donor` is the nearest filled bin at or after an index, around the ring. -/
def IsDonor
    (bins : List (Option α)) (index donor : Nat) (value : α) : Prop :=
  ∃ step < bins.length, donor = (index + step) % bins.length ∧
    valueAt bins donor = some value ∧
    ∀ earlier < step, valueAt bins ((index + earlier) % bins.length) = none

/-! ## Searching -/

variable {fill} {bins : List (Option α)} {index fuel offset : Nat}

theorem valueAt_eq_some {value : α} :
    valueAt bins index = some value ↔ bins[index]? = some (some value) := by
  unfold valueAt
  rw [Option.join_eq_some_iff]

theorem valueAt_of_length_le (beyond : bins.length ≤ index) :
    valueAt bins index = none := by
  rw [valueAt, List.getElem?_eq_none beyond]
  rfl

/-- A search finds the first filled bin within its reach. -/
theorem search_eq_some {donor : Nat} {value : α} :
    search bins index fuel offset = some (donor, value) ↔
      ∃ step < fuel, donor = (index + offset + step) % bins.length ∧
        valueAt bins donor = some value ∧
        ∀ earlier < step,
          valueAt bins ((index + offset + earlier) % bins.length) = none := by
  induction fuel generalizing offset with
  | zero => simp [search]
  | succ fuel inductionHypothesis =>
      rw [search]
      cases here : valueAt bins ((index + offset) % bins.length) with
      | some found =>
          constructor
          · intro equal
            obtain ⟨rfl, rfl⟩ := Prod.mk.inj (Option.some.inj equal)
            exact ⟨0, by omega, rfl, here, fun earlier below =>
              absurd below (Nat.not_lt_zero _)⟩
          · rintro ⟨step, -, rfl, filled, empty⟩
            cases step with
            | zero =>
                exact congrArg some
                  (Prod.ext rfl (Option.some.inj (here.symm.trans filled)))
            | succ step =>
                have none := empty 0 (Nat.succ_pos step)
                rw [Nat.add_zero, here] at none
                cases none
      | none =>
          dsimp only
          rw [inductionHypothesis]
          constructor
          · rintro ⟨step, below, rfl, filled, empty⟩
            refine ⟨step + 1, by omega, by congr 1; omega, filled, ?_⟩
            intro earlier before
            cases earlier with
            | zero => exact here
            | succ earlier =>
                have none := empty earlier (by omega)
                rwa [show index + offset + (earlier + 1) =
                  index + (offset + 1) + earlier by omega]
          · rintro ⟨step, below, rfl, filled, empty⟩
            cases step with
            | zero =>
                rw [Nat.add_zero, here] at filled
                cases filled
            | succ step =>
                refine ⟨step, by omega, by congr 1; omega, filled, ?_⟩
                intro earlier before
                have none := empty (earlier + 1) (by omega)
                rwa [show index + (offset + 1) + earlier =
                  index + offset + (earlier + 1) by omega]

theorem donor?_eq_some {donor : Nat} {value : α} :
    donor? bins index = some (donor, value) ↔
      IsDonor bins index donor value :=
  search_eq_some

/-- A whole turn around the ring meets every filled bin. -/
theorem search_isSome
    {filled : Nat}
    (found : (valueAt bins filled).isSome)
    (index offset : Nat) :
    (search bins index bins.length offset).isSome := by
  have inside : filled < bins.length := by
    by_contra beyond
    rw [valueAt_of_length_le (Nat.le_of_not_lt beyond)] at found
    cases found
  obtain ⟨value, holds⟩ := Option.isSome_iff_exists.mp found
  -- The number of steps from the start of the search to the filled bin.
  have reached : ∃ step, step < bins.length ∧
      (index + offset + step) % bins.length = filled := by
    have start : (index + offset) % bins.length < bins.length :=
      Nat.mod_lt _ (by omega)
    refine ⟨(filled + bins.length - (index + offset) % bins.length) %
      bins.length, Nat.mod_lt _ (by omega), ?_⟩
    rw [Nat.add_mod_mod, ← Nat.mod_add_mod,
      show (index + offset) % bins.length + (filled + bins.length -
        (index + offset) % bins.length) = filled + bins.length by omega,
      Nat.add_mod_right, Nat.mod_eq_of_lt inside]
  classical
  have filledWithin : ∃ step, step < bins.length ∧
      (valueAt bins ((index + offset + step) % bins.length)).isSome := by
    obtain ⟨step, below, equal⟩ := reached
    exact ⟨step, below, by rw [equal]; exact found⟩
  obtain ⟨below, some⟩ := Nat.find_spec filledWithin
  obtain ⟨first, holds⟩ := Option.isSome_iff_exists.mp some
  refine Option.isSome_iff_exists.mpr ⟨(_, first),
    search_eq_some.mpr ⟨_, below, rfl, holds, fun earlier before => ?_⟩⟩
  have minimal := Nat.find_min filledWithin before
  rw [not_and] at minimal
  exact Option.not_isSome_iff_eq_none.mp (minimal (Nat.lt_trans before below))

/-- A search of a whole turn fails only when no bin is filled. -/
theorem search_eq_none_iff :
    search bins index bins.length offset = none ↔
      ∀ other, valueAt bins other = none := by
  constructor
  · intro lost other
    by_contra filled
    have met := search_isSome (Option.isSome_iff_ne_none.mpr filled) index
      offset
    rw [lost] at met
    cases met
  · intro empty
    cases met : search bins index bins.length offset with
    | none => rfl
    | some pair =>
        obtain ⟨step, -, -, filled, -⟩ := search_eq_some.mp met
        rw [empty] at filled
        cases filled

/-! ## Densifying -/

/-- What a bin of the densified ring is made of, in the ring before. -/
def donatedAt
    (fill : Nat -> Nat -> α -> Except ε α) (bins : List (Option α))
    (index : Nat) : Except ε (Option α) :=
  match donor? bins index with
  | some (donor, value) => (donated fill index donor value).map some
  | none => .ok none

/-- The bins before an index densified, the others as they were. -/
def prefixed (done : List (Option α)) (bins : List (Option α)) :
    List (Option α) :=
  done ++ bins.drop done.length

theorem valueAt_prefixed_of_le
    {done : List (Option α)} {index : Nat}
    (beyond : done.length ≤ index) :
    valueAt (prefixed done bins) index = valueAt bins index := by
  unfold valueAt prefixed
  rw [List.getElem?_append_right beyond, List.getElem?_drop,
    Nat.add_sub_cancel' beyond]

theorem valueAt_prefixed_of_lt
    {done : List (Option α)} {index : Nat}
    (inside : index < done.length) :
    valueAt (prefixed done bins) index = valueAt done index := by
  unfold valueAt prefixed
  rw [List.getElem?_append_left inside]

theorem length_prefixed
    {done : List (Option α)}
    (within : done.length ≤ bins.length) :
    (prefixed done bins).length = bins.length := by
  rw [prefixed, List.length_append, List.length_drop]
  omega

theorem donor?_lt {donor : Nat} {value : α}
    (found : donor? bins index = some (donor, value)) :
    donor < bins.length ∧ valueAt bins donor = some value := by
  obtain ⟨step, below, rfl, filled, -⟩ := search_eq_some.mp found
  exact ⟨Nat.mod_lt _ (by omega), filled⟩

/-- The bins between an index and its donor are empty. -/
theorem donor?_empty {donor other : Nat} {value : α}
    (found : donor? bins index = some (donor, value))
    (inside : index < bins.length)
    (between : (index ≤ other ∧ other < bins.length ∧
        (donor < index ∨ other < donor)) ∨
      (donor < index ∧ other < donor)) :
    valueAt bins other = none := by
  obtain ⟨step, below, equal, -, empty⟩ := search_eq_some.mp found
  rw [Nat.add_zero] at equal
  have around (total : Nat) (few : total < bins.length) :
      (index + total) % bins.length =
        if index + total < bins.length then index + total
        else index + total - bins.length := by
    split
    · exact Nat.mod_eq_of_lt ‹_›
    · rw [Nat.mod_eq_sub_mod (by omega), Nat.mod_eq_of_lt (by omega)]
  rw [around step below] at equal
  -- The step at which the search passes the other bin.
  obtain ⟨earlier, before, met⟩ : ∃ earlier < step,
      (index + 0 + earlier) % bins.length = other := by
    rcases Nat.lt_or_ge other index with wrapped | ahead
    · refine ⟨other + bins.length - index, ?_, ?_⟩
      · split at equal <;> omega
      · rw [Nat.add_zero, around _ (by omega)]
        split <;> omega
    · refine ⟨other - index, ?_, ?_⟩
      · split at equal <;> omega
      · rw [Nat.add_zero, around _ (by omega)]
        split <;> omega
  have none := empty earlier before
  rwa [met] at none

/-- The nearest filled bin is the only one with empty bins before it. -/
theorem search_eq_of_empty {donor : Nat} {value : α}
    (first : index + offset ≤ donor)
    (far : donor < fuel + index + offset)
    (filled : valueAt bins (donor % bins.length) = some value)
    (empty : ∀ other, index + offset ≤ other -> other < donor ->
      valueAt bins (other % bins.length) = none) :
    search bins index fuel offset =
      some (donor % bins.length, value) := by
  refine search_eq_some.mpr ⟨donor - (index + offset), by omega, ?_, filled,
    fun earlier before => empty _ (by omega) (by omega)⟩
  congr 1
  omega

theorem prefixed_append
    {done : List (Option α)} {value : Option α}
    (inside : done.length < bins.length) :
    prefixed (done ++ [value]) bins =
      (prefixed done bins).set done.length value := by
  unfold prefixed
  rw [List.set_append_right _ _ (Nat.le_refl _), Nat.sub_self,
    List.drop_eq_getElem_cons inside, List.set_cons_zero, List.length_append,
    List.length_singleton, List.append_assoc, List.singleton_append]

/-- A bin that keeps its value. -/
theorem prefixed_append_same
    {done : List (Option α)} {value : Option α}
    (same : bins[done.length]? = some value) :
    prefixed (done ++ [value]) bins = prefixed done bins := by
  obtain ⟨inside, rfl⟩ := List.getElem?_eq_some_iff.mp same
  unfold prefixed
  rw [List.drop_eq_getElem_cons inside, List.length_append,
    List.length_singleton, List.append_assoc, List.singleton_append]

theorem getElem?_of_valueAt_eq_none
    (inside : index < bins.length)
    (empty : valueAt bins index = none) : bins[index]? = some none := by
  rw [valueAt, List.getElem?_eq_getElem inside, Option.join_some] at empty
  rw [List.getElem?_eq_getElem inside, empty]

theorem mapM_range_succ (compute : Nat -> Except ε β) (count : Nat) :
    (List.range (count + 1)).mapM compute = do
      let done ← (List.range count).mapM compute
      let last ← compute count
      return done ++ [last] := by
  rw [List.range_succ, List.mapM_append, List.mapM_cons, List.mapM_nil]
  cases (List.range count).mapM compute with
  | error error => rfl
  | ok done => cases compute count <;> rfl

theorem mapM_range_eq_ok
    {compute : Nat -> Except ε β} {count : Nat} {done : List β}
    (computed : (List.range count).mapM compute = .ok done) :
    done.length = count ∧
      ∀ index < count, ∃ value, done[index]? = some value ∧
        compute index = .ok value := by
  induction count generalizing done with
  | zero =>
      cases computed
      exact ⟨rfl, nofun⟩
  | succ count inductionHypothesis =>
      rw [mapM_range_succ] at computed
      cases earlier : (List.range count).mapM compute with
      | error error =>
          rw [earlier] at computed
          cases computed
      | ok before =>
          rw [earlier] at computed
          cases last : compute count with
          | error error =>
              simp only [last] at computed
              cases computed
          | ok value =>
              simp only [last] at computed
              cases computed
              obtain ⟨length, each⟩ := inductionHypothesis earlier
              refine ⟨by simp [length], fun index below => ?_⟩
              rcases Nat.lt_succ_iff_lt_or_eq.mp below with within | rfl
              · obtain ⟨found, at?, equal⟩ := each index within
                exact ⟨found, by
                  rw [List.getElem?_append_left (by omega), at?], equal⟩
              · exact ⟨value, by simp [← length], last⟩

/-- A computation over the first indices succeeds exactly when it does at each
of them. -/
theorem mapM_range_eq_ok_iff
    {compute : Nat -> Except ε β} {count : Nat} {done : List β} :
    (List.range count).mapM compute = .ok done ↔
      done.length = count ∧
        ∀ index < count, ∃ value, done[index]? = some value ∧
          compute index = .ok value := by
  refine ⟨mapM_range_eq_ok, ?_⟩
  rintro ⟨length, each⟩
  induction count generalizing done with
  | zero =>
      obtain rfl := List.eq_nil_of_length_eq_zero length
      rfl
  | succ count inductionHypothesis =>
      obtain ⟨last, there, given⟩ := each count (Nat.lt_succ_self _)
      have nonempty : done ≠ [] := by
        rintro rfl
        cases length
      have before : (List.range count).mapM compute = .ok done.dropLast := by
        refine inductionHypothesis (by simp [length])
          fun index below => ?_
        obtain ⟨value, found, equal⟩ :=
          each index (Nat.lt_succ_of_lt below)
        refine ⟨value, ?_, equal⟩
        rw [List.getElem?_dropLast, if_pos (by omega), found]
      have final : done.getLast nonempty = last := by
        rw [List.getLast_eq_getElem]
        have same := List.getElem?_eq_some_iff.mp there
        obtain ⟨inside, rfl⟩ := same
        congr 1
        omega
      rw [mapM_range_succ, before]
      simp only [given]
      change Except.ok (done.dropLast ++ [last]) = Except.ok done
      rw [← final, List.dropLast_append_getLast]

/-- One more bin is filled with what its donor gave in the ring before. -/
theorem fillBin_prefixed
    {done : List (Option α)} {count : Nat}
    (computed : (List.range count).mapM (donatedAt fill bins) = .ok done)
    (inside : count < bins.length) :
    fillBin fill (prefixed done bins) count =
      (donatedAt fill bins count).map fun value =>
        prefixed (done ++ [value]) bins := by
  obtain ⟨length, each⟩ := mapM_range_eq_ok computed
  have whole : (prefixed done bins).length = bins.length :=
    length_prefixed (by omega)
  have here : valueAt (prefixed done bins) count = valueAt bins count :=
    valueAt_prefixed_of_le (Nat.le_of_eq length)
  have setHere (value : Option α) : (prefixed done bins).set count value =
      prefixed (done ++ [value]) bins := by
    rw [prefixed_append (by omega), length]
  cases own : valueAt bins count with
  | some value =>
      have self : donor? bins count = some (count, value) := by
        have equal := @search_eq_of_empty α bins count bins.length 0 count
          value (by omega) (by omega)
          (by rw [Nat.mod_eq_of_lt inside]; exact own)
          (fun other first last => absurd last (by omega))
        rwa [Nat.mod_eq_of_lt inside] at equal
      have kept : bins[done.length]? = some (some value) := by
        rw [length]
        exact valueAt_eq_some.mp own
      simp only [fillBin, here, own, donatedAt, self, donated, if_true]
      exact congrArg Except.ok (prefixed_append_same kept).symm
  | none =>
      have empty : bins[done.length]? = some none := by
        rw [length]
        exact getElem?_of_valueAt_eq_none inside own
      cases found : donor? bins count with
      | none =>
          -- No bin of the ring is filled, so none has been filled since.
          have original := search_eq_none_iff.mp found
          have bare (other : Nat) :
              valueAt (prefixed done bins) other = none := by
            rcases Nat.lt_or_ge other done.length with before | after
            · obtain ⟨value, there, given⟩ := each other (by omega)
              have lost : donor? bins other = none :=
                search_eq_none_iff.mpr original
              rw [donatedAt, lost] at given
              cases given
              rw [valueAt_prefixed_of_lt before, valueAt, there]
              rfl
            · rw [valueAt_prefixed_of_le after, original]
          have lost : search (prefixed done bins) count bins.length 1 =
              none := by
            rw [← whole]
            exact search_eq_none_iff.mpr bare
          simp only [fillBin, here, own, whole, lost, donatedAt, found]
          exact congrArg Except.ok (prefixed_append_same empty).symm
      | some pair =>
          obtain ⟨donor, value⟩ := pair
          obtain ⟨within, given⟩ := donor?_lt found
          have different : count ≠ donor := by
            rintro rfl
            rw [own] at given
            cases given
          have unfilled (other : Nat) (later : count < other)
              (last : other < bins.length)
              (outside : donor < count ∨ other < donor) :
              valueAt (prefixed done bins) other = none := by
            rw [valueAt_prefixed_of_le (by omega)]
            exact donor?_empty found inside
              (.inl ⟨by omega, last, outside⟩)
          rcases Nat.lt_or_gt_of_ne different with ahead | wrapped
          · -- The donor lies ahead, as it was.
            have met : search (prefixed done bins) count bins.length 1 =
                some (donor, value) := by
              have equal := @search_eq_of_empty α (prefixed done bins) count
                bins.length 1 donor value (by omega) (by omega)
                (by
                  rw [whole, Nat.mod_eq_of_lt within,
                    valueAt_prefixed_of_le (by omega)]
                  exact given)
                (fun other first last => by
                  rw [whole, Nat.mod_eq_of_lt (by omega)]
                  exact unfilled other (by omega) (by omega) (.inr last))
              rwa [whole, Nat.mod_eq_of_lt within] at equal
            simp only [fillBin, here, own, whole, met, donatedAt, found,
              donated, if_neg different, if_pos (Or.inl ahead)]
            cases fill count donor value with
            | error error => rfl
            | ok filled => exact congrArg Except.ok (setHere _)
          · -- The search wraps to the first bin, which has been filled.
            obtain ⟨first, there, gave⟩ := each 0 (by omega)
            have origin : donor? bins 0 = some (donor, value) := by
              have equal := @search_eq_of_empty α bins 0 bins.length 0 donor
                value (by omega) (by omega)
                (by rw [Nat.mod_eq_of_lt within]; exact given)
                (fun other _ last => by
                  rw [Nat.mod_eq_of_lt (by omega)]
                  exact donor?_empty found inside (.inr ⟨wrapped, last⟩))
              rwa [Nat.mod_eq_of_lt within] at equal
            have met {initial : α} (holds : first = some initial) :
                search (prefixed done bins) count bins.length 1 =
                  some (0, initial) := by
              have equal := @search_eq_of_empty α (prefixed done bins) count
                bins.length 1 bins.length initial (by omega) (by omega)
                (by
                  rw [whole, Nat.mod_self, valueAt_prefixed_of_lt (by omega),
                    valueAt, there, holds]
                  rfl)
                (fun other first last => by
                  rw [whole, Nat.mod_eq_of_lt last]
                  exact unfilled other (by omega) last (.inl wrapped))
              rwa [whole, Nat.mod_self] at equal
            rw [donatedAt, origin] at gave
            by_cases zero : donor = 0
            · subst zero
              simp only [donated, if_true] at gave
              cases gave
              simp only [fillBin, here, own, whole, met rfl, donatedAt, found,
                donated, if_neg different, or_true, if_true]
              cases fill count 0 value with
              | error error => rfl
              | ok filled => exact congrArg Except.ok (setHere _)
            · have early : ¬(0 = donor) := Ne.symm zero
              have late : ¬(count < donor ∨ donor = 0) := by omega
              simp only [donated, if_neg early,
                if_pos (Or.inl (Nat.pos_of_ne_zero zero) :
                  0 < donor ∨ donor = 0)] at gave
              cases filledFirst : fill 0 donor value with
              | error error =>
                  rw [filledFirst] at gave
                  cases gave
              | ok initial =>
                  rw [filledFirst] at gave
                  cases gave
                  simp only [fillBin, here, own, whole, met rfl, donatedAt,
                    found, donated, if_neg different, if_neg late,
                    filledFirst]
                  change _ = Except.map _ (Except.map some
                    (fill count 0 initial))
                  cases fill count 0 initial with
                  | error error => rfl
                  | ok filled => exact congrArg Except.ok (setHere _)

/-- The loop over the first bins. -/
theorem foldlM_fillBin
    {count : Nat}
    (within : count ≤ bins.length) :
    (List.range count).foldlM (fillBin fill) bins =
      ((List.range count).mapM (donatedAt fill bins)).map fun done =>
        prefixed done bins := by
  induction count with
  | zero => rfl
  | succ count inductionHypothesis =>
      rw [List.range_succ, List.foldlM_append,
        inductionHypothesis (by omega), ← List.range_succ, mapM_range_succ]
      cases computed : (List.range count).mapM (donatedAt fill bins) with
      | error error => rfl
      | ok done =>
          have step := fillBin_prefixed computed (Nat.lt_of_succ_le within)
          change (List.foldlM (fillBin fill) (prefixed done bins) [count]) = _
          rw [List.foldlM_cons, step]
          cases donatedAt fill bins count <;> rfl

/-- Every bin of the densified ring is made of its index and of the nearest
bin that was filled before. -/
theorem densify_eq (fill : Nat -> Nat -> α -> Except ε α)
    (bins : List (Option α)) :
    densify fill bins =
      (List.range bins.length).mapM (donatedAt fill bins) := by
  rw [densify, foldlM_fillBin (Nat.le_refl _)]
  cases computed : (List.range bins.length).mapM (donatedAt fill bins) with
  | error error => rfl
  | ok done =>
      have length := (mapM_range_eq_ok computed).1
      change Except.ok (prefixed done bins) = Except.ok done
      rw [prefixed, length, List.drop_length, List.append_nil]

/-! ## Termination -/

/-- A filled bin stays filled. -/
theorem isSome_fillBin
    {after : List (Option α)} {other : Nat}
    (filled : (valueAt bins other).isSome)
    (step : fillBin fill bins index = .ok after) :
    (valueAt after other).isSome := by
  unfold fillBin at step
  split at step
  · cases step
    exact filled
  · split at step
    · cases step
      exact filled
    · rename_i donor value found
      cases gave : fill index donor value with
      | error error =>
          rw [gave] at step
          cases step
      | ok made =>
          rw [gave] at step
          cases step
          unfold valueAt at filled ⊢
          rw [List.getElem?_set]
          split
          · split
            · rfl
            · rw [List.getElem?_eq_none (by omega)] at filled
              cases filled
          · exact filled

/-- In every ring that the loop passes through, a search from any bin ends. -/
theorem search_isSome_of_foldlM
    {indices : List Nat} {after : List (Option α)} {other : Nat}
    (filled : (valueAt bins other).isSome)
    (steps : indices.foldlM (fillBin fill) bins = .ok after)
    (index offset : Nat) :
    (search after index after.length offset).isSome := by
  induction indices generalizing bins with
  | nil =>
      cases steps
      exact search_isSome filled index offset
  | cons first rest inductionHypothesis =>
      rw [List.foldlM_cons] at steps
      cases step : fillBin fill bins first with
      | error error =>
          rw [step] at steps
          cases steps
      | ok between =>
          rw [step] at steps
          exact inductionHypothesis (isSome_fillBin filled step) steps

end Densification
end CodingLlm
