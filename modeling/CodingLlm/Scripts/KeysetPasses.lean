import CodingLlm.Scripts.CurationDatabase

/-!
# What a keyset pass writes

A pass that does not disturb its own query writes each of its rows once and in
order, whatever the batches are and wherever a run is killed.  A sequence of
passes is the composition of them.
-/

namespace CodingLlm

open CrashLogic

namespace KeysetPass

variable (pass : KeysetPass)

/-- The rows of the query. -/
def rows (base : CurationTables) : List (Digest × pass.Row) :=
  (pass.select base).rows

/-- What the first rows write. -/
def written (base : CurationTables) (count : Nat) : Checked CurationTables :=
  ((pass.rows base).take count).foldlM pass.write base

/-- What the whole pass writes. -/
def whole (base : CurationTables) : Checked CurationTables :=
  (pass.rows base).foldlM pass.write base

/-- Writing keeps the query as it is, and every row can be written. -/
structure Sound (base : CurationTables) : Prop where
  stable : ∀ count tables, pass.written base count = .ok tables ->
    pass.select tables = pass.select base
  writes : ∃ tables, pass.whole base = .ok tables

/-- The progress after a number of rows. -/
def progressAt (base : CurationTables) (status : ProgressStatus)
    (count batches : Nat) : Progress :=
  ⟨status, .key ((pass.select base).cursorAt count), count, 0, batches, 0⟩

/-- The database after a number of rows. -/
def databaseAt (origin : CurationDatabase) (tables : CurationTables)
    (status : ProgressStatus) (count batches : Nat) : CurationDatabase :=
  { origin with tables := tables }.setProgress pass.subphase
    (pass.progressAt origin.tables status count batches)

/-- The state of a pass that has committed a number of rows. -/
structure Point (origin : CurationDatabase) (status : ProgressStatus)
    (count : Nat) (progress : Progress) (database : CurationDatabase) :
    Prop where
  inRange : count ≤ (pass.rows origin.tables).length
  written : pass.written origin.tables count = .ok database.tables
  reached : ∃ batches,
    progress = pass.progressAt origin.tables status count batches ∧
      database = pass.databaseAt origin database.tables status count batches

/-- A kill leaves a pass before its start or after some of its rows. -/
def Started (origin database : CurationDatabase) : Prop :=
  database = origin ∨
    ∃ count progress, pass.Point origin .running count progress database

/-- The state of a completed pass. -/
def Completed (origin database : CurationDatabase) : Prop :=
  ∃ progress, pass.Point origin .complete
    (pass.rows origin.tables).length progress database

section Step

variable {pass} {origin database : CurationDatabase}
variable {status : ProgressStatus} {count : Nat} {progress : Progress}

theorem Point.progress_eq
    (point : pass.Point origin status count progress database) :
    database.progress pass.subphase = some progress := by
  obtain ⟨batches, rfl, equal⟩ := point.reached
  rw [equal]
  exact Function.update_self ..

theorem Point.cursor_eq
    (point : pass.Point origin status count progress database) :
    pass.cursor progress =
      .ok ((pass.select origin.tables).cursorAt count) := by
  obtain ⟨batches, rfl, -⟩ := point.reached
  rfl

theorem Point.status_eq
    (point : pass.Point origin status count progress database) :
    progress.status = status := by
  obtain ⟨batches, rfl, -⟩ := point.reached
  rfl

theorem Point.processedRows_eq
    (point : pass.Point origin status count progress database) :
    progress.processedRows = count := by
  obtain ⟨batches, rfl, -⟩ := point.reached
  rfl

/-- A running pass finds the rows that are left. -/
theorem Point.batch_eq
    (point : pass.Point origin status count progress database)
    (sound : pass.Sound origin.tables) :
    (pass.select database.tables).fromCursor
        ((pass.select origin.tables).cursorAt count) =
      (pass.rows origin.tables).drop count := by
  rw [sound.stable count _ point.written, Table.fromCursor_cursorAt]
  rfl

/-- A sound pass can write any batch of the rows that are left. -/
theorem Point.exists_written
    (point : pass.Point origin status count progress database)
    (sound : pass.Sound origin.tables) (limit : Nat) :
    ∃ tables,
      (((pass.rows origin.tables).drop count).take limit).foldlM
          pass.write database.tables = .ok tables ∧
        pass.written origin.tables (count +
          (((pass.rows origin.tables).drop count).take limit).length) =
            .ok tables := by
  obtain ⟨final, whole⟩ := sound.writes
  have split := List.take_append_drop limit
    ((pass.rows origin.tables).drop count)
  rw [KeysetPass.whole, ← List.take_append_drop count (pass.rows _),
    List.foldlM_append] at whole
  have front := point.written
  rw [KeysetPass.written] at front
  rw [front, checked_ok_bind, ← split, List.foldlM_append,
    checked_bind_eq_ok] at whole
  obtain ⟨tables, batch, -⟩ := whole
  refine ⟨tables, batch, ?_⟩
  have prefixes : (pass.rows origin.tables).take (count +
      (((pass.rows origin.tables).drop count).take limit).length) =
      (pass.rows origin.tables).take count ++
        ((pass.rows origin.tables).drop count).take limit := by
    rw [List.take_add, List.length_take]
    congr 1
    rw [List.take_eq_take_iff]
    omega
  rw [KeysetPass.written, prefixes, List.foldlM_append, front,
    checked_ok_bind, batch]

/-- One committed batch. -/
theorem Point.commit
    (point : pass.Point origin .running count progress database)
    {limit : Nat} {last : Digest × pass.Row} {tables : CurationTables}
    (isLast : (((pass.rows origin.tables).drop count).take limit).getLast? =
      some last)
    (batch : pass.written origin.tables (count +
      (((pass.rows origin.tables).drop count).take limit).length) =
        .ok tables) :
    ∃ progress' database',
      commitBoundedBatch pass.subphase (.key (some last.1))
          (((pass.rows origin.tables).drop count).take limit).length 0 none
          { database with tables := tables } = .ok (database', progress') ∧
        pass.Point origin .running (count +
          (((pass.rows origin.tables).drop count).take limit).length)
          progress' database' := by
  obtain ⟨batches, rfl, equal⟩ := point.reached
  have nonempty : 1 ≤
      (((pass.rows origin.tables).drop count).take limit).length := by
    apply List.length_pos_iff.mpr
    rintro isEmpty
    rw [isEmpty] at isLast
    cases isLast
  have stored : ({ database with tables := tables } :
      CurationDatabase).progress pass.subphase = some _ :=
    point.progress_eq
  have next : (pass.progressAt origin.tables .running count batches).next
      (.key (some last.1))
      (((pass.rows origin.tables).drop count).take limit).length 0 none =
        pass.progressAt origin.tables .running (count +
          (((pass.rows origin.tables).drop count).take limit).length)
          (batches + 1) := by
    have moved := (pass.select origin.tables).cursorAt_add isLast
    rw [progressAt, progressAt, KeysetPass.rows, moved]
    rfl
  refine ⟨_, _, commitBoundedBatch_eq stored rfl nonempty, ?_⟩
  constructor
  · rw [List.length_take, List.length_drop]
    have := point.inRange
    omega
  · exact batch
  · refine ⟨batches + 1, ?_, ?_⟩
    · exact next
    · rw [equal]
      simp only [databaseAt, CurationDatabase.setProgress,
        Function.update_idem, next]

/-- The check of the order passes. -/
theorem checkOrder_eq
    (pass : KeysetPass) (base : CurationTables) {count limit : Nat}
    {last : Digest × pass.Row}
    (isLast : (((pass.rows base).drop count).take limit).getLast? =
      some last) :
    pass.checkOrder ((pass.select base).cursorAt count) last.1 = .ok () := by
  unfold checkOrder
  split
  · rfl
  · refine require_bind ?_ _
    intro cursor isCursor
    have member := List.mem_of_mem_take (List.mem_of_getLast? isLast)
    rw [rows, ← Table.fromCursor_cursorAt, isCursor, Table.fromCursor,
      Table.mem_after_iff] at member
    exact member.2

/-- The rows that the loop has left, and the turn that finds none. -/
def rowsLeft (pass : KeysetPass) (base : CurationTables) (loop : Loop) : Nat :=
  if loop.exhausted then 0
  else (pass.rows base).length + 1 - loop.progress.processedRows

variable {crash : CurationDatabase -> Prop}

/-- The body of the loop. -/
theorem step_wp
    {batchSize : Nat} {loop : Loop}
    (batches : 1 ≤ batchSize)
    (sound : pass.Sound origin.tables)
    (crashes : ∀ count progress database,
      pass.Point origin .running count progress database -> crash database)
    (point : pass.Point origin .running count loop.progress database) :
    (pass.step batchSize loop).wp
      (fun next final => ∃ later,
        pass.Point origin .running later next.progress final ∧
          (next.exhausted = true -> later = (pass.rows origin.tables).length) ∧
          (next.exhausted = false -> count < later))
      (fun _ _ => False) crash database := by
  unfold step
  apply Program.wp_lift_bind point.cursor_eq
  apply Program.wp_query_bind
  rw [point.batch_eq sound]
  split
  · rename_i isEmpty
    rw [Program.wp_pure]
    refine ⟨count, point, fun _ => ?_, fun impossible => by cases impossible⟩
    rw [List.getLast?_eq_none_iff, List.take_eq_nil_iff,
      List.drop_eq_nil_iff] at isEmpty
    have := point.inRange
    omega
  · rename_i last isLast
    apply Program.wp_lift_bind (pass.checkOrder_eq _ isLast)
    obtain ⟨tables, batch, next⟩ := point.exists_written sound batchSize
    obtain ⟨progress', database', committed, reached⟩ :=
      point.commit isLast next
    have transaction : (do
        let tables ← (((pass.rows origin.tables).drop count).take
          batchSize).foldlM pass.write database.tables
        commitBoundedBatch pass.subphase (.key (some last.1))
          (((pass.rows origin.tables).drop count).take batchSize).length 0
          none { database with tables := tables }) =
        .ok (database', progress') := by
      rw [batch, checked_ok_bind]
      exact committed
    apply Program.wp_effect_bind transaction
    · exact crashes _ _ _ reached
    · rw [Program.wp_pure]
      refine ⟨_, reached, fun impossible => (by cases impossible), fun _ => ?_⟩
      apply Nat.lt_add_of_pos_right
      apply List.length_pos_iff.mpr
      intro isEmpty
      rw [isEmpty] at isLast
      cases isLast

/-- The progress that a pass finds or inserts. -/
theorem startSubphase_wp
    (crashes : ∀ count progress database,
      pass.Point origin .running count progress database -> crash database)
    (unstarted : origin.progress pass.subphase = none)
    (started : pass.Started origin database) :
    (startSubphase pass.subphase (.key none)).wp
      (fun progress final => ∃ count,
        pass.Point origin .running count progress final)
      (fun _ _ => False) crash database := by
  unfold startSubphase
  apply Program.wp_query_bind
  rcases started with rfl | ⟨count, progress, point⟩
  · have first : pass.Point database .running 0
        (Progress.start (.key none))
        (database.setProgress pass.subphase (Progress.start (.key none))) :=
      ⟨Nat.zero_le _, rfl, 0, rfl, rfl⟩
    rw [unstarted]
    apply Program.wp_commit_bind (crashes _ _ _ first)
    rw [Program.wp_pure]
    exact ⟨0, first⟩
  · rw [point.progress_eq]
    exact (Program.wp_pure _).mpr ⟨count, point⟩

/-- A run of the pass from where a kill has left it. -/
theorem run_wp
    {batchSize : Nat}
    (batches : 1 ≤ batchSize)
    (sound : pass.Sound origin.tables)
    (crashes : ∀ count progress database,
      pass.Point origin .running count progress database -> crash database)
    (unstarted : origin.progress pass.subphase = none)
    (started : pass.Started origin database) :
    (pass.run batchSize).wp
      (fun progress final => pass.Point origin .running
        (pass.rows origin.tables).length progress final)
      (fun _ _ => False) crash database := by
  unfold run
  rw [Program.wp_bind]
  refine (startSubphase_wp crashes unstarted started).weaken ?_
  rintro progress middle ⟨count, point⟩
  have running : ¬progress.status = .complete := by
    rw [point.status_eq]
    exact fun impossible => by cases impossible
  rw [if_neg running]
  apply Program.wp_query_bind
  have total : (pass.select middle.tables).rows.length =
      (pass.rows origin.tables).length := by
    rw [sound.stable count _ point.written]
    rfl
  rw [total, Program.wp_bind]
  refine (Program.wp_whileLoop
    (fun loop database => ∃ count,
      pass.Point origin .running count loop.progress database ∧
        (loop.exhausted = true ->
          count = (pass.rows origin.tables).length))
    (pass.rowsLeft origin.tables)
    ?_ ?_ ?_ ⟨count, point, fun impossible => by cases impossible⟩).weaken ?_
  · rintro loop current ⟨reachedCount, reached, -⟩ continues
    have isRunning : loop.exhausted = false := by simpa using continues
    refine (step_wp batches sound crashes reached).weaken ?_
    rintro next final ⟨later, laterPoint, whenDone, whenMore⟩
    refine ⟨⟨later, laterPoint, whenDone⟩, ?_⟩
    have before := reached.processedRows_eq
    have afterwards := laterPoint.processedRows_eq
    have bound := laterPoint.inRange
    have earlier := reached.inRange
    unfold rowsLeft
    cases exhausted : next.exhausted with
    | true =>
        simp only [isRunning, Bool.false_eq_true, if_false, if_true]
        omega
    | false =>
        have := whenMore exhausted
        simp only [isRunning, Bool.false_eq_true, if_false]
        omega
  · rintro loop current ⟨reachedCount, reached, -⟩ continues
    have isRunning : loop.exhausted = false := by simpa using continues
    have before := reached.processedRows_eq
    have earlier := reached.inRange
    simp only [rowsLeft, isRunning, Bool.false_eq_true, if_false]
    omega
  · simp only [rowsLeft, Bool.false_eq_true, if_false]
    exact Nat.sub_le _ _
  · rintro last final ⟨⟨lastCount, lastPoint, whenDone⟩, ended⟩
    have exhausted : last.exhausted = true := by simpa using ended
    rw [Program.wp_pure]
    exact whenDone exhausted ▸ lastPoint

/-- The pass is completed after its last row. -/
theorem Point.complete
    (point : pass.Point origin .running (pass.rows origin.tables).length
      progress database) :
    pass.Point origin .complete (pass.rows origin.tables).length
      { progress with status := .complete }
      (database.setProgress pass.subphase
        { progress with status := .complete }) := by
  obtain ⟨batches, rfl, equal⟩ := point.reached
  refine ⟨point.inRange, point.written, batches, rfl, ?_⟩
  rw [equal]
  simp only [databaseAt, CurationDatabase.setProgress, Function.update_idem]
  rfl

/-- A run of the pass and its completion. -/
theorem runToCompletion_wp
    {batchSize : Nat}
    (batches : 1 ≤ batchSize)
    (sound : pass.Sound origin.tables)
    (crashes : ∀ count progress database,
      pass.Point origin .running count progress database -> crash database)
    (completes : ∀ database, pass.Completed origin database -> crash database)
    (unstarted : origin.progress pass.subphase = none)
    (started : pass.Started origin database) :
    (runToCompletion batchSize pass).wp
      (fun _ final => pass.Completed origin final)
      (fun _ _ => False) crash database := by
  unfold runToCompletion
  rw [Program.wp_bind]
  refine (run_wp batches sound crashes unstarted started).weaken ?_
  intro progress middle point
  have running : ¬progress.status = .complete := by
    rw [point.status_eq]
    exact fun impossible => by cases impossible
  rw [if_neg running, completeSubphase, Program.wp_effect,
    point.progress_eq]
  exact ⟨completes _ ⟨_, point.complete⟩, ⟨_, point.complete⟩⟩

/-- A completed pass is not run again. -/
theorem runToCompletion_wp_of_complete
    {batchSize : Nat}
    (found : database.progress pass.subphase = some progress)
    (complete : progress.status = .complete) :
    (runToCompletion batchSize pass).wp
      (fun _ final => final = database)
      (fun _ _ => False) crash database := by
  unfold runToCompletion run startSubphase
  rw [Program.wp_bind, Program.wp_bind]
  apply Program.wp_query_bind
  rw [found]
  simp [complete]

theorem Point.progress_ne
    (point : pass.Point origin status count progress database)
    {other : Subphase} (different : other ≠ pass.subphase) :
    database.progress other = origin.progress other := by
  obtain ⟨batches, -, equal⟩ := point.reached
  rw [equal]
  exact Function.update_of_ne different _ _

theorem Started.progress_ne
    (started : pass.Started origin database)
    {other : Subphase} (different : other ≠ pass.subphase) :
    database.progress other = origin.progress other := by
  rcases started with rfl | ⟨count, progress, point⟩
  · rfl
  · exact point.progress_ne different

theorem Completed.progress_ne
    (completed : pass.Completed origin database)
    {other : Subphase} (different : other ≠ pass.subphase) :
    database.progress other = origin.progress other := by
  obtain ⟨progress, point⟩ := completed
  exact point.progress_ne different

end Step

/-! ## Sequences of passes -/

/-- Every pass is sound on what the passes before it have written. -/
def SoundAll : List KeysetPass -> CurationTables -> Prop
  | [], _ => True
  | pass :: rest, base => pass.Sound base ∧
      ∀ final, pass.whole base = .ok final -> SoundAll rest final

/-- What a sequence of passes writes. -/
def wholeAll (passes : List KeysetPass) (base : CurationTables) :
    Checked CurationTables :=
  passes.foldlM (fun tables pass => pass.whole tables) base

/-- The states in which a kill leaves a sequence of passes. -/
inductive Reached :
    List KeysetPass -> CurationDatabase -> CurationDatabase -> Prop
  | done {origin} : Reached [] origin origin
  | within {pass rest origin database} :
      pass.Started origin database -> Reached (pass :: rest) origin database
  | beyond {pass rest origin middle database} :
      pass.Completed origin middle -> Reached rest middle database ->
        Reached (pass :: rest) origin database

/-- The states after a sequence of passes. -/
inductive AllCompleted :
    List KeysetPass -> CurationDatabase -> CurationDatabase -> Prop
  | nil {origin} : AllCompleted [] origin origin
  | cons {pass rest origin middle final} :
      pass.Completed origin middle -> AllCompleted rest middle final ->
        AllCompleted (pass :: rest) origin final

/-- Passes that have not started, with subphases of their own. -/
structure Unstarted (passes : List KeysetPass) (origin : CurationDatabase) :
    Prop where
  distinct : (passes.map KeysetPass.subphase).Nodup
  fresh : ∀ pass ∈ passes, origin.progress pass.subphase = none

section Sequence

variable {pass : KeysetPass} {passes rest : List KeysetPass}
variable {origin middle database final : CurationDatabase}

theorem Reached.start : Reached passes origin origin := by
  cases passes with
  | nil => exact .done
  | cons pass rest => exact .within (.inl rfl)

theorem AllCompleted.reached
    (completed : AllCompleted passes origin final) :
    Reached passes origin final := by
  induction completed with
  | nil => exact .done
  | cons first _ inductionHypothesis =>
      exact .beyond first inductionHypothesis

/-- Passes leave the progress of other subphases alone. -/
theorem Reached.progress_of_notMem
    (reached : Reached passes origin database) {subphase : Subphase}
    (other : subphase ∉ passes.map KeysetPass.subphase) :
    database.progress subphase = origin.progress subphase := by
  induction reached with
  | done => rfl
  | within started =>
      rw [List.map_cons, List.mem_cons, not_or] at other
      rcases started with rfl | ⟨count, progress, point⟩
      · rfl
      · exact point.progress_ne other.1
  | beyond completed _ inductionHypothesis =>
      rw [List.map_cons, List.mem_cons, not_or] at other
      obtain ⟨progress, point⟩ := completed
      rw [inductionHypothesis other.2]
      exact point.progress_ne other.1

theorem Unstarted.after
    (unstarted : Unstarted (pass :: rest) origin)
    (completed : pass.Completed origin middle) : Unstarted rest middle := by
  obtain ⟨notIn, distinct⟩ := List.nodup_cons.mp unstarted.distinct
  refine ⟨distinct, fun other member => ?_⟩
  obtain ⟨progress, point⟩ := completed
  rw [point.progress_ne, unstarted.fresh other
    (List.mem_cons_of_mem _ member)]
  rintro same
  exact notIn (same ▸ List.mem_map_of_mem member)

theorem soundAll_after
    (sound : SoundAll (pass :: rest) origin.tables)
    (completed : pass.Completed origin middle) :
    SoundAll rest middle.tables := by
  obtain ⟨progress, point⟩ := completed
  apply sound.2
  have written := point.written
  rwa [KeysetPass.written, List.take_length] at written

/-- The tables after a sequence of passes. -/
theorem AllCompleted.wholeAll_eq
    (completed : AllCompleted passes origin final) :
    wholeAll passes origin.tables = .ok final.tables := by
  induction completed with
  | nil => rfl
  | cons first _ inductionHypothesis =>
      obtain ⟨progress, point⟩ := first
      have written := point.written
      rw [KeysetPass.written, List.take_length] at written
      rw [wholeAll, List.foldlM_cons, whole, written, checked_ok_bind]
      exact inductionHypothesis

/-- A run of a sequence of passes from where a kill has left it. -/
theorem forEach_wp
    {batchSize : Nat} {crash : CurationDatabase -> Prop}
    (batches : 1 ≤ batchSize)
    (sound : SoundAll passes origin.tables)
    (unstarted : Unstarted passes origin)
    (crashes : ∀ database, Reached passes origin database -> crash database)
    (reached : Reached passes origin database) :
    (Program.forEach passes (runToCompletion batchSize)).wp
      (fun _ final => AllCompleted passes origin final)
      (fun _ _ => False) crash database := by
  induction passes generalizing origin database with
  | nil =>
      cases reached
      rw [Program.forEach, Program.wp_done]
      exact .nil
  | cons pass rest inductionHypothesis =>
      have continues {middle current : CurationDatabase}
          (completed : pass.Completed origin middle)
          (later : Reached rest middle current) :
          (Program.forEach rest (runToCompletion batchSize)).wp
            (fun _ final => AllCompleted (pass :: rest) origin final)
            (fun _ _ => False) crash current :=
        (inductionHypothesis (soundAll_after sound completed)
          (unstarted.after completed)
          (fun _ reachedLater => crashes _ (.beyond completed reachedLater))
          later).weaken fun _ _ all => .cons completed all
      rw [Program.forEach, Program.wp_bind]
      cases reached with
      | within started =>
          refine (runToCompletion_wp batches sound.1
            (fun _ _ _ point => crashes _ (.within (.inr ⟨_, _, point⟩)))
            (fun _ completed => crashes _ (.beyond completed .start))
            (unstarted.fresh pass (List.mem_cons_self ..)) started).weaken ?_
          exact fun _ middle completed => continues completed .start
      | beyond completed later =>
          have notIn := (List.nodup_cons.mp unstarted.distinct).1
          have kept := later.progress_of_notMem notIn
          obtain ⟨progress, point⟩ := completed
          rw [point.progress_eq] at kept
          refine (runToCompletion_wp_of_complete kept
            point.status_eq).weaken ?_
          rintro _ current rfl
          exact continues ⟨progress, point⟩ later

end Sequence

/-! ## What passes keep -/

/-- Writing a row does not change a view of the tables. -/
def Keeps (pass : KeysetPass) (view : CurationTables -> α) : Prop :=
  ∀ tables row next, pass.write tables row = .ok next ->
    view next = view tables

section Views

variable {pass : KeysetPass} {passes : List KeysetPass}
variable {view : CurationTables -> α} {origin database : CurationDatabase}

theorem Keeps.foldlM
    (keeps : pass.Keeps view) {rows : List (Digest × pass.Row)}
    {base final : CurationTables}
    (written : rows.foldlM pass.write base = .ok final) :
    view final = view base := by
  induction rows generalizing base with
  | nil =>
      cases written
      rfl
  | cons row rest inductionHypothesis =>
      rw [List.foldlM_cons, checked_bind_eq_ok] at written
      obtain ⟨next, first, others⟩ := written
      rw [inductionHypothesis others, keeps base row next first]

theorem Keeps.completed
    (keeps : pass.Keeps view) (completed : pass.Completed origin database) :
    view database.tables = view origin.tables := by
  obtain ⟨progress, point⟩ := completed
  exact keeps.foldlM point.written

theorem Keeps.started
    (keeps : pass.Keeps view) (started : pass.Started origin database) :
    view database.tables = view origin.tables := by
  rcases started with rfl | ⟨count, progress, point⟩
  · rfl
  · exact keeps.foldlM point.written

theorem Reached.view_eq
    (keeps : ∀ pass ∈ passes, pass.Keeps view)
    (reached : Reached passes origin database) :
    view database.tables = view origin.tables := by
  induction reached with
  | done => rfl
  | within started => exact (keeps _ (List.mem_cons_self ..)).started started
  | beyond completed _ inductionHypothesis =>
      rw [inductionHypothesis fun pass member =>
        keeps pass (List.mem_cons_of_mem _ member)]
      exact (keeps _ (List.mem_cons_self ..)).completed completed

/-- A pass whose every write succeeds and keeps its query is sound. -/
theorem sound_of_keeps
    (keeps : pass.Keeps pass.select)
    (writes : ∀ tables row, ∃ next, pass.write tables row = .ok next)
    (base : CurationTables) : pass.Sound base where
  stable := fun _ _ written => keeps.foldlM written
  writes := by
    unfold whole
    generalize pass.rows base = rows
    induction rows generalizing base with
    | nil => exact ⟨base, rfl⟩
    | cons row rest inductionHypothesis =>
        obtain ⟨next, first⟩ := writes base row
        rw [List.foldlM_cons, first, checked_ok_bind]
        exact inductionHypothesis next

end Views

/-! ## What passes leave alone -/

/-- Databases that differ in tables and progress only. -/
structure SameOutside (origin database : CurationDatabase) : Prop where
  phase : database.phase = origin.phase
  archives : database.archives = origin.archives
  selected : database.selected = origin.selected
  outputArchives : database.outputArchives = origin.outputArchives
  durable : database.durable = origin.durable

section Outside

variable {pass : KeysetPass} {passes : List KeysetPass}
variable {origin middle database : CurationDatabase}

theorem SameOutside.refl (origin : CurationDatabase) :
    SameOutside origin origin :=
  ⟨rfl, rfl, rfl, rfl, rfl⟩

theorem SameOutside.trans
    (first : SameOutside origin middle)
    (second : SameOutside middle database) : SameOutside origin database :=
  ⟨second.phase.trans first.phase, second.archives.trans first.archives,
    second.selected.trans first.selected,
    second.outputArchives.trans first.outputArchives,
    second.durable.trans first.durable⟩

theorem Point.sameOutside
    {status : ProgressStatus} {count : Nat} {progress : Progress}
    (point : pass.Point origin status count progress database) :
    SameOutside origin database := by
  obtain ⟨batches, -, equal⟩ := point.reached
  rw [equal]
  exact ⟨rfl, rfl, rfl, rfl, rfl⟩

theorem Started.sameOutside (started : pass.Started origin database) :
    SameOutside origin database := by
  rcases started with rfl | ⟨count, progress, point⟩
  · exact .refl _
  · exact point.sameOutside

theorem Completed.sameOutside (completed : pass.Completed origin database) :
    SameOutside origin database := by
  obtain ⟨progress, point⟩ := completed
  exact point.sameOutside

theorem Reached.sameOutside (reached : Reached passes origin database) :
    SameOutside origin database := by
  induction reached with
  | done => exact .refl _
  | within started => exact started.sameOutside
  | beyond completed _ inductionHypothesis =>
      exact completed.sameOutside.trans inductionHypothesis

end Outside

end KeysetPass
end CodingLlm
