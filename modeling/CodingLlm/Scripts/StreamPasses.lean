import CodingLlm.Scripts.CurationDatabase

/-!
# What a stream pass writes

A stream pass writes the rows of its file in order, each once: a run that
follows a kill reads the file again and skips the committed rows by position.
-/

namespace CodingLlm

open CrashLogic

namespace StreamPass

/-- The parsed rows of a file from a position on. -/
def parseRows (pass : StreamPass) (index : Nat) :
    List pass.Raw -> Checked (List pass.Row)
  | [] => .ok []
  | raw :: rest => do
      let row ← pass.parse index raw
      let rows ← pass.parseRows (index + 1) rest
      return row :: rows

variable (pass : StreamPass)

/-- What the whole file writes. -/
def whole (raws : List pass.Raw) (base : CurationTables) :
    Checked CurationTables := do
  let rows ← pass.parseRows 0 raws
  pass.writeBatch base rows

/-- Batches can be joined. -/
structure Lawful : Prop where
  writeNone : ∀ tables, pass.writeBatch tables [] = .ok tables
  writeAppend : ∀ tables front back,
    pass.writeBatch tables (front ++ back) =
      pass.writeBatch tables front >>= fun next => pass.writeBatch next back
  countNone : ∀ durable, pass.count durable 0 = durable
  countAdd : ∀ durable front back,
    pass.count (pass.count durable front) back =
      pass.count durable (front + back)

/-- The pass raises an error on some row. -/
def Raises (error : PyError) : Prop :=
  (∃ index raw, pass.parse index raw = .error error) ∨
    ∃ tables rows, pass.writeBatch tables rows = .error error

/-- The progress after the first rows. -/
def progressAt (status : ProgressStatus) (rows : List pass.Row)
    (batches : Nat) : Progress :=
  ⟨status, .inputRows rows.length, rows.length,
    (rows.map pass.tokens).sum, batches, (rows.map pass.bytes).sum⟩

/-- The database after the first rows. -/
def databaseAt (origin : CurationDatabase) (tables : CurationTables)
    (status : ProgressStatus) (rows : List pass.Row) (batches : Nat) :
    CurationDatabase :=
  { origin with
    tables := tables
    durable := pass.count origin.durable rows.length }.setProgress
      pass.subphase (pass.progressAt status rows batches)

/-- The state of a pass that has committed the first rows of its file. -/
structure Point (raws : List pass.Raw) (origin : CurationDatabase)
    (status : ProgressStatus) (rows : List pass.Row) (progress : Progress)
    (database : CurationDatabase) : Prop where
  inRange : rows.length ≤ raws.length
  parsed : pass.parseRows 0 (raws.take rows.length) = .ok rows
  written : pass.writeBatch origin.tables rows = .ok database.tables
  reached : ∃ batches,
    progress = pass.progressAt status rows batches ∧
      database = pass.databaseAt origin database.tables status rows batches

/-- A kill leaves a pass before its start or after some of its rows. -/
def Started (raws : List pass.Raw) (origin database : CurationDatabase) :
    Prop :=
  database = origin ∨
    ∃ rows progress, pass.Point raws origin .running rows progress database

section Parsing

variable {pass}

theorem parseRows_append {index : Nat} {front back : List pass.Raw} :
    pass.parseRows index (front ++ back) = (do
      let first ← pass.parseRows index front
      let second ← pass.parseRows (index + front.length) back
      return first ++ second) := by
  induction front generalizing index with
  | nil =>
      simp only [List.nil_append, parseRows, checked_ok_bind,
        List.length_nil, Nat.add_zero]
      exact (bind_pure _).symm
  | cons raw rest inductionHypothesis =>
      have moved : index + 1 + rest.length = index + (rest.length + 1) := by
        omega
      simp only [List.cons_append, parseRows, inductionHypothesis, bind_assoc,
        pure_bind, List.length_cons, moved]

theorem length_of_parseRows {index : Nat} {raws : List pass.Raw}
    {rows : List pass.Row} (parsed : pass.parseRows index raws = .ok rows) :
    rows.length = raws.length := by
  induction raws generalizing index rows with
  | nil =>
      cases parsed
      rfl
  | cons raw rest inductionHypothesis =>
      simp only [parseRows, checked_bind_eq_ok, checked_pure_eq_ok] at parsed
      obtain ⟨row, -, restRows, restParsed, rfl⟩ := parsed
      rw [List.length_cons, inductionHypothesis restParsed, List.length_cons]

/-- One more row is parsed. -/
theorem parseRows_concat {index : Nat} {front : List pass.Raw}
    {raw : pass.Raw} {rows : List pass.Row} {row : pass.Row}
    (parsed : pass.parseRows index front = .ok rows)
    (next : pass.parse (index + front.length) raw = .ok row) :
    pass.parseRows index (front ++ [raw]) = .ok (rows ++ [row]) := by
  rw [parseRows_append, parsed, checked_ok_bind, parseRows, next]
  rfl

/-- A row that is refused refuses the file. -/
theorem parseRows_ne_ok {index : Nat} {front back : List pass.Raw}
    {raw : pass.Raw} {error : PyError}
    (refused : pass.parse (index + front.length) raw = .error error)
    (rows : List pass.Row) :
    pass.parseRows index (front ++ raw :: back) ≠ .ok rows := by
  intro parsed
  rw [parseRows_append] at parsed
  simp only [checked_bind_eq_ok, parseRows, refused] at parsed
  obtain ⟨_, -, _, ⟨_, impossible, -⟩, -⟩ := parsed
  cases impossible

end Parsing

section Run

variable {pass} {raws : List pass.Raw} {origin database : CurationDatabase}
variable {status : ProgressStatus} {rows : List pass.Row}
variable {progress : Progress} {crash : CurationDatabase -> Prop}

theorem Point.progress_eq
    (point : pass.Point raws origin status rows progress database) :
    database.progress pass.subphase = some progress := by
  obtain ⟨batches, rfl, equal⟩ := point.reached
  rw [equal]
  exact Function.update_self ..

theorem Point.status_eq
    (point : pass.Point raws origin status rows progress database) :
    progress.status = status := by
  obtain ⟨batches, rfl, -⟩ := point.reached
  rfl

theorem Point.cursor_eq
    (point : pass.Point raws origin status rows progress database) :
    progress.cursor = .inputRows progress.processedRows := by
  obtain ⟨batches, rfl, -⟩ := point.reached
  rfl

theorem Point.processedRows_eq
    (point : pass.Point raws origin status rows progress database) :
    progress.processedRows = rows.length := by
  obtain ⟨batches, rfl, -⟩ := point.reached
  rfl

theorem Point.progress_ne
    (point : pass.Point raws origin status rows progress database)
    {other : Subphase} (different : other ≠ pass.subphase) :
    database.progress other = origin.progress other := by
  obtain ⟨batches, -, equal⟩ := point.reached
  rw [equal]
  exact Function.update_of_ne different _ _

/-- The variables of the loop after a number of rows of the file. -/
structure LoopState (raws : List pass.Raw) (origin : CurationDatabase)
    (committed : Nat) (loop : pass.Loop) (database : CurationDatabase) :
    Prop where
  point : ∃ rows,
    pass.Point raws origin .running rows loop.progress database
  parsed : pass.parseRows loop.progress.processedRows
    ((raws.take loop.inputRows).drop loop.progress.processedRows) =
      .ok loop.batch
  inRange : loop.inputRows ≤ raws.length
  skipped : committed ≤ loop.progress.processedRows
  reached : loop.progress.processedRows ≤ max committed loop.inputRows
  documents : loop.documents =
    loop.progress.processedRows + loop.batch.length
  tokens : loop.tokens =
    loop.progress.processedTokens + (loop.batch.map pass.tokens).sum
  cleanBytes : loop.cleanBytes =
    loop.progress.cleanBytes + (loop.batch.map pass.bytes).sum

/-- What has been committed and what is pending are the rows read so far. -/
theorem LoopState.pending_length
    {committed : Nat} {loop : pass.Loop}
    (holds : LoopState raws origin committed loop database) :
    loop.batch.length = loop.inputRows - loop.progress.processedRows := by
  rw [length_of_parseRows holds.parsed, List.length_drop, List.length_take,
    min_eq_left holds.inRange]

/-- A committed batch. -/
theorem flush_wp
    {committed : Nat} {loop : pass.Loop}
    (lawful : pass.Lawful)
    (crashes : ∀ rows progress database,
      pass.Point raws origin .running rows progress database ->
        crash database)
    (holds : LoopState raws origin committed loop database) :
    (pass.flush loop).wp
      (fun next final => LoopState raws origin committed next final ∧
        next.inputRows = loop.inputRows ∧ next.batch = [])
      (fun error _ => pass.Raises error ∧
        ∀ tables, pass.whole raws origin.tables ≠ .ok tables)
      crash database := by
  unfold flush
  split
  · rename_i isEmpty
    rw [Program.wp_pure]
    exact ⟨holds, rfl, isEmpty⟩
  · rename_i pending
    obtain ⟨rows, point⟩ := holds.point
    have lengths := holds.pending_length
    have positive := List.length_pos_iff.mpr pending
    have processed := point.processedRows_eq
    have total : rows.length + loop.batch.length = loop.inputRows := by omega
    have parsed : pass.parseRows 0 (raws.take (rows ++ loop.batch).length) =
        .ok (rows ++ loop.batch) := by
      have split : raws.take loop.inputRows = raws.take rows.length ++
          (raws.take loop.inputRows).drop rows.length := by
        conv_lhs => rw [← List.take_append_drop rows.length
          (raws.take loop.inputRows)]
        rw [List.take_take, min_eq_left (by omega)]
      have second := holds.parsed
      rw [processed] at second
      rw [List.length_append, total, split, parseRows_append, point.parsed,
        checked_ok_bind, List.length_take, min_eq_left point.inRange,
        Nat.zero_add, second]
      rfl
    rw [Program.wp_bind, Program.wp_effect]
    cases batch : pass.writeBatch database.tables loop.batch with
    | error error =>
        refine ⟨.inr ⟨_, _, batch⟩, fun tables whole => ?_⟩
        obtain ⟨all, allParsed, allWritten⟩ := checked_bind_eq_ok.mp whole
        rw [← List.take_append_drop (rows ++ loop.batch).length raws,
          parseRows_append, parsed, checked_ok_bind] at allParsed
        obtain ⟨back, -, equal⟩ := checked_bind_eq_ok.mp allParsed
        rw [checked_pure_eq_ok] at equal
        rw [← equal, lawful.writeAppend, lawful.writeAppend, point.written,
          checked_ok_bind, batch] at allWritten
        cases allWritten
    | ok tables =>
        obtain ⟨batches, atProgress, atDatabase⟩ := point.reached
        have stored : ({ database with
            tables := tables
            durable := pass.count database.durable loop.batch.length } :
              CurationDatabase).progress pass.subphase =
            some loop.progress := point.progress_eq
        have written : pass.writeBatch origin.tables (rows ++ loop.batch) =
            .ok tables := by
          rw [lawful.writeAppend, point.written, checked_ok_bind, batch]
        have bytes := holds.cleanBytes
        have nextProgress : loop.progress.next (.inputRows loop.inputRows)
            loop.batch.length (loop.batch.map pass.tokens).sum
            (some loop.cleanBytes) =
              pass.progressAt .running (rows ++ loop.batch)
                (batches + 1) := by
          rw [bytes, atProgress]
          simp only [Progress.next, progressAt, List.length_append,
            List.map_append, List.sum_append, Option.getD_some, ← total]
        have nextPoint : pass.Point raws origin .running (rows ++ loop.batch)
            (pass.progressAt .running (rows ++ loop.batch) (batches + 1))
            (pass.databaseAt origin tables .running (rows ++ loop.batch)
              (batches + 1)) := by
          refine ⟨?_, parsed, written, batches + 1, rfl, rfl⟩
          rw [List.length_append, total]
          exact holds.inRange
        simp only [checked_ok_bind]
        rw [commitBoundedBatch_eq stored point.status_eq positive,
          nextProgress]
        have sameDatabase : ({ database with
            tables := tables
            durable := pass.count database.durable loop.batch.length } :
              CurationDatabase).setProgress pass.subphase
                (pass.progressAt .running (rows ++ loop.batch)
                  (batches + 1)) =
            pass.databaseAt origin tables .running (rows ++ loop.batch)
              (batches + 1) := by
          rw [atDatabase]
          simp only [databaseAt, CurationDatabase.setProgress,
            Function.update_idem, lawful.countAdd, List.length_append]
        rw [sameDatabase]
        refine ⟨crashes _ _ _ nextPoint, ?_⟩
        rw [Program.wp_pure]
        refine ⟨⟨⟨_, nextPoint⟩, ?_, holds.inRange, ?_, ?_, ?_, ?_, ?_⟩, rfl,
          rfl⟩
        · have beyond : ((raws.take loop.inputRows).drop
              (rows ++ loop.batch).length) = [] := by
            apply List.drop_of_length_le
            rw [List.length_append, total]
            exact List.length_take_le _ _
          simp only [progressAt]
          rw [beyond, parseRows]
        · have := holds.skipped
          simp only [progressAt, List.length_append]
          omega
        · simp only [progressAt, List.length_append]
          omega
        · have := holds.documents
          simp only [progressAt, List.length_append, List.length_nil]
          omega
        · have := holds.tokens
          rw [atProgress] at this
          simpa [progressAt] using this
        · rw [atProgress] at bytes
          simpa [progressAt] using bytes

/-- One row of the file. -/
theorem step_wp
    {batchSize committed : Nat} {loop : pass.Loop} {raw : pass.Raw}
    (lawful : pass.Lawful)
    (crashes : ∀ rows progress database,
      pass.Point raws origin .running rows progress database ->
        crash database)
    (holds : LoopState raws origin committed loop database)
    (next : raws[loop.inputRows]? = some raw) :
    (pass.step batchSize committed loop raw).wp
      (fun after final => LoopState raws origin committed after final ∧
        after.inputRows = loop.inputRows + 1)
      (fun error _ => pass.Raises error ∧
        ∀ tables, pass.whole raws origin.tables ≠ .ok tables)
      crash database := by
  obtain ⟨bound, isNext⟩ := List.getElem?_eq_some_iff.mp next
  have skipped := holds.skipped
  have reached := holds.reached
  have taken : raws.take (loop.inputRows + 1) =
      raws.take loop.inputRows ++ [raw] := by
    rw [List.take_add_one, next]
    rfl
  unfold step
  simp only
  split
  · rename_i committedRow
    rw [Program.wp_pure]
    refine ⟨⟨holds.point, ?_, bound, skipped, ?_, holds.documents,
      holds.tokens, holds.cleanBytes⟩, rfl⟩
    · have parsed := holds.parsed
      have before : loop.inputRows + 1 ≤ loop.progress.processedRows :=
        committedRow.trans skipped
      have short (count : Nat) (small : count ≤ loop.inputRows + 1) :
          (raws.take count).length ≤ loop.progress.processedRows := by
        rw [List.length_take]
        omega
      rw [List.drop_of_length_le (short _ (Nat.le_succ _))] at parsed
      rw [List.drop_of_length_le (short _ le_rfl)]
      exact parsed
    · simp only
      omega
  · rename_i newRow
    rw [Nat.add_sub_cancel, Program.wp_bind, Program.wp_lift]
    have processed : loop.progress.processedRows ≤ loop.inputRows := by omega
    cases row : pass.parse loop.inputRows raw with
    | error error =>
        refine ⟨.inl ⟨_, _, row⟩, fun tables whole => ?_⟩
        obtain ⟨all, allParsed, -⟩ := checked_bind_eq_ok.mp whole
        have splitRaws : raws = raws.take loop.inputRows ++
            raw :: raws.drop (loop.inputRows + 1) := by
          conv_lhs => rw [← List.take_append_drop (loop.inputRows + 1) raws,
            taken]
          simp
        have refused : pass.parse
            (0 + (raws.take loop.inputRows).length) raw = .error error := by
          rw [Nat.zero_add, List.length_take, min_eq_left holds.inRange]
          exact row
        rw [splitRaws] at allParsed
        exact parseRows_ne_ok refused all allParsed
    | ok row' =>
        have pushed : LoopState raws origin committed
            (pass.push { loop with inputRows := loop.inputRows + 1 } row')
            database := by
          refine ⟨holds.point, ?_, bound, skipped, ?_, ?_, ?_, ?_⟩
          · simp only [push]
            rw [taken, List.drop_append_of_le_length
              (by rw [List.length_take]; omega)]
            apply parseRows_concat holds.parsed
            rw [List.length_drop, List.length_take,
              min_eq_left holds.inRange, Nat.add_sub_cancel' processed]
            exact row
          · simp only [push]
            omega
          · have := holds.documents
            simp only [push, List.length_append, List.length_singleton]
            omega
          · have := holds.tokens
            simp only [push, List.map_append, List.map_singleton,
              List.sum_append, List.sum_singleton]
            omega
          · have := holds.cleanBytes
            simp only [push, List.map_append, List.map_singleton,
              List.sum_append, List.sum_singleton]
            omega
        simp only
        split
        · refine (flush_wp lawful crashes pushed).weaken ?_
          rintro after final ⟨holdsAfter, same, -⟩
          exact ⟨holdsAfter, same⟩
        · rw [Program.wp_pure]
          exact ⟨pushed, rfl⟩

/-- The loop over the rows that are left. -/
theorem rows_wp_of_loopState
    {batchSize committed : Nat} {loop : pass.Loop} {left : List pass.Raw}
    (lawful : pass.Lawful)
    (crashes : ∀ rows progress database,
      pass.Point raws origin .running rows progress database ->
        crash database)
    (holds : LoopState raws origin committed loop database)
    (toCome : raws.drop loop.inputRows = left) :
    (pass.rows batchSize committed left loop).wp
      (fun last final => LoopState raws origin committed last final ∧
        last.inputRows = raws.length ∧ last.batch = [])
      (fun error _ => pass.Raises error ∧
        ∀ tables, pass.whole raws origin.tables ≠ .ok tables)
      crash database := by
  induction left generalizing loop database with
  | nil =>
      rw [List.drop_eq_nil_iff] at toCome
      have bound := holds.inRange
      refine (flush_wp lawful crashes holds).weaken ?_
      rintro last final ⟨holdsLast, same, isEmpty⟩
      exact ⟨holdsLast, by omega, isEmpty⟩
  | cons raw rest inductionHypothesis =>
      have next : raws[loop.inputRows]? = some raw := by
        rw [← List.head?_drop, toCome]
        rfl
      rw [StreamPass.rows, Program.wp_bind]
      refine (step_wp lawful crashes holds next).weaken ?_
      rintro after final ⟨holdsAfter, moved⟩
      apply inductionHypothesis holdsAfter
      rw [moved, ← List.tail_drop, toCome]
      rfl

/-- A run over the whole file from the committed rows: it commits every row
or finds one that no run can commit. -/
theorem rows_wp
    {batchSize : Nat}
    (lawful : pass.Lawful)
    (crashes : ∀ rows progress database,
      pass.Point raws origin .running rows progress database ->
        crash database)
    (point : pass.Point raws origin .running rows progress database) :
    (pass.rows batchSize progress.processedRows raws (pass.enter progress)).wp
      (fun last final => ∃ all,
        pass.Point raws origin .running all last.progress final ∧
          all.length = raws.length ∧ last.inputRows = raws.length ∧
          last.documents = raws.length ∧
          last.tokens = last.progress.processedTokens ∧
          last.cleanBytes = last.progress.cleanBytes)
      (fun error _ => pass.Raises error ∧
        ∀ tables, pass.whole raws origin.tables ≠ .ok tables)
      crash database := by
  have entry : LoopState raws origin progress.processedRows
      (pass.enter progress) database := by
    refine ⟨⟨rows, point⟩, ?_, Nat.zero_le _, le_rfl, le_max_left _ _, ?_, ?_,
      ?_⟩ <;>
      simp [enter, parseRows]
  refine (rows_wp_of_loopState lawful crashes entry rfl).weaken ?_
  rintro last final ⟨holds, atEnd, isEmpty⟩
  obtain ⟨all, allPoint⟩ := holds.point
  have lengths := holds.pending_length
  have processed := allPoint.processedRows_eq
  have bound := allPoint.inRange
  rw [isEmpty, List.length_nil, atEnd] at lengths
  refine ⟨all, allPoint, by omega, atEnd, ?_, ?_, ?_⟩
  · have := holds.documents
    rw [isEmpty, List.length_nil] at this
    omega
  · have := holds.tokens
    rwa [isEmpty, List.map_nil, List.sum_nil, Nat.add_zero] at this
  · have := holds.cleanBytes
    rwa [isEmpty, List.map_nil, List.sum_nil, Nat.add_zero] at this

/-- The progress that a pass finds or inserts. -/
theorem startSubphase_wp
    (lawful : pass.Lawful)
    (crashes : ∀ rows progress database,
      pass.Point raws origin .running rows progress database ->
        crash database)
    (unstarted : origin.progress pass.subphase = none)
    (started : pass.Started raws origin database) :
    (startSubphase pass.subphase (.inputRows 0)).wp
      (fun progress final => ∃ rows,
        pass.Point raws origin .running rows progress final)
      (fun _ _ => False) crash database := by
  unfold startSubphase
  apply Program.wp_query_bind
  rcases started with rfl | ⟨rows, progress, point⟩
  · have first : pass.Point raws database .running []
        (Progress.start (.inputRows 0))
        (database.setProgress pass.subphase
          (Progress.start (.inputRows 0))) := by
      refine ⟨Nat.zero_le _, rfl, lawful.writeNone _, 0, rfl, ?_⟩
      rw [databaseAt, List.length_nil, lawful.countNone]
      rfl
    rw [unstarted]
    apply Program.wp_commit_bind (crashes _ _ _ first)
    rw [Program.wp_pure]
    exact ⟨[], first⟩
  · rw [point.progress_eq]
    exact (Program.wp_pure _).mpr ⟨rows, point⟩

end Run

end StreamPass
end CodingLlm
