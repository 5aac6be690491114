import CodingLlm.Pretrain.RawTokenCacheReader

/-!
# The scans of a raw-token cache

What the two scans of the offsets accept, and what the replay of the
fingerprints accepts and adds up.
-/

namespace CodingLlm

open JsonTree Words

/-! ## Offsets -/

/-- Past the first offset, `_hash_u64_offsets` accepts what does not fall. -/
theorem hashOffsets_succ_eq_ok
    {count first : Nat} {values : List Nat} {result : Nat × Int} :
    hashOffsets (count + 1) first values = .ok result ↔
      (first :: values).IsChain (· ≤ ·) ∧
        result = (count + 1 + values.length,
          ((first :: values).getLast (List.cons_ne_nil _ _) : Int)) := by
  induction values generalizing count first with
  | nil =>
      rw [hashOffsets, checked_pure_eq_ok]
      simp [eq_comm]
  | cons value values inductionHypothesis =>
      rw [hashOffsets, require_then_eq_ok, require_then_eq_ok,
        inductionHypothesis, List.isChain_cons_cons, List.length_cons,
        List.getLast_cons (List.cons_ne_nil _ _), Nat.cast_le]
      simp only [Nat.add_one_ne_zero, false_and, not_false_eq_true, true_and,
        and_assoc]
      rw [show count + 1 + 1 + values.length =
        count + 1 + (values.length + 1) by omega]

/-- The scan of `_hash_u64_offsets`: no offset falls. -/
theorem hashOffsets_eq_ok
    {first : Nat} {values : List Nat} {result : Nat × Int} :
    hashOffsets 0 (-1) (first :: values) = .ok result ↔
      first = 0 ∧ (first :: values).IsChain (· ≤ ·) ∧
        result = ((first :: values).length,
          ((first :: values).getLast (List.cons_ne_nil _ _) : Int)) := by
  rw [hashOffsets, require_then_eq_ok, require_then_eq_ok,
    hashOffsets_succ_eq_ok, List.length_cons]
  have above : (-1 : Int) ≤ first := by omega
  simp only [true_and, not_not, above]
  rw [show 0 + 1 + values.length = values.length + 1 by omega]

/-- Past the first offset, `_scan_offsets` accepts what rises. -/
theorem scanOffsets_succ_eq_ok
    {index first : Nat} {values : List Nat} {last : Int} :
    scanOffsets (index + 1) first values = .ok last ↔
      (first :: values).IsChain (· < ·) ∧
        last = ((first :: values).getLast (List.cons_ne_nil _ _) : Int) := by
  induction values generalizing index first with
  | nil =>
      rw [scanOffsets, checked_pure_eq_ok]
      simp [eq_comm]
  | cons value values inductionHypothesis =>
      rw [scanOffsets, if_neg (Nat.add_one_ne_zero index), require_then_eq_ok,
        inductionHypothesis, List.isChain_cons_cons,
        List.getLast_cons (List.cons_ne_nil _ _), Nat.cast_lt, and_assoc]

/-- The scan of `_scan_offsets`: every offset rises. -/
theorem scanOffsets_eq_ok
    {first : Nat} {values : List Nat} {last : Int} :
    scanOffsets 0 (-1) (first :: values) = .ok last ↔
      first = 0 ∧ (first :: values).IsChain (· < ·) ∧
        last = ((first :: values).getLast (List.cons_ne_nil _ _) : Int) := by
  rw [scanOffsets, if_pos rfl, require_then_eq_ok, scanOffsets_succ_eq_ok]

/-! ## Lines -/

/-- A line of at most as many bytes as the reader bounds, with its newline. -/
structure IsLine (line : List Byte) : Prop where
  ends : ∃ body, newline ∉ body ∧ line = body ++ [newline]
  short : line.length ≤ maximumFingerprintLineBytes
  filled : ∃ byte ∈ line, isSpaceByte byte = false

theorem ne_of_mem_front
    {window : List Byte} {byte : Byte}
    (member : byte ∈ window.takeWhile (· ≠ newline)) : byte ≠ newline := by
  have holds := List.all_takeWhile (p := (· ≠ newline)) (l := window)
  exact of_decide_eq_true (List.all_eq_true.mp holds byte member)

/-- Bytes have no newline, or a first one. -/
theorem front_cases (window : List Byte) :
    window.takeWhile (· ≠ newline) = window ∨
      ∃ more, window = window.takeWhile (· ≠ newline) ++ newline :: more := by
  induction window with
  | nil => exact Or.inl rfl
  | cons byte window inductionHypothesis =>
      by_cases equal : byte = newline
      · subst equal
        exact Or.inr ⟨window, by simp⟩
      · have kept : (byte :: window).takeWhile (· ≠ newline) =
            byte :: window.takeWhile (· ≠ newline) :=
          List.takeWhile_cons_of_pos (decide_eq_true equal)
        rw [kept]
        rcases inductionHypothesis with whole | ⟨more, split⟩
        · exact Or.inl (by rw [whole])
        · exact Or.inr ⟨more, by rw [List.cons_append, ← split]⟩

theorem readLine_append
    {line text : List Byte}
    (isLine : IsLine line) :
    readLine (maximumFingerprintLineBytes + 1) (line ++ text) =
      (line, text) := by
  obtain ⟨body, inside, rfl⟩ := isLine.ends
  have short := isLine.short
  have window : ((body ++ [newline]) ++ text).take
      (maximumFingerprintLineBytes + 1) = (body ++ [newline]) ++
        text.take (maximumFingerprintLineBytes + 1 -
          (body ++ [newline]).length) := by
    rw [List.take_append, List.take_of_length_le (by omega)]
  have passes (byte : Byte) (member : byte ∈ body) :
      decide (byte ≠ newline) = true :=
    decide_eq_true (ne_of_mem_of_not_mem member inside)
  have front : ((body ++ [newline]) ++ text.take
      (maximumFingerprintLineBytes + 1 -
        (body ++ [newline]).length)).takeWhile (· ≠ newline) = body := by
    rw [List.append_assoc, List.takeWhile_append_of_pos passes]
    simp
  rw [readLine, window, front]
  simp

/-- A line that ends is a prefix up to the first newline. -/
theorem line_of_readLine
    {limit : Nat} {text line rest : List Byte}
    (read : readLine limit text = (line, rest))
    (ends : line.getLast? = some newline) :
    text = line ++ rest ∧
      ∃ body, newline ∉ body ∧ line = body ++ [newline] := by
  rw [readLine, Prod.mk.injEq] at read
  obtain ⟨lineEq, restEq⟩ := read
  rcases front_cases (text.take limit) with whole | ⟨more, split⟩
  · rw [whole, List.drop_length, List.take_nil, List.append_nil] at lineEq
    have member := List.mem_of_getLast? ends
    rw [← lineEq, ← whole] at member
    exact absurd rfl (ne_of_mem_front member)
  · have after : ((text.take limit).drop
        ((text.take limit).takeWhile (· ≠ newline)).length).take 1 =
          [newline] := by
      conv_lhs =>
        arg 2
        arg 2
        rw [split]
      rw [List.drop_left]
      rfl
    rw [after] at lineEq restEq
    have whole : text = line ++ (more ++ text.drop limit) := by
      rw [← lineEq, List.append_assoc, List.singleton_append,
        ← List.cons_append, ← List.append_assoc, ← split,
        List.take_append_drop]
    refine ⟨?_, _, fun member => ne_of_mem_front member rfl, lineEq.symm⟩
    rw [← restEq, lineEq]
    conv_rhs =>
      arg 2
      arg 2
      rw [whole]
    rw [List.drop_left]
    exact whole

/-! ## Rows -/

section Rows

variable {floats : FloatText} {sha256 : Sha256} {archive : ArchiveAuthority}

/-- What the object of a line says of a document. -/
structure RowDescribes
    (sha256 : Sha256)
    (archive : ArchiveAuthority)
    (index : Nat)
    (tree : JsonTree)
    (row : DocumentRow) : Prop where
  memberPath : tree.field? "member_path" = some (.str row.memberPath)
  safe : SafeRelative row.memberPath
  binding : rowBinding sha256 archive index row.memberPath tree
  sizeBytes : tree.field? "size_bytes" = some (.int row.sizeBytes)
  sizeBytes_pos : 1 ≤ row.sizeBytes
  tokens : tree.field? "starcoder2_tokens" = some (.int row.tokens)
  tokens_pos : 1 ≤ row.tokens
  contentSha256 : tree.field? "content_sha256" =
    some (.str row.contentSha256)
  isSha256 : IsSha256 row.contentSha256

theorem isMapping_of_field
    {tree item : JsonTree} {key : String}
    (found : tree.field? key = some item) : tree.IsMapping := by
  match tree with
  | .scalar _ => cases found
  | .array _ => cases found
  | .object _ => rfl

theorem readRow_eq_ok
    {index : Nat} {line : List Byte} {row : DocumentRow} :
    readRow floats sha256 archive index line = .ok row ↔
      line ≠ [] ∧ line.length ≤ maximumFingerprintLineBytes ∧
        (line.getLast? = some newline ∧
          ∃ byte ∈ line, isSpaceByte byte = false) ∧
        ∃ tree, (decodeUtf8 line).bind (loads floats) = some tree ∧
          RowDescribes sha256 archive index tree row := by
  unfold readRow
  constructor
  · intro read
    obtain ⟨nonempty, read⟩ := require_then_eq_ok.mp read
    obtain ⟨short, read⟩ := require_then_eq_ok.mp read
    obtain ⟨shape, read⟩ := require_then_eq_ok.mp read
    obtain ⟨tree, decoded, read⟩ := checked_bind_eq_ok.mp read
    obtain ⟨-, read⟩ := require_then_eq_ok.mp read
    obtain ⟨memberPath, member, read⟩ := checked_bind_eq_ok.mp read
    obtain ⟨safe, read⟩ := require_then_eq_ok.mp read
    obtain ⟨binding, read⟩ := require_then_eq_ok.mp read
    obtain ⟨sizeBytes, size, read⟩ := checked_bind_eq_ok.mp read
    obtain ⟨tokens, count, read⟩ := checked_bind_eq_ok.mp read
    obtain ⟨contentSha256, content, read⟩ := checked_bind_eq_ok.mp read
    obtain rfl := checked_pure_eq_ok.mp read
    rw [requireObject_eq_ok] at decoded member
    rw [bind_str?_eq_some] at member
    rw [requirePositiveField_eq_ok] at size count
    rw [requireSha256Field_eq_ok] at content
    exact ⟨nonempty, short, shape, tree, decoded, member, safe, binding, size.1,
      size.2, count.1, count.2, content.1, content.2⟩
  · rintro ⟨nonempty, short, shape, tree, decoded, describes⟩
    refine require_then_eq_ok.mpr ⟨nonempty, ?_⟩
    refine require_then_eq_ok.mpr ⟨short, ?_⟩
    refine require_then_eq_ok.mpr ⟨shape, ?_⟩
    refine checked_bind_eq_ok.mpr ⟨tree, requireObject_eq_ok.mpr decoded, ?_⟩
    refine require_then_eq_ok.mpr
      ⟨isMapping_of_field describes.memberPath, ?_⟩
    refine checked_bind_eq_ok.mpr ⟨_, requireObject_eq_ok.mpr
      (bind_str?_eq_some.mpr describes.memberPath), ?_⟩
    refine require_then_eq_ok.mpr ⟨describes.safe, ?_⟩
    refine require_then_eq_ok.mpr ⟨describes.binding, ?_⟩
    refine checked_bind_eq_ok.mpr ⟨_, requirePositiveField_eq_ok.mpr
      ⟨describes.sizeBytes, describes.sizeBytes_pos⟩, ?_⟩
    refine checked_bind_eq_ok.mpr ⟨_, requirePositiveField_eq_ok.mpr
      ⟨describes.tokens, describes.tokens_pos⟩, ?_⟩
    exact checked_bind_eq_ok.mpr ⟨_, requireSha256Field_eq_ok.mpr
      ⟨describes.contentSha256, describes.isSha256⟩, rfl⟩

/-- The lines of a text describe documents one after another, each with as many
tokens as its span. -/
inductive RowsAgree
    (floats : FloatText)
    (sha256 : Sha256)
    (archive : ArchiveAuthority)
    (offsets : List Byte) : Nat -> List Byte -> List DocumentRow -> Prop
  | nil (index : Nat) : RowsAgree floats sha256 archive offsets index [] []
  | cons
      {index : Nat} {line text : List Byte} {tree : JsonTree}
      {row : DocumentRow} {rows : List DocumentRow}
      (isLine : IsLine line)
      (decoded : (decodeUtf8 line).bind (loads floats) = some tree)
      (describes : RowDescribes sha256 archive index tree row)
      (span : ((documentOffsets offsets index).2 : Int) -
        (documentOffsets offsets index).1 = row.tokens)
      (others : RowsAgree floats sha256 archive offsets (index + 1) text rows) :
      RowsAgree floats sha256 archive offsets index (line ++ text)
        (row :: rows)

/-- What the alignment digest takes from documents. -/
def alignmentOf (floats : FloatText) (offsets : List Byte) :
    Nat -> List DocumentRow -> List Byte
  | _, [] => []
  | index, row :: rows =>
      alignmentBytes floats index row (documentOffsets offsets index) ++
        alignmentOf floats offsets (index + 1) rows

/-- The replay of the fingerprints accepts documents that agree with the
offsets, and adds them up. -/
theorem alignRows_eq_ok
    {offsets : List Byte} {remaining index : Nat}
    {state final : AlignmentState} :
    alignRows floats sha256 archive offsets remaining index state =
        .ok final ↔
      ∃ rows text, rows.length = remaining ∧
        RowsAgree floats sha256 archive offsets index text rows ∧
        state.text = text ++ final.text ∧
        final.alignment = state.alignment ++ alignmentOf floats offsets index
          rows ∧
        final.records = state.records + rows.length ∧
        final.cleanBytes = state.cleanBytes +
          (rows.map DocumentRow.sizeBytes).sum ∧
        final.contentTokens = state.contentTokens +
          (rows.map DocumentRow.tokens).sum := by
  induction remaining generalizing index state with
  | zero =>
      rw [alignRows, checked_pure_eq_ok]
      constructor
      · rintro rfl
        exact ⟨[], [], rfl, .nil index, rfl, by simp [alignmentOf], rfl, rfl,
          rfl⟩
      · rintro ⟨rows, text, length, agree, textEq, alignment, records, clean,
          tokens⟩
        obtain rfl := List.length_eq_zero_iff.mp length
        cases agree
        cases state
        cases final
        simp_all [alignmentOf]
  | succ remaining inductionHypothesis =>
      rw [alignRows]
      constructor
      · intro aligned
        obtain ⟨row, read, aligned⟩ := checked_bind_eq_ok.mp aligned
        obtain ⟨span, aligned⟩ := require_then_eq_ok.mp aligned
        obtain ⟨rows, text, length, agree, textEq, alignment, records, clean,
          tokens⟩ := inductionHypothesis.mp aligned
        obtain ⟨-, short, ⟨ends, filled⟩, tree, decoded, describes⟩ :=
          readRow_eq_ok.mp read
        obtain ⟨whole, body⟩ := line_of_readLine rfl ends
        refine ⟨row :: rows, _ ++ text, by rw [List.length_cons, length],
          .cons ⟨body, short, filled⟩ decoded describes span agree, ?_, ?_, ?_,
          ?_, ?_⟩
        · rw [List.append_assoc, ← textEq]
          exact whole
        · rw [alignment, alignmentOf, List.append_assoc]
        · rw [records, List.length_cons]
          dsimp only
          omega
        · rw [clean, List.map_cons, List.sum_cons]
          dsimp only
          omega
        · rw [tokens, List.map_cons, List.sum_cons]
          dsimp only
          omega
      · rintro ⟨rows, text, length, agree, textEq, alignment, records, clean,
          tokens⟩
        cases agree with
        | nil => cases length
        | @cons _ line text tree row rows isLine decoded describes span agree =>
            have next : readLine (maximumFingerprintLineBytes + 1) state.text =
                (line, text ++ final.text) := by
              rw [textEq, List.append_assoc, readLine_append isLine]
            obtain ⟨body, -, lineEq⟩ := isLine.ends
            have read : readRow floats sha256 archive index line = .ok row :=
              readRow_eq_ok.mpr ⟨by simp [lineEq], isLine.short,
                ⟨by simp [lineEq], isLine.filled⟩, tree, decoded, describes⟩
            rw [next]
            refine checked_bind_eq_ok.mpr ⟨row, read, ?_⟩
            refine require_then_eq_ok.mpr ⟨span, ?_⟩
            refine inductionHypothesis.mpr ⟨rows, text, by simpa using length,
              agree, rfl, ?_, ?_, ?_, ?_⟩
            · rw [alignment, alignmentOf, List.append_assoc]
            · rw [records, List.length_cons]
              dsimp only
              omega
            · rw [clean, List.map_cons, List.sum_cons]
              dsimp only
              omega
            · rw [tokens, List.map_cons, List.sum_cons]
              dsimp only
              omega

/-- The tokens of documents fill the range between their offsets. -/
theorem RowsAgree.sum_tokens
    {offsets : List Byte} {index : Nat} {text : List Byte}
    {rows : List DocumentRow}
    (agree : RowsAgree floats sha256 archive offsets index text rows) :
    ((rows.map DocumentRow.tokens).sum : Int) =
      (decodeWords 8 offsets).getD (index + rows.length) 0 -
        (decodeWords 8 offsets).getD index 0 := by
  induction agree with
  | nil => simp
  | @cons index _ _ _ row rows _ _ _ span _ inductionHypothesis =>
      rw [List.map_cons, List.sum_cons, Nat.cast_add, inductionHypothesis,
        ← span, List.length_cons, documentOffsets]
      rw [show index + 1 + rows.length = index + (rows.length + 1) by omega]
      omega

end Rows

end CodingLlm
