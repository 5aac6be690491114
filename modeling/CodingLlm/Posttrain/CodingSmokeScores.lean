import CodingLlm.Library.JsonRoundTrip
import CodingLlm.Posttrain.CodingSmoke

/-!
# What a coding task is scored

The texts that the scorer compares tell the answers of the oracles apart from
every other value.  Scoring raises on some outputs of the child, and on no
other output the record is anything but what the child's last marker line
deserves.
-/

namespace CodingLlm
namespace CodingSmoke

open JsonTree

/-! ## Texts of integers -/

theorem isIntegerChar_of_mem_writeInt
    {value : Int} {character : Char}
    (member : character ∈ writeInt value) :
    isIntegerChar character = true := by
  have digits {number : Nat} (inside : character ∈ Nat.toDigits 10 number) :
      isIntegerChar character = true := by
    have digit := Nat.isDigit_of_mem_toDigits (by decide) (by decide) inside
    rw [isIntegerChar, digit]
    rfl
  cases value with
  | ofNat value => exact digits member
  | negSucc value =>
      rcases List.mem_cons.mp member with rfl | inside
      · rfl
      · exact digits inside

theorem isNumberChar_of_isIntegerChar
    {character : Char} (integer : isIntegerChar character = true) :
    isNumberChar character = true := by
  rw [isIntegerChar, Bool.or_eq_true, beq_iff_eq] at integer
  rw [isNumberChar, Bool.or_eq_true, decide_eq_true_eq]
  rcases integer with digit | rfl
  · exact .inl digit
  · exact .inr (by decide)

theorem writeInt_injective : Function.Injective writeInt := by
  intro first second same
  have ends : Ends [] := fun _ member => nomatch member
  have readFirst := readNumber_writeInt wholeFloats first ends
  have readSecond := readNumber_writeInt wholeFloats second ends
  rw [same, readSecond] at readFirst
  simpa using readFirst.symm

theorem writeInt_ne_nil (value : Int) : writeInt value ≠ [] := by
  obtain ⟨character, tail, equal, -⟩ := exists_writeInt value
  rw [equal]
  exact List.cons_ne_nil _ _

/-! ## Values that are written alike -/

/-- A text that does not go on with a number. -/
def Stops (rest : List Char) : Prop :=
  ∀ character ∈ rest.head?, isNumberChar character = false

theorem stops_comma (rest : List Char) : Stops (',' :: rest) := by
  intro character first
  obtain rfl := Option.some.inj first
  decide

theorem stops_bracket (rest : List Char) : Stops (']' :: rest) := by
  intro character first
  obtain rfl := Option.some.inj first
  decide

theorem stops_nil : Stops [] := fun _ first => nomatch first

theorem takeWhile_of_stops
    {text rest : List Char}
    (all : ∀ character ∈ text, isNumberChar character = true)
    (stops : Stops rest) :
    (text ++ rest).takeWhile isNumberChar = text := by
  rw [List.takeWhile_append_of_pos all]
  cases rest with
  | nil => exact List.append_nil text
  | cons character rest =>
      rw [List.takeWhile_cons_of_neg (by simp [stops character rfl]),
        List.append_nil]

/-- A value that is neither an integer nor a float begins with a character
that no number has and that closes no list. -/
theorem write_begins (value : Decoded) :
    (∃ number, value = .int number) ∨ (∃ number, value = .float number) ∨
      ∃ first tail, value.write = first :: tail ∧
        isNumberChar first = false ∧ first ≠ ']' := by
  cases value with
  | int number => exact .inl ⟨number, rfl⟩
  | float number => exact .inr (.inl ⟨number, rfl⟩)
  | null => exact .inr (.inr ⟨'n', _, rfl, by decide, by decide⟩)
  | bool truth =>
      cases truth with
      | true => exact .inr (.inr ⟨'t', _, rfl, by decide, by decide⟩)
      | false => exact .inr (.inr ⟨'f', _, rfl, by decide, by decide⟩)
  | nonFinite => exact .inr (.inr ⟨'N', _, rfl, by decide, by decide⟩)
  | text points => exact .inr (.inr ⟨'\x22', _, rfl, by decide, by decide⟩)
  | array items => exact .inr (.inr ⟨'[', _, rfl, by decide, by decide⟩)
  | object fields => exact .inr (.inr ⟨'\x7b', _, rfl, by decide, by decide⟩)

/-- Only an integer is written as an integer, whatever follows it. -/
theorem eq_int_of_write
    {value : Decoded} {number : Int} {rest others : List Char}
    (stops : Stops rest) (otherStops : Stops others)
    (same : value.write ++ rest = writeInt number ++ others) :
    value = .int number ∧ rest = others := by
  have numberChars : ∀ character ∈ writeInt number,
      isNumberChar character = true := fun character member =>
    isNumberChar_of_isIntegerChar (isIntegerChar_of_mem_writeInt member)
  have read := takeWhile_of_stops numberChars otherStops
  rw [← same] at read
  rcases write_begins value with ⟨other, rfl⟩ | ⟨float, rfl⟩ |
    ⟨first, tail, begins, notNumber, -⟩
  · have otherChars : ∀ character ∈ writeInt other,
        isNumberChar character = true := fun character member =>
      isNumberChar_of_isIntegerChar (isIntegerChar_of_mem_writeInt member)
    have written : (Decoded.int other).write = writeInt other := by
      rw [Decoded.write_int]
    rw [written] at read same
    rw [takeWhile_of_stops otherChars stops] at read
    obtain rfl := writeInt_injective read
    exact ⟨rfl, List.append_cancel_left same⟩
  · have written : (Decoded.float float).write = float.repr := by
      rw [Decoded.write_float]
    rw [written, takeWhile_of_stops float.isNumber stops] at read
    obtain ⟨character, member, notInteger⟩ := float.notInteger
    rw [read] at member
    rw [isIntegerChar_of_mem_writeInt member] at notInteger
    cases notInteger
  · rw [begins, List.cons_append,
      List.takeWhile_cons_of_neg (by simp [notNumber])] at read
    exact absurd read.symm (writeInt_ne_nil number)

/-- A number begins with a character of a number. -/
theorem isNumberChar_of_write
    {value : Decoded} {first : Char} {tail : List Char}
    (number : (∃ number, value = .int number) ∨
      ∃ number, value = .float number)
    (begins : value.write = first :: tail) : isNumberChar first = true := by
  rcases number with ⟨number, rfl⟩ | ⟨number, rfl⟩
  · rw [Decoded.write_int] at begins
    exact isNumberChar_of_isIntegerChar (isIntegerChar_of_mem_writeInt
      (begins ▸ List.mem_cons_self ..))
  · rw [Decoded.write_float] at begins
    exact number.isNumber first (begins ▸ List.mem_cons_self ..)

theorem write_ne_nil (value : Decoded) : value.write ≠ [] := by
  rcases write_begins value with ⟨number, rfl⟩ | ⟨float, rfl⟩ |
    ⟨first, tail, begins, -, -⟩
  · rw [Decoded.write_int]
    exact writeInt_ne_nil number
  · obtain ⟨character, member, -⟩ := float.notInteger
    rw [Decoded.write_float]
    exact List.ne_nil_of_mem member
  · rw [begins]
    exact List.cons_ne_nil _ _

theorem write_ne_bracket (value : Decoded) (rest : List Char) :
    value.write ++ rest ≠ ']' :: others := by
  intro same
  cases written : value.write with
  | nil => exact write_ne_nil value written
  | cons first tail =>
      rw [written, List.cons_append] at same
      obtain ⟨rfl, -⟩ := List.cons.inj same
      rcases write_begins value with number | number |
        ⟨other, more, begins, -, notBracket⟩
      · exact absurd (isNumberChar_of_write (.inl number) written) (by decide)
      · exact absurd (isNumberChar_of_write (.inr number) written) (by decide)
      · rw [begins] at written
        exact notBracket (List.cons.inj written).1

/-- Only a list is written with a bracket. -/
theorem exists_array_of_write
    {value : Decoded} {tail : List Char}
    (begins : value.write = '[' :: tail) : ∃ items, value = .array items := by
  have notNumber (number : (∃ number, value = .int number) ∨
      ∃ number, value = .float number) : False :=
    absurd (isNumberChar_of_write number begins) (by decide)
  cases value with
  | array items => exact ⟨items, rfl⟩
  | int number => exact (notNumber (.inl ⟨number, rfl⟩)).elim
  | float number => exact (notNumber (.inr ⟨number, rfl⟩)).elim
  | bool truth => cases truth <;> simp at begins
  | null => simp at begins
  | nonFinite => simp at begins
  | text points => simp [Decoded.quoted] at begins
  | object fields => simp at begins

/-- Only a string is written with a quotation mark. -/
theorem exists_text_of_write
    {value : Decoded} {tail : List Char}
    (begins : value.write = '\x22' :: tail) :
    ∃ points, value = .text points := by
  have notNumber (number : (∃ number, value = .int number) ∨
      ∃ number, value = .float number) : False :=
    absurd (isNumberChar_of_write number begins) (by decide)
  cases value with
  | text points => exact ⟨points, rfl⟩
  | int number => exact (notNumber (.inl ⟨number, rfl⟩)).elim
  | float number => exact (notNumber (.inr ⟨number, rfl⟩)).elim
  | bool truth => cases truth <;> simp at begins
  | null => simp at begins
  | nonFinite => simp at begins
  | array items => simp at begins
  | object fields => simp at begins

/-- Only a list of integers is written as one. -/
theorem eq_map_int_of_joined
    {items : List Decoded} {numbers : List Int}
    (same : joined (Decoded.writeItems items) ++ [']'] =
      joined (numbers.map writeInt) ++ [']']) :
    items = numbers.map .int := by
  induction numbers generalizing items with
  | nil =>
      cases items with
      | nil => rfl
      | cons item rest =>
          exfalso
          cases rest with
          | nil => exact write_ne_bracket item [']'] same
          | cons next others =>
              rw [Decoded.writeItems_cons, Decoded.writeItems_cons, joined,
                List.append_assoc] at same
              exact write_ne_bracket item _ same
  | cons number numbers inductionHypothesis =>
      cases items with
      | nil =>
          exfalso
          have intWritten : (Decoded.int number).write = writeInt number := by
            rw [Decoded.write_int]
          cases numbers with
          | nil =>
              rw [List.map_cons, List.map_nil, joined, ← intWritten] at same
              exact write_ne_bracket _ _ same.symm
          | cons next others =>
              rw [List.map_cons, List.map_cons, joined, List.append_assoc,
                ← intWritten] at same
              exact write_ne_bracket _ _ same.symm
      | cons item rest =>
          cases rest with
          | nil =>
              cases numbers with
              | nil =>
                  obtain ⟨rfl, -⟩ := eq_int_of_write (stops_bracket [])
                    (stops_bracket []) same
                  rfl
              | cons next others =>
                  rw [List.map_cons, List.map_cons, joined,
                    List.append_assoc] at same
                  obtain ⟨-, apart⟩ := eq_int_of_write (stops_bracket [])
                    (stops_comma _) same
                  exact absurd (List.cons.inj apart).1 (by decide)
          | cons second later =>
              rw [Decoded.writeItems_cons, Decoded.writeItems_cons, joined,
                List.append_assoc] at same
              cases numbers with
              | nil =>
                  obtain ⟨-, apart⟩ := eq_int_of_write (stops_comma _)
                    (stops_bracket []) same
                  exact absurd (List.cons.inj apart).1 (by decide)
              | cons next others =>
                  rw [List.map_cons, List.map_cons, joined,
                    List.append_assoc] at same
                  obtain ⟨rfl, continued⟩ := eq_int_of_write (stops_comma _)
                    (stops_comma _) same
                  have restSame := (List.cons.inj continued).2
                  rw [← Decoded.writeItems_cons,
                    ← List.map_cons] at restSame
                  rw [inductionHypothesis restSame]
                  rfl

/-! ## Texts of strings -/

/-- A code point that is written as it is. -/
def isPlainPoint (codePoint : Nat) : Bool :=
  0x20 ≤ codePoint && codePoint < 0x7F && codePoint != 0x22 &&
    codePoint != 0x5C

theorem toNat_ofNat_of_valid
    {code : Nat} (valid : code.isValidChar) :
    (Char.ofNat code).toNat = code := by
  unfold Char.ofNat
  rw [dif_pos valid]
  rfl

theorem escapePoint_of_plain
    {codePoint : Nat} (plain : isPlainPoint codePoint = true) :
    Decoded.escapePoint codePoint = [Char.ofNat codePoint] := by
  simp only [isPlainPoint, Bool.and_eq_true, decide_eq_true_eq, bne_iff_ne]
    at plain
  obtain ⟨⟨⟨low, high⟩, noQuote⟩, noBackslash⟩ := plain
  have all : ∀ point : Fin 0x7F, 0x20 ≤ point.val -> point.val ≠ 0x22 ->
      point.val ≠ 0x5C ->
        Decoded.escapePoint point.val = [Char.ofNat point.val] := by
    decide +kernel
  exact all ⟨codePoint, high⟩ low noQuote noBackslash

theorem longEscape_begins (code : Nat) :
    ∃ tail, longEscape code = '\x5c' :: tail := by
  unfold longEscape
  split
  · exact ⟨_, rfl⟩
  · exact ⟨_, rfl⟩

/-- Any other code point is escaped. -/
theorem escapePoint_of_not_plain
    {codePoint : Nat} (notPlain : isPlainPoint codePoint = false) :
    ∃ tail, Decoded.escapePoint codePoint = '\x5c' :: tail := by
  unfold Decoded.escapePoint
  split
  · rename_i valid
    have sameCode := toNat_ofNat_of_valid valid
    unfold writeChar
    split
    · exact ⟨_, rfl⟩
    · rename_i notShort
      split
      · exact longEscape_begins _
      · rename_i printable
        exfalso
        rw [sameCode] at printable
        simp only [true_and, not_or, not_lt] at printable
        have isPlain : isPlainPoint codePoint = true := by
          have noQuote : codePoint ≠ 0x22 := by
            rintro rfl
            exact absurd notShort (by decide)
          have noBackslash : codePoint ≠ 0x5C := by
            rintro rfl
            exact absurd notShort (by decide)
          simp only [isPlainPoint, Bool.and_eq_true, decide_eq_true_eq,
            bne_iff_ne]
          exact ⟨⟨⟨printable.1, by omega⟩, noQuote⟩, noBackslash⟩
        rw [isPlain] at notPlain
        cases notPlain
  · exact ⟨_, rfl⟩

theorem ofNat_ne_of_plain
    {codePoint other : Nat} (plain : isPlainPoint codePoint = true)
    (escaped : other = 0x22 ∨ other = 0x5C) :
    Char.ofNat codePoint ≠ Char.ofNat other := by
  intro same
  simp only [isPlainPoint, Bool.and_eq_true, decide_eq_true_eq, bne_iff_ne]
    at plain
  have codes := congrArg Char.toNat same
  have valid : codePoint.isValidChar := .inl (by omega)
  have otherValid : other.isValidChar := .inl (by omega)
  rw [toNat_ofNat_of_valid valid, toNat_ofNat_of_valid otherValid] at codes
  omega

/-- Only one string is written as a plain text. -/
theorem eq_of_flatMap_escapePoint
    {points others : List Nat}
    (plain : ∀ point ∈ others, isPlainPoint point = true)
    (same : points.flatMap Decoded.escapePoint ++ ['\x22'] =
      others.flatMap Decoded.escapePoint ++ ['\x22']) :
    points = others := by
  induction others generalizing points with
  | nil =>
      cases points with
      | nil => rfl
      | cons point rest =>
          exfalso
          rw [List.flatMap_cons, List.flatMap_nil, List.nil_append,
            List.append_assoc] at same
          cases isPlain : isPlainPoint point with
          | true =>
              rw [escapePoint_of_plain isPlain] at same
              exact ofNat_ne_of_plain isPlain (.inl rfl) (List.cons.inj same).1
          | false =>
              obtain ⟨tail, escaped⟩ := escapePoint_of_not_plain isPlain
              rw [escaped] at same
              exact absurd (List.cons.inj same).1 (by decide)
  | cons other others inductionHypothesis =>
      rw [List.forall_mem_cons] at plain
      rw [List.flatMap_cons, escapePoint_of_plain plain.1,
        List.append_assoc] at same
      cases points with
      | nil =>
          exact absurd (List.cons.inj same).1
            (ofNat_ne_of_plain plain.1 (.inl rfl)).symm
      | cons point rest =>
          rw [List.flatMap_cons, List.append_assoc] at same
          cases isPlain : isPlainPoint point with
          | true =>
              rw [escapePoint_of_plain isPlain] at same
              obtain ⟨first, tails⟩ := List.cons.inj same
              rw [inductionHypothesis plain.2 tails]
              congr 1
              have codes := congrArg Char.toNat first
              have below {code : Nat} (plainCode : isPlainPoint code = true) :
                  (Char.ofNat code).toNat = code := by
                simp only [isPlainPoint, Bool.and_eq_true, decide_eq_true_eq,
                  bne_iff_ne] at plainCode
                exact toNat_ofNat_of_valid (.inl (by omega))
              rwa [below isPlain, below plain.1] at codes
          | false =>
              obtain ⟨tail, escaped⟩ := escapePoint_of_not_plain isPlain
              rw [escaped] at same
              exact absurd (List.cons.inj same).1
                (ofNat_ne_of_plain plain.1 (.inr rfl)).symm

/-! ## Answers -/

/-- What the oracles return: an integer, a list of integers, or a plain
string. -/
def isAnswer : Decoded -> Bool
  | .int _ => true
  | .array items => items.all fun item => match item with
      | .int _ => true
      | _ => false
  | .text points => points.all isPlainPoint
  | _ => false

/-- The answers of every task: sixteen, of these kinds. -/
theorem expectedAnswers_isAnswer
    {taskId : String} {definition : TaskDefinition}
    (isTask : tasks.lookup taskId = some definition) :
    (expectedAnswers taskId definition).length = 16 ∧
      ∀ answer ∈ expectedAnswers taskId definition,
        isAnswer answer = true := by
  have all : (tasks.all fun task =>
      (expectedAnswers task.1 task.2).length == 16 &&
        (expectedAnswers task.1 task.2).all isAnswer) = true := by
    decide +kernel
  obtain ⟨front, back, split, -⟩ := List.lookup_eq_some_iff.mp isTask
  have member : (taskId, definition) ∈ tasks := by
    rw [split]
    exact List.mem_append_right _ (List.mem_cons_self ..)
  have checked := List.all_eq_true.mp all _ member
  rw [Bool.and_eq_true, beq_iff_eq, List.all_eq_true] at checked
  exact checked

/-- A list of integers as the list of its numbers. -/
theorem exists_map_int
    {items : List Decoded}
    (integers : isAnswer (.array items) = true) :
    ∃ numbers : List Int, items = numbers.map .int := by
  rw [isAnswer, List.all_eq_true] at integers
  induction items with
  | nil => exact ⟨[], rfl⟩
  | cons item rest inductionHypothesis =>
      rw [List.forall_mem_cons] at integers
      obtain ⟨numbers, rfl⟩ := inductionHypothesis integers.2
      cases item with
      | int number => exact ⟨number :: numbers, rfl⟩
      | null => cases integers.1
      | bool value => cases integers.1
      | float value => cases integers.1
      | nonFinite => cases integers.1
      | text points => cases integers.1
      | array items => cases integers.1
      | object fields => cases integers.1

theorem writeItems_map_int (numbers : List Int) :
    Decoded.writeItems (numbers.map .int) = numbers.map writeInt := by
  induction numbers with
  | nil => rfl
  | cons number numbers inductionHypothesis =>
      rw [List.map_cons, Decoded.writeItems_cons, inductionHypothesis,
        Decoded.write_int, List.map_cons]

/-- A value is written as an answer only if it is the answer. -/
theorem write_eq_write_iff
    {value answer : Decoded} (kind : isAnswer answer = true) :
    value.write = answer.write ↔ value = answer := by
  refine ⟨fun same => ?_, congrArg Decoded.write⟩
  cases answer with
  | int number =>
      have ended : value.write ++ [] = writeInt number ++ [] := by
        rw [same, Decoded.write_int]
      exact (eq_int_of_write stops_nil stops_nil ended).1
  | array items =>
      obtain ⟨numbers, rfl⟩ := exists_map_int kind
      obtain ⟨others, rfl⟩ :=
        exists_array_of_write (same.trans (Decoded.write_array _))
      rw [Decoded.write_array, Decoded.write_array, writeItems_map_int] at same
      rw [eq_map_int_of_joined (List.cons.inj same).2]
  | text points =>
      obtain ⟨others, rfl⟩ :=
        exists_text_of_write (same.trans (Decoded.write_text _))
      rw [isAnswer, List.all_eq_true] at kind
      rw [Decoded.write_text, Decoded.write_text] at same
      rw [eq_of_flatMap_escapePoint kind (List.cons.inj same).2]
  | null => cases kind
  | bool value => cases kind
  | float value => cases kind
  | nonFinite => cases kind
  | object fields => cases kind

/-! ## Records of cases -/

section Records

variable {verifier : Verifier}

/-- A value that `canonical_json` returns a text for. -/
def Encodable (verifier : Verifier) (value : Decoded) : Prop :=
  value.isFinite = true ∧ value.depth ≤ verifier.encoderDepth

theorem canonicalJson_eq_ok
    {value : Decoded} (encodable : Encodable verifier value) :
    canonicalJson verifier value = .ok value.write := by
  unfold canonicalJson
  rw [require_bind encodable.1, require_bind encodable.2]
  rfl

theorem canonicalJson_eq_error
    {value : Decoded} (notEncodable : ¬Encodable verifier value) :
    ∃ error, canonicalJson verifier value = .error error := by
  unfold canonicalJson
  by_cases finite : value.isFinite = true
  · rw [require_bind finite,
      require_eq_error fun shallow => notEncodable ⟨finite, shallow⟩]
    exact ⟨_, rfl⟩
  · rw [require_eq_error finite]
    exact ⟨_, rfl⟩

/-- Answers are flat and hold no floats. -/
theorem encodable_of_isAnswer
    {answer : Decoded} (kind : isAnswer answer = true) :
    Encodable verifier answer := by
  cases answer with
  | int number => exact ⟨rfl, Nat.zero_le _⟩
  | text points => exact ⟨rfl, Nat.zero_le _⟩
  | array items =>
      obtain ⟨numbers, rfl⟩ := exists_map_int kind
      have flat : Decoded.itemsFinite (numbers.map .int) = true ∧
          Decoded.itemsDepth (numbers.map .int) = 0 := by
        clear kind
        induction numbers with
        | nil => exact ⟨rfl, rfl⟩
        | cons number numbers inductionHypothesis =>
            rw [List.map_cons, Decoded.itemsFinite_cons,
              Decoded.itemsDepth_cons, inductionHypothesis.1, inductionHypothesis.2]
            exact ⟨rfl, rfl⟩
      constructor
      · rw [Decoded.isFinite_array, flat.1]
      · rw [Decoded.depth_array, flat.2]
        exact verifier.one_le_encoderDepth
  | null => cases kind
  | bool value => cases kind
  | float value => cases kind
  | nonFinite => cases kind
  | object fields => cases kind

/-- A record that claims its case with a value that cannot be encoded. -/
def RecordAborts (verifier : Verifier) (record : Decoded) : Prop :=
  ∃ fields, record = .object fields ∧
    (Decoded.get fields "ok").isTrue = true ∧
    ¬Encodable verifier (Decoded.get fields "value")

/-- A record that claims its case with the answer. -/
def RecordDeserves (record answer : Decoded) : Prop :=
  ∃ fields, record = .object fields ∧
    (Decoded.get fields "ok").isTrue = true ∧
    Decoded.get fields "value" = answer

theorem items?_eq_some_iff {value : Decoded} {items : List Decoded} :
    value.items? = some items ↔ value = .array items := by
  cases value <;> simp [Decoded.items?]

theorem fields?_eq_some_iff
    {value : Decoded} {fields : List (List Nat × Decoded)} :
    value.fields? = some fields ↔ value = .object fields := by
  cases value <;> simp [Decoded.fields?]

theorem recordPasses_eq_ok
    {record answer : Decoded} (kind : isAnswer answer = true)
    (keeps : ¬RecordAborts verifier record) :
    ∃ passes, recordPasses verifier record answer = .ok passes ∧
      (passes = true ↔ RecordDeserves record answer) := by
  cases isObject : record.fields? with
  | none =>
      refine ⟨false, by rw [recordPasses, isObject]; rfl, ?_⟩
      constructor
      · intro impossible
        cases impossible
      · rintro ⟨fields, same, -⟩
        rw [fields?_eq_some_iff.mpr same] at isObject
        cases isObject
  | some fields =>
      have same := fields?_eq_some_iff.mp isObject
      by_cases claims : (Decoded.get fields "ok").isTrue = true
      · have encodable : Encodable verifier (Decoded.get fields "value") := by
          by_contra notEncodable
          exact keeps ⟨fields, same, claims, notEncodable⟩
        refine ⟨(Decoded.get fields "value").write == answer.write, ?_, ?_⟩
        · rw [recordPasses, isObject]
          dsimp only
          rw [if_pos claims, canonicalJson_eq_ok encodable, checked_ok_bind,
            canonicalJson_eq_ok (encodable_of_isAnswer kind), checked_ok_bind]
          rfl
        · rw [beq_iff_eq, write_eq_write_iff kind]
          constructor
          · exact fun equal => ⟨fields, same, claims, equal⟩
          · rintro ⟨others, isOthers, -, equal⟩
            obtain rfl := Decoded.object.inj (same.symm.trans isOthers)
            exact equal
      · refine ⟨false, ?_, ?_⟩
        · rw [recordPasses, isObject]
          dsimp only
          rw [if_neg claims]
          rfl
        · constructor
          · intro impossible
            cases impossible
          · rintro ⟨others, isOthers, claimed, -⟩
            obtain rfl := Decoded.object.inj (same.symm.trans isOthers)
            exact absurd claimed claims

theorem recordPasses_eq_error
    {record : Decoded} (answer : Decoded)
    (aborts : RecordAborts verifier record) :
    ∃ error, recordPasses verifier record answer = .error error := by
  obtain ⟨fields, rfl, claims, notEncodable⟩ := aborts
  obtain ⟨error, raises⟩ := canonicalJson_eq_error notEncodable
  refine ⟨error, ?_⟩
  unfold recordPasses
  simp only [Decoded.fields?, claims, if_true, raises]
  rfl

/-- Counting counts no more than there is, and everything only if every record
deserves it. -/
theorem countPassed_eq_ok
    {records answers : List Decoded}
    (kinds : ∀ answer ∈ answers, isAnswer answer = true)
    (sameLength : records.length = answers.length)
    (keeps : ∀ record ∈ records, ¬RecordAborts verifier record) :
    ∃ passed, countPassed verifier records answers = .ok passed ∧
      passed ≤ answers.length ∧
      (passed = answers.length ↔
        List.Forall₂ RecordDeserves records answers) := by
  suffices collected : ∃ passes,
      (records.zip answers).mapM (fun pair =>
        recordPasses verifier pair.1 pair.2) = .ok passes ∧
      passes.length = answers.length ∧
      (passes.count true = answers.length ↔
        List.Forall₂ RecordDeserves records answers) by
    obtain ⟨passes, collects, length, counts⟩ := collected
    refine ⟨passes.count true, ?_, length ▸ List.count_le_length, counts⟩
    rw [countPassed, collects]
    rfl
  induction records generalizing answers with
  | nil =>
      obtain rfl := List.length_eq_zero_iff.mp sameLength.symm
      exact ⟨[], rfl, rfl, fun _ => .nil, fun _ => rfl⟩
  | cons record records inductionHypothesis =>
      cases answers with
      | nil => cases sameLength
      | cons answer answers =>
          rw [List.forall_mem_cons] at kinds keeps
          obtain ⟨passes, recordOk, deserves⟩ :=
            recordPasses_eq_ok kinds.1 keeps.1
          obtain ⟨others, restOk, length, counts⟩ := inductionHypothesis
            kinds.2 (Nat.succ.inj sameLength) keeps.2
          refine ⟨passes :: others, ?_, congrArg Nat.succ length, ?_⟩
          · rw [List.zip_cons_cons, List.mapM_cons, recordOk, checked_ok_bind,
              restOk, checked_ok_bind]
            rfl
          · have below : others.count true ≤ others.length :=
              List.count_le_length
            rw [List.forall₂_cons, ← deserves, ← counts, List.length_cons]
            cases passes with
            | true =>
                rw [List.count_cons_self]
                simp only [true_and]
                omega
            | false =>
                rw [List.count_cons_of_ne (by decide)]
                simp only [Bool.false_eq_true, false_and, iff_false]
                omega

theorem countPassed_eq_error
    {records answers : List Decoded}
    (sameLength : records.length = answers.length)
    {record : Decoded} (member : record ∈ records)
    (aborts : RecordAborts verifier record) :
    ∃ error, countPassed verifier records answers = .error error := by
  cases counted : countPassed verifier records answers with
  | error error => exact ⟨error, rfl⟩
  | ok passed =>
      obtain ⟨passes, collects, -⟩ := checked_bind_eq_ok.mp counted
      have zipped : ∃ answer, (record, answer) ∈ records.zip answers := by
        obtain ⟨index, inRange, rfl⟩ := List.getElem_of_mem member
        refine ⟨answers[index], List.mem_iff_getElem.mpr ⟨index, ?_, ?_⟩⟩
        · rw [List.length_zip]
          omega
        · rw [List.getElem_zip]
      obtain ⟨answer, inZip⟩ := zipped
      obtain ⟨passes, -, recordOk⟩ := exists_result_of_mapM collects inZip
      obtain ⟨error, raises⟩ := recordPasses_eq_error answer aborts
      exact nomatch recordOk.symm.trans raises

end Records

/-! ## Records of metrics -/

namespace MetricRecord

theorem metric_cons (entry : String × Rat) (record : MetricRecord)
    (name : String) :
    metric (entry :: record) name =
      if name = entry.1 then entry.2 else metric record name := by
  unfold metric
  rw [List.lookup_cons]
  by_cases same : name = entry.1
  · rw [if_pos same, same, beq_self_eq_true]
    rfl
  · rw [if_neg same, beq_false_of_ne same]

/-- Only the metric that is set changes. -/
theorem metric_set (record : MetricRecord) (name other : String)
    (value : Rat) :
    (record.set name value).metric other =
      if other = name then value else record.metric other := by
  induction record with
  | nil => rw [MetricRecord.set, metric_cons]
  | cons entry rest inductionHypothesis =>
      unfold MetricRecord.set
      split
      · rename_i here
        rw [metric_cons, metric_cons, here]
        by_cases same : other = name
        · rw [if_pos same, if_pos same]
        · rw [if_neg same, if_neg same, if_neg same]
      · rename_i elsewhere
        rw [metric_cons, metric_cons, inductionHypothesis]
        by_cases same : other = entry.1
        · rw [if_pos same, if_pos same, if_neg fun equal =>
            elsewhere (same.symm.trans equal)]
        · rw [if_neg same, if_neg same]

theorem names_set {record : MetricRecord} {name : String}
    (listed : name ∈ record.map Prod.fst) (value : Rat) :
    (record.set name value).map Prod.fst = record.map Prod.fst := by
  induction record with
  | nil => cases listed
  | cons entry rest inductionHypothesis =>
      unfold MetricRecord.set
      split
      · rename_i here
        rw [List.map_cons, List.map_cons, here]
      · rename_i elsewhere
        have inRest := (List.mem_cons.mp listed).resolve_left
          (Ne.symm elsewhere)
        rw [List.map_cons, List.map_cons, inductionHypothesis inRest]

/-- An update of listed metrics adds no other. -/
theorem names_update {record updates : MetricRecord}
    (listed : ∀ entry ∈ updates, entry.1 ∈ record.map Prod.fst) :
    (record.update updates).map Prod.fst = record.map Prod.fst := by
  induction updates generalizing record with
  | nil => rfl
  | cons entry rest inductionHypothesis =>
      rw [List.forall_mem_cons] at listed
      have same := names_set listed.1 entry.2
      have restListed : ∀ other ∈ rest,
          other.1 ∈ (record.set entry.1 entry.2).map Prod.fst := by
        rw [same]
        exact listed.2
      exact (inductionHypothesis restListed).trans same

theorem metric_update_of_notMem
    {record updates : MetricRecord} {name : String}
    (unset : name ∉ updates.map Prod.fst) :
    (record.update updates).metric name = record.metric name := by
  induction updates generalizing record with
  | nil => rfl
  | cons entry rest inductionHypothesis =>
      rw [List.map_cons, List.mem_cons, not_or] at unset
      calc
        (record.update (entry :: rest)).metric name =
            ((record.set entry.1 entry.2).update rest).metric name := rfl
        _ = (record.set entry.1 entry.2).metric name :=
            inductionHypothesis unset.2
        _ = record.metric name := by
            rw [metric_set, if_neg unset.1]

end MetricRecord

/-- The fields that `_score_source` requires. -/
def metricNames : List String :=
  ((emptyMetrics 0).map Prod.fst).erase "source_bytes"

/-- What a record must say of a source that passes or does not. -/
structure Deserves (record : MetricRecord) (passes : Prop) : Prop where
  names : record.map Prod.fst = metricNames
  nonnegative : 0 ≤ record.metric "tests_passed"
  bounded : record.metric "tests_passed" ≤ record.metric "tests_total"
  rate : record.metric "pass_rate" =
    record.metric "tests_passed" / record.metric "tests_total"
  stopped : record.metric "timed_out" ≠ 0 ∨
    record.metric "runtime_error" ≠ 0 -> record.metric "tests_passed" = 0
  binary : record.metric "all_tests_passed" = 0 ∨
    record.metric "all_tests_passed" = 1
  allPassed : record.metric "all_tests_passed" = 1 ↔ passes

theorem Deserves.congr
    {record : MetricRecord} {passes others : Prop}
    (deserves : Deserves record passes) (same : passes ↔ others) :
    Deserves record others :=
  ⟨deserves.names, deserves.nonnegative, deserves.bounded, deserves.rate,
    deserves.stopped, deserves.binary, deserves.allPassed.trans same⟩

theorem names_metrics {updates : MetricRecord}
    (listed : ∀ entry ∈ updates, entry.1 ∈ metricNames) :
    (metrics updates).map Prod.fst = metricNames :=
  MetricRecord.names_update listed

/-- A record without tests that passed. -/
theorem deserves_of_unscored
    {updates : MetricRecord} {names : List String} {passes : Prop}
    (isNames : updates.map Prod.fst = names)
    (unscored : ∀ name ∈ names, name ∈ metricNames ∧
      name ∉ ["tests_passed", "pass_rate", "all_tests_passed"])
    (total : 0 ≤ (metrics updates).metric "tests_total")
    (fails : ¬passes) : Deserves (metrics updates) passes := by
  have listed : ∀ entry ∈ updates, entry.1 ∈ metricNames := by
    intro entry member
    exact (unscored _ (isNames ▸ List.mem_map_of_mem member)).1
  have unset : ∀ name ∈ ["tests_passed", "pass_rate", "all_tests_passed"],
      name ∉ updates.map Prod.fst := by
    intro name isScore member
    exact (unscored name (isNames ▸ member)).2 isScore
  have zero (name : String)
      (isUnset : name ∈ ["tests_passed", "pass_rate", "all_tests_passed"]) :
      (metrics updates).metric name = (metrics []).metric name :=
    MetricRecord.metric_update_of_notMem (unset name isUnset)
  have passed : (metrics updates).metric "tests_passed" = 0 :=
    zero _ (by decide)
  have rate : (metrics updates).metric "pass_rate" = 0 := zero _ (by decide)
  have all : (metrics updates).metric "all_tests_passed" = 0 :=
    zero _ (by decide)
  constructor
  case names => exact names_metrics listed
  case nonnegative => exact passed.ge
  case bounded => exact passed.le.trans total
  case rate => rw [rate, passed, zero_div]
  case stopped => exact fun _ => passed
  case binary => exact .inl all
  case allPassed =>
    rw [all]
    exact iff_of_false zero_ne_one fails

/-! ## Outcomes of the child -/

/-- The text after the last marker of a child that ended with 0 in time. -/
def reportOf (child : ChildOutcome) : Option (List Char) :=
  if child.timedOut = false ∧ child.returnCode = 0 then
    (markerLines child.stdout).getLast?
  else none

/-- The last marker line is JSON, or makes the decoder raise something else
than a `JSONDecodeError`, and is not a dictionary; or it is one with a record
for each case, of which one claims its case with a value that cannot be
encoded. -/
def Aborts (verifier : Verifier) (child : ChildOutcome) (total : Nat) :
    Prop :=
  ∃ line, reportOf child = some line ∧
    ((∃ error, verifier.loads line = .raised error) ∨
      (∃ value, verifier.loads line = .value value ∧
        ∀ payload, value ≠ .object payload) ∨
      ∃ payload records, verifier.loads line = .value (.object payload) ∧
        Decoded.get payload "records" = .array records ∧
        records.length = total ∧
        ∃ record ∈ records, RecordAborts verifier record)

/-- The last marker line is a dictionary that has the entrypoint present and
deserves every case. -/
def Passes (verifier : Verifier) (child : ChildOutcome)
    (answers : List Decoded) : Prop :=
  ∃ line payload records, reportOf child = some line ∧
    verifier.loads line = .value (.object payload) ∧
    (Decoded.get payload "entrypoint_present").isTrue = true ∧
    Decoded.get payload "records" = .array records ∧
    List.Forall₂ RecordDeserves records answers

section Outcomes

variable {verifier : Verifier} {answers : List Decoded}

/-- The entrypoint is missing. -/
theorem deserves_of_absent
    {passes : Prop} (total : Nat) (fails : ¬passes) :
    Deserves (metrics [("syntax_valid", 1), ("tests_total", total)])
      passes := by
  refine deserves_of_unscored
    (show _ = ["syntax_valid", "tests_total"] from rfl) (by decide) ?_ fails
  simp [metrics, MetricRecord.update, MetricRecord.metric_set]

/-- There is no record for each case. -/
theorem deserves_of_failed
    {passes : Prop} (present : Rat) (total : Nat) (fails : ¬passes) :
    Deserves (metrics [("syntax_valid", 1), ("entrypoint_present", present),
      ("tests_total", total), ("runtime_error", 1)]) passes := by
  refine deserves_of_unscored (show _ = ["syntax_valid", "entrypoint_present",
    "tests_total", "runtime_error"] from rfl) (by decide) ?_ fails
  simp [metrics, MetricRecord.update, MetricRecord.metric_set]

/-- The child did not end as it should. -/
theorem deserves_of_stopped
    {passes : Prop} (name : String)
    (isFailure : name = "timed_out" ∨ name = "runtime_error")
    (total : Nat) (fails : ¬passes) :
    Deserves (metrics [("syntax_valid", 1), ("tests_total", total),
      (name, 1)]) passes := by
  rcases isFailure with rfl | rfl
  · refine deserves_of_unscored (show _ = ["syntax_valid", "tests_total",
      "timed_out"] from rfl) (by decide) ?_ fails
    simp [metrics, MetricRecord.update, MetricRecord.metric_set]
  · refine deserves_of_unscored (show _ = ["syntax_valid", "tests_total",
      "runtime_error"] from rfl) (by decide) ?_ fails
    simp [metrics, MetricRecord.update, MetricRecord.metric_set]

/-- A record of all cases. -/
theorem deserves_of_scored
    {present : Bool} {passed total : Nat} {passes : Prop}
    (some : total ≠ 0) (bounded : passed ≤ total)
    (all : present = true ∧ passed = total ↔ passes) :
    Deserves (metrics [("syntax_valid", 1),
      ("entrypoint_present", if present then 1 else 0),
      ("tests_passed", passed), ("tests_total", total),
      ("pass_rate", if (total : Rat) = 0 then 0 else passed / total),
      ("all_tests_passed",
        if present = true ∧ (passed : Rat) = total then 1 else 0)])
      passes := by
  have nonzero : (total : Rat) ≠ 0 := Nat.cast_ne_zero.mpr some
  constructor
  case names => exact names_metrics (by simp [metricNames, emptyMetrics])
  all_goals
    simp only [metrics, MetricRecord.update, List.foldl_cons, List.foldl_nil,
      MetricRecord.metric_set, String.reduceEq, if_true, if_false,
      if_neg nonzero]
  case nonnegative => exact Nat.cast_nonneg _
  case bounded => exact Nat.cast_le.mpr bounded
  case stopped => simp [MetricRecord.metric_cons]
  case binary =>
    split
    · exact .inr rfl
    · exact .inl rfl
  case allPassed =>
    rw [← all, ← Nat.cast_inj (R := Rat)]
    split
    · rename_i holds
      exact iff_of_true rfl holds
    · rename_i fails
      exact iff_of_false zero_ne_one fails

/-- A dictionary that does not make the comparison raise is scored as it
deserves. -/
theorem scorePayload_deserves
    {payload : List (List Nat × Decoded)}
    (kinds : ∀ answer ∈ answers, isAnswer answer = true)
    (some : answers ≠ [])
    (keeps : ∀ records, Decoded.get payload "records" = .array records ->
      records.length = answers.length ->
        ∀ record ∈ records, ¬RecordAborts verifier record) :
    ∃ record, scorePayload verifier payload answers = .ok record ∧
      Deserves record
        ((Decoded.get payload "entrypoint_present").isTrue = true ∧
          ∃ records, Decoded.get payload "records" = .array records ∧
            List.Forall₂ RecordDeserves records answers) := by
  have total : answers.length ≠ 0 := mt List.length_eq_zero_iff.mp some
  cases isArray : (Decoded.get payload "records").items? with
  | none =>
      unfold scorePayload
      simp only [isArray]
      refine ⟨_, rfl, deserves_of_failed _ _ ?_⟩
      rintro ⟨-, records, isRecords, -⟩
      rw [items?_eq_some_iff.mpr isRecords] at isArray
      cases isArray
  | some records =>
      have found := items?_eq_some_iff.mp isArray
      unfold scorePayload
      simp only [isArray]
      split
      · rename_i absent
        refine ⟨_, rfl, deserves_of_absent _ ?_⟩
        rw [absent.1]
        exact fun holds => nomatch holds.1
      · split
        · rename_i otherLength
          refine ⟨_, rfl, deserves_of_failed _ _ ?_⟩
          rintro ⟨-, others, isOthers, deserves⟩
          obtain rfl := Decoded.array.inj (found.symm.trans isOthers)
          exact otherLength deserves.length_eq
        · rename_i sameLength
          rw [ne_eq, not_not] at sameLength
          obtain ⟨passed, counts, bounded, all⟩ :=
            countPassed_eq_ok kinds sameLength (keeps records found sameLength)
          rw [counts]
          refine ⟨_, rfl, deserves_of_scored total bounded ?_⟩
          rw [all]
          refine and_congr_right fun _ => ?_
          constructor
          · exact fun deserves => ⟨records, found, deserves⟩
          · rintro ⟨others, isOthers, deserves⟩
            obtain rfl := Decoded.array.inj (found.symm.trans isOthers)
            exact deserves

theorem scorePayload_eq_error
    {payload : List (List Nat × Decoded)} {records : List Decoded}
    (isRecords : Decoded.get payload "records" = .array records)
    (sameLength : records.length = answers.length)
    {record : Decoded} (member : record ∈ records)
    (aborts : RecordAborts verifier record) :
    ∃ error, scorePayload verifier payload answers = .error error := by
  obtain ⟨error, raises⟩ := countPassed_eq_error sameLength member aborts
  have notEmpty : records.isEmpty = false := by
    cases records with
    | nil => cases member
    | cons first rest => rfl
  unfold scorePayload
  simp only [isRecords, Decoded.items?, notEmpty, Bool.false_eq_true,
    and_false, if_false, sameLength, ne_eq, not_true_eq_false, raises]
  exact ⟨error, rfl⟩

theorem not_passes_of_not_reported
    {child : ChildOutcome} (silent : reportOf child = none) :
    ¬Passes verifier child answers := by
  rintro ⟨line, payload, records, reported, -⟩
  rw [silent] at reported
  cases reported

/-- What a child leaves is scored as it deserves, unless it aborts. -/
theorem scoreChild_deserves
    {child : ChildOutcome}
    (kinds : ∀ answer ∈ answers, isAnswer answer = true)
    (some : answers ≠ [])
    (keeps : ¬Aborts verifier child answers.length) :
    ∃ record, scoreChild verifier child answers = .ok record ∧
      Deserves record (Passes verifier child answers) := by
  unfold scoreChild
  by_cases timedOut : child.timedOut = true
  case pos =>
    have silent : reportOf child = none := by
      simp [reportOf, timedOut]
    simp only [timedOut, if_true]
    exact ⟨_, rfl, deserves_of_stopped "timed_out" (.inl rfl) _
      (not_passes_of_not_reported silent)⟩
  rw [Bool.not_eq_true] at timedOut
  simp only [timedOut, Bool.false_eq_true, if_false]
  cases last : (markerLines child.stdout).getLast? with
  | none =>
      have silent : reportOf child = none := by
        simp [reportOf, last]
      exact ⟨_, rfl, deserves_of_stopped "runtime_error" (.inr rfl) _
        (not_passes_of_not_reported silent)⟩
  | some line =>
      by_cases crashed : child.returnCode = 0
      case neg =>
        have silent : reportOf child = none := by
          simp [reportOf, crashed]
        simp only [ne_eq, crashed, not_false_eq_true, if_true]
        exact ⟨_, rfl, deserves_of_stopped "runtime_error" (.inr rfl) _
          (not_passes_of_not_reported silent)⟩
      have reported : reportOf child = .some line := by
        rw [reportOf, if_pos ⟨timedOut, crashed⟩, last]
      simp only [crashed, ne_eq, not_true_eq_false, if_false]
      cases loaded : verifier.loads line with
      | raised error =>
          exact absurd ⟨line, reported, .inl ⟨error, loaded⟩⟩ keeps
      | jsonDecodeError =>
          refine ⟨_, rfl, deserves_of_stopped "runtime_error" (.inr rfl) _ ?_⟩
          rintro ⟨other, payload, records, isOther, isPayload, -⟩
          obtain rfl := Option.some.inj (reported.symm.trans isOther)
          exact nomatch loaded.symm.trans isPayload
      | value decoded =>
          dsimp only
          cases isObject : decoded.fields? with
          | none =>
              refine absurd ⟨line, reported, .inr (.inl ⟨decoded, loaded,
                fun payload same => ?_⟩)⟩ keeps
              rw [fields?_eq_some_iff.mpr same] at isObject
              cases isObject
          | some payload =>
              obtain rfl := fields?_eq_some_iff.mp isObject
              obtain ⟨record, scored, deserves⟩ :=
                scorePayload_deserves kinds some
                  fun records isRecords sameLength record member aborts =>
                    keeps ⟨line, reported, .inr (.inr ⟨payload, records,
                      loaded, isRecords, sameLength, record, member,
                      aborts⟩)⟩
              refine ⟨record, scored, deserves.congr ?_⟩
              constructor
              · rintro ⟨present, records, isRecords, all⟩
                exact ⟨line, payload, records, reported, loaded, present,
                  isRecords, all⟩
              · rintro ⟨other, others, records, isOther, isPayload, present,
                  isRecords, all⟩
                obtain rfl := Option.some.inj (reported.symm.trans isOther)
                rw [loaded] at isPayload
                obtain rfl :=
                  Decoded.object.inj (Loaded.value.inj isPayload)
                exact ⟨present, records, isRecords, all⟩

theorem scoreChild_eq_error
    {child : ChildOutcome}
    (aborts : Aborts verifier child answers.length) :
    ∃ error, scoreChild verifier child answers = .error error := by
  obtain ⟨line, reported, cause⟩ := aborts
  unfold reportOf at reported
  split at reported
  · rename_i ended
    unfold scoreChild
    simp only [ended.1, ended.2, reported, Bool.false_eq_true, if_false,
      ne_eq, not_true_eq_false]
    rcases cause with ⟨error, raised⟩ | ⟨value, loaded, notObject⟩ |
      ⟨payload, records, loaded, isRecords, sameLength, record, member,
        recordAborts⟩
    · rw [raised]
      exact ⟨error, rfl⟩
    · rw [loaded]
      dsimp only
      cases isObject : value.fields? with
      | none => exact ⟨_, rfl⟩
      | some payload =>
          exact absurd (fields?_eq_some_iff.mp isObject) (notObject payload)
    · rw [loaded]
      exact scorePayload_eq_error isRecords sameLength member recordAborts
  · cases reported

end Outcomes

/-! ## Rollouts -/

section Rollouts

variable (verifier : Verifier)

/-- The record of a source comes back as its metrics. -/
theorem scoreSource_eq_ok
    {taskId source : String} {record : MetricRecord}
    (small : source.utf8ByteSize ≤ maxSourceBytes)
    (nonempty : source.utf8ByteSize ≠ 0)
    (evaluated : evaluate verifier taskId (verifier.encodeSource source) =
      .ok record)
    (names : record.map Prod.fst = metricNames) :
    ∃ scored, scoreSource verifier taskId source = .ok scored ∧
      correct scored = record.metric "all_tests_passed" := by
  have expected : ((emptyMetrics source.utf8ByteSize).map Prod.fst).erase
      "source_bytes" = metricNames := rfl
  refine ⟨(emptyMetrics source.utf8ByteSize).update (metricNames.map fun name =>
    (name, record.metric name)), ?_, ?_⟩
  · unfold scoreSource
    rw [if_neg (by omega), evaluated]
    dsimp only
    rw [expected, require_bind (names ▸ List.Perm.refl _)]
    rfl
  · have listed : metricNames = ["syntax_valid", "entrypoint_present",
        "tests_passed", "tests_total", "pass_rate", "timed_out",
        "runtime_error", "all_tests_passed"] := by decide
    rw [correct, listed]
    simp only [List.map_cons, List.map_nil, MetricRecord.update,
      List.foldl_cons, List.foldl_nil, MetricRecord.metric_set]
    simp

end Rollouts

/-! ## Candidates that print a marker line -/

/-- A child that ends with 0 after it printed a marker line of its own, and
what the decoder makes of it. -/
def forgingVerifier (line : String) (loaded : Loaded) : Verifier where
  encodeSource := id
  decodeSource := .some
  compile := fun _ => .compiled
  child := fun _ _ =>
    { timedOut := false
      returnCode := 0
      stdout := (resultMarker ++ line.toList ++ ['\n']).map fun character =>
        BitVec.ofNat 8 character.toNat }
  loads := fun text =>
    if text = line.toList then loaded else .jsonDecodeError
  encoderDepth := 900
  decode_encode := fun _ => rfl
  one_le_encoderDepth := by decide

/-- A source whose child prints a marker line with an empty list. -/
def forgingSource : String :=
  "import os\nos.write(1, b'__VF_CODING_SMOKE_RESULT__=[]\\n')\nos._exit(0)\n"

end CodingSmoke
end CodingLlm
