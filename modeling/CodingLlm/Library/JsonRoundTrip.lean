import CodingLlm.Library.JsonReader

/-!
# The round trip of JSON texts

What the writer writes of a tree without floats is read back as the same tree.
-/

namespace CodingLlm
namespace JsonTree

/-! ## Strings are read back -/

theorem hexValue?_digitChar {digit : Nat} (small : digit < 16) :
    hexValue? digit.digitChar = some digit := by
  have all : ∀ digit < 16, hexValue? (Nat.digitChar digit) = some digit := by
    decide
  exact all digit small

theorem readUnit_unitEscape
    {unit : Nat} {rest : List Char}
    (small : unit < 0x10000) :
    readUnit ((unitEscape unit).drop 2 ++ rest) = some (unit, rest) := by
  have digit (value : Nat) :
      hexValue? (value % 16).digitChar = some (value % 16) :=
    hexValue?_digitChar (Nat.mod_lt _ (by decide))
  simp only [unitEscape, List.drop_succ_cons, List.drop_zero, List.cons_append,
    List.nil_append, readUnit, digit, Option.bind_eq_bind, Option.bind_some,
    Option.pure_def, Option.some.injEq, Prod.mk.injEq, and_true]
  omega

theorem charOf?_toNat (character : Char) :
    charOf? character.toNat = some character := by
  have valid : character.toNat.isValidChar := character.valid
  rw [charOf?, if_pos valid, Char.ofNat_toNat]

theorem readEscape_unitEscape
    {unit : Nat} {character : Char}
    (rest : List Char)
    (small : unit < 0x10000)
    (single : ¬ (0xD800 ≤ unit ∧ unit < 0xDC00))
    (known : charOf? unit = some character) :
    readEscape ((unitEscape unit).drop 1 ++ rest) = some (character, rest) := by
  have units : (unitEscape unit).drop 1 ++ rest =
      'u' :: ((unitEscape unit).drop 2 ++ rest) := rfl
  rw [units, readEscape, readUnit_unitEscape small]
  simp only [Option.bind_eq_bind, Option.bind_some, if_neg single, known,
    Option.pure_def]

theorem readEscape_pair
    {high low : Nat} {character : Char}
    (rest : List Char)
    (isHigh : 0xD800 ≤ high ∧ high < 0xDC00)
    (isLow : 0xDC00 ≤ low ∧ low < 0xE000)
    (known : charOf? (0x10000 + (high - 0xD800) * 0x400 + (low - 0xDC00)) =
      some character) :
    readEscape ((unitEscape high).drop 1 ++ (unitEscape low ++ rest)) =
      some (character, rest) := by
  have units : (unitEscape high).drop 1 ++ (unitEscape low ++ rest) =
      'u' :: ((unitEscape high).drop 2 ++
        '\x5c' :: 'u' :: ((unitEscape low).drop 2 ++ rest)) := rfl
  rw [units, readEscape, readUnit_unitEscape (by omega)]
  simp only [Option.bind_eq_bind, Option.bind_some, if_pos isHigh,
    readUnit_unitEscape (show low < 0x10000 by omega), if_pos isLow, known,
    Option.pure_def]

/-- An escaped character is read back. -/
theorem readEscape_longEscape (character : Char) (rest : List Char) :
    readEscape ((longEscape character.toNat).drop 1 ++ rest) =
      some (character, rest) := by
  have bounds : character.toNat < 0xD800 ∨
      (0xDFFF < character.toNat ∧ character.toNat < 0x110000) :=
    character.valid
  have known := charOf?_toNat character
  generalize character.toNat = code at bounds known ⊢
  rw [longEscape]
  split
  · next small =>
      exact readEscape_unitEscape rest small (by omega) known
  · next large =>
      obtain ⟨high, isHigh⟩ : ∃ high, high = 0xD800 + (code - 0x10000) / 0x400 :=
        ⟨_, rfl⟩
      obtain ⟨low, isLow⟩ : ∃ low, low = 0xDC00 + (code - 0x10000) % 0x400 :=
        ⟨_, rfl⟩
      rw [← isHigh, ← isLow]
      have whole : 0x10000 + (high - 0xD800) * 0x400 + (low - 0xDC00) =
          code := by
        omega
      exact readEscape_pair rest (by omega) (by omega) (by rw [whole, known])

/-- A written character is read back in one step. -/
theorem readString_writeChar
    (ensureAscii : Bool)
    (fuel : Nat)
    (character : Char)
    (text : List Char) :
    readString (fuel + 1) (writeChar ensureAscii character ++ text) =
      (readString fuel text).map fun read => (character :: read.1, read.2) := by
  have escaped
      {escape : List Char}
      (reads : readEscape (escape ++ text) = some (character, text)) :
      readString (fuel + 1) ('\x5c' :: (escape ++ text)) =
        (readString fuel text).map
          fun read => (character :: read.1, read.2) := by
    rw [readString, reads]
    simp only [Option.bind_eq_bind, Option.bind_some]
    cases readString fuel text <;> rfl
  unfold writeChar
  split
  · next letter short =>
      refine @escaped [letter] ?_
      unfold shortEscape? at short
      split at short <;> cases short <;> rfl
  · next notShort =>
      split
      · have long : longEscape character.toNat ++ text =
            '\x5c' :: ((longEscape character.toNat).drop 1 ++ text) := by
          unfold longEscape
          split <;> rfl
        rw [long]
        exact escaped (readEscape_longEscape character text)
      · next kept =>
          have notQuote : character ≠ '\x22' := by
            rintro rfl
            cases notShort
          have notBackslash : character ≠ '\x5c' := by
            rintro rfl
            cases notShort
          have notControl : ¬ character.toNat < 0x20 := fun control =>
            kept (Or.inl control)
          rw [List.singleton_append, readString, if_neg notControl]
          · cases readString fuel text <;> rfl
          · exact notQuote
          · exact notBackslash

theorem length_writeChar_pos (ensureAscii : Bool) (character : Char) :
    0 < (writeChar ensureAscii character).length := by
  unfold writeChar longEscape unitEscape
  repeat' split
  all_goals simp

/-- A written string is read back. -/
theorem readString_flatMap
    (ensureAscii : Bool)
    (characters rest : List Char)
    {fuel : Nat}
    (enough : characters.length < fuel) :
    readString fuel
      (characters.flatMap (writeChar ensureAscii) ++ '\x22' :: rest) =
        some (characters, rest) := by
  induction characters generalizing fuel with
  | nil =>
      cases fuel with
      | zero => cases enough
      | succ fuel => rfl
  | cons character characters inductionHypothesis =>
      cases fuel with
      | zero => cases enough
      | succ fuel =>
          rw [List.flatMap_cons, List.append_assoc, readString_writeChar,
            inductionHypothesis (Nat.lt_of_succ_lt_succ enough)]
          rfl

/-- The rest of a written string, with the fuel of its text. -/
theorem readString_tail
    (ensureAscii : Bool)
    (text : String)
    (rest : List Char) :
    readString ((writeString ensureAscii text).tail ++ rest).length.succ
      ((writeString ensureAscii text).tail ++ rest) =
        some (text.toList, rest) := by
  have long : text.toList.length ≤
      (text.toList.flatMap (writeChar ensureAscii)).length := by
    rw [List.length_flatMap, ← List.length_map
      (f := fun character => (writeChar ensureAscii character).length)]
    refine List.length_le_sum_of_one_le _ fun length listed => ?_
    obtain ⟨character, -, rfl⟩ := List.mem_map.mp listed
    exact length_writeChar_pos ensureAscii character
  have tail : (writeString ensureAscii text).tail ++ rest =
      text.toList.flatMap (writeChar ensureAscii) ++ '\x22' :: rest := by
    simp [writeString]
  rw [tail]
  refine readString_flatMap ensureAscii _ rest ?_
  rw [List.length_append]
  omega

/-! ## Integers are read back -/

/-- What may follow a value. -/
def Ends (rest : List Char) : Prop :=
  ∀ character ∈ rest.head?,
    character = ',' ∨ character = ']' ∨ character = '\x7d' ∨
      character = '\n'

theorem Ends.not_isDigit
    {rest : List Char} {character : Char}
    (ends : Ends rest)
    (first : character ∈ rest.head?) : character.isDigit = false := by
  rcases ends character first with rfl | rfl | rfl | rfl <;> rfl

theorem Ends.readFraction {rest : List Char} (ends : Ends rest) :
    readFraction rest = (none, rest) := by
  cases rest with
  | nil => rfl
  | cons character rest =>
      rcases ends character rfl with rfl | rfl | rfl | rfl <;> rfl

theorem Ends.readExponent {rest : List Char} (ends : Ends rest) :
    readExponent rest = (none, rest) := by
  cases rest with
  | nil => rfl
  | cons character rest =>
      rcases ends character rfl with rfl | rfl | rfl | rfl <;> rfl

theorem toDigits_eq_cons {value : Nat} (positive : 0 < value) :
    ∃ digit tail, 0 < digit ∧ digit < 10 ∧
      Nat.toDigits 10 value = Nat.digitChar digit :: tail := by
  induction value using Nat.strong_induction_on with
  | _ value inductionHypothesis =>
      rw [Nat.toDigits_eq_if (by decide)]
      split
      · next small => exact ⟨value, [], positive, small, rfl⟩
      · next large =>
          obtain ⟨digit, tail, above, below, equal⟩ :=
            inductionHypothesis (value / 10) (by omega) (by omega)
          exact ⟨digit, _, above, below, by rw [equal, List.cons_append]⟩

theorem exists_toDigits (value : Nat) :
    ∃ digit tail, digit < 10 ∧
      Nat.toDigits 10 value = Nat.digitChar digit :: tail := by
  rcases Nat.eq_zero_or_pos value with rfl | positive
  · exact ⟨0, [], by decide, rfl⟩
  · obtain ⟨digit, tail, -, below, equal⟩ := toDigits_eq_cons positive
    exact ⟨digit, tail, below, equal⟩

theorem isDigit_digitChar {digit : Nat} (small : digit < 10) :
    digit.digitChar.isDigit = true := by
  rw [Nat.isDigit_digitChar]
  exact decide_eq_true small

theorem takeWhile_digits
    {digits rest : List Char}
    (all : ∀ character ∈ digits, character.isDigit = true)
    (ends : Ends rest) :
    (digits ++ rest).takeWhile Char.isDigit = digits ∧
      (digits ++ rest).dropWhile Char.isDigit = rest := by
  have stop : rest.takeWhile Char.isDigit = [] ∧
      rest.dropWhile Char.isDigit = rest := by
    cases rest with
    | nil => exact ⟨rfl, rfl⟩
    | cons character rest =>
        have other : character.isDigit = false := ends.not_isDigit rfl
        simp [other]
  rw [List.takeWhile_append_of_pos all, List.dropWhile_append_of_pos all,
    stop.1, stop.2, List.append_nil]
  exact ⟨rfl, rfl⟩

theorem readWhole_toDigits
    (value : Nat)
    {rest : List Char}
    (ends : Ends rest) :
    readWhole (Nat.toDigits 10 value ++ rest) =
      some (Nat.toDigits 10 value, rest) := by
  rcases Nat.eq_zero_or_pos value with rfl | positive
  · rfl
  · have digits : ∀ character ∈ Nat.toDigits 10 value,
        character.isDigit = true := fun character member =>
      Nat.isDigit_of_mem_toDigits (by decide) (by decide) member
    obtain ⟨taken, dropped⟩ := takeWhile_digits digits ends
    obtain ⟨digit, tail, above, below, equal⟩ := toDigits_eq_cons positive
    rw [equal] at taken dropped ⊢
    rw [List.cons_append] at taken dropped ⊢
    unfold readWhole
    split
    · next first =>
        have nonzero : ∀ digit < 10, 0 < digit ->
            Nat.digitChar digit ≠ '0' := by
          decide
        exact absurd (List.cons.inj first).1 (nonzero digit below above)
    · rw [taken, dropped]

theorem readSign_toDigits (value : Nat) (rest : List Char) :
    readSign (Nat.toDigits 10 value ++ rest) =
      (false, Nat.toDigits 10 value ++ rest) := by
  obtain ⟨digit, tail, below, equal⟩ := exists_toDigits value
  rw [equal, List.cons_append]
  unfold readSign
  split
  · next first =>
      have digits := isDigit_digitChar below
      rw [(List.cons.inj first).1] at digits
      cases digits
  · rfl

theorem readNumber_writeInt
    (floats : FloatText)
    (value : Int)
    {rest : List Char}
    (ends : Ends rest) :
    readNumber floats (writeInt value ++ rest) = some (.int value, rest) := by
  cases value with
  | ofNat value =>
      simp only [writeInt, readNumber, readSign_toDigits,
        readWhole_toDigits _ ends, Option.bind_eq_bind, Option.bind_some,
        ends.readFraction, ends.readExponent]
      simp [signed]
  | negSucc value =>
      rw [writeInt, List.cons_append]
      simp only [readNumber, readSign, readWhole_toDigits _ ends,
        Option.bind_eq_bind, Option.bind_some, ends.readFraction, ends.readExponent]
      simp [signed, Int.negSucc_eq]

/-! ## Trees are read back -/

/-- A tree without floats. -/
inductive IsExact : JsonTree -> Prop
  | scalar
      (value : JsonScalar)
      (exact : ∀ number, value ≠ .float number) : IsExact (.scalar value)
  | array
      (items : List JsonTree)
      (exact : ∀ item ∈ items, IsExact item) : IsExact (.array items)
  | object
      (fields : List (String × JsonTree))
      (exact : ∀ field ∈ fields, IsExact field.2) : IsExact (.object fields)

theorem isExact_object_iff {fields : List (String × JsonTree)} :
    (object fields).IsExact ↔ ∀ field ∈ fields, field.2.IsExact := by
  constructor
  · intro exact
    cases exact with
    | object _ exact => exact exact
  · exact .object _

theorem isExact_array_iff {items : List JsonTree} :
    (array items).IsExact ↔ ∀ item ∈ items, item.IsExact := by
  constructor
  · intro exact
    cases exact with
    | array _ exact => exact exact
  · exact .array _

theorem isExact_str (text : String) : (str text).IsExact :=
  .scalar _ fun _ => nofun

theorem isExact_int (value : Int) : (int value).IsExact :=
  .scalar _ fun _ => nofun

theorem isExact_bool (value : Bool) : (JsonTree.bool value).IsExact :=
  .scalar _ fun _ => nofun

section RoundTrip

variable (floats : FloatText) (ensureAscii : Bool)

/-- The first character of a value. -/
def Begins (text : List Char) : Prop :=
  ∃ character tail, text = character :: tail ∧
    isBlank character = false ∧ character ≠ ']' ∧ character ≠ '\x7d'

/-- A text is read as a tree that is the same as a given one, wherever a value
may end. -/
def ReadsAs (text : List Char) (tree : JsonTree) : Prop :=
  Begins text ∧ ∀ fuel rest, text.length ≤ fuel -> Ends rest ->
    ∃ read, readValue floats fuel (text ++ rest) = some (read, rest) ∧
      read.Same tree

theorem skip_of_begins
    {text : List Char}
    (begins : Begins text)
    (rest : List Char) :
    skip (text ++ rest) = text ++ rest := by
  obtain ⟨character, tail, rfl, notBlank, -, -⟩ := begins
  simp [skip, notBlank]

theorem ne_of_number
    {character letter : Char}
    (number : character.isDigit = true ∨ character = '-')
    (noDigit : letter.isDigit = false)
    (noSign : letter ≠ '-') : character ≠ letter := by
  rintro rfl
  rcases number with digit | sign
  · exact Bool.false_ne_true (noDigit.symm.trans digit)
  · exact noSign sign

theorem readValue_number
    {character : Char}
    (fuel : Nat)
    (tail : List Char)
    (number : character.isDigit = true ∨ character = '-') :
    readValue floats (fuel + 1) (character :: tail) =
      (readNumber floats (character :: tail)).map
        fun read => (.scalar read.1, read.2) := by
  have first (letter : Char) (noNumber : letter.isDigit = false)
      (noSign : letter ≠ '-') (rest : List Char)
      (equal : character :: tail = letter :: rest) : False :=
    ne_of_number number noNumber noSign (List.cons.inj equal).1
  rw [readValue]
  · cases readNumber floats (character :: tail) <;> rfl
  · exact first '\x22' rfl (by decide)
  · exact first '\x7b' rfl (by decide)
  · exact first '[' rfl (by decide)
  · exact fun rest => first 'n' rfl (by decide) _
  · exact fun rest => first 't' rfl (by decide) _
  · exact fun rest => first 'f' rfl (by decide) _

/-- An integer begins with a digit or a sign. -/
theorem exists_writeInt (value : Int) :
    ∃ character tail, writeInt value = character :: tail ∧
      (character.isDigit = true ∨ character = '-') := by
  cases value with
  | ofNat value =>
      obtain ⟨digit, tail, below, equal⟩ := exists_toDigits value
      exact ⟨_, tail, equal, Or.inl (isDigit_digitChar below)⟩
  | negSucc value => exact ⟨_, _, rfl, Or.inr rfl⟩

theorem readsAs_int (value : Int) :
    ReadsAs floats (writeInt value) (.scalar (.int value)) := by
  obtain ⟨character, tail, equal, number⟩ := exists_writeInt value
  have other {letter : Char} (noDigit : letter.isDigit = false)
      (noSign : letter ≠ '-') : character ≠ letter :=
    ne_of_number number noDigit noSign
  refine ⟨⟨character, tail, equal, ?_, other rfl (by decide),
    other rfl (by decide)⟩, fun fuel rest enough ends => ?_⟩
  · have blank : character ≠ ' ' ∧ character ≠ '\t' ∧ character ≠ '\n' ∧
        character ≠ '\r' :=
      ⟨other rfl (by decide), other rfl (by decide),
        other rfl (by decide), other rfl (by decide)⟩
    simp [isBlank, blank]
  · cases fuel with
    | zero =>
        rw [equal] at enough
        cases enough
    | succ fuel =>
        refine ⟨.scalar (.int value), ?_, .refl _⟩
        have read := readNumber_writeInt floats value ends
        rw [equal, List.cons_append] at read ⊢
        rw [readValue_number floats fuel _ number, read]
        rfl

theorem readsAs_string (text : String) :
    ReadsAs floats (writeString ensureAscii text) (.str text) := by
  refine ⟨⟨_, _, rfl, rfl, by decide, by decide⟩,
    fun fuel rest enough ends => ?_⟩
  cases fuel with
  | zero => cases enough
  | succ fuel =>
      refine ⟨.str text, ?_, .refl _⟩
      have read := readString_tail ensureAscii text rest
      rw [writeString, List.tail_cons] at read
      rw [writeString, List.cons_append, readValue, read]
      simp

/-- Scalars without floats are read back. -/
theorem readsAs_scalar
    (value : JsonScalar)
    (exact : ∀ number, value ≠ .float number) :
    ReadsAs floats (writeScalar floats ensureAscii value) (.scalar value) := by
  have word (character : Char) (tail : List Char) (value : JsonScalar)
      (start : isBlank character = false ∧ character ≠ ']' ∧
        character ≠ '\x7d')
      (reads : ∀ fuel rest, readValue floats (fuel + 1)
        (character :: tail ++ rest) = some (.scalar value, rest)) :
      ReadsAs floats (character :: tail) (.scalar value) := by
    refine ⟨⟨_, _, rfl, start⟩, fun fuel rest enough ends => ?_⟩
    cases fuel with
    | zero => cases enough
    | succ fuel => exact ⟨_, reads fuel rest, .refl _⟩
  match value with
  | .null => exact word _ _ _ (by decide) fun fuel rest => rfl
  | .bool true => exact word _ _ _ (by decide) fun fuel rest => rfl
  | .bool false => exact word _ _ _ (by decide) fun fuel rest => rfl
  | .int value => exact readsAs_int floats value
  | .float number => exact absurd rfl (exact number)
  | .str text => exact readsAs_string floats ensureAscii text

theorem begins_joined
    {text : List Char}
    (begins : Begins text)
    (texts : List (List Char)) : Begins (joined (text :: texts)) := by
  cases texts with
  | nil => exact begins
  | cons next texts =>
      obtain ⟨character, tail, rfl, start⟩ := begins
      exact ⟨character, _, rfl, start⟩

/-- Items with commas between them are read back. -/
theorem readItems_joined
    {texts : List (List Char)} {items : List JsonTree}
    (related : List.Forall₂ (ReadsAs floats) texts items)
    (nonempty : texts ≠ [])
    {fuel : Nat}
    (rest : List Char)
    (enough : (joined texts).length < fuel) :
    ∃ reads, readItems floats fuel (joined texts ++ ']' :: rest) =
        some (reads, rest) ∧ List.Forall₂ Same reads items := by
  induction related generalizing fuel with
  | nil => exact absurd rfl nonempty
  | @cons text item texts items reads related inductionHypothesis =>
      cases fuel with
      | zero => cases enough
      | succ fuel =>
          cases related with
          | nil =>
              obtain ⟨read, equal, same⟩ := reads.2 fuel (']' :: rest)
                (Nat.lt_succ_iff.mp enough) (by simp [Ends])
              refine ⟨[read], ?_, .cons same .nil⟩
              rw [joined, readItems, equal]
              rfl
          | @cons next other texts others nextReads related =>
              rw [joined, List.length_append, List.length_cons] at enough
              obtain ⟨read, equal, same⟩ := reads.2 fuel
                (',' :: (joined (next :: texts) ++ ']' :: rest))
                (by omega) (by simp [Ends])
              obtain ⟨others, otherEqual, otherSame⟩ :=
                inductionHypothesis (List.cons_ne_nil _ _)
                  (show (joined (next :: texts)).length < fuel by omega)
              refine ⟨read :: others, ?_, .cons same otherSame⟩
              have begins := skip_of_begins (begins_joined nextReads.1 texts)
                (']' :: rest)
              rw [joined, List.append_assoc, List.cons_append, readItems, equal]
              simp only [Option.bind_eq_bind, Option.bind_some]
              rw [show skip (',' :: (joined (next :: texts) ++ ']' :: rest)) =
                ',' :: (joined (next :: texts) ++ ']' :: rest) from rfl]
              simp only [begins, otherEqual, Option.bind_some, Option.pure_def]

theorem writeString_eq (text : String) :
    writeString ensureAscii text =
      '\x22' :: (writeString ensureAscii text).tail := rfl

theorem begins_fieldText (row : String × List Char) :
    Begins (fieldText ensureAscii row) :=
  ⟨'\x22', _, rfl, rfl, by decide, by decide⟩

/-- What `readFields` does after a field. -/
def readMore (fuel : Nat) (field : String × JsonTree) :
    List Char -> Option (List (String × JsonTree) × List Char)
  | '\x7d' :: rest => some ([field], rest)
  | ',' :: rest =>
      (readFields floats fuel (skip rest)).map fun others =>
        (addField others.1 field, others.2)
  | _ => none

/-- Fields with commas between them are read back, by their names. -/
theorem readFields_joined
    (find : String -> Option JsonTree)
    {rows : List (String × List Char)}
    (known : ∀ row ∈ rows, ∃ value, find row.1 = some value ∧
      ReadsAs floats row.2 value)
    (nodup : (rows.map Prod.fst).Nodup)
    (nonempty : rows ≠ [])
    {fuel : Nat}
    (rest : List Char)
    (enough : (joined (rows.map (fieldText ensureAscii))).length < fuel) :
    ∃ reads, readFields floats fuel
        (joined (rows.map (fieldText ensureAscii)) ++ '\x7d' :: rest) =
          some (reads, rest) ∧
      (∀ name, name ∈ reads.map Prod.fst ↔ name ∈ rows.map Prod.fst) ∧
      ∀ read ∈ reads, ∃ value, find read.1 = some value ∧
        read.2.Same value := by
  induction rows generalizing fuel with
  | nil => exact absurd rfl nonempty
  | cons row rows inductionHypothesis =>
      obtain ⟨name, text⟩ := row
      obtain ⟨value, found, reads⟩ := known _ List.mem_cons_self
      cases fuel with
      | zero => cases enough
      | succ fuel =>
          -- The name and its value, before what ends the value.
          have field (after : List Char) (short : text.length ≤ fuel)
              (ends : Ends after) :
              ∃ read, read.Same value ∧
                readFields floats (fuel + 1)
                  (fieldText ensureAscii (name, text) ++ after) =
                  readMore floats fuel (name, read) (skip after) := by
            obtain ⟨read, equal, same⟩ := reads.2 fuel after short ends
            refine ⟨read, same, ?_⟩
            have quoted := readString_tail ensureAscii name
              (':' :: (text ++ after))
            rw [fieldText, writeString_eq, List.cons_append, List.cons_append,
              List.append_assoc, List.cons_append, readFields, quoted]
            simp only [Option.bind_eq_bind, Option.bind_some]
            rw [show skip (':' :: (text ++ after)) = ':' :: (text ++ after)
              from rfl]
            simp only [skip_of_begins reads.1, equal, Option.bind_some,
              String.ofList_toList, Option.pure_def]
            generalize skip after = more
            split
            · rfl
            · next rest =>
                change _ = (readFields floats fuel (skip rest)).map fun others =>
                  (addField others.1 (name, read), others.2)
                cases readFields floats fuel (skip rest) <;> rfl
            · next closes continues =>
                rw [readMore]
                · exact closes
                · exact continues
          cases rows with
          | nil =>
              rw [List.map_singleton, joined, fieldText, List.length_append,
                List.length_cons] at enough
              obtain ⟨read, same, equal⟩ := field ('\x7d' :: rest)
                (by dsimp only at enough; omega) (by simp [Ends])
              refine ⟨[(name, read)], equal, fun other => by simp, ?_⟩
              intro other listed
              obtain rfl := List.mem_singleton.mp listed
              exact ⟨value, found, same⟩
          | cons next rows =>
              rw [List.map_cons, List.map_cons, joined, fieldText,
                List.length_append, List.length_append, List.length_cons,
                List.length_cons, ← List.map_cons] at enough
              dsimp only at enough
              obtain ⟨read, same, equal⟩ := field
                (',' :: (joined ((next :: rows).map (fieldText ensureAscii)) ++
                  '\x7d' :: rest)) (by omega) (by simp [Ends])
              obtain ⟨others, otherEqual, names, sames⟩ :=
                inductionHypothesis
                  (fun row listed => known row (List.mem_cons_of_mem _ listed))
                  (List.nodup_cons.mp nodup).2 (List.cons_ne_nil _ _)
                  (show (joined ((next :: rows).map
                    (fieldText ensureAscii))).length < fuel by omega)
              have absent : others.lookup name = none := by
                refine List.lookup_eq_none_iff.mpr fun entry listed => ?_
                refine bne_iff_ne.mpr ?_
                rintro rfl
                exact (List.nodup_cons.mp nodup).1
                  ((names _).mp (List.mem_map_of_mem listed))
              refine ⟨others ++ [(name, read)], ?_, fun other => ?_,
                fun other listed => ?_⟩
              · have begins : Begins (joined
                    ((next :: rows).map (fieldText ensureAscii))) :=
                  begins_joined (begins_fieldText ensureAscii next) _
                rw [List.map_cons, List.map_cons, joined, List.append_assoc,
                  List.cons_append, ← List.map_cons, equal]
                rw [show skip (',' :: (joined ((next :: rows).map
                  (fieldText ensureAscii)) ++ '\x7d' :: rest)) =
                    ',' :: (joined ((next :: rows).map
                      (fieldText ensureAscii)) ++ '\x7d' :: rest) from rfl]
                simp only [readMore, skip_of_begins begins, otherEqual,
                  Option.map_some, addField, absent, Option.isSome_none, Bool.false_eq_true,
                  if_false]
              · rw [List.map_append, List.mem_append, names]
                simp [or_comm]
              · rcases List.mem_append.mp listed with before | last
                · exact sames other before
                · obtain rfl := List.mem_singleton.mp last
                  exact ⟨value, found, same⟩

theorem readValue_items
    {text : List Char}
    (fuel : Nat)
    (rest : List Char)
    (begins : Begins text) :
    readValue floats (fuel + 1) ('[' :: (text ++ rest)) =
      (readItems floats fuel (text ++ rest)).map
        fun read => (.array read.1, read.2) := by
  rw [readValue, skip_of_begins begins]
  obtain ⟨character, tail, rfl, -, notClosed, -⟩ := begins
  rw [List.cons_append]
  split
  · next equal => exact absurd (List.cons.inj equal).1 notClosed
  · cases readItems floats fuel (character :: (tail ++ rest)) <;> rfl

theorem readValue_fields
    {text : List Char}
    (fuel : Nat)
    (rest : List Char)
    (begins : Begins text) :
    readValue floats (fuel + 1) ('\x7b' :: (text ++ rest)) =
      (readFields floats fuel (text ++ rest)).map
        fun read => (.object read.1, read.2) := by
  rw [readValue, skip_of_begins begins]
  obtain ⟨character, tail, rfl, -, -, notClosed⟩ := begins
  rw [List.cons_append]
  split
  · next equal => exact absurd (List.cons.inj equal).1 notClosed
  · cases readFields floats fuel (character :: (tail ++ rest)) <;> rfl

/-- What is read by the names of a table, for the fields that it was written
from. -/
theorem same_of_reads
    (fields reads : List (String × JsonTree))
    (names : ∀ name, name ∈ reads.map Prod.fst ↔
      name ∈ (writeFields floats ensureAscii fields).keys)
    (sames : ∀ read ∈ reads, ∃ value, fields.lookup read.1 = some value ∧
      read.2.Same value) :
    (object reads).Same (object fields) := by
  refine same_of_lookup fun name => ?_
  cases read : reads.lookup name with
  | some value =>
      obtain ⟨other, found, same⟩ := sames _ (mem_of_lookup read)
      rw [found]
      exact .some same
  | none =>
      have absent : name ∉ reads.map Prod.fst := fun listed => by
        have present : name ∈ (object reads).names := listed
        rw [mem_names_iff, field?_object, read] at present
        cases present
      rw [names, Table.mem_keys_iff, lookup_writeFields] at absent
      cases found : fields.lookup name with
      | none => exact .none
      | some value =>
          rw [found] at absent
          exact absurd ⟨_, rfl⟩ absent

/-- A written tree without floats is read back. -/
theorem readsAs_write
    {tree : JsonTree}
    (exact : tree.IsExact) :
    ReadsAs floats (tree.write floats ensureAscii) tree := by
  induction exact with
  | scalar value exact => exact readsAs_scalar floats ensureAscii value exact
  | array items exact inductionHypothesis =>
      rw [write, writeItems_eq]
      refine ⟨⟨'[', _, rfl, by decide, by decide, by decide⟩,
        fun fuel rest enough ends => ?_⟩
      rw [List.length_cons, List.length_append, List.length_singleton] at enough
      cases fuel with
      | zero => cases enough
      | succ fuel =>
          have related : List.Forall₂ (ReadsAs floats)
              (items.map (write floats ensureAscii)) items :=
            List.forall₂_map_left_iff.mpr
              (List.forall₂_same.mpr inductionHypothesis)
          rw [List.cons_append, List.append_assoc, List.singleton_append]
          cases items with
          | nil => exact ⟨.array [], rfl, .refl _⟩
          | cons item items =>
              have short : (joined ((item :: items).map
                  (write floats ensureAscii))).length < fuel := by
                omega
              obtain ⟨reads, equal, same⟩ := readItems_joined floats related
                (List.cons_ne_nil _ _) rest short
              have begins : Begins (joined
                  ((item :: items).map (write floats ensureAscii))) :=
                begins_joined (inductionHypothesis item List.mem_cons_self).1 _
              refine ⟨.array reads, ?_, same_of_items same⟩
              rw [readValue_items floats fuel _ begins, equal]
              rfl
  | object fields exact inductionHypothesis =>
      rw [write]
      refine ⟨⟨'\x7b', _, rfl, by decide, by decide, by decide⟩,
        fun fuel rest enough ends => ?_⟩
      rw [List.length_cons, List.length_append, List.length_singleton] at enough
      cases fuel with
      | zero => cases enough
      | succ fuel =>
          have known : ∀ row ∈ (writeFields floats ensureAscii fields).rows,
              ∃ value, fields.lookup row.1 = some value ∧
                ReadsAs floats row.2 value := by
            intro row listed
            obtain ⟨value, found, equal⟩ := (mem_writeFields_iff ..).mp listed
            have reads := inductionHypothesis _ (mem_of_lookup found)
            rw [equal] at reads
            exact ⟨value, found, reads⟩
          rw [List.cons_append, List.append_assoc, List.singleton_append]
          have sameOf (reads : List (String × JsonTree)) :=
            same_of_reads floats ensureAscii fields reads
          simp only [Table.keys] at sameOf
          have nodup := (writeFields floats ensureAscii fields).keys_nodup
          rw [Table.keys] at nodup
          generalize (writeFields floats ensureAscii fields).rows = rows
            at enough known sameOf nodup ⊢
          cases rows with
          | nil => exact ⟨.object [], rfl, sameOf [] (by simp) (by simp)⟩
          | cons row rows =>
              have short : (joined ((row :: rows).map
                  (fieldText ensureAscii))).length < fuel := by
                omega
              obtain ⟨reads, equal, names, sames⟩ := readFields_joined floats
                ensureAscii (fun name => fields.lookup name) known nodup
                (List.cons_ne_nil _ _) rest short
              have begins : Begins (joined
                  ((row :: rows).map (fieldText ensureAscii))) :=
                begins_joined (begins_fieldText ensureAscii row) _
              refine ⟨.object reads, ?_, sameOf reads names sames⟩
              rw [readValue_fields floats fuel _ begins, equal]
              rfl

/-- `json.loads` after `json.dumps`, before blanks. -/
theorem loads_write_append
    {tree : JsonTree}
    (exact : tree.IsExact)
    {rest : List Char}
    (ends : Ends rest)
    (blank : skip rest = []) :
    ∃ read, loads floats (tree.write floats ensureAscii ++ rest) = some read ∧
      read.Same tree := by
  obtain ⟨begins, reads⟩ := readsAs_write floats ensureAscii exact
  obtain ⟨read, equal, same⟩ := reads
    ((tree.write floats ensureAscii ++ rest).length + 1) rest
    (by rw [List.length_append]; omega) ends
  refine ⟨read, ?_, same⟩
  rw [loads, skip_of_begins begins rest, equal]
  exact if_pos blank

/-- `json.loads` after `json.dumps`. -/
theorem loads_write
    {tree : JsonTree}
    (exact : tree.IsExact) :
    ∃ read, loads floats (tree.write floats ensureAscii) = some read ∧
      read.Same tree := by
  have read := loads_write_append floats ensureAscii exact
    (show Ends [] by simp [Ends]) rfl
  rwa [List.append_nil] at read

end RoundTrip

end JsonTree
end CodingLlm
