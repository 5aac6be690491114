import CodingLlm.Library.JsonTrees
import CodingLlm.Library.Table
import CodingLlm.Library.Words
import Mathlib.Data.Rat.Floor
import Mathlib.Data.String.Basic

/-!
# JSON texts, written

`json.dumps` with sorted keys and without blanks, in two spellings: with every
character outside of printable ASCII escaped, or with none of them escaped
above the controls.  The text of a float is a parameter.
-/

namespace CodingLlm

open Words

/-- A character that both spellings write as one printable ASCII character. -/
def IsPlainChar (character : Char) : Prop :=
  character.toNat < 0x7F

instance (character : Char) : Decidable (IsPlainChar character) :=
  inferInstanceAs (Decidable (_ < _))

/-- How floats are written and read: the text of a float, and the float that
is nearest to a decimal. -/
structure FloatText where
  text : Rat -> List Char
  nearest : Rat -> Rat
  text_plain : ∀ value, ∀ character ∈ text value, IsPlainChar character

namespace JsonTree

/-! ## Strings -/

/-- The letter of a short escape. -/
def shortEscape? (character : Char) : Option Char :=
  match character with
  | '\x22' => some '\x22'
  | '\x5c' => some '\x5c'
  | '\x08' => some 'b'
  | '\x0c' => some 'f'
  | '\n' => some 'n'
  | '\r' => some 'r'
  | '\t' => some 't'
  | _ => none

/-- `\uXXXX`. -/
def unitEscape (unit : Nat) : List Char :=
  ['\x5c', 'u', Nat.digitChar (unit / 4096 % 16),
    Nat.digitChar (unit / 256 % 16), Nat.digitChar (unit / 16 % 16),
    Nat.digitChar (unit % 16)]

/-- A character as one escape, or as the two of a surrogate pair. -/
def longEscape (code : Nat) : List Char :=
  if code < 0x10000 then unitEscape code
  else
    unitEscape (0xD800 + (code - 0x10000) / 0x400) ++
      unitEscape (0xDC00 + (code - 0x10000) % 0x400)

/-- A character of a string, with `ensure_ascii` or without. -/
def writeChar (ensureAscii : Bool) (character : Char) : List Char :=
  match shortEscape? character with
  | some letter => ['\x5c', letter]
  | none =>
      if character.toNat < 0x20 ∨
          (ensureAscii = true ∧ 0x7E < character.toNat) then
        longEscape character.toNat
      else [character]

/-- A quoted string. -/
def writeString (ensureAscii : Bool) (text : String) : List Char :=
  '\x22' :: (text.toList.flatMap (writeChar ensureAscii) ++ ['\x22'])

/-! ## Trees -/

/-- The decimal digits of an integer. -/
def writeInt : Int -> List Char
  | .ofNat value => Nat.toDigits 10 value
  | .negSucc value => '-' :: Nat.toDigits 10 (value + 1)

/-- Texts with a comma between them. -/
def joined : List (List Char) -> List Char
  | [] => []
  | [text] => text
  | text :: next :: texts => text ++ ',' :: joined (next :: texts)

section Writer

variable (floats : FloatText) (ensureAscii : Bool)

def writeScalar : JsonScalar -> List Char
  | .null => ['n', 'u', 'l', 'l']
  | .bool true => ['t', 'r', 'u', 'e']
  | .bool false => ['f', 'a', 'l', 's', 'e']
  | .int value => writeInt value
  | .float value => floats.text value
  | .str text => writeString ensureAscii text

/-- The text of a field. -/
def fieldText (row : String × List Char) : List Char :=
  writeString ensureAscii row.1 ++ ':' :: row.2

mutual

/-- `json.dumps(tree, sort_keys=True, separators=(",", ":"))`. -/
def write : JsonTree -> List Char
  | .scalar value => writeScalar floats ensureAscii value
  | .array items => '[' :: (joined (writeItems items) ++ [']'])
  | .object fields =>
      '\x7b' :: (joined ((writeFields fields).rows.map
        (fieldText ensureAscii)) ++ ['\x7d'])

def writeItems : List JsonTree -> List (List Char)
  | [] => []
  | item :: items => write item :: writeItems items

/-- The texts of the values, by the sorted names of the fields. -/
def writeFields : List (String × JsonTree) -> Table String (List Char)
  | [] => Table.empty
  | (name, value) :: fields => (writeFields fields).upsert name (write value)

end

theorem writeItems_eq (items : List JsonTree) :
    writeItems floats ensureAscii items =
      items.map (write floats ensureAscii) := by
  induction items with
  | nil => rfl
  | cons item items inductionHypothesis =>
      rw [writeItems, inductionHypothesis, List.map_cons]

theorem lookup_writeFields
    (fields : List (String × JsonTree))
    (name : String) :
    (writeFields floats ensureAscii fields).lookup name =
      (fields.lookup name).map (write floats ensureAscii) := by
  induction fields with
  | nil => rfl
  | cons field fields inductionHypothesis =>
      obtain ⟨first, value⟩ := field
      rw [writeFields, Table.lookup_upsert, List.lookup_cons,
        inductionHypothesis]
      by_cases equal : name = first
      · simp [equal]
      · simp [equal, beq_eq_false_iff_ne.mpr equal]

/-- The rows of the texts are the fields, by name. -/
theorem mem_writeFields_iff
    {fields : List (String × JsonTree)}
    {row : String × List Char} :
    row ∈ (writeFields floats ensureAscii fields).rows ↔
      ∃ value, fields.lookup row.1 = some value ∧
        write floats ensureAscii value = row.2 := by
  rw [← Table.lookup_eq_some_iff, lookup_writeFields, Option.map_eq_some_iff]

end Writer

/-! ## Sameness -/

/-- The same trees have the same text. -/
theorem write_congr
    (floats : FloatText)
    (ensureAscii : Bool)
    {left right : JsonTree}
    (same : left.Same right) :
    left.write floats ensureAscii = right.write floats ensureAscii := by
  induction right using induction_on generalizing left with
  | scalar value => rw [same.eq_scalar]
  | array items inductionHypothesis =>
      obtain ⟨others, rfl, related⟩ := same.exists_items
      have texts : others.map (write floats ensureAscii) =
          items.map (write floats ensureAscii) := by
        refine List.ext_getElem (by simpa using related.length_eq)
          fun index first second => ?_
        rw [List.length_map] at first second
        rw [List.getElem_map, List.getElem_map]
        exact inductionHypothesis _ (List.getElem_mem second)
          (related.get first second)
      rw [write, write, writeItems_eq, writeItems_eq, texts]
  | object fields inductionHypothesis =>
      obtain ⟨others, rfl⟩ := same.exists_fields
      have texts : writeFields floats ensureAscii others =
          writeFields floats ensureAscii fields := by
        refine Table.ext_lookup fun name => ?_
        rw [lookup_writeFields, lookup_writeFields]
        have below := same.field name
        have member (value : JsonTree)
            (found : fields.lookup name = some value) :
            (name, value) ∈ fields := mem_of_lookup found
        simp only [field?_object] at below
        generalize others.lookup name = first at below
        generalize fields.lookup name = second at below member
        cases below with
        | none => rfl
        | some equal =>
            exact congrArg some
              (inductionHypothesis _ (member _ rfl) equal)
      rw [write, write, texts]

/-! ## The two spellings -/

theorem forall_plain_of_all
    {characters : List Char}
    (all : characters.all fun character => IsPlainChar character) :
    ∀ character ∈ characters, IsPlainChar character := by
  intro character member
  exact of_decide_eq_true (List.all_eq_true.mp all character member)

theorem digitChar_plain {digit : Nat} (small : digit < 16) :
    IsPlainChar digit.digitChar := by
  have all : ∀ digit < 16, IsPlainChar (Nat.digitChar digit) := by decide
  exact all digit small

theorem unitEscape_plain
    {unit : Nat} {character : Char}
    (member : character ∈ unitEscape unit) : IsPlainChar character := by
  have small (value : Nat) : IsPlainChar (value % 16).digitChar :=
    digitChar_plain (Nat.mod_lt _ (by decide))
  simp only [unitEscape, List.mem_cons, List.not_mem_nil, or_false] at member
  rcases member with rfl | rfl | rfl | rfl | rfl | rfl
  · decide
  · decide
  all_goals exact small _

theorem longEscape_plain
    {code : Nat} {character : Char}
    (member : character ∈ longEscape code) : IsPlainChar character := by
  rw [longEscape] at member
  split at member
  · exact unitEscape_plain member
  · rcases List.mem_append.mp member with first | second
    · exact unitEscape_plain first
    · exact unitEscape_plain second

/-- Short escapes are of plain characters, and plain themselves. -/
theorem shortEscape?_plain
    {character letter : Char}
    (short : shortEscape? character = some letter) :
    IsPlainChar character ∧ IsPlainChar letter := by
  unfold shortEscape? at short
  split at short <;> cases short <;> decide

/-- The escaping spelling of a character is plain. -/
theorem writeChar_plain
    {character written : Char}
    (member : written ∈ writeChar true character) : IsPlainChar written := by
  unfold writeChar at member
  split at member
  · next letter short =>
      rcases List.mem_pair.mp member with rfl | rfl
      · decide
      · exact (shortEscape?_plain short).2
  · split at member
    · exact longEscape_plain member
    · next kept =>
        obtain rfl := List.mem_singleton.mp member
        unfold IsPlainChar
        simp only [true_and, not_or] at kept
        omega

/-- Plain characters are spelled in one way only. -/
theorem writeChar_of_plain
    {character : Char}
    (plain : IsPlainChar character) :
    writeChar false character = writeChar true character := by
  have low : ¬ 0x7E < character.toNat := by
    unfold IsPlainChar at plain
    omega
  simp [writeChar, low]

/-- The other spelling keeps what is not plain. -/
theorem writeChar_of_not_plain
    {character : Char}
    (high : ¬ IsPlainChar character) :
    writeChar false character = [character] := by
  unfold writeChar
  split
  · next letter short => exact absurd (shortEscape?_plain short).1 high
  · have low : ¬ character.toNat < 0x20 := by
      unfold IsPlainChar at high
      omega
    simp [low]

/-- A text of plain characters. -/
def IsPlainText (text : String) : Prop :=
  ∀ character ∈ text.toList, IsPlainChar character

instance (text : String) : Decidable (IsPlainText text) :=
  List.decidableBAll _ text.toList

theorem writeString_plain
    {text : String} {character : Char}
    (member : character ∈ writeString true text) : IsPlainChar character := by
  rw [writeString, List.mem_cons, List.mem_append, List.mem_flatMap,
    List.mem_singleton] at member
  rcases member with rfl | ⟨source, -, written⟩ | rfl
  · decide
  · exact writeChar_plain written
  · decide

theorem writeString_of_plain
    {text : String}
    (plain : IsPlainText text) :
    writeString false text = writeString true text := by
  rw [writeString, writeString]
  congr 2
  exact List.flatMap_congr fun character member =>
    writeChar_of_plain (plain character member)

/-- A text that is not plain is spelled with a character that is not. -/
theorem exists_of_writeString
    {text : String}
    (high : ¬ IsPlainText text) :
    ∃ character ∈ writeString false text, ¬ IsPlainChar character := by
  unfold IsPlainText at high
  push Not at high
  obtain ⟨character, member, other⟩ := high
  refine ⟨character, ?_, other⟩
  rw [writeString, List.mem_cons, List.mem_append, List.mem_flatMap]
  refine Or.inr (Or.inl ⟨character, member, ?_⟩)
  rw [writeChar_of_not_plain other]
  exact List.mem_singleton_self character

theorem mem_or_of_mem_joined
    {texts : List (List Char)} {character : Char}
    (member : character ∈ joined texts) :
    character = ',' ∨ ∃ text ∈ texts, character ∈ text := by
  induction texts using joined.induct with
  | case1 => cases member
  | case2 text => exact Or.inr ⟨text, List.mem_singleton_self text, member⟩
  | case3 text next texts inductionHypothesis =>
      rw [joined, List.mem_append, List.mem_cons] at member
      rcases member with first | comma | later
      · exact Or.inr ⟨text, List.mem_cons_self, first⟩
      · exact Or.inl comma
      · rcases inductionHypothesis later with comma | ⟨other, listed, inside⟩
        · exact Or.inl comma
        · exact Or.inr ⟨other, List.mem_cons_of_mem _ listed, inside⟩

theorem mem_joined
    {texts : List (List Char)} {text : List Char} {character : Char}
    (listed : text ∈ texts)
    (member : character ∈ text) : character ∈ joined texts := by
  induction texts using joined.induct with
  | case1 => cases listed
  | case2 only =>
      obtain rfl := List.mem_singleton.mp listed
      exact member
  | case3 first next texts inductionHypothesis =>
      rw [joined, List.mem_append, List.mem_cons]
      rcases List.mem_cons.mp listed with rfl | later
      · exact Or.inl member
      · exact Or.inr (Or.inr (inductionHypothesis later))

theorem writeInt_plain
    {value : Int} {character : Char}
    (member : character ∈ writeInt value) : IsPlainChar character := by
  have digits {number : Nat} (inside : character ∈ Nat.toDigits 10 number) :
      IsPlainChar character := by
    have digit := Nat.isDigit_of_mem_toDigits (by decide) (by decide) inside
    exact (Char.isDigit_iff_toNat.mp digit).2.trans_lt (by decide)
  cases value with
  | ofNat value => exact digits member
  | negSucc value =>
      rcases List.mem_cons.mp member with rfl | inside
      · decide
      · exact digits inside

section Spellings

variable {floats : FloatText}

theorem writeScalar_plain
    {value : JsonScalar} {character : Char}
    (member : character ∈ writeScalar floats true value) :
    IsPlainChar character := by
  match value with
  | .null =>
      have all : ∀ character ∈ ['n', 'u', 'l', 'l'],
        IsPlainChar character := forall_plain_of_all (by decide)
      exact all character member
  | .bool true =>
      have all : ∀ character ∈ ['t', 'r', 'u', 'e'],
        IsPlainChar character := forall_plain_of_all (by decide)
      exact all character member
  | .bool false =>
      have all : ∀ character ∈ ['f', 'a', 'l', 's', 'e'],
        IsPlainChar character := forall_plain_of_all (by decide)
      exact all character member
  | .int value => exact writeInt_plain member
  | .float value => exact floats.text_plain value character member
  | .str text => exact writeString_plain member

/-- The escaping spelling of a tree is plain. -/
theorem write_plain
    {tree : JsonTree} {character : Char}
    (member : character ∈ tree.write floats true) : IsPlainChar character := by
  induction tree using induction_on with
  | scalar value => exact writeScalar_plain member
  | array items inductionHypothesis =>
      rw [write, List.mem_cons, List.mem_append, List.mem_singleton,
        writeItems_eq] at member
      rcases member with rfl | inside | rfl
      · decide
      · rcases mem_or_of_mem_joined inside with rfl | ⟨text, listed, inText⟩
        · decide
        · obtain ⟨item, known, rfl⟩ := List.mem_map.mp listed
          exact inductionHypothesis item known inText
      · decide
  | object fields inductionHypothesis =>
      rw [write, List.mem_cons, List.mem_append, List.mem_singleton] at member
      rcases member with rfl | inside | rfl
      · decide
      · rcases mem_or_of_mem_joined inside with rfl | ⟨text, listed, inText⟩
        · decide
        · obtain ⟨row, known, rfl⟩ := List.mem_map.mp listed
          obtain ⟨value, found, same⟩ := (mem_writeFields_iff ..).mp known
          rw [fieldText, List.mem_append, List.mem_cons] at inText
          rcases inText with name | rfl | below
          · exact writeString_plain name
          · decide
          · rw [← same] at below
            exact inductionHypothesis _ (mem_of_lookup found) below
      · decide

/-- Every string of a tree, the names of its fields included, is plain. -/
inductive IsPlain : JsonTree -> Prop
  | scalar
      (value : JsonScalar)
      (text : ∀ text, value = .str text -> IsPlainText text) :
      IsPlain (.scalar value)
  | array
      (items : List JsonTree)
      (plain : ∀ item ∈ items, IsPlain item) : IsPlain (.array items)
  | object
      (fields : List (String × JsonTree))
      (names : ∀ field ∈ fields, IsPlainText field.1)
      (plain : ∀ field ∈ fields, IsPlain field.2) : IsPlain (.object fields)

/-- A plain tree has one spelling only. -/
theorem IsPlain.write_eq
    {tree : JsonTree}
    (plain : tree.IsPlain) :
    tree.write floats false = tree.write floats true := by
  induction plain with
  | scalar value text =>
      rw [write, write]
      match value with
      | .null => rfl
      | .bool true => rfl
      | .bool false => rfl
      | .int _ => rfl
      | .float _ => rfl
      | .str value => exact writeString_of_plain (text value rfl)
  | array items plain inductionHypothesis =>
      have texts : items.map (write floats false) =
          items.map (write floats true) :=
        List.map_congr_left inductionHypothesis
      rw [write, write, writeItems_eq, writeItems_eq, texts]
  | object fields names plain inductionHypothesis =>
      have rows : writeFields floats false fields =
          writeFields floats true fields := by
        refine Table.ext_lookup fun name => ?_
        rw [lookup_writeFields, lookup_writeFields]
        cases found : fields.lookup name with
        | none => rfl
        | some value =>
            exact congrArg some (inductionHypothesis _ (mem_of_lookup found))
      have texts : (writeFields floats true fields).rows.map (fieldText false) =
          (writeFields floats true fields).rows.map (fieldText true) := by
        refine List.map_congr_left fun row known => ?_
        obtain ⟨value, found, -⟩ := (mem_writeFields_iff ..).mp known
        rw [fieldText, fieldText,
          writeString_of_plain (names _ (mem_of_lookup found))]
      rw [write, write, rows, texts]

/-- A string field that is not plain is spelled with a character that is
not. -/
theorem exists_of_write
    {fields : List (String × JsonTree)} {name text : String}
    (found : fields.lookup name = some (.str text))
    (high : ¬ IsPlainText text) :
    ∃ character ∈ (object fields).write floats false,
      ¬ IsPlainChar character := by
  obtain ⟨character, member, other⟩ := exists_of_writeString high
  refine ⟨character, ?_, other⟩
  have row : (name, writeString false text) ∈
      (writeFields floats false fields).rows :=
    (mem_writeFields_iff ..).mpr ⟨_, found, rfl⟩
  have inside : character ∈ fieldText false (name, writeString false text) :=
    List.mem_append_right _ (List.mem_cons_of_mem _ member)
  rw [write, List.mem_cons, List.mem_append]
  exact Or.inr (Or.inl (mem_joined (List.mem_map_of_mem row) inside))

end Spellings

end JsonTree

open JsonTree in
/-- Floats that are whole numbers, as `1.0`. -/
def wholeFloats : FloatText where
  text value := writeInt ⌊value⌋ ++ ['.', '0']
  nearest value := ⌊value⌋
  text_plain := fun value character member => by
    rcases List.mem_append.mp member with digits | rest
    · exact writeInt_plain digits
    · have plain : ∀ character ∈ ['.', '0'], IsPlainChar character :=
        forall_plain_of_all (by decide)
      exact plain character rest

end CodingLlm
