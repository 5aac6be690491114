import CodingLlm.Library.JsonWriter

/-!
# JSON texts, read

`json.loads` on a text without lone surrogates: blanks between tokens, escapes,
integers and floats, the last of two fields with one name.
-/

namespace CodingLlm
namespace JsonTree

/-! ## Tokens -/

def isBlank (character : Char) : Bool :=
  character = ' ' || character = '\t' || character = '\n' || character = '\r'

/-- The text after its leading blanks. -/
def skip (text : List Char) : List Char := text.dropWhile isBlank

/-- The character that a letter escapes. -/
def unescape? (letter : Char) : Option Char :=
  match letter with
  | '\x22' => some '\x22'
  | '\x5c' => some '\x5c'
  | '/' => some '/'
  | 'b' => some '\x08'
  | 'f' => some '\x0c'
  | 'n' => some '\n'
  | 'r' => some '\r'
  | 't' => some '\t'
  | _ => none

/-- The value of a hexadecimal digit. -/
def hexValue? (character : Char) : Option Nat :=
  let code := character.toNat
  if 48 ≤ code ∧ code ≤ 57 then some (code - 48)
  else if 97 ≤ code ∧ code ≤ 102 then some (code - 87)
  else if 65 ≤ code ∧ code ≤ 70 then some (code - 55)
  else none

/-- `XXXX`, after `\u`. -/
def readUnit (text : List Char) : Option (Nat × List Char) :=
  match text with
  | first :: second :: third :: fourth :: rest => do
      let first ← hexValue? first
      let second ← hexValue? second
      let third ← hexValue? third
      let fourth ← hexValue? fourth
      return (((first * 16 + second) * 16 + third) * 16 + fourth, rest)
  | _ => none

/-- The character of a code that is no surrogate. -/
def charOf? (code : Nat) : Option Char :=
  if code.isValidChar then some (Char.ofNat code) else none

/-- An escape, after its backslash; the units of a pair are read together. -/
def readEscape (text : List Char) : Option (Char × List Char) :=
  match text with
  | 'u' :: text => do
      let (unit, rest) ← readUnit text
      if 0xD800 ≤ unit ∧ unit < 0xDC00 then
        match rest with
        | '\x5c' :: 'u' :: rest => do
            let (low, rest) ← readUnit rest
            if 0xDC00 ≤ low ∧ low < 0xE000 then
              let character ← charOf?
                (0x10000 + (unit - 0xD800) * 0x400 + (low - 0xDC00))
              return (character, rest)
            else none
        | _ => none
      else
        let character ← charOf? unit
        return (character, rest)
  | letter :: rest => do
      let character ← unescape? letter
      return (character, rest)
  | [] => none

/-- The rest of a string, after its opening quote. -/
def readString : Nat -> List Char -> Option (List Char × List Char)
  | 0, _ => none
  | fuel + 1, text =>
      match text with
      | [] => none
      | '\x22' :: rest => some ([], rest)
      | '\x5c' :: text => do
          let (character, text) ← readEscape text
          let (characters, rest) ← readString fuel text
          return (character :: characters, rest)
      | character :: text =>
          if character.toNat < 0x20 then none
          else do
            let (characters, rest) ← readString fuel text
            return (character :: characters, rest)

/-! ## Numbers -/

/-- A whole number: `0`, or digits that do not begin with it. -/
def readWhole (text : List Char) : Option (List Char × List Char) :=
  match text with
  | '0' :: rest => some (['0'], rest)
  | _ =>
      match text.takeWhile Char.isDigit with
      | [] => none
      | digits => some (digits, text.dropWhile Char.isDigit)

/-- The digits after a point; a point without digits is not part of the
number. -/
def readFraction (text : List Char) : Option (List Char) × List Char :=
  match text with
  | '.' :: rest =>
      match rest.takeWhile Char.isDigit with
      | [] => (none, text)
      | digits => (some digits, rest.dropWhile Char.isDigit)
  | _ => (none, text)

/-- The digits of an exponent, and whether it is negative. -/
def readExponent (text : List Char) : Option (Bool × List Char) × List Char :=
  match text with
  | letter :: rest =>
      if letter = 'e' ∨ letter = 'E' then
        let (negative, body) :=
          match rest with
          | '-' :: body => (true, body)
          | '+' :: body => (false, body)
          | _ => (false, rest)
        match body.takeWhile Char.isDigit with
        | [] => (none, text)
        | digits => (some (negative, digits), body.dropWhile Char.isDigit)
      else (none, text)
  | [] => (none, text)

def signed (negative : Bool) (value : Int) : Int :=
  if negative then -value else value

/-- Whether there is a minus sign, and what follows it. -/
def readSign (text : List Char) : Bool × List Char :=
  match text with
  | '-' :: body => (true, body)
  | _ => (false, text)

/-- A number: an integer unless it has a fraction or an exponent. -/
def readNumber
    (floats : FloatText)
    (text : List Char) : Option (JsonScalar × List Char) := do
  let (negative, body) := readSign text
  let (whole, rest) ← readWhole body
  let (fraction, rest) := readFraction rest
  let (exponent, rest) := readExponent rest
  let digits := whole ++ fraction.getD []
  let mantissa := signed negative (Nat.ofDigitChars 10 digits 0)
  if fraction = none ∧ exponent = none then return (.int mantissa, rest)
  else
    let power : Int :=
      match exponent with
      | none => 0
      | some (negative, digits) =>
          signed negative (Nat.ofDigitChars 10 digits 0)
    let value : Rat :=
      mantissa * 10 ^ (power - ((fraction.getD []).length : Int))
    return (.float (floats.nearest value), rest)

/-! ## Trees -/

/-- Later fields, and an earlier one unless its name comes again. -/
def addField
    (fields : List (String × JsonTree))
    (field : String × JsonTree) : List (String × JsonTree) :=
  if (fields.lookup field.1).isSome then fields else fields ++ [field]

section Reader

variable (floats : FloatText)

mutual

/-- A value, at its first character. -/
def readValue : Nat -> List Char -> Option (JsonTree × List Char)
  | 0, _ => none
  | fuel + 1, text =>
      match text with
      | '\x22' :: text => do
          let (characters, rest) ← readString text.length.succ text
          return (.str (String.ofList characters), rest)
      | '\x7b' :: text =>
          match skip text with
          | '\x7d' :: rest => some (.object [], rest)
          | text => do
              let (fields, rest) ← readFields fuel text
              return (.object fields, rest)
      | '[' :: text =>
          match skip text with
          | ']' :: rest => some (.array [], rest)
          | text => do
              let (items, rest) ← readItems fuel text
              return (.array items, rest)
      | 'n' :: 'u' :: 'l' :: 'l' :: rest => some (null, rest)
      | 't' :: 'r' :: 'u' :: 'e' :: rest => some (bool true, rest)
      | 'f' :: 'a' :: 'l' :: 's' :: 'e' :: rest => some (bool false, rest)
      | text => do
          let (value, rest) ← readNumber floats text
          return (.scalar value, rest)

/-- The items of an array, at the first one. -/
def readItems : Nat -> List Char -> Option (List JsonTree × List Char)
  | 0, _ => none
  | fuel + 1, text => do
      let (item, rest) ← readValue fuel text
      match skip rest with
      | ']' :: rest => return ([item], rest)
      | ',' :: rest => do
          let (items, rest) ← readItems fuel (skip rest)
          return (item :: items, rest)
      | _ => none

/-- The fields of an object, at the first one.  The last field of a name is
kept. -/
def readFields :
    Nat -> List Char -> Option (List (String × JsonTree) × List Char)
  | 0, _ => none
  | fuel + 1, text =>
      match text with
      | '\x22' :: text => do
          let (name, rest) ← readString text.length.succ text
          match skip rest with
          | ':' :: rest => do
              let (value, rest) ← readValue fuel (skip rest)
              let field := (String.ofList name, value)
              match skip rest with
              | '\x7d' :: rest => return ([field], rest)
              | ',' :: rest => do
                  let (fields, rest) ← readFields fuel (skip rest)
                  return (addField fields field, rest)
              | _ => none
          | _ => none
      | _ => none

end

/-- `json.loads(text)`. -/
def loads (text : List Char) : Option JsonTree := do
  let (tree, rest) ← readValue floats (text.length + 1) (skip text)
  if skip rest = [] then return tree else none

end Reader

/-! ## The names of what is read -/

theorem nodup_addField
    {fields : List (String × JsonTree)}
    (nodup : (fields.map Prod.fst).Nodup)
    (field : String × JsonTree) :
    ((addField fields field).map Prod.fst).Nodup := by
  unfold addField
  split
  · exact nodup
  · next absent =>
      rw [List.map_append, List.map_singleton]
      refine nodup.append (List.nodup_singleton _) ?_
      rw [List.disjoint_singleton]
      intro listed
      have present : field.1 ∈ (object fields).names := listed
      rw [mem_names_iff, field?_object] at present
      exact absent present

theorem mem_addField
    {fields : List (String × JsonTree)} {field other : String × JsonTree}
    (member : other ∈ addField fields field) :
    other ∈ fields ∨ other = field := by
  unfold addField at member
  split at member
  · exact Or.inl member
  · rcases List.mem_append.mp member with before | last
    · exact Or.inl before
    · exact Or.inr (List.mem_singleton.mp last)

section Distinct

variable {floats : FloatText}

/-- What one step of the reader keeps: values, items and fields are distinct
when those that are read with less fuel are. -/
theorem isDistinct_of_read (fuel : Nat) :
    (∀ text tree rest, readValue floats fuel text = some (tree, rest) ->
      tree.IsDistinct) ∧
    (∀ text items rest, readItems floats fuel text = some (items, rest) ->
      ∀ item ∈ items, item.IsDistinct) ∧
    ∀ text fields rest, readFields floats fuel text = some (fields, rest) ->
      (fields.map Prod.fst).Nodup ∧ ∀ field ∈ fields, field.2.IsDistinct := by
  induction fuel with
  | zero => exact ⟨nofun, nofun, nofun⟩
  | succ fuel inductionHypothesis =>
      obtain ⟨value, items, fields⟩ := inductionHypothesis
      refine ⟨fun text tree rest read => ?_, fun text read rest equal => ?_,
        fun text read rest equal => ?_⟩
      · unfold readValue at read
        split at read
        · obtain ⟨_, -, read⟩ := Option.bind_eq_some_iff.mp read
          cases read
          exact .scalar _
        · split at read
          · cases read
            exact .object [] List.nodup_nil nofun
          · obtain ⟨⟨others, last⟩, inside, read⟩ :=
              Option.bind_eq_some_iff.mp read
            cases read
            obtain ⟨nodup, distinct⟩ := fields _ _ _ inside
            exact .object others nodup distinct
        · split at read
          · cases read
            exact .array [] nofun
          · obtain ⟨⟨others, last⟩, inside, read⟩ :=
              Option.bind_eq_some_iff.mp read
            cases read
            exact .array others (items _ _ _ inside)
        · cases read
          exact .scalar _
        · cases read
          exact .scalar _
        · cases read
          exact .scalar _
        · obtain ⟨_, -, read⟩ := Option.bind_eq_some_iff.mp read
          cases read
          exact .scalar _
      · unfold readItems at equal
        obtain ⟨⟨first, after⟩, inside, equal⟩ :=
          Option.bind_eq_some_iff.mp equal
        dsimp only at equal
        have distinct := value _ _ _ inside
        split at equal
        · cases equal
          simpa using distinct
        · obtain ⟨⟨others, last⟩, more, equal⟩ :=
            Option.bind_eq_some_iff.mp equal
          cases equal
          exact List.forall_mem_cons.mpr ⟨distinct, items _ _ _ more⟩
        · cases equal
      · unfold readFields at equal
        split at equal
        · obtain ⟨⟨name, colon⟩, -, equal⟩ := Option.bind_eq_some_iff.mp equal
          dsimp only at equal
          split at equal
          · obtain ⟨⟨first, after⟩, inside, equal⟩ :=
              Option.bind_eq_some_iff.mp equal
            dsimp only at equal
            have distinct := value _ _ _ inside
            split at equal
            · cases equal
              exact ⟨List.nodup_singleton _, by simpa using distinct⟩
            · obtain ⟨⟨others, last⟩, more, equal⟩ :=
                Option.bind_eq_some_iff.mp equal
              cases equal
              obtain ⟨nodup, below⟩ := fields _ _ _ more
              refine ⟨nodup_addField nodup _, fun field member => ?_⟩
              rcases mem_addField member with before | rfl
              · exact below field before
              · exact distinct
            · cases equal
          · cases equal
        · cases equal

/-- The fields of every object that is read have different names. -/
theorem isDistinct_of_loads
    {text : List Char} {tree : JsonTree}
    (read : loads floats text = some tree) : tree.IsDistinct := by
  obtain ⟨⟨value, after⟩, inside, read⟩ := Option.bind_eq_some_iff.mp read
  dsimp only at read
  split at read
  · cases read
    exact (isDistinct_of_read _).1 _ _ _ inside
  · cases read

theorem nodup_of_loads
    {text : List Char} {fields : List (String × JsonTree)}
    (read : loads floats text = some (.object fields)) :
    (fields.map Prod.fst).Nodup := by
  cases isDistinct_of_loads read with
  | object _ nodup _ => exact nodup

end Distinct

end JsonTree

/-! ## Bytes -/

open Words

/-- `text.encode("utf-8")`. -/
def encodeUtf8 (text : List Char) : List Byte :=
  text.flatMap fun character =>
    (String.utf8EncodeChar character).map UInt8.toBitVec

/-- `raw.decode("utf-8")`. -/
def decodeUtf8 (bytes : List Byte) : Option (List Char) :=
  (bytes.map UInt8.ofBitVec).toByteArray.utf8Decode?.map Array.toList

@[simp] theorem decodeUtf8_encodeUtf8 (text : List Char) :
    decodeUtf8 (encodeUtf8 text) = some text := by
  have bytes : (encodeUtf8 text).map UInt8.ofBitVec =
      text.flatMap String.utf8EncodeChar := by
    rw [encodeUtf8, List.map_flatMap]
    refine List.flatMap_congr fun character _ => ?_
    rw [List.map_map]
    exact List.map_id _
  have array : (text.flatMap String.utf8EncodeChar).toByteArray =
      text.utf8Encode := rfl
  rw [decodeUtf8, bytes, array, List.utf8Decode?_utf8Encode]
  simp

theorem encodeUtf8_injective : Function.Injective encodeUtf8 :=
  fun first second equal => Option.some.inj <| by
    rw [← decodeUtf8_encodeUtf8 first, equal, decodeUtf8_encodeUtf8]

theorem length_le_encodeUtf8 (text : List Char) :
    text.length ≤ (encodeUtf8 text).length := by
  induction text with
  | nil => exact le_rfl
  | cons character text inductionHypothesis =>
      have positive := character.utf8Size_pos
      rw [encodeUtf8, List.flatMap_cons, List.length_append, List.length_map,
        String.length_utf8EncodeChar, List.length_cons]
      rw [encodeUtf8] at inductionHypothesis
      omega

/-- No character takes more than four bytes. -/
theorem length_encodeUtf8_le (text : List Char) :
    (encodeUtf8 text).length ≤ 4 * text.length := by
  induction text with
  | nil => exact le_rfl
  | cons character text inductionHypothesis =>
      have small := character.utf8Size_le_four
      rw [encodeUtf8, List.flatMap_cons, List.length_append, List.length_map,
        String.length_utf8EncodeChar, List.length_cons]
      rw [encodeUtf8] at inductionHypothesis
      omega

end CodingLlm
