import CodingLlm.Scripts.BenchmarkGuard

/-!
# Names that `FUNCTION_RE` finds

A definition is matched where the words `def` and a name, perhaps after `async`,
come before the first opening bracket; so whether a text begins with one
depends on its words only, and every line after a line feed that begins with
one has its name among those that are found.
-/

namespace CodingLlm
namespace BenchmarkGuard

open TextLines

variable {functions : TextFunctions}

/-! ## Characters -/

/-- An ASCII letter or digit is no blank and no character beyond ASCII. -/
theorem bounds_of_isAlphanum
    {character : Char}
    (letter : character.isAlphanum = true) :
    48 ≤ character.toNat ∧ character.toNat ≤ 122 := by
  have within {low high : Char}
      (inside : low.val ≤ character.val ∧ character.val ≤ high.val) :
      low.toNat ≤ character.toNat ∧ character.toNat ≤ high.toNat := inside
  have both {first second : Prop} [Decidable first] [Decidable second]
      (holds : (decide first && decide second) = true) : first ∧ second := by
    simpa using holds
  rcases Bool.or_eq_true_iff.mp letter with alphabetic | digit
  · rcases Bool.or_eq_true_iff.mp alphabetic with upper | lower
    · have bounds : 'A'.toNat ≤ _ ∧ _ ≤ 'Z'.toNat :=
        within (of_decide_eq_true upper)
      exact ⟨le_trans (by decide) bounds.1, le_trans bounds.2 (by decide)⟩
    · have bounds : 'a'.toNat ≤ _ ∧ _ ≤ 'z'.toNat := within (both lower)
      exact ⟨le_trans (by decide) bounds.1, le_trans bounds.2 (by decide)⟩
  · have bounds : '0'.toNat ≤ _ ∧ _ ≤ '9'.toNat := within (both digit)
    exact ⟨bounds.1, le_trans bounds.2 (by decide)⟩

theorem pythonSpace_of_isWordCharacter
    {character : Char}
    (isWord : isWordCharacter functions character = true) :
    pythonSpace character = false := by
  unfold isWordCharacter at isWord
  rw [Bool.or_eq_true, Bool.or_eq_true, Bool.and_eq_true, Bool.and_eq_true]
    at isWord
  rcases isWord with (letter | score) | beyond
  · have bounds := bounds_of_isAlphanum letter
    simp only [pythonSpace, Bool.or_eq_false_iff, Bool.and_eq_false_iff,
      decide_eq_false_iff_not]
    omega
  · rw [eq_of_beq score]
    rfl
  · simpa using beyond.1.2

theorem isWordCharacter_bracket :
    isWordCharacter functions '(' = false := by
  have letter : Char.isAlphanum '(' = false := by decide
  simp [isWordCharacter, letter]

/-! ## One definition -/

/-- A name that `[A-Za-z_]\w*` matches. -/
structure IsIdentifier
    (functions : TextFunctions)
    (name : List Char) : Prop where
  start : ∃ first, name.head? = some first ∧ isNameStart first = true
  word : ∀ character ∈ name, isWordCharacter functions character = true

theorem IsIdentifier.isWord
    {name : List Char}
    (identifier : IsIdentifier functions name) :
    IsWord pythonSpace name where
  filled := by
    rintro rfl
    obtain ⟨first, found, _⟩ := identifier.start
    cases found
  solid := fun character member =>
    pythonSpace_of_isWordCharacter (identifier.word character member)

/-- The words that come before the name. -/
def leads : List (List (List Char)) :=
  [["def".toList], ["async".toList, "def".toList]]

/-- What `FUNCTION_RE` matches, without the opening bracket. -/
structure Heading
    (functions : TextFunctions)
    (heading name : List Char) : Prop where
  words : ∃ lead ∈ leads, words pythonSpace heading = lead ++ [name]
  identifier : IsIdentifier functions name

theorem literal_eq_some_iff {expected text rest : List Char} :
    literal expected text = some rest ↔ text = expected ++ rest := by
  induction expected generalizing text with
  | nil => simp [literal]
  | cons first expected inductionHypothesis =>
      cases text with
      | nil => simp [literal]
      | cons character text =>
          by_cases same : character = first
          · simp [literal, same, inductionHypothesis]
          · simp [literal, same]

theorem exists_of_spaces
    {text rest : List Char}
    (matched : spaces text = some rest) :
    ∃ blanks, text = blanks ++ rest ∧ blanks ≠ [] ∧
      ∀ blank ∈ blanks, pythonSpace blank = true := by
  cases text with
  | nil => cases matched
  | cons character text =>
      cases isBlank : pythonSpace character with
      | false => simp [spaces, isBlank] at matched
      | true =>
          simp only [spaces, isBlank, if_true, Option.some.injEq] at matched
          refine ⟨character :: text.takeWhile pythonSpace, ?_, by simp, ?_⟩
          · rw [← matched, List.cons_append, List.takeWhile_append_dropWhile]
          · intro blank member
            rcases List.mem_cons.mp member with rfl | later
            · exact isBlank
            · exact List.mem_takeWhile_imp later

theorem dropWhile_append_of_blank
    {blanks : List Char}
    (areBlank : ∀ blank ∈ blanks, pythonSpace blank = true)
    {first : Char}
    (solid : pythonSpace first = false)
    (rest : List Char) :
    (blanks ++ first :: rest).dropWhile pythonSpace = first :: rest := by
  rw [List.dropWhile_append_of_pos areBlank]
  simp [solid]

theorem spaces_of_blank
    {blanks : List Char}
    (areBlank : ∀ blank ∈ blanks, pythonSpace blank = true)
    (filled : blanks ≠ [])
    {first : Char}
    (solid : pythonSpace first = false)
    (rest : List Char) :
    spaces (blanks ++ first :: rest) = some (first :: rest) := by
  obtain ⟨blank, others, rfl⟩ := List.exists_cons_of_ne_nil filled
  rw [List.cons_append, spaces, if_pos (areBlank blank (by simp)),
    dropWhile_append_of_blank _ solid]
  intro other member
  exact areBlank other (by simp [member])

theorem isWord_of_all
    {word : List Char}
    (filled : word ≠ [])
    (solid : (word.all fun character => !pythonSpace character) = true) :
    IsWord pythonSpace word where
  filled := filled
  solid := by simpa using solid

theorem isWord_def : IsWord pythonSpace "def".toList :=
  isWord_of_all (by decide) (by decide)

theorem isWord_async : IsWord pythonSpace "async".toList :=
  isWord_of_all (by decide) (by decide)

/-- What is left after `async` begins as the text did, or after that word. -/
theorem exists_of_matchAsync (text : List Char) :
    matchAsync text = text ∨
      ∃ gap, text = "async".toList ++ (gap ++ matchAsync text) ∧ gap ≠ [] ∧
        ∀ blank ∈ gap, pythonSpace blank = true := by
  unfold matchAsync
  cases matched : literal "async".toList text >>= spaces with
  | none => simp
  | some rest =>
      right
      obtain ⟨after, found, spaced⟩ := Option.bind_eq_some_iff.mp matched
      obtain ⟨gap, rfl, filled, areBlank⟩ := exists_of_spaces spaced
      rw [literal_eq_some_iff] at found
      exact ⟨gap, found, filled, areBlank⟩

theorem words_def
    {gap name tail : List Char}
    (gapFilled : gap ≠ [])
    (gapBlank : ∀ blank ∈ gap, pythonSpace blank = true)
    (identifier : IsIdentifier functions name)
    (tailBlank : ∀ blank ∈ tail, pythonSpace blank = true) :
    words pythonSpace ("def".toList ++ (gap ++ (name ++ tail))) =
      ["def".toList, name] := by
  have tailBreaks : Breaks pythonSpace tail := by
    cases tail with
    | nil => exact breaks_nil
    | cons blank tail => exact breaks_cons_iff.mpr (tailBlank blank (by simp))
  rw [words_append_of_breaks isWord_def (breaks_append gapBlank gapFilled _),
    words_append_of_blank gapBlank,
    words_append_of_breaks identifier.isWord tailBreaks,
    words_of_blank tailBlank]

theorem exists_of_matchDefinition
    {text name rest : List Char}
    (matched : matchDefinition functions text = some (name, rest)) :
    ∃ heading, text = heading ++ '(' :: rest ∧
      Heading functions heading name := by
  simp only [matchDefinition, Option.bind_eq_bind, Option.bind_eq_some_iff,
    Option.pure_def, Option.some.injEq, Prod.mk.injEq] at matched
  obtain ⟨named, ⟨afterDef, foundDef, spaced⟩, first, isStart, after, bracket,
    sameName, rfl⟩ := matched
  obtain ⟨gap, rfl, gapFilled, gapBlank⟩ := exists_of_spaces spaced
  rw [literal_eq_some_iff] at foundDef bracket
  have isIdentifier : IsIdentifier functions name := by
    rw [← sameName]
    rw [Option.filter_eq_some_iff] at isStart
    exact ⟨⟨first, isStart⟩, fun character member =>
      List.mem_takeWhile_imp member⟩
  obtain ⟨tail, tailBlank, named⟩ : ∃ tail,
      (∀ blank ∈ tail, pythonSpace blank = true) ∧
        named = name ++ (tail ++ '(' :: after) := by
    refine ⟨(named.dropWhile (isWordCharacter functions)).takeWhile pythonSpace,
      fun blank member => List.mem_takeWhile_imp member, ?_⟩
    calc named
        = name ++ named.dropWhile (isWordCharacter functions) := by
          rw [← sameName, List.takeWhile_append_dropWhile]
      _ = _ := by
          rw [← List.singleton_append (l := after), ← bracket,
            List.takeWhile_append_dropWhile]
  have whole : text =
      text.takeWhile pythonSpace ++ text.dropWhile pythonSpace :=
    (List.takeWhile_append_dropWhile).symm
  have areBlank : ∀ blank ∈ text.takeWhile pythonSpace,
      pythonSpace blank = true :=
    fun blank member => List.mem_takeWhile_imp member
  have core := words_def gapFilled gapBlank isIdentifier tailBlank
  rcases exists_of_matchAsync (text.dropWhile pythonSpace) with
    same | ⟨asyncGap, split, asyncFilled, asyncBlank⟩
  · refine ⟨text.takeWhile pythonSpace ++
      ("def".toList ++ (gap ++ (name ++ tail))), ?_, ?_, isIdentifier⟩
    · rw [foundDef, named] at same
      conv_lhs => rw [whole, ← same]
      simp
    · refine ⟨["def".toList], by simp [leads], ?_⟩
      rw [words_append_of_blank areBlank, core]
      rfl
  · refine ⟨text.takeWhile pythonSpace ++ ("async".toList ++ (asyncGap ++
      ("def".toList ++ (gap ++ (name ++ tail))))), ?_, ?_, isIdentifier⟩
    · rw [foundDef, named] at split
      conv_lhs => rw [whole, split]
      simp
    · refine ⟨["async".toList, "def".toList], by simp [leads], ?_⟩
      rw [words_append_of_blank areBlank, words_append_of_breaks isWord_async
        (breaks_append asyncBlank asyncFilled _),
        words_append_of_blank asyncBlank, core]
      rfl

/-- The words of a heading and the blanks between them. -/
theorem Heading.exists_blanks
    {heading name : List Char}
    (isHeading : Heading functions heading name) :
    ∃ start gap tail : List Char,
      heading = start ++ ("def".toList ++ (gap ++ (name ++ tail))) ∧
      gap ≠ [] ∧ (∀ blank ∈ gap, pythonSpace blank = true) ∧
      (∀ blank ∈ tail, pythonSpace blank = true) ∧
      ((∀ blank ∈ start, pythonSpace blank = true) ∨
        ∃ before after, start = before ++ ("async".toList ++ after) ∧
          (∀ blank ∈ before, pythonSpace blank = true) ∧ after ≠ [] ∧
          ∀ blank ∈ after, pythonSpace blank = true) := by
  have filled {gap name rest : List Char}
      (isWord : IsWord pythonSpace name)
      (breaks : Breaks pythonSpace (gap ++ (name ++ rest))) : gap ≠ [] := by
    rintro rfl
    obtain ⟨first, others, rfl⟩ := List.exists_cons_of_ne_nil isWord.filled
    have isBlank : pythonSpace first = true := breaks first rfl
    rw [isWord.solid first (by simp)] at isBlank
    cases isBlank
  have definition {text : List Char}
      (same : TextLines.words pythonSpace text = ["def".toList, name]) :
      ∃ start gap tail : List Char,
        text = start ++ ("def".toList ++ (gap ++ (name ++ tail))) ∧
        (∀ blank ∈ start, pythonSpace blank = true) ∧ gap ≠ [] ∧
        (∀ blank ∈ gap, pythonSpace blank = true) ∧
        (∀ blank ∈ tail, pythonSpace blank = true) := by
    obtain ⟨start, rest, rfl, startBlank, _, breaks, same⟩ :=
      words_eq_cons_iff.mp same
    obtain ⟨gap, tail, rfl, gapBlank, isWord, _, same⟩ :=
      words_eq_cons_iff.mp same
    exact ⟨start, gap, tail, rfl, startBlank, filled isWord breaks, gapBlank,
      words_eq_nil_iff.mp same⟩
  obtain ⟨lead, member, same⟩ := isHeading.words
  simp only [leads, List.mem_cons, List.not_mem_nil, or_false] at member
  rcases member with rfl | rfl
  · obtain ⟨start, gap, tail, rfl, startBlank, gapFilled, gapBlank,
      tailBlank⟩ := definition same
    exact ⟨start, gap, tail, rfl, gapFilled, gapBlank, tailBlank,
      .inl startBlank⟩
  · obtain ⟨before, rest, rfl, beforeBlank, _, breaks, same⟩ :=
      words_eq_cons_iff.mp same
    obtain ⟨after, gap, tail, rfl, afterBlank, gapFilled, gapBlank,
      tailBlank⟩ := definition same
    refine ⟨before ++ ("async".toList ++ after), gap, tail, ?_, gapFilled,
      gapBlank, tailBlank, .inr ⟨before, after, rfl, beforeBlank,
        filled isWord_def breaks, afterBlank⟩⟩
    simp

/-- A name ends where blanks or the bracket begin. -/
theorem word_runs_to_bracket
    {name tail : List Char}
    (word : ∀ character ∈ name, isWordCharacter functions character = true)
    (tailBlank : ∀ blank ∈ tail, pythonSpace blank = true)
    (rest : List Char) :
    (name ++ (tail ++ '(' :: rest)).takeWhile (isWordCharacter functions) =
        name ∧
      (name ++ (tail ++ '(' :: rest)).dropWhile (isWordCharacter functions) =
        tail ++ '(' :: rest := by
  rw [List.takeWhile_append_of_pos word, List.dropWhile_append_of_pos word]
  cases tail with
  | nil => simp [isWordCharacter_bracket]
  | cons blank tail =>
      have : isWordCharacter functions blank ≠ true := by
        intro isWord
        have solid := pythonSpace_of_isWordCharacter isWord
        rw [tailBlank blank (by simp)] at solid
        cases solid
      simp [this]

theorem matchAsync_of_async
    {gap text : List Char}
    {first : Char}
    (filled : gap ≠ [])
    (areBlank : ∀ blank ∈ gap, pythonSpace blank = true)
    (solid : pythonSpace first = false) :
    matchAsync ("async".toList ++ (gap ++ first :: text)) = first :: text := by
  rw [matchAsync, literal_eq_some_iff.mpr rfl]
  exact congrArg (Option.getD · _) (spaces_of_blank areBlank filled solid text)

theorem matchDefinition_of_heading
    {heading name : List Char}
    (isHeading : Heading functions heading name)
    (rest : List Char) :
    matchDefinition functions (heading ++ '(' :: rest) = some (name, rest) := by
  obtain ⟨start, gap, tail, rfl, gapFilled, gapBlank, tailBlank, before⟩ :=
    isHeading.exists_blanks
  obtain ⟨first, isFirst, isStart⟩ := isHeading.identifier.start
  obtain ⟨others, rfl⟩ : ∃ others, name = first :: others := by
    cases name with
    | nil => cases isFirst
    | cons other others => exact ⟨others, by simp_all⟩
  have solid : pythonSpace first = false :=
    isHeading.identifier.isWord.solid first (by simp)
  obtain ⟨taken, dropped⟩ :=
    word_runs_to_bracket isHeading.identifier.word tailBlank rest
  have started (text : List Char) :
      matchAsync ((start ++ ("def".toList ++ text)).dropWhile pythonSpace) =
        "def".toList ++ text := by
    rcases before with startBlank | ⟨early, late, rfl, earlyBlank, lateFilled,
      lateBlank⟩
    · rw [show "def".toList ++ text = 'd' :: ('e' :: 'f' :: text) from rfl,
        dropWhile_append_of_blank startBlank (by decide)]
      rfl
    · rw [List.append_assoc, List.append_assoc,
        show "async".toList ++ (late ++ ("def".toList ++ text)) = 'a' ::
          ("sync".toList ++ (late ++ ("def".toList ++ text))) from rfl,
        dropWhile_append_of_blank earlyBlank (by decide)]
      exact matchAsync_of_async lateFilled lateBlank (by decide)
  have spaced := spaces_of_blank gapBlank gapFilled solid
    (others ++ (tail ++ '(' :: rest))
  have bracket : (tail ++ '(' :: rest).dropWhile pythonSpace = '(' :: rest :=
    dropWhile_append_of_blank tailBlank (by decide) rest
  have arranged : start ++ ("def".toList ++
      (gap ++ ((first :: others) ++ tail))) ++ '(' :: rest = start ++ ("def".toList ++ (gap ++ (first ::
        (others ++ (tail ++ '(' :: rest))))) := by
    simp
  rw [List.cons_append] at taken dropped
  rw [arranged]
  unfold matchDefinition
  simp only [Option.bind_eq_bind, started, literal_eq_some_iff.mpr rfl,
    Option.bind_some, spaced, taken, dropped, bracket, List.head?_cons,
    Option.filter, isStart, if_true]
  rw [literal_eq_some_iff.mpr (show '(' :: rest = ['('] ++ rest from rfl)]
  rfl

/-- A heading ends before the first opening bracket. -/
theorem Heading.noBracket
    {heading name : List Char}
    (isHeading : Heading functions heading name) :
    '(' ∉ heading := by
  obtain ⟨start, gap, tail, rfl, _, gapBlank, tailBlank, before⟩ :=
    isHeading.exists_blanks
  have noBlank {blanks : List Char}
      (areBlank : ∀ blank ∈ blanks, pythonSpace blank = true) :
      '(' ∉ blanks := by
    intro member
    exact absurd (areBlank _ member) (by decide)
  have noName : '(' ∉ name := by
    intro member
    have := isHeading.identifier.word _ member
    rw [isWordCharacter_bracket] at this
    cases this
  have noDef : '(' ∉ "def".toList := by decide
  have noAsync : '(' ∉ "async".toList := by decide
  simp only [List.mem_append, not_or]
  refine ⟨?_, noDef, noBlank gapBlank, noName, noBlank tailBlank⟩
  rcases before with startBlank | ⟨early, late, rfl, earlyBlank, _, lateBlank⟩
  · exact noBlank startBlank
  · simp only [List.mem_append, not_or]
    exact ⟨noBlank earlyBlank, noAsync, noBlank lateBlank⟩

/-! ## All definitions -/

/-- What stands before a line start; nothing before counts only at the start. -/
def StartsLine (atStart : Bool) (before : List Char) : Prop :=
  (before = [] ∧ atStart = true) ∨ before.getLast? = some '\n'

/-- A line, counted by line feeds only, begins with a definition of a name. -/
def DefinedFrom
    (functions : TextFunctions)
    (atStart : Bool)
    (text name : List Char) : Prop :=
  ∃ before heading rest, text = before ++ (heading ++ '(' :: rest) ∧
    StartsLine atStart before ∧ Heading functions heading name

theorem startsLine_cons
    {atStart : Bool}
    {character : Char}
    {before : List Char} :
    StartsLine atStart (character :: before) ↔
      StartsLine (character == '\n') before := by
  cases before with
  | nil => simp [StartsLine]
  | cons next before => simp [StartsLine, List.getLast?_cons_cons]

theorem definedFrom_cons
    {atStart : Bool}
    {character : Char}
    {text name : List Char}
    (defined : DefinedFrom functions (character == '\n') text name) :
    DefinedFrom functions atStart (character :: text) name := by
  obtain ⟨before, heading, rest, rfl, starts, isHeading⟩ := defined
  exact ⟨character :: before, heading, rest, rfl, startsLine_cons.mpr starts,
    isHeading⟩

/-- The scan goes on right after the bracket of a definition. -/
theorem findNames_taken (atStart : Bool) (taken rest : List Char) :
    findNames functions (taken.length + 1) atStart (taken ++ '(' :: rest) =
      findNames functions 0 false rest := by
  induction taken generalizing atStart with
  | nil => simp [findNames]
  | cons character taken inductionHypothesis =>
      rw [List.cons_append, List.length_cons, findNames, inductionHypothesis]

/-- A definition that begins inside another one has its name. -/
theorem Heading.name_eq
    {heading name before inner innerName : List Char}
    (isHeading : Heading functions heading name)
    (split : heading = before ++ inner)
    (starts : before.getLast? = some '\n')
    (isInner : Heading functions inner innerName) :
    innerName = name := by
  obtain ⟨lead, _, same⟩ := isHeading.words
  obtain ⟨innerLead, _, innerSame⟩ := isInner.words
  obtain ⟨front, rfl⟩ : ∃ front, before = front ++ ['\n'] :=
    List.getLast?_eq_some_iff.mp starts
  rw [split, List.append_assoc, List.singleton_append,
    words_append_cons (by decide), innerSame] at same
  have last := congrArg List.getLast? same
  simpa using last

theorem definedFrom_of_mem_findNames
    {taken : Nat}
    {atStart : Bool}
    {text name : List Char}
    (found : name ∈ findNames functions taken atStart text) :
    DefinedFrom functions atStart text name := by
  induction text generalizing taken atStart with
  | nil => cases taken <;> simp [findNames] at found
  | cons character text inductionHypothesis =>
      cases taken with
      | succ taken => exact definedFrom_cons (inductionHypothesis found)
      | zero =>
          rw [findNames] at found
          cases matched : (if atStart then
              matchDefinition functions (character :: text) else none) with
          | none =>
              rw [matched] at found
              exact definedFrom_cons (inductionHypothesis found)
          | some result =>
              obtain ⟨first, rest⟩ := result
              rw [matched] at found
              rcases List.mem_cons.mp found with rfl | later
              · cases atStart with
                | false => cases matched
                | true =>
                    obtain ⟨heading, whole, isHeading⟩ :=
                      exists_of_matchDefinition matched
                    exact ⟨[], heading, rest, whole, .inl ⟨rfl, rfl⟩, isHeading⟩
              · exact definedFrom_cons (inductionHypothesis later)

/-- Where a definition begins, when another one begins the text. -/
theorem eq_or_after_bracket
    {taken name later before heading innerName rest : List Char}
    (isTaken : Heading functions taken name)
    (isHeading : Heading functions heading innerName)
    (starts : StartsLine true before)
    (same : taken ++ '(' :: later = before ++ (heading ++ '(' :: rest)) :
    innerName = name ∨
      ∃ between, later = between ++ (heading ++ '(' :: rest) ∧
        StartsLine false between := by
  have notBracket {front : List Char} : ¬ StartsLine true (front ++ ['(']) := by
    simp [StartsLine]
  rw [List.append_cons, List.append_eq_append_iff] at same
  rcases same with ⟨between, rfl, later⟩ | ⟨inner, split, headed⟩
  · right
    refine ⟨between, later, .inr ?_⟩
    rcases starts with ⟨empty, _⟩ | ended
    · simp at empty
    · cases between with
      | nil => simp at ended
      | cons first between => simpa using ended
  · rcases List.eq_nil_or_concat inner with rfl | ⟨inner, last, rfl⟩
    · rw [List.append_nil] at split
      exact absurd (split ▸ starts) notBracket
    · rw [List.concat_eq_append, ← List.append_assoc,
        List.append_singleton_inj] at split
      obtain ⟨split, rfl⟩ := split
      rw [List.concat_eq_append, List.append_assoc, List.singleton_append]
        at headed
      have innerFree : '(' ∉ inner := by
        intro member
        apply isTaken.noBracket
        simp [split, member]
      obtain rfl : heading = inner :=
        eq_of_append_separator isHeading.noBracket innerFree headed
      left
      rcases starts with ⟨rfl, _⟩ | ended
      · have first := matchDefinition_of_heading isTaken later
        have second := matchDefinition_of_heading isHeading later
        rw [split, List.nil_append, second] at first
        simpa using first
      · exact isTaken.name_eq split ended isHeading

theorem mem_findNames_of_definedFrom
    {atStart : Bool}
    {text name : List Char}
    (defined : DefinedFrom functions atStart text name) :
    name ∈ findNames functions 0 atStart text := by
  induction size : text.length using Nat.strong_induction_on
    generalizing text atStart with
  | _ size inductionHypothesis =>
      obtain ⟨before, heading, rest, whole, starts, isHeading⟩ := defined
      cases text with
      | nil => simp at whole
      | cons character text =>
          rw [findNames]
          cases matched : (if atStart then
              matchDefinition functions (character :: text) else none) with
          | none =>
              cases before with
              | nil =>
                  have atStart : atStart = true := by
                    simpa [StartsLine] using starts
                  rw [atStart, if_pos rfl, whole, List.nil_append,
                    matchDefinition_of_heading isHeading] at matched
                  cases matched
              | cons other before =>
                  obtain ⟨rfl, rfl⟩ := List.cons.inj whole
                  exact inductionHypothesis _ (by simp [← size])
                    ⟨before, heading, rest, rfl, startsLine_cons.mp starts,
                      isHeading⟩ rfl
          | some result =>
              obtain ⟨first, later⟩ := result
              cases atStart with
              | false => cases matched
              | true =>
                  obtain ⟨taken, split, isTaken⟩ :=
                    exists_of_matchDefinition matched
                  obtain ⟨shift, rfl⟩ :
                      ∃ shift, taken = character :: shift := by
                    cases taken with
                    | nil =>
                        obtain ⟨lead, _, same⟩ := isTaken.words
                        simp at same
                    | cons other shift =>
                        exact ⟨shift, congrArg (· :: shift)
                          (List.cons.inj split).1.symm⟩
                  obtain rfl : text = shift ++ '(' :: later :=
                    (List.cons.inj split).2
                  have skipped : (shift ++ '(' :: later).length - later.length =
                      shift.length + 1 := by
                    simp
                    omega
                  simp only [skipped, findNames_taken, List.mem_cons]
                  rcases eq_or_after_bracket isTaken isHeading starts
                    (split.symm.trans whole) with same | ⟨between, rfl, starts⟩
                  · exact .inl same
                  · right
                    exact inductionHypothesis _ (by simp [← size]; omega)
                      ⟨between, heading, rest, rfl, starts, isHeading⟩ rfl

/-- The names of the definitions that begin some line. -/
theorem mem_functionNames_iff {text name : List Char} :
    name ∈ functionNames functions text ↔
      DefinedFrom functions true text name :=
  ⟨definedFrom_of_mem_findNames, mem_findNames_of_definedFrom⟩

/-! ## Definitions by words -/

/-- The words of a text that begins with a definition; the bracket stands right
after the name or begins the next word. -/
def Begins (lineWords : List (List Char)) (name : List Char) : Prop :=
  ∃ lead ∈ leads, ∃ more others,
    lineWords = lead ++ (name ++ '(' :: more) :: others ∨
      lineWords = lead ++ name :: ('(' :: more) :: others

theorem Begins.append
    {lineWords : List (List Char)}
    {name : List Char}
    (begins : Begins lineWords name)
    (rest : List (List Char)) :
    Begins (lineWords ++ rest) name := by
  obtain ⟨lead, member, more, others, same⟩ := begins
  refine ⟨lead, member, more, others ++ rest, ?_⟩
  rcases same with rfl | rfl <;> simp

theorem begins_of_heading
    {heading name : List Char}
    (isHeading : Heading functions heading name)
    (rest : List Char) :
    Begins (words pythonSpace (heading ++ '(' :: rest)) name := by
  obtain ⟨lead, member, same⟩ := isHeading.words
  obtain ⟨before, after, rfl, _, _, blank, frame⟩ :=
    exists_of_words_eq_append same
  rw [words_eq_nil_iff] at blank
  refine ⟨lead, member, ?_⟩
  rw [List.append_assoc, List.append_assoc, frame]
  cases after with
  | nil =>
      obtain ⟨more, others, glued⟩ := exists_words_append_cons
        isHeading.identifier.isWord.solid
        (show pythonSpace '(' = false by decide) rest
      rw [List.nil_append, glued]
      exact ⟨more, others, .inl rfl⟩
  | cons first after =>
      have noFront : ∀ item ∈ ([] : List Char), pythonSpace item = false := by
        simp
      obtain ⟨more, others, separate⟩ := exists_words_append_cons noFront
        (show pythonSpace '(' = false by decide) rest
      rw [words_append_of_breaks isHeading.identifier.isWord
          (breaks_append blank (by simp) _),
        words_append_of_blank blank, ← List.nil_append ('(' :: rest), separate]
      exact ⟨more, others, .inr rfl⟩

theorem exists_heading_of_begins
    {text name : List Char}
    (identifier : IsIdentifier functions name)
    (begins : Begins (words pythonSpace text) name) :
    ∃ heading rest, text = heading ++ '(' :: rest ∧
      Heading functions heading name := by
  obtain ⟨lead, member, more, others, glued | separate⟩ := begins
  · obtain ⟨before, after, rfl, _, _, _, frame⟩ :=
      exists_of_words_eq_append glued
    refine ⟨before ++ name, more ++ after, by simp, ⟨lead, member, ?_⟩,
      identifier⟩
    rw [frame, words_of_isWord identifier.isWord]
  · rw [List.append_cons] at separate
    obtain ⟨before, after, rfl, _, _, _, frame⟩ :=
      exists_of_words_eq_append separate
    refine ⟨before, more ++ after, by simp, ⟨lead, member, ?_⟩, identifier⟩
    simpa using frame []

/-! ## Definitions by lines -/

/-- Some line of the text, whatever ends the lines, begins with a definition of
a name. -/
def Defines (functions : TextFunctions) (text name : List Char) : Prop :=
  DefinedFrom functions true (lineFeeds text) name

/-- A text defines a name where its lines from some one on do. -/
theorem exists_of_defines
    {text name : List Char}
    (defines : Defines functions text name) :
    IsIdentifier functions name ∧
      ∃ front back, wordLines pythonSpace text = front ++ back ∧
        Begins back.flatten name := by
  obtain ⟨before, heading, rest, whole, starts, isHeading⟩ := defines
  refine ⟨isHeading.identifier, ?_⟩
  have begins := begins_of_heading isHeading rest
  rw [words_eq_flatten_wordLines (by decide) (by decide)] at begins
  rw [← wordLines_lineFeeds pythonSpace text]
  rcases starts with ⟨rfl, _⟩ | ended
  · refine ⟨[], _, rfl, ?_⟩
    rwa [whole]
  · obtain ⟨front, rfl⟩ := List.getLast?_eq_some_iff.mp ended
    have noReturn := noReturn_lineFeeds text
    rw [whole, List.append_assoc, List.singleton_append] at noReturn
    refine ⟨wordLines pythonSpace front, _, ?_, begins⟩
    rw [whole, List.append_assoc, List.singleton_append,
      wordLines_append_feed noReturn]

theorem startsLine_renderWhole
    {lines : List SourceLine}
    {rest : List Char}
    (paired : NoLoneReturn (renderWhole lines ++ rest))
    (noFeed : rest.head? ≠ some '\n') :
    StartsLine true (renderWhole lines) := by
  rcases List.eq_nil_or_concat lines with rfl | ⟨lines, last, rfl⟩
  · exact .inl ⟨rfl, rfl⟩
  · right
    have split : renderWhole (lines.concat last) =
        (renderWhole lines ++ last.text) ++ last.ending.characters := by
      simp [renderWhole, List.concat_eq_append]
    rw [split] at paired ⊢
    cases ending : last.ending with
    | lf => simp [Ending.characters]
    | crlf => simp [Ending.characters]
    | cr =>
        rw [ending, List.append_assoc] at paired
        obtain ⟨others, rfl⟩ :=
          (noLoneReturn_cons (noLoneReturn_append paired)).2 rfl
        exact absurd rfl noFeed

/-- Lines that define a name keep doing so among other lines, if no carriage
return ends a line alone. -/
theorem definedFrom_render
    (before after : List SourceLine)
    {lines : List SourceLine}
    {text name : List Char}
    (defines : Defines functions text name)
    (same : lineWords pythonSpace lines = wordLines pythonSpace text)
    (paired : NoLoneReturn (render (before ++ lines ++ after))) :
    DefinedFrom functions true (render (before ++ lines ++ after)) name := by
  obtain ⟨identifier, front, back, split, begins⟩ := exists_of_defines defines
  obtain ⟨line, others, rfl⟩ : ∃ line others, back = line :: others := by
    cases back with
    | cons line others => exact ⟨line, others, rfl⟩
    | nil =>
        obtain ⟨lead, _, more, others, same | same⟩ := begins <;> simp at same
  obtain ⟨early, source, late, rfl, sameLine, filled, sameLate⟩ :=
    exists_of_lineWords_eq_append (same.trans split)
  have arranged : before ++ (early ++ source :: late) ++ after =
      (before ++ early) ++ (source :: (late ++ after)) := by
    simp
  rw [arranged, render_append _ (by simp)] at paired ⊢
  have begun : Begins (words pythonSpace
      (render (source :: (late ++ after)))) name := by
    have list : lineWords pythonSpace (source :: (late ++ after)) =
        (line :: others) ++ lineWords pythonSpace after := by
      rw [← List.singleton_append, lineWords_append, lineWords_append, sameLate]
      simp [lineWords, sameLine, filled]
    rw [words_render (by decide) (by decide), list, List.flatten_append]
    exact begins.append _
  obtain ⟨heading, rest, headed, isHeading⟩ :=
    exists_heading_of_begins identifier begun
  refine ⟨renderWhole (before ++ early), heading, rest, by rw [headed],
    startsLine_renderWhole paired ?_, isHeading⟩
  have hasText : source.text ≠ [] := by
    intro empty
    rw [empty, words_nil] at sameLine
    exact filled sameLine.symm
  obtain ⟨first, characters, text⟩ :=
    List.exists_cons_of_ne_nil hasText
  have notFeed : first ≠ '\n' := by
    rintro rfl
    exact source.noFeed (by simp [text])
  cases late ++ after <;> simpa [render, text] using notFeed

/-- A text without lone carriage returns has the names it defines found. -/
theorem definedFrom_of_defines
    {text name : List Char}
    (defines : Defines functions text name)
    (paired : NoLoneReturn text) :
    DefinedFrom functions true text name := by
  obtain ⟨lines, rfl⟩ := exists_render text
  have := definedFrom_render [] [] defines
    (wordLines_render lines).symm (by simpa using paired)
  simpa using this

end BenchmarkGuard
end CodingLlm
