import Mathlib.Data.List.Infix
import Mathlib.Data.List.TakeWhile

/-!
# Words and lines of a text

The words of a text between runs of blank characters, the lines of a text under
the three line endings, and how both behave when texts are put together.
-/

namespace CodingLlm
namespace TextLines

/-! ## Words -/

section Words

variable {α : Type*} (space : α -> Bool)

/-- The maximal runs without a blank. -/
def words (text : List α) : List (List α) :=
  (text.splitOnP space).filter fun word => !word.isEmpty

variable {space}

@[simp] theorem words_nil : words space [] = [] := by
  simp [words]

/-- A blank separates what stands before it from what stands after it. -/
theorem words_append_cons
    {blank : α}
    (isBlank : space blank = true)
    (before after : List α) :
    words space (before ++ blank :: after) =
      words space before ++ words space after := by
  unfold words
  rw [List.splitOnP_append_cons before after isBlank, List.filter_append]

theorem words_cons
    {blank : α}
    (isBlank : space blank = true)
    (text : List α) :
    words space (blank :: text) = words space text := by
  simpa using words_append_cons isBlank [] text

theorem words_append_of_blank
    {blanks : List α}
    (areBlank : ∀ blank ∈ blanks, space blank = true)
    (text : List α) :
    words space (blanks ++ text) = words space text := by
  induction blanks with
  | nil => rfl
  | cons blank blanks inductionHypothesis =>
      rw [List.cons_append, words_cons (areBlank blank (by simp))]
      apply inductionHypothesis
      intro other member
      exact areBlank other (by simp [member])

theorem words_of_blank
    {blanks : List α}
    (areBlank : ∀ blank ∈ blanks, space blank = true) :
    words space blanks = [] := by
  simpa using words_append_of_blank areBlank []

/-- A word is not empty and has no blank. -/
structure IsWord (space : α -> Bool) (word : List α) : Prop where
  filled : word ≠ []
  solid : ∀ item ∈ word, space item = false

theorem words_of_isWord {word : List α} (isWord : IsWord space word) :
    words space word = [word] := by
  unfold words
  rw [List.splitOnP_eq_singleton isWord.solid]
  simp [isWord.filled]

/-- Nothing, or a blank first. -/
def Breaks (space : α -> Bool) (text : List α) : Prop :=
  ∀ first, text.head? = some first -> space first = true

theorem breaks_nil : Breaks space ([] : List α) := by
  simp [Breaks]

theorem breaks_cons_iff {first : α} {rest : List α} :
    Breaks space (first :: rest) ↔ space first = true := by
  simp [Breaks]

theorem words_append_of_breaks
    {word rest : List α}
    (isWord : IsWord space word)
    (breaks : Breaks space rest) :
    words space (word ++ rest) = word :: words space rest := by
  cases rest with
  | nil => simpa using words_of_isWord isWord
  | cons blank rest =>
      have isBlank := breaks_cons_iff.mp breaks
      rw [words_append_cons isBlank, words_of_isWord isWord, words_cons isBlank]
      rfl

/-- A text is blank, or blanks come first and then a word. -/
theorem blank_or_exists_word (space : α -> Bool) (text : List α) :
    (∀ item ∈ text, space item = true) ∨
      ∃ blanks word rest, text = blanks ++ (word ++ rest) ∧
        (∀ blank ∈ blanks, space blank = true) ∧ IsWord space word ∧
        Breaks space rest := by
  induction text with
  | nil => simp
  | cons first text inductionHypothesis =>
      cases isBlank : space first with
      | true =>
          rcases inductionHypothesis with
            allBlank | ⟨blanks, word, rest, rfl, areBlank, shape⟩
          · left
            simpa [isBlank] using allBlank
          · right
            refine ⟨first :: blanks, word, rest, rfl, ?_, shape⟩
            simpa [isBlank] using areBlank
      | false =>
          right
          refine ⟨[], first :: text.takeWhile fun item => !space item,
            text.dropWhile fun item => !space item, ?_, by simp, ⟨by simp, ?_⟩,
            ?_⟩
          · simp [List.takeWhile_append_dropWhile]
          · intro item member
            rcases List.mem_cons.mp member with rfl | later
            · exact isBlank
            · simpa using List.mem_takeWhile_imp later
          · intro next found
            have stopped := List.head?_dropWhile_not
              (fun item => !space item) text
            rw [found] at stopped
            simpa using stopped

theorem exists_of_words_eq_cons
    {text word : List α}
    {others : List (List α)}
    (same : words space text = word :: others) :
    ∃ blanks rest, text = blanks ++ (word ++ rest) ∧
      (∀ blank ∈ blanks, space blank = true) ∧ IsWord space word ∧
      Breaks space rest ∧ words space rest = others := by
  rcases blank_or_exists_word space text with
    allBlank | ⟨blanks, found, rest, rfl, areBlank, isWord, breaks⟩
  · rw [words_of_blank allBlank] at same
    cases same
  · rw [words_append_of_blank areBlank, words_append_of_breaks isWord breaks,
      List.cons.injEq] at same
    obtain ⟨rfl, rfl⟩ := same
    exact ⟨blanks, rest, rfl, areBlank, isWord, breaks, rfl⟩

theorem words_eq_cons_iff
    {text word : List α}
    {others : List (List α)} :
    words space text = word :: others ↔
      ∃ blanks rest, text = blanks ++ (word ++ rest) ∧
        (∀ blank ∈ blanks, space blank = true) ∧ IsWord space word ∧
        Breaks space rest ∧ words space rest = others := by
  constructor
  · exact exists_of_words_eq_cons
  · rintro ⟨blanks, rest, rfl, areBlank, isWord, breaks, rfl⟩
    rw [words_append_of_blank areBlank, words_append_of_breaks isWord breaks]

theorem breaks_append
    {blanks : List α}
    (areBlank : ∀ blank ∈ blanks, space blank = true)
    (filled : blanks ≠ [])
    (text : List α) :
    Breaks space (blanks ++ text) := by
  obtain ⟨blank, others, rfl⟩ := List.exists_cons_of_ne_nil filled
  exact breaks_cons_iff.mpr (areBlank blank (by simp))

theorem words_eq_nil_iff {text : List α} :
    words space text = [] ↔ ∀ item ∈ text, space item = true := by
  constructor
  · intro none
    rcases blank_or_exists_word space text with
      allBlank | ⟨blanks, found, rest, rfl, areBlank, isWord, breaks⟩
    · exact allBlank
    · rw [words_append_of_blank areBlank,
        words_append_of_breaks isWord breaks] at none
      cases none
  · exact words_of_blank

/-- Up to a word, a text has the words before it, whatever follows. -/
theorem exists_of_words_eq_append
    {text : List α}
    {front others : List (List α)}
    {word : List α}
    (same : words space text = front ++ word :: others) :
    ∃ before after, text = before ++ (word ++ after) ∧ IsWord space word ∧
      Breaks space after ∧ words space after = others ∧
      ∀ rest, words space (before ++ rest) = front ++ words space rest := by
  induction front generalizing text with
  | nil =>
      obtain ⟨blanks, after, rfl, areBlank, isWord, breaks, same⟩ :=
        words_eq_cons_iff.mp same
      exact ⟨blanks, after, rfl, isWord, breaks, same,
        words_append_of_blank areBlank⟩
  | cons first front inductionHypothesis =>
      obtain ⟨blanks, rest, rfl, areBlank, isFirst, breaks, same⟩ :=
        words_eq_cons_iff.mp same
      obtain ⟨before, after, rfl, isWord, afterBreaks, same, frame⟩ :=
        inductionHypothesis same
      refine ⟨blanks ++ (first ++ before), after, by simp, isWord, afterBreaks,
        same, ?_⟩
      intro rest
      have beforeBreaks : Breaks space (before ++ rest) := by
        cases before with
        | cons blank before =>
            exact breaks_cons_iff.mpr (breaks blank rfl)
        | nil =>
            obtain ⟨solid, others, rfl⟩ :=
              List.exists_cons_of_ne_nil isWord.filled
            have isBlank : space solid = true := breaks solid rfl
            rw [isWord.solid solid (by simp)] at isBlank
            cases isBlank
      rw [List.append_assoc, List.append_assoc, words_append_of_blank areBlank,
        words_append_of_breaks isFirst beforeBreaks, frame]
      rfl

/-- A text that goes on without a blank continues its last word. -/
theorem exists_words_append_cons
    {front : List α}
    {first : α}
    (frontSolid : ∀ item ∈ front, space item = false)
    (firstSolid : space first = false)
    (rest : List α) :
    ∃ more others,
      words space (front ++ first :: rest) =
        (front ++ first :: more) :: others := by
  let solid (item : α) : Bool := !space item
  have isWord : IsWord space (front ++ first :: rest.takeWhile solid) := by
    refine ⟨by simp, ?_⟩
    intro item member
    rcases List.mem_append.mp member with early | late
    · exact frontSolid item early
    · rcases List.mem_cons.mp late with rfl | later
      · exact firstSolid
      · simpa [solid] using List.mem_takeWhile_imp later
  have breaks : Breaks space (rest.dropWhile solid) := by
    intro next found
    have stopped := List.head?_dropWhile_not solid rest
    rw [found] at stopped
    simpa [solid] using stopped
  refine ⟨rest.takeWhile solid, words space (rest.dropWhile solid), ?_⟩
  rw [← words_append_of_breaks isWord breaks, List.append_assoc,
    List.cons_append, List.takeWhile_append_dropWhile]

/-- What comes before the first separator is determined by the text. -/
theorem eq_of_append_separator
    [DecidableEq α]
    {separator : α}
    {left right leftRest rightRest : List α}
    (leftFree : separator ∉ left)
    (rightFree : separator ∉ right)
    (same : left ++ separator :: leftRest = right ++ separator :: rightRest) :
    left = right := by
  have taken (text rest : List α) (free : separator ∉ text) :
      (text ++ separator :: rest).takeWhile (fun item => item != separator) =
        text := by
    rw [List.takeWhile_append_of_pos]
    · simp
    · intro item member
      rw [bne_iff_ne]
      rintro rfl
      exact free member
  rw [← taken left leftRest leftFree, same, taken right rightRest rightFree]

end Words

/-! ## Lines -/

/-- `text.replace("\r\n", "\n")`. -/
def replaceCrlf : List Char -> List Char
  | '\r' :: '\n' :: rest => '\n' :: replaceCrlf rest
  | character :: rest => character :: replaceCrlf rest
  | [] => []

/-- The text with a line feed at the end of each of its lines. -/
def lineFeeds (text : List Char) : List Char :=
  (replaceCrlf text).map fun character =>
    if character = '\r' then '\n' else character

/-- The lines of a text, whatever ends them. -/
def linesOf (text : List Char) : List (List Char) :=
  (lineFeeds text).splitOn '\n'

/-- The words of the lines that have any. -/
def wordLines (space : Char -> Bool) (text : List Char) :
    List (List (List Char)) :=
  ((linesOf text).map (words space)).filter fun line => !line.isEmpty

/-- How a line ends. -/
inductive Ending
  | lf
  | crlf
  | cr
  deriving DecidableEq

namespace Ending

/-- The characters of an ending. -/
def characters : Ending -> List Char
  | lf => ['\n']
  | crlf => ['\r', '\n']
  | cr => ['\r']

end Ending

/-- A line and how it ends. -/
structure SourceLine where
  text : List Char
  ending : Ending
  noReturn : '\r' ∉ text
  noFeed : '\n' ∉ text

/-- The text of whole lines. -/
def renderWhole (lines : List SourceLine) : List Char :=
  lines.flatMap fun line => line.text ++ line.ending.characters

/-- The text of lines, the last one without its ending. -/
def render : List SourceLine -> List Char
  | [] => []
  | [line] => line.text
  | line :: next :: lines =>
      line.text ++ line.ending.characters ++ render (next :: lines)

theorem render_append
    (lines : List SourceLine)
    {others : List SourceLine}
    (more : others ≠ []) :
    render (lines ++ others) = renderWhole lines ++ render others := by
  induction lines with
  | nil => rfl
  | cons line lines inductionHypothesis =>
      obtain ⟨next, rest, shape⟩ :
          ∃ next rest, lines ++ others = next :: rest :=
        List.exists_cons_of_ne_nil (by simp [more])
      rw [List.cons_append, shape, render, ← shape, inductionHypothesis]
      simp [renderWhole]

theorem replaceCrlf_append
    {text : List Char}
    (noReturn : '\r' ∉ text)
    (rest : List Char) :
    replaceCrlf (text ++ rest) = text ++ replaceCrlf rest := by
  induction text with
  | nil => rfl
  | cons first text inductionHypothesis =>
      rw [List.mem_cons, not_or] at noReturn
      rw [List.cons_append, replaceCrlf, inductionHypothesis noReturn.2]
      · rfl
      · intro others isReturn
        exact absurd isReturn.symm noReturn.1

theorem lineFeeds_append
    {text : List Char}
    (noReturn : '\r' ∉ text)
    (rest : List Char) :
    lineFeeds (text ++ rest) = text ++ lineFeeds rest := by
  have kept : text.map (fun character =>
      if character = '\r' then '\n' else character) = text := by
    conv_rhs => rw [← List.map_id text]
    apply List.map_congr_left
    intro character member
    have : character ≠ '\r' := by
      rintro rfl
      exact noReturn member
    simp [this]
  unfold lineFeeds
  rw [replaceCrlf_append noReturn, List.map_append, kept]

/-- A line ends where its ending stands; a carriage return that an empty line
follows may take the line feed of that line. -/
theorem linesOf_append
    (line : SourceLine)
    (rest : List Char) :
    linesOf (line.text ++ (line.ending.characters ++ rest)) =
        line.text :: linesOf rest ∨
      ∃ others, linesOf rest = [] :: others ∧
        linesOf (line.text ++ (line.ending.characters ++ rest)) =
          line.text :: others := by
  have split (others : List Char) :
      (line.text ++ '\n' :: others).splitOn '\n' =
        line.text :: others.splitOn '\n' :=
    List.splitOn_append_cons_self_of_not_mem line.noFeed others
  unfold linesOf
  rw [lineFeeds_append line.noReturn]
  cases line.ending with
  | lf =>
      left
      rw [← split]
      rfl
  | crlf =>
      left
      rw [← split]
      rfl
  | cr =>
      by_cases next : ∃ others, rest = '\n' :: others
      · obtain ⟨others, rfl⟩ := next
        right
        refine ⟨(lineFeeds others).splitOn '\n', ?_, ?_⟩
        · exact List.splitOn_append_cons_self_of_not_mem List.not_mem_nil
            (lineFeeds others)
        · rw [← split]
          rfl
      · left
        rw [← split]
        have : replaceCrlf ('\r' :: rest) = '\r' :: replaceCrlf rest := by
          rw [replaceCrlf]
          intro others _ isFeed
          exact next ⟨others, isFeed⟩
        simp [lineFeeds, Ending.characters, this]

theorem linesOf_line (line : SourceLine) : linesOf line.text = [line.text] := by
  have := lineFeeds_append line.noReturn []
  rw [List.append_nil] at this
  rw [linesOf, this]
  simpa [lineFeeds, replaceCrlf] using List.splitOn_eq_singleton line.noFeed

section Rendered

variable {space : Char -> Bool}

/-- The words of the lines that have any. -/
def lineWords (space : Char -> Bool) (lines : List SourceLine) :
    List (List (List Char)) :=
  (lines.map fun line => words space line.text).filter fun line =>
    !line.isEmpty

theorem wordLines_append (line : SourceLine) (rest : List Char) :
    wordLines space (line.text ++ (line.ending.characters ++ rest)) =
      lineWords space [line] ++ wordLines space rest := by
  unfold wordLines lineWords
  rcases linesOf_append line rest with same | ⟨others, lines, same⟩
  · rw [same, ← List.filter_append]
    rfl
  · rw [same, lines]
    by_cases blank : words space line.text = [] <;> simp [blank]

/-- Rendered lines have the words that were rendered. -/
theorem wordLines_render (lines : List SourceLine) :
    wordLines space (render lines) = lineWords space lines := by
  induction lines with
  | nil =>
      have : linesOf [] = [[]] := rfl
      simp [render, wordLines, lineWords, this]
  | cons line lines inductionHypothesis =>
      cases lines with
      | nil => simp [render, wordLines, lineWords, linesOf_line]
      | cons next lines =>
          rw [render, List.append_assoc, wordLines_append, inductionHypothesis]
          simp [lineWords, ← List.filter_append]

theorem lineWords_append (lines others : List SourceLine) :
    lineWords space (lines ++ others) =
      lineWords space lines ++ lineWords space others := by
  simp [lineWords]

/-- The words of a text are those of its lines one after another. -/
theorem words_render
    (returnBlank : space '\r' = true)
    (feedBlank : space '\n' = true)
    (lines : List SourceLine) :
    words space (render lines) = (lineWords space lines).flatten := by
  have single (line : SourceLine) :
      (lineWords space [line]).flatten = words space line.text := by
    by_cases blank : words space line.text = [] <;> simp [lineWords, blank]
  induction lines with
  | nil => simp [render, lineWords]
  | cons line lines inductionHypothesis =>
      cases lines with
      | nil => exact (single line).symm
      | cons next lines =>
          have broken (rest : List Char) :
              words space (line.text ++ (line.ending.characters ++ rest)) =
                words space line.text ++ words space rest := by
            cases line.ending with
            | lf => exact words_append_cons feedBlank _ _
            | cr => exact words_append_cons returnBlank _ _
            | crlf =>
                rw [← words_cons feedBlank rest]
                exact words_append_cons returnBlank _ _
          rw [render, List.append_assoc, broken, inductionHypothesis,
            ← single line, ← List.flatten_append, ← lineWords_append]
          rfl

end Rendered

/-! ## Every text has lines -/

/-- Lines whose text begins with one more character. -/
theorem exists_render_cons
    {character : Char}
    (noReturn : character ≠ '\r')
    (noFeed : character ≠ '\n')
    (lines : List SourceLine) :
    ∃ others, render others = character :: render lines := by
  rcases lines with _ | ⟨line, lines⟩
  · refine ⟨[⟨[character], .lf, ?_, ?_⟩], rfl⟩
    · simpa using noReturn.symm
    · simpa using noFeed.symm
  · have lineNoReturn : '\r' ∉ character :: line.text := by
      simp [line.noReturn, noReturn.symm]
    have lineNoFeed : '\n' ∉ character :: line.text := by
      simp [line.noFeed, noFeed.symm]
    refine ⟨⟨character :: line.text, line.ending, lineNoReturn, lineNoFeed⟩ ::
      lines, ?_⟩
    cases lines <;> rfl

/-- Lines with an empty line before them. -/
theorem exists_render_ending (ending : Ending) (lines : List SourceLine) :
    ∃ others, render others = ending.characters ++ render lines := by
  let empty (ending : Ending) : SourceLine := ⟨[], ending, by simp, by simp⟩
  rcases lines with _ | ⟨line, lines⟩
  · exact ⟨[empty ending, empty ending], rfl⟩
  · exact ⟨empty ending :: line :: lines, rfl⟩

theorem exists_render (text : List Char) : ∃ lines, render lines = text := by
  induction text with
  | nil => exact ⟨[], rfl⟩
  | cons character text inductionHypothesis =>
      obtain ⟨lines, rfl⟩ := inductionHypothesis
      by_cases isReturn : character = '\r'
      · exact isReturn ▸ exists_render_ending .cr lines
      · by_cases isFeed : character = '\n'
        · exact isFeed ▸ exists_render_ending .lf lines
        · exact exists_render_cons isReturn isFeed lines

theorem words_eq_flatten_wordLines
    {space : Char -> Bool}
    (returnBlank : space '\r' = true)
    (feedBlank : space '\n' = true)
    (text : List Char) :
    words space text = (wordLines space text).flatten := by
  obtain ⟨lines, rfl⟩ := exists_render text
  rw [words_render returnBlank feedBlank, wordLines_render]

theorem noReturn_lineFeeds (text : List Char) : '\r' ∉ lineFeeds text := by
  intro member
  obtain ⟨character, _, same⟩ := List.mem_map.mp member
  by_cases isReturn : character = '\r'
  · rw [if_pos isReturn] at same
    exact absurd same (by decide)
  · rw [if_neg isReturn] at same
    exact isReturn same

theorem wordLines_eq_of_noReturn
    {space : Char -> Bool}
    {text : List Char}
    (noReturn : '\r' ∉ text) :
    wordLines space text =
      ((text.splitOn '\n').map (words space)).filter fun line =>
        !line.isEmpty := by
  have := lineFeeds_append noReturn []
  rw [List.append_nil] at this
  rw [wordLines, linesOf, this]
  simp [lineFeeds, replaceCrlf]

theorem wordLines_lineFeeds (space : Char -> Bool) (text : List Char) :
    wordLines space (lineFeeds text) = wordLines space text := by
  rw [wordLines_eq_of_noReturn (noReturn_lineFeeds text)]
  rfl

/-- A line feed parts the lines, where there are no carriage returns. -/
theorem wordLines_append_feed
    {space : Char -> Bool}
    {before after : List Char}
    (noReturn : '\r' ∉ before ++ '\n' :: after) :
    wordLines space (before ++ '\n' :: after) =
      wordLines space before ++ wordLines space after := by
  have free := noReturn
  rw [List.mem_append, List.mem_cons, not_or, not_or] at free
  rw [wordLines_eq_of_noReturn noReturn, wordLines_eq_of_noReturn free.1,
    wordLines_eq_of_noReturn free.2.2, List.splitOn_append_cons_self,
    List.map_append, List.filter_append]

/-- A line that has words, with the lines before and after it. -/
theorem exists_of_lineWords_eq_append
    {space : Char -> Bool}
    {lines : List SourceLine}
    {front others : List (List (List Char))}
    {line : List (List Char)}
    (same : lineWords space lines = front ++ line :: others) :
    ∃ before source after, lines = before ++ source :: after ∧
      words space source.text = line ∧ line ≠ [] ∧
      lineWords space after = others := by
  rw [lineWords, List.filter_eq_append_iff] at same
  obtain ⟨early, late, split, _, same⟩ := same
  obtain ⟨blank, rest, rfl, _, filled, rfl⟩ := List.filter_eq_cons_iff.mp same
  obtain ⟨before, middle, rfl, _, same⟩ := List.map_eq_append_iff.mp split
  obtain ⟨skipped, last, rfl, _, same⟩ := List.map_eq_append_iff.mp same
  obtain ⟨source, after, rfl, rfl, rfl⟩ := List.map_eq_cons_iff.mp same
  refine ⟨before ++ skipped, source, after, by simp, rfl, ?_, rfl⟩
  simpa using filled

/-- Every carriage return stands before a line feed. -/
def NoLoneReturn (text : List Char) : Prop := '\r' ∉ replaceCrlf text

theorem noLoneReturn_cons
    {character : Char}
    {text : List Char}
    (paired : NoLoneReturn (character :: text)) :
    NoLoneReturn text ∧
      (character = '\r' -> ∃ rest, text = '\n' :: rest) := by
  unfold NoLoneReturn at *
  by_cases isPair : ∃ rest, character = '\r' ∧ text = '\n' :: rest
  · obtain ⟨rest, rfl, rfl⟩ := isPair
    have feed : replaceCrlf ('\n' :: rest) = '\n' :: replaceCrlf rest := by
      rw [replaceCrlf]
      intro others isReturn
      exact absurd isReturn (by decide)
    rw [replaceCrlf] at paired
    rw [feed]
    exact ⟨paired, fun _ => ⟨rest, rfl⟩⟩
  · rw [replaceCrlf, List.mem_cons, not_or] at paired
    · exact ⟨paired.2, fun isReturn => absurd isReturn.symm paired.1⟩
    · intro rest isReturn isFeed
      exact isPair ⟨rest, isReturn, isFeed⟩

theorem noLoneReturn_append
    {text rest : List Char}
    (paired : NoLoneReturn (text ++ rest)) :
    NoLoneReturn rest := by
  induction text with
  | nil => exact paired
  | cons character text inductionHypothesis =>
      exact inductionHypothesis (noLoneReturn_cons paired).1

end TextLines
end CodingLlm
