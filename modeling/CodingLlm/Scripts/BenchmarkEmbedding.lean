import CodingLlm.Scripts.BenchmarkNames

/-!
# Embedded benchmark programs

What `contamination_reason` reports of a content that holds a listed program, a
listed text or a listed test.  Lines are compared whatever ends them; function
names are looked for after line feeds only, so a program with one qualifying
pair escapes where carriage returns alone end the lines.
-/

namespace CodingLlm
namespace BenchmarkGuard

open TextLines

/-! ## Contents that hold a listed program -/

/-- The lines of a program stand one after another among other lines, with the
same words and any blanks, blank lines and line endings. -/
def Embeds (code content : List Char) : Prop :=
  ∃ before inserted after : List SourceLine,
    content = render (before ++ inserted ++ after) ∧
      lineWords pythonSpace inserted = wordLines pythonSpace code

/-- A content is a program up to blanks, blank lines and line endings. -/
def SameProgram (code content : List Char) : Prop :=
  ∃ lines : List SourceLine, content = render lines ∧
    lineWords pythonSpace lines = wordLines pythonSpace code

/-- A line of the content is a normalized line. -/
def ContainsLine (line content : List Char) : Prop :=
  ∃ before source after, content = render (before ++ source :: after) ∧
    [' '].intercalate (words pythonSpace source.text) = line

/-- A program has two qualifying pairs of lines that differ. -/
def HasTwoPairs (code : List Char) : Prop :=
  ∃ left ∈ qualifyingPairs (normalizedLines code),
    ∃ right ∈ qualifyingPairs (normalizedLines code), left ≠ right

/-- A program has a qualifying pair of lines and defines a function. -/
def HasPairAndFunction (functions : TextFunctions) (code : List Char) : Prop :=
  (∃ pair, pair ∈ qualifyingPairs (normalizedLines code)) ∧
    ∃ name, Defines functions code name

variable {functions : TextFunctions}

/-! ## Normalized lines -/

theorem normalizedLines_eq (text : List Char) :
    normalizedLines text =
      (wordLines pythonSpace text).map [' '].intercalate := by
  unfold normalizedLines wordLines
  rw [List.filter_map, List.map_map]
  congr 1
  apply List.filter_congr
  intro line _
  rw [Function.comp_apply, Bool.eq_iff_iff, List.any_eq_true,
    Bool.not_eq_true', List.isEmpty_eq_false_iff, ne_eq, words_eq_nil_iff]
  simp

theorem normalizedLines_render (lines : List SourceLine) :
    normalizedLines (render lines) =
      (lineWords pythonSpace lines).map [' '].intercalate := by
  rw [normalizedLines_eq, wordLines_render]

theorem normalizedLines_of_embeds
    {code content : List Char}
    (embeds : Embeds code content) :
    ∃ before after, normalizedLines content =
      before ++ normalizedLines code ++ after := by
  obtain ⟨before, inserted, after, rfl, same⟩ := embeds
  refine ⟨(lineWords pythonSpace before).map [' '].intercalate,
    (lineWords pythonSpace after).map [' '].intercalate, ?_⟩
  rw [normalizedLines_render, lineWords_append, lineWords_append, same,
    normalizedLines_eq, List.map_append, List.map_append]

theorem normalizedLines_of_same
    {code content : List Char}
    (same : SameProgram code content) :
    normalizedLines content = normalizedLines code := by
  obtain ⟨lines, rfl, same⟩ := same
  rw [normalizedLines_render, same, normalizedLines_eq]

/-- Whatever a text has in a word is no blank. -/
theorem solid_of_mem_words
    {text word : List Char}
    (member : word ∈ words pythonSpace text) :
    IsWord pythonSpace word := by
  obtain ⟨front, others, same⟩ := List.append_of_mem member
  obtain ⟨_, _, _, isWord, _⟩ := exists_of_words_eq_append same
  exact isWord

theorem notMem_intercalate
    {α : Type*}
    {item : α}
    {separator : List α}
    {parts : List (List α)}
    (noSeparator : item ∉ separator)
    (noPart : ∀ part ∈ parts, item ∉ part) :
    item ∉ separator.intercalate parts := by
  induction parts with
  | nil => simp
  | cons part parts inductionHypothesis =>
      have rest := inductionHypothesis fun other member =>
        noPart other (List.mem_cons_of_mem _ member)
      have first := noPart part (by simp)
      cases parts with
      | nil => simpa using first
      | cons next parts =>
          rw [List.intercalate_cons_cons]
          simp [first, noSeparator, rest]

theorem noFeed_of_mem_normalizedLines
    {text line : List Char}
    (member : line ∈ normalizedLines text) :
    '\n' ∉ line := by
  obtain ⟨source, _, rfl⟩ := List.mem_map.mp member
  apply notMem_intercalate (by decide)
  intro word isWord feed
  have solid := (solid_of_mem_words isWord).solid '\n' feed
  exact absurd solid (by decide)

/-! ## Pairs of lines -/

theorem mem_zip_tail_iff {α : Type*} {lines : List α} {pair : α × α} :
    pair ∈ lines.zip lines.tail ↔
      ∃ before after, lines = before ++ pair.1 :: pair.2 :: after := by
  induction lines with
  | nil => simp
  | cons first lines inductionHypothesis =>
      cases lines with
      | nil =>
          constructor
          · simp
          · rintro ⟨before, after, same⟩
            have := congrArg List.length same
            simp at this
            omega
      | cons second lines =>
          rw [List.tail_cons] at inductionHypothesis ⊢
          rw [List.zip_cons_cons, List.mem_cons, inductionHypothesis]
          constructor
          · rintro (rfl | ⟨before, after, same⟩)
            · exact ⟨[], lines, rfl⟩
            · exact ⟨first :: before, after, by rw [same]; rfl⟩
          · rintro ⟨before, after, same⟩
            cases before with
            | nil =>
                left
                simp only [List.nil_append, List.cons.injEq] at same
                exact Prod.ext same.1.symm same.2.1.symm
            | cons other before =>
                right
                exact ⟨before, after, (List.cons.inj same).2⟩

theorem mem_qualifyingPairs_append
    {lines : List (List Char)}
    {pair : List Char × List Char}
    (member : pair ∈ qualifyingPairs lines)
    (before after : List (List Char)) :
    pair ∈ qualifyingPairs (before ++ lines ++ after) := by
  rw [qualifyingPairs, List.mem_filter, mem_zip_tail_iff] at member ⊢
  obtain ⟨⟨early, late, rfl⟩, long⟩ := member
  exact ⟨⟨before ++ early, late ++ after, by simp⟩, long⟩

/-- The text of a pair of normalized lines tells the pair. -/
theorem eq_of_pairText_eq
    {text : List Char}
    {left right : List Char × List Char}
    (isLeft : left ∈ qualifyingPairs (normalizedLines text))
    (isRight : right ∈ qualifyingPairs (normalizedLines text))
    (same : pairText left = pairText right) :
    left = right := by
  have free {pair : List Char × List Char}
      (member : pair ∈ qualifyingPairs (normalizedLines text)) :
      '\n' ∉ pair.1 := by
    rw [qualifyingPairs, List.mem_filter, mem_zip_tail_iff] at member
    obtain ⟨⟨before, after, lines⟩, _⟩ := member
    apply noFeed_of_mem_normalizedLines
    rw [lines]
    simp
  have first : left.1 = right.1 :=
    eq_of_append_separator (free isLeft) (free isRight) same
  refine Prod.ext first ?_
  rw [pairText, pairText, first] at same
  simpa using same

/-! ## Reports -/

/-- The matches that `contamination_reason` counts. -/
def pairMatches
    (functions : TextFunctions)
    (guard : Guard)
    (content : List Char) :
    List String :=
  (linePairDigests functions (normalizedLines content)).dedup.filter
    fun pair => pair ∈ guard.codePairs

/-- A content is reported. -/
def Reported
    (functions : TextFunctions)
    (guard : Guard)
    (content : List Char) : Prop :=
  contaminationReason functions guard "Python" content ≠ none

/-- What has a content reported whatever functions it defines. -/
def HasStrongReason
    (functions : TextFunctions)
    (guard : Guard)
    (content : List Char) : Prop :=
  ("mostly basic python problems".toList <:+: functions.lower content ∨
      searchMarker functions false (functions.lower content) = true) ∨
    (∀ marker ∈ jsonMarkers, marker.toList <:+: functions.lower content) ∨
    normalizedCodeDigest functions content ∈ guard.exactCodes ∨
    (∃ line ∈ strongLineDigests functions content, line ∈ guard.strongLines) ∨
    2 ≤ (pairMatches functions guard content).length

theorem ite_some_ne_none_iff
    {condition : Prop}
    [Decidable condition]
    {reason : String}
    {rest : Option String} :
    (if condition then some reason else rest) ≠ none ↔
      condition ∨ rest ≠ none := by
  by_cases holds : condition <;> simp [holds]

theorem reported_iff {guard : Guard} {content : List Char} :
    Reported functions guard content ↔
      HasStrongReason functions guard content ∨
        (1 ≤ (pairMatches functions guard content).length ∧
          ∃ name, DefinedFrom functions true content name ∧
            String.ofList name ∈ guard.functionNames) := by
  have names : (∃ name ∈ (functionNames functions content).map String.ofList,
      name ∈ guard.functionNames) ↔
      ∃ name, DefinedFrom functions true content name ∧
        String.ofList name ∈ guard.functionNames := by
    simp only [List.mem_map, mem_functionNames_iff]
    constructor
    · rintro ⟨_, ⟨name, defined, rfl⟩, listed⟩
      exact ⟨name, defined, listed⟩
    · rintro ⟨name, defined, listed⟩
      exact ⟨_, ⟨name, defined, rfl⟩, listed⟩
  rw [← names]
  unfold Reported HasStrongReason contaminationReason normalizedCodeDigest
    strongLineDigests pairMatches
  rw [if_neg (by simp)]
  simp only [ite_some_ne_none_iff, ne_eq, not_true_eq_false, or_false, or_assoc]

/-! ## What a deny list holds -/

section Listed

variable {rows : List Row} {sourceSha256 sourceUrl : String}

/-- The guard of a deny list that was built from rows. -/
abbrev builtGuard
    (functions : TextFunctions)
    (rows : List Row)
    (sourceSha256 sourceUrl : String) : Guard :=
  (buildMbppManifest functions rows sourceSha256 sourceUrl).toGuard

theorem mem_exactCodes_iff {digest : String} :
    digest ∈ (builtGuard functions rows sourceSha256 sourceUrl).exactCodes ↔
      ∃ row ∈ rows, row.code ≠ [] ∧
        normalizedCodeDigest functions row.code = digest := by
  simp [Manifest.toGuard, buildMbppManifest, and_assoc]

theorem code_ne_nil_of_mem_pairs
    {code : List Char}
    {pair : List Char × List Char}
    (qualifies : pair ∈ qualifyingPairs (normalizedLines code)) :
    code ≠ [] := by
  rintro rfl
  exact absurd qualifies (by decide +revert)

theorem mem_codePairs_iff {digest : String} :
    digest ∈ (builtGuard functions rows sourceSha256 sourceUrl).codePairs ↔
      ∃ row ∈ rows, ∃ pair ∈ qualifyingPairs (normalizedLines row.code),
        functions.digest (pairText pair) = digest := by
  simp only [Manifest.toGuard, buildMbppManifest, mem_sortedSet,
    List.mem_flatMap, List.mem_filter, codePairDigests, linePairDigests,
    List.mem_map]
  constructor
  · rintro ⟨row, ⟨listed, _⟩, pair⟩
    exact ⟨row, listed, pair⟩
  · rintro ⟨row, listed, pair, qualifies, same⟩
    exact ⟨row, ⟨listed, by simpa using code_ne_nil_of_mem_pairs qualifies⟩,
      pair, qualifies, same⟩

theorem mem_strongLineDigests_iff {text : List Char} {digest : String} :
    digest ∈ strongLineDigests functions text ↔
      ∃ line ∈ normalizedLines text, 32 ≤ line.length ∧
        functions.digest line = digest := by
  simp [strongLineDigests, longLineDigests, and_assoc]

theorem mem_strongLines_iff {digest : String} :
    digest ∈ (builtGuard functions rows sourceSha256 sourceUrl).strongLines ↔
      ∃ row ∈ rows, ∃ text ∈ row.texts,
        digest ∈ strongLineDigests functions text := by
  simp [Manifest.toGuard, buildMbppManifest]

theorem mem_functionNames_built_iff {name : List Char} :
    String.ofList name ∈
        (builtGuard functions rows sourceSha256 sourceUrl).functionNames ↔
      ∃ row ∈ rows, DefinedFrom functions true row.code name := by
  simp only [Manifest.toGuard, buildMbppManifest, mem_sortedSet,
    List.mem_flatMap, List.mem_filter, List.mem_map, mem_functionNames_iff]
  constructor
  · rintro ⟨row, ⟨listed, _⟩, other, defined, same⟩
    exact ⟨row, listed, (String.ofList_injective same) ▸ defined⟩
  · rintro ⟨row, listed, defined⟩
    refine ⟨row, ⟨listed, ?_⟩, name, defined, rfl⟩
    obtain ⟨before, heading, rest, whole, _⟩ := defined
    simp [whole]

/-! ## Detection -/

/-- A content holds a listed program that has to be reported. -/
def HoldsProgram
    (functions : TextFunctions)
    (rows : List Row)
    (content : List Char) : Prop :=
  ∃ row ∈ rows, Embeds row.code content ∧
    (HasTwoPairs row.code ∨ HasPairAndFunction functions row.code)

/-- What is promised of a content under a deny list. -/
structure Detects
    (functions : TextFunctions)
    (rows : List Row)
    (guard : Guard)
    (content : List Char) : Prop where
  embedded : HoldsProgram functions rows content ->
    Reported functions guard content
  same : ∀ row ∈ rows, row.code ≠ [] -> SameProgram row.code content ->
    Reported functions guard content
  listedLine : ∀ row ∈ rows, ∀ text ∈ row.texts,
    ∀ line ∈ normalizedLines text, 32 ≤ line.length ->
      ContainsLine line content -> Reported functions guard content

/-- The qualifying pairs of a listed program have digests that differ. -/
def CollisionFree (functions : TextFunctions) (rows : List Row) : Prop :=
  ∀ row ∈ rows, ∀ left ∈ qualifyingPairs (normalizedLines row.code),
    ∀ right ∈ qualifyingPairs (normalizedLines row.code),
      functions.digest (pairText left) = functions.digest (pairText right) ->
        pairText left = pairText right

/-- A line at the start of the content or after a line feed begins with a
definition of a function that such a line of a listed program defines. -/
def ShowsListedName
    (functions : TextFunctions)
    (rows : List Row)
    (content : List Char) : Prop :=
  ∃ name, DefinedFrom functions true content name ∧
    ∃ row ∈ rows, DefinedFrom functions true row.code name

theorem mem_pairMatches
    {row : Row}
    {content : List Char}
    {pair : List Char × List Char}
    (listed : row ∈ rows)
    (embeds : Embeds row.code content)
    (qualifies : pair ∈ qualifyingPairs (normalizedLines row.code)) :
    functions.digest (pairText pair) ∈ pairMatches functions
      (builtGuard functions rows sourceSha256 sourceUrl) content := by
  obtain ⟨before, after, lines⟩ := normalizedLines_of_embeds embeds
  rw [pairMatches, List.mem_filter, List.mem_dedup, lines, decide_eq_true_eq]
  exact ⟨List.mem_map.mpr ⟨pair,
      mem_qualifyingPairs_append qualifies before after, rfl⟩,
    mem_codePairs_iff.mpr ⟨row, listed, pair, qualifies, rfl⟩⟩

theorem two_le_pairMatches
    {row : Row}
    {content : List Char}
    (collisionFree : CollisionFree functions rows)
    (listed : row ∈ rows)
    (embeds : Embeds row.code content)
    (two : HasTwoPairs row.code) :
    2 ≤ (pairMatches functions
      (builtGuard functions rows sourceSha256 sourceUrl) content).length := by
  obtain ⟨left, isLeft, right, isRight, differ⟩ := two
  have apart : functions.digest (pairText left) ≠
      functions.digest (pairText right) := by
    intro same
    exact differ (eq_of_pairText_eq isLeft isRight
      (collisionFree row listed left isLeft right isRight same))
  have distinct : [functions.digest (pairText left),
      functions.digest (pairText right)].Nodup := by
    simpa using apart
  apply (List.subperm_of_subset distinct _).length_le
  intro digest member
  rw [List.mem_cons, List.mem_singleton] at member
  rcases member with rfl | rfl
  · exact mem_pairMatches listed embeds isLeft
  · exact mem_pairMatches listed embeds isRight

theorem reported_built_iff {content : List Char} :
    Reported functions (builtGuard functions rows sourceSha256 sourceUrl)
        content ↔
      HasStrongReason functions
          (builtGuard functions rows sourceSha256 sourceUrl) content ∨
        (1 ≤ (pairMatches functions
            (builtGuard functions rows sourceSha256 sourceUrl) content).length ∧
          ShowsListedName functions rows content) := by
  simp only [reported_iff, mem_functionNames_built_iff, ShowsListedName]

/-- A definition of a listed program is found in every content that holds the
program, where no carriage return stands alone. -/
theorem showsListedName_of_embeds
    {row : Row}
    {content : List Char}
    (listed : row ∈ rows)
    (embeds : Embeds row.code content)
    (defines : ∃ name, Defines functions row.code name)
    (contentPaired : NoLoneReturn content)
    (codePaired : NoLoneReturn row.code) :
    ShowsListedName functions rows content := by
  obtain ⟨before, inserted, after, rfl, same⟩ := embeds
  obtain ⟨name, defines⟩ := defines
  exact ⟨name, definedFrom_render before after defines same contentPaired, row,
    listed, definedFrom_of_defines defines codePaired⟩

theorem reported_of_same
    {row : Row}
    {content : List Char}
    (listed : row ∈ rows)
    (filled : row.code ≠ [])
    (same : SameProgram row.code content) :
    Reported functions (builtGuard functions rows sourceSha256 sourceUrl)
      content := by
  rw [reported_iff]
  refine .inl (.inr (.inr (.inl ?_)))
  rw [normalizedCodeDigest, normalizedLines_of_same same]
  exact mem_exactCodes_iff.mpr ⟨row, listed, filled, rfl⟩

theorem reported_of_listedLine
    {row : Row}
    {content text line : List Char}
    (listed : row ∈ rows)
    (isText : text ∈ row.texts)
    (isLine : line ∈ normalizedLines text)
    (long : 32 ≤ line.length)
    (contains : ContainsLine line content) :
    Reported functions (builtGuard functions rows sourceSha256 sourceUrl)
      content := by
  obtain ⟨before, source, after, rfl, same⟩ := contains
  have filled : words pythonSpace source.text ≠ [] := by
    intro empty
    rw [empty, List.intercalate_nil] at same
    rw [← same] at long
    simp at long
  have found : line ∈ normalizedLines (render (before ++ source :: after)) := by
    rw [normalizedLines_render, List.mem_map]
    refine ⟨words pythonSpace source.text, ?_, same⟩
    simp [lineWords, filled]
  rw [reported_iff]
  exact .inl (.inr (.inr (.inr (.inl ⟨functions.digest line,
    mem_strongLineDigests_iff.mpr ⟨line, found, long, rfl⟩,
    mem_strongLines_iff.mpr ⟨row, listed, text, isText,
      mem_strongLineDigests_iff.mpr ⟨line, isLine, long, rfl⟩⟩⟩))))

end Listed

/-! ## A program that escapes -/

/-- Texts as ASCII has them, with the text itself for its digest. -/
def asciiFunctions : TextFunctions where
  digest := String.ofList
  lower := List.map Char.toLower
  alphanumeric := fun _ => false

/-- A listed program with one qualifying pair of lines. -/
def similarRow : Row where
  code := "def similar_elements(first, second):\n".toList ++
    "    return set(first) & set(second)\n".toList
  text := "Write a function to find the similar elements.".toList
  testList := []
  challengeTestList := []

/-- A listed row without a program. -/
def plainRow : Row := { similarRow with code := [] }

/-- As many rows as the benchmark has. -/
def benchmarkRows : List Row := similarRow :: List.replicate 973 plainRow

/-- A line that a carriage return ends. -/
def returned
    (text : String)
    (noReturn : '\r' ∉ text.toList := by decide)
    (noFeed : '\n' ∉ text.toList := by decide) : SourceLine :=
  ⟨text.toList, .cr, noReturn, noFeed⟩

/-- The program after a line of its host; carriage returns end all lines. -/
def returnedContent : List Char :=
  "a=1\rdef similar_elements(first, second):\r".toList ++
    "    return set(first) & set(second)\r".toList

theorem mem_benchmarkRows {row : Row} (listed : row ∈ benchmarkRows) :
    row = similarRow ∨ row = plainRow := by
  rcases List.mem_cons.mp listed with rfl | plain
  · exact .inl rfl
  · exact .inr (List.eq_of_mem_replicate plain)

theorem embeds_similarRow : Embeds similarRow.code returnedContent := by
  refine ⟨[returned "a=1"],
    [returned "def similar_elements(first, second):",
      returned "    return set(first) & set(second)"], [returned ""], ?_, ?_⟩
  · decide +kernel
  · decide +kernel

theorem hasPairAndFunction_similarRow :
    HasPairAndFunction asciiFunctions similarRow.code := by
  refine ⟨⟨("def similar_elements(first, second):".toList,
    "return set(first) & set(second)".toList), ?_⟩,
    "similar_elements".toList, ?_⟩
  · decide +kernel
  · rw [Defines, ← mem_functionNames_iff]
    decide +kernel

theorem similarRow_mem : similarRow ∈ benchmarkRows := List.mem_cons_self

theorem load_benchmarkRows :
    load (buildMbppManifest asciiFunctions benchmarkRows "" "") =
      .ok (builtGuard asciiFunctions benchmarkRows "" "") := by
  have counted : (buildMbppManifest asciiFunctions benchmarkRows "" "").items =
      974 := by
    rw [buildMbppManifest, benchmarkRows, List.length_cons,
      List.length_replicate]
  let guard := builtGuard asciiFunctions benchmarkRows "" ""
  have exact : normalizedCodeDigest asciiFunctions similarRow.code ∈
      guard.exactCodes :=
    mem_exactCodes_iff.mpr ⟨similarRow, similarRow_mem, by decide, rfl⟩
  obtain ⟨pair, qualifies⟩ := hasPairAndFunction_similarRow.1
  have paired : asciiFunctions.digest (pairText pair) ∈ guard.codePairs :=
    mem_codePairs_iff.mpr ⟨similarRow, similarRow_mem, pair, qualifies, rfl⟩
  have strong : asciiFunctions.digest similarRow.text ∈ guard.strongLines :=
    mem_strongLines_iff.mpr ⟨similarRow, similarRow_mem, similarRow.text,
      by simp [Row.texts], mem_strongLineDigests_iff.mpr ⟨similarRow.text,
        by decide +kernel, by decide +kernel, rfl⟩⟩
  unfold load
  rw [require_then_eq_ok, require_then_eq_ok, require_then_eq_ok]
  exact ⟨⟨rfl, rfl⟩, counted, ⟨List.ne_nil_of_mem exact,
    List.ne_nil_of_mem paired, List.ne_nil_of_mem strong⟩, rfl⟩

/-- The programs among the rows. -/
theorem eq_of_code {row : Row} (listed : row ∈ benchmarkRows)
    (filled : row.code ≠ []) : row = similarRow := by
  rcases mem_benchmarkRows listed with rfl | rfl
  · rfl
  · exact absurd rfl filled

theorem not_reported_returnedContent :
    ¬ Reported asciiFunctions (builtGuard asciiFunctions benchmarkRows "" "")
      returnedContent := by
  rw [reported_built_iff]
  rintro (((marker | marker) | shape | exact | strong | two) | ⟨_, shown⟩)
  · exact absurd marker (by decide +kernel)
  · exact absurd marker (by decide +kernel)
  · exact absurd shape (by decide +kernel)
  · obtain ⟨row, listed, filled, same⟩ := mem_exactCodes_iff.mp exact
    rw [eq_of_code listed filled] at same
    exact absurd same (by decide +kernel)
  · obtain ⟨line, isLine, isListed⟩ := strong
    obtain ⟨row, listed, text, isText, found⟩ := mem_strongLines_iff.mp isListed
    have sameTexts : row.texts = [similarRow.text] := by
      rcases mem_benchmarkRows listed with rfl | rfl <;> rfl
    rw [sameTexts, List.mem_singleton] at isText
    subst isText
    exact absurd (show
      ∃ line ∈ strongLineDigests asciiFunctions returnedContent,
        line ∈ strongLineDigests asciiFunctions similarRow.text from
          ⟨line, isLine, found⟩) (by decide +kernel)
  · have single : (linePairDigests asciiFunctions
        (normalizedLines returnedContent)).dedup.length = 1 := by
      decide +kernel
    have : (pairMatches asciiFunctions
        (builtGuard asciiFunctions benchmarkRows "" "")
          returnedContent).length ≤ 1 := single ▸ List.length_filter_le _ _
    omega
  · obtain ⟨name, defined, _⟩ := shown
    rw [← mem_functionNames_iff] at defined
    have none : functionNames asciiFunctions returnedContent = [] := by
      decide +kernel
    rw [none] at defined
    cases defined

theorem collisionFree_asciiFunctions (rows : List Row) :
    CollisionFree asciiFunctions rows :=
  fun _ _ _ _ _ _ same => String.ofList_injective same

end BenchmarkGuard
end CodingLlm
