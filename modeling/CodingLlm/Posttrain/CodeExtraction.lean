import CodingLlm.Posttrain.CodingSmoke
import CodingLlm.Pretrain.GeometryWaiver
import Mathlib.Data.List.Infix

/-!
# Code extraction

`extract_python` takes the program out of a reply with one search of a regular
expression, which does not know which fences open a block: the fence that closes
a block opens an unlabelled one if another fence follows.
-/

namespace CodingLlm
namespace CodingSmoke

/-! ## The search -/

/-- Three backticks. -/
def fence : List Char := ['`', '`', '`']

/-- `[ \t]`. -/
def isBlank (character : Char) : Bool :=
  character == ' ' || character == '\t'

/-- A literal, `re.IGNORECASE`. -/
def literalIgnoringCase : List Char -> List Char -> Option (List Char)
  | [], text => some text
  | expected :: more, character :: text =>
      if character.toLower = expected then literalIgnoringCase more text
      else none
  | _ :: _, [] => none

/-- `[ \t]*\r?\n`. -/
def lineEnd (text : List Char) : Option (List Char) :=
  match text.dropWhile isBlank with
  | '\n' :: rest => some rest
  | '\r' :: '\n' :: rest => some rest
  | _ => none

/-- `(?:python|py)?[ \t]*\r?\n`. -/
def labelledLine (text : List Char) : Option (List Char) :=
  ((literalIgnoringCase "python".toList text >>= lineEnd) <|>
    (literalIgnoringCase "py".toList text >>= lineEnd)) <|> lineEnd text

/-- `(.*?)` before three backticks, `re.DOTALL`. -/
def beforeFence : List Char -> Option (List Char)
  | [] => none
  | character :: text =>
      if fence <+: character :: text then some []
      else (beforeFence text).map (character :: ·)

/-- The group of a match at the start of the text. -/
def matchFenced (text : List Char) : Option (List Char) :=
  if fence <+: text then
    labelledLine (text.drop fence.length) >>= beforeFence
  else none

/-- `re.search`: the group of the first match. -/
def searchFenced : List Char -> Option (List Char)
  | [] => none
  | character :: text =>
      matchFenced (character :: text) <|> searchFenced text

/-- `text.strip()`. -/
def strip (text : List Char) : List Char :=
  ((text.dropWhile pythonSpace).reverse.dropWhile pythonSpace).reverse

/-- `extract_python`. -/
def extractPython (reply : Option (List Char)) : List Char :=
  let text := reply.getD []
  strip ((searchFenced text).getD text)

/-- `CodingSmokeTask.evaluate`. -/
def evaluateReply
    (verifier : Verifier)
    (taskId : String)
    (lastReply : Option (List Char)) :
    Checked MetricRecord :=
  scoreSource verifier taskId (String.ofList (extractPython lastReply))

/-! ## Replies -/

/-- There are no three backticks. -/
def IsProse (text : List Char) : Prop := ¬ fence <:+: text

instance (text : List Char) : Decidable (IsProse text) :=
  inferInstanceAs (Decidable (¬ fence <:+: text))

/-- Nothing, or lines with the last one ended. -/
def IsLines (text : List Char) : Prop :=
  text = [] ∨ text.getLast? = some '\n'

instance (text : List Char) : Decidable (IsLines text) :=
  inferInstanceAs (Decidable (_ ∨ _))

/-- A closed fenced block: what follows the backticks of its opening line, and
its body. -/
structure Block where
  opening : List Char
  body : List Char
  oneLine : '\n' ∉ opening
  threeBackticks : opening.head? ≠ some '`'
  openingProse : IsProse opening
  bodyProse : IsProse body
  bodyLines : IsLines body

/-- The text of a block without the end of its closing line. -/
def Block.text (block : Block) : List Char :=
  fence ++ (block.opening ++ '\n' :: (block.body ++ fence))

/-- A character that ends a label. -/
def endsLabel (character : Char) : Bool :=
  isBlank character || character == '\r'

/-- An opening line has no label, or `py` or `python` in any letter case, and
blanks at most after it. -/
def isPythonLine (line : List Char) : Bool :=
  let label := line.takeWhile fun character => !endsLabel character
  let rest := line.dropWhile fun character => !endsLabel character
  (label.map Char.toLower ∈ [[], "py".toList, "python".toList]) &&
    (rest.dropWhile isBlank ∈ [[], ['\r']])

/-- Whether the opening line of a block is one of Python. -/
def Block.isPython (block : Block) : Bool := isPythonLine block.opening

/-- A reply: prose and closed blocks one after another. -/
inductive Reply
  | prose (text : List Char) (isProse : IsProse text)
  | last (before : List Char) (isProse : IsProse before)
      (isLines : IsLines before) (block : Block)
  | fenced (before : List Char) (isProse : IsProse before)
      (isLines : IsLines before) (block : Block) (carriageReturn : Bool)
      (rest : Reply)

namespace Reply

/-- How the closing line of a block ends. -/
def lineBreak (carriageReturn : Bool) : List Char :=
  if carriageReturn then ['\r', '\n'] else ['\n']

/-- The text of a reply. -/
def text : Reply -> List Char
  | prose text _ => text
  | last before _ _ block => before ++ block.text
  | fenced before _ _ block carriageReturn rest =>
      before ++ (block.text ++ (lineBreak carriageReturn ++ rest.text))

/-- The blocks of a reply. -/
def blocks : Reply -> List Block
  | prose _ _ => []
  | last _ _ _ block => [block]
  | fenced _ _ _ block _ rest => block :: rest.blocks

/-- The prose before the first block. -/
def lead : Reply -> List Char
  | prose text _ => text
  | last before _ _ _ => before
  | fenced before _ _ _ _ _ => before

/-- The program that a reply submits: the body of its first Python block, or all
of it. -/
def submission (reply : Reply) : List Char :=
  strip (((reply.blocks.find? Block.isPython).map Block.body).getD reply.text)

/-- There are no two blocks, or the first one is Python, or the prose after it
is what the first Python block has for its body. -/
def IsReadable : Reply -> Prop
  | prose _ _ => True
  | last _ _ _ _ => True
  | fenced _ _ _ block _ rest =>
      block.isPython = true ∨ rest.blocks = [] ∨
        ∃ later, rest.blocks.find? Block.isPython = some later ∧
          strip rest.lead = strip later.body

end Reply

/-! ## Lines -/

theorem lineEnd_append
    {line : List Char}
    (oneLine : '\n' ∉ line)
    (rest : List Char) :
    lineEnd (line ++ '\n' :: rest) =
      if line.dropWhile isBlank ∈ [[], ['\r']] then some rest else none := by
  have notBlank : isBlank '\n' = false := by decide
  unfold lineEnd
  rw [List.dropWhile_append]
  have kept : '\n' ∉ line.dropWhile isBlank := fun member =>
    oneLine ((List.dropWhile_suffix isBlank).subset member)
  rcases shape : line.dropWhile isBlank with _ | ⟨first, more⟩
  · simp [notBlank]
  · rw [shape] at kept
    have notFeed : first ≠ '\n' := by
      rintro rfl
      simp at kept
    by_cases isReturn : first = '\r'
    · subst isReturn
      rcases more with _ | ⟨second, more⟩
      · simp
      · have : second ≠ '\n' := by
          rintro rfl
          simp at kept
        simp [this]
    · simp [notFeed, isReturn]

theorem toLower_of_endsLabel
    {character : Char}
    (ends : endsLabel character = true) :
    character.toLower = character := by
  simp only [endsLabel, isBlank, Bool.or_eq_true, beq_iff_eq] at ends
  rcases ends with (rfl | rfl) | rfl <;> decide

theorem lineEnd_eq_none
    {character : Char}
    (inside : endsLabel character = false)
    (notFeed : character ≠ '\n')
    (text : List Char) :
    lineEnd (character :: text) = none := by
  simp only [endsLabel, Bool.or_eq_false_iff, beq_eq_false_iff_ne] at inside
  simp [lineEnd, inside.1, inside.2, notFeed]

/-- A literal without the end of a label has to be the whole label, if the line
is to end after it. -/
theorem literal_lineEnd
    {label line : List Char}
    (inside : (label.all fun character =>
      !endsLabel character && character != '\n') = true)
    (oneLine : '\n' ∉ line)
    (rest : List Char) :
    (literalIgnoringCase label (line ++ '\n' :: rest) >>= lineEnd) =
      if (line.takeWhile fun character => !endsLabel character).map
          Char.toLower = label then
        lineEnd ((line.dropWhile fun character => !endsLabel character) ++
          '\n' :: rest)
      else none := by
  induction label generalizing line with
  | nil =>
      cases line with
      | nil => rfl
      | cons first line =>
          cases ends : endsLabel first with
          | true => simp [literalIgnoringCase, ends]
          | false =>
              have notFeed : first ≠ '\n' := by
                rintro rfl
                simp at oneLine
              simp [literalIgnoringCase, ends, lineEnd_eq_none ends notFeed]
  | cons expected label inductionHypothesis =>
      rw [List.all_cons, Bool.and_eq_true, Bool.and_eq_true,
        Bool.not_eq_true', bne_iff_ne] at inside
      obtain ⟨⟨expectedInside, expectedOther⟩, inside⟩ := inside
      cases line with
      | nil =>
          simp [literalIgnoringCase, expectedOther.symm]
      | cons first line =>
          rw [List.mem_cons, not_or] at oneLine
          cases ends : endsLabel first with
          | true =>
              have differs : first ≠ expected := by
                rintro rfl
                rw [expectedInside] at ends
                cases ends
              simp [literalIgnoringCase, ends, toLower_of_endsLabel ends,
                differs]
          | false =>
              by_cases same : first.toLower = expected
              · rw [List.cons_append, literalIgnoringCase, if_pos same,
                  inductionHypothesis inside oneLine.2]
                simp [ends, same]
              · simp [literalIgnoringCase, ends, same]

theorem labelledLine_append
    {line : List Char}
    (oneLine : '\n' ∉ line)
    (rest : List Char) :
    labelledLine (line ++ '\n' :: rest) =
      if isPythonLine line then some rest else none := by
  have python := @literal_lineEnd "python".toList line (by decide) oneLine rest
  have py := @literal_lineEnd "py".toList line (by decide) oneLine rest
  have unlabelled := @literal_lineEnd [] line rfl oneLine rest
  rw [literalIgnoringCase, Option.bind_eq_bind, Option.bind_some] at unlabelled
  have kept : '\n' ∉ line.dropWhile fun character => !endsLabel character :=
    fun member => oneLine ((List.dropWhile_suffix _).subset member)
  rw [labelledLine, python, py, unlabelled, lineEnd_append kept]
  simp only [isPythonLine, Bool.and_eq_true, decide_eq_true_eq]
  generalize (line.takeWhile fun character => !endsLabel character).map
    Char.toLower = label
  generalize (line.dropWhile fun character => !endsLabel character).dropWhile
    isBlank = trailing
  by_cases isPython : label = "python".toList
  · subst isPython
    simp
  · by_cases isPy : label = "py".toList
    · subst isPy
      simp
    · rw [if_neg isPython, if_neg isPy]
      by_cases isEmpty : label = []
      · simp [isEmpty]
      · rw [if_neg isEmpty, if_neg]
        · rfl
        · simp only [List.mem_cons, List.not_mem_nil, or_false]
          tauto

/-! ## Fences -/

/-- No three backticks begin in a text, whatever follows it. -/
def IsQuiet (text : List Char) : Prop :=
  ∀ front back, text = front ++ back -> back ≠ [] ->
    ∀ rest, ¬ fence <+: back ++ rest

theorem isQuiet_cons_iff {character : Char} {text : List Char} :
    IsQuiet (character :: text) ↔
      (∀ rest, ¬ fence <+: character :: (text ++ rest)) ∧ IsQuiet text := by
  constructor
  · intro quiet
    refine ⟨quiet [] _ rfl (by simp), ?_⟩
    rintro front back rfl filled
    exact quiet (character :: front) back rfl filled
  · rintro ⟨first, quiet⟩ front back split filled
    cases front with
    | nil =>
        rw [List.nil_append] at split
        rw [← split]
        exact first
    | cons other front => exact quiet front back (List.cons.inj split).2 filled

/-- Prose in whole lines is quiet. -/
theorem isQuiet_of_lines
    {text : List Char}
    (isProse : IsProse text)
    (isLines : IsLines text) :
    IsQuiet text := by
  rintro front back rfl filled rest begins
  rcases Nat.lt_or_ge back.length fence.length with short | long
  · have inside : back <+: fence :=
      List.prefix_of_prefix_length_le (List.prefix_append back rest) begins
        short.le
    rcases isLines with empty | ended
    · simp [filled] at empty
    · rw [List.getLast?_append_of_ne_nil _ filled] at ended
      have member : '\n' ∈ fence := inside.subset (List.mem_of_getLast? ended)
      exact absurd member (by decide)
  · have inside : fence <+: back :=
      List.prefix_of_prefix_length_le begins (List.prefix_append back rest) long
    exact isProse (inside.isInfix.trans (List.suffix_append front back).isInfix)

theorem isProse_append_feed
    {line : List Char}
    (isProse : IsProse line) :
    IsProse (line ++ ['\n']) := by
  intro inside
  rcases List.infix_concat_iff.mp inside with atEnd | earlier
  · obtain ⟨front, same⟩ := atEnd
    have last := congrArg List.getLast? same
    simp [fence] at last
  · exact isProse earlier

/-- What stands after the first backtick of a line is quiet. -/
theorem isQuiet_behind
    {line : List Char}
    (isProse : IsProse line)
    (threeBackticks : line.head? ≠ some '`') :
    IsQuiet ('`' :: '`' :: (line ++ ['\n'])) := by
  have third (rest : List Char) :
      (line ++ ['\n'] ++ rest).head? ≠ some '`' := by
    cases line with
    | nil => simp
    | cons first line => simpa using threeBackticks
  have quiet : IsQuiet (line ++ ['\n']) :=
    isQuiet_of_lines (isProse_append_feed isProse) (.inr (by simp))
  rw [isQuiet_cons_iff, isQuiet_cons_iff]
  refine ⟨?_, ?_, quiet⟩
  · rintro rest ⟨after, split⟩
    apply third rest
    simp only [fence, List.cons_append, List.nil_append, List.cons.injEq,
      true_and] at split
    rw [← split]
    rfl
  · rintro rest ⟨after, split⟩
    apply third rest
    simp only [fence, List.cons_append, List.nil_append, List.cons.injEq,
      true_and] at split
    rw [← split]
    rfl

theorem searchFenced_append
    {before : List Char}
    (quiet : IsQuiet before)
    (rest : List Char) :
    searchFenced (before ++ rest) = searchFenced rest := by
  induction before with
  | nil => rfl
  | cons character before inductionHypothesis =>
      rw [isQuiet_cons_iff] at quiet
      rw [List.cons_append, searchFenced, inductionHypothesis quiet.2,
        matchFenced, if_neg (quiet.1 rest)]
      rfl

theorem beforeFence_append
    {before : List Char}
    (quiet : IsQuiet before)
    (rest : List Char) :
    beforeFence (before ++ rest) =
      (beforeFence rest).map (before ++ ·) := by
  induction before with
  | nil => simp
  | cons character before inductionHypothesis =>
      rw [isQuiet_cons_iff] at quiet
      rw [List.cons_append, beforeFence, if_neg (quiet.1 rest),
        inductionHypothesis quiet.2, Option.map_map]
      rfl

theorem beforeFence_fence (rest : List Char) :
    beforeFence (fence ++ rest) = some [] := by
  exact if_pos (List.prefix_append fence rest)

theorem noFence_of_isProse
    {text : List Char}
    (isProse : IsProse text) :
    searchFenced text = none ∧ beforeFence text = none := by
  induction text with
  | nil => exact ⟨rfl, rfl⟩
  | cons character text inductionHypothesis =>
      have notFirst : ¬ fence <+: character :: text :=
        fun begins => isProse begins.isInfix
      obtain ⟨search, before⟩ := inductionHypothesis fun inside =>
        isProse (inside.trans (List.suffix_cons character text).isInfix)
      rw [searchFenced, beforeFence, matchFenced, if_neg notFirst,
        if_neg notFirst, search, before]
      exact ⟨rfl, rfl⟩

/-- A search from three backticks on: the line opens a block or is skipped. -/
theorem searchFenced_fence
    {line : List Char}
    (oneLine : '\n' ∉ line)
    (isProse : IsProse line)
    (threeBackticks : line.head? ≠ some '`')
    (rest : List Char) :
    searchFenced (fence ++ (line ++ '\n' :: rest)) =
      if isPythonLine line then beforeFence rest <|> searchFenced rest
      else searchFenced rest := by
  have skipped :=
    searchFenced_append (isQuiet_behind isProse threeBackticks) rest
  have arranged : fence ++ (line ++ '\n' :: rest) =
      '`' :: ('`' :: '`' :: (line ++ ['\n']) ++ rest) := by
    simp [fence]
  have matched : matchFenced (fence ++ (line ++ '\n' :: rest)) =
      if isPythonLine line then beforeFence rest else none := by
    rw [matchFenced, if_pos (List.prefix_append _ _), List.drop_left,
      labelledLine_append oneLine]
    split <;> rfl
  rw [arranged, searchFenced, skipped, ← arranged, matched]
  split <;> rfl

/-! ## What is found in a reply -/

theorem searchFenced_block (block : Block) (rest : List Char) :
    searchFenced (block.text ++ rest) =
      if block.isPython then some block.body
      else searchFenced (fence ++ rest) := by
  have quiet := isQuiet_of_lines block.bodyProse block.bodyLines
  have arranged : block.text ++ rest = fence ++ (block.opening ++ '\n' ::
      (block.body ++ (fence ++ rest))) := by
    simp [Block.text]
  rw [arranged, searchFenced_fence block.oneLine block.openingProse
    block.threeBackticks, searchFenced_append quiet, beforeFence_append quiet,
    beforeFence_fence, Block.isPython]
  simp

/-- After a closing line a search takes the prose up to the next fence. -/
theorem searchFenced_closing (carriageReturn : Bool) (rest : List Char) :
    searchFenced (fence ++ (Reply.lineBreak carriageReturn ++ rest)) =
      (beforeFence rest <|> searchFenced rest) := by
  cases carriageReturn with
  | false => exact @searchFenced_fence [] (by simp) (by decide) (by simp) rest
  | true =>
      exact @searchFenced_fence ['\r'] (by simp) (by decide) (by simp) rest

namespace Reply

/-- The prose before the first block is what stands before the first fence. -/
theorem beforeFence_text (reply : Reply) :
    (beforeFence reply.text <|> searchFenced reply.text) =
      if reply.blocks = [] then none else some reply.lead := by
  cases reply with
  | prose text isProse =>
      obtain ⟨search, before⟩ := noFence_of_isProse isProse
      rw [Reply.text, search, before]
      rfl
  | last before isProse isLines block =>
      rw [Reply.text, beforeFence_append (isQuiet_of_lines isProse isLines),
        Block.text, beforeFence_fence]
      simp [blocks, lead]
  | fenced before isProse isLines block carriageReturn rest =>
      rw [Reply.text, beforeFence_append (isQuiet_of_lines isProse isLines),
        Block.text, List.append_assoc, beforeFence_fence]
      simp [blocks, lead]

/-- What the search finds depends on the first block and on whether another one
follows it. -/
def found : Reply -> Option (List Char)
  | prose _ _ => none
  | last _ _ _ block => if block.isPython then some block.body else none
  | fenced _ _ _ block _ rest =>
      if block.isPython then some block.body
      else if rest.blocks = [] then none else some rest.lead

theorem searchFenced_text (reply : Reply) :
    searchFenced reply.text = reply.found := by
  cases reply with
  | prose text isProse => exact (noFence_of_isProse isProse).1
  | last before isProse isLines block =>
      have whole := searchFenced_block block []
      rw [List.append_nil] at whole
      rw [Reply.text, searchFenced_append (isQuiet_of_lines isProse isLines),
        whole]
      rfl
  | fenced before isProse isLines block carriageReturn rest =>
      rw [Reply.text, searchFenced_append (isQuiet_of_lines isProse isLines),
        searchFenced_block, searchFenced_closing, beforeFence_text]
      rfl

theorem count_dropWhile (text : List Char) :
    (text.dropWhile pythonSpace).count '`' = text.count '`' := by
  induction text with
  | nil => rfl
  | cons character text inductionHypothesis =>
      cases isSpace : pythonSpace character with
      | false => simp [isSpace]
      | true =>
          have other : character ≠ '`' := by
            rintro rfl
            exact absurd isSpace (by decide)
          simp [isSpace, inductionHypothesis, other]

/-- Stripping takes no backtick away. -/
theorem count_strip (text : List Char) :
    (strip text).count '`' = text.count '`' := by
  rw [strip, List.count_reverse, count_dropWhile, List.count_reverse,
    count_dropWhile]

theorem count_lead_le (reply : Reply) :
    reply.lead.count '`' ≤ reply.text.count '`' := by
  cases reply <;> simp [lead, Reply.text]

/-- The prose of a reply is not the whole reply that goes on around it. -/
theorem strip_lead_ne
    (before : List Char)
    (isProse : IsProse before)
    (isLines : IsLines before)
    (block : Block)
    (carriageReturn : Bool)
    (rest : Reply) :
    strip rest.lead ≠
      strip (fenced before isProse isLines block carriageReturn rest).text := by
  intro same
  have count := congrArg (List.count '`') same
  rw [count_strip, count_strip] at count
  have inside := count_lead_le rest
  simp only [Reply.text, Block.text, fence, List.count_append,
    List.count_cons_self, List.count_cons] at count
  omega

theorem extractPython_eq_iff (reply : Reply) :
    extractPython (some reply.text) = reply.submission ↔ reply.IsReadable := by
  have extracted : extractPython (some reply.text) =
      strip (reply.found.getD reply.text) := by
    rw [extractPython, Option.getD_some, searchFenced_text]
  rw [extracted]
  cases reply with
  | prose text isProse => simp [found, submission, blocks, IsReadable]
  | last before isProse isLines block =>
      cases python : block.isPython <;>
        simp [found, submission, blocks, IsReadable, python]
  | fenced before isProse isLines block carriageReturn rest =>
      cases python : block.isPython with
      | true => simp [found, submission, blocks, IsReadable, python]
      | false =>
          by_cases alone : rest.blocks = []
          · simp [found, submission, blocks, IsReadable, python, alone]
          · have differs := strip_lead_ne before isProse isLines block
              carriageReturn rest
            cases later : rest.blocks.find? Block.isPython with
            | none =>
                simpa [found, submission, blocks, IsReadable, python, alone,
                  later] using differs
            | some first =>
                simp [found, submission, blocks, IsReadable, python, alone,
                  later]

/-- What is extracted from a reply is the program it submits, and so is what
gets scored, exactly if the reply is readable: there are no two blocks, or the
first one is Python, or the prose after it is what the first Python block has
for its body. -/
theorem evaluateReply_iff (reply : Reply) :
    (extractPython (some reply.text) = reply.submission ↔ reply.IsReadable) ∧
      (reply.IsReadable -> ∀ verifier taskId,
        evaluateReply verifier taskId (some reply.text) =
          scoreSource verifier taskId (String.ofList reply.submission)) := by
  have exact := extractPython_eq_iff reply
  refine ⟨exact, ?_⟩
  intro readable verifier taskId
  rw [evaluateReply, exact.mpr readable]

/-- A block of commands. -/
def shellBlock : Block where
  opening := "bash".toList
  body := "pip install numpy\n".toList
  oneLine := by decide +kernel
  threeBackticks := by decide +kernel
  openingProse := by decide +kernel
  bodyProse := by decide +kernel
  bodyLines := by decide +kernel

/-- A block with a program. -/
def programBlock : Block where
  opening := "python".toList
  body := "def answer():\n    return 42\n".toList
  oneLine := by decide +kernel
  threeBackticks := by decide +kernel
  openingProse := by decide +kernel
  bodyProse := by decide +kernel
  bodyLines := by decide +kernel

/-- A reply with commands before its program. -/
def shellReply : Reply :=
  fenced "First:\n".toList (by decide +kernel) (by decide +kernel) shellBlock
    false (last "Then the program:\n".toList (by decide +kernel)
      (by decide +kernel) programBlock)

/-- The prose between the blocks is extracted, not the program. -/
theorem extractPython_takes_prose :
    shellReply.submission = "def answer():\n    return 42".toList ∧
      extractPython (some shellReply.text) = "Then the program:".toList ∧
      extractPython (some shellReply.text) ≠ shellReply.submission := by
  decide +kernel

end Reply

end CodingSmoke
end CodingLlm
