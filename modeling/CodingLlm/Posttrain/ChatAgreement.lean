import CodingLlm.Posttrain.ChatTokens

/-!
# Training render, inference prompt and bridge agree

The prompt of every assistant's turn, with its answer and the terminal token,
starts the render of the whole conversation, and a rollout that extends its
turns by the bridge has the token ids of a full render.
-/

namespace CodingLlm

open StarCoder2CodingChatFormat

/-! ## Bodies of a split conversation -/

section Split

variable {format : StarCoder2CodingChatFormat}

/-- The bodies of two parts of a conversation. -/
theorem StarCoder2CodingChatFormat.EncodedMessages.split
    {front back : List (Role × String)} {encoded : List (Role × List Int)}
    (bodies : format.EncodedMessages (front ++ back) encoded) :
    ∃ first second, encoded = first ++ second ∧
      format.EncodedMessages front first ∧
      format.EncodedMessages back second := by
  induction front generalizing encoded with
  | nil => exact ⟨[], encoded, rfl, .nil, bodies⟩
  | cons message rest inductionHypothesis =>
      cases bodies with
      | @cons _ body _ others same tail =>
          obtain ⟨first, second, rfl, left, right⟩ := inductionHypothesis tail
          exact ⟨body :: first, second, rfl, .cons same left, right⟩

/-- A conversation that ends with somebody has bodies. -/
theorem StarCoder2CodingChatFormat.EncodedMessages.ne_nil
    {messages : List (Role × String)} {encoded : List (Role × List Int)}
    {role : Role} (bodies : format.EncodedMessages messages encoded)
    (last : messages.getLast?.map Prod.fst = some role) : encoded ≠ [] := by
  rintro rfl
  cases bodies
  cases last

/-- The bodies of a conversation with an assistant's turn in it. -/
theorem StarCoder2CodingChatFormat.EncodedMessages.assistant
    {front back : List (Role × String)} {content : String}
    {encoded : List (Role × List Int)}
    (bodies : format.EncodedMessages
      (front ++ (.assistant, content) :: back) encoded) :
    ∃ first ids second, encoded = first ++ (.assistant, ids) :: second ∧
      format.EncodedMessages front first ∧
      Encodes format.tokenizer content ids ∧
      format.EncodedMessages back second := by
  obtain ⟨first, rest, rfl, left, right⟩ := bodies.split
  cases right with
  | @cons _ body _ second same tail =>
      obtain ⟨role, ids⟩ := body
      obtain ⟨rfl, encodes⟩ := same
      exact ⟨first, ids, second, rfl, left, encodes, tail⟩

end Split

/-! ## The prompt of a turn -/

/-- The prompt of an assistant's turn, its answer and the terminal token start
the render of the conversation. -/
theorem prompt_prefix
    {format : StarCoder2CodingChatFormat} {before after : List Message}
    {content : String} {whole : RenderedChat}
    (rendered : format.render
      (before ++ assistantMessage content :: after) false = .ok whole) :
    ∃ prompt ids, format.render before true = .ok prompt ∧
      Encodes format.tokenizer content ids ∧
      prompt.tokenIds ++ ids ++ [eosTokenId] <+: whole.tokenIds := by
  obtain ⟨normalised, encoded, valid, -, bodies, tokens⟩ :=
    encoded_of_render rendered
  obtain ⟨front, back, validBefore, lastUser, rfl⟩ :=
    valid_before_assistant valid
  obtain ⟨first, ids, second, rfl, left, encodes, -⟩ := bodies.assistant
  obtain ⟨prompt, promptRendered, promptTokens⟩ :=
    render_of_encoded validBefore (fun _ => lastUser) left
  refine ⟨prompt, ids, promptRendered, encodes, second.flatMap format.turnIds,
    ?_⟩
  rw [promptTokens, tokens, renderedIds, renderedIds,
    conversationIds_append _ (left.ne_nil lastUser), List.flatMap_cons]
  simp only [turnIds, messageIds, promptIds, if_true, Bool.false_eq_true,
    if_false, List.append_assoc, List.append_nil]

/-! ## The bridge -/

/-- A rollout's turn: the answer, whether it was cut before its terminal
token, and the next question. -/
structure Turn where
  answer : String
  truncated : Bool
  question : String

namespace Turn

/-- What the turn adds to the history. -/
def messages (turn : Turn) : List Message :=
  [assistantMessage turn.answer, userMessage turn.question]

/-- The completion of the turn. -/
def completionIds (turn : Turn) (tokenizer : TokenizerLike) :
    Checked (List Int) := do
  let ids ← encode tokenizer turn.answer "completion"
  return if turn.truncated then ids else ids ++ [eosTokenId]

end Turn

/-- The history after some turns. -/
def history (opening : List Message) (turns : List Turn) : List Message :=
  opening ++ turns.flatMap Turn.messages

namespace StarCoder2CodingRenderer

/-- The next prompts of a rollout, each from the bridge of the one before. -/
def bridgeTurns (renderer : StarCoder2CodingRenderer) :
    List Int -> List Turn -> Checked (Option (List Int))
  | promptIds, [] => .ok (some promptIds)
  | promptIds, turn :: rest => do
      let completionIds ← turn.completionIds renderer.format.tokenizer
      let bridged ← renderer.bridgeToNextTurn promptIds completionIds
        [userMessage turn.question] false
      match bridged with
      | none => return none
      | some rendered => renderer.bridgeTurns rendered.tokenIds rest

theorem eosPositions_eq_nil
    {completion : List Int} (positive : ∀ id ∈ completion, 0 < id) :
    eosPositions completion = [] := by
  unfold eosPositions
  rw [List.map_eq_nil_iff, List.filter_eq_nil_iff]
  intro token member
  have above := positive token.1 (List.fst_mem_of_mem_zipIdx member)
  rw [decide_eq_true_eq, eosTokenId]
  omega

theorem eosPositions_closed
    {completion : List Int} (positive : ∀ id ∈ completion, 0 < id) :
    eosPositions (completion ++ [eosTokenId]) = [completion.length] := by
  have before := eosPositions_eq_nil positive
  unfold eosPositions at before ⊢
  rw [List.zipIdx_append, List.filter_append, List.map_append, before,
    Nat.zero_add, List.zipIdx_singleton, List.filter_cons_of_pos (by simp)]
  rfl

/-- A prompt that a render produced ends with the generation prompt. -/
theorem endsWithPrompt_renderedIds
    (format : StarCoder2CodingChatFormat)
    (encoded : List (Role × List Int)) :
    endsWithPrompt format.generationPromptIds
      (format.renderedIds encoded true) = true := by
  unfold endsWithPrompt generationPromptIds renderedIds promptIds
  rw [if_pos rfl, ← List.append_assoc, List.length_append,
    Nat.add_sub_cancel, List.drop_left, Bool.and_eq_true]
  exact ⟨decide_eq_true (Nat.le_add_left _ _), beq_self_eq_true _⟩

/-- Either completion closes the same way. -/
theorem closeTurn_eq
    {turn : Turn} {tokenizer : TokenizerLike} {ids completion : List Int}
    (encodes : Encodes tokenizer turn.answer ids)
    (completes : turn.completionIds tokenizer = .ok completion)
    (promptIds : List Int) :
    closeTurn promptIds completion = promptIds ++ ids ++ [eosTokenId] ∧
      (eosPositions completion = [] ∨
        eosPositions completion = [completion.length - 1]) := by
  have positive := encodes.positive
  rw [Turn.completionIds, encode_eq_ok.mpr encodes, checked_ok_bind,
    checked_pure_eq_ok] at completes
  unfold closeTurn
  cases cut : turn.truncated with
  | true =>
      rw [cut, if_pos rfl] at completes
      subst completes
      rw [eosPositions_eq_nil positive, if_pos rfl]
      exact ⟨rfl, .inl rfl⟩
  | false =>
      rw [cut, if_neg Bool.false_ne_true] at completes
      subst completes
      rw [eosPositions_closed positive, if_neg (List.cons_ne_nil _ _),
        List.append_assoc, List.length_append, List.length_singleton,
        Nat.add_sub_cancel]
      exact ⟨rfl, .inr rfl⟩

/-- Extending a turn by a render always succeeds. -/
theorem extendRender_ok
    (format : StarCoder2CodingChatFormat) (previous : List Int)
    (extension : RenderedChat) :
    ∃ bridged, extendRender format previous extension = .ok bridged ∧
      bridged.tokenIds =
        previous ++ format.separatorIds ++ extension.tokenIds := by
  obtain ⟨indices, sampled, contentMask⟩ := extension.parallel
  refine ⟨_, RenderedChat.create_eq_ok ⟨?_, ?_, ?_⟩ extension.named, rfl⟩
  · simp only [List.length_append, List.length_replicate, indices]
  · rw [List.length_replicate]
  · simp only [List.length_append, List.length_replicate, contentMask]

/-- What a turn adds to the prompt. -/
theorem renderedIds_turn
    (format : StarCoder2CodingChatFormat)
    {first : List (Role × List Int)} (nonempty : first ≠ [])
    (answerIds questionIds : List Int) :
    format.renderedIds
        (first ++ [(.assistant, answerIds), (.user, questionIds)]) true =
      format.renderedIds first true ++ answerIds ++ [eosTokenId] ++
        format.separatorIds ++
        format.renderedIds [(.user, questionIds)] true := by
  have single : format.conversationIds [(.user, questionIds)] =
      format.messageIds (.user, questionIds) := List.append_nil _
  unfold renderedIds
  rw [conversationIds_append _ nonempty, single]
  simp only [List.flatMap_cons, List.flatMap_nil, turnIds, messageIds,
    promptIds, if_true, reduceCtorEq, if_false, List.append_assoc,
    List.append_nil]

/-- One turn: the bridge of a rendered prompt is the next rendered prompt. -/
theorem bridge_step
    {renderer : StarCoder2CodingRenderer} {opening : List Message}
    {turn : Turn} {next : RenderedChat}
    (rendered : renderer.format.render (opening ++ turn.messages) true =
      .ok next) :
    ∃ prompt completion bridged,
      renderer.format.render opening true = .ok prompt ∧
      turn.completionIds renderer.format.tokenizer = .ok completion ∧
      renderer.bridgeToNextTurn prompt.tokenIds completion
        [userMessage turn.question] false = .ok (some bridged) ∧
      bridged.tokenIds = next.tokenIds := by
  obtain ⟨normalised, encoded, valid, -, bodies, tokens⟩ :=
    encoded_of_render rendered
  obtain ⟨nonempty, front, validOpening, lastUser, rfl⟩ :=
    valid_after_assistant valid
  obtain ⟨first, ids, second, rfl, left, encodes, right⟩ := bodies.assistant
  obtain ⟨prompt, promptRendered, promptTokens⟩ :=
    render_of_encoded validOpening (fun _ => lastUser) left
  obtain ⟨extension, extended, extensionTokens⟩ :=
    render_of_encoded (valid_user nonempty) (fun _ => rfl) right
  obtain ⟨completion, completes⟩ : ∃ completion,
      turn.completionIds renderer.format.tokenizer = .ok completion := by
    unfold Turn.completionIds
    rw [encode_eq_ok.mpr encodes]
    exact ⟨_, rfl⟩
  obtain ⟨closed, positions⟩ :=
    closeTurn_eq encodes completes prompt.tokenIds
  obtain ⟨bridged, extends_, bridgedTokens⟩ := extendRender_ok renderer.format
    (closeTurn prompt.tokenIds completion) extension
  have ready : bridgeable renderer.format prompt.tokenIds completion
      [userMessage turn.question] = true := by
    have ends := endsWithPrompt_renderedIds renderer.format first
    rw [← promptTokens] at ends
    have started : prompt.tokenIds.isEmpty = false := by
      rw [List.isEmpty_eq_false_iff]
      intro isEmpty
      rw [isEmpty, endsWithPrompt, Bool.and_eq_true, decide_eq_true_eq] at ends
      have noOpener := List.length_eq_zero_iff.mp (Nat.le_zero.mp ends.1)
      exact renderer.format.openerNonempty noOpener
    have isUser : isUserMessage (userMessage turn.question) = true := rfl
    rw [bridgeable, started, isUser, ends]
    simpa using positions
  refine ⟨prompt, completion, bridged, promptRendered, completes, ?_, ?_⟩
  · unfold bridgeToNextTurn
    rw [if_pos ready, extended]
    simp only [extends_]
    rfl
  · cases right with
    | @cons _ body _ others same tail =>
        cases tail
        obtain ⟨role, questionIds⟩ := body
        obtain ⟨rfl, -⟩ := same
        rw [bridgedTokens, closed, promptTokens, extensionTokens, tokens]
        exact (renderedIds_turn _ (left.ne_nil lastUser) ids questionIds).symm

/-- Any number of turns: the bridged prompts are those of full renders. -/
theorem bridge_turns
    {renderer : StarCoder2CodingRenderer} {opening : List Message}
    {turns : List Turn} {full : RenderedChat}
    (rendered : renderer.format.render (history opening turns) true =
      .ok full) :
    ∃ first, renderer.format.render opening true = .ok first ∧
      renderer.bridgeTurns first.tokenIds turns =
        .ok (some full.tokenIds) := by
  induction turns generalizing opening with
  | nil =>
      rw [history, List.flatMap_nil, List.append_nil] at rendered
      exact ⟨full, rendered, rfl⟩
  | cons turn rest inductionHypothesis =>
      have regrouped : history opening (turn :: rest) =
          history (opening ++ turn.messages) rest := by
        simp only [history, List.flatMap_cons, List.append_assoc]
      rw [regrouped] at rendered
      obtain ⟨next, nextRendered, continued⟩ := inductionHypothesis rendered
      obtain ⟨prompt, completion, bridged, promptRendered, completes, bridges,
        same⟩ := bridge_step nextRendered
      refine ⟨prompt, promptRendered, ?_⟩
      rw [bridgeTurns, completes, checked_ok_bind, bridges, checked_ok_bind]
      simp only [same]
      exact continued

end StarCoder2CodingRenderer

/-! ## Agreement -/

/-- Every text encodes to ids other than the terminal one. -/
def TokenizerLike.NeverEmitsEos (tokenizer : TokenizerLike) : Prop :=
  ∀ text, ∃ ids : List Int, (∀ id ∈ ids, 0 < id) ∧
    tokenizer.call text = .ok (.ids (ids.map EncodedId.int))

theorem TokenizerLike.NeverEmitsEos.encodes
    {tokenizer : TokenizerLike} (never : tokenizer.NeverEmitsEos)
    (text : String) : ∃ ids, Encodes tokenizer text ids := by
  by_cases isEmpty : text = ""
  · exact ⟨[], .inl ⟨isEmpty, rfl⟩⟩
  · obtain ⟨ids, positive, called⟩ := never text
    exact ⟨ids, .inr ⟨isEmpty, called, positive⟩⟩

/-- With such a tokenizer every valid conversation renders. -/
theorem render_succeeds
    {format : StarCoder2CodingChatFormat}
    (never : format.tokenizer.NeverEmitsEos)
    {messages : List Message} {normalised : List (Role × String)}
    {addGenerationPrompt : Bool}
    (valid : validateMessages messages = .ok normalised)
    (prompted : addGenerationPrompt = true ->
      normalised.getLast?.map Prod.fst = some .user) :
    ∃ rendered, format.render messages addGenerationPrompt = .ok rendered := by
  have bodies : ∃ encoded, format.EncodedMessages normalised encoded := by
    clear valid prompted
    induction normalised with
    | nil => exact ⟨[], .nil⟩
    | cons message rest inductionHypothesis =>
        obtain ⟨encoded, others⟩ := inductionHypothesis
        obtain ⟨ids, encodes⟩ := never.encodes message.2
        exact ⟨(message.1, ids) :: encoded, .cons ⟨rfl, encodes⟩ others⟩
  obtain ⟨encoded, bodies⟩ := bodies
  obtain ⟨rendered, ran, -⟩ := render_of_encoded valid prompted bodies
  exact ⟨rendered, ran⟩

theorem create_tokenizer
    {tokenizer : TokenizerLike} {format : StarCoder2CodingChatFormat}
    (created : StarCoder2CodingChatFormat.create tokenizer = .ok format) :
    format.tokenizer = tokenizer := by
  simp only [StarCoder2CodingChatFormat.create, checked_bind_eq_ok,
    exists_require, checked_pure_eq_ok] at created
  obtain ⟨-, -, -, -, -, -, -, -, -, -, rfl⟩ := created
  rfl

/-- Rendering, prompting and bridging agree: a valid conversation renders, and
starts with each of its assistant's turns as the inference prompt continues it;
bridging from a first prompt, turn after turn, gives the prompts of full
renders. -/
structure StarCoder2CodingRenderer.Agrees
    (renderer : StarCoder2CodingRenderer) : Prop where
  training : ∀ messages normalised,
    validateMessages messages = .ok normalised ->
      ∃ whole, renderer.render messages false false = .ok whole ∧
        ∀ before content after,
          messages = before ++ assistantMessage content :: after ->
          ∃ prompt ids, renderer.render before false true = .ok prompt ∧
            encode renderer.format.tokenizer content "content" = .ok ids ∧
            prompt.tokenIds ++ ids ++ [eosTokenId] <+: whole.tokenIds
  rollout : ∀ opening turns normalised,
    validateMessages (history opening turns) = .ok normalised ->
      normalised.getLast?.map Prod.fst = some .user ->
      ∃ first full, renderer.render opening false true = .ok first ∧
        renderer.render (history opening turns) false true = .ok full ∧
        renderer.bridgeTurns first.tokenIds turns =
          .ok (some full.tokenIds)

/-- The agreement, for every tokenizer that never emits the terminal token. -/
theorem chat_agreement
    {tokenizer : TokenizerLike} {renderer : StarCoder2CodingRenderer}
    (created : StarCoder2CodingRenderer.create tokenizer = .ok renderer)
    (never : tokenizer.NeverEmitsEos) :
    renderer.format.tokenizer = tokenizer ∧ renderer.Agrees := by
  obtain ⟨format, createdFormat, isRenderer⟩ := checked_bind_eq_ok.mp created
  rw [checked_pure_eq_ok] at isRenderer
  subst isRenderer
  have bound : format.tokenizer = tokenizer := create_tokenizer createdFormat
  subst bound
  refine ⟨rfl, ?_, ?_⟩
  · intro messages normalised valid
    obtain ⟨whole, rendered⟩ : ∃ whole,
        format.render messages false = .ok whole :=
      render_succeeds never valid fun prompted => Bool.noConfusion prompted
    refine ⟨whole, rendered, ?_⟩
    rintro before content after rfl
    obtain ⟨prompt, ids, prompted, encodes, isPrefix⟩ := prompt_prefix rendered
    exact ⟨prompt, ids, prompted, encode_eq_ok.mpr encodes, isPrefix⟩
  · intro opening turns normalised valid lastUser
    obtain ⟨full, rendered⟩ := render_succeeds never valid fun _ => lastUser
    have bridged := @StarCoder2CodingRenderer.bridge_turns ⟨format⟩ opening
      turns full rendered
    obtain ⟨first, opened, bridges⟩ := bridged
    exact ⟨first, full, opened, rendered, bridges⟩

/-- A tokenizer of one id for each character. -/
def characterTokenizer : TokenizerLike where
  encode := fun text =>
    .ok (.ids (text.toList.map fun character => .int (character.toNat + 1)))
  encodePlain := fun _ => .error (.typeError "unexpected call")
  eosTokenId := some 0

theorem characterTokenizer_created :
    (StarCoder2CodingRenderer.create characterTokenizer).isOk = true := by
  decide +kernel

theorem characterTokenizer_never : characterTokenizer.NeverEmitsEos := by
  intro text
  refine ⟨text.toList.map fun character => (character.toNat + 1 : Int), ?_,
    ?_⟩
  · intro id member
    obtain ⟨character, -, rfl⟩ := List.mem_map.mp member
    omega
  · simp only [List.map_map]
    rfl

theorem chat_agreement_character :
    ∃ renderer,
      StarCoder2CodingRenderer.create characterTokenizer = .ok renderer ∧
      renderer.format.tokenizer = characterTokenizer ∧ renderer.Agrees := by
  obtain ⟨renderer, created⟩ := exists_of_isOk characterTokenizer_created
  exact ⟨renderer, created, chat_agreement created characterTokenizer_never⟩

end CodingLlm
