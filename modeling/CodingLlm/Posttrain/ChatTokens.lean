import CodingLlm.Posttrain.Renderer

/-!
# The token ids of a render

What a valid conversation is, and the token ids of its render as a function of
its encoded bodies alone.
-/

namespace CodingLlm

/-! ## Encodings -/

theorem normaliseId_eq_ok
    {component : String} {offset : Nat} {encoded : EncodedId} {id : Int} :
    normaliseId component offset encoded = .ok id ↔
      encoded = .int id ∧ 0 ≤ id := by
  cases encoded with
  | other =>
      constructor <;> intro impossible
      · cases impossible
      · cases impossible.1
  | int value =>
      simp only [normaliseId, require_then_eq_ok, checked_pure_eq_ok,
        EncodedId.int.injEq]
      constructor
      · rintro ⟨nonnegative, rfl⟩
        exact ⟨rfl, nonnegative⟩
      · rintro ⟨rfl, nonnegative⟩
        exact ⟨nonnegative, rfl⟩

theorem normaliseAll_eq_ok
    {component : String} {offset : Nat} {values : List EncodedId}
    {ids : List Int} :
    ((values.zipIdx offset).mapM fun value =>
        normaliseId component value.2 value.1) = .ok ids ↔
      values = ids.map EncodedId.int ∧ ∀ id ∈ ids, 0 ≤ id := by
  induction values generalizing offset ids with
  | nil =>
      rw [List.zipIdx_nil, List.mapM_nil, checked_pure_eq_ok]
      constructor
      · rintro rfl
        exact ⟨rfl, List.forall_mem_nil _⟩
      · rintro ⟨same, -⟩
        exact (List.map_eq_nil_iff.mp same.symm).symm
  | cons value rest inductionHypothesis =>
      simp only [List.zipIdx_cons, List.mapM_cons, checked_bind_eq_ok,
        normaliseId_eq_ok, inductionHypothesis, checked_pure_eq_ok]
      constructor
      · rintro ⟨id, ⟨rfl, nonnegative⟩, others, ⟨rfl, all⟩, rfl⟩
        exact ⟨rfl, List.forall_mem_cons.mpr ⟨nonnegative, all⟩⟩
      · rintro ⟨same, all⟩
        cases ids with
        | nil => cases same
        | cons id others =>
            rw [List.map_cons, List.cons.injEq] at same
            rw [List.forall_mem_cons] at all
            exact ⟨id, ⟨same.1, all.1⟩, others, ⟨same.2, all.2⟩, rfl⟩

/-- What a text encodes to, whatever component it is. -/
def Encodes (tokenizer : TokenizerLike) (text : String) (ids : List Int) :
    Prop :=
  (text = "" ∧ ids = []) ∨
    (text ≠ "" ∧ tokenizer.call text = .ok (.ids (ids.map EncodedId.int)) ∧
      ∀ id ∈ ids, 0 < id)

theorem normaliseIds_eq_ok
    {component : String} {encoded : Encoded} {ids : List Int} :
    normaliseIds encoded component = .ok ids ↔
      encoded = .ids (ids.map EncodedId.int) ∧ ∀ id ∈ ids, 0 < id := by
  cases encoded with
  | unsupported typeName =>
      constructor <;> intro impossible
      · cases impossible
      · cases impossible.1
  | ids values =>
      simp only [normaliseIds, checked_bind_eq_ok, normaliseAll_eq_ok,
        require_eq_ok_iff, checked_pure_eq_ok, Encoded.ids.injEq]
      constructor
      · rintro ⟨found, ⟨rfl, nonnegative⟩, proof, noEos, rfl⟩
        refine ⟨rfl, fun id member => ?_⟩
        have notZero : id ≠ 0 := by
          rintro rfl
          exact noEos member
        have atLeast := nonnegative id member
        omega
      · rintro ⟨rfl, positive⟩
        have noEos : eosTokenId ∉ ids := fun member =>
          absurd (positive 0 member) (Int.lt_irrefl 0)
        exact ⟨ids, ⟨rfl, fun id member => Int.le_of_lt (positive id member)⟩,
          ⟨noEos⟩, noEos, rfl⟩

theorem encode_eq_ok
    {tokenizer : TokenizerLike} {text component : String} {ids : List Int} :
    encode tokenizer text component = .ok ids ↔
      Encodes tokenizer text ids := by
  unfold encode Encodes
  by_cases isEmpty : text = ""
  · rw [if_pos isEmpty]
    constructor
    · intro same
      exact .inl ⟨isEmpty, (Except.ok.inj same).symm⟩
    · rintro (⟨-, rfl⟩ | ⟨notEmpty, -⟩)
      · rfl
      · exact absurd isEmpty notEmpty
  · rw [if_neg isEmpty, checked_bind_eq_ok]
    simp only [normaliseIds_eq_ok]
    constructor
    · rintro ⟨encoded, called, rfl, positive⟩
      exact .inr ⟨isEmpty, called, positive⟩
    · rintro (⟨empty, -⟩ | ⟨-, called, positive⟩)
      · exact absurd empty isEmpty
      · exact ⟨_, called, rfl, positive⟩

/-- No encoding contains the terminal token. -/
theorem Encodes.positive
    {tokenizer : TokenizerLike} {text : String} {ids : List Int}
    (encodes : Encodes tokenizer text ids) : ∀ id ∈ ids, 0 < id := by
  rcases encodes with ⟨-, rfl⟩ | ⟨-, -, positive⟩
  · exact List.forall_mem_nil _
  · exact positive

/-! ## Validation -/

theorem validateFrom_append
    (index : Nat) (state : Validation) (front back : List Message) :
    validateFrom index state (front ++ back) =
      validateFrom index state front >>= fun state =>
        validateFrom (index + front.length) state back := by
  induction front generalizing index state with
  | nil => rfl
  | cons message rest inductionHypothesis =>
      rw [List.cons_append, validateFrom, validateFrom]
      cases validateMessage index state message with
      | error error => rfl
      | ok next =>
          simp only [checked_ok_bind, inductionHypothesis, List.length_cons]
          rw [Nat.add_right_comm, Nat.add_assoc]

/-- The role expected next agrees with the last message. -/
structure Validation.Turned (state : Validation) : Prop where
  fresh : state.sawConversation = false -> state.expectedRole = .user
  answered : state.expectedRole = .assistant ->
    state.normalised.getLast?.map Prod.fst = some .user

theorem takeTurn_eq_ok
    {index : Nat} {state : Validation} {role : Role} {next : Bool × Role} :
    takeTurn index state role = .ok next ↔
      (role = .system ∧ state.sawConversation = false ∧
        next = (false, state.expectedRole)) ∨
      (role ≠ .system ∧ role = state.expectedRole ∧
        next = (true, if role = .user then .assistant else .user)) := by
  cases role <;>
    simp only [takeTurn, require_then_eq_ok, checked_pure_eq_ok, ne_eq,
      reduceCtorEq, not_true_eq_false, not_false_eq_true, false_and, true_and,
      false_or, or_false, eq_comm (a := next)]

theorem requireRole_eq_ok
    {index : Nat} {value : PyValue} {role : Role} :
    requireRole index value = .ok role ↔
      ∃ name, value = .str name ∧ Role.ofName? name = some role := by
  cases value with
  | str name =>
      cases found : Role.ofName? name with
      | none => simp [requireRole, found]
      | some known => simp [requireRole, found]
  | _ => simp [requireRole]

theorem requireContent_eq_ok
    {index : Nat} {value : PyValue} {text : String} :
    requireContent index value = .ok text ↔
      value = .str text ∧ text ≠ "" := by
  cases value with
  | str content =>
      simp only [requireContent, require_then_eq_ok, checked_pure_eq_ok,
        PyValue.str.injEq]
      constructor
      · rintro ⟨nonempty, rfl⟩
        exact ⟨rfl, nonempty⟩
      · rintro ⟨rfl, nonempty⟩
        exact ⟨nonempty, rfl⟩
  | _ => simp [requireContent]

theorem validateMessage_eq_ok
    {index : Nat} {state next : Validation} {message : Message} :
    validateMessage index state message = .ok next ↔
      ∃ name text role turn, message = .mapping (.str name) (.str text) ∧
        Role.ofName? name = some role ∧ text ≠ "" ∧
        takeTurn index state role = .ok turn ∧
        next = ⟨state.normalised ++ [(role, text)], turn.1, turn.2⟩ := by
  cases message with
  | other => simp [validateMessage]
  | mapping role content =>
      simp only [validateMessage, checked_bind_eq_ok, requireRole_eq_ok,
        requireContent_eq_ok, checked_pure_eq_ok, Message.mapping.injEq]
      constructor
      · rintro ⟨known, ⟨name, rfl, named⟩, text, ⟨rfl, nonempty⟩, turn, took,
          rfl⟩
        exact ⟨name, text, known, turn, ⟨rfl, rfl⟩, named, nonempty, took, rfl⟩
      · rintro ⟨name, text, known, turn, ⟨rfl, rfl⟩, named, nonempty, took,
          rfl⟩
        exact ⟨known, ⟨name, rfl, named⟩, text, ⟨rfl, nonempty⟩, turn, took,
          rfl⟩

theorem turned_step
    {index : Nat} {state next : Validation} {message : Message}
    (turned : state.Turned)
    (ran : validateMessage index state message = .ok next) : next.Turned := by
  obtain ⟨name, text, role, turn, -, -, -, took, rfl⟩ :=
    validateMessage_eq_ok.mp ran
  rcases takeTurn_eq_ok.mp took with ⟨-, fresh, rfl⟩ | ⟨-, -, rfl⟩
  · refine ⟨fun _ => turned.fresh fresh, fun expects => ?_⟩
    rw [turned.fresh fresh] at expects
    cases expects
  · refine ⟨fun unseen => Bool.noConfusion unseen, fun expects => ?_⟩
    have isUser : role = .user := by
      by_contra other
      rw [if_neg other] at expects
      cases expects
    simp [isUser]

theorem turned_run
    {index : Nat} {state final : Validation} {messages : List Message}
    (turned : state.Turned)
    (ran : validateFrom index state messages = .ok final) : final.Turned := by
  induction messages generalizing index state with
  | nil => exact Except.ok.inj ran ▸ turned
  | cons message rest inductionHypothesis =>
      obtain ⟨next, stepped, continued⟩ := checked_bind_eq_ok.mp ran
      exact inductionHypothesis (turned_step turned stepped) continued

/-- Validation appends to what it has accepted. -/
theorem normalised_run
    {index : Nat} {state final : Validation} {messages : List Message}
    (ran : validateFrom index state messages = .ok final) :
    ∃ added, final.normalised = state.normalised ++ added := by
  induction messages generalizing index state with
  | nil => exact ⟨[], by rw [← Except.ok.inj ran, List.append_nil]⟩
  | cons message rest inductionHypothesis =>
      obtain ⟨next, stepped, continued⟩ := checked_bind_eq_ok.mp ran
      obtain ⟨name, text, role, turn, -, -, -, -, rfl⟩ :=
        validateMessage_eq_ok.mp stepped
      obtain ⟨added, whole⟩ := inductionHypothesis continued
      refine ⟨(role, text) :: added, ?_⟩
      rw [whole, List.append_assoc, List.singleton_append]

/-- An assistant's message. -/
def assistantMessage (content : String) : Message :=
  .mapping (.str "assistant") (.str content)

/-- A user's message. -/
def userMessage (content : String) : Message :=
  .mapping (.str "user") (.str content)

theorem validateMessages_eq_ok
    {messages : List Message} {normalised : List (Role × String)} :
    validateMessages messages = .ok normalised ↔ messages ≠ [] ∧
      ∃ state, validateFrom 0 ⟨[], false, .user⟩ messages = .ok state ∧
        state.sawConversation = true ∧ state.normalised = normalised := by
  simp only [validateMessages, exists_require, checked_bind_eq_ok,
    checked_pure_eq_ok, exists_prop]

/-- The messages before an assistant's turn are a conversation of their own,
and end with a user's. -/
theorem valid_before_assistant
    {before after : List Message} {content : String}
    {normalised : List (Role × String)}
    (valid : validateMessages (before ++ assistantMessage content :: after) =
      .ok normalised) :
    ∃ front back, validateMessages before = .ok front ∧
      front.getLast?.map Prod.fst = some .user ∧
      normalised = front ++ (.assistant, content) :: back := by
  obtain ⟨-, final, ran, -, rfl⟩ := validateMessages_eq_ok.mp valid
  rw [validateFrom_append, checked_bind_eq_ok] at ran
  obtain ⟨state, ranBefore, ranAfter⟩ := ran
  have turned : state.Turned := by
    refine turned_run ⟨fun _ => rfl, fun impossible => ?_⟩ ranBefore
    cases impossible
  obtain ⟨next, stepped, continued⟩ := checked_bind_eq_ok.mp ranAfter
  obtain ⟨name, text, role, turn, isMessage, named, nonempty, took, rfl⟩ :=
    validateMessage_eq_ok.mp stepped
  rw [assistantMessage, Message.mapping.injEq, PyValue.str.injEq,
    PyValue.str.injEq] at isMessage
  obtain ⟨rfl, rfl⟩ := isMessage
  have isAssistant : role = .assistant := (Option.some.inj named).symm
  subst isAssistant
  rcases takeTurn_eq_ok.mp took with ⟨impossible, -⟩ | ⟨-, expects, -⟩
  · cases impossible
  · have lastUser := turned.answered expects.symm
    obtain ⟨back, whole⟩ := normalised_run continued
    refine ⟨state.normalised, back, ?_, lastUser, ?_⟩
    · refine validateMessages_eq_ok.mpr ⟨?_, state, ranBefore, ?_, rfl⟩
      · rintro rfl
        rw [← Except.ok.inj ranBefore] at expects
        cases expects
      · by_contra unseen
        have fresh := turned.fresh (Bool.eq_false_iff.mpr unseen)
        rw [fresh] at expects
        cases expects
    · rw [whole, List.append_assoc, List.singleton_append]

/-- A user's message alone is a conversation. -/
theorem valid_user {content : String} (nonempty : content ≠ "") :
    validateMessages [userMessage content] = .ok [(.user, content)] := by
  refine validateMessages_eq_ok.mpr ⟨List.cons_ne_nil _ _,
    ⟨[(.user, content)], true, .assistant⟩, ?_, rfl, rfl⟩
  have stepped : validateMessage 0 ⟨[], false, .user⟩ (userMessage content) =
      .ok ⟨[(.user, content)], true, .assistant⟩ :=
    validateMessage_eq_ok.mpr ⟨"user", content, .user, (true, .assistant), rfl,
      rfl, nonempty, takeTurn_eq_ok.mpr (.inr ⟨by decide, rfl, rfl⟩), rfl⟩
  rw [validateFrom, stepped]
  rfl

/-- What follows an accepted message is what was said. -/
theorem valid_after_assistant
    {before : List Message} {answer question : String}
    {normalised : List (Role × String)}
    (valid : validateMessages
      (before ++ [assistantMessage answer, userMessage question]) =
        .ok normalised) :
    question ≠ "" ∧ ∃ front, validateMessages before = .ok front ∧
      front.getLast?.map Prod.fst = some .user ∧
      normalised = front ++ [(.assistant, answer), (.user, question)] := by
  obtain ⟨front, back, validFront, lastUser, whole⟩ :=
    valid_before_assistant valid
  obtain ⟨-, final, ran, -, isFinal⟩ := validateMessages_eq_ok.mp valid
  obtain ⟨-, state, ranBefore, -, isFront⟩ := validateMessages_eq_ok.mp
    validFront
  rw [validateFrom_append, ranBefore, checked_ok_bind] at ran
  obtain ⟨next, stepped, continued⟩ := checked_bind_eq_ok.mp ran
  obtain ⟨last, lastStepped, ended⟩ := checked_bind_eq_ok.mp continued
  obtain ⟨name, text, role, turn, isMessage, named, -, -, rfl⟩ :=
    validateMessage_eq_ok.mp stepped
  obtain ⟨lastName, lastText, lastRole, lastTurn, isLast, lastNamed, nonempty,
    -, rfl⟩ := validateMessage_eq_ok.mp lastStepped
  rw [assistantMessage, Message.mapping.injEq, PyValue.str.injEq,
    PyValue.str.injEq] at isMessage
  rw [userMessage, Message.mapping.injEq, PyValue.str.injEq,
    PyValue.str.injEq] at isLast
  obtain ⟨rfl, rfl⟩ := isMessage
  obtain ⟨rfl, rfl⟩ := isLast
  refine ⟨nonempty, front, validFront, lastUser, ?_⟩
  have isAssistant : role = .assistant := (Option.some.inj named).symm
  have isUser : lastRole = .user := (Option.some.inj lastNamed).symm
  rw [← isFinal, ← Except.ok.inj ended, isAssistant, isUser, isFront,
    List.append_assoc]
  rfl

/-! ## Rendering -/

namespace StarCoder2CodingChatFormat

variable (format : StarCoder2CodingChatFormat)

/-- Opener, body and terminal token of a message. -/
def messageIds (message : Role × List Int) : List Int :=
  format.openerIds message.1 ++ message.2 ++
    if message.1 = .assistant then [CodingLlm.eosTokenId] else []

/-- A message after another one. -/
def turnIds (message : Role × List Int) : List Int :=
  format.separatorIds ++ format.messageIds message

/-- The messages of a conversation with separators between them. -/
def conversationIds : List (Role × List Int) -> List Int
  | [] => []
  | message :: rest => format.messageIds message ++ rest.flatMap format.turnIds

/-- The generation prompt after a conversation. -/
def promptIds : List Int := format.separatorIds ++ format.openerIds .assistant

theorem conversationIds_append
    {front : List (Role × List Int)} (nonempty : front ≠ [])
    (back : List (Role × List Int)) :
    format.conversationIds (front ++ back) =
      format.conversationIds front ++ back.flatMap format.turnIds := by
  cases front with
  | nil => exact absurd rfl nonempty
  | cons message rest =>
      rw [List.cons_append, conversationIds, conversationIds,
        List.flatMap_append, List.append_assoc]

/-- The encoded bodies of the messages. -/
def EncodedMessages (messages : List (Role × String))
    (encoded : List (Role × List Int)) : Prop :=
  List.Forall₂ (fun message body => body.1 = message.1 ∧
    Encodes format.tokenizer message.2 body.2) messages encoded

end StarCoder2CodingChatFormat

/-- The constructor accepts lists that go with the tokens. -/
theorem RenderedChat.create_eq_ok
    {tokenIds messageIndices : List Int} {sampledMask isContent : List Bool}
    {messageRoles : List Role} {messageToolNames : List (Option String)}
    (parallel : messageIndices.length = tokenIds.length ∧
      sampledMask.length = tokenIds.length ∧
      isContent.length = tokenIds.length)
    (named : messageToolNames.length = messageRoles.length) :
    RenderedChat.create tokenIds messageIndices sampledMask isContent
      messageRoles messageToolNames = .ok ⟨tokenIds, messageIndices,
        sampledMask, isContent, messageRoles, messageToolNames, parallel,
        named⟩ := by
  unfold RenderedChat.create
  rw [require_bind parallel, require_bind named]
  rfl

/-- The lists about tokens are as long as the tokens. -/
def Emitted.Parallel (emitted : Emitted) : Prop :=
  emitted.indices.length = emitted.tokenIds.length ∧
    emitted.sampled.length = emitted.tokenIds.length ∧
    emitted.contentMask.length = emitted.tokenIds.length

theorem Emitted.Parallel.emit
    {emitted : Emitted} (parallel : emitted.Parallel) (ids : List Int)
    (messageIndex : Int) (isSampled isContent : Bool) :
    (emitted.emit ids messageIndex isSampled isContent).Parallel := by
  obtain ⟨indices, sampled, contentMask⟩ := parallel
  simp only [Emitted.Parallel, Emitted.emit, List.length_append,
    List.length_replicate, indices, sampled, contentMask, and_self]

namespace StarCoder2CodingChatFormat

variable {format : StarCoder2CodingChatFormat}

/-- What a message of a render emits. -/
theorem renderMessage_eq_ok
    {index : Nat} {emitted : Emitted} {message : Role × String}
    {bodyIds : List Int}
    (encodes : Encodes format.tokenizer message.2 bodyIds) :
    format.renderMessage index emitted message =
      .ok (emitBody index message.1 bodyIds
        ((format.emitSeparator index emitted).emit
          (format.openerIds message.1) index false false)) := by
  unfold renderMessage
  rw [encode_eq_ok.mpr encodes]
  rfl

theorem tokenIds_emitBody
    (index : Nat) (role : Role) (bodyIds : List Int) (emitted : Emitted) :
    (emitBody index role bodyIds emitted).tokenIds =
      emitted.tokenIds ++ bodyIds ++
        if role = .assistant then [CodingLlm.eosTokenId] else [] := by
  unfold emitBody
  by_cases isAssistant : role = .assistant
  · rw [if_pos isAssistant, if_pos isAssistant]
    rfl
  · rw [if_neg isAssistant, if_neg isAssistant, List.append_nil]
    rfl

theorem parallel_emitBody
    {emitted : Emitted} (parallel : emitted.Parallel)
    (index : Nat) (role : Role) (bodyIds : List Int) :
    (emitBody index role bodyIds emitted).Parallel := by
  unfold emitBody
  split
  · exact (parallel.emit ..).emit ..
  · exact parallel.emit ..

theorem parallel_emitSeparator
    {emitted : Emitted} (parallel : emitted.Parallel) (index : Nat) :
    (format.emitSeparator index emitted).Parallel := by
  unfold emitSeparator
  split
  · exact parallel
  · exact parallel.emit ..

theorem parallel_emitGenerationPrompt
    {emitted : Emitted} (parallel : emitted.Parallel)
    (addGenerationPrompt : Bool) :
    (format.emitGenerationPrompt addGenerationPrompt emitted).Parallel := by
  unfold emitGenerationPrompt
  split
  · exact (parallel.emit ..).emit ..
  · exact parallel

/-- Encoded messages from an index on. -/
def idsFrom (format : StarCoder2CodingChatFormat) (index : Nat)
    (encoded : List (Role × List Int)) : List Int :=
  if index = 0 then format.conversationIds encoded
  else encoded.flatMap format.turnIds

theorem idsFrom_cons
    (index : Nat) (message : Role × List Int)
    (rest : List (Role × List Int)) :
    format.idsFrom index (message :: rest) =
      (if index = 0 then [] else format.separatorIds) ++
        format.messageIds message ++ format.idsFrom (index + 1) rest := by
  unfold idsFrom
  rw [if_neg (Nat.succ_ne_zero index)]
  by_cases first : index = 0
  · rw [if_pos first, if_pos first]
    rfl
  · rw [if_neg first, if_neg first, List.flatMap_cons]
    rfl

/-- Encoded bodies render. -/
theorem renderFrom_of_encoded
    {index : Nat} {emitted : Emitted} {messages : List (Role × String)}
    {encoded : List (Role × List Int)}
    (parallel : emitted.Parallel)
    (bodies : format.EncodedMessages messages encoded) :
    ∃ final, format.renderFrom index emitted messages = .ok final ∧
      final.Parallel ∧
      final.tokenIds = emitted.tokenIds ++ format.idsFrom index encoded := by
  induction bodies generalizing index emitted with
  | nil =>
      refine ⟨emitted, rfl, parallel, ?_⟩
      unfold idsFrom
      split <;> exact (List.append_nil _).symm
  | @cons message body messages encoded same _ inductionHypothesis =>
      obtain ⟨sameRole, encodes⟩ := same
      have separated : (format.emitSeparator index emitted).Parallel :=
        parallel_emitSeparator parallel index
      have opened := separated.emit (format.openerIds message.1) index false
        false
      obtain ⟨final, ran, atEnd, tokens⟩ := @inductionHypothesis (index + 1) _
        (parallel_emitBody opened index message.1 body.2)
      refine ⟨final, ?_, atEnd, ?_⟩
      · rw [renderFrom, renderMessage_eq_ok encodes]
        exact ran
      · rw [tokens, tokenIds_emitBody, idsFrom_cons, messageIds, sameRole]
        simp only [Emitted.emit, emitSeparator]
        split
        · simp only [List.nil_append, List.append_assoc]
        · simp only [List.append_assoc]

/-- A render has encoded every body. -/
theorem encoded_of_renderFrom
    {index : Nat} {emitted final : Emitted} {messages : List (Role × String)}
    (ran : format.renderFrom index emitted messages = .ok final) :
    ∃ encoded, format.EncodedMessages messages encoded := by
  induction messages generalizing index emitted with
  | nil => exact ⟨[], .nil⟩
  | cons message rest inductionHypothesis =>
      obtain ⟨next, stepped, continued⟩ := checked_bind_eq_ok.mp ran
      obtain ⟨bodyIds, encodes, -⟩ := checked_bind_eq_ok.mp stepped
      obtain ⟨encoded, bodies⟩ := inductionHypothesis continued
      exact ⟨(message.1, bodyIds) :: encoded,
        .cons ⟨rfl, encode_eq_ok.mp encodes⟩ bodies⟩

/-- The token ids of a conversation, with or without the generation prompt. -/
def renderedIds (format : StarCoder2CodingChatFormat)
    (encoded : List (Role × List Int)) (addGenerationPrompt : Bool) :
    List Int :=
  format.conversationIds encoded ++
    if addGenerationPrompt then format.promptIds else []

/-- A valid conversation with encoded bodies has a render, and what its token
ids are. -/
theorem render_of_encoded
    {messages : List Message} {addGenerationPrompt : Bool}
    {normalised : List (Role × String)} {encoded : List (Role × List Int)}
    (valid : validateMessages messages = .ok normalised)
    (prompted : addGenerationPrompt = true ->
      normalised.getLast?.map Prod.fst = some .user)
    (bodies : format.EncodedMessages normalised encoded) :
    ∃ rendered, format.render messages addGenerationPrompt = .ok rendered ∧
      rendered.tokenIds = format.renderedIds encoded addGenerationPrompt := by
  have start : (⟨[], [], [], []⟩ : Emitted).Parallel := ⟨rfl, rfl, rfl⟩
  obtain ⟨final, ran, parallel, tokens⟩ : ∃ final,
      format.renderFrom 0 ⟨[], [], [], []⟩ normalised = .ok final ∧
        final.Parallel ∧ final.tokenIds = [] ++ format.idsFrom 0 encoded :=
    renderFrom_of_encoded start bodies
  have finished : (format.emitGenerationPrompt addGenerationPrompt
      final).Parallel :=
    parallel_emitGenerationPrompt parallel addGenerationPrompt
  have named : (normalised.map fun _ => (none : Option String)).length =
      (normalised.map Prod.fst).length := by
    rw [List.length_map, List.length_map]
  refine ⟨⟨_, _, _, _, _, _, finished, named⟩, ?_, ?_⟩
  · simp only [render, valid, checked_ok_bind, require_bind prompted, ran]
    exact RenderedChat.create_eq_ok finished named
  · change (format.emitGenerationPrompt addGenerationPrompt final).tokenIds = _
    rw [List.nil_append] at tokens
    unfold emitGenerationPrompt renderedIds
    split
    · simp only [Emitted.emit, tokens, promptIds, List.append_assoc]
      rfl
    · rw [tokens, List.append_nil]
      rfl

/-- Every render comes from a valid conversation with encoded bodies. -/
theorem encoded_of_render
    {messages : List Message} {addGenerationPrompt : Bool}
    {rendered : RenderedChat}
    (ran : format.render messages addGenerationPrompt = .ok rendered) :
    ∃ normalised encoded, validateMessages messages = .ok normalised ∧
      (addGenerationPrompt = true ->
        normalised.getLast?.map Prod.fst = some .user) ∧
      format.EncodedMessages normalised encoded ∧
      rendered.tokenIds = format.renderedIds encoded addGenerationPrompt := by
  obtain ⟨normalised, valid, continued⟩ := checked_bind_eq_ok.mp ran
  obtain ⟨proof, -, continued⟩ := checked_bind_eq_ok.mp continued
  obtain ⟨final, renders, -⟩ := checked_bind_eq_ok.mp continued
  obtain ⟨encoded, bodies⟩ := encoded_of_renderFrom renders
  obtain ⟨again, ranAgain, tokens⟩ := render_of_encoded valid proof.down bodies
  have same : again = rendered := Except.ok.inj (ranAgain.symm.trans ran)
  exact ⟨normalised, encoded, valid, proof.down, bodies, same ▸ tokens⟩

end StarCoder2CodingChatFormat

end CodingLlm
