import CodingLlm.Pretrain.Values

/-!
# The frozen chat format

`posttrain/prime/chat_format.py`: validation of a conversation, and its render
as opener, body and terminal token of every message with a separator between
two of them.  The tokenizer is a parameter; so is whether it accepts the
keyword that suppresses special tokens.
-/

namespace CodingLlm

/-- `ChatFormatError`, a `ValueError` of its own class. -/
def chatFormatError (text : String) : PyError := ⟨.chatFormatError, text⟩

/-- `EOS_TOKEN_ID`. -/
def eosTokenId : Int := 0

/-! ## Roles -/

/-- The keys of `ROLE_OPENERS`. -/
inductive Role
  | system
  | user
  | assistant
  deriving DecidableEq, Repr

namespace Role

/-- The role as a string. -/
def name : Role -> String
  | .system => "system"
  | .user => "user"
  | .assistant => "assistant"

/-- `ROLE_OPENERS`. -/
def opener : Role -> String
  | .system => "<|system|>\n"
  | .user => "<|user|>\n"
  | .assistant => "<|assistant|>\n"

/-- The role with a name. -/
def ofName? (name : String) : Option Role :=
  if name = "system" then some .system
  else if name = "user" then some .user
  else if name = "assistant" then some .assistant
  else none

end Role

/-- `MESSAGE_SEPARATOR`. -/
def messageSeparator : String := "\n"

/-! ## The tokenizer -/

/-- An element of an encoding: an `int`, or something else such as a `bool`. -/
inductive EncodedId
  | int (value : Int)
  | other
  deriving DecidableEq, Repr

/-- What `encode` returns: a sequence, possibly as the `ids` of an object, or a
value of an unsupported type. -/
inductive Encoded
  | ids (values : List EncodedId)
  | unsupported (typeName : String)
  deriving DecidableEq, Repr

/-- The surface of a tokenizer that rendering uses.  `encodePlain` is the call
without keyword; a tokenizer without `eos_token_id` declares zero. -/
structure TokenizerLike where
  encode : String -> Checked Encoded
  encodePlain : String -> Checked Encoded
  eosTokenId : Option Int

/-- One step of the loop of `_normalise_ids`. -/
def normaliseId (component : String) (offset : Nat) :
    EncodedId -> Checked Int
  | .other => .error (chatFormatError ("tokenizer returned non-integer ID at "
      ++ component ++ "[" ++ toString offset ++ "]"))
  | .int value => do
      let _ ← require (0 ≤ value) (chatFormatError
        ("tokenizer returned negative ID at " ++ component ++ "[" ++
          toString offset ++ "]"))
      return value

/-- `_normalise_ids`. -/
def normaliseIds (encoded : Encoded) (component : String) :
    Checked (List Int) :=
  match encoded with
  | .unsupported typeName => .error (chatFormatError
      ("tokenizer.encode returned an unsupported value for " ++ component ++
        ": " ++ typeName))
  | .ids values => do
      let ids ← values.zipIdx.mapM fun value =>
        normaliseId component value.2 value.1
      let _ ← require (eosTokenId ∉ ids) (chatFormatError
        (component ++ " encoded to reserved EOS ID 0; reject or clean " ++
          "literal tokenizer control tokens before publication"))
      return ids

/-- The call of the tokenizer, again without keyword after a `TypeError`. -/
def TokenizerLike.call (tokenizer : TokenizerLike) (text : String) :
    Checked Encoded :=
  match tokenizer.encode text with
  | .ok encoded => .ok encoded
  | .error error =>
      if error.errorClass = .typeError then tokenizer.encodePlain text
      else .error error

/-- `_encode`. -/
def encode (tokenizer : TokenizerLike) (text component : String) :
    Checked (List Int) :=
  if text = "" then .ok []
  else do
    let encoded ← tokenizer.call text
    normaliseIds encoded component

/-! ## Validation -/

/-- A message: a mapping of which `role` and `content` are read, or no mapping.
A missing key reads as `null`. -/
inductive Message
  | mapping (role content : PyValue)
  | other
  deriving DecidableEq

/-- The variables of the loop of `_validate_messages`. -/
structure Validation where
  normalised : List (Role × String)
  sawConversation : Bool
  expectedRole : Role

/-- `role not in ROLE_OPENERS`, where a list or an object is unhashable. -/
def requireRole (index : Nat) (role : PyValue) : Checked Role :=
  let unknown := chatFormatError ("messages[" ++ toString index ++
    "].role must be one of ['assistant', 'system', 'user']")
  match role with
  | .other => .error (.typeError "unhashable type")
  | .str name =>
      match Role.ofName? name with
      | some role => .ok role
      | none => .error unknown
  | _ => .error unknown

/-- A plain string. -/
def requireContent (index : Nat) (content : PyValue) : Checked String :=
  match content with
  | .str text => do
      let _ ← require (text ≠ "") (chatFormatError
        ("messages[" ++ toString index ++ "].content must not be empty"))
      return text
  | _ => .error (chatFormatError ("messages[" ++ toString index ++
      "].content must be a plain string"))

/-- The turn that a message takes. -/
def takeTurn (index : Nat) (state : Validation) (role : Role) :
    Checked (Bool × Role) :=
  match role with
  | .system => do
      let _ ← require (state.sawConversation = false) (chatFormatError
        "system messages are allowed only at the beginning")
      return (false, state.expectedRole)
  | role => do
      let _ ← require (role = state.expectedRole) (chatFormatError
        ("messages[" ++ toString index ++ "] must have role '" ++
          state.expectedRole.name ++ "'; got '" ++ role.name ++ "'"))
      return (true, if role = .user then .assistant else .user)

/-- The body of the loop of `_validate_messages`. -/
def validateMessage (index : Nat) (state : Validation) (message : Message) :
    Checked Validation :=
  match message with
  | .other => .error (chatFormatError
      ("messages[" ++ toString index ++ "] must be a mapping"))
  | .mapping role content => do
      let role ← requireRole index role
      let content ← requireContent index content
      let (sawConversation, expectedRole) ← takeTurn index state role
      return ⟨state.normalised ++ [(role, content)], sawConversation,
        expectedRole⟩

/-- The loop of `_validate_messages`. -/
def validateFrom : Nat -> Validation -> List Message -> Checked Validation
  | _, state, [] => .ok state
  | index, state, message :: rest => do
      let state ← validateMessage index state message
      validateFrom (index + 1) state rest

/-- `_validate_messages`. -/
def validateMessages (messages : List Message) :
    Checked (List (Role × String)) := do
  let _ ← require (messages ≠ [])
    (chatFormatError "messages must not be empty")
  let state ← validateFrom 0 ⟨[], false, .user⟩ messages
  let _ ← require (state.sawConversation = true)
    (chatFormatError "at least one user message is required")
  return state.normalised

/-! ## Rendering -/

/-- A render.  Every list about tokens is as long as the tokens, and a tool
name goes with every role. -/
structure RenderedChat where
  tokenIds : List Int
  messageIndices : List Int
  sampledMask : List Bool
  isContent : List Bool
  messageRoles : List Role
  messageToolNames : List (Option String)
  parallel : messageIndices.length = tokenIds.length ∧
    sampledMask.length = tokenIds.length ∧ isContent.length = tokenIds.length
  named : messageToolNames.length = messageRoles.length

/-- The constructor with `__post_init__`. -/
def RenderedChat.create
    (tokenIds messageIndices : List Int)
    (sampledMask isContent : List Bool)
    (messageRoles : List Role)
    (messageToolNames : List (Option String)) : Checked RenderedChat := do
  let parallel ← require (messageIndices.length = tokenIds.length ∧
    sampledMask.length = tokenIds.length ∧
      isContent.length = tokenIds.length)
    (chatFormatError "render metadata must match token IDs")
  let named ← require (messageToolNames.length = messageRoles.length)
    (chatFormatError "message_tool_names must be parallel to message_roles")
  return { tokenIds, messageIndices, sampledMask, isContent, messageRoles
           messageToolNames, parallel := parallel.down, named := named.down }

/-- The four lists that `emit` extends. -/
structure Emitted where
  tokenIds : List Int
  indices : List Int
  sampled : List Bool
  contentMask : List Bool

/-- `emit`. -/
def Emitted.emit
    (emitted : Emitted) (ids : List Int) (messageIndex : Int)
    (isSampled isContent : Bool) : Emitted where
  tokenIds := emitted.tokenIds ++ ids
  indices := emitted.indices ++ List.replicate ids.length messageIndex
  sampled := emitted.sampled ++ List.replicate ids.length isSampled
  contentMask := emitted.contentMask ++ List.replicate ids.length isContent

/-- `StarCoder2CodingChatFormat`, bound to its tokenizer. -/
structure StarCoder2CodingChatFormat where
  tokenizer : TokenizerLike
  separatorIds : List Int
  openerIds : Role -> List Int
  openerNonempty : openerIds .assistant ≠ []

namespace StarCoder2CodingChatFormat

/-- The encoded openers by role. -/
def openersOf (system user assistant : List Int) : Role -> List Int
  | .system => system
  | .user => user
  | .assistant => assistant

/-- `StarCoder2CodingChatFormat.__init__`. -/
def create (tokenizer : TokenizerLike) :
    Checked StarCoder2CodingChatFormat := do
  let _ ← require (∀ declared ∈ tokenizer.eosTokenId,
      declared = CodingLlm.eosTokenId)
    (chatFormatError "tokenizer eos_token_id must be 0")
  let separatorIds ← encode tokenizer messageSeparator "message separator"
  let system ← encode tokenizer Role.system.opener "system opener"
  let user ← encode tokenizer Role.user.opener "user opener"
  let assistant ← encode tokenizer Role.assistant.opener "assistant opener"
  let openerNonempty ← require (openersOf system user assistant .assistant ≠ [])
    (chatFormatError "assistant opener must encode to at least one token")
  return ⟨tokenizer, separatorIds, openersOf system user assistant,
    openerNonempty.down⟩

/-- `generation_prompt_ids`. -/
def generationPromptIds (format : StarCoder2CodingChatFormat) : List Int :=
  format.openerIds .assistant

/-- The separator before every message but the first. -/
def emitSeparator (format : StarCoder2CodingChatFormat) (index : Nat)
    (emitted : Emitted) : Emitted :=
  if index = 0 then emitted
  else emitted.emit format.separatorIds (-1) false false

/-- The body of a message, closed by the terminal token of an assistant. -/
def emitBody (index : Nat) (role : Role) (bodyIds : List Int)
    (emitted : Emitted) : Emitted :=
  if role = .assistant then
    (emitted.emit bodyIds index true true).emit [CodingLlm.eosTokenId] index
      true true
  else emitted.emit bodyIds index false true

/-- The body of the loop of `render`. -/
def renderMessage (format : StarCoder2CodingChatFormat) (index : Nat)
    (emitted : Emitted) (message : Role × String) : Checked Emitted := do
  let opened := (format.emitSeparator index emitted).emit
    (format.openerIds message.1) index false false
  let bodyIds ← encode format.tokenizer message.2
    ("messages[" ++ toString index ++ "].content")
  return emitBody index message.1 bodyIds opened

/-- The loop of `render`. -/
def renderFrom (format : StarCoder2CodingChatFormat) :
    Nat -> Emitted -> List (Role × String) -> Checked Emitted
  | _, emitted, [] => .ok emitted
  | index, emitted, message :: rest => do
      let emitted ← format.renderMessage index emitted message
      format.renderFrom (index + 1) emitted rest

/-- The generation prompt, attributed to no message. -/
def emitGenerationPrompt (format : StarCoder2CodingChatFormat)
    (addGenerationPrompt : Bool) (emitted : Emitted) : Emitted :=
  if addGenerationPrompt then
    (emitted.emit format.separatorIds (-1) false false).emit
      (format.openerIds .assistant) (-1) false false
  else emitted

/-- `render`. -/
def render (format : StarCoder2CodingChatFormat) (messages : List Message)
    (addGenerationPrompt : Bool) : Checked RenderedChat := do
  let normalised ← validateMessages messages
  let _ ← require (addGenerationPrompt = true ->
      normalised.getLast?.map Prod.fst = some .user)
    (chatFormatError
      "add_generation_prompt requires a conversation ending in user")
  let emitted ← format.renderFrom 0 ⟨[], [], [], []⟩ normalised
  let emitted := format.emitGenerationPrompt addGenerationPrompt emitted
  RenderedChat.create emitted.tokenIds emitted.indices emitted.sampled
    emitted.contentMask (normalised.map Prod.fst) (normalised.map fun _ => none)

end StarCoder2CodingChatFormat

end CodingLlm
