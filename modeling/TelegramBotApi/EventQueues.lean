import TelegramBotApi.Client
import TelegramBotApi.Lib.StagedQueues
import TelegramBotApi.Lib.Words
import TelegramBotApi.MessageMergeHistory

set_option autoImplicit false

-- The queues of messages and callback queries that wait for the messages they reply to
-- and for the names of their sticker sets before they become updates.
namespace TelegramBotApi.EventQueues

open Checked Tables Words
open BotUsernames (TargetChat)
open Client (UpdateType)
open Messages (ChatInfo MessageContent MessageFullId MessageInfo MessageTable)

structure Gift where
  stickerSetId : Int
deriving DecidableEq

structure UpgradedGift where
  modelStickerSetId : Int
  symbolStickerSetId : Int
deriving DecidableEq

inductive UpgradedGiftOrigin where
  | upgrade (giftMessageId : Int)
  | other
deriving DecidableEq

inductive PollMedia where
  | sticker (stickerSetId : Int)
  | other
deriving DecidableEq

inductive Content where
  | messagePinMessage (messageId : Int)
  | messageGameScore (gameMessageId : Int)
  | messagePaymentSuccessful (invoiceChatId invoiceMessageId : Int)
  | messageChatSetBackground (oldBackgroundMessageId : Int)
  | messageGiveawayCompleted (giveawayMessageId : Int)
  | messageChecklistTasksDone (checklistMessageId : Int)
  | messageChecklistTasksAdded (checklistMessageId : Int)
  | messageSuggestedPostApprovalFailed (suggestedPostMessageId : Int)
  | messageSuggestedPostApproved (suggestedPostMessageId : Int)
  | messageSuggestedPostDeclined (suggestedPostMessageId : Int)
  | messageSuggestedPostPaid (suggestedPostMessageId : Int)
  | messageSuggestedPostRefunded (suggestedPostMessageId : Int)
  | messageUpgradedGift (origin : UpgradedGiftOrigin) (gift : UpgradedGift)
  | messageUpgradedGiftPurchaseOffer (gift : UpgradedGift)
  | messageUpgradedGiftPurchaseOfferRejected (offerMessageId : Int) (gift : UpgradedGift)
  | messageChatHasProtectedContentToggled (requestMessageId : Int)
  | messagePollOptionAdded (pollMessageId : Int)
  | messagePollOptionDeleted (pollMessageId : Int)
  | messageGift (gift : Gift)
  | messageRefundedUpgradedGift (gift : Gift)
  | messagePoll (optionMedia : List (Option PollMedia))
  | messageSticker (stickerSetId : Int)
  | other
deriving DecidableEq

structure ReplyToMessage where
  chatId : Int
  messageId : Int
  hasOrigin : Bool := false
  content : Option MessageContent := none
deriving DecidableEq

inductive MessageTopic where
  | thread (messageThreadId : Int)
  | forum (forumTopicId : Int)
  | directMessages
  | savedMessages
deriving DecidableEq

-- The message a business message replies to, or one that a guest query refers to. It has
-- no such messages of its own.
structure Companion where
  content : MessageContent
  replyToMessage : Option ReplyToMessage
deriving DecidableEq

structure MessageLinks where
  replyToMessage : Option ReplyToMessage := none
  topicId : Option MessageTopic := none
  businessReplyToMessage : Option Companion := none
  referenceMessages : List Companion := []
deriving DecidableEq

structure LinkedMessageInfo where
  info : MessageInfo
  links : MessageLinks := {}
deriving DecidableEq

structure TdMessage where
  message : Messages.Message
  hasSendingState : Bool := false
  replyTo : Option ReplyToMessage := none
  topicId : Option MessageTopic := none
deriving DecidableEq

structure NewMessage where
  message : LinkedMessageInfo
  isEdited : Bool
deriving DecidableEq

structure CallbackQuery where
  id : Int
  senderUserId : Int
  chatId : Int
  messageId : Int
deriving DecidableEq

structure BusinessCallbackQuery where
  id : Int
  senderUserId : Int
  message : LinkedMessageInfo
deriving DecidableEq

inductive Key where
  | newMessage (chatId : Int)
  | newBusinessMessage (connectionId : String)
  | newGuestQuery (chatId : Int)
  | newCallbackQuery (userId : Int)
  | newBusinessCallbackQuery (userId : Int)
deriving DecidableEq

abbrev Key.Item : Key → Type
  | .newMessage _ | .newBusinessMessage _ => NewMessage
  | .newGuestQuery _ => LinkedMessageInfo
  | .newCallbackQuery _ => CallbackQuery
  | .newBusinessCallbackQuery _ => BusinessCallbackQuery

-- What a queue waits for: the answer to getRepliedMessage, to the request made in a state
-- of the callback query, or the names of the sets that are still missing. The promise of
-- the names continues with the given state.
inductive Request where
  | repliedMessage
  | callbackQueryMessage (state : Nat)
  | stickerSetNames (missing : List Int) (state : Nat)
deriving DecidableEq

inductive Check where
  | message (check : Messages.Check)
  | zeroId               -- chat_id != 0, user_id != 0, update->id_ != 0 and !connection_id_.empty()
  | unexpectedState      -- state == 0 in a queue without an active request
  | emptyQueue
  | wrongChat
  | wrongUser
  | unfinishedState
  | noReplyToMessage
  | unexpectedRequest    -- state == 1 in on_get_callback_query_message
  | zeroStickerSet
  | chatFound
  | supergroupInfoFound
deriving DecidableEq

inductive UpdateBody where
  | message (messageInfo : MessageInfo)
  | callbackQuery (query : CallbackQuery) (messageInfo : Option MessageInfo)
  | businessCallbackQuery (query : BusinessCallbackQuery)
deriving DecidableEq

structure Update where
  type : UpdateType
  body : UpdateBody
  timeout : Int
  webhookQueueId : Int
deriving DecidableEq

structure World where
  messages : MessageTable := ∅
  links : Table MessageFullId MessageLinks := ∅
  chats : Table Int ChatInfo := ∅
  stickerSetNames : Table Int String
  unixTime : Int
  authorizationDate : Int
  myId : Int
  loggingOut : Bool := false
  closing : Bool := false
  updates : List Update := []
deriving DecidableEq

abbrev State := StagedQueues.State Key World Request Key.Item
abbrev Stages := StagedQueues.Stages World Request Check

def greatMindsSetId : Int := 1842540969984001
def greatMindsSetName : String := "TelegramGreatMinds"
def generalForumTopicId : Int := 1

def asTdlibMessageId (messageId : Int) : Int := messageId * 2 ^ 20

def asClientMessageIdUnchecked (messageId : Int) : Int :=
  let result := (messageId / 2 ^ 20).bmod (2 ^ 32)
  if asTdlibMessageId result ≠ messageId then 0 else result

def World.stopped (world : World) : Bool := world.loggingOut || world.closing

def lift {α : Type} (computation : Except Messages.Check α) : Except Check α := computation.mapError .message

section Links

-- The fields of a content, which the messages keep as one text.
variable (read : MessageContent → Content)

def contentMessageId (chatId : Int) : Content → Int
  | .messagePinMessage messageId | .messageGameScore messageId | .messageChatSetBackground messageId
  | .messageGiveawayCompleted messageId | .messageChecklistTasksDone messageId | .messageChecklistTasksAdded messageId
  | .messageSuggestedPostApprovalFailed messageId | .messageSuggestedPostApproved messageId
  | .messageSuggestedPostDeclined messageId | .messageSuggestedPostPaid messageId | .messageSuggestedPostRefunded messageId
  | .messageUpgradedGift (.upgrade messageId) _ | .messageUpgradedGiftPurchaseOfferRejected messageId _
  | .messageChatHasProtectedContentToggled messageId | .messagePollOptionAdded messageId
  | .messagePollOptionDeleted messageId => messageId
  | .messagePaymentSuccessful invoiceChatId invoiceMessageId => if invoiceChatId = chatId then invoiceMessageId else 0
  | _ => 0

def getImplicitReplyToMessageId (world : World) (chatId messageId : Int) : Option MessageTopic → Int
  | none => 0
  | some topicId =>
      let implicitReplyToMessageId := match topicId with
        | .thread messageThreadId => messageThreadId
        | .forum forumTopicId =>
            match world.chats.lookup chatId with
            | some (.supergroup _) => if forumTopicId = generalForumTopicId then 0 else asTdlibMessageId forumTopicId
            | _ => 0
        | .directMessages | .savedMessages => 0
      if implicitReplyToMessageId < messageId then implicitReplyToMessageId else 0

-- With only_explicit unset.
def getSameChatReplyToMessageId (world : World) : Option LinkedMessageInfo → Int
  | none => 0
  | some ⟨info, links⟩ =>
      let contentMessageId := contentMessageId info.chatId (read info.content)
      if contentMessageId ≠ 0 then contentMessageId
      else
        match links.replyToMessage with
        | some replyToMessage =>
            if replyToMessage.hasOrigin then getImplicitReplyToMessageId world info.chatId info.id links.topicId
            else replyToMessage.messageId
        | none => getImplicitReplyToMessageId world info.chatId info.id links.topicId

def nonzeroStickerSet (stickerSetId : Int) : List Int := if stickerSetId ≠ 0 then [stickerSetId] else []

def getGiftStickerSetIds (gift : Gift) : List Int := nonzeroStickerSet gift.stickerSetId

def getUpgradedGiftStickerSetIds (gift : UpgradedGift) : List Int :=
  nonzeroStickerSet gift.modelStickerSetId ++ nonzeroStickerSet gift.symbolStickerSetId

def getPollMediaStickerSetIds : PollMedia → List Int
  | .sticker stickerSetId => nonzeroStickerSet stickerSetId
  | .other => []

def getMessageContentStickerSetIds : Content → List Int
  | .messageGift gift | .messageRefundedUpgradedGift gift => getGiftStickerSetIds gift
  | .messagePoll optionMedia => optionMedia.reduceOption.flatMap getPollMediaStickerSetIds
  | .messageSticker stickerSetId => nonzeroStickerSet stickerSetId
  | .messageUpgradedGift _ gift | .messageUpgradedGiftPurchaseOffer gift
  | .messageUpgradedGiftPurchaseOfferRejected _ gift => getUpgradedGiftStickerSetIds gift
  | _ => []

def replyStickerSetIds (replyToMessage : Option ReplyToMessage) : List Int :=
  (replyToMessage.bind ReplyToMessage.content).elim [] (fun content => getMessageContentStickerSetIds (read content))

def Companion.stickerSetIds (companion : Companion) : List Int :=
  getMessageContentStickerSetIds (read companion.content) ++ replyStickerSetIds read companion.replyToMessage

def getMessageStickerSetIds : Option LinkedMessageInfo → List Int
  | none => []
  | some ⟨info, links⟩ =>
      getMessageContentStickerSetIds (read info.content) ++ replyStickerSetIds read links.replyToMessage ++
        links.businessReplyToMessage.elim [] (Companion.stickerSetIds read) ++
        links.referenceMessages.flatMap (Companion.stickerSetIds read)

def getMessage (world : World) (chatId messageId : Int) (forceCache : Bool) : Option LinkedMessageInfo :=
  (Messages.getMessage world.messages chatId messageId forceCache).map
    (fun info => ⟨info, (world.links.lookup (chatId, messageId)).getD {}⟩)

-- With nothing missing the promise is set at once; the closure it sends still waits for
-- the running one.
def getStickerSetNames (world : World) (stickerSetIds : List Int) (state : Nat) : Request :=
  .stickerSetNames (stickerSetIds.filter (fun id => id ≠ 0 ∧ id ∉ world.stickerSetNames)).dedup state

def onGetStickerSetName (world : World) (setId : Int) (name : String) : Except Check World := do
  require .zeroStickerSet (setId ≠ 0)
  if setId ≠ greatMindsSetId then
    return { world with stickerSetNames := world.stickerSetNames.insert setId name }
  else return world

end Links

section Queues

variable (read : MessageContent → Content) (printTargetChat : TargetChat → String)

-- create_message also asks for the names of the sticker sets without waiting for them.
def createMessage (message : TdMessage) : Except Check LinkedMessageInfo := do
  let info ← lift (Messages.createMessage printTargetChat message.message)
  let replyToMessage := message.replyTo.filter (fun reply => reply.chatId = info.chatId || reply.hasOrigin)
  return ⟨info, { replyToMessage := replyToMessage, topicId := message.topicId }⟩

def companion (message : LinkedMessageInfo) : Companion := ⟨message.info.content, message.links.replyToMessage⟩

def createBusinessMessage (message : TdMessage) (replyToMessage : Option TdMessage) : Except Check LinkedMessageInfo := do
  let created ← createMessage printTargetChat message
  match replyToMessage with
  | none => return created
  | some replyToMessage =>
      let reply ← createMessage printTargetChat replyToMessage
      return { created with links := { created.links with businessReplyToMessage := some (companion reply) } }

def addMessage (world : World) (message : LinkedMessageInfo) (forceUpdateContent : Bool) : Except Check World := do
  let messages ← lift (Messages.addMessage printTargetChat world.messages message.info forceUpdateContent)
  return { world with messages := messages, links := world.links.insert message.info.fullId message.links }

def addReceivedMessage (world : World) (message : TdMessage) (forceUpdateContent : Bool) : Except Check World := do
  let created ← createMessage printTargetChat message
  addMessage printTargetChat world created forceUpdateContent

def addUpdate (world : World) (type : UpdateType) (body : UpdateBody) (timeout webhookQueueId : Int) : World :=
  { world with updates := world.updates ++ [⟨type, body, timeout, webhookQueueId⟩] }

def addMessageUpdate (world : World) (type : UpdateType) (messageInfo : MessageInfo) (webhookQueueId : Int) : World :=
  let messageDate := if messageInfo.editDate = 0 then messageInfo.date else messageInfo.editDate
  let leftTime := subInt32 (addInt32 messageDate 86400) world.unixTime
  addUpdate world type (.message { messageInfo with isContentChanged := false }) leftTime webhookQueueId

def surroundings (world : World) (chatId : Int) : Messages.Surroundings where
  chat := world.chats.lookup chatId
  unixTime := world.unixTime
  authorizationDate := world.authorizationDate
  myId := world.myId

def needSkipUpdateMessage (world : World) (chatId : Int) (messageInfo : MessageInfo) (isEdited : Bool) : Except Check Bool :=
  lift (Messages.needSkipUpdateMessage world.messages (surroundings world chatId) chatId messageInfo isEdited)

def newMessageUpdateType (isEdited : Bool) : ChatInfo → Except Check UpdateType
  | .supergroup none => .error .supergroupInfoFound
  | .supergroup (some info) =>
      if !info.isSupergroup then .ok (if isEdited then .editedChannelPost else .channelPost)
      else .ok (if isEdited then .editedMessage else .message)
  | _ => .ok (if isEdited then .editedMessage else .message)

-- The states of process_new_message_queue. A state falls through to the next one unless it
-- sends a request, and the assertion state == 2 fails if it began beyond.
def newMessageStages (chatId : Int) : Stages NewMessage where
  advance world item state := do
    require .wrongChat (chatId = item.message.info.chatId)
    let replyToMessageId := getSameChatReplyToMessageId read world (some item.message)
    let stickerSetIds := getMessageStickerSetIds read (some item.message) ++
      getMessageStickerSetIds read (getMessage world chatId replyToMessageId true)
    if state = 0 ∧ 0 < replyToMessageId ∧ getMessage world chatId replyToMessageId false = none then
      return some .repliedMessage
    else if state ≤ 1 ∧ stickerSetIds ≠ [] then return some (getStickerSetNames world stickerSetIds 2)
    else return none
  finish world item state := do
    require .unfinishedState (state ≤ 2)
    let world ← addMessage printTargetChat world item.message false
    let messageInfo ← (world.messages.lookup item.message.info.fullId).elim (.error (.message .messageInfoFound)) pure
    let skip ← needSkipUpdateMessage world chatId messageInfo item.isEdited
    if skip then return world
    else
      let chat ← (world.chats.lookup chatId).elim (.error .chatFound) pure
      let updateType ← newMessageUpdateType item.isEdited chat
      let messages ← lift (Messages.resetContentChanged world.messages item.message.info.fullId)
      return addMessageUpdate { world with messages := messages } updateType messageInfo chatId

def stickerStages {Item : Type} (message : Item → LinkedMessageInfo) (finish : World → Item → Except Check World) :
    Stages Item where
  advance world item state :=
    let stickerSetIds := getMessageStickerSetIds read (some (message item))
    if state = 0 ∧ stickerSetIds ≠ [] then .ok (some (getStickerSetNames world stickerSetIds 1)) else .ok none
  finish world item state := do
    require .unfinishedState (state ≤ 1)
    finish world item

def newBusinessMessageStages : Stages NewMessage :=
  stickerStages read NewMessage.message (fun world item => do
    let messageInfo := item.message.info
    let skip ← needSkipUpdateMessage world 0 messageInfo item.isEdited
    if skip then return world
    else
      let updateType := if item.isEdited then UpdateType.editedBusinessMessage else .businessMessage
      return addMessageUpdate world updateType messageInfo (messageInfo.chatId + 11 * 2 ^ 33))

def newGuestQueryStages : Stages LinkedMessageInfo :=
  stickerStages read id (fun world message => do
    let skip ← needSkipUpdateMessage world 0 message.info false
    if skip then return world
    else return addMessageUpdate world .guestMessage message.info (message.info.chatId + 12 * 2 ^ 33))

def newBusinessCallbackQueryStages (userId : Int) : Stages BusinessCallbackQuery :=
  stickerStages read BusinessCallbackQuery.message (fun world query => do
    require .wrongUser (userId = query.senderUserId)
    return addUpdate world .callbackQuery (.businessCallbackQuery query) 150 (userId + 3 * 2 ^ 33))

-- The states of process_new_callback_query_queue. The message is looked up when the query
-- comes to the front and again by each continuation.
def newCallbackQueryStages (userId : Int) : Stages CallbackQuery where
  advance world query state :=
    let message := getMessage world query.chatId query.messageId (0 < state)
    let replyToMessageId := getSameChatReplyToMessageId read world message
    let stickerSetIds := getMessageStickerSetIds read message ++
      getMessageStickerSetIds read (getMessage world query.chatId replyToMessageId true)
    if state = 0 ∧ message = none then .ok (some (.callbackQueryMessage 0))
    else if state ≤ 1 ∧ 0 < replyToMessageId ∧ getMessage world query.chatId replyToMessageId false = none then
      .ok (some (.callbackQueryMessage 1))
    else if state ≤ 2 ∧ stickerSetIds ≠ [] then .ok (some (getStickerSetNames world stickerSetIds 3))
    else .ok none
  finish world query state := do
    let message := getMessage world query.chatId query.messageId (0 < state)
    require .unfinishedState (state ≤ 3)
    require .wrongUser (userId = query.senderUserId)
    if message ≠ none ∨ asTdlibMessageId (asClientMessageIdUnchecked query.messageId) = query.messageId then
      return addUpdate world .callbackQuery (.callbackQuery query (message.map LinkedMessageInfo.info)) 150
        (userId + 3 * 2 ^ 33)
    else return world

def stages : (key : Key) → Stages key.Item
  | .newMessage chatId => newMessageStages read printTargetChat chatId
  | .newBusinessMessage _ => newBusinessMessageStages read
  | .newGuestQuery _ => newGuestQueryStages read
  | .newCallbackQuery userId => newCallbackQueryStages read userId
  | .newBusinessCallbackQuery userId => newBusinessCallbackQueryStages read userId

-- The functions for callback queries assert that an active queue is not empty.
def Key.emptyQueue : Key → Option Check
  | .newCallbackQuery _ | .newBusinessCallbackQuery _ => some .emptyQueue
  | .newMessage _ | .newBusinessMessage _ | .newGuestQuery _ => none

def processQueue (state : State) (key : Key) (stage : Nat) : Except Check State :=
  state.process World.stopped .unexpectedState key.emptyQueue key (stages read printTargetChat key) stage

def processNewMessageQueue (state : State) (chatId : Int) (stage : Nat) : Except Check State :=
  processQueue read printTargetChat state (.newMessage chatId) stage

def processNewBusinessMessageQueue (state : State) (connectionId : String) (stage : Nat) : Except Check State :=
  processQueue read printTargetChat state (.newBusinessMessage connectionId) stage

def processNewGuestQueryQueue (state : State) (chatId : Int) (stage : Nat) : Except Check State :=
  processQueue read printTargetChat state (.newGuestQuery chatId) stage

def processNewCallbackQueryQueue (state : State) (userId : Int) (stage : Nat) : Except Check State :=
  processQueue read printTargetChat state (.newCallbackQuery userId) stage

def processNewBusinessCallbackQueryQueue (state : State) (userId : Int) (stage : Nat) : Except Check State :=
  processQueue read printTargetChat state (.newBusinessCallbackQuery userId) stage

def addNewMessage (state : State) (message : TdMessage) (isEdited : Bool) : Except Check State := do
  if message.hasSendingState then return state
  else
    let chatId := message.message.chatId
    require .zeroId (chatId ≠ 0)
    let created ← createMessage printTargetChat message
    processNewMessageQueue read printTargetChat (state.push (.newMessage chatId) ⟨created, isEdited⟩) chatId 0

-- add_new_business_message and add_business_message_edited.
def addNewBusinessMessage (state : State) (connectionId : String) (message : TdMessage) (replyToMessage : Option TdMessage)
    (isEdited : Bool) : Except Check State := do
  require .zeroId (connectionId ≠ "")
  let created ← createBusinessMessage printTargetChat message replyToMessage
  processNewBusinessMessageQueue read printTargetChat (state.push (.newBusinessMessage connectionId) ⟨created, isEdited⟩)
    connectionId 0

def addNewGuestQuery (state : State) (id : Int) (message : TdMessage) (referenceMessages : List TdMessage) :
    Except Check State := do
  require .zeroId (id ≠ 0)
  let created ← createMessage printTargetChat message
  let references ← referenceMessages.mapM (createMessage printTargetChat)
  let query := { created with links := { created.links with referenceMessages := references.map companion } }
  let chatId := query.info.chatId
  processNewGuestQueryQueue read printTargetChat (state.push (.newGuestQuery chatId) query) chatId 0

def addNewCallbackQuery (state : State) (query : CallbackQuery) : Except Check State := do
  let userId := query.senderUserId
  require .zeroId (userId ≠ 0)
  processNewCallbackQueryQueue read printTargetChat (state.push (.newCallbackQuery userId) query) userId 0

def addNewBusinessCallbackQuery (state : State) (id senderUserId : Int) (message : TdMessage)
    (replyToMessage : Option TdMessage) : Except Check State := do
  let userId := senderUserId
  require .zeroId (userId ≠ 0)
  let created ← createBusinessMessage printTargetChat message replyToMessage
  let query : BusinessCallbackQuery := ⟨id, senderUserId, created⟩
  processNewBusinessCallbackQueryQueue read printTargetChat (state.push (.newBusinessCallbackQuery userId) query) userId 0

def onGetReplyMessage (state : State) (chatId : Int) (replyToMessage : Option TdMessage) : Except Check State := do
  match state.items (.newMessage chatId) with
  | [] => .error .emptyQueue
  | newMessage :: _ =>
      require .wrongChat (chatId = newMessage.message.info.chatId)
      require .noReplyToMessage (0 < getSameChatReplyToMessageId read state.world (some newMessage.message))
      match replyToMessage with
      | none => processNewMessageQueue read printTargetChat state chatId 1
      | some message =>
          let world ← addReceivedMessage printTargetChat state.world message false
          processNewMessageQueue read printTargetChat (state.evolve world) chatId 1

def onGetCallbackQueryMessage (state : State) (message : Option TdMessage) (userId : Int) (requestState : Nat) :
    Except Check State := do
  require .zeroId (userId ≠ 0)
  match state.items (.newCallbackQuery userId) with
  | [] => .error .emptyQueue
  | query :: _ =>
      match message with
      | some message =>
          let world ← addReceivedMessage printTargetChat state.world message false
          processNewCallbackQueryQueue read printTargetChat (state.evolve world) userId (requestState + 1)
      | none =>
          if requestState = 0 then processNewCallbackQueryQueue read printTargetChat state userId (requestState + 1)
          else
            require .unexpectedRequest (requestState = 1)
            if getMessage state.world query.chatId query.messageId true = none then
              processNewCallbackQueryQueue read printTargetChat state userId requestState
            else processNewCallbackQueryQueue read printTargetChat state userId (requestState + 1)

-- The answer to one getStickerSetName. Any error but STICKERSET_INVALID leaves the set
-- without a name.
inductive StickerSetNameAnswer where
  | text (name : String)
  | stickerSetInvalid
  | error
deriving DecidableEq

def onStickerSetNameAnswer (world : World) (setId : Int) : StickerSetNameAnswer → Except Check World
  | .text name => onGetStickerSetName world setId name
  | .stickerSetInvalid => onGetStickerSetName world setId ""
  | .error => .ok world

inductive Event where
  | newMessage (message : TdMessage) (isEdited : Bool)
  | newBusinessMessage (connectionId : String) (message : TdMessage) (replyToMessage : Option TdMessage) (isEdited : Bool)
  | newGuestQuery (id : Int) (message : TdMessage) (referenceMessages : List TdMessage)
  | newCallbackQuery (query : CallbackQuery)
  | newBusinessCallbackQuery (id senderUserId : Int) (message : TdMessage) (replyToMessage : Option TdMessage)
  | replyMessage (chatId : Int) (message : Option TdMessage)
  | callbackQueryMessage (userId : Int) (state : Nat) (message : Option TdMessage)
  | stickerSetName (key : Key) (missing : List Int) (state : Nat) (setId : Int) (answer : StickerSetNameAnswer)
  | stickerSetNames (key : Key) (state : Nat)
  -- what changes the client besides
  | stickerSetNameReceived (setId : Int) (name : String)
  | messageReceived (message : TdMessage) (forceUpdateContent : Bool)
  | messageChanged (event : Messages.Event)
  | chatUpdated (chatId : Int) (chat : ChatInfo)
  | clockRead (unixTime : Int)
  | loggingOut
  | closing

def changeMessage (world : World) (event : Messages.Event) : Except Check World := do
  let messages ← lift (Messages.step printTargetChat world.messages event)
  match event with
  | .deleted fullId => return { world with messages := messages, links := world.links.erase fullId }
  | _ => return { world with messages := messages }

def step (state : State) : Event → Except Check State
  | .newMessage message isEdited => addNewMessage read printTargetChat state message isEdited
  | .newBusinessMessage connectionId message replyToMessage isEdited =>
      addNewBusinessMessage read printTargetChat state connectionId message replyToMessage isEdited
  | .newGuestQuery id message referenceMessages => addNewGuestQuery read printTargetChat state id message referenceMessages
  | .newCallbackQuery query => addNewCallbackQuery read printTargetChat state query
  | .newBusinessCallbackQuery id senderUserId message replyToMessage =>
      addNewBusinessCallbackQuery read printTargetChat state id senderUserId message replyToMessage
  | .replyMessage chatId message =>
      onGetReplyMessage read printTargetChat (state.take (.newMessage chatId) .repliedMessage) chatId message
  | .callbackQueryMessage userId requestState message =>
      onGetCallbackQueryMessage read printTargetChat
        (state.take (.newCallbackQuery userId) (.callbackQueryMessage requestState)) message userId requestState
  | .stickerSetName key missing stage setId answer => do
      let world ← onStickerSetNameAnswer state.world setId answer
      return (state.evolve world).replace key (.stickerSetNames missing stage) (.stickerSetNames (missing.erase setId) stage)
  | .stickerSetNames key stage => processQueue read printTargetChat (state.take key (.stickerSetNames [] stage)) key stage
  | .stickerSetNameReceived setId name => do
      let world ← onGetStickerSetName state.world setId name
      return state.evolve world
  | .messageReceived message forceUpdateContent => do
      let world ← addReceivedMessage printTargetChat state.world message forceUpdateContent
      return state.evolve world
  | .messageChanged event => do
      let world ← changeMessage printTargetChat state.world event
      return state.evolve world
  | .chatUpdated chatId chat => .ok (state.evolve { state.world with chats := state.world.chats.insert chatId chat })
  | .clockRead unixTime => .ok (state.evolve { state.world with unixTime := unixTime })
  | .loggingOut => .ok (state.evolve { state.world with loggingOut := true })
  | .closing => .ok (state.evolve { state.world with closing := true })

def isSupergroup : ChatInfo → Bool
  | .supergroup _ => true
  | _ => false

def isAdded : Messages.Event → Bool
  | .added _ _ => true
  | _ => false

-- TDLib answers each of its requests once, tells of a chat before any message in it and of
-- a supergroup before its chat, and a supergroup stays one.
def enabled (state : State) : Event → Prop
  | .newMessage message _ => message.message.chatId ≠ 0 ∧ message.message.chatId ∈ state.world.chats
  | .newBusinessMessage connectionId _ _ _ => connectionId ≠ ""
  | .newGuestQuery id _ _ => id ≠ 0
  | .newCallbackQuery query => query.senderUserId ≠ 0
  | .newBusinessCallbackQuery _ senderUserId _ _ => senderUserId ≠ 0
  | .replyMessage chatId _ => (.newMessage chatId, .repliedMessage) ∈ state.outstanding
  | .callbackQueryMessage userId requestState _ =>
      (.newCallbackQuery userId, .callbackQueryMessage requestState) ∈ state.outstanding
  | .stickerSetName key missing stage setId _ => (key, .stickerSetNames missing stage) ∈ state.outstanding ∧ setId ∈ missing
  | .stickerSetNames key stage => (key, .stickerSetNames [] stage) ∈ state.outstanding
  | .stickerSetNameReceived setId _ => setId ≠ 0
  | .messageChanged event => isAdded event = false ∧ Messages.enabled state.world.messages event
  | .chatUpdated chatId chat => chat ≠ .supergroup none ∧
      ((state.world.chats.lookup chatId).any isSupergroup = true → isSupergroup chat = true)
  | .messageReceived _ _ | .clockRead _ | .loggingOut | .closing => True

instance (state : State) : (event : Event) → Decidable (enabled state event)
  | .newMessage _ _ => inferInstanceAs (Decidable (_ ∧ _))
  | .newBusinessMessage connectionId _ _ _ => inferInstanceAs (Decidable (connectionId ≠ ""))
  | .newGuestQuery id _ _ => inferInstanceAs (Decidable (id ≠ 0))
  | .newCallbackQuery query => inferInstanceAs (Decidable (query.senderUserId ≠ 0))
  | .newBusinessCallbackQuery _ senderUserId _ _ => inferInstanceAs (Decidable (senderUserId ≠ 0))
  | .replyMessage _ _ | .callbackQueryMessage _ _ _ | .stickerSetNames _ _ => inferInstanceAs (Decidable (_ ∈ state.outstanding))
  | .stickerSetName _ missing _ setId _ => inferInstanceAs (Decidable (_ ∧ setId ∈ missing))
  | .stickerSetNameReceived setId _ => inferInstanceAs (Decidable (setId ≠ 0))
  | .messageChanged event => inferInstanceAs (Decidable (isAdded event = false ∧ _))
  | .chatUpdated _ chat => inferInstanceAs (Decidable (chat ≠ .supergroup none ∧ (_ → isSupergroup chat = true)))
  | .messageReceived _ _ | .clockRead _ | .loggingOut | .closing => isTrue trivial

def startUp (unixTime authorizationDate myId : Int) : World where
  stickerSetNames := (∅ : Table Int String).insert greatMindsSetId greatMindsSetName
  unixTime := unixTime
  authorizationDate := authorizationDate
  myId := myId

def machine : Transition.Machine State Event Check where
  start state := ∃ unixTime authorizationDate myId, state = { world := startUp unixTime authorizationDate myId }
  enabled := enabled
  step := step read printTargetChat

instance (state : State) (event : Event) : Decidable ((machine read printTargetChat).enabled state event) :=
  inferInstanceAs (Decidable (enabled state event))

end Queues

end TelegramBotApi.EventQueues
