import TelegramBotApi.Lib.Slots
import TelegramBotApi.Lib.Tables
import TelegramBotApi.Lib.Transition
import TelegramBotApi.ReplyMarkup

set_option autoImplicit false

-- The messages the bot remembers, and what a message received again changes.
namespace TelegramBotApi.Messages

open Checked Tables
open BotUsernames (TargetChat InlineKeyboardButtonType InlineKeyboardButton InlineKeyboard)

inductive ReplyMarkup where
  | inlineKeyboard (rows : InlineKeyboard Unit)
  | forceReply
  | removeKeyboard
  | showKeyboard
deriving DecidableEq

inductive SuggestedPostPrice where
  | star (starCount : Int)
  | gram (gramCentCount : Int)
deriving DecidableEq

inductive SuggestedPostState where
  | pending | approved | declined
deriving DecidableEq

structure SuggestedPostInfo where
  price : Option SuggestedPostPrice
  sendDate : Int
  state : SuggestedPostState
deriving DecidableEq

inductive MessageSender where
  | user (userId : Int)
  | chat (chatId : Int)
deriving DecidableEq

def MessageSender.isUser : MessageSender → Bool
  | .user _ => true
  | .chat _ => false

-- The contents that need_skip_update_message tells apart, with what it reads of
-- them; every other content is known by its name.
inductive ContentType where
  | messagePoll
  | messageChatAddMembers (memberUserIds : List Int)
  | messageChatDeleteMember (userId : Int)
  | messagePinMessage (messageId : Int)
  | messageProximityAlertTriggered (traveler watcher : MessageSender)
  | messageSupergroupChatCreate
  | messageChatChangeTitle | messageChatChangePhoto | messageChatDeletePhoto | messageChatSetTheme
  | messageVideoChatScheduled | messageVideoChatStarted | messageVideoChatEnded | messageInviteVideoChatParticipants
  | messageForumTopicCreated | messageForumTopicEdited | messageForumTopicIsClosedToggled
  | messageForumTopicIsHiddenToggled | messageGiveawayCreated | messageGiveaway | messageGiveawayWinners
  | messageGiveawayCompleted | messagePaymentRefunded | messageSuggestedPostApprovalFailed
  | messageSuggestedPostApproved | messageSuggestedPostDeclined | messageSuggestedPostPaid
  | messageSuggestedPostRefunded | messagePollOptionAdded | messagePollOptionDeleted
  | messageGameScore | messagePaymentSuccessful | messagePassportDataSent | messageCall | messageUnsupported
  | messageContactRegistered | messageExpiredPhoto | messageExpiredVideo | messageExpiredVideoNote
  | messageExpiredVoiceNote | messageCustomServiceAction | messageWebAppDataSent | messageGiftedPremium
  | messageSuggestProfilePhoto | messagePremiumGiftCode | messageGiftedStars | messageGiveawayPrizeStars
  | messagePaidMessagesRefunded | messageGroupCall | messageGiftedTon | messageSuggestBirthdate
  | messageUpgradedGiftPurchaseOffer | messageUpgradedGiftPurchaseOfferRejected
  | messageChatHasProtectedContentToggled | messageChatHasProtectedContentDisableRequested
  | other (name : String)
deriving DecidableEq

-- The body stands for the rest of the content.
structure MessageContent where
  type : ContentType
  body : String
deriving DecidableEq

structure Message where
  chatId : Int
  id : Int
  date : Int
  editDate : Int := 0
  senderTag : String := ""
  isOutgoing : Bool := false
  hasSelfDestructType : Bool := false
  hasImportInfo : Bool := false
  content : MessageContent
  suggestedPostInfo : Option SuggestedPostInfo := none
  replyMarkup : Option ReplyMarkup := none
deriving DecidableEq

structure MessageInfo where
  chatId : Int
  id : Int
  date : Int
  editDate : Int
  senderTag : String
  content : MessageContent
  suggestedPostInfo : Option SuggestedPostInfo := none
  replyMarkup : Option ReplyMarkup := none
  isOutgoing : Bool
  isSelfDestruct : Bool
  isImported : Bool
  isContentChanged : Bool := true
deriving DecidableEq

abbrev MessageFullId := Int × Int

def Message.fullId (message : Message) : MessageFullId := (message.chatId, message.id)

def MessageInfo.fullId (messageInfo : MessageInfo) : MessageFullId := (messageInfo.chatId, messageInfo.id)

inductive Check where
  | replyMarkupInlineKeyboard   -- set_message_reply_markup
  | chatFound                   -- need_skip_update_message
  | supergroupInfoFound
  | messageInfoFound            -- add_message returns the stored message
deriving DecidableEq

def areEqualSuggestedPostPrices : Option SuggestedPostPrice → Option SuggestedPostPrice → Bool
  | none, rhs => rhs.isNone
  | some _, none => false
  | some (.star lhs), some (.star rhs) => lhs == rhs
  | some (.gram lhs), some (.gram rhs) => lhs == rhs
  | some _, some _ => false

def areEqualSuggestedPostInfos (lhs rhs : SuggestedPostInfo) : Bool :=
  lhs.sendDate == rhs.sendDate && lhs.state == rhs.state && areEqualSuggestedPostPrices lhs.price rhs.price

def setMessageSuggestedPostInfo (messageInfo : MessageInfo) (suggestedPostInfo : Option SuggestedPostInfo) :
    MessageInfo :=
  match suggestedPostInfo, messageInfo.suggestedPostInfo with
  | none, none => messageInfo
  | some new, some old =>
      if areEqualSuggestedPostInfos new old then messageInfo
      else { messageInfo with suggestedPostInfo := some new, isContentChanged := true }
  | _, _ => { messageInfo with suggestedPostInfo := suggestedPostInfo, isContentChanged := true }

section Keyboards

-- to_string of a target chat, which the library generates.
variable (printTargetChat : TargetChat → String)

-- The switch comes after the identifiers of the types were compared.
def areEqualInlineKeyboardButtonTypes : InlineKeyboardButtonType Unit → InlineKeyboardButtonType Unit → Bool
  | .url lhs, .url rhs => lhs == rhs
  | .loginUrl lhs _ _ _, .loginUrl rhs _ _ _ => lhs == rhs
  | .callback lhs, .callback rhs => lhs == rhs
  | .callbackWithPassword lhs, .callbackWithPassword rhs => lhs == rhs
  | .callbackGame, .callbackGame => true
  | .switchInline lhs lhsChat, .switchInline rhs rhsChat =>
      lhs == rhs && printTargetChat lhsChat == printTargetChat rhsChat
  | .buy, .buy => true
  | .user lhs, .user rhs => lhs == rhs
  | .webApp lhs, .webApp rhs => lhs == rhs
  | .copyText lhs, .copyText rhs => lhs == rhs
  | _, _ => false

def areEqualInlineKeyboardButtons (lhs rhs : InlineKeyboardButton Unit) : Bool :=
  lhs.text == rhs.text && lhs.iconCustomEmojiId == rhs.iconCustomEmojiId && lhs.style == rhs.style &&
    areEqualInlineKeyboardButtonTypes printTargetChat lhs.type rhs.type

def areEqualInlineKeyboards (lhs rhs : InlineKeyboard Unit) : Bool :=
  Slots.pairwise (Slots.pairwise (areEqualInlineKeyboardButtons printTargetChat)) lhs rhs

def ReplyMarkup.rows : ReplyMarkup → Option (InlineKeyboard Unit)
  | .inlineKeyboard rows => some rows
  | _ => none

-- Any other markup counts as none.
def inlineKeyboard (replyMarkup : Option ReplyMarkup) : Option (InlineKeyboard Unit) := replyMarkup.bind ReplyMarkup.rows

def setMessageReplyMarkup (messageInfo : MessageInfo) (replyMarkup : Option ReplyMarkup) : Except Check MessageInfo :=
  match inlineKeyboard replyMarkup, messageInfo.replyMarkup with
  | none, none => .ok messageInfo
  | some new, some (.inlineKeyboard old) =>
      if areEqualInlineKeyboards printTargetChat old new then .ok messageInfo
      else .ok { messageInfo with replyMarkup := some (.inlineKeyboard new), isContentChanged := true }
  | some _, some _ => .error .replyMarkupInlineKeyboard
  | new, _ => .ok { messageInfo with replyMarkup := new.map .inlineKeyboard, isContentChanged := true }

def createMessage (message : Message) : Except Check MessageInfo :=
  let messageInfo : MessageInfo := {
    chatId := message.chatId
    id := message.id
    date := message.date
    editDate := message.editDate
    senderTag := message.senderTag
    content := message.content
    isOutgoing := message.isOutgoing
    isSelfDestruct := message.hasSelfDestructType
    isImported := message.hasImportInfo }
  setMessageReplyMarkup printTargetChat (setMessageSuggestedPostInfo messageInfo message.suggestedPostInfo)
    message.replyMarkup

-- The branch of add_message for a message that is stored already. The swaps give
-- the new object what the old one had, and the setters offer it the new values.
def mergeMessage (messageInfo newMessageInfo : MessageInfo) (forceUpdateContent : Bool) : Except Check MessageInfo :=
  let isContentChanged :=
    forceUpdateContent || messageInfo.isContentChanged || messageInfo.senderTag != newMessageInfo.senderTag
  let content :=
    if !forceUpdateContent && newMessageInfo.content.type != .messagePoll then messageInfo.content
    else newMessageInfo.content
  let merged := { newMessageInfo with
    isContentChanged := isContentChanged
    content := content
    suggestedPostInfo := messageInfo.suggestedPostInfo
    replyMarkup := messageInfo.replyMarkup }
  setMessageReplyMarkup printTargetChat (setMessageSuggestedPostInfo merged newMessageInfo.suggestedPostInfo)
    newMessageInfo.replyMarkup

abbrev MessageTable := Table MessageFullId MessageInfo

def addMessage (messages : MessageTable) (newMessageInfo : MessageInfo) (forceUpdateContent : Bool) :
    Except Check MessageTable :=
  match messages.lookup newMessageInfo.fullId with
  | none => .ok (messages.insert newMessageInfo.fullId newMessageInfo)
  | some messageInfo => do
      let merged ← mergeMessage printTargetChat messageInfo newMessageInfo forceUpdateContent
      return messages.insert newMessageInfo.fullId merged

def changeMessage (messages : MessageTable) (fullId : MessageFullId)
    (change : MessageInfo → Except Check MessageInfo) : Except Check MessageTable :=
  match messages.lookup fullId with
  | none => .ok messages
  | some messageInfo => do
      let changed ← change messageInfo
      return messages.insert fullId changed

def updateMessageContent (messages : MessageTable) (fullId : MessageFullId) (content : MessageContent) :
    Except Check MessageTable :=
  changeMessage messages fullId (fun messageInfo => .ok { messageInfo with content := content, isContentChanged := true })

def onUpdateMessageSuggestedPostInfo (messages : MessageTable) (fullId : MessageFullId)
    (suggestedPostInfo : Option SuggestedPostInfo) : Except Check MessageTable :=
  changeMessage messages fullId (fun messageInfo => .ok (setMessageSuggestedPostInfo messageInfo suggestedPostInfo))

def onUpdateMessageEdited (messages : MessageTable) (fullId : MessageFullId) (editDate : Int)
    (replyMarkup : Option ReplyMarkup) : Except Check MessageTable :=
  changeMessage messages fullId (fun messageInfo =>
    setMessageReplyMarkup printTargetChat { messageInfo with editDate := editDate } replyMarkup)

-- What add_message_update, the answer to an edit request and the answer to a
-- sent message do to the message they show.
def resetContentChanged (messages : MessageTable) (fullId : MessageFullId) : Except Check MessageTable :=
  changeMessage messages fullId (fun messageInfo => .ok { messageInfo with isContentChanged := false })

def getMessage (messages : MessageTable) (chatId messageId : Int) (forceCache : Bool) : Option MessageInfo :=
  if messageId = 0 then none
  else
    match messages.lookup (chatId, messageId) with
    | none => none
    | some messageInfo => if !forceCache && messageInfo.content.type == .messagePoll then none else some messageInfo

end Keyboards

inductive MemberStatus where
  | creator | administrator | member | restricted | left | banned
deriving DecidableEq

structure SupergroupInfo where
  status : MemberStatus
  date : Int
  isSupergroup : Bool
deriving DecidableEq

inductive ChatInfo where
  | privateChat
  | group
  | supergroup (info : Option SupergroupInfo)
  | unknown
deriving DecidableEq

-- What need_skip_update_message reads besides the message.
structure Surroundings where
  chat : Option ChatInfo
  unixTime : Int
  authorizationDate : Int := 0
  myId : Int := 0
deriving DecidableEq

def ContentType.isReportedWhenOutgoing : ContentType → Bool
  | .messageChatChangeTitle | .messageChatChangePhoto | .messageChatDeletePhoto | .messageChatDeleteMember _
  | .messageChatSetTheme | .messagePinMessage _ | .messageProximityAlertTriggered _ _ | .messageVideoChatScheduled
  | .messageVideoChatStarted | .messageVideoChatEnded | .messageInviteVideoChatParticipants
  | .messageForumTopicCreated | .messageForumTopicEdited | .messageForumTopicIsClosedToggled
  | .messageForumTopicIsHiddenToggled | .messageGiveawayCreated | .messageGiveaway | .messageGiveawayWinners
  | .messageGiveawayCompleted | .messagePaymentRefunded | .messageSuggestedPostApprovalFailed
  | .messageSuggestedPostApproved | .messageSuggestedPostDeclined | .messageSuggestedPostPaid
  | .messageSuggestedPostRefunded | .messagePollOptionAdded | .messagePollOptionDeleted => true
  | _ => false

def ContentType.isNeverReported : ContentType → Bool
  | .messageGameScore | .messagePaymentSuccessful | .messagePassportDataSent | .messageCall | .messageUnsupported
  | .messageContactRegistered | .messageExpiredPhoto | .messageExpiredVideo | .messageExpiredVideoNote
  | .messageExpiredVoiceNote | .messageCustomServiceAction | .messageChatSetTheme | .messageWebAppDataSent
  | .messageGiftedPremium | .messageSuggestProfilePhoto | .messagePremiumGiftCode | .messageGiftedStars
  | .messageGiveawayPrizeStars | .messagePaidMessagesRefunded | .messageGroupCall | .messageGiftedTon
  | .messageSuggestBirthdate | .messageUpgradedGiftPurchaseOffer | .messageUpgradedGiftPurchaseOfferRejected
  | .messageChatHasProtectedContentToggled | .messageChatHasProtectedContentDisableRequested => true
  | _ => false

-- The switch over the contents of a message that is to be reported otherwise;
-- none when it goes on.
def ContentType.decides (isInSupergroup : Bool) : ContentType → Option Bool
  | .messageChatAddMembers memberUserIds => if memberUserIds = [] then some true else none
  | .messageSupergroupChatCreate => if !isInSupergroup then some true else none
  | .messagePinMessage messageId => if messageId ≤ 0 then some true else none
  | .messageProximityAlertTriggered traveler watcher => some (!traveler.isUser || !watcher.isUser)
  | type => if type.isNeverReported then some true else none

def supergroupDecides (surroundings : Surroundings) (supergroupInfo : SupergroupInfo) (type : ContentType)
    (messageDate : Int) : Option Bool :=
  if supergroupInfo.status = .left ∨ supergroupInfo.status = .banned then
    match type with
    | .messageChatDeleteMember userId => some (userId != surroundings.myId)
    | _ => some true
  else if supergroupInfo.date > messageDate ∨ surroundings.authorizationDate > messageDate then some true
  else if !supergroupInfo.isSupergroup ∧ type = .messageSupergroupChatCreate then some true
  else none

-- need_skip_update_message up to the test of is_edited: some is an early return.
def decidesToSkip (surroundings : Surroundings) (chatId : Int) (messageInfo : MessageInfo) :
    Except Check (Option Bool) := do
  let chat ← if chatId = 0 then pure ChatInfo.privateChat else surroundings.chat.elim (.error .chatFound) pure
  let type := messageInfo.content.type
  if messageInfo.isOutgoing ∧ chatId ≠ 0 ∧ !type.isReportedWhenOutgoing then return some true
  let messageDate := if messageInfo.editDate = 0 then messageInfo.date else messageInfo.editDate
  if messageDate ≤ surroundings.unixTime - 86400 then return some true
  let (isInSupergroup, decided) ← match chat with
    | .supergroup info => do
        let supergroupInfo ← info.elim (.error .supergroupInfoFound) pure
        pure (true, supergroupDecides surroundings supergroupInfo type messageDate)
    | _ => pure (false, none)
  if decided.isSome then return decided
  if messageInfo.isSelfDestruct then return some true
  if messageInfo.isImported then return some true
  return type.decides isInSupergroup

def needSkipUpdateMessage (messages : MessageTable) (surroundings : Surroundings) (chatId : Int)
    (messageInfo : MessageInfo) (isEdited : Bool) : Except Check Bool := do
  match ← decidesToSkip surroundings chatId messageInfo with
  | some skip => return skip
  | none =>
      if isEdited ∧ chatId ≠ 0 then
        match getMessage messages chatId messageInfo.id true with
        | some oldMessage => return !oldMessage.isContentChanged
        | none => return false
      else return false

-- One message of process_new_message_queue, after the requests it waited for.
-- Returns the message of the update, or none when the update is skipped.
def processNewMessage (printTargetChat : TargetChat → String) (messages : MessageTable) (message : Message)
    (isEdited : Bool) (surroundings : Surroundings) : Except Check (MessageTable × Option MessageInfo) := do
  let newMessageInfo ← createMessage printTargetChat message
  let messages ← addMessage printTargetChat messages newMessageInfo false
  let messageInfo ← (messages.lookup message.fullId).elim (.error .messageInfoFound) pure
  let skip ← needSkipUpdateMessage messages surroundings message.chatId messageInfo isEdited
  if skip then return (messages, none)
  let messages ← resetContentChanged messages message.fullId
  return (messages, some messageInfo)

end TelegramBotApi.Messages
