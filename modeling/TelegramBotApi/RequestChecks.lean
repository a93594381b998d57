import TelegramBotApi.Json
import TelegramBotApi.Lib.Suspended
import TelegramBotApi.Lib.Tables

set_option autoImplicit false

namespace TelegramBotApi.RequestChecks

open Tables Suspended

inductive UserType where
  | regular | deleted | bot | unknown
deriving DecidableEq

structure UserInfo where
  type : UserType := .unknown
  haveAccess : Bool := false

structure GroupInfo where
  left : Bool
  kicked : Bool
  isActive : Bool
  upgradedToSupergroupId : Int

inductive ChatMemberStatus where
  | creator | administrator | member | restricted (isMember : Bool) | left | banned
deriving DecidableEq

structure SupergroupInfo where
  activeUsernames : List String
  status : ChatMemberStatus
  isSupergroup : Bool
  isForum : Bool
  isDirectMessages : Bool
  hasLocation : Bool

inductive ChatType where
  | privateChat (userId : Int)
  | group (groupId : Int)
  | supergroup (supergroupId : Int)
  | unknown
deriving DecidableEq

structure ChatInfo where
  type : ChatType := .unknown
  title : String := ""

inductive MessageTopic where
  | thread (messageThreadId : Int)
  | forum (forumTopicId : Int)
  | directMessages (directMessagesTopicId : Int)
  | savedMessages
deriving DecidableEq

structure MessageInfo where
  topicId : Option MessageTopic
  isPoll : Bool

structure Message where
  chatId : Int
  id : Int
  info : MessageInfo

structure BusinessConnection where
  id : String

structure Caches where
  users : Table Int UserInfo := ∅
  groups : Table Int GroupInfo := ∅
  supergroups : Table Int SupergroupInfo := ∅
  chats : Table Int ChatInfo := ∅
  messages : Table (Int × Int) MessageInfo := ∅
  businessConnections : Table String BusinessConnection := ∅

inductive AccessRights where
  | read | readMembers | edit | write
deriving DecidableEq

-- fail_query and fail_query_with_error, with what they are called with.
inductive Refusal where
  | failQuery (code : Int) (description : String) (migrateToChatId : Option Int)
  | failQueryWithError (code : Int) (message defaultMessage : String)

inductive Request where
  | searchPublicChat (username : String)
  | getChat (chatId : Int)
  | getUser (userId : Int)
  | getMessage (chatId messageId : Int)
  | getMessages (chatId : Int) (messageIds : List Int)
  | getForumTopic (chatId forumTopicId : Int)
  | getBusinessConnection (connectionId : String)

inductive Answer where
  | error (code : Int) (message : String)
  | chat (chatId : Int) (title : String)
  | user (userId : Int)
  | message (message : Message)
  | messages (messages : List (Option Message))
  | forumTopic (chatId forumTopicId : Int)
  | businessConnection (connection : BusinessConnection)

inductive Check where
  | resultType
  | userFound | groupFound | supergroupFound | chatFound | messageFound
  | sameTitle | sameChat | sameMessage | sameTopic
  | clientMessageId
  | unreachable
deriving DecidableEq

abbrev Checks (α : Type) := Program Caches Request Answer Check (Except Refusal α)

def succeed {α : Type} (value : α) : Checks α := .done (.ok value)

def failQuery {α : Type} (code : Int) (description : String) : Checks α := .done (.error (.failQuery code description none))

def failQueryWithError {α : Type} (code : Int) (message defaultMessage : String) : Checks α :=
  .done (.error (.failQueryWithError code message defaultMessage))

def found {α β : Type} (check : Check) (value : Option α) (next : α → Checks β) : Checks β :=
  match value with
  | some value => next value
  | none => .fault check

def require {β : Type} (check : Check) (holds : Bool) (next : Checks β) : Checks β := if holds then next else .fault check

-- What is passed as on_success to an earlier check.
def onSuccess {α β : Type} (next : Caches → α → Checks β) (now : Caches) (checks : Checks α) : Checks β :=
  checks.andThen (fun now result =>
    match result with
    | .ok value => next now value
    | .error refusal => .done (.error refusal)) now

def generalForumTopicId : Int := 1

def asTdlibMessageId (messageId : Int) : Int := messageId * 2 ^ 20

def asClientMessageId (messageId : Int) : Int := Int.bmod (messageId / 2 ^ 20) (2 ^ 32)

def getSupergroupChatId (supergroupId : Int) : Int := -1000000000000 - supergroupId

def isChatMember : ChatMemberStatus → Bool
  | .banned | .left => false
  | .restricted isMember => isMember
  | _ => true

def SupergroupInfo.isPublic (supergroup : SupergroupInfo) : Bool := !supergroup.activeUsernames.isEmpty || supergroup.hasLocation

def AccessRights.needWriteAccess (rights : AccessRights) : Bool := rights = .write

def AccessRights.needEditAccess (rights : AccessRights) : Bool := rights = .edit || rights.needWriteAccess

def failInactiveGroup (group : GroupInfo) : Checks Int :=
  if group.upgradedToSupergroupId ≠ 0 then
    .done (.error (.failQuery 400 "Bad Request: group chat was upgraded to a supergroup chat"
      (some (getSupergroupChatId group.upgradedToSupergroupId))))
  else failQuery 403 "Forbidden: the group chat was deleted"

def checkGroupAccess (chatId : Int) (rights : AccessRights) (group : GroupInfo) : Checks Int :=
  -- member list is inaccessible in deactivated groups
  let needWriteAccess := rights.needWriteAccess || rights = .readMembers
  let needEditAccess := rights.needEditAccess || rights = .readMembers
  if !group.isActive && needWriteAccess then failInactiveGroup group
  else if group.isActive && group.kicked && needEditAccess then
    failQuery 403 "Forbidden: bot was kicked from the group chat"
  else if group.isActive && group.left && needEditAccess then
    failQuery 403 "Forbidden: bot is not a member of the group chat"
  else succeed chatId

def checkSupergroupAccess (chatId : Int) (rights : AccessRights) (supergroup : SupergroupInfo) : Checks Int :=
  let kind := if supergroup.isSupergroup then "supergroup" else "channel"
  let needMoreAccessRights := if supergroup.isPublic then rights.needEditAccess else true
  if supergroup.status = .banned then failQuery 403 ("Forbidden: bot was kicked from the " ++ kind ++ " chat")
  else if !isChatMember supergroup.status && needMoreAccessRights then
    failQuery 403 ("Forbidden: bot is not a member of the " ++ kind ++ " chat")
  else succeed chatId

def checkChatAccess (chatId : Int) (rights : AccessRights) (chat : ChatInfo) (now : Caches) : Checks Int :=
  match chat.type with
  | .privateChat userId =>
      found .userFound (now.users.lookup userId) fun user =>
        if user.type = .deleted ∧ rights.needEditAccess = true then failQuery 403 "Forbidden: user is deactivated"
        else if user.type = .unknown then failQuery 400 "Bad Request: private chat not found"
        else succeed chatId
  | .group groupId => found .groupFound (now.groups.lookup groupId) (checkGroupAccess chatId rights)
  | .supergroup supergroupId => found .supergroupFound (now.supergroups.lookup supergroupId) (checkSupergroupAccess chatId rights)
  | .unknown => .fault .unreachable

-- Only channels, supergroups and bots can be named by their username.
def allowedByUsername (chat : ChatInfo) (now : Caches) (next : Checks Int) : Checks Int :=
  let notFound := failQuery 400 "Bad Request: chat not found"
  match chat.type with
  | .privateChat userId =>
      found .userFound (now.users.lookup userId) fun user => if user.type = .bot then next else notFound
  | .supergroup _ => next
  | _ => notFound

-- TdOnCheckChatCallback
def onCheckChat (byUsername : Bool) (rights : AccessRights) (now : Caches) : Answer → Checks Int
  | .error code message => failQueryWithError code message "chat not found"
  | .chat chatId title =>
      found .chatFound (now.chats.lookup chatId) fun chat =>
        require .sameTitle (chat.title = title) <|
          if byUsername then allowedByUsername chat now (checkChatAccess chatId rights chat now)
          else checkChatAccess chatId rights chat now
  | _ => .fault .resultType

def haveAccess (now : Caches) (userId : Int) : Bool := (now.users.lookup userId).any UserInfo.haveAccess

-- A private chat with a user the bot has no access to is asked for anew.
def accessibleChat (now : Caches) (chatId : Int) : Option ChatInfo :=
  (now.chats.lookup chatId).filter fun chat =>
    match chat.type with
    | .privateChat userId => haveAccess now userId
    | _ => true

section Checks

-- td::to_integer and td::to_integer_safe for int64
variable (toInteger : String → Int) (toIntegerSafe : String → Option Int)

def checkChat (chatIdText : String) (rights : AccessRights) (allowUnknownUser : Bool) (now : Caches) : Checks Int :=
  if chatIdText = "" then failQuery 400 "Bad Request: chat_id is empty"
  else if chatIdText.toList.head? = some '@' then
    .ask (.searchPublicChat chatIdText) (fun now _ => now) (onCheckChat true rights)
  else
    let chatId := toInteger chatIdText
    if allowUnknownUser && decide (0 < chatId) && decide (chatId < 2 ^ 40) then succeed chatId
    else
      match accessibleChat now chatId with
      | some chat => checkChatAccess chatId rights chat now
      | none => .ask (.getChat chatId) (fun now _ => now) (onCheckChat false rights)

def addMessage (now : Caches) (message : Message) : Caches :=
  { now with messages := now.messages.insert (message.chatId, message.id) message.info }

def absorbMessage (now : Caches) : Answer → Caches
  | .message message => addMessage now message
  | _ => now

-- TdOnCheckMessageCallback
def onCheckMessage (chatId messageId : Int) (allowEmpty : Bool) (messageType : String) (_ : Caches) :
    Answer → Checks (Int × Int)
  | .error code message =>
      if allowEmpty then succeed (chatId, 0) else failQueryWithError code message (messageType ++ " not found")
  | .message message =>
      require .sameChat (message.chatId = chatId) <| require .sameMessage (message.id = messageId) <|
        succeed (chatId, messageId)
  | _ => .fault .resultType

def haveMessageAccess {β : Type} (chatId : Int) (now : Caches) (next : Bool → Checks β) : Checks β :=
  -- for unknown private chats during paid broadcasts
  if 0 < chatId then next true
  else
    found .chatFound (now.chats.lookup chatId) fun chat =>
      match chat.type with
      | .privateChat _ | .group _ => next true
      | .supergroup supergroupId =>
          found .supergroupFound (now.supergroups.lookup supergroupId) fun supergroup => next (isChatMember supergroup.status)
      | .unknown => .fault .unreachable

def getMessage (chatId messageId : Int) (forceCache : Bool) (now : Caches) : Option MessageInfo :=
  if messageId = 0 then none else (now.messages.lookup (chatId, messageId)).filter fun message => forceCache || !message.isPoll

def checkMessage (chatIdText : String) (messageId : Int) (allowEmpty : Bool) (rights : AccessRights) (messageType : String)
    (now : Caches) : Checks (Int × Int) :=
  onSuccess (fun now chatId =>
    let notFound := failQueryWithError 400 "MESSAGE_NOT_FOUND" (messageType ++ " not found")
    if messageId ≤ 0 ∧ allowEmpty = false then notFound
    else haveMessageAccess chatId now fun haveAccess =>
      if !haveAccess then notFound
      else if messageId ≤ 0 then succeed (chatId, 0)
      else .ask (.getMessage chatId messageId) absorbMessage (onCheckMessage chatId messageId allowEmpty messageType))
    now (checkChat toInteger chatIdText rights false now)

-- The loop of TdOnCheckMessagesCallback: what it adds, and what it returns.
def addMessages (allowEmpty : Bool) : Caches → List (Option Message) → Caches
  | now, [] => now
  | now, none :: messages => if allowEmpty then addMessages allowEmpty now messages else now
  | now, some message :: messages => addMessages allowEmpty (addMessage now message) messages

def messageIds (chatId : Int) (allowEmpty : Bool) (messageType : String) : List (Option Message) → List Int →
    Checks (Int × List Int)
  | [], ids => succeed (chatId, ids)
  | none :: messages, ids =>
      if allowEmpty then messageIds chatId allowEmpty messageType messages ids
      else failQueryWithError 400 (messageType ++ " not found") ""
  | some message :: messages, ids =>
      require .sameChat (message.chatId = chatId) <|
        messageIds chatId allowEmpty messageType messages (ids ++ [message.id])

def absorbMessages (allowEmpty : Bool) (now : Caches) : Answer → Caches
  | .messages messages => addMessages allowEmpty now messages
  | _ => now

def onCheckMessages (chatId : Int) (allowEmpty : Bool) (messageType : String) (_ : Caches) : Answer → Checks (Int × List Int)
  | .error code message =>
      if allowEmpty then succeed (chatId, []) else failQueryWithError code message (messageType ++ " not found")
  | .messages messages => messageIds chatId allowEmpty messageType messages []
  | _ => .fault .resultType

def checkMessages (chatIdText : String) (ids : List Int) (allowEmpty : Bool) (rights : AccessRights) (messageType : String)
    (now : Caches) : Checks (Int × List Int) :=
  onSuccess (fun now chatId => haveMessageAccess chatId now fun haveAccess =>
    if !haveAccess then failQueryWithError 400 "MESSAGE_NOT_FOUND" (messageType ++ " not found")
    else .ask (.getMessages chatId ids) (absorbMessages allowEmpty) (onCheckMessages chatId allowEmpty messageType))
    now (checkChat toInteger chatIdText rights false now)

def isSupergroupChat (now : Caches) (chatId : Int) : Bool :=
  match (now.chats.lookup chatId).map ChatInfo.type with
  | some (.supergroup supergroupId) => (now.supergroups.lookup supergroupId).any SupergroupInfo.isSupergroup
  | _ => false

abbrev InTopic := Int × Option MessageTopic

-- TdOnCheckForumTopicCallback
def onCheckForumTopic (chatId forumTopicId : Int) (now : Caches) : Answer → Checks InTopic
  | .error code message => failQueryWithError code message "Message thread not found"
  | .forumTopic inChat topic =>
      require .sameChat (inChat = chatId) <| require .sameTopic (topic = forumTopicId) <|
        let messageId := asTdlibMessageId forumTopicId
        if isSupergroupChat now chatId && (getMessage chatId messageId false now).isNone then
          .ask (.getMessage chatId messageId) absorbMessage fun now answer =>
            onSuccess (fun _ checked => succeed (checked.1, some (.forum forumTopicId))) now
              (onCheckMessage chatId messageId true "top forum topic message" now answer)
        else succeed (chatId, some (.forum forumTopicId))
  | _ => .fault .resultType

def chooseTopic (forumTopicId directMessagesTopicId : Int) (allowUnknownUser : Bool) (now : Caches) (chatId : Int) :
    Checks InTopic :=
  let askForumTopic : Checks InTopic :=
    if forumTopicId ≠ 0 then
      .ask (.getForumTopic chatId forumTopicId) (fun now _ => now) (onCheckForumTopic chatId forumTopicId)
    else succeed (chatId, none)
  if forumTopicId = 0 ∧ directMessagesTopicId = 0 then succeed (chatId, none)
  else
    match (now.chats.lookup chatId).map ChatInfo.type with
    | none => require .chatFound allowUnknownUser (succeed (chatId, none))
    | some (.supergroup supergroupId) =>
        found .supergroupFound (now.supergroups.lookup supergroupId) fun supergroup =>
          if supergroup.isDirectMessages then succeed (chatId, some (.directMessages directMessagesTopicId))
          else if supergroup.isForum then
            if forumTopicId = generalForumTopicId then failQuery 400 "Bad Request: message thread not found"
            else askForumTopic
          else succeed (chatId, none)
    | some (.privateChat _) => askForumTopic
    | some _ => succeed (chatId, none)

def checkMessageTopic (chatIdText : String) (forumTopicId directMessagesTopicId : Int) (allowUnknownUser : Bool)
    (now : Caches) : Checks InTopic :=
  onSuccess (chooseTopic forumTopicId directMessagesTopicId allowUnknownUser) now
    (checkChat toInteger chatIdText .write (allowUnknownUser && decide (forumTopicId = 0)) now)

def getForumTopicId {β : Type} (topicId : Option MessageTopic) (next : Int → Checks β) : Checks β :=
  match topicId with
  | some (.thread messageThreadId) =>
      require .clientMessageId (asTdlibMessageId (asClientMessageId messageThreadId) = messageThreadId) <|
        next (asClientMessageId messageThreadId)
  | some (.forum forumTopicId) => next (if forumTopicId = generalForumTopicId then 0 else forumTopicId)
  | _ => next 0

def isReplyInSameTopic {β : Type} (replyTopicId topicId : Option MessageTopic) (next : Bool → Checks β) : Checks β :=
  match topicId with
  -- if topic isn't specified explicitly, then it is definitely the same
  | none => next true
  | some (.forum forumTopicId) => getForumTopicId replyTopicId fun id => next (id = forumTopicId)
  -- direct messages can't be answered in a different topic
  | some (.directMessages _) => next true
  | some _ => .fault .unreachable

structure InputTextQuote where
  text : String
  position : Int

structure ReplyDetails where
  quote : Option InputTextQuote := none
  checklistTaskId : Int := 0
  pollOptionId : String := ""

structure InputReplyParameters where
  replyInChatId : String := ""
  replyToMessageId : Int := 0
  replyToEphemeralMessageId : Int := 0
  allowSendingWithoutReply : Bool := false
  details : ReplyDetails := {}

structure CheckedReplyParameters where
  replyInChatId : Int := 0
  replyToMessageId : Int := 0
  replyToEphemeralMessageId : Int := 0
  details : ReplyDetails := {}

inductive InputMessageReplyTo where
  | ephemeralMessage (id : Int)
  | externalMessage (chatId messageId : Int) (details : ReplyDetails)
  | message (messageId : Int) (details : ReplyDetails)

def getInputMessageReplyTo (reply : CheckedReplyParameters) : Option InputMessageReplyTo :=
  if 0 < reply.replyToEphemeralMessageId then some (.ephemeralMessage reply.replyToEphemeralMessageId)
  else if 0 < reply.replyToMessageId then
    if reply.replyInChatId ≠ 0 then some (.externalMessage reply.replyInChatId reply.replyToMessageId reply.details)
    else some (.message reply.replyToMessageId reply.details)
  else none

structure Destination where
  chatId : Int
  topicId : Option MessageTopic
  replyTo : Option InputMessageReplyTo

def sendTo (inTopic : InTopic) (reply : CheckedReplyParameters) : Checks Destination :=
  succeed ⟨inTopic.1, inTopic.2, getInputMessageReplyTo reply⟩

def onReplyMessageResolved (inTopic : InTopic) (details : ReplyDetails) (now : Caches) (replyTo : Int × Int) :
    Checks Destination :=
  let (replyInChatId, replyToMessageId) := replyTo
  if replyToMessageId ≤ 0 then sendTo inTopic { replyToMessageId := replyToMessageId }
  else
    -- reply_in_chat_id must be non-zero only for replies in different chats or different topics
    let external := sendTo inTopic { replyInChatId, replyToMessageId, details }
    if replyInChatId = inTopic.1 then
      found .messageFound (getMessage replyInChatId replyToMessageId true now) fun message =>
        isReplyInSameTopic message.topicId inTopic.2 fun same =>
          if same then sendTo inTopic { replyToMessageId, details } else external
    else external

def onReplyChatResolved (inTopic : InTopic) (reply : InputReplyParameters) (now : Caches) (replyInChatId : Int) :
    Checks Destination :=
  haveMessageAccess replyInChatId now fun haveAccess =>
    if !haveAccess then failQueryWithError 400 "MESSAGE_NOT_FOUND" "message to be replied not found"
    else
      .ask (.getMessage replyInChatId reply.replyToMessageId) absorbMessage fun now answer =>
        onSuccess (onReplyMessageResolved inTopic reply.details) now
          (onCheckMessage replyInChatId reply.replyToMessageId reply.allowSendingWithoutReply "message to be replied" now answer)

def resolveReply (replyInChatId : String) (reply : InputReplyParameters) (now : Caches) (inTopic : InTopic) :
    Checks Destination :=
  if 0 < reply.replyToEphemeralMessageId then
    sendTo inTopic { replyToEphemeralMessageId := reply.replyToEphemeralMessageId }
  else if reply.replyToMessageId ≤ 0 then onReplyMessageResolved inTopic reply.details now (0, 0)
  else if replyInChatId = "" then onReplyChatResolved inTopic reply now inTopic.1
  else onSuccess (onReplyChatResolved inTopic reply) now (checkChat toInteger replyInChatId .read false now)

-- The chat of the reply as it is named, unless it is named as the chat itself.
def otherChat (chatIdText : String) (reply : InputReplyParameters) : String :=
  if chatIdText = reply.replyInChatId then "" else reply.replyInChatId

def checkReplyParameters (chatIdText : String) (reply : InputReplyParameters) (forumTopicId directMessagesTopicId : Int)
    (allowUnknownUser : Bool) (now : Caches) : Checks Destination :=
  onSuccess (resolveReply toInteger (otherChat chatIdText reply) reply) now
    (checkMessageTopic toInteger chatIdText forumTopicId directMessagesTopicId allowUnknownUser now)

inductive CommandScope where
  | default | allPrivateChats | allGroupChats | allChatAdministrators
  | chat (chatId : Int)
  | chatAdministrators (chatId : Int)
  | chatMember (chatId userId : Int)
deriving DecidableEq

def CommandScope.namesChat : CommandScope → Bool
  | .chat _ | .chatAdministrators _ | .chatMember _ _ => true
  | _ => false

structure BotCommandScope where
  scope : CommandScope
  chatId : String := ""
  userId : Int := 0
  named : chatId ≠ "" → scope.namesChat = true := by first | exact fun _ => rfl | exact fun nonempty => absurd rfl nonempty

def getBotCommandScope (getRequiredLongField : JsonObject → String → Result Int) : JsonValue → Result BotCommandScope
  | .object object => do
      let type ← JsonObject.getRequiredStringField object "type"
      if type = "default" then return { scope := .default }
      else if type = "all_private_chats" then return { scope := .allPrivateChats }
      else if type = "all_group_chats" then return { scope := .allGroupChats }
      else if type = "all_chat_administrators" then return { scope := .allChatAdministrators }
      else if type ≠ "chat" ∧ type ≠ "chat_administrators" ∧ type ≠ "chat_member" then
        throw ⟨400, "Unsupported type specified"⟩
      else
        let chatId ← JsonObject.getRequiredStringField object "chat_id"
        if chatId = "" then throw ⟨400, "Empty chat_id specified"⟩
        else if type = "chat" then return { scope := .chat 0, chatId }
        else if type = "chat_administrators" then return { scope := .chatAdministrators 0, chatId }
        else
          let userId ← getRequiredLongField object "user_id"
          if userId ≤ 0 then throw ⟨400, "Invalid user_id specified"⟩
          else return { scope := .chatMember 0 userId, chatId, userId }
  | _ => .error ⟨400, "BotCommandScope must be an Object"⟩

-- check_user_no_fail goes on whatever the answer is.
def checkUserNoFail {β : Type} (userId : Int) (now : Caches) (next : Checks β) : Checks β :=
  if haveAccess now userId then next else .ask (.getUser userId) (fun now _ => now) (fun _ _ => next)

def scopeInChat (scope : BotCommandScope) (now : Caches) (chatId : Int) : Checks CommandScope :=
  match scope.scope with
  | .chat _ => succeed (.chat chatId)
  | .chatAdministrators _ => succeed (.chatAdministrators chatId)
  | .chatMember _ _ => checkUserNoFail scope.userId now (succeed (.chatMember chatId scope.userId))
  | _ => .fault .unreachable

def checkBotCommandScope (scope : BotCommandScope) (now : Caches) : Checks CommandScope :=
  if scope.chatId = "" then succeed scope.scope
  else onSuccess (scopeInChat scope) now (checkChat toInteger scope.chatId .readMembers false now)

def addBusinessConnection (now : Caches) (connection : BusinessConnection) : Caches :=
  if (now.businessConnections.lookup connection.id).isSome then now
  else { now with businessConnections := now.businessConnections.insert connection.id connection }

def absorbBusinessConnection (now : Caches) : Answer → Caches
  | .businessConnection connection => addBusinessConnection now connection
  | _ => now

-- TdOnCheckBusinessConnectionCallback
def onCheckBusinessConnection (chatId : Int) (_ : Caches) : Answer → Checks (String × Int)
  | .error code message => failQueryWithError code message "business connection not found"
  | .businessConnection connection => succeed (connection.id, chatId)
  | _ => .fault .resultType

def getBusinessConnectionChatId (chatIdText : String) : Except String Int :=
  if chatIdText = "" then .error "Bad Request: chat identifier is empty"
  else
    match toIntegerSafe chatIdText with
    | none => .error "Bad Request: chat identifier must be a valid Integer"
    | some chatId => .ok chatId

def checkBusinessConnectionChatId (connectionId chatIdText : String) (now : Caches) : Checks (String × Int) :=
  match getBusinessConnectionChatId toIntegerSafe chatIdText with
  | .error message => failQueryWithError 400 message ""
  | .ok chatId =>
      match now.businessConnections.lookup connectionId with
      | some connection => succeed (connection.id, chatId)
      | none =>
          .ask (.getBusinessConnection connectionId) absorbBusinessConnection (onCheckBusinessConnection chatId)

inductive Command where
  | chat (chatIdText : String) (rights : AccessRights)
  | message (chatIdText : String) (messageId : Int) (allowEmpty : Bool) (rights : AccessRights) (messageType : String)
  | messages (chatIdText : String) (messageIds : List Int) (allowEmpty : Bool) (rights : AccessRights) (messageType : String)
  | send (chatIdText : String) (reply : InputReplyParameters) (forumTopicId directMessagesTopicId : Int)
      (allowUnknownUser : Bool)
  | botCommands (scope : BotCommandScope)
  | business (connectionId chatIdText : String)

inductive Passed where
  | chat (chatId : Int)
  | message (checked : Int × Int)
  | messages (checked : Int × List Int)
  | send (destination : Destination)
  | botCommands (scope : CommandScope)
  | business (checked : String × Int)

def begin (command : Command) (now : Caches) : Checks Passed :=
  match command with
  | .chat chatIdText rights =>
      onSuccess (fun _ chatId => succeed (.chat chatId)) now (checkChat toInteger chatIdText rights false now)
  | .message chatIdText messageId allowEmpty rights messageType =>
      onSuccess (fun _ checked => succeed (.message checked)) now
        (checkMessage toInteger chatIdText messageId allowEmpty rights messageType now)
  | .messages chatIdText messageIds allowEmpty rights messageType =>
      onSuccess (fun _ checked => succeed (.messages checked)) now
        (checkMessages toInteger chatIdText messageIds allowEmpty rights messageType now)
  | .send chatIdText reply forumTopicId directMessagesTopicId allowUnknownUser =>
      onSuccess (fun _ destination => succeed (.send destination)) now
        (checkReplyParameters toInteger chatIdText reply forumTopicId directMessagesTopicId allowUnknownUser now)
  | .botCommands scope => onSuccess (fun _ scope => succeed (.botCommands scope)) now (checkBotCommandScope toInteger scope now)
  | .business connectionId chatIdText =>
      onSuccess (fun _ checked => succeed (.business checked)) now
        (checkBusinessConnectionChatId toIntegerSafe connectionId chatIdText now)

end Checks

inductive Update where
  | user (userId : Int) (info : UserInfo)
  | userFullInfo (userId : Int)
  | basicGroup (groupId : Int) (info : GroupInfo)
  | supergroup (supergroupId : Int) (info : SupergroupInfo)
  | newChat (chatId : Int) (info : ChatInfo)
  | chatTitle (chatId : Int) (title : String)
  | message (message : Message)
  | deleteMessages (chatId : Int) (messageIds : List Int)
  | businessConnection (connection : BusinessConnection)

def addUserInfo (now : Caches) (userId : Int) : Caches :=
  if (now.users.lookup userId).isSome then now else { now with users := now.users.insert userId {} }

def deleteMessages (messages : Table (Int × Int) MessageInfo) (chatId : Int) (messageIds : List Int) :
    Table (Int × Int) MessageInfo :=
  messageIds.foldl (fun messages messageId => messages.erase (chatId, messageId)) messages

def onUpdate (now : Caches) : Update → Caches
  | .user userId info => { now with users := now.users.insert userId info }
  | .userFullInfo userId => addUserInfo now userId
  | .basicGroup groupId info => { now with groups := now.groups.insert groupId info }
  | .supergroup supergroupId info => { now with supergroups := now.supergroups.insert supergroupId info }
  | .newChat chatId info => { now with chats := now.chats.insert chatId info }
  | .chatTitle chatId title =>
      { now with chats := now.chats.insert chatId { (now.chats.lookup chatId).getD {} with title } }
  | .message message => addMessage now message
  | .deleteMessages chatId messageIds => { now with messages := deleteMessages now.messages chatId messageIds }
  | .businessConnection connection =>
      { now with businessConnections := now.businessConnections.insert connection.id connection }

end TelegramBotApi.RequestChecks
