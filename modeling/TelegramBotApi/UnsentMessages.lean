import TelegramBotApi.MessageMerge

set_option autoImplicit false

-- The messages that were handed to TDLib and are not sent yet, and the requests
-- that wait for them.
namespace TelegramBotApi.UnsentMessages

open Checked Tables
open Messages (MessageFullId ChatInfo)

abbrev QueryId := Nat

structure Query where
  id : QueryId
  method : String
deriving DecidableEq

structure Error where
  code : Int
  message : String
deriving DecidableEq

inductive SentMessage where
  | id (messageId : Int)              -- JsonMessageId
  | message (fullId : MessageFullId)  -- JsonMessage
deriving DecidableEq

inductive Reply where
  | message (message : SentMessage)
  | messages (messages : List SentMessage)
  | error (error : Error)
  | floodLimitExceeded
deriving DecidableEq

def Reply.isSuccess : Reply → Bool
  | .message _ | .messages _ => true
  | .error _ | .floodLimitExceeded => false

structure Answer where
  query : QueryId
  reply : Reply
deriving DecidableEq

structure PendingSendMessageQuery where
  query : Query
  isMultisend : Bool := false
  totalMessageCount : Int := 0
  awaitedMessageCount : Int := 0
  messages : List SentMessage := []
  error : Option Error := none
deriving DecidableEq

-- The callbacks that wait for the answer of TDLib: TdOnSendMessageCallback,
-- TdOnSendMessageAlbumCallback and TdOnForwardMessagesCallback.
inductive SendKind where
  | message | album | forward
deriving DecidableEq

structure SendRequest where
  kind : SendKind
  chatId : Int
  messageCount : Nat
  query : Query
deriving DecidableEq

-- What TDLib said about the messages of a request. Kept beside the state of the
-- client, which never reads it.
structure Outcome where
  returned : Nat := 0
  sent : Nat := 0
  failed : Nat := 0
deriving DecidableEq

structure Reports where
  unreported : Table MessageFullId QueryId := ∅
  outcomes : Table QueryId Outcome := ∅

structure State where
  yetUnsentMessages : Table MessageFullId Int := ∅
  yetUnsentMessageCount : Table Int Int := ∅
  pendingSendMessageQueries : Table Int PendingSendMessageQuery := ∅
  currentSendMessageQueryId : Int := 1
  messages : Finset MessageFullId := ∅  -- the keys of messages_
  loggingOut : Bool := false
  closing : Bool := false
  deleteRequests : List MessageFullId := []
  handlers : Table Nat SendRequest := ∅
  answers : List Answer := []
  requested : List QueryId := []
  reports : Reports := {}

inductive Check where
  | countFound           -- decrease_yet_unsent_message_count
  | countEnough
  | yetUnsentMessageFound  -- extract_yet_unsent_message_query_id
  | newMessageIdPositive -- on_message_send_succeeded
  | awaitedOne           -- on_message_send_succeeded, on_message_send_failed
  | pendingQueryFound    -- a null entry of pending_send_message_queries_ is never read
  | pendingQueryNew      -- get_send_message_query_id
  | messageNotNull       -- on_sent_message
  | messageEmplaced
  | handlerFound         -- on_result
  | resultKind           -- the callbacks
  | resultSize
  | chatFound            -- delete_message
  | supergroupInfoFound
deriving DecidableEq

def maxConcurrentlySentChatMessages : Int := 310

def isSpecialErrorCode (errorCode : Int) : Bool := errorCode = 401 || errorCode = 429 || errorCode ≥ 500

def State.answer (query : Query) (reply : Reply) (state : State) : State :=
  { state with answers := state.answers ++ [⟨query.id, reply⟩] }

def decreaseYetUnsentMessageCount (chatId count : Int) (state : State) : Except Check State :=
  match state.yetUnsentMessageCount.lookup chatId with
  | none => .error .countFound
  | some stored => do
      require .countEnough (stored ≥ count)
      let left := stored - count
      return { state with yetUnsentMessageCount :=
        if left = 0 then state.yetUnsentMessageCount.erase chatId else state.yetUnsentMessageCount.insert chatId left }

def extractYetUnsentMessageQueryId (fullId : MessageFullId) (state : State) : Except Check (Int × State) :=
  match state.yetUnsentMessages.lookup fullId with
  | none => .error .yetUnsentMessageFound
  | some queryId => do
      let state ← decreaseYetUnsentMessageCount fullId.1 1
        { state with yetUnsentMessages := state.yetUnsentMessages.erase fullId }
      return (queryId, state)

def pendingQuery (queryId : Int) (state : State) : Except Check PendingSendMessageQuery :=
  (state.pendingSendMessageQueries.lookup queryId).elim (.error .pendingQueryFound) .ok

def State.setPending (queryId : Int) (query : PendingSendMessageQuery) (state : State) : State :=
  { state with pendingSendMessageQueries := state.pendingSendMessageQueries.insert queryId query }

def State.erasePending (queryId : Int) (state : State) : State :=
  { state with pendingSendMessageQueries := state.pendingSendMessageQueries.erase queryId }

def sentMessage (method : String) (chatId newMessageId : Int) : SentMessage :=
  if method = "forwardmessages" ∨ method = "copymessages" then .id newMessageId else .message (chatId, newMessageId)

def onMessageSendSucceeded (chatId newMessageId oldMessageId : Int) (state : State) : Except Check State := do
  let state := { state with messages := insert (chatId, newMessageId) state.messages }
  require .newMessageIdPositive (newMessageId > 0)
  let (queryId, state) ← extractYetUnsentMessageQueryId (chatId, oldMessageId) state
  let query ← pendingQuery queryId state
  if query.isMultisend then
    let query := { query with
      messages := query.messages ++ [sentMessage query.query.method chatId newMessageId]
      awaitedMessageCount := query.awaitedMessageCount - 1 }
    if query.awaitedMessageCount = 0 then
      let reply := match query.error with
        | none => Reply.messages query.messages
        | some error => .error error
      return (state.answer query.query reply).erasePending queryId
    return state.setPending queryId query
  else
    require .awaitedOne (query.awaitedMessageCount = 1)
    let sent := if query.query.method = "copymessage" then SentMessage.id newMessageId else .message (chatId, newMessageId)
    return (state.answer query.query (.message sent)).erasePending queryId

def groupSendFailed : String := "Group send failed"

def mergeError (query : PendingSendMessageQuery) (error : Error) : Option Error :=
  if query.error.isNone ∨ query.error.map Error.message = some groupSendFailed then
    if isSpecialErrorCode error.code ∨ error.code = 406 ∨ error.message = groupSendFailed then some error
    else
      let pos := query.totalMessageCount - query.awaitedMessageCount + 1
      some ⟨error.code, "Failed to send message #" ++ toString pos ++ " with the error message \"" ++ error.message ++ "\""⟩
  else query.error

def onMessageSendFailed (chatId oldMessageId newMessageId : Int) (error : Error) (state : State) :
    Except Check State := do
  let (queryId, state) ← extractYetUnsentMessageQueryId (chatId, oldMessageId) state
  let query ← pendingQuery queryId state
  let state ← if query.isMultisend then
      let query := { query with
        error := mergeError query error
        awaitedMessageCount := query.awaitedMessageCount - 1 }
      if query.awaitedMessageCount = 0 then
        pure ((state.answer query.query (.error (query.error.getD error))).erasePending queryId)
      else pure (state.setPending queryId query)
    else do
      require .awaitedOne (query.awaitedMessageCount = 1)
      pure ((state.answer query.query (.error error)).erasePending queryId)
  if newMessageId ≠ 0 ∧ !state.loggingOut ∧ !state.closing then
    return { state with deleteRequests := state.deleteRequests ++ [(chatId, newMessageId)] }
  return state

def getSendMessageQueryId (query : Query) (isMultisend : Bool) (state : State) : Except Check (Int × State) := do
  let queryId := state.currentSendMessageQueryId
  require .pendingQueryNew (state.pendingSendMessageQueries.lookup queryId = none)
  let state := { state with currentSendMessageQueryId := queryId + 1 }
  return (queryId, state.setPending queryId { query := query, isMultisend := isMultisend })

def onSentMessage (message : Option MessageFullId) (queryId : Int) (state : State) : Except Check State := do
  let fullId ← message.elim (.error .messageNotNull) pure
  require .messageEmplaced (state.yetUnsentMessages.lookup fullId = none)
  let query ← pendingQuery queryId state
  let state := { state with yetUnsentMessages := state.yetUnsentMessages.insert fullId queryId }
  return state.setPending queryId { query with
    awaitedMessageCount := query.awaitedMessageCount + 1
    totalMessageCount := query.totalMessageCount + 1 }

def deleteMessageError (chat : Option ChatInfo) : Except Check Error := do
  let chatInfo ← chat.elim (.error .chatFound) pure
  match chatInfo with
  | .supergroup info => do
      let supergroupInfo ← info.elim (.error .supergroupInfoFound) pure
      if supergroupInfo.status = .banned ∨ supergroupInfo.status = .left then
        if supergroupInfo.isSupergroup then return ⟨403, "Forbidden: bot is not a member of the supergroup chat"⟩
        else return ⟨403, "Forbidden: bot is not a member of the channel chat"⟩
      else return ⟨500, "Internal Server Error: sent message was immediately deleted and can't be returned"⟩
  | _ => return ⟨500, "Internal Server Error: sent message was immediately deleted and can't be returned"⟩

def deleteMessage (chatId messageId : Int) (chat : Option ChatInfo) (state : State) : Except Check State := do
  if (chatId, messageId) ∈ state.messages then
    return { state with messages := state.messages.erase (chatId, messageId) }
  else if (chatId, messageId) ∈ state.yetUnsentMessages then
    let error ← deleteMessageError chat
    onMessageSendFailed chatId messageId 0 error state
  else return state

-- The end of the handlers, where the number of messages of the chat is known.
def sendMessages (request : SendRequest) (handlerId : Nat) (state : State) : State :=
  let count := valueOr 0 id state.yetUnsentMessageCount request.chatId
  if count ≥ maxConcurrentlySentChatMessages then state.answer request.query .floodLimitExceeded
  else { state with
    yetUnsentMessageCount := state.yetUnsentMessageCount.insert request.chatId (count + request.messageCount)
    handlers := state.handlers.insert handlerId request }

def Reports.returned (query : QueryId) (fullId : MessageFullId) (reports : Reports) : Reports :=
  let outcome := (reports.outcomes.lookup query).getD {}
  { unreported := reports.unreported.insert fullId query
    outcomes := reports.outcomes.insert query { outcome with returned := outcome.returned + 1 } }

def Outcome.report (sent : Bool) (outcome : Outcome) : Outcome :=
  if sent then { outcome with sent := outcome.sent + 1 } else { outcome with failed := outcome.failed + 1 }

def Reports.reported (fullId : MessageFullId) (sent : Bool) (reports : Reports) : Reports :=
  match reports.unreported.lookup fullId with
  | none => reports
  | some query =>
      { unreported := reports.unreported.erase fullId
        outcomes := reports.outcomes.insert query (((reports.outcomes.lookup query).getD {}).report sent) }

def takeHandler (handlerId : Nat) (state : State) : Except Check (SendRequest × State) :=
  match state.handlers.lookup handlerId with
  | none => .error .handlerFound
  | some request => .ok (request, { state with handlers := state.handlers.erase handlerId })

def onResultError (handlerId : Nat) (error : Error) (state : State) : Except Check State := do
  let (request, state) ← takeHandler handlerId state
  let state ← if request.messageCount > 0 then
      decreaseYetUnsentMessageCount request.chatId request.messageCount state
    else pure state
  return state.answer request.query (.error error)

def returnMessage (query : QueryId) (queryId : Int) (state : State) (message : Option MessageFullId) :
    Except Check State := do
  let state ← onSentMessage message queryId state
  return { state with reports := message.elim state.reports (state.reports.returned query) }

def onResultMessage (handlerId : Nat) (message : MessageFullId) (state : State) : Except Check State := do
  let (request, state) ← takeHandler handlerId state
  require .resultKind (request.kind = .message)
  let (queryId, state) ← getSendMessageQueryId request.query false state
  returnMessage request.query.id queryId state (some message)

def onResultMessages (handlerId : Nat) (messages : List (Option MessageFullId)) (state : State) :
    Except Check State := do
  let (request, state) ← takeHandler handlerId state
  require .resultSize (messages.length = request.messageCount)
  match request.kind with
  | .message => .error .resultKind
  | .album =>
      let (queryId, state) ← getSendMessageQueryId request.query true state
      messages.foldlM (returnMessage request.query.id queryId) state
  | .forward =>
      let kept := messages.filter Option.isSome
      let state ← if kept.length ≠ request.messageCount then
          decreaseYetUnsentMessageCount request.chatId (request.messageCount - kept.length) state
        else pure state
      if kept = [] then return state.answer request.query (.error ⟨400, "Messages can't be forwarded"⟩)
      let (queryId, state) ← getSendMessageQueryId request.query true state
      kept.foldlM (returnMessage request.query.id queryId) state

inductive Event where
  | send (request : SendRequest) (handlerId : Nat)
  | resultError (handlerId : Nat) (error : Error)
  | resultMessage (handlerId : Nat) (message : MessageFullId)
  | resultMessages (handlerId : Nat) (messages : List (Option MessageFullId))
  | sendSucceeded (chatId newMessageId oldMessageId : Int)
  | sendFailed (chatId oldMessageId newMessageId : Int) (error : Error)
  | messagesDeleted (chatId : Int) (messageIds : List Int) (chat : Option ChatInfo)
  | messageAdded (fullId : MessageFullId)
  | closes (loggingOut : Bool)
deriving DecidableEq

def State.reportedBy (fullId : MessageFullId) (sent : Bool) (state : State) : State :=
  { state with reports := state.reports.reported fullId sent }

def step (state : State) : Event → Except Check State
  | .send request handlerId =>
      .ok (sendMessages request handlerId { state with requested := request.query.id :: state.requested })
  | .resultError handlerId error => onResultError handlerId error state
  | .resultMessage handlerId message => onResultMessage handlerId message state
  | .resultMessages handlerId messages => onResultMessages handlerId messages state
  | .sendSucceeded chatId newMessageId oldMessageId => do
      let state ← onMessageSendSucceeded chatId newMessageId oldMessageId state
      return state.reportedBy (chatId, oldMessageId) true
  | .sendFailed chatId oldMessageId newMessageId error => do
      let state ← onMessageSendFailed chatId oldMessageId newMessageId error state
      return state.reportedBy (chatId, oldMessageId) false
  | .messagesDeleted chatId messageIds chat =>
      messageIds.foldlM (fun state messageId => do
        let state ← deleteMessage chatId messageId chat state
        return state.reportedBy (chatId, messageId) false) state
  | .messageAdded fullId => .ok { state with messages := insert fullId state.messages }
  | .closes loggingOut => .ok (if loggingOut then { state with loggingOut := true } else { state with closing := true })

-- A message that TDLib may return: it is in the chat it was sent to and new.
def Fresh (state : State) (chatId : Int) (message : MessageFullId) : Prop :=
  message.1 = chatId ∧ message ∉ state.reports.unreported ∧ message ∉ state.messages

def knownChat : Option ChatInfo → Bool
  | none | some (.supergroup none) => false
  | _ => true

-- TDLib answers each request once: an album with all its messages, which are some,
-- and a forward with a null for each message it can't forward. It reports each
-- message at most once, and stored messages are sent ones.
def enabled (state : State) : Event → Prop
  | .send request handlerId => request.query.id ∉ state.requested ∧ handlerId ∉ state.handlers ∧
      (request.kind = .message → request.messageCount = 1)
  | .resultError handlerId _ => handlerId ∈ state.handlers
  | .resultMessage handlerId message => ∃ request, state.handlers.lookup handlerId = some request ∧
      request.kind = .message ∧ Fresh state request.chatId message
  | .resultMessages handlerId messages => ∃ request, state.handlers.lookup handlerId = some request ∧
      request.kind ≠ .message ∧ messages.length = request.messageCount ∧
      (request.kind = .album → messages ≠ [] ∧ none ∉ messages) ∧
      (messages.filter Option.isSome).Nodup ∧ ∀ message, some message ∈ messages → Fresh state request.chatId message
  | .sendSucceeded chatId newMessageId oldMessageId => (chatId, oldMessageId) ∈ state.reports.unreported ∧
      0 < newMessageId ∧ (chatId, newMessageId) ∉ state.reports.unreported
  | .sendFailed chatId oldMessageId _ _ => (chatId, oldMessageId) ∈ state.reports.unreported
  | .messagesDeleted chatId messageIds chat =>
      (∃ messageId ∈ messageIds, (chatId, messageId) ∈ state.reports.unreported) → knownChat chat = true
  | .messageAdded fullId => fullId ∉ state.reports.unreported
  | .closes _ => True

def machine : Transition.Machine State Event Check where
  start state := state = {}
  enabled := enabled
  step := step

end TelegramBotApi.UnsentMessages
