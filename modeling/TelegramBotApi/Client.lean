import TelegramBotApi.Json
import TelegramBotApi.Lib.Texts
import TelegramBotApi.Lib.Transition
import TelegramBotApi.TQueue

set_option autoImplicit false

namespace TelegramBotApi.Client

open Checked

-- Clock values are in nanoseconds.
def second : Int := 1000000000
def maxCertificateFileSize : Int := 3 * 2 ^ 20
def minPendingUpdatesWarning : Nat := 200
def tqueueEventBufferSize : Nat := 1000
def longPollMaxTimeout : Int := 50
def longPollMaxDelay : Int := 2000000
def longPollWaitAfter : Int := 1000000
def botUpdatesWarningDelay : Int := 30

inductive UpdateType where
  | message | editedMessage | channelPost | editedChannelPost | inlineQuery | chosenInlineResult | callbackQuery
  | customEvent | customQuery | shippingQuery | preCheckoutQuery | poll | pollAnswer | myChatMember | chatMember
  | chatJoinRequest | chatBoostUpdated | chatBoostRemoved | messageReaction | messageReactionCount
  | businessConnection | businessMessage | editedBusinessMessage | businessMessagesDeleted | purchasedPaidMedia
  | managedBot | guestMessage | subscription
deriving DecidableEq

namespace UpdateType

def all : List UpdateType :=
  [.message, .editedMessage, .channelPost, .editedChannelPost, .inlineQuery, .chosenInlineResult, .callbackQuery,
    .customEvent, .customQuery, .shippingQuery, .preCheckoutQuery, .poll, .pollAnswer, .myChatMember, .chatMember,
    .chatJoinRequest, .chatBoostUpdated, .chatBoostRemoved, .messageReaction, .messageReactionCount,
    .businessConnection, .businessMessage, .editedBusinessMessage, .businessMessagesDeleted, .purchasedPaidMedia,
    .managedBot, .guestMessage, .subscription]

def bit (updateType : UpdateType) : Nat := 2 ^ updateType.ctorIdx

end UpdateType

def getUpdateTypeName : UpdateType → String
  | .message => "message"
  | .editedMessage => "edited_message"
  | .channelPost => "channel_post"
  | .editedChannelPost => "edited_channel_post"
  | .inlineQuery => "inline_query"
  | .chosenInlineResult => "chosen_inline_result"
  | .callbackQuery => "callback_query"
  | .customEvent => "custom_event"
  | .customQuery => "custom_query"
  | .shippingQuery => "shipping_query"
  | .preCheckoutQuery => "pre_checkout_query"
  | .poll => "poll"
  | .pollAnswer => "poll_answer"
  | .myChatMember => "my_chat_member"
  | .chatMember => "chat_member"
  | .chatJoinRequest => "chat_join_request"
  | .chatBoostUpdated => "chat_boost"
  | .chatBoostRemoved => "removed_chat_boost"
  | .messageReaction => "message_reaction"
  | .messageReactionCount => "message_reaction_count"
  | .businessConnection => "business_connection"
  | .businessMessage => "business_message"
  | .editedBusinessMessage => "edited_business_message"
  | .businessMessagesDeleted => "deleted_business_messages"
  | .purchasedPaidMedia => "purchased_paid_media"
  | .managedBot => "managed_bot"
  | .guestMessage => "guest_message"
  | .subscription => "subscription"

def defaultAllowedUpdateTypes : Nat :=
  2 ^ UpdateType.all.length - 1 - UpdateType.chatMember.bit - UpdateType.messageReaction.bit -
    UpdateType.messageReactionCount.bit

-- What the functions below use of td, which is not part of the repository.
structure Library where
  parseUrl : String → Bool
  jsonDecode : String → Option JsonValue
  toInt32 : String → Int
  toUint64 : String → Option Nat
  getRetryAfterTime : String → Int

structure Parameters where
  defaultMaxWebhookConnections : Int := 0
  localMode : Bool := false
  startTime : Int := 0

structure Environment (Queue : Type) where
  tqueue : TQueue Queue
  library : Library
  parameters : Parameters := {}

structure HttpFile where
  fieldName : String
  size : Int
  tempFileName : String := ""
deriving DecidableEq

structure Query where
  id : Nat
  method : String
  args : List (String × String) := []
  files : List HttpFile := []
  isInternal : Bool := false
deriving DecidableEq

namespace Query

def hasArg (query : Query) (key : String) : Bool := (query.args.find? (fun arg => arg.1 = key)).isSome

def arg (query : Query) (key : String) : String := ((query.args.find? (fun arg => arg.1 = key)).map Prod.snd).getD ""

def file (query : Query) (key : String) : Option HttpFile := query.files.find? (fun file => file.fieldName = key)

theorem ids_distinct (query : Query) (queries : List Query) (fresh : ∀ other ∈ queries, other.id ≠ query.id)
    (distinct : (queries.map Query.id).Nodup) : ((queries ++ [query]).map Query.id).Nodup := by
  rw [List.map_append, List.map_singleton, ← List.concat_eq_append, List.nodup_concat]
  refine ⟨fun member => ?_, distinct⟩
  obtain ⟨old, listed, same⟩ := List.mem_map.1 member
  exact fresh old listed same

end Query

inductive Answer where
  | ok (description : String)
  | updates (updates : List TQueueEvent)
  | error (code : Int) (message : String)
  | retryAfter (seconds : Int)
deriving DecidableEq

inductive Request where
  | setAllowedUpdateTypes (types : Option Nat)
  | setBotUpdatesStatus (pendingUpdateCount : Nat) (errorMessage : String)
  | close
  | logOut
deriving DecidableEq

inductive WebhookQueryType where
  | cancel | verify
deriving DecidableEq

inductive Check where
  | closing                                     -- get_closing_error
  | tdClientNotEmpty                            -- do_send_request
  | wasAuthorized                               -- on_cmd
  | updatesFetched | totalSizeCoversUpdates     -- do_get_updates
  | longPollAnswered | closedWhileActive        -- on_closed
  | activeQueryEmpty                            -- process_set_webhook_query, finish_set_webhook
  | webhookUrlEmpty                             -- do_set_webhook, finish_set_webhook
  | certificateEmpty                            -- do_set_webhook
  | setQueryEmpty                               -- do_set_webhook, finish_set_webhook
  | activeQueryNotEmpty                         -- on_webhook_certificate_copied
  | newUrlNotEmpty | newUrlParses               -- finish_set_webhook
  | webhookIdEmpty                              -- clear_tqueue
deriving DecidableEq

def Request.types : Request → Option Nat
  | .setAllowedUpdateTypes types => some (types.getD defaultAllowedUpdateTypes)
  | _ => none

def sentTypes (requests : List Request) : List Nat := requests.filterMap Request.types

-- History: one entry for each request with valid allowed_updates, with the value of
-- allowed_update_types_ that it found and the last one sent to TDLib.
structure Asked where
  types : Nat
  allowed : Nat
  lastSent : Option Nat
deriving DecidableEq

-- History: one entry for each successful answer, with the queue it was taken from.
structure Served (Queue : Type) where
  query : Query
  before : Queue
  limit : Nat
  unixTime : Int
  updates : List TQueueEvent
  after : Queue

structure State (Queue : Type) where
  -- the bot's part of the data shared by all clients
  tqueue : Queue
  webhookDb : Option String
  startTime : Int := 0
  wasAuthorized : Bool := false
  closing : Bool := false
  loggingOut : Bool := false
  isApiIdInvalid : Bool := false
  needClose : Bool := false
  clearTqueue : Bool := false
  nextAuthorizationTime : Int := 0
  authorizationDate : Int := -1
  tdClient : Bool := true
  cmdQueue : List Query := []
  longPollQuery : Option Query := none
  longPollLimit : Int := 0
  longPollOffset : Int := 0
  longPollWasWakeup : Bool := false
  longPollHardTimeout : Int := 0
  longPollTimeoutAt : Int := 0
  nextBotUpdatesWarningTime : Int := 0
  wasBotUpdatesWarning : Bool := false
  previousGetUpdatesOffset : Int := -1
  previousGetUpdatesStartTime : Int := 0
  nextGetUpdatesConflictTime : Int := 0
  allowedUpdateTypes : Nat := defaultAllowedUpdateTypes
  hasWebhookCertificate : Bool := false
  webhookQueryType : WebhookQueryType := .cancel
  webhookId : Option Nat := none
  webhookSetQuery : Option Query := none
  activeWebhookSetQuery : Option Query := none
  webhookUrl : String := ""
  webhookMaxConnections : Int := 0
  webhookIpAddress : String := ""
  webhookFixIpAddress : Bool := false
  webhookSecretToken : String := ""
  nextAllowedSetWebhookTime : Int := 0
  webhookGeneration : Nat := 1
  timeoutAt : Option Int := none
  -- work of other actors and threads that has not been reported back yet: webhook
  -- actors by their generation, copies and removals of the certificate, removal of dir_
  webhookActors : List Nat := []
  certificateCopies : Nat := 0
  certificateUnlinks : List String := []
  directoryRemoval : Bool := false
  tdQueries : List Query := []
  stopped : Bool := false
  requests : List Request := []
  answers : List (Query × Answer) := []
  served : List (Served Queue) := []
  asked : List Asked := []

-- What one event finds outside the client.
structure Draws where
  now : Int := 0
  unixTime : Int := 0

section Basics

variable {Queue : Type} (env : Environment Queue)

def State.answer (query : Query) (answer : Answer) (state : State Queue) : State Queue :=
  { state with answers := state.answers ++ [(query, answer)] }

def toBool (value : String) : Bool :=
  let value := Texts.strip Texts.isSpace (value.toList.map Char.toLower)
  value = "true".toList || value = "yes".toList || value = "1".toList

def getIntegerArg (query : Query) (fieldName : String) (defaultValue : Int) (minValue maxValue : Int) : Int :=
  let arg := query.arg fieldName
  let value := if arg = "" then defaultValue else env.library.toInt32 arg
  max minValue (min value maxValue)

structure ClosingError where
  code : Int
  retryAfter : Int
  message : String
deriving DecidableEq

def getClosingError (draws : Draws) (state : State Queue) : Except Check ClosingError :=
  if state.loggingOut then
    if state.isApiIdInvalid then .ok ⟨401, 0, "Unauthorized: invalid api-id/api-hash"⟩
    else if 0 < state.nextAuthorizationTime then
      let retryAfter := max ((state.nextAuthorizationTime - draws.now).tdiv second) 0 + 1
      .ok ⟨429, retryAfter, "Too Many Requests: retry after " ++ toString retryAfter⟩
    else if state.clearTqueue then .ok ⟨400, 0, "Logged out"⟩
    else .ok ⟨401, 0, "Unauthorized"⟩
  else do
    require .closing (state.closing = true)
    return ⟨500, 0, "Internal Server Error: restart"⟩

def failQueryClosing (draws : Draws) (query : Query) (state : State Queue) : Except Check (State Queue) := do
  let error ← getClosingError draws state
  return if 0 < error.retryAfter then state.answer query (.retryAfter error.retryAfter)
    else state.answer query (.error error.code error.message)

-- Within three seconds of the previous conflict the same answer only comes later.
def failQueryConflict (draws : Draws) (message : String) (query : Query) (state : State Queue) : State Queue :=
  if state.nextGetUpdatesConflictTime ≤ draws.now then
    { state.answer query (.error 409 message) with nextGetUpdatesConflictTime := draws.now + 3 * second }
  else state.answer query (.error 409 message)

def doSendRequest (request : Request) (state : State Queue) : Except Check (State Queue) := do
  require .tdClientNotEmpty (state.tdClient = true)
  return { state with requests := state.requests ++ [request] }

-- While the client is closing the handler gets an error, which TdOnOkCallback ignores.
def sendRequest (request : Request) (state : State Queue) : Except Check (State Queue) :=
  if state.closing || state.loggingOut then .ok state else doSendRequest request state

def getString : JsonValue → Option String
  | .string value => some value
  | _ => none

def getAllowedUpdateTypes (allowedUpdates : String) (isInternal : Bool) : Nat :=
  if allowedUpdates = "" then 0
  else
    match env.library.jsonDecode allowedUpdates with
    | some (.array values) =>
        match values.mapM getString with
        | none => 0
        | some names =>
            -- every type occurs once, so the sum is the bitwise or
            let types := UpdateType.all.filter (fun updateType => getUpdateTypeName updateType ∈ names.map String.toLower)
            if types = [] then defaultAllowedUpdateTypes else (types.map UpdateType.bit).sum
    | some (.number text) =>
        if isInternal then (env.library.toUint64 text).getD 0 else 0
    | _ => 0

def State.ask (types : Nat) (state : State Queue) : State Queue :=
  if types = 0 then state
  else { state with asked := state.asked ++ [⟨types, state.allowedUpdateTypes, (sentTypes state.requests).getLast?⟩] }

def updateAllowedUpdateTypes (query : Query) (state : State Queue) : Except Check (Bool × State Queue) :=
  let types := getAllowedUpdateTypes env (query.arg "allowed_updates") query.isInternal
  if types ≠ 0 ∧ types ≠ state.allowedUpdateTypes then do
    let sent ← sendRequest
      (.setAllowedUpdateTypes (if types = defaultAllowedUpdateTypes then none else some types))
      { state.ask types with allowedUpdateTypes := types }
    return (true, sent)
  else .ok (false, state.ask types)

def getPendingUpdateCount (state : State Queue) : Nat := (env.tqueue.kept state.tqueue).length

def clearTqueue (state : State Queue) : Except Check (State Queue) := do
  require .webhookIdEmpty (state.webhookId = none)
  return { state with tqueue := env.tqueue.clear state.tqueue 0 }

end Basics

end TelegramBotApi.Client
