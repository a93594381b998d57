import TelegramBotApi.Lib.Transition
import TelegramBotApi.ReplyMarkup

set_option autoImplicit false

namespace TelegramBotApi.BotUsernames

open Checked

-- The methods whose handlers reach the shared set, in the order of methods_.
inductive Method where
  | sendMessage | sendRichMessage | sendAnimation | sendAudio | sendDice | sendDocument | sendLivePhoto | sendPhoto
  | sendSticker | sendVideo | sendVideoNote | sendVoice | sendPaidMedia | sendGame | sendInvoice | sendLocation
  | sendVenue | sendContact | sendPoll | stopPoll | sendChecklist | copyMessage | forwardMessage | sendMediaGroup
  | editMessageText | editMessageLiveLocation | stopMessageLiveLocation | editMessageMedia | editMessageCaption
  | editMessageChecklist | editMessageReplyMarkup | editEphemeralMessageText | editEphemeralMessageMedia
  | editEphemeralMessageCaption | editEphemeralMessageReplyMarkup | answerWebAppQuery | answerGuestQuery
  | answerInlineQuery | savePreparedInlineMessage
  -- on_cmd itself handles these two
  | close | logout
  | other (name : String)
deriving DecidableEq

inductive Handler where
  | sendsMessage             -- do_send_message at once
  | checksThenSendsMessage   -- do_send_message after check_message
  | sendsWithoutMarkup       -- resolve_reply_markup_bot_usernames of a null markup
  | editsMarkup              -- get_reply_markup, then resolve
  | editsMarkupAndReadsMore  -- get_reply_markup, more arguments, then resolve
  | answersOneResult
  | answersResults
  | ignoresMarkup
deriving DecidableEq

def Method.handler : Method → Handler
  | .sendMessage | .sendRichMessage | .sendAnimation | .sendAudio | .sendDice | .sendDocument | .sendLivePhoto
  | .sendPhoto | .sendSticker | .sendVideo | .sendVideoNote | .sendVoice | .sendPaidMedia | .sendGame | .sendInvoice
  | .sendLocation | .sendVenue | .sendContact | .sendPoll | .sendChecklist => .sendsMessage
  | .copyMessage | .forwardMessage => .checksThenSendsMessage
  | .sendMediaGroup => .sendsWithoutMarkup
  | .stopPoll | .editEphemeralMessageText | .editEphemeralMessageMedia | .editEphemeralMessageCaption
  | .editEphemeralMessageReplyMarkup => .editsMarkup
  | .editMessageText | .editMessageLiveLocation | .stopMessageLiveLocation | .editMessageMedia | .editMessageCaption
  | .editMessageChecklist | .editMessageReplyMarkup => .editsMarkupAndReadsMore
  | .answerWebAppQuery | .answerGuestQuery | .savePreparedInlineMessage => .answersOneResult
  | .answerInlineQuery => .answersResults
  | .close | .logout | .other _ => .ignoresMarkup

-- The outcomes of reading the arguments that never touch the shared set are
-- part of the request: those of the handler itself, those do_send_message reads
-- before reply_markup, and those read between reply_markup and the resolution.
structure Query where
  id : Nat
  method : Method
  replyMarkup : String := ""
  results : String := ""
  handlerArguments : Result Unit := .ok ()
  messageArguments : Result Unit := .ok ()
  lateArguments : Result Unit := .ok ()

inductive Check where
  | unresolvedNotEmpty           -- resolve_bot_usernames
  | replyMarkupNotNull           -- resolve_reply_markup_bot_usernames
  | replyMarkupInlineKeyboard
  | awaitingQueriesFound         -- on_resolve_bot_username
  | awaitingQueriesNotEmpty
  | pendingResolveCountPositive
  | temporaryIdFound             -- fix_reply_markup_bot_user_ids
  | realIdNotZero
deriving DecidableEq

inductive Continuation (KeyboardButton : Type) where
  | replyMarkup (markup : Option (ReplyMarkup KeyboardButton))
  | results (results : List (InputInlineQueryResult KeyboardButton))

structure PendingBotResolveQuery (KeyboardButton : Type) where
  pendingResolveCount : Nat
  query : Query
  onSuccess : Continuation KeyboardButton

-- History: one entry for each time resolve_reply_markup_bot_usernames is entered.
structure Entry (KeyboardButton : Type) where
  query : Query
  replyMarkup : Option (ReplyMarkup KeyboardButton)
  ids : BotUserIds

structure State (KeyboardButton : Type) where
  ids : BotUserIds
  pendingQueries : AList (fun _ : Int => PendingBotResolveQuery KeyboardButton) := ∅
  currentQueryId : Int := 1
  awaitingQueries : AList (fun _ : Username => List Int) := ∅
  tempToReal : AList (fun _ : UserId => UserId) := ∅
  -- requests TDLib has not answered yet: searchPublicChat and those of check_message
  searching : List Username := []
  checking : List Query := []
  closing : Bool := false
  entered : List (Entry KeyboardButton) := []
  continued : List (Query × Continuation KeyboardButton) := []
  failed : List (Query × Status) := []

section Protocol

variable {KeyboardButton : Type}

def State.fail (state : State KeyboardButton) (query : Query) (status : Status) : State KeyboardButton :=
  { state with failed := state.failed ++ [(query, status)] }

def fixButtonId (tempToReal : AList (fun _ : UserId => UserId)) (id : UserId) : Except Check UserId :=
  if id % 1000 ≠ 0 then .ok id
  else
    match tempToReal.lookup |id| with
    | none => .error .temporaryIdFound
    | some botUserId => do
        require .realIdNotZero (botUserId ≠ 0)
        return if id < 0 then -botUserId else botUserId

def fixButton (tempToReal : AList (fun _ : UserId => UserId)) (button : InlineKeyboardButton Username) :
    Except Check (InlineKeyboardButton Username) :=
  match button.type with
  | .loginUrl url id forwardText botUsername => do
      let fixed ← fixButtonId tempToReal id
      return { button with type := .loginUrl url fixed forwardText botUsername }
  | _ => .ok button

def fixReplyMarkupBotUserIds (tempToReal : AList (fun _ : UserId => UserId)) :
    Option (ReplyMarkup KeyboardButton) → Except Check (Option (ReplyMarkup KeyboardButton))
  | some (.inlineKeyboard rows) => do
      let fixed ← rows.mapM (fun row => row.mapM (fixButton tempToReal))
      return some (.inlineKeyboard fixed)
  | markup => .ok markup

def fixInlineQueryResult (tempToReal : AList (fun _ : UserId => UserId))
    (result : InputInlineQueryResult KeyboardButton) : Except Check (InputInlineQueryResult KeyboardButton) := do
  let markup ← fixReplyMarkupBotUserIds tempToReal result.replyMarkup
  return { result with replyMarkup := markup }

def fixContinuation (tempToReal : AList (fun _ : UserId => UserId)) :
    Continuation KeyboardButton → Except Check (Continuation KeyboardButton)
  | .replyMarkup markup => do
      let fixed ← fixReplyMarkupBotUserIds tempToReal markup
      return .replyMarkup fixed
  | .results results => do
      let fixed ← results.mapM (fixInlineQueryResult tempToReal)
      return .results fixed

def botNotFound (username : Username) : Status := ⟨400, "Bad Request: bot \"" ++ username ++ "\" not found"⟩

def resolveAwaiting (username : Username) (userId : UserId) (state : State KeyboardButton) (queryId : Int) :
    Except Check (State KeyboardButton) :=
  match state.pendingQueries.lookup queryId with
  | none => .ok state
  | some pending => do
      require .pendingResolveCountPositive (0 < pending.pendingResolveCount)
      let left := pending.pendingResolveCount - 1
      let erased := { state with pendingQueries := state.pendingQueries.erase queryId }
      if userId = 0 then return erased.fail pending.query (botNotFound username)
      else if left = 0 then
        let fixed ← fixContinuation state.tempToReal pending.onSuccess
        return { erased with continued := state.continued ++ [(pending.query, fixed)] }
      else
        return { state with
          pendingQueries := state.pendingQueries.insert queryId { pending with pendingResolveCount := left } }

def storeResolved (username : Username) (userId : UserId) (state : State KeyboardButton) : State KeyboardButton :=
  if userId = 0 then
    { state with ids := { state.ids with botUserIds := Function.update state.ids.botUserIds username 0 } }
  else
    { state with
      tempToReal := state.tempToReal.insert (state.ids.botUserIds username) userId
      ids := { state.ids with botUserIds := Function.update state.ids.botUserIds username userId } }

def onResolveBotUsername (username : Username) (userId : UserId) (state : State KeyboardButton) :
    Except Check (State KeyboardButton) :=
  match state.awaitingQueries.lookup username with
  | none => .error .awaitingQueriesFound
  | some queryIds => do
      require .awaitingQueriesNotEmpty (queryIds ≠ [])
      let taken := { state with awaitingQueries := state.awaitingQueries.erase username }
      queryIds.foldlM (resolveAwaiting username userId) (storeResolved username userId taken)

-- send_request answers at once with an error while the client is closing.
def searchPublicChat (username : Username) (state : State KeyboardButton) : Except Check (State KeyboardButton) :=
  if state.closing then onResolveBotUsername username 0 state
  else .ok { state with searching := state.searching ++ [username] }

def awaitUsername (queryId : Int) (state : State KeyboardButton) (username : Username) :
    Except Check (State KeyboardButton) :=
  let queryIds := (state.awaitingQueries.lookup username).getD [] ++ [queryId]
  let waiting := { state with awaitingQueries := state.awaitingQueries.insert username queryIds }
  if queryIds.length = 1 then searchPublicChat username waiting else .ok waiting

def resolveBotUsernames (query : Query) (onSuccess : Continuation KeyboardButton) (state : State KeyboardButton) :
    Except Check (State KeyboardButton) := do
  let usernames := state.ids.unresolvedBotUsernames
  require .unresolvedNotEmpty (usernames ≠ [])
  let queryId := state.currentQueryId
  let pending := state.pendingQueries.insert queryId ⟨usernames.length, query, onSuccess⟩
  let waiting ← usernames.foldlM (awaitUsername queryId)
    { state with currentQueryId := queryId + 1, pendingQueries := pending }
  return { waiting with ids := waiting.ids.clearUnresolved }

def resolveReplyMarkupBotUsernames (query : Query) (markup : Option (ReplyMarkup KeyboardButton))
    (state : State KeyboardButton) : Except Check (State KeyboardButton) := do
  let state := { state with entered := state.entered ++ [⟨query, markup, state.ids⟩] }
  if state.ids.unresolvedBotUsernames = [] then
    return { state with continued := state.continued ++ [(query, .replyMarkup markup)] }
  else
    require .replyMarkupNotNull (markup.isSome)
    require .replyMarkupInlineKeyboard (isInlineKeyboard markup)
    resolveBotUsernames query (.replyMarkup markup) state

def resolveInlineQueryResultsBotUsernames (query : Query) (results : List (InputInlineQueryResult KeyboardButton))
    (state : State KeyboardButton) : Except Check (State KeyboardButton) :=
  if state.ids.unresolvedBotUsernames = [] then
    .ok { state with continued := state.continued ++ [(query, .results results)] }
  else resolveBotUsernames query (.results results) state

variable (readers : Readers KeyboardButton)

def parseReplyMarkup (query : Query) (state : State KeyboardButton) :
    Result (Option (ReplyMarkup KeyboardButton)) × State KeyboardButton :=
  ((getReplyMarkup readers query.replyMarkup state.ids).1,
    { state with ids := (getReplyMarkup readers query.replyMarkup state.ids).2 })

def readAndResolve (late : Result Unit) (query : Query) (state : State KeyboardButton) :
    Except Check (State KeyboardButton) :=
  match parseReplyMarkup readers query state with
  | (.error status, after) => .ok (after.fail query status)
  | (.ok markup, after) =>
      match late with
      | .error status => .ok (after.fail query status)
      | .ok () => resolveReplyMarkupBotUsernames query markup after

def doSendMessage (query : Query) (state : State KeyboardButton) : Except Check (State KeyboardButton) :=
  match query.messageArguments with
  | .error status => .ok (state.fail query status)
  | .ok () => readAndResolve readers (.ok ()) query state

def checkMessage (query : Query) (state : State KeyboardButton) : State KeyboardButton :=
  { state with checking := state.checking ++ [query] }

def answerResults (query : Query)
    (parsed : Result (List (InputInlineQueryResult KeyboardButton)) × BotUserIds) (state : State KeyboardButton) :
    Except Check (State KeyboardButton) :=
  match parsed with
  | (.error status, ids) => .ok (State.fail { state with ids := ids } query status)
  | (.ok results, ids) => resolveInlineQueryResultsBotUsernames query results { state with ids := ids }

def processQuery (query : Query) (state : State KeyboardButton) : Except Check (State KeyboardButton) :=
  match query.handlerArguments with
  | .error status => .ok (state.fail query status)
  | .ok () =>
      match query.method.handler with
      | .sendsMessage => doSendMessage readers query state
      | .checksThenSendsMessage => .ok (checkMessage query state)
      | .sendsWithoutMarkup => resolveReplyMarkupBotUsernames query none state
      | .editsMarkup => readAndResolve readers (.ok ()) query state
      | .editsMarkupAndReadsMore => readAndResolve readers query.lateArguments query state
      | .answersOneResult => answerResults query (getInlineQueryResult readers query.results state.ids) state
      | .answersResults => answerResults query (getInlineQueryResults readers query.results state.ids) state
      | .ignoresMarkup => .ok state

def closingError : Status := ⟨500, "Internal Server Error: restart"⟩

-- A close soon after the start is told to retry; else TDLib is asked to close.
def processClose (query : Query) (state : State KeyboardButton) : State KeyboardButton :=
  match query.handlerArguments with
  | .error tooManyRequests => state.fail query tooManyRequests
  | .ok () => state

-- TDLib runs and the bot was authorized in every state, so close and logout
-- return before the set is cleared, also while the client is closing.
def onCmd (query : Query) (state : State KeyboardButton) : Except Check (State KeyboardButton) :=
  if query.method = .close then .ok (processClose query state)
  else if query.method = .logout then .ok state
  else if state.closing then .ok (state.fail query closingError)
  else processQuery readers query { state with ids := state.ids.clearUnresolved }

theorem on_cmd_meets (allowed : Check → Prop) (ensures : State KeyboardButton → Prop) (query : Query)
    (state : State KeyboardButton) (untouched : ensures state) (failed : ∀ status, ensures (state.fail query status))
    (processed : state.closing = false →
      Meets allowed ensures (processQuery readers query { state with ids := state.ids.clearUnresolved })) :
    Meets allowed ensures (onCmd readers query state) := by
  unfold onCmd
  by_cases close : query.method = .close
  · rw [if_pos close]
    unfold processClose
    split
    · exact failed _
    · exact untouched
  · rw [if_neg close]
    by_cases logout : query.method = .logout
    · rw [if_pos logout]
      exact untouched
    · rw [if_neg logout]
      by_cases closing : state.closing = true
      · rw [if_pos closing]
        exact failed closingError
      · rw [if_neg closing]
        exact processed (Bool.eq_false_iff.2 closing)

def onCheckMessage (query : Query) (answer : Result Unit) (state : State KeyboardButton) :
    Except Check (State KeyboardButton) :=
  let state := { state with checking := state.checking.eraseIdx (state.checking.findIdx (fun q => q.id = query.id)) }
  match answer with
  | .error status => .ok (state.fail query status)
  | .ok () => doSendMessage readers query state

end Protocol

inductive Event where
  | command (query : Query)
  | messageChecked (query : Query) (answer : Result Unit)
  | usernameSearched (username : Username) (userId : UserId)
  | closing

def enabled {KeyboardButton : Type} (state : State KeyboardButton) : Event → Prop
  | .messageChecked query _ => query ∈ state.checking
  | .usernameSearched username _ => username ∈ state.searching
  | _ => True

def step {KeyboardButton : Type} (readers : Readers KeyboardButton) (state : State KeyboardButton) :
    Event → Except Check (State KeyboardButton)
  | .command query => onCmd readers query state
  | .messageChecked query answer => onCheckMessage readers query answer state
  | .usernameSearched username userId =>
      onResolveBotUsername username userId { state with searching := state.searching.erase username }
  | .closing => .ok { state with closing := true }

def client {KeyboardButton : Type} (readers : Readers KeyboardButton) :
    Transition.Machine (State KeyboardButton) Event Check where
  start state := ∃ myId, state = { ids := { defaultBotUserId := myId } }
  enabled := enabled
  step := step readers

end TelegramBotApi.BotUsernames
