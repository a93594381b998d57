import TelegramBotApi.Lib.Words
import TelegramBotApi.SetWebhook

set_option autoImplicit false

namespace TelegramBotApi.Client

open Checked Words

section Actor

variable {Queue : Type} (env : Environment Queue)

def startUp (draws : Draws) (tqueue : Queue) (webhookDb : Option String) : State Queue where
  tqueue := tqueue
  webhookDb := webhookDb
  startTime := draws.now
  nextBotUpdatesWarningTime := draws.now + 600 * second
  nextAllowedSetWebhookTime := draws.now
  previousGetUpdatesStartTime := draws.now - 100 * second
  nextGetUpdatesConflictTime := draws.now - 100 * second

def closeRetryAfter (draws : Draws) (state : State Queue) : Int :=
  (10 * 60 * second - (draws.now - state.startTime)).tdiv second

def processClose (draws : Draws) (query : Query) (state : State Queue) : Except Check (State Queue) :=
  let retryAfter := closeRetryAfter draws state
  if 0 < retryAfter ∧ env.parameters.startTime + 10 * 60 * second < state.startTime then
    .ok (state.answer query (.retryAfter retryAfter))
  else doSendRequest .close { state with needClose := true, tdQueries := state.tdQueries ++ [query] }

def processLogOut (query : Query) (state : State Queue) : Except Check (State Queue) :=
  doSendRequest .logOut { state with clearTqueue := true, tdQueries := state.tdQueries ++ [query] }

-- The handlers of all other methods touch nothing of this state.
def processQuery (draws : Draws) (query : Query) (state : State Queue) : Except Check (State Queue) :=
  if query.method = "getupdates" then processGetUpdatesQuery env draws query state
  else if query.method = "setwebhook" ∨ query.method = "deletewebhook" then
    processSetWebhookQuery env draws query state
  else .ok state

def onCmd (draws : Draws) (state : State Queue) (query : Query) : Except Check (State Queue) :=
  let online := state.tdClient && state.wasAuthorized
  if online ∧ query.method = "close" then processClose env draws query state
  else if online ∧ query.method = "logout" then processLogOut query state
  else if state.loggingOut || state.closing then failQueryClosing draws query state
  else do
    require .wasAuthorized (state.wasAuthorized = true)
    processQuery env draws query state

-- Nothing that on_cmd calls adds to cmd_queue_, so it can be emptied first.
def loop (draws : Draws) (state : State Queue) : Except Check (State Queue) :=
  if state.wasAuthorized || state.loggingOut || state.closing then
    state.cmdQueue.foldlM (onCmd env draws) { state with cmdQueue := [] }
  else .ok state

def send (draws : Draws) (query : Query) (state : State Queue) : Except Check (State Queue) :=
  loop env draws { state with cmdQueue := state.cmdQueue ++ [query] }

-- fail_query_closing of a member. When it asks for a retry, the member keeps the
-- request, whose answer is sent when the member lets go of it.
def failMember (draws : Draws) (query : Query) (emptied state : State Queue) : Except Check (State Queue) := do
  let error ← getClosingError draws state
  return if 0 < error.retryAfter then state else emptied.answer query (.error error.code error.message)

def failSetQuery (draws : Draws) (state : State Queue) : Except Check (State Queue) :=
  match state.webhookSetQuery with
  | none => .ok state
  | some query => failMember draws query { state with webhookSetQuery := none } state

def failActiveSetQuery (draws : Draws) (state : State Queue) : Except Check (State Queue) :=
  match state.activeWebhookSetQuery with
  | none => .ok state
  | some query => failMember draws query { state with activeWebhookSetQuery := none } state

def clearLoggedOut (state : State Queue) : Except Check (State Queue) :=
  if state.clearTqueue && state.loggingOut then clearTqueue env state else .ok state

def keepOpenFor (draws : Draws) (state : State Queue) : Int :=
  if state.nextAuthorizationTime ≤ 0 then
    if state.wasAuthorized && state.authorizationDate < draws.unixTime - 1800 then second else 1800 * second
  else min (state.nextAuthorizationTime - draws.now) (1800 * second)

def stopOrWait (draws : Draws) (state : State Queue) : State Queue :=
  if state.needClose then { state with stopped := true }
  else { state with timeoutAt := some (draws.now + keepOpenFor draws state) }

def finishClosing (draws : Draws) (state : State Queue) : Except Check (State Queue) := do
  let cleared ← clearLoggedOut env state
  return stopOrWait draws cleared

def wakeLongPoll (draws : Draws) (state : State Queue) : Except Check (State Queue) :=
  if state.longPollQuery.isSome then do
    let woken ← longPollWakeup env draws true state
    require .longPollAnswered (woken.longPollQuery = none)
    return woken
  else .ok state

def onClosed (draws : Draws) (state : State Queue) : Except Check (State Queue) := do
  require .closedWhileActive (state.loggingOut || state.closing)
  require .tdClientNotEmpty (state.tdClient = true)
  let unset ← failSetQuery draws { state with tdClient := false }
  let failed ← failActiveSetQuery draws unset
  let reset := if failed.webhookUrl ≠ "" then { failed with webhookId := none } else failed
  let woken ← wakeLongPoll env draws reset
  let drained ← woken.cmdQueue.foldlM (fun state query => failQueryClosing draws query state) { woken with cmdQueue := [] }
  if drained.loggingOut then return { drained with webhookDb := none, directoryRemoval := true }
  else finishClosing env draws drained

-- Client::close, called when the server stops.
def close (draws : Draws) (state : State Queue) : Except Check (State Queue) :=
  let needed := { state with needClose := true }
  if !state.tdClient then .ok { needed with timeoutAt := some draws.now }
  else if !state.closing then doSendRequest .close needed
  else .ok needed

def logOut (draws : Draws) (code : Int) (message : String) (state : State Queue) : Except Check (State Queue) :=
  let noted :=
    if message = "API_ID_INVALID" then { state with isApiIdInvalid := true }
    else if code = 429 then
      let retryAfter := env.library.getRetryAfterTime message
      if 0 < retryAfter then
        { state with nextAuthorizationTime := max state.nextAuthorizationTime (draws.now + retryAfter * second) }
      else state
    else if 500 ≤ code then
      { state with nextAuthorizationTime := max state.nextAuthorizationTime (draws.now + second) }
    else state
  if noted.tdClient && !noted.loggingOut && !noted.closing then doSendRequest .logOut noted else .ok noted

def updateText (updateType : UpdateType) (json : String) : String :=
  "\"" ++ getUpdateTypeName updateType ++ "\":" ++ json

def addUpdate (draws : Draws) (updateType : UpdateType) (json : String) (timeout webhookQueueId : Int)
    (state : State Queue) : Except Check (State Queue) :=
  if !state.allowedUpdateTypes.testBit updateType.ctorIdx then .ok state
  else
    match env.tqueue.push state.tqueue (updateText updateType json) (addInt32 draws.unixTime timeout) webhookQueueId with
    | none => .ok state
    | some (_, tqueue) =>
        let pushed := { state with tqueue := tqueue }
        if pushed.webhookUrl = "" then longPollWakeup env draws false pushed else .ok pushed

end Actor

inductive Event where
  | send (query : Query)
  | close
  | authorizationReady
  | authorizationLoggingOut
  | authorizationClosing
  | authorizationClosed
  | authorizationFailed (code : Int) (message : String)
  | allowedUpdateTypesChanged (types : Option Nat)
  | authorizationDateChanged (date : Int)
  | tdQueryAnswered (query : Query) (error : Option Status)
  | addUpdate (updateType : UpdateType) (json : String) (timeout webhookQueueId : Int)
  | longPollTimeout
  | certificateCopied (copied : Bool)
  | certificateUnlinked (status : String)
  | webhookVerified (token : Nat) (cachedIpAddress : String)
  | webhookClosed (token : Nat) (status : String)
  | webhookHungUp (token : Nat)
  | directoryRemoved
  | timeoutExpired

section Machine

variable {Queue : Type} (env : Environment Queue)

-- TDLib reports states while td_client_ exists, and closes only after it was
-- asked to. A failed check of the token keeps it from being ready, and once it is
-- ready only a 401 logs out. A webhook actor may verify the webhook again and again
-- before it closes, and calls nothing afterwards.
def enabled (state : State Queue) (event : Event) : Prop :=
  state.stopped = false ∧
  match event with
  | .send _ | .close | .longPollTimeout => True
  | .authorizationReady =>
      state.tdClient = true ∧ state.loggingOut = false ∧ state.closing = false ∧ state.nextAuthorizationTime ≤ 0
  | .authorizationFailed code _ =>
      state.tdClient = true ∧ state.loggingOut = false ∧ state.closing = false ∧ (state.wasAuthorized = true → code = 401)
  | .authorizationLoggingOut | .authorizationClosing | .allowedUpdateTypesChanged _ | .authorizationDateChanged _
  | .addUpdate _ _ _ _ => state.tdClient = true
  | .authorizationClosed => state.tdClient = true ∧ (state.loggingOut || state.closing) = true
  | .tdQueryAnswered query _ => state.tdClient = true ∧ query ∈ state.tdQueries
  | .certificateCopied _ => 0 < state.certificateCopies
  | .certificateUnlinked status => status ∈ state.certificateUnlinks
  | .webhookVerified token _ | .webhookClosed token _ | .webhookHungUp token => token ∈ state.webhookActors
  | .directoryRemoved => state.directoryRemoval = true
  | .timeoutExpired => state.timeoutAt.isSome = true

instance (state : State Queue) (event : Event) : Decidable (enabled state event) :=
  match event with
  | .send _ | .close | .longPollTimeout => inferInstanceAs (Decidable (_ ∧ True))
  | .authorizationReady => inferInstanceAs (Decidable (_ ∧ _ ∧ _ ∧ _ ∧ _ ≤ _))
  | .authorizationFailed _ _ => inferInstanceAs (Decidable (_ ∧ _ ∧ _ ∧ _ ∧ (_ → _)))
  | .authorizationLoggingOut | .authorizationClosing | .allowedUpdateTypesChanged _ | .authorizationDateChanged _
  | .addUpdate _ _ _ _ => inferInstanceAs (Decidable (_ ∧ _ = true))
  | .authorizationClosed => inferInstanceAs (Decidable (_ ∧ _ ∧ _))
  | .tdQueryAnswered _ _ => inferInstanceAs (Decidable (_ ∧ _ ∧ _ ∈ _))
  | .certificateCopied _ => inferInstanceAs (Decidable (_ ∧ 0 < _))
  | .certificateUnlinked _ => inferInstanceAs (Decidable (_ ∧ _ ∈ _))
  | .webhookVerified _ _ | .webhookClosed _ _ | .webhookHungUp _ => inferInstanceAs (Decidable (_ ∧ _ ∈ _))
  | .directoryRemoved | .timeoutExpired => inferInstanceAs (Decidable (_ ∧ _ = true))

def step (draws : Draws) (state : State Queue) : Event → Except Check (State Queue)
  | .send query => send env draws query state
  | .close => close draws state
  | .authorizationReady => loop env draws { state with wasAuthorized := true }
  | .authorizationLoggingOut => loop env draws { state with loggingOut := true }
  | .authorizationClosing => loop env draws { state with closing := true }
  | .authorizationClosed => onClosed env draws state
  | .authorizationFailed code message => logOut env draws code message state
  | .allowedUpdateTypesChanged types =>
      .ok { state with allowedUpdateTypes := types.getD defaultAllowedUpdateTypes }
  | .authorizationDateChanged date => .ok { state with authorizationDate := date }
  | .tdQueryAnswered query error =>
      let taken := { state with tdQueries := state.tdQueries.erase query }
      match error with
      | none => .ok (taken.answer query (.ok ""))
      | some status => .ok (taken.answer query (.error status.code status.message))
  | .addUpdate updateType json timeout webhookQueueId =>
      addUpdate env draws updateType json timeout webhookQueueId state
  | .longPollTimeout => longPollWakeup env draws true state
  | .certificateCopied copied =>
      onWebhookCertificateCopied env draws copied { state with certificateCopies := state.certificateCopies - 1 }
  | .certificateUnlinked status =>
      onWebhookClosed env draws status { state with certificateUnlinks := state.certificateUnlinks.erase status }
  | .webhookVerified token cachedIpAddress => .ok (webhookVerified token cachedIpAddress state)
  | .webhookClosed token status =>
      webhookClosed env draws status { state with webhookActors := state.webhookActors.erase token }
  | .webhookHungUp token =>
      clientHangupShared env draws { state with webhookActors := state.webhookActors.erase token }
  | .directoryRemoved => finishClosing env draws { state with directoryRemoval := false }
  | .timeoutExpired => .ok { state with stopped := true }

def client : Transition.Machine (State Queue) (Event × Draws) Check where
  start state := ∃ draws tqueue webhookDb, state = startUp draws tqueue webhookDb ∨
    finishClosing env draws { startUp draws tqueue webhookDb with loggingOut := true, tdClient := false } = .ok state
  enabled state event := enabled state event.1
  step state event := step env event.2 state event.1

instance (state : State Queue) (event : Event × Draws) : Decidable ((client env).enabled state event) :=
  inferInstanceAs (Decidable (enabled state event.1))

end Machine

end TelegramBotApi.Client
