import TelegramBotApi.Client

set_option autoImplicit false

namespace TelegramBotApi.Client

open Checked

-- JsonUpdates::store cuts the answer by size; the update that would exhaust the
-- space is left out with all later ones.
def takeFitting : Int → List TQueueEvent → List TQueueEvent
  | _, [] => []
  | left, update :: updates =>
      let left := left - (50 + update.data.utf8ByteSize)
      if left ≤ 0 then [] else update :: takeFitting left updates

def jsonUpdates (updates : List TQueueEvent) : List TQueueEvent := takeFitting (2 ^ 22) updates

section GetUpdates

variable {Queue : Type} (env : Environment Queue)

def abortLongPoll (draws : Draws) (fromSetWebhook : Bool) (state : State Queue) : State Queue :=
  match state.longPollQuery with
  | none => state
  | some query =>
      let message :=
        if fromSetWebhook then "Conflict: terminated by setWebhook request"
        else "Conflict: terminated by other getUpdates request; make sure that only one bot instance is running"
      failQueryConflict draws message query { state with longPollQuery := none }

-- The offset that reaches the queue: EventId::from_int32 and get may both reject
-- the requested one, and the head is used instead.
def fetchUpdates (offset : Int) (limit : Nat) (unixTime : Int) (queue : Queue) :
    Except Check (Nat × List TQueueEvent × Queue) :=
  match env.tqueue.get queue offset.toNat true unixTime limit with
  | some fetched => .ok fetched
  | none =>
      match env.tqueue.get queue ((env.tqueue.getHead queue).getD 0) true unixTime limit with
      | some fetched => .ok fetched
      | none => .error .updatesFetched

def parkLongPoll (draws : Draws) (offset limit timeout : Int) (query : Query) (state : State Queue) : State Queue :=
  let aborted := abortLongPoll draws false state
  let hardTimeout := draws.now + timeout * second
  { aborted with
    longPollOffset := offset
    longPollLimit := limit
    longPollQuery := some query
    longPollWasWakeup := false
    longPollHardTimeout := hardTimeout
    longPollTimeoutAt := hardTimeout }

def reportBotUpdatesStatus (draws : Draws) (allFetched : Bool) (state : State Queue) : Except Check (State Queue) :=
  let warned := { state with nextBotUpdatesWarningTime := draws.now + botUpdatesWarningDelay * second }
  if allFetched && state.wasBotUpdatesWarning then do
    let sent ← sendRequest (.setBotUpdatesStatus 0 "") warned
    return { sent with wasBotUpdatesWarning := false }
  else .ok warned

def serve (query : Query) (before : Queue) (limit : Nat) (unixTime : Int) (updates : List TQueueEvent)
    (state : State Queue) : State Queue :=
  { state.answer query (.updates updates) with
    served := state.served ++ [⟨query, before, limit, unixTime, updates, state.tqueue⟩] }

-- The number of updates was subtracted from totalSize before it is compared with it.
def answerGetUpdates (draws : Draws) (offset limit timeout : Int) (query : Query) (before : Queue) (totalSize : Nat)
    (updates : List TQueueEvent) (state : State Queue) : Except Check (State Queue) := do
  require .totalSizeCoversUpdates (updates.length ≤ totalSize)
  if timeout ≠ 0 ∧ updates = [] then return parkLongPoll draws offset limit timeout query state
  else
    let reported ← reportBotUpdatesStatus draws (totalSize - updates.length = updates.length) state
    return serve query before (min limit.toNat tqueueEventBufferSize) draws.unixTime (jsonUpdates updates) reported

-- With a non-positive head the queue is not created yet.
def doGetUpdates (draws : Draws) (offset limit timeout : Int) (query : Query) (state : State Queue) :
    Except Check (State Queue) :=
  let cleared :=
    if offset < 0 then { state with tqueue := env.tqueue.clear state.tqueue offset.natAbs } else state
  let offset := if offset ≤ 0 then ((env.tqueue.getHead cleared.tqueue).getD 0 : Int) else offset
  if offset ≤ 0 then answerGetUpdates draws offset limit timeout query cleared.tqueue 0 [] cleared
  else do
    let (totalSize, updates, after) ←
      fetchUpdates env offset (min limit.toNat tqueueEventBufferSize) draws.unixTime cleared.tqueue
    answerGetUpdates draws offset limit timeout query cleared.tqueue totalSize updates { cleared with tqueue := after }

def warnPendingUpdates (draws : Draws) (state : State Queue) : Except Check (State Queue) :=
  let pendingUpdateCount := getPendingUpdateCount env state
  if minPendingUpdatesWarning ≤ pendingUpdateCount ∧ state.nextBotUpdatesWarningTime < draws.now then do
    let sent ← sendRequest
      (.setBotUpdatesStatus pendingUpdateCount "The getUpdates method is not called for too long") state
    return { sent with
      nextBotUpdatesWarningTime := draws.now + botUpdatesWarningDelay * second, wasBotUpdatesWarning := true }
  else .ok state

def delayLongPoll (draws : Draws) (state : State Queue) : State Queue :=
  let hardTimeout :=
    if state.longPollWasWakeup then state.longPollHardTimeout
    else min (draws.now + longPollMaxDelay) state.longPollHardTimeout
  { state with
    longPollHardTimeout := hardTimeout
    longPollWasWakeup := true
    longPollTimeoutAt := min (draws.now + longPollWaitAfter) hardTimeout }

def longPollWakeup (draws : Draws) (forceFlag : Bool) (state : State Queue) : Except Check (State Queue) :=
  match state.longPollQuery with
  | none => warnPendingUpdates env draws state
  | some query =>
      if forceFlag then
        doGetUpdates env draws state.longPollOffset state.longPollLimit 0 query { state with longPollQuery := none }
      else .ok (delayLongPoll draws state)

def getUpdatesOffset (query : Query) : Int := getIntegerArg env query "offset" 0 (-2 ^ 31) (2 ^ 31 - 1)

def getUpdatesLimit (query : Query) : Int := getIntegerArg env query "limit" 100 1 100

def getUpdatesTimeout (query : Query) : Int := getIntegerArg env query "timeout" 0 0 longPollMaxTimeout

def webhookConflict : String :=
  "Conflict: can't use getUpdates method while webhook is active; use deleteWebhook to delete the webhook first"

-- A repeated offset is slowed down: it waits for three seconds at least, and
-- gets a single update within half a second.
def processGetUpdatesQuery (draws : Draws) (query : Query) (state : State Queue) : Except Check (State Queue) :=
  if state.webhookUrl ≠ "" ∨ state.webhookSetQuery.isSome ∨ state.activeWebhookSetQuery.isSome then
    .ok (failQueryConflict draws webhookConflict query state)
  else do
    let offset := getUpdatesOffset env query
    let timeout := getUpdatesTimeout env query
    let (_, state) ← updateAllowedUpdateTypes env query state
    let repeated := offset = state.previousGetUpdatesOffset
    let timeout :=
      if repeated ∧ timeout < 3 ∧ draws.now < state.previousGetUpdatesStartTime + 3 * second then 3 else timeout
    let limit :=
      if repeated ∧ 2 * draws.now < 2 * state.previousGetUpdatesStartTime + second then 1 else getUpdatesLimit env query
    doGetUpdates env draws offset limit timeout query
      { state with previousGetUpdatesOffset := offset, previousGetUpdatesStartTime := draws.now }

end GetUpdates

end TelegramBotApi.Client
