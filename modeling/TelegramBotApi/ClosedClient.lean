import TelegramBotApi.BotUsernamesResolution
import TelegramBotApi.CommandQueue
import TelegramBotApi.FileDownloadsSafety
import TelegramBotApi.PollExclusion
import TelegramBotApi.PostedStories
import TelegramBotApi.UnsentMessagesAccounting

set_option autoImplicit false

-- The client with all the containers that requests of its users are kept in, and its
-- end. Each part is the model of one of its features; the steps interleave freely.
namespace TelegramBotApi.ClosedClient

open Checked Tables
open Client (ClosingError Draws Environment getClosingError)

inductive Request where
  | command (query : Client.Query)
  | message (query : UnsentMessages.QueryId)
  | usernames (query : Nat)
  | download (query : Client.Query)
  | story (query : Client.Query)
deriving DecidableEq

inductive Check where
  | client (check : Client.Check)
  | messages (check : UnsentMessages.Check)
  | usernames (check : BotUsernames.Check)
  | stories (check : PostedStories.Check)
deriving DecidableEq

structure State (Queue KeyboardButton : Type) where
  client : Client.State Queue
  messages : UnsentMessages.State := {}
  usernames : BotUsernames.Resolving KeyboardButton
  downloads : FileDownloads.State := {}
  stories : PostedStories.State := {}
  -- the answers that on_closed gives to the requests of messages and usernames
  closingAnswers : List (Request × Client.Answer) := []
  -- history: the requests handed to the client
  sent : List Client.Query := []

inductive Event (KeyboardButton : Type) where
  | client (event : Client.Event)
  | messages (event : UnsentMessages.Event)
  | usernames (event : BotUsernames.ResolvingEvent KeyboardButton)
  | downloads (event : FileDownloads.Event)
  | stories (event : PostedStories.Event)

section Client

variable {Queue KeyboardButton : Type} (env : Environment Queue)

def State.hear (client : Client.State Queue) (state : State Queue KeyboardButton) : State Queue KeyboardButton :=
  { state with
    client := client
    messages := { state.messages with loggingOut := client.loggingOut, closing := client.closing }
    usernames := { state.usernames with
      client := { state.usernames.client with closing := client.loggingOut || client.closing } }
    downloads := { state.downloads with loggingOut := client.loggingOut, closing := client.closing }
    stories := { state.stories with loggingOut := client.loggingOut, closing := client.closing } }

def State.closingError (draws : Draws) (state : State Queue KeyboardButton) : ClosingError :=
  match getClosingError draws state.client with
  | .ok error => error
  | .error _ => ⟨0, 0, ""⟩

def closingAnswer (error : ClosingError) : Client.Answer :=
  if 0 < error.retryAfter then .retryAfter error.retryAfter else .error error.code error.message

-- The pointers in the containers end when their entries are erased.
def failMessages (error : ClosingError) (state : State Queue KeyboardButton) : State Queue KeyboardButton :=
  { state with
    closingAnswers := state.closingAnswers ++ state.messages.pendingSendMessageQueries.entries.map
      (fun entry => (.message entry.2.query.id, closingAnswer error))
    messages := { state.messages with
      pendingSendMessageQueries := ∅, yetUnsentMessageCount := ∅, yetUnsentMessages := ∅ } }

def failUsernames (error : ClosingError) (state : State Queue KeyboardButton) : State Queue KeyboardButton :=
  { state with
    closingAnswers := state.closingAnswers ++ state.usernames.client.pendingQueries.entries.map
      (fun entry => (.usernames entry.2.query.id, closingAnswer error))
    usernames := { state.usernames with
      client := { state.usernames.client with pendingQueries := ∅ }, closed := true } }

-- What on_closed does last is about the client alone, as what it does first is.
-- Nothing of it is about the stories.
def onClosed (draws : Draws) (state : State Queue KeyboardButton) : Except Check (State Queue KeyboardButton) := do
  let client ← (Client.onClosed env draws state.client).mapError Check.client
  let error ← (getClosingError draws state.client).mapError Check.client
  let drained := failUsernames error (failMessages error { state with client })
  return { drained with downloads := FileDownloads.onClosed error state.downloads }

def clientStep (draws : Draws) (event : Client.Event) (state : State Queue KeyboardButton) :
    Except Check (State Queue KeyboardButton) := do
  let client ← (Client.step env draws state.client event).mapError Check.client
  return { state.hear client with sent := state.sent ++ (Client.sentQuery (event, draws)).toList }

def step (draws : Draws) (state : State Queue KeyboardButton) :
    Event KeyboardButton → Except Check (State Queue KeyboardButton)
  | .client event =>
      match event with
      | .authorizationClosed => onClosed env draws state
      | event => clientStep env draws event state
  | .messages event => do
      let messages ← (UnsentMessages.step state.messages event).mapError Check.messages
      return { state with messages }
  | .usernames event => do
      let usernames ← (BotUsernames.resolvingStep state.usernames event).mapError Check.usernames
      return { state with usernames }
  | .downloads event =>
      let downloads := FileDownloads.step env.parameters.localMode state.downloads (state.closingError draws) event
      .ok { state with downloads }
  | .stories event => do
      let stories ← (PostedStories.step state.stories (state.closingError draws) event).mapError Check.stories
      return { state with stories }

def State.Running (state : State Queue KeyboardButton) : Prop :=
  state.client.stopped = false ∧ state.client.tdClient = true

def State.Answered (state : State Queue KeyboardButton) : Prop :=
  state.client.tdQueries = [] ∧ state.messages.handlers.entries = [] ∧ state.usernames.client.searching = [] ∧
  state.downloads.handlers.entries = [] ∧ state.stories.handlers.entries = []

def ofMessages : UnsentMessages.Event → Bool
  | .closes _ => false
  | _ => true

def ofUsernames : BotUsernames.ResolvingEvent KeyboardButton → Bool
  | .closing | .closed => false
  | _ => true

def ofDownloads : FileDownloads.Event → Bool
  | .authorizationClosing | .authorizationLoggingOut | .authorizationClosed => false
  | _ => true

def ClientOffers (state : State Queue KeyboardButton) : Client.Event → Prop
  | .send query => ∀ other ∈ state.sent, other.id ≠ query.id
  | .authorizationClosed => state.Answered
  | _ => True

def enabled (state : State Queue KeyboardButton) : Event KeyboardButton → Prop
  | .client event => Client.enabled state.client event ∧ ClientOffers state event
  | .messages event => state.Running ∧ UnsentMessages.enabled state.messages event ∧ ofMessages event = true
  | .usernames event => state.Running ∧ BotUsernames.resolvingEnabled state.usernames event ∧ ofUsernames event = true
  | .downloads event => state.Running ∧ FileDownloads.enabled state.downloads event ∧ ofDownloads event = true
  | .stories event => state.Running ∧ PostedStories.enabled state.stories event

def machine : Transition.Machine (State Queue KeyboardButton) (Event KeyboardButton × Draws) Check where
  start state := ∃ client myId, (Client.client env).start client ∧
    state = { client, usernames := { client := { ids := { defaultBotUserId := myId } } } }
  enabled state event := enabled state event.1
  step state event := step env event.2 state event.1

structure State.Emptied (state : State Queue KeyboardButton) : Prop where
  webhookSetQuery : state.client.webhookSetQuery = none
  activeWebhookSetQuery : state.client.activeWebhookSetQuery = none
  longPollQuery : state.client.longPollQuery = none
  cmdQueue : state.client.cmdQueue = []
  pendingSendMessageQueries : state.messages.pendingSendMessageQueries = ∅
  pendingBotResolveQueries : state.usernames.client.pendingQueries = ∅
  fileDownloadListeners : state.downloads.fileDownloadListeners = ∅
  yetUnsentStories : state.stories.yetUnsentStories = ∅

def State.Keeps (state : State Queue KeyboardButton) : Request → Prop
  | .command query => query ∈ state.client.cmdQueue ∨ state.client.longPollQuery = some query ∨
      state.client.webhookSetQuery = some query ∨ state.client.activeWebhookSetQuery = some query
  | .message query => ∃ queryId pending,
      state.messages.pendingSendMessageQueries.lookup queryId = some pending ∧ pending.query.id = query
  | .usernames query => ∃ queryId pending,
      state.usernames.client.pendingQueries.lookup queryId = some pending ∧ pending.query.id = query
  | .download query => ∃ fileId queries,
      state.downloads.fileDownloadListeners.lookup fileId = some queries ∧ query ∈ queries
  | .story query => ∃ fullId, state.stories.yetUnsentStories.lookup fullId = some query

def State.timesAnswered (state : State Queue KeyboardButton) : Request → Nat
  | .command query => (state.client.answers.map Prod.fst).count query
  | .message query =>
      (state.messages.answers.map UnsentMessages.Answer.query).count query +
        (state.closingAnswers.map Prod.fst).count (.message query)
  | .usernames query =>
      (state.usernames.client.failed.map (fun entry => entry.1.id)).count query +
        (state.closingAnswers.map Prod.fst).count (.usernames query)
  | .download query => (state.downloads.answers.map Prod.fst).count query
  | .story query => (state.stories.answers.map Prod.fst).count query

structure Drained (before after : State Queue KeyboardButton) : Prop where
  emptied : after.Emptied
  answered : ∀ request, before.Keeps request → after.timesAnswered request = 1

def State.Quiet (state : State Queue KeyboardButton) : Prop := state.stories.yetUnsentStories = ∅

def QuietEnd : Transition.Condition (State Queue KeyboardButton) (Event KeyboardButton × Draws) :=
  fun state event => event.1 = .client .authorizationClosed → state.Quiet

end Client

end TelegramBotApi.ClosedClient
