import TelegramBotApi.WebhookRestore
import TelegramBotApi.WebhookTracking

set_option autoImplicit false

-- One bot over the lifetimes of its clients, with what the manager does for it.
namespace TelegramBotApi.Lifetimes

open Checked Client

inductive Bot (Queue : Type) where
  | absent (tqueue : Queue) (webhookDb : Option String)
  | present (client : State Queue)

structure Server (Queue : Type) where
  bot : Bot Queue
  closeFlag : Bool := false
  -- sent by start_up to the manager itself and not received yet
  restoreQueries : List Query := []
  answers : List (Query × Answer) := []

inductive Event where
  | send (query : Query) (floodRetryAfter : Option Int)
  | restoreReceived (floodRetryAfter : Option Int)
  | client (event : Client.Event)
  | clientHungUp
  | close
  | restart

section Server

variable {Queue : Type} (env : Environment Queue) (tokenDecodes : Bool)

def Bot.tqueue : Bot Queue → Queue
  | .absent tqueue _ => tqueue
  | .present client => client.tqueue

def Bot.webhookDb : Bot Queue → Option String
  | .absent _ webhookDb => webhookDb
  | .present client => client.webhookDb

def Server.answer (query : Query) (answer : Answer) (server : Server Queue) : Server Queue :=
  { server with answers := server.answers ++ [(query, answer)] }

-- A new client; a token that is not base64url logs it out at once.
def createClient (draws : Draws) (tqueue : Queue) (webhookDb : Option String) : Except Check (State Queue) :=
  if tokenDecodes then .ok (startUp draws tqueue webhookDb)
  else finishClosing env draws { startUp draws tqueue webhookDb with loggingOut := true, tdClient := false }

-- A request to a client that has stopped is dropped by its promise.
def deliver (draws : Draws) (query : Query) (client : State Queue) : Except Check (State Queue) :=
  if client.stopped then .ok (client.answer query (.retryAfter 5)) else Client.send env draws query client

def storedWebhook (client : State Queue) : String := client.webhookDb.getD ""

def restoreWebhook (draws : Draws) (query : Query) (client : State Queue) : Except Check (State Queue) :=
  if query.method ≠ "deletewebhook" ∧ query.method ≠ "setwebhook" ∧ storedWebhook client ≠ "" then
    deliver env draws (restoreQuery (storedWebhook client)) client
  else .ok client

def send (draws : Draws) (query : Query) (floodRetryAfter : Option Int) (server : Server Queue) :
    Except Check (Server Queue) :=
  if server.closeFlag then .ok (server.answer query (.retryAfter 5))
  else
    match server.bot with
    | .present client => do
        let after ← deliver env draws query client
        return { server with bot := .present after }
    | .absent tqueue webhookDb =>
        if query.method = "close" then
          .ok (server.answer query (.error 400 "Bad Request: the bot has already been closed"))
        else
          match floodRetryAfter with
          | some seconds => .ok (server.answer query (.retryAfter seconds))
          | none => do
              let created ← createClient env tokenDecodes draws tqueue webhookDb
              let restored ← restoreWebhook env draws query created
              let after ← deliver env draws query restored
              return { server with bot := .present after }

def startedQueries (webhookDb : Option String) : List Query := (webhookDb.map restoreQuery).toList

def close (draws : Draws) (server : Server Queue) : Except Check (Server Queue) :=
  match server.bot with
  | .absent _ _ => .ok { server with closeFlag := true }
  | .present client => do
      let after ← Client.close draws client
      return { server with closeFlag := true, bot := .present after }

def receive (draws : Draws) (floodRetryAfter : Option Int) (server : Server Queue) : Except Check (Server Queue) :=
  match server.restoreQueries with
  | [] => .ok server
  | query :: rest => send env tokenDecodes draws query floodRetryAfter { server with restoreQueries := rest }

def step (draws : Draws) (server : Server Queue) : Event → Except Check (Server Queue)
  | .send query floodRetryAfter => send env tokenDecodes draws query floodRetryAfter server
  | .restoreReceived floodRetryAfter => receive env tokenDecodes draws floodRetryAfter server
  | .client event =>
      match server.bot with
      | .absent _ _ => .ok server
      | .present client => do
          let after ← Client.step env draws client event
          return { server with bot := .present after }
  | .clientHungUp => .ok { server with bot := .absent server.bot.tqueue server.bot.webhookDb }
  | .close => close draws server
  | .restart => .ok {
      bot := .absent server.bot.tqueue server.bot.webhookDb
      restoreQueries := startedQueries server.bot.webhookDb
      answers := server.answers }

def enabled (server : Server Queue) : Event → Prop
  | .send _ _ | .restart => True
  | .restoreReceived _ => server.restoreQueries ≠ []
  | .client (.send _) | .client .close => False
  | .client event => ∃ client, server.bot = .present client ∧ Client.enabled client event
  | .clientHungUp => ∃ client, server.bot = .present client ∧ client.stopped = true
  | .close => server.closeFlag = false

-- An entry of the database is never empty.
def machine : Transition.Machine (Server Queue) (Event × Draws) Check where
  start server := ∃ tqueue webhookDb, webhookDb ≠ some "" ∧
    server = { bot := .absent tqueue webhookDb, restoreQueries := startedQueries webhookDb }
  enabled server event := enabled server event.1
  step server event := step env tokenDecodes event.2 server event.1

end Server

end TelegramBotApi.Lifetimes
