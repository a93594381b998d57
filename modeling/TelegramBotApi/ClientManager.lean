import TelegramBotApi.Lib.Tables
import TelegramBotApi.Lib.Transition
import TelegramBotApi.WebhookRestore

set_option autoImplicit false

namespace TelegramBotApi.ClientManager

open Checked Tables

inductive Check where
  | clientFound                -- raw_event, hangup_shared, close
  | tqueueIdNotZero            -- raw_event
  | activeClientCountPositive
  | activeClientsEmpty         -- hangup_shared
  | closedWhileActive          -- Client::on_closed
deriving DecidableEq

-- What a Client sends to the manager: the raw events with and without a pointer, and
-- the end of its link when it stops.
inductive Mail where
  | active
  | inactive
  | hangup
deriving DecidableEq

-- The part of a Client its lifetime depends on. A call of Client::close and the end of
-- the directory removal may still be on their way to it.
structure Client where
  token : String
  isTestDc : Bool
  tqueueId : Int
  started : Bool := false
  tdClient : Bool := false
  wasAuthorized : Bool := false
  loggingOut : Bool := false
  closing : Bool := false
  needClose : Bool := false
  timeout : Bool := false
  closeSent : Bool := false
  directoryRemoval : Bool := false
  stopped : Bool := false
  parent : List Mail := []

structure ClientInfo where
  token : String
  tqueueId : Int
deriving DecidableEq

structure Manager where
  clients : Table Nat ClientInfo := ∅
  -- td::Container does not use an identifier twice
  nextId : Nat := 1
  tokenToId : Table String Nat := ∅
  activeClientCount : Table Int Nat := ∅
  closeFlag : Bool := false
  closePromises : List Nat := []
  databaseClosings : Nat := 0
  stopped : Bool := false

structure Server where
  manager : Manager := {}
  actors : Table Nat Client := ∅
  -- history: the promises passed to close, and those that were set
  closes : List Nat := []
  promisesSet : List Nat := []

structure Query where
  token : String
  isTestDc : Bool
  method : String
deriving DecidableEq

-- td::to_integer_safe<int64>, the token range of the server, and td::base64url_decode.
structure Environment where
  toInt64 : String → Option Int
  tokenRange : Int → Bool
  base64urlDecodes : String → Bool

namespace Client

def isActive (client : Client) : Bool := client.wasAuthorized && !client.loggingOut && !client.closing

def key (token : String) (isTestDc : Bool) : String := if isTestDc then token ++ "/test" else token

def info (client : Client) : ClientInfo := ⟨key client.token client.isTestDc, client.tqueueId⟩

def sendEvent (mail : Mail) (client : Client) : Client := { client with parent := client.parent ++ [mail] }

def stop (client : Client) : Client := sendEvent .hangup { client with stopped := true }

def finishClosing (client : Client) : Client := if client.needClose then client.stop else { client with timeout := true }

def startUp (env : Environment) (client : Client) : Client :=
  if Client.acceptsToken env.base64urlDecodes client.token then { client with started := true, tdClient := true }
  else finishClosing { client with started := true, loggingOut := true }

def close (client : Client) : Client :=
  if client.tdClient then { client with needClose := true } else { client with needClose := true, timeout := true }

def onClosed (client : Client) : Except Check Client := do
  require .closedWhileActive (client.loggingOut || client.closing)
  let closed := { client with tdClient := false }
  return if closed.loggingOut then { closed with directoryRemoval := true } else closed.finishClosing

end Client

inductive AuthorizationState where
  | ready (knowsMe : Bool)
  | loggingOut
  | closing
  | closed
  | other
deriving DecidableEq

def Client.onUpdateAuthorizationState (client : Client) : AuthorizationState → Except Check Client
  | .ready knowsMe =>
      if knowsMe && !client.wasAuthorized then .ok (sendEvent .active { client with wasAuthorized := true })
      else .ok client
  | .loggingOut =>
      if client.loggingOut then .ok client
      else
        let out := { client with loggingOut := true }
        if client.wasAuthorized && !client.closing then .ok (out.sendEvent .inactive) else .ok out
  | .closing =>
      if client.closing then .ok client
      else
        let closing := { client with closing := true }
        if client.wasAuthorized && !client.loggingOut then .ok (closing.sendEvent .inactive) else .ok closing
  | .closed => client.onClosed
  | .other => .ok client

namespace Manager

def closeDb (manager : Manager) : Manager := { manager with databaseClosings := manager.databaseClosings + 1 }

-- CHECK(client_info) in the loop over the identifiers always holds: they are the keys.
def close (promise : Nat) (manager : Manager) : Manager :=
  let added := { manager with closePromises := manager.closePromises ++ [promise] }
  if manager.closeFlag then added
  else
    let closed := { added with closeFlag := true }
    if manager.clients.entries = [] then closed.closeDb else closed

def rawEvent (id : Nat) (active : Bool) (manager : Manager) : Except Check Manager :=
  match manager.clients.lookup id with
  | none => .error .clientFound
  | some info => do
      require .tqueueIdNotZero (info.tqueueId ≠ 0)
      let value := (manager.activeClientCount.lookup info.tqueueId).getD 0
      if active then
        return { manager with activeClientCount := manager.activeClientCount.insert info.tqueueId (value + 1) }
      else
        require .activeClientCountPositive (0 < value)
        if value - 1 = 0 then return { manager with activeClientCount := manager.activeClientCount.erase info.tqueueId }
        else return { manager with activeClientCount := manager.activeClientCount.insert info.tqueueId (value - 1) }

def hangupShared (id : Nat) (manager : Manager) : Except Check Manager :=
  match manager.clients.lookup id with
  | none => .error .clientFound
  | some info => do
      let left := { manager with tokenToId := manager.tokenToId.erase info.token, clients := manager.clients.erase id }
      if left.closeFlag && decide (left.clients.entries = []) then
        require .activeClientsEmpty (left.activeClientCount.entries = [])
        return left.closeDb
      else return left

end Manager

def getTqueueId (userId : Int) (isTestDc : Bool) : Int := userId + (if isTestDc then 2 ^ 54 else 0)

def allowedUserId (env : Environment) (token : String) : Option Int :=
  if token.toList.head? = some '0' || decide (80 < token.utf8ByteSize) || decide ('/' ∈ token.toList) ||
      !decide (':' ∈ token.toList) then none
  else
    match env.toInt64 (String.ofList (token.toList.takeWhile (· ≠ ':'))) with
    | none => none
    | some userId =>
        if !env.tokenRange userId || decide (userId ≤ 0) || decide (2 ^ 54 ≤ userId) then none else some userId

-- The answer to the query and what its Client does with it are not modelled here. Flood
-- control may refuse to create a Client.
def send (env : Environment) (query : Query) (flooded : Bool) (server : Server) : Server :=
  if server.manager.closeFlag then server
  else
    match allowedUserId env query.token with
    | none => server
    | some userId =>
        let token := Client.key query.token query.isTestDc
        match server.manager.tokenToId.lookup token with
        | some _ => server
        | none =>
            if query.method = "close" || flooded then server
            else
              let tqueueId := getTqueueId userId query.isTestDc
              let id := server.manager.nextId
              { server with
                manager := { server.manager with
                  clients := server.manager.clients.insert id ⟨token, tqueueId⟩
                  nextId := id + 1
                  tokenToId := server.manager.tokenToId.insert token id }
                actors := server.actors.insert id { token := query.token, isTestDc := query.isTestDc, tqueueId } }

inductive Event where
  | send (query : Query) (flooded : Bool)
  | close (promise : Nat)
  | finishClose
  | deliver (id : Nat)
  | startUp (id : Nat)
  | authorizationState (id : Nat) (state : AuthorizationState)
  | closeQuery (id : Nat)
  | clientClose (id : Nat)
  | directoryRemoved (id : Nat)
  | timeoutExpired (id : Nat)
deriving DecidableEq

def updateClient (id : Nat) (server : Server) (change : Client → Except Check Client) : Except Check Server :=
  match server.actors.lookup id with
  | none => .ok server
  | some client => do
      let changed ← change client
      return { server with actors := server.actors.insert id changed }

def sendCloses (actors : Table Nat Client) : Table Nat Client :=
  mapValues (fun client => { client with closeSent := true }) actors

def deliver (id : Nat) (server : Server) : Except Check Server :=
  match server.actors.lookup id with
  | none => .ok server
  | some client =>
      match client.parent with
      | [] => .ok server
      | .hangup :: _ => do
          let manager ← server.manager.hangupShared id
          return { server with manager, actors := server.actors.erase id }
      | mail :: later => do
          let manager ← server.manager.rawEvent id (mail = .active)
          return { server with manager, actors := server.actors.insert id { client with parent := later } }

def finishClose (server : Server) : Server :=
  { server with
    manager := { server.manager with closePromises := [], stopped := true }
    promisesSet := server.promisesSet ++ server.manager.closePromises }

def step (env : Environment) (server : Server) : Event → Except Check Server
  | .send query flooded => .ok (send env query flooded server)
  | .close promise =>
      .ok { server with
            manager := server.manager.close promise
            actors := if server.manager.closeFlag then server.actors else sendCloses server.actors
            closes := server.closes ++ [promise] }
  | .finishClose => .ok (finishClose server)
  | .deliver id => deliver id server
  | .startUp id => updateClient id server (fun client => .ok (client.startUp env))
  | .authorizationState id state => updateClient id server (fun client => client.onUpdateAuthorizationState state)
  | .closeQuery id => updateClient id server (fun client => .ok { client with needClose := true })
  | .clientClose id => updateClient id server (fun client => .ok { client.close with closeSent := false })
  | .directoryRemoved id =>
      updateClient id server (fun client => .ok (Client.finishClosing { client with directoryRemoval := false }))
  | .timeoutExpired id => updateClient id server (fun client => .ok client.stop)

def Holds (server : Server) (id : Nat) (condition : Client → Prop) : Prop :=
  ∃ client, server.actors.lookup id = some client ∧ client.stopped = false ∧ condition client

-- TDLib never returns to Ready after LoggingOut or Closing.
def enabled (server : Server) : Event → Prop
  | .send _ _ | .close _ => server.manager.stopped = false
  | .finishClose => server.manager.stopped = false ∧ 0 < server.manager.databaseClosings
  | .deliver id => server.manager.stopped = false ∧
      ∃ client, server.actors.lookup id = some client ∧ client.parent ≠ []
  | .startUp id => Holds server id (fun client => client.started = false)
  | .authorizationState id state => Holds server id (fun client => client.tdClient = true ∧
      ∀ knowsMe, state = .ready knowsMe → client.loggingOut = false ∧ client.closing = false)
  | .closeQuery id => Holds server id (fun client => client.started = true)
  | .clientClose id => Holds server id (fun client => client.started = true ∧ client.closeSent = true)
  | .directoryRemoved id => Holds server id (fun client => client.directoryRemoval = true)
  | .timeoutExpired id => Holds server id (fun client => client.timeout = true)

def machine (env : Environment) : Transition.Machine Server Event Check where
  start server := server = {}
  enabled := enabled
  step := step env

end TelegramBotApi.ClientManager
