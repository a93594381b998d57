import TelegramBotApi.Lib.Checked
import TelegramBotApi.Lib.KeyedDelivery
import TelegramBotApi.Lib.Transition
import TelegramBotApi.Lib.Words
import TelegramBotApi.TQueue

set_option autoImplicit false

namespace TelegramBotApi.WebhookActor

open Checked Words

abbrev QueueId := Int
abbrev ConnectionId := Nat

-- Clock values are in nanoseconds, the resolution in which queues_ is ordered.
def second : Int := 1000000000
def ipAddressCacheTime : Int := 30 * 60
def webhookMaxResendTimeout : Int := 60
def webhookDropTimeout : Int := 60 * 60 * 23
def maxRetryAfter : Int := 3600
def tqueueEventBufferSize : Nat := 1000

structure IpAddress where
  text : String
  isIpv4 : Bool
  isReserved : Bool
deriving DecidableEq

-- td::FloodControlFast is not part of the repository.
structure FloodControl (Flood : Type) where
  getWakeupAt : Flood → Int
  addEvent : Flood → Int → Flood
  activeNewConnection : Flood
  pendingNewConnection : Flood

-- The constructor's arguments and the parameters shared by all actors.
structure Settings where
  isHttps : Bool
  port : Nat
  maxConnections : Nat
  maxConnectionsPositive : 0 < maxConnections := by first | exact Nat.one_pos | decide
  fromDb : Bool
  fixIpAddress : Bool
  cachedIpAddress : Option IpAddress
  localMode : Bool
  webhookProxy : Bool
  unixTimeDifference : Int

structure Environment (Queue Flood : Type) where
  tqueue : TQueue Queue
  flood : FloodControl Flood
  settings : Settings

structure Update where
  id : EventId
  json : String
  expiresAt : Int
  lastSendTime : Int := 0
  wakeupAt : Int
  delay : Int := 1
  failCount : Nat := 0
  queueId : QueueId

structure Queue where
  wakeupAt : Int
  id : QueueId
deriving DecidableEq

structure Connection where
  eventId : Option EventId := none
  ipGeneration : Int

inductive Message where
  | webhookVerified (cachedIp : String)
  | webhookSuccess
  | webhookError (error : String)
  | webhookClosed (error : Option String)
  | send (method : String)
deriving DecidableEq

inductive Reason where
  | responded (connectionId : ConnectionId)
  | expired (unixTime delay : Int)
deriving DecidableEq

abbrev Action := KeyedDelivery.Action QueueId EventId ConnectionId Reason

-- History of what each loop() left behind when it returned.
structure LoopEnd where
  stopFlag : Bool
  queues : List Queue
  inFlight : Bool
  pendingSockets : List Nat
  isIpAddressBeingResolved : Bool
  sslContextRunning : Bool
  wakeupAt : Int
  now : Int
  floodWakeupAt : Int

structure State (TQueueState Flood : Type) where
  tqueue : TQueueState
  -- a counter that all actors share
  totalConnectionCount : Int := 0
  tqueueEmpty : Bool := false
  tqueueOffset : Option EventId := none
  maxLoadedUpdates : Nat := 0
  updateMap : AList (fun _ : EventId => Update) := ∅
  queueUpdates : AList (fun _ : QueueId => List EventId) := ∅
  queues : List Queue := []
  uniqueQueueId : QueueId := 2 ^ 60
  stopFlag : Bool := false
  wasChecked : Bool := false
  callbackHeld : Bool := true
  firstError410Time : Int := 0
  sslCtx : Bool := false
  ipAddress : Option IpAddress
  ipGeneration : Int := 0
  nextIpAddressResolveTime : Int := 0
  isIpAddressBeingResolved : Bool := false
  pendingSockets : List Nat := []
  nextSocketId : Nat := 0
  readySockets : Nat := 0
  connections : AList (fun _ : ConnectionId => Connection) := ∅
  nextConnectionId : ConnectionId := 0
  readyConnections : List ConnectionId := []
  activeNewConnectionFlood : Flood
  pendingNewConnectionFlood : Flood
  lastSuccessTime : Int := 0
  wakeupAt : Int := 0
  lastUpdateWasSuccessful : Bool := true
  startedAt : Nat := 0
  -- work handed to other threads that has not been reported back yet
  sslContextRunning : Bool := false
  closeSent : Bool := false
  stopped : Bool := false
  messages : List Message := []
  log : List Action := []
  loopEnds : List LoopEnd := []

-- What one event finds outside the actor: the clock at each place it is read,
-- random numbers, and the outcome of each attempt of a library call.
structure Draws where
  handledAt : Nat := 0
  loadedAt : Nat := 0
  resolvedAt : Nat := 0
  connectedAt : Nat := 0
  sentAt : Nat → Nat := fun _ => 0
  resendTimeout : Int := 60
  cacheTimeShift : Int := 0
  socketOpens : Nat → Bool := fun _ => true
  sslStreamCreated : Nat → Bool := fun _ => true
  headerFinishes : Nat → Bool := fun _ => true

inductive Check where
  | maxLoadedUpdates | updatesFetched | updateNotExpired    -- load_updates
  | updateFound | queueUpdatesFound | eventIdsNotEmpty | eventIdIsFront
  | queueIdNotZero                                         -- send_update
  | queryErrorNotEmpty | connectionNotReady                -- handle
  | ipAddressValid | sslContextCreated                     -- create_connection
  | ipAddressBeingResolved                                 -- on_resolved_ip_address
  | callbackNotEmpty                                       -- on_error
deriving DecidableEq

def Queue.Before (first last : Queue) : Prop :=
  first.wakeupAt < last.wakeupAt ∨ first.wakeupAt = last.wakeupAt ∧ first.id ≤ last.id

instance : DecidableRel Queue.Before := fun first last =>
  inferInstanceAs (Decidable (first.wakeupAt < last.wakeupAt ∨ first.wakeupAt = last.wakeupAt ∧ first.id ≤ last.id))

-- queues_ is an ordered set.
def emplace (queue : Queue) (queues : List Queue) : List Queue :=
  if queue ∈ queues then queues else queues.orderedInsert Queue.Before queue

def getUnixTime (unixTimeDifference now : Int) : Int :=
  max 0 (min (2 ^ 31 - 1) ((unixTimeDifference + now) / second))

section Actor

variable {TQueueState Flood : Type} (env : Environment TQueueState Flood)

def State.tell (state : State TQueueState Flood) (message : Message) : State TQueueState Flood :=
  { state with messages := state.messages ++ [message] }

def relaxWakeupAt (wakeupAt : Int) (state : State TQueueState Flood) : State TQueueState Flood :=
  if state.wakeupAt = 0 ∨ wakeupAt < state.wakeupAt then { state with wakeupAt := wakeupAt } else state

def onWebhookVerified (state : State TQueueState Flood) : State TQueueState Flood :=
  state.tell (.webhookVerified ((state.ipAddress.map IpAddress.text).getD ""))

def onWebhookError (error : String) (state : State TQueueState Flood) : State TQueueState Flood :=
  if state.wasChecked then state.tell (.webhookError error) else state

def onError (error : String) (state : State TQueueState Flood) : Except Check (State TQueueState Flood) :=
  if !state.wasChecked && !state.stopFlag then do
    require .callbackNotEmpty (state.callbackHeld = true)
    return State.tell { state with callbackHeld := false, stopFlag := true } (.webhookClosed (some error))
  else .ok state

def createWebhookError (errorMessage result : String) (isPublic : Bool) (state : State TQueueState Flood) :
    Except Check (State TQueueState Flood) :=
  onError result (onWebhookError (if isPublic then errorMessage ++ ": " ++ result else errorMessage) state)

def checkIpAddress (address : Option IpAddress) : Except String IpAddress :=
  match address with
  | none => .error "Invalid IP address specified"
  | some address =>
      if env.settings.localMode then .ok address
      else if !address.isIpv4 then .error "IPv6-only addresses are not allowed"
      else if address.isReserved then .error ("IP address " ++ address.text ++ " is reserved")
      else .ok address

def resolveIpAddress (draws : Draws) (state : State TQueueState Flood) : State TQueueState Flood :=
  if env.settings.fixIpAddress || state.isIpAddressBeingResolved then state
  else if draws.resolvedAt < state.nextIpAddressResolveTime then relaxWakeupAt state.nextIpAddressResolveTime state
  else { state with isIpAddressBeingResolved := true }

-- The connection starts idle; the first one also verifies the webhook.
def addConnection (state : State TQueueState Flood) : State TQueueState Flood :=
  { state with
    connections := state.connections.insert state.nextConnectionId ⟨none, state.ipGeneration⟩
    readyConnections := state.readyConnections ++ [state.nextConnectionId]
    nextConnectionId := state.nextConnectionId + 1
    totalConnectionCount := state.totalConnectionCount + 1 }

def verifyUnchecked (state : State TQueueState Flood) : State TQueueState Flood :=
  if state.wasChecked then state else onWebhookVerified { state with wasChecked := true }

-- create_connection over a socket; true when a connection was created.
def createConnectionOver (draws : Draws) (attempt : Nat) (state : State TQueueState Flood) :
    Except Check (Bool × State TQueueState Flood) := do
  if env.settings.isHttps then
    require .sslContextCreated (state.sslCtx = true)
    if draws.sslStreamCreated attempt then return (true, verifyUnchecked (addConnection state))
    else
      let failed ← createWebhookError "Can't create an SSL connection" "SSL error" true state
      return (false, failed)
  else return (true, verifyUnchecked (addConnection state))

def createConnection (draws : Draws) (attempt : Nat) (state : State TQueueState Flood) :
    Except Check (Bool × State TQueueState Flood) := do
  require .ipAddressValid (state.ipAddress.isSome = true)
  if env.settings.webhookProxy then
    if draws.socketOpens attempt then
      -- the connection is not ready before the proxy answers, which counts as an error
      let checked := verifyUnchecked state
      return (false, { checked with
        pendingSockets := checked.pendingSockets ++ [checked.nextSocketId], nextSocketId := checked.nextSocketId + 1 })
    else
      let failed ← createWebhookError "Can't connect to the webhook proxy" "Socket error" false state
      return (false, failed)
  else if draws.socketOpens attempt then createConnectionOver env draws attempt state
  else
    let failed ← createWebhookError "Can't connect to the webhook" "Socket error" false state
    return (false, failed)

def isActive (draws : Draws) (state : State TQueueState Flood) : Bool :=
  draws.connectedAt ≤ state.lastSuccessTime + 10 * second

def needConnections (draws : Draws) (state : State TQueueState Flood) : Nat :=
  let wanted := if state.wasChecked then min state.queueUpdates.keys.length env.settings.maxConnections else 1
  if isActive draws state then max wanted 1 else min wanted 1

def floodOf (active : Bool) (state : State TQueueState Flood) : Flood :=
  if active then state.activeNewConnectionFlood else state.pendingNewConnectionFlood

def addFloodEvent (active : Bool) (now : Int) (state : State TQueueState Flood) : State TQueueState Flood :=
  if active then { state with activeNewConnectionFlood := env.flood.addEvent state.activeNewConnectionFlood now }
  else { state with pendingNewConnectionFlood := env.flood.addEvent state.pendingNewConnectionFlood now }

def State.socketCount (state : State TQueueState Flood) : Nat :=
  state.connections.keys.length + state.pendingSockets.length + state.readySockets

-- The first loop of create_new_connections, with the number of connections
-- still missing as fuel; false when the function returns from within it.
def openConnections (draws : Draws) (need : Nat) (active : Bool) :
    Nat → Nat → State TQueueState Flood → Except Check (Bool × State TQueueState Flood)
  | 0, _, state => .ok (true, state)
  | fuel + 1, attempt, state =>
      if state.socketCount < need then
        let wakeupAt := env.flood.getWakeupAt (floodOf active state)
        if draws.connectedAt < wakeupAt then .ok (true, relaxWakeupAt wakeupAt state)
        else do
          let (created, state) ← createConnection env draws attempt (addFloodEvent env active draws.connectedAt state)
          if created then openConnections draws need active fuel (attempt + 1) state
          else return (false, relaxWakeupAt (draws.connectedAt + second) state)
      else .ok (true, state)

-- The second loop, over the sockets the proxy made ready; the rest of them is
-- dropped on every way out.
def useReadySockets (draws : Draws) (need : Nat) : Nat → Nat → State TQueueState Flood →
    Except Check (State TQueueState Flood)
  | 0, _, state => .ok state
  | sockets + 1, attempt, state =>
      if state.connections.keys.length + state.pendingSockets.length < need then do
        let (created, state) ← createConnectionOver env draws attempt { state with readySockets := sockets }
        if created then useReadySockets draws need sockets (attempt + 1) state
        else return { relaxWakeupAt (draws.connectedAt + second) state with readySockets := 0 }
      else .ok { state with readySockets := 0 }

def createNewConnections (draws : Draws) (state : State TQueueState Flood) : Except Check (State TQueueState Flood) :=
  if state.ipAddress.isNone then .ok state
  else if env.settings.isHttps && !state.sslCtx then .ok state
  else do
    let need := needConnections env draws state
    let (continues, state) ← openConnections env draws need (isActive draws state) need 0 state
    if continues then useReadySockets env draws need state.readySockets need state else return state

def fetchUpdates (offset : EventId) (unixTimeNow : Int) (limit : Nat) (state : State TQueueState Flood) :
    Except Check (Nat × List TQueueEvent × State TQueueState Flood) :=
  match env.tqueue.get state.tqueue offset false unixTimeNow limit with
  | some (size, events, tqueue) => .ok (size, events, { state with tqueue := tqueue })
  | none =>
      match env.tqueue.getHead state.tqueue with
      | none => .error .updatesFetched
      | some head =>
          match env.tqueue.get state.tqueue head false unixTimeNow limit with
          | none => .error .updatesFetched
          | some (size, events, tqueue) => .ok (size, events, { state with tqueue := tqueue, tqueueOffset := some head })

def loadUpdate (now : Int) (unixTimeNow : Int) (state : State TQueueState Flood) (event : TQueueEvent) :
    Except Check (State TQueueState Flood) :=
  if (state.updateMap.lookup event.id).isSome then .ok state
  else do
    require .updateNotExpired (unixTimeNow ≤ event.expiresAt)
    let queueId := if event.extra = 0 then state.uniqueQueueId else event.extra
    let eventIds := (state.queueUpdates.lookup queueId).getD []
    return { state with
      updateMap := state.updateMap.insert event.id
        { id := event.id, json := event.data, expiresAt := event.expiresAt, wakeupAt := now, queueId := queueId }
      tqueueOffset := some (event.id + 1)
      uniqueQueueId := if event.extra = 0 then state.uniqueQueueId + 1 else state.uniqueQueueId
      queues := if eventIds = [] then emplace ⟨now, queueId⟩ state.queues else state.queues
      queueUpdates := state.queueUpdates.insert queueId (eventIds ++ [event.id])
      log := state.log ++ [.loaded event.id queueId] }

def tellSuccess (drained : Bool) (state : State TQueueState Flood) : State TQueueState Flood :=
  if drained && state.lastUpdateWasSuccessful then state.tell .webhookSuccess else state

def loadUpdates (draws : Draws) (state : State TQueueState Flood) : Except Check (State TQueueState Flood) :=
  if state.tqueueEmpty then .ok state
  else if state.maxLoadedUpdates ≤ state.queueUpdates.keys.length then do
    require .maxLoadedUpdates (state.queueUpdates.keys.length = state.maxLoadedUpdates)
    return state
  else
    let state := { state with tqueueOffset := state.tqueueOffset.or (env.tqueue.getHead state.tqueue) }
    let limit := min tqueueEventBufferSize (state.maxLoadedUpdates - state.queueUpdates.keys.length)
    let unixTimeNow := getUnixTime env.settings.unixTimeDifference draws.loadedAt
    match state.tqueueOffset with
    | none => .ok (tellSuccess true { state with tqueueEmpty := true })
    | some offset => do
        let (totalSize, events, state) ← fetchUpdates env offset unixTimeNow limit state
        let state := { state with tqueueEmpty := events.isEmpty }
        let loaded ← events.foldlM (loadUpdate draws.loadedAt unixTimeNow) state
        return tellSuccess (decide (events.length = totalSize)) loaded

def dropEvent (eventId : EventId) (reason : Reason) (state : State TQueueState Flood) :
    Except Check (State TQueueState Flood) :=
  match state.updateMap.lookup eventId with
  | none => .error .updateFound
  | some update =>
      let updateMap := state.updateMap.erase eventId
      let forgotten : State TQueueState Flood := { state with
        updateMap := updateMap
        tqueue := env.tqueue.forget state.tqueue eventId
        log := state.log ++ [.forgotten eventId reason] }
      match state.queueUpdates.lookup update.queueId with
      | none => .error .queueUpdatesFound
      | some [] => .error .eventIdsNotEmpty
      | some [first] => do
          require .eventIdIsFront (eventId = first)
          return { forgotten with queueUpdates := state.queueUpdates.erase update.queueId }
      | some (first :: next :: rest) => do
          require .eventIdIsFront (eventId = first)
          match updateMap.lookup next with
          | none => .error .updateFound
          | some later =>
              return { forgotten with
                queueUpdates := state.queueUpdates.insert update.queueId (next :: rest)
                queues := emplace ⟨later.wakeupAt, later.queueId⟩ state.queues }

def onUpdateOk (eventId : EventId) (connectionId : ConnectionId) (draws : Draws) (state : State TQueueState Flood) :
    Except Check (State TQueueState Flood) := do
  let state := { state with lastUpdateWasSuccessful := true, lastSuccessTime := draws.handledAt }
  require .updateFound ((state.updateMap.lookup eventId).isSome = true)
  dropEvent env eventId (.responded connectionId) state

def nextDelays (update : Update) (retryAfter resendTimeout : Int) : Int × Int :=
  let retryAfter := max 0 (min maxRetryAfter retryAfter)
  if retryAfter = 0 ∧ 0 < update.failCount then
    let nextDelay := min resendTimeout (update.delay * 2)
    (nextDelay, nextDelay)
  else (update.delay, retryAfter)

def onUpdateError (eventId : EventId) (retryAfter : Int) (draws : Draws) (state : State TQueueState Flood) :
    Except Check (State TQueueState Flood) :=
  match state.updateMap.lookup eventId with
  | none => .error .updateFound
  | some update =>
      let (nextDelay, nextEffectiveDelay) := nextDelays update retryAfter draws.resendTimeout
      let unixTime := getUnixTime env.settings.unixTimeDifference draws.handledAt
      let state := { state with lastUpdateWasSuccessful := false }
      if update.expiresAt < addInt32 unixTime nextEffectiveDelay then
        dropEvent env eventId (.expired unixTime nextEffectiveDelay) state
      else
        let wakeupAt := draws.handledAt + nextEffectiveDelay * second
        .ok { state with
          updateMap := state.updateMap.insert eventId
            { update with delay := nextDelay, wakeupAt := wakeupAt, failCount := update.failCount + 1 }
          queues := emplace ⟨wakeupAt, update.queueId⟩ state.queues }

-- True when an update was written; a header that cannot be built is an error.
def sendUpdate (draws : Draws) (attempt : Nat) (state : State TQueueState Flood) :
    Except Check (Bool × State TQueueState Flood) :=
  match state.readyConnections, state.queues with
  | [], _ => .ok (false, state)
  | _ :: _, [] => .ok (false, state)
  | connectionId :: readyConnections, queue :: queues =>
      let now : Int := draws.sentAt attempt
      if now < queue.wakeupAt then .ok (false, relaxWakeupAt queue.wakeupAt state)
      else do
        require .queueIdNotZero (queue.id ≠ 0)
        match state.queueUpdates.lookup queue.id with
        | none => .error .queueUpdatesFound
        | some [] => .error .eventIdsNotEmpty
        | some (eventId :: _) =>
            match state.updateMap.lookup eventId with
            | none => .error .updateFound
            | some update =>
                let taken := { state with
                  queues := queues
                  updateMap := state.updateMap.insert eventId { update with lastSendTime := now } }
                if !draws.headerFinishes attempt then .ok (false, taken)
                else
                  let ipGeneration := ((state.connections.lookup connectionId).map Connection.ipGeneration).getD (-1)
                  .ok (true, { taken with
                    readyConnections := readyConnections
                    connections := state.connections.insert connectionId ⟨some update.id, ipGeneration⟩
                    log := state.log ++ [.written update.id connectionId] })

-- Each written update takes a ready connection, which bounds the loop.
def sendUpdatesFrom (draws : Draws) : Nat → Nat → State TQueueState Flood → Except Check (State TQueueState Flood)
  | 0, _, state => .ok state
  | fuel + 1, attempt, state => do
      let (sent, state) ← sendUpdate draws attempt state
      if sent then sendUpdatesFrom draws fuel (attempt + 1) state else return state

def sendUpdates (draws : Draws) (state : State TQueueState Flood) : Except Check (State TQueueState Flood) :=
  sendUpdatesFrom draws (state.readyConnections.length + 1) 0 state

-- Every stage of loop() is skipped once the actor is to stop.
def unlessStopping (stage : State TQueueState Flood → Except Check (State TQueueState Flood))
    (state : State TQueueState Flood) : Except Check (State TQueueState Flood) :=
  if state.stopFlag then .ok state else stage state

def State.inFlight (state : State TQueueState Flood) : Bool :=
  state.connections.entries.any (fun entry => entry.2.eventId.isSome)

def loopEnd (draws : Draws) (state : State TQueueState Flood) : LoopEnd where
  stopFlag := state.stopFlag
  queues := state.queues
  inFlight := state.inFlight
  pendingSockets := state.pendingSockets
  isIpAddressBeingResolved := state.isIpAddressBeingResolved
  sslContextRunning := state.sslContextRunning
  wakeupAt := state.wakeupAt
  now := draws.connectedAt
  floodWakeupAt := env.flood.getWakeupAt (floodOf (isActive draws state) state)

def loop (draws : Draws) (state : State TQueueState Flood) : Except Check (State TQueueState Flood) := do
  let state ← unlessStopping (loadUpdates env draws) { state with wakeupAt := 0 }
  let state ← unlessStopping (fun state => .ok (resolveIpAddress env draws state)) state
  let state ← unlessStopping (createNewConnections env draws) state
  let state ← unlessStopping (sendUpdates draws) state
  return { state with stopped := state.stopFlag, loopEnds := state.loopEnds ++ [loopEnd env draws state] }

def update (draws : Draws) (state : State TQueueState Flood) : Except Check (State TQueueState Flood) :=
  loop env draws { state with tqueueEmpty := false }

def onResolvedIpAddress (result : Except String (Option IpAddress)) (draws : Draws) (state : State TQueueState Flood) :
    Except Check (State TQueueState Flood) := do
  require .ipAddressBeingResolved (state.isIpAddressBeingResolved = true)
  let nextResolve := draws.resolvedAt + (ipAddressCacheTime + draws.cacheTimeShift) * second
  let state := relaxWakeupAt nextResolve
    { state with isIpAddressBeingResolved := false, nextIpAddressResolveTime := nextResolve }
  match result.bind (checkIpAddress env) with
  | .error error => do
      let state ← onError error state
      loop env draws state
  | .ok address =>
      if state.ipAddress = some address then loop env draws state
      else
        let changed := { state with ipAddress := some address, ipGeneration := state.ipGeneration + 1 }
        loop env draws (if changed.wasChecked then onWebhookVerified changed else changed)

def onSslContextCreated (created : Bool) (draws : Draws) (state : State TQueueState Flood) :
    Except Check (State TQueueState Flood) := do
  let state := { state with sslContextRunning := false }
  if created then loop env draws { state with sslCtx := true }
  else
    let state ← createWebhookError "Can't create an SSL context" "SSL error" true state
    loop env draws state

def onSocketReadyAsync (id : Nat) (opened : Bool) (draws : Draws) (state : State TQueueState Flood) :
    Except Check (State TQueueState Flood) := do
  let state := { state with pendingSockets := state.pendingSockets.erase id }
  if opened then loop env draws { state with readySockets := state.readySockets + 1 }
  else
    let state ← onError "Socket error" (onWebhookError "Socket error" state)
    loop env draws state

structure Response where
  isResponse : Bool
  keepAlive : Bool
  code : Int
  reason : String
  method : String
  retryAfter : Int

def Response.succeeded (response : Response) : Bool := response.isResponse && 200 ≤ response.code && response.code ≤ 299

def isForwardedMethod (method : String) : Bool :=
  method ≠ "" && method ≠ "deletewebhook" && method ≠ "setwebhook" && method ≠ "close" && method ≠ "logout" &&
    !(['g', 'e', 't'].isPrefixOf method.toList)

structure Verdict where
  closeConnection : Bool
  queryError : Option String
  retryAfter : Int
  needClose : Bool

def readResponse (response : Response) (ipGeneration : Int) (draws : Draws) (state : State TQueueState Flood) :
    Verdict × State TQueueState Flood :=
  let closeConnection := !response.isResponse || !response.keepAlive || state.ipGeneration ≠ ipGeneration
  if response.isResponse then
    if response.succeeded then
      let told := if isForwardedMethod response.method then state.tell (.send response.method) else state
      (⟨closeConnection, none, 0, false⟩, { told with firstError410Time := 0 })
    else
      let error := "Wrong response from the webhook: " ++ toString response.code ++ " " ++ response.reason
      let needClose := response.code = 410 && state.firstError410Time ≠ 0 &&
        state.firstError410Time + webhookDropTimeout * second < draws.handledAt
      let firstError410Time := if response.code = 410 then
          if state.firstError410Time = 0 then (draws.handledAt : Int) else state.firstError410Time
        else 0
      (⟨closeConnection, some error, response.retryAfter, needClose⟩,
        onWebhookError error { state with firstError410Time := firstError410Time })
  else
    let error := "Wrong response from the webhook: " ++ response.reason
    (⟨closeConnection, some error, 0, false⟩, onWebhookError error state)

-- No response stands for a hang-up.
def readVerdict (response : Option Response) (ipGeneration : Int) (draws : Draws) (state : State TQueueState Flood) :
    Verdict × State TQueueState Flood :=
  match response with
  | some response => readResponse response ipGeneration draws state
  | none => (⟨true, some "Webhook connection closed", 0, false⟩, state)

def finishUpdate (connectionId : ConnectionId) (eventId : Option EventId) (verdict : Verdict) (draws : Draws)
    (state : State TQueueState Flood) : Except Check (State TQueueState Flood) :=
  match eventId, verdict.queryError with
  | some eventId, none => onUpdateOk env eventId connectionId draws state
  | some eventId, some _ => onUpdateError env eventId verdict.retryAfter draws state
  | none, error => do
      require .queryErrorNotEmpty (error.isSome = true)
      return state

def releaseConnection (connectionId : ConnectionId) (close : Bool) (ipGeneration : Int)
    (state : State TQueueState Flood) : Except Check (State TQueueState Flood) :=
  if close then
    .ok { state with
      connections := state.connections.erase connectionId
      readyConnections := state.readyConnections.filter (· ≠ connectionId)
      totalConnectionCount := state.totalConnectionCount - 1 }
  else do
    require .connectionNotReady (connectionId ∉ state.readyConnections)
    return { state with
      connections := state.connections.insert connectionId ⟨none, ipGeneration⟩
      readyConnections := state.readyConnections ++ [connectionId] }

def handle (connectionId : ConnectionId) (response : Option Response) (draws : Draws) (state : State TQueueState Flood) :
    Except Check (State TQueueState Flood) :=
  match state.connections.lookup connectionId with
  | none => .ok state
  | some connection => do
      let (verdict, state) := readVerdict response connection.ipGeneration draws state
      let state ← finishUpdate env connectionId connection.eventId verdict draws state
      let state ← releaseConnection connectionId (verdict.needClose || verdict.closeConnection) connection.ipGeneration
        state
      if verdict.needClose then return { state with closeSent := true } else loop env draws state

def hangupShared (connectionId : ConnectionId) (draws later : Draws) (state : State TQueueState Flood) :
    Except Check (State TQueueState Flood) := do
  let state ← handle env connectionId none draws state
  if state.stopped then return state else loop env later state

def initialState (draws : Draws) (tqueue : TQueueState) : State TQueueState Flood where
  tqueue := tqueue
  maxLoadedUpdates := env.settings.maxConnections * 2
  ipAddress := env.settings.cachedIpAddress
  activeNewConnectionFlood := env.flood.activeNewConnection
  pendingNewConnectionFlood := env.flood.pendingNewConnection
  startedAt := draws.handledAt
  lastSuccessTime := draws.handledAt - 2 * ipAddressCacheTime * second
  nextIpAddressResolveTime :=
    if env.settings.fromDb then draws.resolvedAt + draws.cacheTimeShift * second
    else draws.handledAt - 2 * ipAddressCacheTime * second

def checkUrl (state : State TQueueState Flood) : Except Check (State TQueueState Flood) :=
  if env.settings.localMode then .ok state
  else if !env.settings.isHttps then onError "An HTTPS URL must be provided for webhook" state
  else if env.settings.port ∈ [443, 88, 80, 8443] then .ok state
  else onError "Webhook can be set up only on ports 80, 88, 443 or 8443" state

def fixedIpAddressError (state : State TQueueState Flood) : Option String :=
  if env.settings.fixIpAddress && !state.stopFlag then
    match checkIpAddress env state.ipAddress with
    | .ok _ => none
    | .error error => some error
  else none

def verifyFromDb (state : State TQueueState Flood) : State TQueueState Flood :=
  if env.settings.fromDb && !state.stopFlag then onWebhookVerified { state with wasChecked := true } else state

-- start_up, up to its yield.
def startUp (draws : Draws) (tqueue : TQueueState) : Except Check (State TQueueState Flood) := do
  let state ← checkUrl env (initialState env draws tqueue)
  match fixedIpAddressError env state with
  | some error => onError error state
  | none =>
      let state := verifyFromDb env state
      return { state with sslContextRunning := env.settings.isHttps && !state.stopFlag }

inductive Event (TQueueState : Type) where
  -- the rest of the server adds events to the queue or removes some
  | tqueueChanged (tqueue : TQueueState)
  | update (draws : Draws)
  | wakeup (draws : Draws)
  | resolvedIpAddress (result : Except String (Option IpAddress)) (draws : Draws)
  | sslContextCreated (created : Bool) (draws : Draws)
  | socketReady (id : Nat) (opened : Bool) (draws : Draws)
  | response (connectionId : ConnectionId) (response : Response) (draws : Draws)
  | hangupShared (connectionId : ConnectionId) (draws later : Draws)
  | hangup
  | close

def Event.draws : Event TQueueState → List Draws
  | .update draws | .wakeup draws | .resolvedIpAddress _ draws | .sslContextCreated _ draws | .socketReady _ _ draws
  | .response _ _ draws => [draws]
  | .hangupShared _ draws later => [draws, later]
  | .tqueueChanged _ | .hangup | .close => []

-- A connection reads a response only for a request that was written to it.
def offered (state : State TQueueState Flood) : Event TQueueState → Prop
  | .tqueueChanged tqueue => env.tqueue.Evolves state.tqueue tqueue
  | .resolvedIpAddress _ _ => state.isIpAddressBeingResolved = true
  | .sslContextCreated _ _ => state.sslContextRunning = true
  | .socketReady id _ _ => id ∈ state.pendingSockets
  | .response connectionId _ _ =>
      ∀ connection, state.connections.lookup connectionId = some connection → connection.eventId.isSome = true
  | .close => state.closeSent = true
  | _ => True

-- The clock never shows a time before start_up.
def enabled (state : State TQueueState Flood) (event : Event TQueueState) : Prop :=
  state.stopped = false ∧ (∀ draws, draws ∈ event.draws → state.startedAt ≤ draws.resolvedAt) ∧ offered env state event

def step (state : State TQueueState Flood) : Event TQueueState → Except Check (State TQueueState Flood)
  | .tqueueChanged tqueue => .ok { state with tqueue := tqueue }
  | .update draws => update env draws state
  | .wakeup draws => loop env draws state
  | .resolvedIpAddress result draws => onResolvedIpAddress env result draws state
  | .sslContextCreated created draws => onSslContextCreated env created draws state
  | .socketReady id opened draws => onSocketReadyAsync env id opened draws state
  | .response connectionId response draws => handle env connectionId (some response) draws state
  | .hangupShared connectionId draws later => hangupShared env connectionId draws later state
  | .hangup => .ok { state with callbackHeld := false, stopped := true }
  | .close => .ok (State.tell { state with callbackHeld := false, stopped := true } (.webhookClosed none))

def actor : Transition.Machine (State TQueueState Flood) (Event TQueueState) Check where
  start state := ∃ draws tqueue, startUp env draws tqueue = .ok state
  enabled := enabled env
  step := step env

end Actor

end TelegramBotApi.WebhookActor
