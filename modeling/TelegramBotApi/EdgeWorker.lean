import TelegramBotApi.Lib.EcmaJson
import TelegramBotApi.WebhookFlights

set_option autoImplicit false

namespace TelegramBotApi.EdgeWorker

open Checked Tables
open WebhookActor (ConnectionId Response Draws Check Sound eventOf writtenOn writtenTo)

-- The bindings of the worker; an empty optional one counts as absent.
structure Env where
  telegramWebhookSecret : String
  upstreamUrl : Option String
  upstreamAuthToken : Option String

def given (value : Option String) : Option String := value.filter (· ≠ "")

structure Request where
  method : String
  url : String
  secretToken : Option String
  body : List Char

structure Reply where
  status : Nat
  body : String

structure UpstreamRequest where
  url : String
  authorization : Option String
  body : List Char

inductive Fetched where
  | respond (reply : Reply)
  | forward (request : UpstreamRequest)

def isOk (status : Nat) : Bool := 200 ≤ status && status ≤ 299

section Fetch

-- The URL parser of the platform is not part of the repository.
variable (pathname : String → String)

def fetch (env : Env) (request : Request) : Fetched :=
  if request.method = "GET" ∧ pathname request.url = "/health" then
    .respond ⟨200, "\x7b\"ok\":true,\"service\":\"punnaraj-telegram-edge\"\x7d"⟩
  else if request.method ≠ "POST" ∨ pathname request.url ≠ "/telegram/webhook" then .respond ⟨404, "Not Found"⟩
  else if env.telegramWebhookSecret = "" ∨ request.secretToken ≠ some env.telegramWebhookSecret then
    .respond ⟨401, "Unauthorized"⟩
  else if (EcmaJson.parse request.body).isNone then .respond ⟨400, "Invalid JSON"⟩
  else
    match given env.upstreamUrl with
    | none => .respond ⟨204, ""⟩
    | some url => .forward ⟨url, (given env.upstreamAuthToken).map ("Bearer " ++ ·), request.body⟩

-- The end of fetch, once the upstream answered.
def answerUpstream (status : Nat) : Reply :=
  if isOk status then ⟨204, ""⟩ else ⟨502, "\x7b\"ok\":false,\"upstream_status\":" ++ toString status ++ "\x7d"⟩

-- The worker's replies as the server reads them: no body has an argument
-- "method" and no header a time to retry after.
def Reply.received (reply : Reply) (keepAlive : Bool) (reason : String) : Response :=
  ⟨true, keepAlive, reply.status, reason, "", 0⟩

structure Webhook where
  query : String
  secretToken : String

def jsonUpdate (id : EventId) (update : String) : List Char :=
  "\x7b\"update_id\":".toList ++ (toString id).toList ++ ",\n".toList ++ update.toList ++ "\x7d".toList

def sendRequest (webhook : Webhook) (id : EventId) (json : String) : Request where
  method := "POST"
  url := webhook.query
  secretToken := if webhook.secretToken = "" then none else some webhook.secretToken
  body := jsonUpdate id json

structure Trusted (env : Env) (webhook : Webhook) : Prop where
  path : pathname webhook.query = "/telegram/webhook"
  secret : webhook.secretToken = env.telegramWebhookSecret
  nonempty : env.telegramWebhookSecret ≠ ""

theorem fetch_forwards (env : Env) (request : Request) (forwarded : UpstreamRequest)
    (fetched : fetch pathname env request = .forward forwarded) :
    request.secretToken = some env.telegramWebhookSecret ∧ env.telegramWebhookSecret ≠ "" ∧
      pathname request.url = "/telegram/webhook" ∧ (EcmaJson.parse request.body).isSome = true ∧
      forwarded.body = request.body ∧ given env.upstreamUrl = some forwarded.url := by
  unfold fetch at fetched
  split at fetched
  · cases fetched
  · split at fetched
    · cases fetched
    · rename_i served
      split at fetched
      · cases fetched
      · rename_i authorized
        split at fetched
        · cases fetched
        · rename_i parsed
          split at fetched
          · cases fetched
          · rename_i url configured
            cases fetched
            rw [not_or, not_not] at served authorized
            refine ⟨authorized.2, authorized.1, not_not.1 served.2, ?_, rfl, configured⟩
            simpa [Option.isSome_iff_ne_none] using parsed

theorem sent_trusted (env : Env) (webhook : Webhook) (id : EventId) (json : String)
    (path : pathname webhook.query = "/telegram/webhook") (nonempty : env.telegramWebhookSecret ≠ "")
    (secret : (sendRequest webhook id json).secretToken = some env.telegramWebhookSecret) :
    Trusted pathname env webhook := by
  unfold sendRequest at secret
  split at secret
  · cases secret
  · exact ⟨path, Option.some.inj secret, nonempty⟩

theorem fetch_succeeds (env : Env) (webhook : Webhook) (id : EventId) (json : String) (reply : Reply)
    (fetched : fetch pathname env (sendRequest webhook id json) = .respond reply) (ok : isOk reply.status = true) :
    Trusted pathname env webhook ∧ given env.upstreamUrl = none := by
  unfold fetch at fetched
  split at fetched
  · rename_i health
    exact absurd (show "POST" = "GET" from health.1) (by decide)
  · split at fetched
    · cases fetched
      cases ok
    · rename_i served
      split at fetched
      · cases fetched
        cases ok
      · rename_i authorized
        split at fetched
        · cases fetched
          cases ok
        · split at fetched
          · rename_i absent
            rw [not_or, not_not] at served authorized
            exact ⟨sent_trusted pathname env webhook id json (not_not.1 served.2) authorized.1 authorized.2,
              absent⟩
          · cases fetched

end Fetch

-- A request on its way, until its reply was read. No connection stands for a
-- request whose reply nobody waits for any more.
structure Exchange where
  connectionId : Option ConnectionId
  eventId : EventId
  request : Request
  reply : Option Response := none

structure Delivery where
  eventId : Option EventId
  request : UpstreamRequest
  accepted : Bool

structure State (TQueueState Flood : Type) where
  actor : WebhookActor.State TQueueState Flood
  exchanges : List Exchange := []
  upstream : List Delivery := []

inductive Event (TQueueState : Type) where
  | actor (event : WebhookActor.Event TQueueState)
  | read (index : Nat) (draws : Draws)
  -- the worker's run for one request; no upstream status stands for an exception,
  -- which the platform answers in its own words
  | serve (index : Nat) (upstream : Option Nat) (keepAlive : Bool) (reason : String) (failure : Response)
  -- the platform answers in place of the worker, which may still run
  | cutOff (index : Nat) (response : Response)
  | stranger (request : Request) (upstream : Option Nat)

def isResponse {TQueueState : Type} : WebhookActor.Event TQueueState → Bool
  | .response _ _ _ => true
  | _ => false

section System

variable {TQueueState Flood : Type} (bot : WebhookActor.Environment TQueueState Flood)
variable (pathname : String → String) (env : Env) (webhook : Webhook)

def textOf (actor : WebhookActor.State TQueueState Flood) (eventId : EventId) : String :=
  ((actor.updateMap.lookup eventId).map WebhookActor.Update.json).getD ""

def askedBy (actor : WebhookActor.State TQueueState Flood) : WebhookActor.Action → Option Exchange
  | .written eventId connectionId =>
      some ⟨some connectionId, eventId, sendRequest webhook eventId (textOf actor eventId), none⟩
  | _ => none

def newExchanges (before after : WebhookActor.State TQueueState Flood) : List Exchange :=
  (after.log.drop before.log.length).filterMap (askedBy webhook after)

def advance (event : WebhookActor.Event TQueueState) (state : State TQueueState Flood) :
    Except Check (State TQueueState Flood) := do
  let after ← WebhookActor.step bot state.actor event
  return { state with actor := after, exchanges := state.exchanges ++ newExchanges webhook state.actor after }

def deliver (eventId : Option EventId) (upstream : Option Nat) : Fetched → List Delivery
  | .respond _ => []
  | .forward request => [⟨eventId, request, upstream.any isOk⟩]

def respond (upstream : Option Nat) (keepAlive : Bool) (reason : String) (failure : Response) : Fetched → Response
  | .respond reply => reply.received keepAlive reason
  | .forward _ =>
      match upstream with
      | some status => (answerUpstream status).received keepAlive reason
      | none => failure

def step (state : State TQueueState Flood) : Event TQueueState → Except Check (State TQueueState Flood)
  | .actor event => advance bot webhook event state
  | .read index draws =>
      match state.exchanges[index]? with
      | some ⟨some connectionId, _, _, some response⟩ =>
          advance bot webhook (.response connectionId response draws)
            { state with exchanges := state.exchanges.eraseIdx index }
      | _ => .ok state
  | .serve index upstream keepAlive reason failure =>
      match state.exchanges[index]? with
      | some exchange =>
          let fetched := fetch pathname env exchange.request
          let response := respond upstream keepAlive reason failure fetched
          .ok { state with
            exchanges := state.exchanges.set index { exchange with reply := some response }
            upstream := state.upstream ++ deliver exchange.eventId upstream fetched }
      | none => .ok state
  | .cutOff index response =>
      match state.exchanges[index]? with
      | some exchange =>
          .ok { state with
            exchanges := state.exchanges.set index { exchange with reply := some response } ++
              [{ exchange with connectionId := none }] }
      | none => .ok state
  | .stranger request upstream =>
      .ok { state with upstream := state.upstream ++ deliver none upstream (fetch pathname env request) }

def unanswered (state : State TQueueState Flood) (index : Nat) : Prop :=
  ∀ exchange, state.exchanges[index]? = some exchange → exchange.reply = none

-- A response comes in only by being read, and success only from the worker. A
-- stranger does not know the secret.
def enabled (state : State TQueueState Flood) : Event TQueueState → Prop
  | .actor event => WebhookActor.enabled bot state.actor event ∧ isResponse event = false
  | .read _ draws => state.actor.stopped = false ∧ state.actor.startedAt ≤ draws.resolvedAt
  | .serve index _ _ _ failure => unanswered state index ∧ failure.succeeded = false
  | .cutOff index response => unanswered state index ∧ response.succeeded = false
  | .stranger request _ => request.secretToken ≠ some env.telegramWebhookSecret

def system : Transition.Machine (State TQueueState Flood) (Event TQueueState) Check where
  start state := (WebhookActor.actor bot).start state.actor ∧ state.exchanges = [] ∧ state.upstream = []
  enabled := enabled bot env
  step := step bot pathname env webhook

def Accepted (upstream : List Delivery) (eventId : EventId) : Prop :=
  ∃ delivery ∈ upstream, delivery.eventId = some eventId ∧ delivery.accepted = true

def Arrived (upstream : List Delivery) (eventId : EventId) : Prop :=
  Trusted pathname env webhook ∧ ((given env.upstreamUrl).isSome = true → Accepted upstream eventId)

def Asked (log : List WebhookActor.Action) (upstream : List Delivery) (eventId : EventId) : Prop :=
  ∃ before connectionId, before ++ [.written eventId connectionId] <+: log ∧ ∀ earlier other,
    .forgotten earlier (.responded other) ∈ before → Arrived pathname env webhook upstream earlier

def waitingOn (connectionId : ConnectionId) (exchange : Exchange) : Option EventId :=
  if exchange.connectionId = some connectionId then some exchange.eventId else none

def waiting (connectionId : ConnectionId) (exchanges : List Exchange) : List EventId :=
  exchanges.filterMap (waitingOn connectionId)

def Settled (flight : Option EventId) (waits : List EventId) : Prop :=
  waits = [] ∨ ∃ eventId, flight = some eventId ∧ waits = [eventId]

structure Known (texts : EventId → String) (state : State TQueueState Flood) : Prop where
  loaded : ∀ eventId update, state.actor.updateMap.lookup eventId = some update → update.json = texts eventId
  asked : ∀ exchange ∈ state.exchanges, exchange.request = sendRequest webhook exchange.eventId (texts exchange.eventId)
  delivered : ∀ delivery ∈ state.upstream, ∃ eventId, delivery.eventId = some eventId ∧
    delivery.request.body = jsonUpdate eventId (texts eventId)

structure Base (state : State TQueueState Flood) : Prop where
  reached : Transition.Reach (WebhookActor.actor bot) Transition.unrestricted state.actor
  below : ∀ exchange ∈ state.exchanges, ∀ connectionId, exchange.connectionId = some connectionId →
    connectionId < state.actor.nextConnectionId
  asked : ∀ exchange ∈ state.exchanges, Asked pathname env webhook state.actor.log state.upstream exchange.eventId
  replied : ∀ exchange ∈ state.exchanges, ∀ response, exchange.reply = some response → response.succeeded = true →
    Arrived pathname env webhook state.upstream exchange.eventId
  acknowledged : ∀ eventId connectionId, .forgotten eventId (.responded connectionId) ∈ state.actor.log →
    Arrived pathname env webhook state.upstream eventId
  delivered : ∀ before delivery, before ++ [delivery] <+: state.upstream → Trusted pathname env webhook ∧
    (given env.upstreamUrl).isSome = true ∧ (EcmaJson.parse delivery.request.body).isSome = true ∧
    ∃ eventId, delivery.eventId = some eventId ∧ Asked pathname env webhook state.actor.log before eventId
  texts : ∃ texts, Known webhook texts state

structure Inv (state : State TQueueState Flood) : Prop extends Base bot pathname env webhook state where
  single : ∀ connectionId, (state.actor.connections.lookup connectionId).isSome = true →
    Settled (eventOf state.actor.connections connectionId) (waiting connectionId state.exchanges)

theorem arrived_grows (before after : List Delivery) (eventId : EventId) (grown : before <+: after)
    (arrived : Arrived pathname env webhook before eventId) : Arrived pathname env webhook after eventId := by
  refine ⟨arrived.1, fun forwards => ?_⟩
  obtain ⟨delivery, member, same, accepted⟩ := arrived.2 forwards
  exact ⟨delivery, grown.subset member, same, accepted⟩

theorem asked_grows (log later : List WebhookActor.Action) (before after : List Delivery) (eventId : EventId)
    (grownLog : log <+: later) (grown : before <+: after) (asked : Asked pathname env webhook log before eventId) :
    Asked pathname env webhook later after eventId := by
  obtain ⟨past, connectionId, written, arrived⟩ := asked
  exact ⟨past, connectionId, written.trans grownLog,
    fun earlier other forgotten => arrived_grows pathname env webhook before after earlier grown
      (arrived earlier other forgotten)⟩

@[simp] theorem waiting_nil (connectionId : ConnectionId) : waiting connectionId [] = [] := rfl

theorem waiting_append (connectionId : ConnectionId) (first last : List Exchange) :
    waiting connectionId (first ++ last) = waiting connectionId first ++ waiting connectionId last :=
  List.filterMap_append

theorem exchanges_at (exchanges : List Exchange) (index : Nat) (exchange : Exchange)
    (found : exchanges[index]? = some exchange) :
    exchanges = exchanges.take index ++ exchange :: exchanges.drop (index + 1) := by
  obtain ⟨inside, same⟩ := List.getElem?_eq_some_iff.1 found
  rw [← same, List.getElem_cons_drop, List.take_append_drop]

theorem waiting_set (connectionId : ConnectionId) (exchanges : List Exchange) (index : Nat) (old new : Exchange)
    (found : exchanges[index]? = some old) (sameConnection : new.connectionId = old.connectionId)
    (sameEvent : new.eventId = old.eventId) :
    waiting connectionId (exchanges.set index new) = waiting connectionId exchanges := by
  obtain ⟨inside, _⟩ := List.getElem?_eq_some_iff.1 found
  have same : waitingOn connectionId new = waitingOn connectionId old := by
    rw [waitingOn, waitingOn, sameConnection, sameEvent]
  conv => rhs; rw [exchanges_at exchanges index old found]
  rw [List.set_eq_take_append_cons_drop, if_pos inside, waiting_append, waiting_append, waiting, waiting,
    List.filterMap_cons, waiting, List.filterMap_cons, same]

theorem waiting_erase (connectionId : ConnectionId) (exchanges : List Exchange) (index : Nat) (exchange : Exchange)
    (found : exchanges[index]? = some exchange) (flight : Option EventId)
    (settled : Settled flight (waiting connectionId exchanges)) :
    (exchange.connectionId = some connectionId → waiting connectionId (exchanges.eraseIdx index) = []) ∧
      (exchange.connectionId ≠ some connectionId →
        waiting connectionId (exchanges.eraseIdx index) = waiting connectionId exchanges) := by
  have split := congrArg (waiting connectionId) (exchanges_at exchanges index exchange found)
  rw [waiting_append, waiting, waiting, waiting, List.filterMap_cons, waitingOn] at split
  rw [List.eraseIdx_eq_take_drop_succ, waiting_append]
  refine ⟨fun mine => ?_, fun other => ?_⟩
  · rw [if_pos mine] at split
    have one : (waiting connectionId exchanges).length ≤ 1 := by
      rcases settled with none | ⟨eventId, _, some⟩
      · rw [none]
        exact Nat.zero_le 1
      · rw [some]
        exact Nat.le_refl 1
    have sizes := congrArg List.length split
    rw [List.length_append, List.length_cons] at sizes
    refine List.append_eq_nil_iff.2 ⟨List.length_eq_zero_iff.1 ?_, List.length_eq_zero_iff.1 ?_⟩
    · simp only [waiting] at *
      omega
    · simp only [waiting] at *
      omega
  · rw [if_neg other] at split
    exact split.symm

theorem waiting_unknown (connectionId : ConnectionId) (exchanges : List Exchange)
    (unknown : ∀ exchange ∈ exchanges, exchange.connectionId ≠ some connectionId) : waiting connectionId exchanges = [] :=
  List.filterMap_eq_nil_iff.2 fun exchange member => if_neg (unknown exchange member)

theorem waiting_new (connectionId : ConnectionId) (actor : WebhookActor.State TQueueState Flood)
    (added : List WebhookActor.Action) :
    waiting connectionId (added.filterMap (askedBy webhook actor)) = writtenOn connectionId added := by
  rw [waiting, writtenOn, List.filterMap_filterMap]
  refine congrArg (fun select => added.filterMap select) (funext fun action => ?_)
  cases action with
  | loaded eventId queueId => rfl
  | written eventId other => simp [askedBy, waitingOn, writtenTo]
  | forgotten eventId reason => rfl

section Updates

variable (actor : WebhookActor.State TQueueState Flood) (sound : Sound bot actor.core)
include sound

theorem written_loaded (eventId : EventId) (connectionId : ConnectionId) (before : List WebhookActor.Action)
    (written : before ++ [.written eventId connectionId] <+: actor.log) : ∃ queueId, .loaded eventId queueId ∈ actor.log := by
  obtain ⟨queueId, loaded, _⟩ := sound.inv.inOrder before eventId connectionId written
  exact ⟨queueId, written.subset (List.mem_append_left _ loaded)⟩

theorem kept_not_forgotten (eventId : EventId) (update : WebhookActor.Update)
    (found : actor.updateMap.lookup eventId = some update) (reason : WebhookActor.Reason) :
    .forgotten eventId reason ∉ actor.log :=
  ((sound.inv.kept update.queueId eventId).1 (sound.stored eventId update found).2).2 reason

theorem loaded_kept (eventId : EventId) (queueId : WebhookActor.QueueId) (loaded : .loaded eventId queueId ∈ actor.log)
    (unforgotten : ∀ reason, .forgotten eventId reason ∉ actor.log) :
    ∃ update, actor.updateMap.lookup eventId = some update := by
  obtain ⟨update, found, _⟩ := sound.listed queueId eventId ((sound.inv.kept queueId eventId).2 ⟨loaded, unforgotten⟩)
  exact ⟨update, found⟩

theorem flying_kept (connectionId : ConnectionId) (eventId : EventId)
    (flying : eventOf actor.connections connectionId = some eventId) :
    ∃ update, actor.updateMap.lookup eventId = some update := by
  obtain ⟨queueId, rest, front, _⟩ := sound.inv.flying connectionId eventId flying
  obtain ⟨update, found, _⟩ := sound.listed queueId eventId (by
    change eventId ∈ (WebhookActor.delivery actor.core).pending queueId
    rw [front]
    exact List.mem_cons_self)
  exact ⟨update, found⟩

end Updates

theorem settled_wrote (left now : Option EventId) (waits written : List EventId) (settled : Settled left waits)
    (wrote : WebhookActor.Wrote left now written) : Settled now (waits ++ written) := by
  rcases wrote with ⟨rfl, rfl⟩ | ⟨idle, eventId, rfl, rfl⟩
  · rwa [List.append_nil]
  · rcases settled with rfl | ⟨other, busy, _⟩
    · exact .inr ⟨eventId, rfl, rfl⟩
    · cases busy.symm.trans idle

theorem idle_wrote (left now : Option EventId) (written : List EventId) (wrote : WebhookActor.Wrote left now written) :
    Settled now written := by
  rcases wrote with ⟨rfl, _⟩ | ⟨_, eventId, rfl, flying⟩
  · exact .inl rfl
  · exact .inr ⟨eventId, flying, rfl⟩

section Advance

variable (state : State TQueueState Flood) (after : WebhookActor.State TQueueState Flood)
variable (event : WebhookActor.Event TQueueState) (added : List WebhookActor.Action)

def advanced : State TQueueState Flood :=
  { state with actor := after, exchanges := state.exchanges ++ added.filterMap (askedBy webhook after) }

theorem mem_asked_by (exchange : Exchange) (member : exchange ∈ added.filterMap (askedBy webhook after)) :
    ∃ eventId connectionId, .written eventId connectionId ∈ added ∧
      exchange = ⟨some connectionId, eventId, sendRequest webhook eventId (textOf after eventId), none⟩ := by
  obtain ⟨action, inside, asked⟩ := List.mem_filterMap.1 member
  cases action with
  | written eventId connectionId => exact ⟨eventId, connectionId, inside, (Option.some.inj asked).symm⟩
  | loaded eventId queueId => cases asked
  | forgotten eventId reason => cases asked

variable (grown : after.log = state.actor.log ++ added)
variable (moved : WebhookActor.Moves bot (WebhookActor.leftAt state.actor event) state.actor.core after.core)
variable (base : Base bot pathname env webhook state)

include grown moved in
theorem wrote_added (connectionId : ConnectionId) :
    WebhookActor.Wrote (WebhookActor.leftAt state.actor event connectionId) (eventOf after.connections connectionId)
      (writtenOn connectionId added) := by
  obtain ⟨others, grownOthers, wrote⟩ := moved.writes.written
  have same : others = added := List.append_cancel_left (grownOthers.symm.trans grown)
  exact same ▸ wrote connectionId

include grown moved in
theorem written_flies (eventId : EventId) (connectionId : ConnectionId) (written : .written eventId connectionId ∈ added) :
    eventOf after.connections connectionId = some eventId := by
  have member : eventId ∈ writtenOn connectionId added :=
    List.mem_filterMap.2 ⟨_, written, by rw [writtenTo, if_pos rfl]⟩
  rcases wrote_added bot state after event added grown moved connectionId with ⟨none, _⟩ | ⟨_, other, only, flying⟩
  · rw [none] at member
    cases member
  · rw [only] at member
    rw [List.mem_singleton.1 member]
    exact flying

include base in
theorem base_sound : Sound bot state.actor.core := WebhookActor.reachable_sound bot state.actor base.reached

include grown moved base in
theorem texts_stay (texts : EventId → String) (known : Known webhook texts state) (past : List Delivery) (eventId : EventId)
    (asked : Asked pathname env webhook state.actor.log past eventId) (update : WebhookActor.Update)
    (found : after.updateMap.lookup eventId = some update) : update.json = texts eventId := by
  have sound := base_sound bot pathname env webhook state base
  obtain ⟨before, connectionId, written, _⟩ := asked
  obtain ⟨queueId, loaded⟩ := written_loaded bot state.actor sound eventId connectionId before written
  have unforgotten := kept_not_forgotten bot after moved.sound eventId update found
  obtain ⟨old, present⟩ := loaded_kept bot state.actor sound eventId queueId loaded
    (fun reason forgotten => unforgotten reason (by rw [grown]; exact List.mem_append_left _ forgotten))
  rcases moved.writes.texts eventId old present with ⟨later, stays, same⟩ | ⟨reason, forgotten⟩
  · cases found.symm.trans stays
    exact same.trans (known.loaded eventId old present)
  · exact absurd forgotten (unforgotten reason)

include grown moved base in
theorem advanced_known : ∃ texts, Known webhook texts (advanced webhook state after added) := by
  obtain ⟨texts, known⟩ := base.texts
  let later (eventId : EventId) : String := ((after.updateMap.lookup eventId).map WebhookActor.Update.json).getD (texts eventId)
  have stay (past : List Delivery) (eventId : EventId)
      (asked : Asked pathname env webhook state.actor.log past eventId) : later eventId = texts eventId := by
    cases found : after.updateMap.lookup eventId with
    | none => simp only [later, found, Option.map_none, Option.getD_none]
    | some update =>
        simp only [later, found, Option.map_some, Option.getD_some]
        exact texts_stay bot pathname env webhook state after event added grown moved base texts known past eventId asked
          update found
  refine ⟨later, ?_, ?_, ?_⟩
  · intro eventId update found
    simp only [later, show after.updateMap.lookup eventId = some update from found, Option.map_some, Option.getD_some]
  · intro exchange member
    rcases List.mem_append.1 member with old | new
    · rw [stay _ _ (base.asked exchange old)]
      exact known.asked exchange old
    · obtain ⟨eventId, connectionId, written, rfl⟩ := mem_asked_by webhook after added exchange new
      obtain ⟨update, found⟩ := flying_kept bot after moved.sound connectionId eventId
        (written_flies bot state after event added grown moved eventId connectionId written)
      simp only [later, textOf, found, Option.map_some, Option.getD_some]
  · intro delivery member
    change delivery ∈ state.upstream at member
    obtain ⟨eventId, same, body⟩ := known.delivered delivery member
    obtain ⟨before, rest, split⟩ := List.append_of_mem member
    obtain ⟨_, _, _, other, sameOther, asked⟩ := base.delivered before delivery ⟨rest, by rw [split, List.append_assoc]; rfl⟩
    cases same.symm.trans sameOther
    exact ⟨eventId, same, by rw [stay before eventId asked]; exact body⟩

include grown base in
theorem advanced_acknowledged
    (excused : ∀ eventId reason, .forgotten eventId reason ∈ added →
      WebhookActor.ExcusedBy bot state.actor event eventId reason)
    (answers : ∀ eventId connectionId, WebhookActor.ExcusedBy bot state.actor event eventId (.responded connectionId) →
      Arrived pathname env webhook state.upstream eventId)
    (eventId : EventId) (connectionId : ConnectionId) (forgotten : .forgotten eventId (.responded connectionId) ∈ after.log) :
    Arrived pathname env webhook state.upstream eventId := by
  rw [grown] at forgotten
  rcases List.mem_append.1 forgotten with old | new
  · exact base.acknowledged eventId connectionId old
  · exact answers eventId connectionId (excused eventId _ new)

include grown moved base in
theorem advanced_base (reached : Transition.Reach (WebhookActor.actor bot) Transition.unrestricted after)
    (acknowledged : ∀ eventId connectionId, .forgotten eventId (.responded connectionId) ∈ after.log →
      Arrived pathname env webhook state.upstream eventId) :
    Base bot pathname env webhook (advanced webhook state after added) := by
  have longer : state.actor.log <+: after.log := ⟨added, grown.symm⟩
  refine ⟨reached, ?_, ?_, ?_, acknowledged, ?_, advanced_known bot pathname env webhook state after event added grown moved base⟩
  · intro exchange member connectionId mine
    rcases List.mem_append.1 member with old | new
    · exact Nat.lt_of_lt_of_le (base.below exchange old connectionId mine) moved.writes.next
    · obtain ⟨eventId, other, written, rfl⟩ := mem_asked_by webhook after added exchange new
      cases mine
      have flying := written_flies bot state after event added grown moved eventId connectionId written
      cases found : after.connections.lookup connectionId with
      | none => cases (value_or_missing none WebhookActor.Connection.eventId _ _ found).symm.trans flying
      | some connection => exact moved.sound.connected.fresh connectionId connection found
  · intro exchange member
    rcases List.mem_append.1 member with old | new
    · exact asked_grows pathname env webhook _ _ _ _ _ longer (List.prefix_refl _) (base.asked exchange old)
    · obtain ⟨eventId, connectionId, written, rfl⟩ := mem_asked_by webhook after added exchange new
      obtain ⟨first, last, split⟩ := List.append_of_mem written
      have whole : after.log = state.actor.log ++ first ++ [.written eventId connectionId] ++ last := by
        rw [grown, split]
        simp only [List.append_assoc, List.singleton_append]
      refine ⟨state.actor.log ++ first, connectionId, ⟨last, whole.symm⟩, fun earlier other forgotten => ?_⟩
      refine acknowledged earlier other ?_
      rw [whole]
      exact List.mem_append_left _ (List.mem_append_left _ forgotten)
  · intro exchange member response replied succeeded
    rcases List.mem_append.1 member with old | new
    · exact base.replied exchange old response replied succeeded
    · obtain ⟨eventId, connectionId, written, rfl⟩ := mem_asked_by webhook after added exchange new
      cases replied
  · intro before delivery begins
    obtain ⟨trusted, forwards, parsed, eventId, same, asked⟩ := base.delivered before delivery begins
    exact ⟨trusted, forwards, parsed, eventId, same,
      asked_grows pathname env webhook _ _ _ _ _ longer (List.prefix_refl _) asked⟩

include grown moved base in
theorem advanced_single (ended : WebhookActor.Ended state.actor after event)
    (settled : ∀ connectionId, (state.actor.connections.lookup connectionId).isSome = true →
      (∀ draws later, event ≠ .hangupShared connectionId draws later) →
      Settled (WebhookActor.leftAt state.actor event connectionId) (waiting connectionId state.exchanges))
    (connectionId : ConnectionId) (live : (after.connections.lookup connectionId).isSome = true) :
    Settled (eventOf after.connections connectionId)
      (waiting connectionId (advanced webhook state after added).exchanges) := by
  have wrote := wrote_added bot state after event added grown moved connectionId
  rw [advanced, waiting_append, waiting_new]
  rcases moved.writes.opened connectionId live with old | new
  · refine settled_wrote _ _ _ _ (settled connectionId old fun draws later hung => ?_) wrote
    subst hung
    rw [ended old] at live
    cases live
  · rw [waiting_unknown connectionId state.exchanges fun exchange member mine =>
      Nat.lt_irrefl _ (Nat.lt_of_lt_of_le (base.below exchange member connectionId mine) new)]
    exact idle_wrote _ _ _ wrote

end Advance

theorem advance_inv (event : WebhookActor.Event TQueueState) (state : State TQueueState Flood)
    (enables : WebhookActor.enabled bot state.actor event) (base : Base bot pathname env webhook state)
    (answers : ∀ eventId connectionId, WebhookActor.ExcusedBy bot state.actor event eventId (.responded connectionId) →
      Arrived pathname env webhook state.upstream eventId)
    (settled : ∀ connectionId, (state.actor.connections.lookup connectionId).isSome = true →
      (∀ draws later, event ≠ .hangupShared connectionId draws later) →
      Settled (WebhookActor.leftAt state.actor event connectionId) (waiting connectionId state.exchanges)) :
    Meets (fun _ => True) (Inv bot pathname env webhook) (advance bot webhook event state) := by
  have sound := base_sound bot pathname env webhook state base
  have moves := WebhookActor.step_moves bot state.actor event enables sound
  unfold advance
  cases done : WebhookActor.step bot state.actor event with
  | error fault => exact trivial
  | ok after =>
      rw [done] at moves
      obtain ⟨moved, ended⟩ := moves
      obtain ⟨added, grown, excused, _⟩ :=
        WebhookActor.step_forgets_excused bot state.actor after event sound enables done
      have same : newExchanges webhook state.actor after = added.filterMap (askedBy webhook after) := by
        rw [newExchanges, grown, List.drop_left]
      have reached : Transition.Reach (WebhookActor.actor bot) Transition.unrestricted after :=
        .next state.actor after event base.reached enables trivial done
      rw [ok_bind, same]
      exact ⟨advanced_base bot pathname env webhook state after event added grown moved base reached
          (advanced_acknowledged bot pathname env webhook state after event added grown base excused answers),
        advanced_single bot pathname env webhook state after event added grown moved base ended settled⟩

theorem event_inv (event : WebhookActor.Event TQueueState) (state : State TQueueState Flood)
    (inv : Inv bot pathname env webhook state) (enables : WebhookActor.enabled bot state.actor event)
    (other : isResponse event = false) :
    Meets (fun _ => True) (Inv bot pathname env webhook) (advance bot webhook event state) := by
  refine advance_inv bot pathname env webhook event state enables inv.toBase ?_ ?_
  · intro eventId connectionId excused
    cases event with
    | response answered response draws => cases other
    | hangupShared gone draws later =>
        obtain ⟨_, _, received, absent, _⟩ := excused
        cases absent
    | _ => cases excused
  · intro connectionId live open'
    cases event with
    | response answered response draws => cases other
    | hangupShared gone draws later =>
        have different : connectionId ≠ gone := by
          rintro rfl
          exact open' draws later rfl
        change Settled (Function.update (eventOf state.actor.connections) gone none connectionId) _
        rw [Function.update_of_ne different]
        exact inv.single connectionId live
    | _ => exact inv.single connectionId live

theorem erased_base (state : State TQueueState Flood) (index : Nat) (base : Base bot pathname env webhook state) :
    Base bot pathname env webhook { state with exchanges := state.exchanges.eraseIdx index } := by
  have kept (exchange : Exchange) (member : exchange ∈ state.exchanges.eraseIdx index) : exchange ∈ state.exchanges :=
    List.mem_of_mem_eraseIdx member
  obtain ⟨texts, known⟩ := base.texts
  exact ⟨base.reached, fun exchange member => base.below exchange (kept exchange member),
    fun exchange member => base.asked exchange (kept exchange member),
    fun exchange member => base.replied exchange (kept exchange member), base.acknowledged, base.delivered,
    texts, known.loaded, fun exchange member => known.asked exchange (kept exchange member), known.delivered⟩

theorem answered_flight (state : State TQueueState Flood) (inv : Inv bot pathname env webhook state) (exchange : Exchange)
    (member : exchange ∈ state.exchanges) (connectionId : ConnectionId) (mine : exchange.connectionId = some connectionId)
    (live : (state.actor.connections.lookup connectionId).isSome = true) :
    eventOf state.actor.connections connectionId = some exchange.eventId := by
  have waits : exchange.eventId ∈ waiting connectionId state.exchanges :=
    List.mem_filterMap.2 ⟨exchange, member, if_pos mine⟩
  rcases inv.single connectionId live with none | ⟨eventId, flying, only⟩
  · rw [none] at waits
    cases waits
  · rw [only] at waits
    rw [List.mem_singleton.1 waits]
    exact flying

theorem read_inv (state : State TQueueState Flood) (inv : Inv bot pathname env webhook state) (index : Nat) (draws : Draws)
    (connectionId : ConnectionId) (eventId : EventId) (request : Request) (response : Response)
    (found : state.exchanges[index]? = some ⟨some connectionId, eventId, request, some response⟩)
    (running : state.actor.stopped = false) (clock : state.actor.startedAt ≤ draws.resolvedAt) :
    Meets (fun _ => True) (Inv bot pathname env webhook)
      (advance bot webhook (.response connectionId response draws)
        { state with exchanges := state.exchanges.eraseIdx index }) := by
  have member := List.mem_of_getElem? found
  have flight := answered_flight bot pathname env webhook state inv _ member connectionId rfl
  refine advance_inv bot pathname env webhook _ _ ?_ (erased_base bot pathname env webhook state index inv.toBase) ?_ ?_
  · refine ⟨running, fun drawn one => ?_, fun connection present => ?_⟩
    · rw [List.mem_singleton.1 one]
      exact clock
    · have carried := flight (by rw [show state.actor.connections.lookup connectionId = some connection from present]; rfl)
      rw [eventOf, value_or_found none _ _ _ connection present] at carried
      rw [carried]
      rfl
  · rintro other answered ⟨rfl, carried, received, same, succeeded⟩
    cases same
    cases found' : state.actor.connections.lookup answered with
    | none => cases (value_or_missing none WebhookActor.Connection.eventId _ _ found').symm.trans carried
    | some connection =>
        have flying := flight (by rw [found']; rfl)
        cases flying.symm.trans carried
        exact inv.replied _ member response rfl succeeded
  · intro other live _
    have erased := waiting_erase other state.exchanges index _ found _ (inv.single other live)
    change Settled (Function.update (eventOf state.actor.connections) connectionId none other) _
    by_cases mine : other = connectionId
    · subst mine
      rw [Function.update_self, erased.1 rfl]
      exact .inl rfl
    · rw [Function.update_of_ne mine, erased.2 fun same => mine (Option.some.inj same).symm]
      exact inv.single other live

theorem delivered_base (state : State TQueueState Flood) (base : Base bot pathname env webhook state) (exchange : Exchange)
    (member : exchange ∈ state.exchanges) (upstream : Option Nat) :
    Base bot pathname env webhook { state with
      upstream := state.upstream ++ deliver (some exchange.eventId) upstream (fetch pathname env exchange.request) } := by
  obtain ⟨texts, known⟩ := base.texts
  have request := known.asked exchange member
  cases fetched : fetch pathname env exchange.request with
  | respond reply =>
      rw [deliver, List.append_nil]
      exact base
  | forward forwarded =>
      obtain ⟨secret, nonempty, path, parsed, body, configured⟩ := fetch_forwards pathname env _ forwarded fetched
      have trusted : Trusted pathname env webhook := by
        rw [request] at secret path
        exact sent_trusted pathname env webhook _ _ path nonempty secret
      have grown : state.upstream <+: state.upstream ++ deliver (some exchange.eventId) upstream (.forward forwarded) :=
        List.prefix_append _ _
      refine ⟨base.reached, base.below, fun other inside => ?_, fun other inside response replied succeeded => ?_,
        fun eventId connectionId forgotten => ?_, fun before delivery begins => ?_, texts, known.loaded, known.asked,
        fun delivery inside => ?_⟩
      · exact asked_grows pathname env webhook _ _ _ _ _ (List.prefix_refl _) grown (base.asked other inside)
      · exact arrived_grows pathname env webhook _ _ _ grown (base.replied other inside response replied succeeded)
      · exact arrived_grows pathname env webhook _ _ _ grown (base.acknowledged eventId connectionId forgotten)
      · rcases List.prefix_concat_iff.1 begins with last | old
        · obtain ⟨rfl, same⟩ := List.append_inj' last rfl
          cases same
          refine ⟨trusted, by rw [configured]; rfl, ?_, exchange.eventId, rfl, base.asked exchange member⟩
          rw [body]
          exact parsed
        · exact base.delivered before delivery old
      · rcases List.mem_append.1 inside with old | new
        · exact known.delivered delivery old
        · cases List.mem_singleton.1 new
          refine ⟨exchange.eventId, rfl, ?_⟩
          rw [body, request]
          rfl

theorem replied_inv (state : State TQueueState Flood) (inv : Inv bot pathname env webhook state) (index : Nat)
    (exchange : Exchange) (found : state.exchanges[index]? = some exchange) (response : Response)
    (arrived : response.succeeded = true → Arrived pathname env webhook state.upstream exchange.eventId) :
    Inv bot pathname env webhook
      { state with exchanges := state.exchanges.set index { exchange with reply := some response } } := by
  have member := List.mem_of_getElem? found
  obtain ⟨texts, known⟩ := inv.texts
  have either (other : Exchange) (inside : other ∈ state.exchanges.set index { exchange with reply := some response }) :
      other ∈ state.exchanges ∨ other = { exchange with reply := some response } := List.mem_or_eq_of_mem_set inside
  refine ⟨⟨inv.reached, ?_, ?_, ?_, inv.acknowledged, inv.delivered, texts, known.loaded, ?_, known.delivered⟩, ?_⟩
  · intro other inside
    rcases either other inside with old | rfl
    · exact inv.below other old
    · exact inv.below exchange member
  · intro other inside
    rcases either other inside with old | rfl
    · exact inv.asked other old
    · exact inv.asked exchange member
  · intro other inside reply replied succeeded
    rcases either other inside with old | rfl
    · exact inv.replied other old reply replied succeeded
    · cases replied
      exact arrived succeeded
  · intro other inside
    rcases either other inside with old | rfl
    · exact known.asked other old
    · exact known.asked exchange member
  · intro connectionId live
    dsimp only
    rw [waiting_set connectionId state.exchanges index exchange { exchange with reply := some response } found rfl rfl]
    exact inv.single connectionId live

theorem accepted_after (state : State TQueueState Flood) (eventId : EventId) (request : UpstreamRequest) (status : Nat)
    (ok : isOk status = true) : Accepted (state.upstream ++ deliver (some eventId) (some status) (.forward request)) eventId :=
  ⟨⟨some eventId, request, true⟩, List.mem_append_right _ (List.mem_singleton.2 (by simp [ok])), rfl, rfl⟩

theorem received_succeeds (reply : Reply) (keepAlive : Bool) (reason : String)
    (succeeded : (reply.received keepAlive reason).succeeded = true) : isOk reply.status = true := by
  rw [WebhookActor.Response.succeeded, Bool.and_eq_true, Bool.and_eq_true] at succeeded
  have low : (200 : Int) ≤ reply.status := of_decide_eq_true succeeded.1.2
  have high : (reply.status : Int) ≤ 299 := of_decide_eq_true succeeded.2
  rw [isOk, Bool.and_eq_true, decide_eq_true_eq, decide_eq_true_eq]
  exact ⟨by omega, by omega⟩

theorem answer_upstream_ok (status : Nat) (ok : isOk (answerUpstream status).status = true) : isOk status = true := by
  unfold answerUpstream at ok
  split at ok
  · assumption
  · cases ok

theorem served_arrived (state : State TQueueState Flood) (base : Base bot pathname env webhook state) (exchange : Exchange)
    (member : exchange ∈ state.exchanges) (upstream : Option Nat) (keepAlive : Bool) (reason : String) (failure : Response)
    (failed : failure.succeeded = false)
    (succeeded : (respond upstream keepAlive reason failure (fetch pathname env exchange.request)).succeeded = true) :
    Arrived pathname env webhook
      (state.upstream ++ deliver (some exchange.eventId) upstream (fetch pathname env exchange.request)) exchange.eventId := by
  obtain ⟨texts, known⟩ := base.texts
  have request := known.asked exchange member
  cases fetched : fetch pathname env exchange.request with
  | respond reply =>
      rw [fetched] at succeeded
      rw [request] at fetched
      obtain ⟨trusted, absent⟩ := fetch_succeeds pathname env webhook _ _ reply fetched
        (received_succeeds reply keepAlive reason succeeded)
      refine ⟨trusted, fun forwards => ?_⟩
      rw [absent] at forwards
      cases forwards
  | forward forwarded =>
      rw [fetched] at succeeded
      obtain ⟨secret, nonempty, path, _⟩ := fetch_forwards pathname env _ forwarded fetched
      rw [request] at secret path
      refine ⟨sent_trusted pathname env webhook _ _ path nonempty secret, fun _ => ?_⟩
      cases upstream with
      | none =>
          rw [respond, failed] at succeeded
          cases succeeded
      | some status =>
          exact accepted_after state exchange.eventId forwarded status
            (answer_upstream_ok status (received_succeeds _ keepAlive reason succeeded))

theorem serve_inv (state : State TQueueState Flood) (inv : Inv bot pathname env webhook state) (index : Nat)
    (exchange : Exchange) (found : state.exchanges[index]? = some exchange) (upstream : Option Nat) (keepAlive : Bool)
    (reason : String) (failure : Response) (failed : failure.succeeded = false) :
    Inv bot pathname env webhook { state with
      exchanges := state.exchanges.set index { exchange with
        reply := some (respond upstream keepAlive reason failure (fetch pathname env exchange.request)) }
      upstream := state.upstream ++ deliver (some exchange.eventId) upstream (fetch pathname env exchange.request) } := by
  have member := List.mem_of_getElem? found
  have handed := delivered_base bot pathname env webhook state inv.toBase exchange member upstream
  exact replied_inv bot pathname env webhook _ ⟨handed, inv.single⟩ index exchange found _
    (served_arrived bot pathname env webhook state inv.toBase exchange member upstream keepAlive reason failure failed)

theorem detached_inv (state : State TQueueState Flood) (inv : Inv bot pathname env webhook state) (exchange : Exchange)
    (unanswered : exchange.reply = none)
    (asked : Asked pathname env webhook state.actor.log state.upstream exchange.eventId)
    (sent : ∀ texts, Known webhook texts state →
      exchange.request = sendRequest webhook exchange.eventId (texts exchange.eventId)) :
    Inv bot pathname env webhook
      { state with exchanges := state.exchanges ++ [{ exchange with connectionId := none }] } := by
  obtain ⟨texts, known⟩ := inv.texts
  have either (other : Exchange) (inside : other ∈ state.exchanges ++ [{ exchange with connectionId := none }]) :
      other ∈ state.exchanges ∨ other = { exchange with connectionId := none } :=
    (List.mem_append.1 inside).imp_right List.mem_singleton.1
  refine ⟨⟨inv.reached, ?_, ?_, ?_, inv.acknowledged, inv.delivered, texts, known.loaded, ?_, known.delivered⟩, ?_⟩
  · intro other inside connectionId mine
    rcases either other inside with old | rfl
    · exact inv.below other old connectionId mine
    · cases mine
  · intro other inside
    rcases either other inside with old | rfl
    · exact inv.asked other old
    · exact asked
  · intro other inside reply replied succeeded
    rcases either other inside with old | rfl
    · exact inv.replied other old reply replied succeeded
    · cases unanswered.symm.trans replied
  · intro other inside
    rcases either other inside with old | rfl
    · exact known.asked other old
    · exact sent texts known
  · intro connectionId live
    dsimp only
    rw [waiting_append, show waiting connectionId [{ exchange with connectionId := none }] = [] from rfl, List.append_nil]
    exact inv.single connectionId live

theorem cut_off_inv (state : State TQueueState Flood) (inv : Inv bot pathname env webhook state) (index : Nat)
    (exchange : Exchange) (found : state.exchanges[index]? = some exchange) (unanswered : exchange.reply = none)
    (response : Response) (failed : response.succeeded = false) :
    Inv bot pathname env webhook { state with
      exchanges := state.exchanges.set index { exchange with reply := some response } ++
        [{ exchange with connectionId := none }] } := by
  have member := List.mem_of_getElem? found
  have replied := replied_inv bot pathname env webhook state inv index exchange found response fun succeeded => by
    rw [failed] at succeeded
    cases succeeded
  refine detached_inv bot pathname env webhook _ replied exchange unanswered (inv.asked exchange member) ?_
  intro texts known
  obtain ⟨inside, _⟩ := List.getElem?_eq_some_iff.1 found
  exact known.asked { exchange with reply := some response } (List.mem_set inside _)

theorem step_inv (state : State TQueueState Flood) (event : Event TQueueState) (inv : Inv bot pathname env webhook state)
    (enables : enabled bot env state event) :
    Meets (fun _ => True) (Inv bot pathname env webhook) (step bot pathname env webhook state event) := by
  cases event with
  | actor event => exact event_inv bot pathname env webhook event state inv enables.1 enables.2
  | read index draws =>
      rw [step]
      split
      · rename_i connectionId eventId request response found
        exact read_inv bot pathname env webhook state inv index draws connectionId eventId request response found enables.1
          enables.2
      · exact inv
  | serve index upstream keepAlive reason failure =>
      rw [step]
      split
      · rename_i exchange found
        exact serve_inv bot pathname env webhook state inv index exchange found upstream keepAlive reason failure enables.2
      · exact inv
  | cutOff index response =>
      rw [step]
      split
      · rename_i exchange found
        exact cut_off_inv bot pathname env webhook state inv index exchange found (enables.1 exchange found) response
          enables.2
      · exact inv
  | stranger request upstream =>
      rw [step]
      cases fetched : fetch pathname env request with
      | respond reply =>
          rw [deliver, List.append_nil]
          exact inv
      | forward forwarded => exact absurd (fetch_forwards pathname env request forwarded fetched).1 enables

theorem initial_inv (state : State TQueueState Flood) (initial : (system bot pathname env webhook).start state) :
    Inv bot pathname env webhook state := by
  obtain ⟨actor, exchanges, upstream⟩ := state
  obtain ⟨started, none, nothing⟩ := initial
  dsimp only at started none nothing
  subst none nothing
  obtain ⟨draws, tqueue, starts⟩ := started
  obtain ⟨queue, same⟩ := meets_returns _ _ _ actor (WebhookActor.start_up_unloaded bot draws tqueue) starts
  have log : actor.log = [] := congrArg WebhookActor.Core.log same
  have empty : actor.updateMap = ∅ := congrArg WebhookActor.Core.updateMap same
  refine ⟨⟨.start actor ⟨draws, tqueue, starts⟩, ?_, ?_, ?_, ?_, ?_, fun _ => "", ?_, ?_, ?_⟩, fun _ _ => .inl rfl⟩
  · intro exchange member
    cases member
  · intro exchange member
    cases member
  · intro exchange member
    cases member
  · intro eventId connectionId forgotten
    rw [log] at forgotten
    cases forgotten
  · intro before delivery begins
    exact absurd (List.prefix_nil.1 begins) (List.append_ne_nil_of_right_ne_nil before (List.cons_ne_nil _ _))
  · intro eventId update found
    change actor.updateMap.lookup eventId = some update at found
    rw [empty] at found
    cases found
  · intro exchange member
    cases member
  · intro delivery member
    cases member

theorem reachable_inv (state : State TQueueState Flood)
    (reached : Transition.Reach (system bot pathname env webhook) Transition.unrestricted state) :
    Inv bot pathname env webhook state :=
  Transition.reach_meets (system bot pathname env webhook) _ (fun _ => True) (Inv bot pathname env webhook)
    (initial_inv bot pathname env webhook)
    (fun before event inv enables _ => step_inv bot pathname env webhook before event inv enables) state reached

structure EndToEnd (state : State TQueueState Flood) : Prop where
  -- what the server forgets as delivered has arrived
  arrived : ∀ eventId connectionId, .forgotten eventId (.responded connectionId) ∈ state.actor.log →
    Trusted pathname env webhook ∧ ((given env.upstreamUrl).isSome = true → Accepted state.upstream eventId)
  -- the upstream is handed the updates of this bot only, each in one wording
  intact : ∃ texts : EventId → String,
    (∀ eventId update, state.actor.updateMap.lookup eventId = some update → update.json = texts eventId) ∧
    ∀ delivery ∈ state.upstream, Trusted pathname env webhook ∧
      (EcmaJson.parse delivery.request.body).isSome = true ∧ ∃ eventId connectionId, delivery.eventId = some eventId ∧
        .written eventId connectionId ∈ state.actor.log ∧ delivery.request.body = jsonUpdate eventId (texts eventId)
  -- an update is handed over only after the earlier ones of its queue were accepted or expired
  inOrder : ∀ before delivery, before ++ [delivery] <+: state.upstream → ∃ eventId queueId,
    delivery.eventId = some eventId ∧ .loaded eventId queueId ∈ state.actor.log ∧
      ∀ earlier, .loaded earlier queueId ∈ state.actor.log → earlier < eventId →
        Accepted before earlier ∨ ∃ unixTime delay, .forgotten earlier (.expired unixTime delay) ∈ state.actor.log

theorem end_to_end_of_inv (state : State TQueueState Flood) (inv : Inv bot pathname env webhook state) :
    EndToEnd pathname env webhook state := by
  refine ⟨inv.acknowledged, ?_, ?_⟩
  · obtain ⟨texts, known⟩ := inv.texts
    refine ⟨texts, known.loaded, fun delivery member => ?_⟩
    obtain ⟨eventId, same, body⟩ := known.delivered delivery member
    obtain ⟨first, last, split⟩ := List.append_of_mem member
    obtain ⟨trusted, _, parsed, other, sameOther, before, connectionId, written, _⟩ :=
      inv.delivered first delivery ⟨last, by rw [split, List.append_assoc]; rfl⟩
    cases same.symm.trans sameOther
    exact ⟨trusted, parsed, eventId, connectionId, same,
      written.subset (List.mem_append_right _ (List.mem_singleton.2 rfl)), body⟩
  · intro before delivery begins
    obtain ⟨_, forwards, _, eventId, same, past, connectionId, written, arrived⟩ := inv.delivered before delivery begins
    have sound := WebhookActor.reachable_sound bot state.actor inv.reached
    obtain ⟨queueId, loaded, settled⟩ := sound.inv.inOrder past eventId connectionId written
    have older {action : WebhookActor.Action} (member : action ∈ past) : action ∈ state.actor.log :=
      written.subset (List.mem_append_left _ member)
    refine ⟨eventId, queueId, same, older loaded, fun earlier inQueue less => ?_⟩
    obtain ⟨reason, forgotten⟩ := settled earlier inQueue less
    cases reason with
    | responded other => exact .inl ((arrived earlier other forgotten).2 forwards)
    | expired unixTime delay => exact .inr ⟨unixTime, delay, older forgotten⟩

end System

section Delivered

open WebhookActor (localHttp startedState webhookHost)

def exampleEnv : Env := ⟨"s3cret", some "https://upstream.example/updates", none⟩

def exampleWebhook : Webhook := ⟨"/telegram/webhook", "s3cret"⟩

def messageQueue : ListQueue := (ListQueue.empty 1).append "\"message\":\x7b\x7d" 100 5

def gatewayTimeout : Response := ⟨true, false, 524, "", "", 0⟩

def exampleEvents : List (Event ListQueue) :=
  [.actor (.tqueueChanged messageQueue), .actor (.wakeup { loadedAt := 1, resolvedAt := 1 }),
    .actor (.resolvedIpAddress (.ok (some webhookHost)) { sentAt := fun _ => 1 }),
    .serve 0 (some 200) true "No Content" gatewayTimeout]

def servedState : State ListQueue Unit :=
  match exampleEvents.foldlM (step localHttp id exampleEnv exampleWebhook) ⟨startedState, [], []⟩ with
  | .ok state => state
  | .error _ => ⟨startedState, [], []⟩

def exampleState : State ListQueue Unit :=
  match step localHttp id exampleEnv exampleWebhook servedState (.read 0 {}) with
  | .ok state => state
  | .error _ => servedState

theorem message_evolves : listTQueue.Evolves (ListQueue.empty 1) messageQueue := by
  refine ⟨fun event member => .inr ?_, by decide⟩
  have only := List.mem_singleton.1 member
  subst only
  exact Nat.le_refl _

theorem served_reached :
    Transition.Reach (system localHttp id exampleEnv exampleWebhook) Transition.unrestricted servedState := by
  refine Transition.reach_follows _ _ exampleEvents ⟨startedState, [], []⟩ _
    (.start _ ⟨WebhookActor.started_state, rfl, rfl⟩) ?_
  have clock (state : WebhookActor.State ListQueue Unit) (started : state.startedAt = 0)
      (event : WebhookActor.Event ListQueue) (draws : Draws) (_ : draws ∈ event.draws) :
      state.startedAt ≤ draws.resolvedAt := started ▸ Nat.zero_le _
  refine ⟨⟨⟨rfl, clock _ rfl _, message_evolves⟩, rfl⟩, trivial, _, rfl, ⟨⟨rfl, clock _ rfl _, trivial⟩, rfl⟩, trivial, _,
    rfl, ⟨⟨rfl, clock _ rfl _, rfl⟩, rfl⟩, trivial, _, rfl, ⟨?_, rfl⟩, trivial, _, rfl, rfl⟩
  intro exchange found
  cases found
  rfl

theorem served_read : step localHttp id exampleEnv exampleWebhook servedState (.read 0 {}) = .ok exampleState := by
  have fine : (step localHttp id exampleEnv exampleWebhook servedState (.read 0 {})).isOk = true := by decide +kernel
  unfold exampleState
  cases done : step localHttp id exampleEnv exampleWebhook servedState (.read 0 {}) with
  | ok state => rfl
  | error fault => rw [done] at fine; cases fine

theorem example_reached :
    Transition.Reach (system localHttp id exampleEnv exampleWebhook) Transition.unrestricted exampleState :=
  .next servedState exampleState (.read 0 {}) served_reached ⟨rfl, Nat.le_refl 0⟩ trivial served_read

end Delivered

end TelegramBotApi.EdgeWorker
