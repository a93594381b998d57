import TelegramBotApi.Lib.Tables
import TelegramBotApi.WebhookActor

set_option autoImplicit false

namespace TelegramBotApi.WebhookActor

open Checked Tables

structure Usage where
  connections : AList (fun _ : ConnectionId => Connection)
  readyConnections : List ConnectionId
  nextConnectionId : ConnectionId
  pendingSockets : List Nat
  readySockets : Nat
  queueUpdates : AList (fun _ : QueueId => List EventId)
  maxLoadedUpdates : Nat
  totalConnectionCount : Int

def Usage.socketCount (usage : Usage) : Nat :=
  usage.connections.keys.length + usage.pendingSockets.length + usage.readySockets

-- The counter is what the other actors contribute and the actor's own connections.
structure Within (maxConnections : Nat) (others : Int) (usage : Usage) : Prop where
  sockets : usage.socketCount ≤ maxConnections
  loaded : usage.queueUpdates.keys.length ≤ usage.maxLoadedUpdates
  maxLoaded : usage.maxLoadedUpdates = maxConnections * 2
  fresh : ∀ id ∈ usage.connections, id < usage.nextConnectionId
  ready : ∀ id ∈ usage.readyConnections, id ∈ usage.connections
  counted : usage.totalConnectionCount = others + usage.connections.keys.length

-- The only check of load_updates that is about the limits.
def Unlimited (check : Check) : Prop := check ≠ .maxLoadedUpdates

instance : DecidablePred Unlimited := fun check => inferInstanceAs (Decidable (check ≠ .maxLoadedUpdates))

section Usage

variable {TQueueState Flood : Type} (env : Environment TQueueState Flood)

def State.usage (state : State TQueueState Flood) : Usage where
  connections := state.connections
  readyConnections := state.readyConnections
  nextConnectionId := state.nextConnectionId
  pendingSockets := state.pendingSockets
  readySockets := state.readySockets
  queueUpdates := state.queueUpdates
  maxLoadedUpdates := state.maxLoadedUpdates
  totalConnectionCount := state.totalConnectionCount

def Unused (state : State TQueueState Flood) (computation : Except Check (State TQueueState Flood)) : Prop :=
  Meets Unlimited (fun after => after.usage = state.usage) computation

@[simp] theorem relax_wakeup_at_usage (wakeupAt : Int) (state : State TQueueState Flood) :
    (relaxWakeupAt wakeupAt state).usage = state.usage := by
  unfold relaxWakeupAt
  split <;> rfl

@[simp] theorem on_webhook_error_usage (error : String) (state : State TQueueState Flood) :
    (onWebhookError error state).usage = state.usage := by
  unfold onWebhookError
  split <;> rfl

@[simp] theorem verify_unchecked_usage (state : State TQueueState Flood) :
    (verifyUnchecked state).usage = state.usage := by
  unfold verifyUnchecked
  split <;> rfl

@[simp] theorem resolve_ip_address_usage (draws : Draws) (state : State TQueueState Flood) :
    (resolveIpAddress env draws state).usage = state.usage := by
  unfold resolveIpAddress
  split
  · rfl
  · split
    · exact relax_wakeup_at_usage _ _
    · rfl

@[simp] theorem add_flood_event_usage (active : Bool) (now : Int) (state : State TQueueState Flood) :
    (addFloodEvent env active now state).usage = state.usage := by
  unfold addFloodEvent
  split <;> rfl

@[simp] theorem tell_success_usage (drained : Bool) (state : State TQueueState Flood) :
    (tellSuccess drained state).usage = state.usage := by
  unfold tellSuccess
  split <;> rfl

@[simp] theorem verify_from_db_usage (state : State TQueueState Flood) : (verifyFromDb env state).usage = state.usage := by
  unfold verifyFromDb
  split <;> rfl

theorem on_error_unused (error : String) (state : State TQueueState Flood) : Unused state (onError error state) := by
  unfold onError
  split
  · exact meets_require _ _ _ _ _ (fun _ => by decide) fun _ => rfl
  · rfl

theorem create_webhook_error_unused (errorMessage result : String) (isPublic : Bool) (state : State TQueueState Flood) :
    Unused state (createWebhookError errorMessage result isPublic state) := by
  apply meets_weaken _ _ _ _ _ (on_error_unused result _)
  intro after same
  rw [same, on_webhook_error_usage]

theorem fetch_updates_unused (offset : EventId) (unixTimeNow : Int) (limit : Nat) (state : State TQueueState Flood) :
    Meets Unlimited (fun fetched => fetched.2.2.usage = state.usage ∧ fetched.2.1.length ≤ limit)
      (fetchUpdates env offset unixTimeNow limit state) := by
  have bounded (offset size : Nat) (events : List TQueueEvent) (after : TQueueState)
      (got : env.tqueue.get state.tqueue offset false unixTimeNow limit = some (size, events, after)) :
      events.length ≤ limit := by
    rw [(env.tqueue.getEvents _ _ _ _ _ _ _ _ got).1, List.length_take]
    exact Nat.min_le_left _ _
  unfold fetchUpdates
  split
  · rename_i got
    exact ⟨rfl, bounded _ _ _ _ got⟩
  · split
    · exact (by decide : Unlimited .updatesFetched)
    · split
      · exact (by decide : Unlimited .updatesFetched)
      · rename_i got
        exact ⟨rfl, bounded _ _ _ _ got⟩

end Usage

section Limits

variable {TQueueState Flood : Type} (env : Environment TQueueState Flood) (others : Int)

def Limited (state : State TQueueState Flood) : Prop := Within env.settings.maxConnections others state.usage

def Limits (computation : Except Check (State TQueueState Flood)) : Prop :=
  Meets Unlimited (Limited env others) computation

theorem limited_of_usage (before after : State TQueueState Flood) (same : after.usage = before.usage)
    (limited : Limited env others before) : Limited env others after := by
  unfold Limited
  rwa [same]

theorem unused_limits (before : State TQueueState Flood) (computation : Except Check (State TQueueState Flood))
    (limited : Limited env others before) (unused : Unused before computation) : Limits env others computation :=
  meets_weaken _ _ _ _ (fun after same => limited_of_usage env others before after same limited) unused

theorem add_connection_limited (state : State TQueueState Flood) (limited : Limited env others state)
    (room : state.socketCount < env.settings.maxConnections) : Limited env others (addConnection state) := by
  have absent : state.nextConnectionId ∉ state.connections := fun member =>
    Nat.lt_irrefl _ (limited.fresh state.nextConnectionId member)
  have grown := keys_length_insert_new state.connections state.nextConnectionId ⟨none, state.ipGeneration⟩ absent
  refine ⟨?_, limited.loaded, limited.maxLoaded, ?_, ?_, ?_⟩
  · simp only [Usage.socketCount, State.usage, addConnection, State.socketCount] at room ⊢
    omega
  · intro id member
    rcases (AList.mem_insert _).1 member with rfl | old
    · exact Nat.lt_succ_self _
    · exact Nat.lt_succ_of_lt (limited.fresh id old)
  · intro id member
    rcases List.mem_append.1 member with old | added
    · exact (AList.mem_insert _).2 (.inr (limited.ready id old))
    · exact (AList.mem_insert _).2 (.inl (List.mem_singleton.1 added))
  · have counted := limited.counted
    simp only [State.usage, addConnection] at counted ⊢
    rw [grown, counted]
    push_cast
    ring

theorem socket_count_of_usage (before after : State TQueueState Flood) (same : after.usage = before.usage) :
    after.socketCount = before.socketCount := congrArg Usage.socketCount same

structure Attempted (before after : State TQueueState Flood) : Prop where
  limited : Limited env others after
  pending : after.pendingSockets = before.pendingSockets
  readySockets : after.readySockets = before.readySockets
  connections : after.connections.keys.length ≤ before.connections.keys.length + 1

theorem unused_attempted (before after : State TQueueState Flood) (limited : Limited env others before)
    (same : after.usage = before.usage) : Attempted env others before after := by
  refine ⟨limited_of_usage env others before after same limited, ?_, ?_, ?_⟩
  · exact congrArg Usage.pendingSockets same
  · exact congrArg Usage.readySockets same
  · have connections := congrArg Usage.connections same
    simp only [State.usage] at connections
    rw [connections]
    exact Nat.le_succ _

theorem added_attempted (state : State TQueueState Flood) (limited : Limited env others state)
    (room : state.socketCount < env.settings.maxConnections) :
    Attempted env others state (verifyUnchecked (addConnection state)) := by
  have same := verify_unchecked_usage (addConnection state)
  refine ⟨limited_of_usage env others _ _ same (add_connection_limited env others state limited room), ?_, ?_, ?_⟩
  · exact congrArg Usage.pendingSockets same
  · exact congrArg Usage.readySockets same
  · have connections := congrArg Usage.connections same
    simp only [State.usage] at connections
    rw [connections]
    exact keys_length_insert_le _ _ _

theorem failed_attempted (errorMessage result : String) (isPublic : Bool) (state : State TQueueState Flood)
    (limited : Limited env others state) :
    Meets Unlimited (fun made => Attempted env others state made.2)
      (do
        let failed ← createWebhookError errorMessage result isPublic state
        return (false, failed)) := by
  apply meets_bind _ _ _ _ _ (create_webhook_error_unused errorMessage result isPublic state)
  intro failed same
  exact unused_attempted env others state failed limited same

theorem create_connection_over_attempted (draws : Draws) (attempt : Nat) (state : State TQueueState Flood)
    (limited : Limited env others state) (room : state.socketCount < env.settings.maxConnections) :
    Meets Unlimited (fun made => Attempted env others state made.2) (createConnectionOver env draws attempt state) := by
  have added := added_attempted env others state limited room
  unfold createConnectionOver
  split
  · apply meets_require _ _ _ _ _ (fun _ => by decide)
    intro _
    split
    · exact added
    · exact failed_attempted env others _ _ _ state limited
  · exact added

theorem pend_socket_limited (state : State TQueueState Flood) (limited : Limited env others state)
    (room : state.socketCount < env.settings.maxConnections) :
    Limited env others { state with
      pendingSockets := state.pendingSockets ++ [state.nextSocketId], nextSocketId := state.nextSocketId + 1 } := by
  refine ⟨?_, limited.loaded, limited.maxLoaded, limited.fresh, limited.ready, limited.counted⟩
  simp only [Usage.socketCount, State.usage, State.socketCount, List.length_append, List.length_singleton] at room ⊢
  omega

theorem create_connection_limits (draws : Draws) (attempt : Nat) (state : State TQueueState Flood)
    (limited : Limited env others state) (room : state.socketCount < env.settings.maxConnections) :
    Meets Unlimited (fun made => Limited env others made.2) (createConnection env draws attempt state) := by
  have failed (errorMessage result : String) (isPublic : Bool) :=
    meets_weaken Unlimited _ (fun made => Limited env others made.2) _ (fun _ attempted => attempted.limited)
      (failed_attempted env others errorMessage result isPublic state limited)
  unfold createConnection
  apply meets_require _ _ _ _ _ (fun _ => by decide)
  intro _
  split
  · split
    · have same := verify_unchecked_usage state
      apply pend_socket_limited env others (verifyUnchecked state) (limited_of_usage env others _ _ same limited)
      rwa [socket_count_of_usage _ _ same]
    · exact failed _ _ _
  · split
    · apply meets_weaken _ _ _ _ _ (create_connection_over_attempted env others draws attempt state limited room)
      exact fun _ attempted => attempted.limited
    · exact failed _ _ _

theorem open_connections_limits (draws : Draws) (need : Nat) (active : Bool) (fuel attempt : Nat)
    (state : State TQueueState Flood) (limited : Limited env others state) (fits : need ≤ env.settings.maxConnections) :
    Meets Unlimited (fun opened => Limited env others opened.2)
      (openConnections env draws need active fuel attempt state) := by
  induction fuel generalizing attempt state with
  | zero => exact limited
  | succ fuel ih =>
      unfold openConnections
      split
      · rename_i missing
        dsimp only
        split
        · exact limited_of_usage env others _ _ (relax_wakeup_at_usage _ state) limited
        · have same := add_flood_event_usage env active draws.connectedAt state
          refine meets_bind _ _ _ _ _ (create_connection_limits env others draws attempt _
            (limited_of_usage env others _ _ same limited) ?_) ?_
          · rw [socket_count_of_usage _ _ same]
            exact Nat.lt_of_lt_of_le missing fits
          · rintro ⟨created, after⟩ kept
            cases created with
            | true => exact ih (attempt + 1) after kept
            | false => exact limited_of_usage env others _ _ (relax_wakeup_at_usage _ after) kept
      · exact limited

theorem fewer_ready_limited (state : State TQueueState Flood) (sockets : Nat) (limited : Limited env others state)
    (fewer : sockets ≤ state.readySockets) : Limited env others { state with readySockets := sockets } := by
  refine ⟨?_, limited.loaded, limited.maxLoaded, limited.fresh, limited.ready, limited.counted⟩
  have bound := limited.sockets
  simp only [Usage.socketCount, State.usage] at bound ⊢
  omega

theorem use_ready_sockets_limits (draws : Draws) (need sockets attempt : Nat) (state : State TQueueState Flood)
    (limited : Limited env others state) (ready : state.readySockets = sockets) :
    Limits env others (useReadySockets env draws need sockets attempt state) := by
  induction sockets generalizing attempt state with
  | zero => exact limited
  | succ sockets ih =>
      unfold useReadySockets
      split
      · -- the socket that is taken makes room for the connection
        have room : { state with readySockets := sockets }.socketCount < env.settings.maxConnections := by
          have bound := limited.sockets
          simp only [Usage.socketCount, State.usage, State.socketCount] at bound ⊢
          omega
        refine meets_bind _ _ _ _ _ (create_connection_over_attempted env others draws attempt _
          (fewer_ready_limited env others state sockets limited (by omega)) room) ?_
        rintro ⟨created, after⟩ attempted
        cases created with
        | true => exact ih (attempt + 1) after attempted.limited attempted.readySockets
        | false =>
            apply fewer_ready_limited env others _ 0 _ (Nat.zero_le _)
            exact limited_of_usage env others _ _ (relax_wakeup_at_usage _ after) attempted.limited
      · exact fewer_ready_limited env others state 0 limited (Nat.zero_le _)

theorem need_connections_fit (draws : Draws) (state : State TQueueState Flood) :
    needConnections env draws state ≤ env.settings.maxConnections := by
  have positive := env.settings.maxConnectionsPositive
  have wanted : (if state.wasChecked then min state.queueUpdates.keys.length env.settings.maxConnections else 1) ≤
      env.settings.maxConnections := by
    split
    · exact Nat.min_le_right _ _
    · exact positive
  simp only [needConnections]
  split <;> omega

theorem create_new_connections_limits (draws : Draws) (state : State TQueueState Flood)
    (limited : Limited env others state) : Limits env others (createNewConnections env draws state) := by
  unfold createNewConnections
  split
  · exact limited
  · split
    · exact limited
    · refine meets_bind _ _ _ _ _ (open_connections_limits env others draws _ _ _ 0 state limited
        (need_connections_fit env draws state)) ?_
      rintro ⟨continues, opened⟩ kept
      cases continues with
      | true => exact use_ready_sockets_limits env others draws _ _ _ opened kept rfl
      | false => exact kept

structure Loads (rest : List TQueueEvent) (after : State TQueueState Flood) : Prop where
  limited : Limited env others after
  room : after.queueUpdates.keys.length + rest.length ≤ after.maxLoadedUpdates

theorem load_update_loads (now unixTimeNow : Int) (event : TQueueEvent) (rest : List TQueueEvent)
    (state : State TQueueState Flood) (loads : Loads env others (event :: rest) state) :
    Meets Unlimited (Loads env others rest) (loadUpdate now unixTimeNow state event) := by
  have room := loads.room
  rw [List.length_cons] at room
  unfold loadUpdate
  split
  · exact ⟨loads.limited, by omega⟩
  · apply meets_require _ _ _ _ _ (fun _ => by decide)
    intro _
    have grown := keys_length_insert_le state.queueUpdates (if event.extra = 0 then state.uniqueQueueId else event.extra)
      (((state.queueUpdates.lookup (if event.extra = 0 then state.uniqueQueueId else event.extra)).getD []) ++ [event.id])
    refine ⟨⟨loads.limited.sockets, ?_, loads.limited.maxLoaded, loads.limited.fresh, loads.limited.ready,
      loads.limited.counted⟩, ?_⟩
    · simp only [State.usage]
      omega
    · dsimp only
      omega

theorem load_updates_limits (draws : Draws) (state : State TQueueState Flood) (limited : Limited env others state) :
    Limits env others (loadUpdates env draws state) := by
  unfold loadUpdates
  split
  · exact limited
  · split
    · -- the number of queues is at its limit, never beyond
      rename_i full
      have bound := limited.loaded
      apply meets_require _ _ _ _ _
      · intro different
        exact absurd (Nat.le_antisymm bound full) different
      · exact fun _ => limited
    · rename_i space
      dsimp only
      split
      · exact limited_of_usage env others _ _ (tell_success_usage _ _) limited
      · refine meets_bind _ _ _ _ _ (fetch_updates_unused env _ _ _ _) ?_
        rintro ⟨totalSize, events, fetched⟩ ⟨same, few⟩
        have kept : Limited env others fetched := limited_of_usage env others state fetched same limited
        refine meets_bind _ (Loads env others []) _ _ _ ?_ ?_
        · apply meets_foldlM_rest _ (Loads env others) _ events
          · refine ⟨kept, ?_⟩
            have queues := congrArg Usage.queueUpdates same
            have bound := congrArg Usage.maxLoadedUpdates same
            simp only [State.usage] at queues bound
            simp only [queues, bound]
            dsimp only at few
            have most := Nat.min_le_right tqueueEventBufferSize (state.maxLoadedUpdates - state.queueUpdates.keys.length)
            omega
          · exact fun event rest state => load_update_loads env others _ _ event rest state
        · intro loaded done
          exact limited_of_usage env others _ _ (tell_success_usage _ loaded) done.limited

theorem queues_limited (state : State TQueueState Flood)
    (queueUpdates : AList (fun _ : QueueId => List EventId)) (limited : Limited env others state)
    (fewer : queueUpdates.keys.length ≤ state.queueUpdates.keys.length) :
    Within env.settings.maxConnections others { state.usage with queueUpdates := queueUpdates } :=
  ⟨limited.sockets, fewer.trans limited.loaded, limited.maxLoaded, limited.fresh, limited.ready, limited.counted⟩

def Ends (state : State TQueueState Flood) (computation : Except Check (State TQueueState Flood)) : Prop :=
  Meets Unlimited (fun after => Limited env others after ∧ after.connections = state.connections) computation

theorem drop_event_ends (eventId : EventId) (reason : Reason) (state : State TQueueState Flood)
    (limited : Limited env others state) : Ends env others state (dropEvent env eventId reason state) := by
  unfold dropEvent
  split
  · exact (by decide : Unlimited .updateFound)
  · rename_i update found
    dsimp only
    split
    · exact (by decide : Unlimited .queueUpdatesFound)
    · exact (by decide : Unlimited .eventIdsNotEmpty)
    · rename_i first listed
      apply meets_require _ _ _ _ _ (fun _ => by decide)
      intro _
      have erased := keys_length_erase state.queueUpdates update.queueId (mem_of_lookup _ _ _ listed)
      refine ⟨queues_limited env others state _ limited ?_, rfl⟩
      dsimp only
      omega
    · rename_i first next rest listed
      apply meets_require _ _ _ _ _ (fun _ => by decide)
      intro _
      split
      · exact (by decide : Unlimited .updateFound)
      · refine ⟨queues_limited env others state _ limited ?_, rfl⟩
        rw [keys_length_insert_old _ _ _ (mem_of_lookup _ _ _ listed)]

theorem on_update_ok_ends (eventId : EventId) (connectionId : ConnectionId) (draws : Draws)
    (state : State TQueueState Flood) (limited : Limited env others state) :
    Ends env others state (onUpdateOk env eventId connectionId draws state) := by
  apply meets_require _ _ _ _ _ (fun _ => by decide)
  intro _
  exact drop_event_ends env others eventId _ _ limited

theorem on_update_error_ends (eventId : EventId) (retryAfter : Int) (draws : Draws) (state : State TQueueState Flood)
    (limited : Limited env others state) :
    Ends env others state (onUpdateError env eventId retryAfter draws state) := by
  unfold onUpdateError
  split
  · exact (by decide : Unlimited .updateFound)
  · dsimp only
    split
    · exact drop_event_ends env others eventId _ _ limited
    · exact ⟨limited, rfl⟩

theorem busy_limited (state : State TQueueState Flood) (connectionId : ConnectionId) (connection : Connection)
    (readyConnections : List ConnectionId) (limited : Limited env others state)
    (present : connectionId ∈ state.connections) (ready : ∀ id ∈ readyConnections, id ∈ state.connections) :
    Within env.settings.maxConnections others { state.usage with
      readyConnections := readyConnections
      connections := state.connections.insert connectionId connection } := by
  have same := keys_length_insert_old state.connections connectionId connection present
  have known (id : ConnectionId) (member : id ∈ state.connections.insert connectionId connection) :
      id ∈ state.connections := by
    rcases (AList.mem_insert _).1 member with rfl | old
    · exact present
    · exact old
  refine ⟨?_, limited.loaded, limited.maxLoaded, fun id member => limited.fresh id (known id member),
    fun id member => (AList.mem_insert _).2 (.inr (ready id member)), ?_⟩
  · have bound := limited.sockets
    simp only [Usage.socketCount, State.usage, same] at bound ⊢
    exact bound
  · have counted := limited.counted
    simp only [State.usage, same] at counted ⊢
    exact counted

theorem send_update_limits (draws : Draws) (attempt : Nat) (state : State TQueueState Flood)
    (limited : Limited env others state) :
    Meets Unlimited (fun sent => Limited env others sent.2) (sendUpdate draws attempt state) := by
  unfold sendUpdate
  split
  · exact limited
  · exact limited
  · rename_i connectionId readyConnections queue queues listed _
    have idle (id : ConnectionId) (member : id ∈ connectionId :: readyConnections) : id ∈ state.connections :=
      limited.ready id (by rw [State.usage, listed]; exact member)
    dsimp only
    split
    · exact limited_of_usage env others _ _ (relax_wakeup_at_usage _ state) limited
    · apply meets_require _ _ _ _ _ (fun _ => by decide)
      intro _
      split
      · exact (by decide : Unlimited .queueUpdatesFound)
      · exact (by decide : Unlimited .eventIdsNotEmpty)
      · split
        · exact (by decide : Unlimited .updateFound)
        · split
          · exact limited
          · exact busy_limited env others state connectionId _ readyConnections limited (idle _ List.mem_cons_self)
              (fun id member => idle id (List.mem_cons_of_mem _ member))

theorem send_updates_limits (draws : Draws) (state : State TQueueState Flood) (limited : Limited env others state) :
    Limits env others (sendUpdates draws state) := by
  have from_ (fuel attempt : Nat) (state : State TQueueState Flood) (limited : Limited env others state) :
      Limits env others (sendUpdatesFrom draws fuel attempt state) := by
    induction fuel generalizing attempt state with
    | zero => exact limited
    | succ fuel ih =>
        refine meets_bind _ _ _ _ _ (send_update_limits env others draws attempt state limited) ?_
        rintro ⟨sent, after⟩ kept
        cases sent with
        | true => exact ih (attempt + 1) after kept
        | false => exact kept
  exact from_ _ 0 state limited

theorem unless_stopping_limits (stage : State TQueueState Flood → Except Check (State TQueueState Flood))
    (kept : ∀ state, Limited env others state → Limits env others (stage state)) (state : State TQueueState Flood)
    (limited : Limited env others state) : Limits env others (unlessStopping stage state) := by
  unfold unlessStopping
  split
  · exact limited
  · exact kept state limited

theorem loop_limits (draws : Draws) (state : State TQueueState Flood) (limited : Limited env others state) :
    Limits env others (loop env draws state) := by
  unfold loop
  refine meets_bind _ _ _ _ _ (unless_stopping_limits env others _ ?_ { state with wakeupAt := 0 } limited) ?_
  · exact load_updates_limits env others draws
  · intro loaded kept
    refine meets_bind _ _ _ _ _ (unless_stopping_limits env others _ ?_ loaded kept) ?_
    · intro state kept
      exact limited_of_usage env others _ _ (resolve_ip_address_usage env draws state) kept
    · intro resolved kept
      refine meets_bind _ _ _ _ _ (unless_stopping_limits env others _ ?_ resolved kept) ?_
      · exact create_new_connections_limits env others draws
      · intro connected kept
        refine meets_bind _ _ _ _ _ (unless_stopping_limits env others _ ?_ connected kept) ?_
        · exact send_updates_limits env others draws
        · exact fun _ kept => kept

theorem unused_then_loop_limits (draws : Draws) (state : State TQueueState Flood)
    (computation : Except Check (State TQueueState Flood)) (limited : Limited env others state)
    (unused : Unused state computation) : Limits env others (computation >>= loop env draws) :=
  meets_bind _ _ _ _ _ (unused_limits env others state computation limited unused)
    (fun after kept => loop_limits env others draws after kept)

theorem on_resolved_ip_address_limits (result : Except String (Option IpAddress)) (draws : Draws)
    (state : State TQueueState Flood) (limited : Limited env others state) :
    Limits env others (onResolvedIpAddress env result draws state) := by
  apply meets_require _ _ _ _ _ (fun _ => by decide)
  intro _
  have relaxed : Limited env others (relaxWakeupAt (draws.resolvedAt + (ipAddressCacheTime + draws.cacheTimeShift) * second)
      { state with
        isIpAddressBeingResolved := false
        nextIpAddressResolveTime := draws.resolvedAt + (ipAddressCacheTime + draws.cacheTimeShift) * second }) :=
    limited_of_usage env others _ _ (relax_wakeup_at_usage _ _) limited
  dsimp only
  split
  · exact unused_then_loop_limits env others draws _ _ relaxed (on_error_unused _ _)
  · split
    · exact loop_limits env others draws _ relaxed
    · apply loop_limits env others draws
      apply limited_of_usage env others _ _ _ relaxed
      split <;> rfl

theorem on_ssl_context_created_limits (created : Bool) (draws : Draws) (state : State TQueueState Flood)
    (limited : Limited env others state) : Limits env others (onSslContextCreated env created draws state) := by
  unfold onSslContextCreated
  dsimp only
  split
  · exact loop_limits env others draws _ limited
  · exact unused_then_loop_limits env others draws { state with sslContextRunning := false } _ limited
      (create_webhook_error_unused _ _ _ _)

theorem socket_reported_limited (id : Nat) (readySockets : Nat) (state : State TQueueState Flood)
    (limited : Limited env others state) (pending : id ∈ state.pendingSockets) (fits : readySockets ≤ state.readySockets + 1) :
    Limited env others { state with pendingSockets := state.pendingSockets.erase id, readySockets := readySockets } := by
  refine ⟨?_, limited.loaded, limited.maxLoaded, limited.fresh, limited.ready, limited.counted⟩
  have bound := limited.sockets
  have erased := List.length_erase_of_mem pending
  have positive := List.length_pos_of_mem pending
  simp only [Usage.socketCount, State.usage] at bound ⊢
  omega

theorem on_socket_ready_async_limits (id : Nat) (opened : Bool) (draws : Draws) (state : State TQueueState Flood)
    (limited : Limited env others state) (pending : id ∈ state.pendingSockets) :
    Limits env others (onSocketReadyAsync env id opened draws state) := by
  unfold onSocketReadyAsync
  dsimp only
  cases opened with
  | true =>
      rw [if_pos rfl]
      apply loop_limits env others draws
      exact socket_reported_limited env others id (state.readySockets + 1) state limited pending (Nat.le_refl _)
  | false =>
      rw [if_neg Bool.false_ne_true]
      apply unused_then_loop_limits env others draws _ _ _ (on_error_unused _ _)
      apply limited_of_usage env others _ _ (on_webhook_error_usage _ _)
      exact socket_reported_limited env others id state.readySockets state limited pending (Nat.le_succ _)

theorem read_verdict_usage (response : Option Response) (ipGeneration : Int) (draws : Draws)
    (state : State TQueueState Flood) : (readVerdict response ipGeneration draws state).2.usage = state.usage := by
  cases response with
  | none => rfl
  | some response =>
      simp only [readVerdict, readResponse]
      split
      · split
        · split <;> rfl
        · exact on_webhook_error_usage _ _
      · exact on_webhook_error_usage _ _

theorem finish_update_ends (connectionId : ConnectionId) (eventId : Option EventId) (verdict : Verdict) (draws : Draws)
    (state : State TQueueState Flood) (limited : Limited env others state) :
    Ends env others state (finishUpdate env connectionId eventId verdict draws state) := by
  unfold finishUpdate
  split
  · exact on_update_ok_ends env others _ connectionId draws state limited
  · exact on_update_error_ends env others _ _ draws state limited
  · exact meets_require _ _ _ _ _ (fun _ => by decide) fun _ => ⟨limited, rfl⟩

theorem release_connection_limits (connectionId : ConnectionId) (close : Bool) (ipGeneration : Int)
    (state : State TQueueState Flood) (limited : Limited env others state) (present : connectionId ∈ state.connections) :
    Limits env others (releaseConnection connectionId close ipGeneration state) := by
  cases close with
  | true =>
      have erased := keys_length_erase state.connections connectionId present
      refine ⟨?_, limited.loaded, limited.maxLoaded, ?_, ?_, ?_⟩
      · have bound := limited.sockets
        simp only [Usage.socketCount, State.usage] at bound ⊢
        omega
      · exact fun id member => limited.fresh id (AList.mem_erase.1 member).2
      · intro id member
        obtain ⟨old, different⟩ := List.mem_filter.1 member
        exact AList.mem_erase.2 ⟨of_decide_eq_true different, limited.ready id old⟩
      · have counted := limited.counted
        simp only [State.usage] at counted ⊢
        omega
  | false =>
      apply meets_require _ _ _ _ _ (fun _ => by decide)
      intro _
      apply busy_limited env others state connectionId _ (state.readyConnections ++ [connectionId]) limited present
      intro id member
      rcases List.mem_append.1 member with old | added
      · exact limited.ready id old
      · rw [List.mem_singleton.1 added]
        exact present

theorem handle_limits (connectionId : ConnectionId) (response : Option Response) (draws : Draws)
    (state : State TQueueState Flood) (limited : Limited env others state) :
    Limits env others (handle env connectionId response draws state) := by
  unfold handle
  split
  · exact limited
  · rename_i connection found
    have same := read_verdict_usage response connection.ipGeneration draws state
    dsimp only
    refine meets_bind _ _ _ _ _ (finish_update_ends env others connectionId connection.eventId _ draws _
      (limited_of_usage env others _ _ same limited)) ?_
    rintro served ⟨kept, connections⟩
    have present : connectionId ∈ served.connections := by
      rw [connections, show (readVerdict response connection.ipGeneration draws state).2.connections = state.connections
        from congrArg Usage.connections same]
      exact mem_of_lookup _ _ _ found
    refine meets_bind _ _ _ _ _ (release_connection_limits env others connectionId _ _ served kept present) ?_
    intro released kept
    split
    · exact kept
    · exact loop_limits env others draws released kept

theorem hangup_shared_limits (connectionId : ConnectionId) (draws later : Draws) (state : State TQueueState Flood)
    (limited : Limited env others state) : Limits env others (hangupShared env connectionId draws later state) := by
  refine meets_bind _ _ _ _ _ (handle_limits env others connectionId none draws state limited) ?_
  intro handled kept
  split
  · exact kept
  · exact loop_limits env others later handled kept

theorem step_limits (state : State TQueueState Flood) (event : Event TQueueState) (allowed : enabled env state event)
    (limited : Limited env others state) : Limits env others (step env state event) := by
  obtain ⟨_, _, offered⟩ := allowed
  cases event with
  | tqueueChanged tqueue => exact limited
  | update draws => exact loop_limits env others draws _ limited
  | wakeup draws => exact loop_limits env others draws state limited
  | resolvedIpAddress result draws => exact on_resolved_ip_address_limits env others result draws state limited
  | sslContextCreated created draws => exact on_ssl_context_created_limits env others created draws state limited
  | socketReady id opened draws => exact on_socket_ready_async_limits env others id opened draws state limited offered
  | response connectionId response draws => exact handle_limits env others connectionId (some response) draws state limited
  | hangupShared connectionId draws later => exact hangup_shared_limits env others connectionId draws later state limited
  | hangup => exact limited
  | close => exact limited

theorem start_up_usage (draws : Draws) (tqueue : TQueueState) :
    Meets Unlimited (fun after => after.usage = ⟨∅, [], 0, [], 0, ∅, env.settings.maxConnections * 2, 0⟩)
      (startUp env draws tqueue) := by
  have checked : Unused (initialState env draws tqueue) (checkUrl env (initialState env draws tqueue)) := by
    unfold checkUrl
    split
    · rfl
    · split
      · exact on_error_unused _ _
      · split
        · rfl
        · exact on_error_unused _ _
  refine meets_bind _ _ _ _ _ checked ?_
  intro state same
  split
  · rename_i error _
    exact meets_weaken _ _ _ _ (fun after kept => kept.trans same) (on_error_unused error state)
  · exact (verify_from_db_usage env state).trans same

end Limits

end TelegramBotApi.WebhookActor
