import TelegramBotApi.WebhookScheduling

set_option autoImplicit false

namespace TelegramBotApi.WebhookActor

open Checked Tables

structure Standing where
  stopFlag : Bool
  wasChecked : Bool
  ipAddress : Option IpAddress
  nextIpAddressResolveTime : Int
  isIpAddressBeingResolved : Bool
  sslCtx : Bool
  sslContextRunning : Bool
  startedAt : Nat
  loopEnds : List LoopEnd

structure Timing (Flood : Type) where
  wakeupAt : Int
  lastSuccessTime : Int
  activeNewConnectionFlood : Flood
  pendingNewConnectionFlood : Flood

section Wakeup

variable {TQueueState Flood : Type} (env : Environment TQueueState Flood)

def State.standing (state : State TQueueState Flood) : Standing where
  stopFlag := state.stopFlag
  wasChecked := state.wasChecked
  ipAddress := state.ipAddress
  nextIpAddressResolveTime := state.nextIpAddressResolveTime
  isIpAddressBeingResolved := state.isIpAddressBeingResolved
  sslCtx := state.sslCtx
  sslContextRunning := state.sslContextRunning
  startedAt := state.startedAt
  loopEnds := state.loopEnds

def State.timing (state : State TQueueState Flood) : Timing Flood where
  wakeupAt := state.wakeupAt
  lastSuccessTime := state.lastSuccessTime
  activeNewConnectionFlood := state.activeNewConnectionFlood
  pendingNewConnectionFlood := state.pendingNewConnectionFlood

def Woken (ended : LoopEnd) : Prop :=
  ∃ queue ∈ ended.queues, (∀ other ∈ ended.queues, Queue.Before queue other) ∧
    (ended.inFlight = true ∨ ended.pendingSockets ≠ [] ∨ ended.isIpAddressBeingResolved = true ∨
      ended.sslContextRunning = true ∨
      ended.wakeupAt ≠ 0 ∧ ended.wakeupAt ≤ max queue.wakeupAt (max (ended.now + second) ended.floodWakeupAt))

structure Wakeable (standing : Standing) : Prop where
  fixed : env.settings.fixIpAddress = true → standing.stopFlag = true ∨ standing.ipAddress.isSome = true
  ssl : env.settings.isHttps = true →
    standing.stopFlag = true ∨ standing.sslCtx = true ∨ standing.sslContextRunning = true
  -- until it is verified, an actor without an address resolves it at once
  address : standing.stopFlag = true ∨ standing.ipAddress.isSome = true ∨ standing.wasChecked = true ∨
    standing.isIpAddressBeingResolved = true ∨ standing.nextIpAddressResolveTime ≤ standing.startedAt
  reported : ∀ ended, ended ∈ standing.loopEnds → ended.stopFlag = false → ended.queues ≠ [] → Woken ended

structure Settling (before after : Standing) : Prop where
  same : after = { before with stopFlag := after.stopFlag, wasChecked := after.wasChecked }
  stops : before.stopFlag = true → after.stopFlag = true
  checks : before.wasChecked = true → after.wasChecked = true

theorem settling_refl (standing : Standing) : Settling standing standing := ⟨rfl, id, id⟩

theorem settling_trans (first middle last : Standing) (begins : Settling first middle)
    (continues : Settling middle last) : Settling first last := by
  refine ⟨?_, fun stop => continues.stops (begins.stops stop), fun check => continues.checks (begins.checks check)⟩
  rw [continues.same, begins.same]

theorem settling_wakeable (before after : Standing) (wakeable : Wakeable env before) (settling : Settling before after) :
    Wakeable env after := by
  have same := settling.same
  obtain ⟨stopFlag, wasChecked, ipAddress, next, resolved, sslCtx, running, startedAt, loopEnds⟩ := after
  simp only [Standing.mk.injEq, true_and] at same
  obtain ⟨rfl, rfl, rfl, rfl, rfl, rfl, rfl⟩ := same
  refine ⟨fun fixed => ?_, fun https => ?_, ?_, wakeable.reported⟩
  · exact (wakeable.fixed fixed).imp_left settling.stops
  · exact (wakeable.ssl https).imp_left settling.stops
  · rcases wakeable.address with stop | present | checked | rest
    · exact .inl (settling.stops stop)
    · exact .inr (.inl present)
    · exact .inr (.inr (.inl (settling.checks checked)))
    · exact .inr (.inr (.inr rest))

theorem relax_wakeup_at_standing (wakeupAt : Int) (state : State TQueueState Flood) :
    (relaxWakeupAt wakeupAt state).standing = state.standing := by
  unfold relaxWakeupAt
  split <;> rfl

theorem on_webhook_error_frame (error : String) (state : State TQueueState Flood) :
    (onWebhookError error state).standing = state.standing ∧ (onWebhookError error state).timing = state.timing := by
  unfold onWebhookError
  split <;> exact ⟨rfl, rfl⟩

theorem on_error_settling (error : String) (state : State TQueueState Flood) :
    Meets (fun _ => True) (fun after => Settling state.standing after.standing ∧ after.timing = state.timing ∧
      (state.wasChecked = false → after.stopFlag = true)) (onError error state) := by
  unfold onError
  split
  · exact meets_require _ _ _ _ _ (fun _ => trivial) fun _ => ⟨⟨rfl, fun _ => rfl, id⟩, rfl, fun _ => rfl⟩
  · rename_i kept
    refine ⟨settling_refl _, rfl, fun unchecked => ?_⟩
    simpa [unchecked] using kept

theorem create_webhook_error_settling (errorMessage result : String) (isPublic : Bool)
    (state : State TQueueState Flood) :
    Meets (fun _ => True) (fun after => Settling state.standing after.standing ∧ after.timing = state.timing ∧
      (state.wasChecked = false → after.stopFlag = true)) (createWebhookError errorMessage result isPublic state) := by
  have frame := on_webhook_error_frame (if isPublic then errorMessage ++ ": " ++ result else errorMessage) state
  have told := on_error_settling result
    (onWebhookError (if isPublic then errorMessage ++ ": " ++ result else errorMessage) state)
  have checked : (onWebhookError (if isPublic then errorMessage ++ ": " ++ result else errorMessage) state).wasChecked =
      state.wasChecked := congrArg Standing.wasChecked frame.1
  rwa [frame.1, frame.2, checked] at told

structure Connects (before : State TQueueState Flood) (created : Bool) (after : State TQueueState Flood) : Prop where
  settles : Settling before.standing after.standing
  timing : after.timing = before.timing
  queues : after.queues = before.queues
  sockets : after.readySockets = before.readySockets
  counted : created = true → after.connections.keys.length = before.connections.keys.length + 1 ∧
    after.pendingSockets = before.pendingSockets

theorem connects_count (before after : State TQueueState Flood) (connects : Connects before true after) :
    after.socketCount = before.socketCount + 1 := by
  have counted := connects.counted rfl
  have sockets := connects.sockets
  simp only [State.socketCount, counted.1, counted.2, sockets]
  omega

theorem on_error_frame (error : String) (state : State TQueueState Flood) :
    Meets (fun _ => True) (fun after => after.queues = state.queues ∧ after.readySockets = state.readySockets)
      (onError error state) := by
  unfold onError
  split
  · exact meets_require _ _ _ _ _ (fun _ => trivial) fun _ => ⟨rfl, rfl⟩
  · exact ⟨rfl, rfl⟩

theorem failed_connects (errorMessage : String) (isPublic : Bool) (result : String) (state : State TQueueState Flood) :
    Meets (fun _ => True) (fun made => Connects state made.1 made.2)
      (do
        let failed ← createWebhookError errorMessage result isPublic state
        return (false, failed)) := by
  have told (text : String) : (onWebhookError text state).queues = state.queues ∧
      (onWebhookError text state).readySockets = state.readySockets := by
    unfold onWebhookError
    split <;> exact ⟨rfl, rfl⟩
  refine meets_bind _ _ _ _ _ (meets_and _ _ _ _ (create_webhook_error_settling errorMessage result isPublic state)
    (on_error_frame result _)) fun failed outcome => ?_
  obtain ⟨⟨settles, timing, _⟩, queues, sockets⟩ := outcome
  exact ⟨settles, timing, queues.trans (told _).1, sockets.trans (told _).2, fun made => by cases made⟩

theorem verify_unchecked_frame (state : State TQueueState Flood) :
    Settling state.standing (verifyUnchecked state).standing ∧ (verifyUnchecked state).timing = state.timing ∧
      (verifyUnchecked state).queues = state.queues ∧ (verifyUnchecked state).readySockets = state.readySockets ∧
      (verifyUnchecked state).connections = state.connections ∧
      (verifyUnchecked state).pendingSockets = state.pendingSockets := by
  unfold verifyUnchecked
  split
  · exact ⟨settling_refl _, rfl, rfl, rfl, rfl, rfl⟩
  · exact ⟨⟨rfl, id, fun _ => rfl⟩, rfl, rfl, rfl, rfl, rfl⟩

theorem added_connects (state : State TQueueState Flood)
    (unused : state.connections.lookup state.nextConnectionId = none) :
    Connects state true (verifyUnchecked (addConnection state)) := by
  obtain ⟨settles, timing, queues, sockets, connections, pending⟩ := verify_unchecked_frame (addConnection state)
  refine ⟨settles, timing, queues, sockets, fun _ => ⟨?_, pending⟩⟩
  have absent : state.nextConnectionId ∉ state.connections.keys := fun member =>
    not_mem_of_lookup _ _ unused (AList.mem_keys.2 member)
  rw [connections]
  change (state.connections.insert state.nextConnectionId ⟨none, state.ipGeneration⟩).keys.length = _
  rw [AList.keys_insert, List.length_cons, List.erase_of_not_mem absent]

theorem create_connection_over_connects (draws : Draws) (attempt : Nat) (state : State TQueueState Flood)
    (unused : state.connections.lookup state.nextConnectionId = none) :
    Meets (fun _ => True) (fun made => Connects state made.1 made.2) (createConnectionOver env draws attempt state) := by
  unfold createConnectionOver
  split
  · refine meets_require _ _ _ _ _ (fun _ => trivial) fun _ => ?_
    split
    · exact added_connects state unused
    · exact failed_connects _ true _ state
  · exact added_connects state unused

theorem create_connection_connects (draws : Draws) (attempt : Nat) (state : State TQueueState Flood)
    (unused : state.connections.lookup state.nextConnectionId = none) :
    Meets (fun _ => True) (fun made => Connects state made.1 made.2) (createConnection env draws attempt state) := by
  unfold createConnection
  refine meets_require _ _ _ _ _ (fun _ => trivial) fun _ => ?_
  split
  · split
    · obtain ⟨settles, timing, queues, sockets, _⟩ := verify_unchecked_frame state
      exact ⟨settles, timing, queues, sockets, fun made => by cases made⟩
    · exact failed_connects _ false _ state
  · split
    · exact create_connection_over_connects env draws attempt state unused
    · exact failed_connects _ false _ state

theorem unused_connection_id (state : State TQueueState Flood) (sound : Sound env state.core) :
    state.connections.lookup state.nextConnectionId = none := by
  cases found : state.connections.lookup state.nextConnectionId with
  | none => rfl
  | some connection => exact absurd (sound.connected.fresh _ connection found) (Nat.lt_irrefl _)

def Armed (limit : Int) (state : State TQueueState Flood) : Prop := state.wakeupAt ≠ 0 ∧ state.wakeupAt ≤ limit

theorem relax_armed (wakeupAt : Int) (state : State TQueueState Flood) (real : wakeupAt ≠ 0) :
    Armed wakeupAt (relaxWakeupAt wakeupAt state) := by
  unfold relaxWakeupAt Armed
  split
  · exact ⟨real, le_refl _⟩
  · rename_i kept
    push Not at kept
    exact ⟨kept.1, kept.2⟩

theorem relax_keeps_armed (wakeupAt limit : Int) (state : State TQueueState Flood) (real : wakeupAt ≠ 0)
    (armed : Armed limit state) : Armed limit (relaxWakeupAt wakeupAt state) := by
  unfold relaxWakeupAt Armed at *
  split
  · rename_i sooner
    refine ⟨real, ?_⟩
    rcases sooner with unset | less
    · exact absurd unset armed.1
    · exact le_trans (le_of_lt less) armed.2
  · exact armed

structure Opened (draws : Draws) (active : Bool) (enough : State TQueueState Flood → Prop)
    (before after : State TQueueState Flood) : Prop where
  sound : Sound env after.core
  settles : Settling before.standing after.standing
  lastSuccess : after.lastSuccessTime = before.lastSuccessTime
  queues : after.queues = before.queues
  outcome : Armed (max (draws.connectedAt + second) (env.flood.getWakeupAt (floodOf active after))) after ∨ enough after

theorem add_flood_event_frame (active : Bool) (now : Int) (state : State TQueueState Flood) :
    (addFloodEvent env active now state).standing = state.standing ∧
      (addFloodEvent env active now state).lastSuccessTime = state.lastSuccessTime ∧
      (addFloodEvent env active now state).queues = state.queues ∧
      (addFloodEvent env active now state).socketCount = state.socketCount ∧
      (addFloodEvent env active now state).readySockets = state.readySockets := by
  unfold addFloodEvent
  split <;> exact ⟨rfl, rfl, rfl, rfl, rfl⟩

theorem relax_wakeup_at_frame (wakeupAt : Int) (state : State TQueueState Flood) :
    (relaxWakeupAt wakeupAt state).lastSuccessTime = state.lastSuccessTime ∧
      (relaxWakeupAt wakeupAt state).queues = state.queues ∧
      (∀ active, floodOf active (relaxWakeupAt wakeupAt state) = floodOf active state) := by
  unfold relaxWakeupAt
  split <;> exact ⟨rfl, rfl, fun _ => rfl⟩

theorem second_positive (now : Nat) : (now : Int) + second ≠ 0 := by
  unfold second
  omega

theorem relaxed_opened (draws : Draws) (active : Bool) (enough : State TQueueState Flood → Prop)
    (before state : State TQueueState Flood) (wakeupAt : Int) (sound : Sound env state.core)
    (settles : Settling before.standing state.standing) (lastSuccess : state.lastSuccessTime = before.lastSuccessTime)
    (queues : state.queues = before.queues) (real : wakeupAt ≠ 0)
    (bounded : wakeupAt ≤ max (draws.connectedAt + second) (env.flood.getWakeupAt (floodOf active state))) :
    Opened env draws active enough before (relaxWakeupAt wakeupAt state) := by
  obtain ⟨sameSuccess, sameQueues, sameFlood⟩ := relax_wakeup_at_frame wakeupAt state
  have armed := relax_armed wakeupAt state real
  refine ⟨?_, ?_, sameSuccess.trans lastSuccess, sameQueues.trans queues, .inl ⟨armed.1, ?_⟩⟩
  · rw [relax_wakeup_at_core]
    exact sound
  · rw [relax_wakeup_at_standing]
    exact settles
  · rw [sameFlood]
    exact le_trans armed.2 bounded

theorem open_connections_opened (draws : Draws) (need : Nat) (active : Bool) (fuel attempt : Nat)
    (state : State TQueueState Flood) (sound : Sound env state.core) (fueled : need ≤ state.socketCount + fuel) :
    Meets (fun _ => True) (fun opened => Opened env draws active
      (fun after => opened.1 = true ∧ need ≤ after.socketCount) state opened.2)
      (openConnections env draws need active fuel attempt state) := by
  induction fuel generalizing attempt state with
  | zero => exact ⟨sound, settling_refl _, rfl, rfl, .inr ⟨rfl, fueled⟩⟩
  | succ fuel ih =>
      unfold openConnections
      split
      · dsimp only
        split
        · rename_i missing early
          refine relaxed_opened env draws active _ state state _ sound (settling_refl _) rfl rfl ?_ (le_max_right _ _)
          omega
        · obtain ⟨standing, lastSuccess, queues, count, _⟩ := add_flood_event_frame env active draws.connectedAt state
          have soundAdded : Sound env (addFloodEvent env active draws.connectedAt state).core := by
            rw [add_flood_event_core]
            exact sound
          refine meets_bind _ _ _ _ _ (meets_and _ _ _ _
            (create_connection_connects env draws attempt _ (unused_connection_id env _ soundAdded))
            (create_connection_advances env (fun _ => True) True (fun _ _ => True) draws attempt _ soundAdded)) ?_
          rintro ⟨made, after⟩ ⟨connects, advanced⟩
          have settles : Settling state.standing after.standing := standing ▸ connects.settles
          have sameSuccess := (congrArg Timing.lastSuccessTime connects.timing).trans lastSuccess
          have sameQueues := connects.queues.trans queues
          cases made with
          | true =>
              rw [if_pos rfl]
              have counted := connects_count _ after connects
              have more : need ≤ after.socketCount + fuel := by omega
              refine meets_weaken _ _ _ _ (fun opened later => ?_) (ih (attempt + 1) after advanced.sound more)
              exact ⟨later.sound, settling_trans _ _ _ settles later.settles, later.lastSuccess.trans sameSuccess,
                later.queues.trans sameQueues, later.outcome⟩
          | false =>
              rw [if_neg Bool.false_ne_true]
              exact relaxed_opened env draws active _ state after _ advanced.sound settles sameSuccess sameQueues
                (second_positive _) (le_max_left _ _)
      · rename_i enough
        exact ⟨sound, settling_refl _, rfl, rfl, .inr ⟨rfl, Nat.le_of_not_lt enough⟩⟩

def State.openCount (state : State TQueueState Flood) : Nat :=
  state.connections.keys.length + state.pendingSockets.length

def connectLimit (draws : Draws) (active : Bool) (state : State TQueueState Flood) : Int :=
  max (draws.connectedAt + second) (env.flood.getWakeupAt (floodOf active state))

theorem flood_of_timing (active : Bool) (before after : State TQueueState Flood) (timing : after.timing = before.timing) :
    floodOf active after = floodOf active before := by
  have first : after.activeNewConnectionFlood = before.activeNewConnectionFlood :=
    congrArg Timing.activeNewConnectionFlood timing
  have last : after.pendingNewConnectionFlood = before.pendingNewConnectionFlood :=
    congrArg Timing.pendingNewConnectionFlood timing
  simp only [floodOf, first, last]

theorem use_ready_sockets_opened (draws : Draws) (need : Nat) (active : Bool) (sockets attempt : Nat)
    (state : State TQueueState Flood) (sound : Sound env state.core)
    (ready : Armed (connectLimit env draws active state) state ∨ need ≤ state.openCount + sockets) :
    Meets (fun _ => True) (Opened env draws active (fun after => 1 ≤ need → 1 ≤ after.openCount) state)
      (useReadySockets env draws need sockets attempt state) := by
  induction sockets generalizing attempt state with
  | zero =>
      refine ⟨sound, settling_refl _, rfl, rfl, ready.imp_right fun enough wanted => ?_⟩
      omega
  | succ sockets ih =>
      unfold useReadySockets
      split
      · refine meets_bind _ _ _ _ _ (meets_and _ _ _ _
          (create_connection_over_connects env draws attempt { state with readySockets := sockets }
            (unused_connection_id env state sound))
          (create_connection_over_advances env (fun _ => True) True
            (fun _ _ => True) draws attempt { state with readySockets := sockets }
            sound)) ?_
        rintro ⟨made, after⟩ ⟨connects, advanced⟩
        dsimp only
        have settles : Settling state.standing after.standing := connects.settles
        have timing : after.timing = state.timing := connects.timing
        have sameSuccess : after.lastSuccessTime = state.lastSuccessTime := congrArg Timing.lastSuccessTime timing
        have sameQueues : after.queues = state.queues := connects.queues
        cases made with
        | true =>
            rw [if_pos rfl]
            have still : Armed (connectLimit env draws active after) after ∨ need ≤ after.openCount + sockets := by
              rcases ready with armed | enough
              · have sameWakeup : after.wakeupAt = state.wakeupAt := congrArg Timing.wakeupAt timing
                refine .inl ?_
                rw [Armed, connectLimit, sameWakeup, flood_of_timing active state after timing]
                exact armed
              · have counted : after.connections.keys.length = state.connections.keys.length + 1 ∧
                    after.pendingSockets = state.pendingSockets := connects.counted rfl
                refine .inr ?_
                simp only [State.openCount, counted.1, counted.2] at enough ⊢
                omega
            refine meets_weaken _ _ _ _ (fun opened later => ?_) (ih (attempt + 1) after advanced.sound still)
            exact ⟨later.sound, settling_trans _ _ _ settles later.settles, later.lastSuccess.trans sameSuccess,
              later.queues.trans sameQueues, later.outcome⟩
        | false =>
            rw [if_neg Bool.false_ne_true]
            have relaxed := relaxed_opened env draws active (fun _ => False) state after _ advanced.sound settles
              sameSuccess sameQueues (second_positive draws.connectedAt) (le_max_left _ _)
            exact ⟨relaxed.sound, relaxed.settles, relaxed.lastSuccess, relaxed.queues,
              relaxed.outcome.imp id False.elim⟩
      · rename_i enough
        refine ⟨sound, settling_refl _, rfl, rfl, .inr fun wanted => ?_⟩
        change 1 ≤ state.connections.keys.length + state.pendingSockets.length
        omega

theorem need_positive (draws : Draws) (state : State TQueueState Flood) (sound : Sound env state.core)
    (waiting : state.queues ≠ []) : 1 ≤ needConnections env draws state := by
  have loaded : 1 ≤ state.queueUpdates.keys.length := by
    obtain ⟨queue, member⟩ := List.exists_mem_of_ne_nil _ waiting
    have pending := sound.inv.due queue.id (List.mem_map_of_mem member)
    cases found : state.queueUpdates.lookup queue.id with
    | none => exact absurd (value_or_missing [] id _ _ found) pending
    | some eventIds => exact List.length_pos_of_mem (AList.mem_keys.1 (mem_of_lookup _ _ _ found))
  have allowed := env.settings.maxConnectionsPositive
  unfold needConnections
  dsimp only
  split <;> split <;> omega

structure Connected (draws : Draws) (before after : State TQueueState Flood) : Prop where
  sound : Sound env after.core
  settles : Settling before.standing after.standing
  lastSuccess : after.lastSuccessTime = before.lastSuccessTime
  queues : after.queues = before.queues
  outcome : before.queues ≠ [] → before.ipAddress = none ∨ env.settings.isHttps = true ∧ before.sslCtx = false ∨
    Armed (connectLimit env draws (isActive draws before) after) after ∨ 1 ≤ after.openCount

theorem create_new_connections_connected (draws : Draws) (state : State TQueueState Flood) (sound : Sound env state.core) :
    Meets (fun _ => True) (Connected env draws state) (createNewConnections env draws state) := by
  unfold createNewConnections
  split
  · rename_i missing
    exact ⟨sound, settling_refl _, rfl, rfl, fun _ => .inl (Option.isNone_iff_eq_none.1 missing)⟩
  · split
    · rename_i missing
      refine ⟨sound, settling_refl _, rfl, rfl, fun _ => .inr (.inl ?_)⟩
      simpa using missing
    · refine meets_bind _ _ _ _ _ (open_connections_opened env draws _ (isActive draws state) _ 0 state sound
        (Nat.le_add_left _ _)) ?_
      rintro ⟨continues, opened⟩ first
      dsimp only at first ⊢
      cases continues with
      | false =>
          rw [if_neg Bool.false_ne_true]
          refine ⟨first.sound, first.settles, first.lastSuccess, first.queues, fun _ => .inr (.inr (.inl ?_))⟩
          exact first.outcome.resolve_right fun enough => Bool.false_ne_true enough.1
      | true =>
          rw [if_pos rfl]
          refine meets_weaken _ _ _ _ (fun after later => ?_) (use_ready_sockets_opened env draws _
            (isActive draws state) _ _ opened first.sound (first.outcome.imp id fun enough => enough.2))
          refine ⟨later.sound, settling_trans _ _ _ first.settles later.settles,
            later.lastSuccess.trans first.lastSuccess, later.queues.trans first.queues, fun waiting => .inr (.inr ?_)⟩
          exact later.outcome.imp id fun enough => enough (need_positive env draws state sound waiting)

theorem in_flight_iff (state : State TQueueState Flood) :
    state.inFlight = true ↔ ∃ connectionId eventId, eventOf state.connections connectionId = some eventId := by
  rw [State.inFlight, List.any_eq_true]
  constructor
  · rintro ⟨⟨connectionId, connection⟩, member, busy⟩
    obtain ⟨eventId, flying⟩ := Option.isSome_iff_exists.1 busy
    exact ⟨connectionId, eventId, (value_or_found none Connection.eventId _ _ _ (AList.mem_lookup_iff.2 member)).trans flying⟩
  · rintro ⟨connectionId, eventId, flying⟩
    cases found : state.connections.lookup connectionId with
    | none =>
        rw [eventOf, value_or_missing none Connection.eventId _ _ found] at flying
        cases flying
    | some connection =>
        rw [eventOf, value_or_found none Connection.eventId _ _ _ found] at flying
        exact ⟨⟨connectionId, connection⟩, AList.mem_lookup_iff.1 found, by simp [flying]⟩

structure SendKeeps (before after : State TQueueState Flood) : Prop where
  standing : after.standing = before.standing
  lastSuccess : after.lastSuccessTime = before.lastSuccessTime
  flood : ∀ active, floodOf active after = floodOf active before
  sockets : after.pendingSockets = before.pendingSockets
  busy : before.inFlight = true → after.inFlight = true
  armed : ∀ limit, Armed limit before → Armed limit after
  emptied : before.queues = [] → after.queues = []

theorem send_keeps_refl (state : State TQueueState Flood) : SendKeeps state state :=
  ⟨rfl, rfl, fun _ => rfl, rfl, id, fun _ => id, id⟩

theorem send_keeps_trans (first middle last : State TQueueState Flood) (begins : SendKeeps first middle)
    (continues : SendKeeps middle last) : SendKeeps first last where
  standing := continues.standing.trans begins.standing
  lastSuccess := continues.lastSuccess.trans begins.lastSuccess
  flood active := (continues.flood active).trans (begins.flood active)
  sockets := continues.sockets.trans begins.sockets
  busy flying := continues.busy (begins.busy flying)
  armed limit set := continues.armed limit (begins.armed limit set)
  emptied none := continues.emptied (begins.emptied none)

def Served (state : State TQueueState Flood) : Prop :=
  state.queues = [] ∨ state.inFlight = true ∨
    ∃ queue queues, state.queues = queue :: queues ∧ Armed queue.wakeupAt state

structure Sends (before : State TQueueState Flood) (sent : Bool) (after : State TQueueState Flood) : Prop where
  keeps : SendKeeps before after
  written : sent = true → after.inFlight = true
  waits : sent = false → before.readyConnections = [] ∨ Served after

theorem relaxed_send_keeps (wakeupAt : Int) (state : State TQueueState Flood) (real : wakeupAt ≠ 0) :
    SendKeeps state (relaxWakeupAt wakeupAt state) := by
  have armed (limit : Int) (set : Armed limit state) : Armed limit (relaxWakeupAt wakeupAt state) :=
    relax_keeps_armed wakeupAt limit state real set
  unfold relaxWakeupAt at *
  split
  · rename_i sooner
    rw [if_pos sooner] at armed
    exact ⟨rfl, rfl, fun _ => rfl, rfl, id, armed, id⟩
  · exact send_keeps_refl state

theorem send_update_sends (draws : Draws) (attempt : Nat) (state : State TQueueState Flood)
    (header : draws.headerFinishes attempt = true) :
    Meets (fun _ => True) (fun sent => Sends state sent.1 sent.2) (sendUpdate draws attempt state) := by
  unfold sendUpdate
  split
  · rename_i ready
    exact ⟨send_keeps_refl state, fun sent => (by cases sent), fun _ => .inl ready⟩
  · rename_i queues
    exact ⟨send_keeps_refl state, fun sent => (by cases sent), fun _ => .inr (.inl queues)⟩
  · rename_i connectionId readyConnections queue queues ready front
    dsimp only
    split
    · rename_i early
      have real : queue.wakeupAt ≠ 0 := by omega
      have sameQueues := (relax_wakeup_at_frame queue.wakeupAt state).2.1
      have served : Served (relaxWakeupAt queue.wakeupAt state) :=
        .inr (.inr ⟨queue, queues, sameQueues.trans front, relax_armed _ state real⟩)
      exact ⟨relaxed_send_keeps _ state real, fun sent => (by cases sent), fun _ => .inr served⟩
    · refine meets_require _ _ _ _ _ (fun _ => trivial) fun _ => ?_
      split
      · exact trivial
      · exact trivial
      · split
        · exact trivial
        · rename_i update found
          rw [header]
          have busy (generation : Int) : State.inFlight { state with
              readyConnections := readyConnections
              connections := state.connections.insert connectionId ⟨some update.id, generation⟩ } = true := by
            refine (in_flight_iff _).2 ⟨connectionId, update.id, ?_⟩
            rw [eventOf, value_or_insert]
            exact Function.update_self connectionId _ _
          have some (none : state.queues = []) : queues = [] := by
            rw [none] at front
            cases front
          exact ⟨⟨rfl, rfl, fun _ => rfl, rfl, fun _ => busy _, fun _ => id, some⟩, fun _ => busy _,
            fun sent => (by cases sent)⟩

theorem send_updates_from_keeps (draws : Draws) (fuel attempt : Nat) (state : State TQueueState Flood)
    (headers : ∀ attempt, draws.headerFinishes attempt = true) :
    Meets (fun _ => True) (SendKeeps state) (sendUpdatesFrom draws fuel attempt state) := by
  induction fuel generalizing attempt state with
  | zero => exact send_keeps_refl state
  | succ fuel ih =>
      unfold sendUpdatesFrom
      refine meets_bind _ _ _ _ _ (send_update_sends draws attempt state (headers attempt)) ?_
      rintro ⟨sent, after⟩ sends
      dsimp only
      cases sent with
      | true =>
          rw [if_pos rfl]
          exact meets_weaken _ _ _ _ (fun _ => send_keeps_trans _ _ _ sends.keeps) (ih (attempt + 1) after)
      | false => exact sends.keeps

theorem busy_of_not_ready (state : State TQueueState Flood) (sound : Sound env state.core)
    (connected : state.connections.keys ≠ []) (none : state.readyConnections = []) : state.inFlight = true := by
  obtain ⟨connectionId, member⟩ := List.exists_mem_of_ne_nil _ connected
  obtain ⟨⟨eventId, generation⟩, found⟩ := Option.isSome_iff_exists.1 (AList.lookup_isSome.2 (AList.mem_keys.1 member))
  have flying : eventOf state.connections connectionId = eventId := value_or_found Option.none Connection.eventId _ _ _ found
  cases eventId with
  | some eventId => exact (in_flight_iff state).2 ⟨connectionId, eventId, flying⟩
  | none =>
      have ready : connectionId ∈ state.readyConnections := sound.connected.idle connectionId generation found
      rw [none] at ready
      cases ready

theorem send_updates_serves (draws : Draws) (state : State TQueueState Flood) (sound : Sound env state.core)
    (headers : ∀ attempt, draws.headerFinishes attempt = true) :
    Meets (fun _ => True) (fun after => SendKeeps state after ∧ (state.connections.keys ≠ [] → Served after))
      (sendUpdates draws state) := by
  refine meets_bind _ _ _ _ _ (send_update_sends draws 0 state (headers 0)) ?_
  rintro ⟨sent, after⟩ sends
  dsimp only at sends ⊢
  cases sent with
  | true =>
      rw [if_pos rfl]
      refine meets_weaken _ _ _ _ (fun last keeps => ?_) (send_updates_from_keeps draws _ (0 + 1) after headers)
      exact ⟨send_keeps_trans _ _ _ sends.keeps keeps, fun _ => .inr (.inl (keeps.busy (sends.written rfl)))⟩
  | false =>
      refine ⟨sends.keeps, fun connected => ?_⟩
      rcases sends.waits rfl with unready | served
      · exact .inr (.inl (sends.keeps.busy (busy_of_not_ready env state sound connected unready)))
      · exact served

theorem load_update_standing (now unixTimeNow : Int) (state : State TQueueState Flood) (event : TQueueEvent) :
    Meets (fun _ => True) (fun after => after.standing = state.standing) (loadUpdate now unixTimeNow state event) := by
  unfold loadUpdate
  split
  · exact rfl
  · exact meets_require _ _ _ _ _ (fun _ => trivial) fun _ => rfl

theorem tell_success_standing (drained : Bool) (state : State TQueueState Flood) :
    (tellSuccess drained state).standing = state.standing := by
  unfold tellSuccess
  split <;> rfl

theorem fetch_updates_standing (offset : EventId) (unixTimeNow : Int) (limit : Nat) (state : State TQueueState Flood) :
    Meets (fun _ => True) (fun fetched => fetched.2.2.standing = state.standing)
      (fetchUpdates env offset unixTimeNow limit state) := by
  unfold fetchUpdates
  split
  · exact rfl
  · split
    · exact trivial
    · split
      · exact trivial
      · exact rfl

theorem load_updates_standing (draws : Draws) (state : State TQueueState Flood) :
    Meets (fun _ => True) (fun after => after.standing = state.standing) (loadUpdates env draws state) := by
  unfold loadUpdates
  split
  · exact rfl
  · split
    · exact meets_require _ _ _ _ _ (fun _ => trivial) fun _ => rfl
    · dsimp only
      split
      · exact tell_success_standing _ _
      · refine meets_bind _ _ _ _ _ (fetch_updates_standing env _ _ _ _) ?_
        rintro ⟨totalSize, events, fetched⟩ same
        refine meets_bind _ _ _ _ _ (meets_foldlM _ (fun loaded => loaded.standing = state.standing) _ events _ same ?_) ?_
        · intro loaded event _ held
          exact meets_weaken _ _ _ _ (fun _ kept => kept.trans held) (load_update_standing _ _ loaded event)
        · intro loaded held
          exact (tell_success_standing _ loaded).trans held

def AddressDue (resolvedAt : Nat) (standing : Standing) : Prop :=
  standing.stopFlag = true ∨ standing.wasChecked = false ∨ standing.ipAddress.isSome = true ∨
    standing.isIpAddressBeingResolved = true ∨ standing.nextIpAddressResolveTime ≤ resolvedAt

def Addressed (standing : Standing) : Prop :=
  standing.stopFlag = true ∨ standing.ipAddress.isSome = true ∨ standing.isIpAddressBeingResolved = true

theorem settling_addressed (before after : Standing) (settling : Settling before after) (addressed : Addressed before) :
    Addressed after := by
  have sameAddress : after.ipAddress = before.ipAddress := by rw [settling.same]
  have sameResolving : after.isIpAddressBeingResolved = before.isIpAddressBeingResolved := by rw [settling.same]
  rw [Addressed, sameAddress, sameResolving]
  exact addressed.imp_left settling.stops

theorem resolve_ip_address_wakeable (draws : Draws) (state : State TQueueState Flood)
    (wakeable : Wakeable env state.standing) : Wakeable env (resolveIpAddress env draws state).standing := by
  unfold resolveIpAddress
  split
  · exact wakeable
  · split
    · rw [relax_wakeup_at_standing]
      exact wakeable
    · exact ⟨wakeable.fixed, wakeable.ssl, .inr (.inr (.inr (.inl rfl))), wakeable.reported⟩

theorem resolve_ip_address_addressed (draws : Draws) (state : State TQueueState Flood)
    (wakeable : Wakeable env state.standing) (started : state.startedAt ≤ draws.resolvedAt)
    (due : AddressDue draws.resolvedAt state.standing) : Addressed (resolveIpAddress env draws state).standing := by
  unfold resolveIpAddress
  split
  · rename_i skipped
    rcases Bool.or_eq_true_iff.1 skipped with fixed | resolving
    · exact (wakeable.fixed fixed).imp_right .inl
    · exact .inr (.inr resolving)
  · split
    · rename_i early
      rw [relax_wakeup_at_standing]
      have late : ¬ state.nextIpAddressResolveTime ≤ (draws.resolvedAt : Int) := by omega
      have lateAtStart : ¬ state.nextIpAddressResolveTime ≤ (state.startedAt : Int) := by omega
      rcases due with stop | unchecked | present | resolving | onTime
      · exact .inl stop
      · rcases wakeable.address with stop | present | checked | resolving | onTime
        · exact .inl stop
        · exact .inr (.inl present)
        · exact absurd (checked.symm.trans unchecked) (Bool.noConfusion)
        · exact .inr (.inr resolving)
        · exact absurd onTime lateAtStart
      · exact .inr (.inl present)
      · exact .inr (.inr resolving)
      · exact absurd onTime late
    · exact .inr (.inr rfl)

def Idle (state : State TQueueState Flood) : Prop :=
  state.queues = [] ∧ (state.tqueueEmpty = true ∨ env.tqueue.kept state.tqueue = [])

theorem fetch_updates_idle (offset : EventId) (unixTimeNow : Int) (limit : Nat) (state : State TQueueState Flood)
    (empty : env.tqueue.kept state.tqueue = []) :
    Meets (fun _ => True) (fun fetched => fetched.2.1 = [] ∧ fetched.2.2.queues = state.queues)
      (fetchUpdates env offset unixTimeNow limit state) := by
  have nothing (from_ : EventId) (size : Nat) (events : List TQueueEvent) (tqueue : TQueueState)
      (got : env.tqueue.get state.tqueue from_ false unixTimeNow limit = some (size, events, tqueue)) : events = [] := by
    apply List.eq_nil_iff_forall_not_mem.2
    intro event member
    have kept := (env.tqueue.mem_of_get _ _ _ _ _ _ _ _ got event member).1
    have before := (env.tqueue.getKept _ _ _ _ _ _ _ _ got).2.1.subset kept
    rw [empty] at before
    cases before
  unfold fetchUpdates
  split
  · rename_i size events tqueue got
    exact ⟨nothing _ _ _ _ got, rfl⟩
  · split
    · exact trivial
    · split
      · exact trivial
      · rename_i size events tqueue got
        exact ⟨nothing _ _ _ _ got, rfl⟩

theorem tell_success_queues (drained : Bool) (state : State TQueueState Flood) :
    (tellSuccess drained state).queues = state.queues := by
  unfold tellSuccess
  split <;> rfl

theorem load_updates_idle (draws : Draws) (state : State TQueueState Flood) (idle : Idle env state) :
    Meets (fun _ => True) (fun after => after.queues = []) (loadUpdates env draws state) := by
  obtain ⟨queues, unloaded⟩ := idle
  unfold loadUpdates
  split
  · exact queues
  · rename_i open_
    have empty := unloaded.resolve_left open_
    split
    · exact meets_require _ _ _ _ _ (fun _ => trivial) fun _ => queues
    · dsimp only
      split
      · exact (tell_success_queues true _).trans queues
      · refine meets_bind _ _ _ _ _ (fetch_updates_idle env _ _ _ _ empty) ?_
        rintro ⟨totalSize, events, fetched⟩ ⟨nothing, same⟩
        dsimp only at nothing same
        subst nothing
        exact (tell_success_queues _ _).trans (same.trans queues)

def Underway (draws : Draws) (state : State TQueueState Flood) : Prop :=
  state.isIpAddressBeingResolved = true ∨ state.sslContextRunning = true ∨
    Armed (connectLimit env draws (isActive draws state) state) state ∨ 1 ≤ state.openCount

theorem create_new_connections_underway (draws : Draws) (state : State TQueueState Flood) (sound : Sound env state.core)
    (wakeable : Wakeable env state.standing) (addressed : Addressed state.standing ∨ state.queues = []) :
    Meets (fun _ => True) (fun after => Sound env after.core ∧ Settling state.standing after.standing ∧
      (after.stopFlag = true ∨ after.queues = [] ∨ Underway env draws after)) (createNewConnections env draws state) := by
  refine meets_weaken _ _ _ _ (fun after connected => ?_) (create_new_connections_connected env draws state sound)
  refine ⟨connected.sound, connected.settles, ?_⟩
  have sameActive : isActive draws after = isActive draws state := by
    simp only [isActive, connected.lastSuccess]
  have resolving : after.isIpAddressBeingResolved = state.isIpAddressBeingResolved := by
    have same : after.standing.isIpAddressBeingResolved = state.standing.isIpAddressBeingResolved := by
      rw [connected.settles.same]
    exact same
  have running : after.sslContextRunning = state.sslContextRunning := by
    have same : after.standing.sslContextRunning = state.standing.sslContextRunning := by rw [connected.settles.same]
    exact same
  by_cases idle : state.queues = []
  · exact .inr (.inl (connected.queues.trans idle))
  rcases connected.outcome idle with absent | ⟨https, missing⟩ | armed | opened
  · rcases addressed.resolve_right idle with stop | present | resolves
    · exact .inl (connected.settles.stops stop)
    · change state.ipAddress.isSome = true at present
      rw [absent] at present
      cases present
    · exact .inr (.inr (.inl (resolving.trans resolves)))
  · rcases wakeable.ssl https with stop | created | runs
    · exact .inl (connected.settles.stops stop)
    · exact absurd (created.symm.trans missing) (Bool.noConfusion)
    · exact .inr (.inr (.inr (.inl (running.trans runs))))
  · rw [← sameActive] at armed
    exact .inr (.inr (.inr (.inr (.inl armed))))
  · exact .inr (.inr (.inr (.inr (.inr opened))))

theorem send_updates_woken (draws : Draws) (state : State TQueueState Flood) (sound : Sound env state.core)
    (headers : ∀ attempt, draws.headerFinishes attempt = true)
    (underway : state.queues = [] ∨ Underway env draws state) :
    Meets (fun _ => True) (fun after => after.standing = state.standing ∧
      (after.queues ≠ [] → Woken (loopEnd env draws after))) (sendUpdates draws state) := by
  have advances := send_updates_from_advances env (fun _ => True) False (fun _ _ => False) draws
    (state.readyConnections.length + 1) 0
    state (.inr headers) sound
  refine meets_weaken _ _ _ _ (fun after both => ?_)
    (meets_and _ _ _ _ (send_updates_serves env draws state sound headers) advances)
  obtain ⟨⟨keeps, served⟩, advanced⟩ := both
  refine ⟨keeps.standing, fun waiting => ?_⟩
  have sameActive : isActive draws after = isActive draws state := by
    simp only [isActive, keeps.lastSuccess]
  have resolving : after.isIpAddressBeingResolved = state.isIpAddressBeingResolved :=
    congrArg Standing.isIpAddressBeingResolved keeps.standing
  have running : after.sslContextRunning = state.sslContextRunning := congrArg Standing.sslContextRunning keeps.standing
  obtain ⟨queue, queues, front⟩ := List.exists_cons_of_ne_nil waiting
  have first : ∀ other ∈ after.queues, Queue.Before queue other := by
    have ordered : after.queues.Pairwise Queue.Before := advanced.sound.ordered
    rw [front, List.pairwise_cons] at ordered
    intro other member
    rw [front] at member
    rcases List.mem_cons.1 member with rfl | later
    · exact .inr ⟨rfl, le_refl _⟩
    · exact ordered.1 other later
  refine ⟨queue, by rw [loopEnd, front]; exact List.mem_cons_self, first, ?_⟩
  rcases underway with none | resolves | runs | armed | opened
  · exact absurd (keeps.emptied none) waiting
  · exact .inr (.inr (.inl (resolving.trans resolves)))
  · exact .inr (.inr (.inr (.inl (running.trans runs))))
  · have still := keeps.armed _ armed
    rw [connectLimit, ← keeps.flood, ← sameActive] at still
    exact .inr (.inr (.inr (.inr ⟨still.1, le_trans still.2 (le_max_right _ _)⟩)))
  · by_cases pending : state.pendingSockets = []
    · have connected : state.connections.keys ≠ [] := by
        intro none
        simp [State.openCount, none, pending] at opened
      rcases served connected with none | flying | ⟨due, later, same, armed⟩
      · exact absurd none waiting
      · exact .inl flying
      · rw [front, List.cons.injEq] at same
        rw [← same.1] at armed
        exact .inr (.inr (.inr (.inr ⟨armed.1, le_trans armed.2 (le_max_left _ _)⟩)))
    · refine .inr (.inl ?_)
      change after.pendingSockets ≠ []
      rw [keeps.sockets]
      exact pending

theorem unless_stopping_meets (post : State TQueueState Flood → Prop)
    (stage : State TQueueState Flood → Except Check (State TQueueState Flood)) (state : State TQueueState Flood)
    (stops : state.stopFlag = true → post state) (runs : Meets (fun _ => True) post (stage state)) :
    Meets (fun _ => True) post (unlessStopping stage state) := by
  unfold unlessStopping
  split
  · rename_i stop
    exact stops stop
  · exact runs

def Ready (state : State TQueueState Flood) : Prop := Sound env state.core ∧ Wakeable env state.standing

theorem load_updates_ready (draws : Draws) (state : State TQueueState Flood) (ready : Ready env state) :
    Meets (fun _ => True) (fun after => Ready env after ∧ after.standing = state.standing ∧
      (Idle env state → after.queues = [])) (unlessStopping (loadUpdates env draws) state) := by
  refine unless_stopping_meets _ _ _ (fun _ => ⟨ready, rfl, fun idle => idle.1⟩) ?_
  have loads := load_updates_advances env (fun _ => True) False (fun _ _ => False) draws state trivial ready.1
  by_cases idle : Idle env state
  · refine meets_weaken _ _ _ _ (fun after both => ?_) (meets_and _ _ _ _ loads
      (meets_and _ _ _ _ (load_updates_standing env draws state) (load_updates_idle env draws state idle)))
    exact ⟨⟨both.1.sound, both.2.1 ▸ ready.2⟩, both.2.1, fun _ => both.2.2⟩
  · refine meets_weaken _ _ _ _ (fun after both => ?_) (meets_and _ _ _ _ loads (load_updates_standing env draws state))
    exact ⟨⟨both.1.sound, both.2 ▸ ready.2⟩, both.2, fun none => absurd none idle⟩

structure Resolves (draws : Draws) (before after : State TQueueState Flood) : Prop where
  ready : Ready env after
  addressed : AddressDue draws.resolvedAt before.standing → Addressed after.standing
  queues : after.queues = before.queues
  startedAt : after.startedAt = before.startedAt

theorem resolve_ip_address_resolves (draws : Draws) (state : State TQueueState Flood) (ready : Ready env state)
    (started : state.startedAt ≤ draws.resolvedAt) :
    Meets (fun _ => True) (Resolves env draws state)
      (unlessStopping (fun state => .ok (resolveIpAddress env draws state)) state) := by
  refine unless_stopping_meets _ _ state (fun stop => ⟨ready, fun _ => .inl stop, rfl, rfl⟩) ?_
  have wakeable := resolve_ip_address_wakeable env draws state ready.2
  have sameCore := resolve_ip_address_core env draws state
  have sameStart : (resolveIpAddress env draws state).startedAt = state.startedAt := by
    unfold resolveIpAddress relaxWakeupAt
    split
    · rfl
    · split
      · split <;> rfl
      · rfl
  exact ⟨⟨sameCore ▸ ready.1, wakeable⟩, resolve_ip_address_addressed env draws state ready.2 started,
    congrArg Core.queues sameCore, sameStart⟩

theorem loop_ready (draws : Draws) (state : State TQueueState Flood) (ready : Ready env state)
    (headers : ∀ attempt, draws.headerFinishes attempt = true) (started : state.startedAt ≤ draws.resolvedAt)
    (due : AddressDue draws.resolvedAt state.standing ∨ Idle env state) :
    Meets (fun _ => True) (fun after => Ready env after ∧ after.startedAt = state.startedAt ∧
      (AddressDue draws.resolvedAt state.standing → Addressed after.standing)) (loop env draws state) := by
  have advances := loop_advances env (fun _ => True) False (fun _ _ => False) draws state trivial (.inr headers) ready.1
  refine meets_weaken _ _ _ _ (fun after both => ⟨⟨both.2.sound, both.1.1⟩, both.1.2⟩) (meets_and _
    (fun after => Wakeable env after.standing ∧ after.startedAt = state.startedAt ∧
      (AddressDue draws.resolvedAt state.standing → Addressed after.standing)) _ _ ?_ advances)
  refine meets_bind _ _ _ _ _ (load_updates_ready env draws { state with wakeupAt := 0 } ready) ?_
  rintro loaded ⟨readyLoaded, sameStanding, nothing⟩
  have standingLoaded : loaded.standing = state.standing := sameStanding
  have startedLoaded : loaded.startedAt = state.startedAt := congrArg Standing.startedAt standingLoaded
  refine meets_bind _ _ _ _ _ (resolve_ip_address_resolves env draws loaded readyLoaded (startedLoaded ▸ started)) ?_
  intro resolving resolves
  have addressedOnTime (onTime : AddressDue draws.resolvedAt state.standing) : Addressed resolving.standing :=
    resolves.addressed (standingLoaded ▸ onTime)
  have addressed : Addressed resolving.standing ∨ resolving.queues = [] :=
    due.imp addressedOnTime fun idle => resolves.queues.trans (nothing idle)
  refine meets_bind _ (fun connected => Sound env connected.core ∧ Settling resolving.standing connected.standing ∧
    (connected.stopFlag = true ∨ connected.queues = [] ∨ Underway env draws connected)) _ _ _ ?_ ?_
  · exact unless_stopping_meets _ _ resolving (fun stop => ⟨resolves.ready.1, settling_refl _, .inl stop⟩)
      (create_new_connections_underway env draws resolving resolves.ready.1 resolves.ready.2 addressed)
  rintro connected ⟨soundConnected, settles, underway⟩
  refine meets_bind _ (fun sent => sent.standing = connected.standing ∧
    (sent.stopFlag = true ∨ (sent.queues ≠ [] → Woken (loopEnd env draws sent)))) _ _ _ ?_ ?_
  · by_cases stop : connected.stopFlag = true
    · rw [unlessStopping, if_pos stop]
      exact ⟨rfl, .inl stop⟩
    · rw [unlessStopping, if_neg stop]
      exact meets_weaken _ _ _ _ (fun sent woken => ⟨woken.1, .inr woken.2⟩)
        (send_updates_woken env draws connected soundConnected headers (underway.resolve_left stop))
  rintro sent ⟨sameSent, woken⟩
  rw [← sameSent] at settles
  have wakeable := settling_wakeable env _ _ resolves.ready.2 settles
  have addressedSent (onTime : AddressDue draws.resolvedAt state.standing) : Addressed sent.standing :=
    settling_addressed _ _ settles (addressedOnTime onTime)
  have sameStart : sent.standing.startedAt = resolving.standing.startedAt := by rw [settles.same]
  have startedSent : sent.startedAt = state.startedAt := sameStart.trans (resolves.startedAt.trans startedLoaded)
  refine ⟨⟨wakeable.fixed, wakeable.ssl, wakeable.address, ?_⟩, startedSent, addressedSent⟩
  intro ended member running waiting
  change ended ∈ sent.loopEnds ++ [loopEnd env draws sent] at member
  rcases List.mem_append.1 member with old | new
  · exact wakeable.reported ended old running waiting
  · rw [List.mem_singleton.1 new] at running waiting ⊢
    rcases woken with stop | served
    · exact absurd (stop.symm.trans running) (Bool.noConfusion)
    · exact served waiting

end Wakeup

end TelegramBotApi.WebhookActor
