import TelegramBotApi.WebhookOrder

set_option autoImplicit false

namespace TelegramBotApi.WebhookActor

open Checked Tables

section Flights

variable {TQueueState Flood : Type} (env : Environment TQueueState Flood)

def writtenTo (connectionId : ConnectionId) : Action → Option EventId
  | .written eventId other => if other = connectionId then some eventId else none
  | _ => none

def writtenOn (connectionId : ConnectionId) (log : List Action) : List EventId := log.filterMap (writtenTo connectionId)

theorem written_on_append (connectionId : ConnectionId) (first last : List Action) :
    writtenOn connectionId (first ++ last) = writtenOn connectionId first ++ writtenOn connectionId last :=
  List.filterMap_append

-- A connection that was left with an update in flight, or with none, keeps it or
-- gets its next request; nothing is written to a busy one.
def Wrote (left now : Option EventId) (written : List EventId) : Prop :=
  (written = [] ∧ now = left) ∨ (left = none ∧ ∃ eventId, written = [eventId] ∧ now = some eventId)

theorem wrote_trans (left middle now : Option EventId) (first last : List EventId) (begins : Wrote left middle first)
    (continues : Wrote middle now last) : Wrote left now (first ++ last) := by
  rcases begins with ⟨rfl, rfl⟩ | ⟨idle, eventId, rfl, rfl⟩
  · exact continues
  · rcases continues with ⟨rfl, rfl⟩ | ⟨busy, _⟩
    · exact .inr ⟨idle, eventId, rfl, rfl⟩
    · cases busy

structure Writes (left : ConnectionId → Option EventId) (before after : Core TQueueState) : Prop where
  written : ∃ added, after.log = before.log ++ added ∧ ∀ connectionId,
    Wrote (left connectionId) (eventOf after.connections connectionId) (writtenOn connectionId added)
  opened : ∀ connectionId, (after.connections.lookup connectionId).isSome = true →
    (before.connections.lookup connectionId).isSome = true ∨ before.nextConnectionId ≤ connectionId
  next : before.nextConnectionId ≤ after.nextConnectionId
  texts : ∀ eventId update, before.updateMap.lookup eventId = some update →
    (∃ later, after.updateMap.lookup eventId = some later ∧ later.json = update.json) ∨
      ∃ reason, .forgotten eventId reason ∈ after.log

theorem writes_trans (left : ConnectionId → Option EventId) (first middle last : Core TQueueState)
    (begins : Writes left first middle) (continues : Writes (eventOf middle.connections) middle last) :
    Writes left first last := by
  obtain ⟨added, grown, wrote⟩ := begins.written
  obtain ⟨more, grownMore, wroteMore⟩ := continues.written
  refine ⟨⟨added ++ more, by rw [grownMore, grown, List.append_assoc], fun connectionId => ?_⟩, ?_,
    Nat.le_trans begins.next continues.next, ?_⟩
  · rw [written_on_append]
    exact wrote_trans _ _ _ _ _ (wrote connectionId) (wroteMore connectionId)
  · intro connectionId live
    rcases continues.opened connectionId live with known | fresh
    · exact begins.opened connectionId known
    · exact .inr (Nat.le_trans begins.next fresh)
  · intro eventId update found
    rcases begins.texts eventId update found with ⟨later, kept, same⟩ | ⟨reason, forgotten⟩
    · rcases continues.texts eventId later kept with ⟨latest, stays, equal⟩ | gone
      · exact .inl ⟨latest, stays, equal.trans same⟩
      · exact .inr gone
    · exact .inr ⟨reason, by rw [grownMore]; exact List.mem_append_left _ forgotten⟩

theorem writes_refl (core : Core TQueueState) : Writes (eventOf core.connections) core core :=
  ⟨⟨[], (List.append_nil _).symm, fun _ => .inl ⟨rfl, rfl⟩⟩, fun _ => .inl, Nat.le_refl _,
    fun _ update found => .inl ⟨update, found, rfl⟩⟩

structure Quiet (before after : Core TQueueState) : Prop where
  log : ∃ added, after.log = before.log ++ added ∧ ∀ connectionId, writtenOn connectionId added = []
  connections : after.connections = before.connections
  next : after.nextConnectionId = before.nextConnectionId
  texts : ∀ eventId update, before.updateMap.lookup eventId = some update →
    (∃ later, after.updateMap.lookup eventId = some later ∧ later.json = update.json) ∨
      ∃ reason, .forgotten eventId reason ∈ after.log

theorem writes_after_quiet (left : ConnectionId → Option EventId) (first middle last : Core TQueueState)
    (quiet : Quiet first middle) (writes : Writes left middle last) : Writes left first last := by
  obtain ⟨added, grown, silent⟩ := quiet.log
  obtain ⟨more, grownMore, wrote⟩ := writes.written
  refine ⟨⟨added ++ more, by rw [grownMore, grown, List.append_assoc], fun connectionId => ?_⟩, ?_, ?_, ?_⟩
  · rw [written_on_append, silent connectionId]
    exact wrote connectionId
  · intro connectionId live
    have opened := writes.opened connectionId live
    rwa [quiet.connections, quiet.next] at opened
  · exact quiet.next ▸ writes.next
  · intro eventId update found
    rcases quiet.texts eventId update found with ⟨later, kept, same⟩ | ⟨reason, forgotten⟩
    · rcases writes.texts eventId later kept with ⟨latest, stays, equal⟩ | gone
      · exact .inl ⟨latest, stays, equal.trans same⟩
      · exact .inr gone
    · exact .inr ⟨reason, by rw [grownMore]; exact List.mem_append_left _ forgotten⟩

theorem quiet_writes (before after : Core TQueueState) (quiet : Quiet before after) :
    Writes (eventOf before.connections) before after := by
  have writes := writes_refl after
  rw [quiet.connections] at writes
  exact writes_after_quiet _ before after after quiet writes

theorem unlogged_quiet (before after : Core TQueueState) (log : after.log = before.log)
    (connections : after.connections = before.connections) (next : after.nextConnectionId = before.nextConnectionId)
    (texts : ∀ eventId update, before.updateMap.lookup eventId = some update →
      ∃ later, after.updateMap.lookup eventId = some later ∧ later.json = update.json) : Quiet before after :=
  ⟨⟨[], by rw [log, List.append_nil], fun _ => rfl⟩, connections, next,
    fun eventId update found => .inl (texts eventId update found)⟩

theorem tqueue_writes (core : Core TQueueState) (tqueue : TQueueState) (offset : Option EventId) :
    Writes (eventOf core.connections) core { core with tqueue := tqueue, tqueueOffset := offset } :=
  quiet_writes core _ (unlogged_quiet core _ rfl rfl rfl (fun _ update found => ⟨update, found, rfl⟩))

theorem replaced_text (updateMap : AList (fun _ : EventId => Update)) (replaced : EventId) (old new : Update)
    (found : updateMap.lookup replaced = some old) (same : new.json = old.json) (eventId : EventId) (update : Update)
    (present : updateMap.lookup eventId = some update) :
    ∃ later, (updateMap.insert replaced new).lookup eventId = some later ∧ later.json = update.json := by
  rw [lookup_insert]
  split
  · rename_i equal
    subst equal
    cases found.symm.trans present
    exact ⟨new, rfl, same⟩
  · exact ⟨update, present, rfl⟩

theorem load_update_writes (now unixTimeNow : Int) (state : State TQueueState Flood) (event : TQueueEvent) :
    Meets (fun _ => True) (fun after => Writes (eventOf state.connections) state.core after.core)
      (loadUpdate now unixTimeNow state event) := by
  unfold loadUpdate
  split
  · exact writes_refl state.core
  · rename_i missing
    refine meets_require _ _ _ _ _ (fun _ => trivial) fun _ => ?_
    refine ⟨⟨[.loaded event.id _], rfl, fun connectionId => .inl ⟨rfl, rfl⟩⟩, fun _ => .inl, Nat.le_refl _, ?_⟩
    intro eventId update found
    refine .inl ⟨update, ?_, rfl⟩
    change (state.updateMap.insert event.id _).lookup eventId = some update
    rw [lookup_insert, if_neg]
    · exact found
    · intro same
      change state.updateMap.lookup eventId = some update at found
      rw [← same, found] at missing
      exact missing rfl

theorem fetch_updates_keeps (offset : EventId) (unixTimeNow : Int) (limit : Nat) (state : State TQueueState Flood) :
    Meets (fun _ => True) (fun fetched => Writes (eventOf state.connections) state.core fetched.2.2.core)
      (fetchUpdates env offset unixTimeNow limit state) := by
  unfold fetchUpdates
  split
  · exact tqueue_writes state.core _ _
  · split
    · exact trivial
    · split
      · exact trivial
      · exact tqueue_writes state.core _ _

theorem load_updates_writes (draws : Draws) (state : State TQueueState Flood) :
    Meets (fun _ => True) (fun after => Writes (eventOf state.connections) state.core after.core)
      (loadUpdates env draws state) := by
  unfold loadUpdates
  split
  · exact writes_refl state.core
  · split
    · exact meets_require _ _ _ _ _ (fun _ => trivial) fun _ => writes_refl state.core
    · dsimp only
      split
      · rw [meets_ok, tell_success_core]
        exact tqueue_writes state.core _ _
      · rename_i offset _
        refine meets_bind _ _ _ _ _ (fetch_updates_keeps env offset _ _ _) ?_
        rintro ⟨totalSize, events, fetched⟩ kept
        have got : Writes (eventOf state.connections) state.core fetched.core :=
          writes_trans _ _ _ _ (tqueue_writes state.core state.tqueue _) kept
        refine meets_bind _ (fun loaded => Writes (eventOf state.connections) state.core loaded.core) _ _ _ ?_ ?_
        · refine meets_foldlM _ _ _ events _ got fun loaded event _ wrote => ?_
          exact meets_weaken _ _ _ _ (fun _ => writes_trans _ _ _ _ wrote) (load_update_writes _ _ loaded event)
        · intro loaded wrote
          rw [meets_pure, tell_success_core]
          exact wrote

structure Moves (left : ConnectionId → Option EventId) (before after : Core TQueueState) : Prop where
  sound : Sound env after
  writes : Writes left before after

theorem moves_refl (core : Core TQueueState) (sound : Sound env core) : Moves env (eventOf core.connections) core core :=
  ⟨sound, writes_refl core⟩

theorem moves_trans (left : ConnectionId → Option EventId) (first middle last : Core TQueueState)
    (begins : Moves env left first middle) (continues : Moves env (eventOf middle.connections) middle last) :
    Moves env left first last :=
  ⟨continues.sound, writes_trans left first middle last begins.writes continues.writes⟩

theorem moves_bind {α : Type} (left : ConnectionId → Option EventId) (start : Core TQueueState)
    (first : Except Check (State TQueueState Flood)) (next : State TQueueState Flood → Except Check α)
    (core : α → Core TQueueState)
    (begins : Meets (fun _ => True) (fun middle => Moves env left start middle.core) first)
    (continues : ∀ middle, Sound env middle.core →
      Meets (fun _ => True) (fun last => Moves env (eventOf middle.connections) middle.core (core last)) (next middle)) :
    Meets (fun _ => True) (fun last => Moves env left start (core last)) (first >>= next) := by
  refine meets_bind _ _ _ _ _ begins fun middle moved => ?_
  exact meets_weaken _ _ _ _ (fun last => moves_trans env left _ _ _ moved) (continues middle moved.sound)

theorem moves_of_advances {α : Type} (left : ConnectionId → Option EventId) (start : Core TQueueState)
    (computation : Except Check α) (core : α → Core TQueueState) (excuse : EventId → Reason → Prop)
    (advances : Meets (fun _ => True) (fun last => Advances env (fun _ => True) True excuse start (core last)) computation)
    (writes : Meets (fun _ => True) (fun last => Writes left start (core last)) computation) :
    Meets (fun _ => True) (fun last => Moves env left start (core last)) computation :=
  meets_weaken _ _ _ _ (fun _ both => ⟨both.1.sound, both.2⟩) (meets_and _ _ _ _ advances writes)

theorem load_updates_moves (draws : Draws) (state : State TQueueState Flood) (sound : Sound env state.core) :
    Meets (fun _ => True) (fun after => Moves env (eventOf state.connections) state.core after.core)
      (loadUpdates env draws state) :=
  moves_of_advances env _ _ _ State.core (fun _ _ => False) (load_updates_advances env _ True _ draws state trivial sound)
    (load_updates_writes env draws state)

theorem connection_added_writes (state : State TQueueState Flood) (sound : Sound env state.core) :
    Writes (eventOf state.connections) state.core (addConnection state).core := by
  have unused : state.connections.lookup state.nextConnectionId = none := by
    cases found : state.connections.lookup state.nextConnectionId with
    | none => rfl
    | some connection => exact absurd (sound.connected.fresh _ connection found) (Nat.lt_irrefl _)
  have flights : eventOf (state.connections.insert state.nextConnectionId ⟨none, state.ipGeneration⟩) =
      eventOf state.connections := by
    rw [eventOf, value_or_insert]
    exact Function.update_eq_self_iff.2 (value_or_missing none _ _ _ unused).symm
  refine ⟨⟨[], (List.append_nil _).symm, fun connectionId => .inl ⟨rfl, congrFun flights connectionId⟩⟩, ?_,
    Nat.le_succ _, fun eventId update found => .inl ⟨update, found, rfl⟩⟩
  intro connectionId live
  simp only [addConnection, State.core, lookup_insert] at live
  split at live
  · rename_i same
    exact .inr (Nat.le_of_eq same.symm)
  · exact .inl live

theorem create_connection_over_moves (draws : Draws) (attempt : Nat) (state : State TQueueState Flood)
    (sound : Sound env state.core) :
    Meets (fun _ => True) (fun created => Moves env (eventOf state.connections) state.core created.2.core)
      (createConnectionOver env draws attempt state) := by
  have added : Writes (eventOf state.connections) state.core (verifyUnchecked (addConnection state)).core := by
    rw [verify_unchecked_core]
    exact connection_added_writes env state sound
  refine moves_of_advances env _ _ _ (fun created : Bool × State TQueueState Flood => created.2.core) (fun _ _ => False)
    (create_connection_over_advances env _ True _ draws attempt state sound) ?_
  unfold createConnectionOver
  split
  · refine meets_require _ _ _ _ _ (fun _ => trivial) fun _ => ?_
    split
    · exact added
    · refine meets_bind _ _ _ _ _ (create_webhook_error_core _ _ _ state) fun failed same => ?_
      rw [meets_pure, same]
      exact writes_refl state.core
  · exact added

theorem create_connection_moves (draws : Draws) (attempt : Nat) (state : State TQueueState Flood)
    (sound : Sound env state.core) :
    Meets (fun _ => True) (fun created => Moves env (eventOf state.connections) state.core created.2.core)
      (createConnection env draws attempt state) := by
  have failing (message : String) : Meets (fun _ => True)
      (fun created : Bool × State TQueueState Flood => Moves env (eventOf state.connections) state.core created.2.core)
      (do
        let failed ← createWebhookError message "Socket error" false state
        return (false, failed)) := by
    refine meets_bind _ _ _ _ _ (create_webhook_error_core _ _ _ state) fun failed unchanged => ?_
    rw [meets_pure, unchanged]
    exact moves_refl env state.core sound
  unfold createConnection
  refine meets_require _ _ _ _ _ (fun _ => trivial) fun _ => ?_
  split
  · split
    · have checked : (verifyUnchecked state).core = state.core := verify_unchecked_core state
      change Moves env (eventOf state.connections) state.core (verifyUnchecked state).core
      rw [checked]
      exact moves_refl env state.core sound
    · exact failing _
  · split
    · exact create_connection_over_moves env draws attempt state sound
    · exact failing _

theorem open_connections_moves (draws : Draws) (need : Nat) (active : Bool) (fuel attempt : Nat)
    (state : State TQueueState Flood) (sound : Sound env state.core) :
    Meets (fun _ => True) (fun opened => Moves env (eventOf state.connections) state.core opened.2.core)
      (openConnections env draws need active fuel attempt state) := by
  induction fuel generalizing attempt state with
  | zero => exact moves_refl env state.core sound
  | succ fuel ih =>
      unfold openConnections
      split
      · dsimp only
        split
        · rw [meets_ok, relax_wakeup_at_core]
          exact moves_refl env state.core sound
        · have counted := add_flood_event_core env active draws.connectedAt state
          have sameConnections : (addFloodEvent env active draws.connectedAt state).connections = state.connections :=
            congrArg Core.connections counted
          have created := create_connection_moves env draws attempt
            (addFloodEvent env active draws.connectedAt state) (counted ▸ sound)
          rw [counted, sameConnections] at created
          refine meets_bind _ _ _ _ _ created ?_
          rintro ⟨made, after⟩ moved
          cases made with
          | true =>
              rw [if_pos rfl]
              exact meets_weaken _ _ _ _ (fun _ => moves_trans env _ _ _ _ moved) (ih (attempt + 1) after moved.sound)
          | false =>
              rw [if_neg Bool.false_ne_true, meets_pure, relax_wakeup_at_core]
              exact moved
      · exact moves_refl env state.core sound

theorem use_ready_sockets_moves (draws : Draws) (need sockets attempt : Nat) (state : State TQueueState Flood)
    (sound : Sound env state.core) :
    Meets (fun _ => True) (fun after => Moves env (eventOf state.connections) state.core after.core)
      (useReadySockets env draws need sockets attempt state) := by
  induction sockets generalizing attempt state with
  | zero => exact moves_refl env state.core sound
  | succ sockets ih =>
      unfold useReadySockets
      split
      · refine meets_bind _ _ _ _ _ (create_connection_over_moves env draws attempt
          { state with readySockets := sockets } sound) ?_
        rintro ⟨made, after⟩ moved
        dsimp only
        cases made with
        | true =>
            rw [if_pos rfl]
            exact meets_weaken _ _ _ _ (fun _ => moves_trans env _ _ _ _ moved) (ih (attempt + 1) after moved.sound)
        | false =>
            rw [if_neg Bool.false_ne_true]
            change Moves env (eventOf state.connections) state.core (relaxWakeupAt _ after).core
            rw [relax_wakeup_at_core]
            exact moved
      · exact moves_refl env state.core sound

theorem create_new_connections_moves (draws : Draws) (state : State TQueueState Flood) (sound : Sound env state.core) :
    Meets (fun _ => True) (fun after => Moves env (eventOf state.connections) state.core after.core)
      (createNewConnections env draws state) := by
  unfold createNewConnections
  split
  · exact moves_refl env state.core sound
  · split
    · exact moves_refl env state.core sound
    · refine meets_bind _ _ _ _ _ (open_connections_moves env draws _ _ _ 0 state sound) ?_
      rintro ⟨continues, after⟩ moved
      dsimp only
      cases continues with
      | true =>
          rw [if_pos rfl]
          exact meets_weaken _ _ _ _ (fun _ => moves_trans env _ _ _ _ moved)
            (use_ready_sockets_moves env draws _ _ _ after moved.sound)
      | false => exact moved

theorem send_update_moves (draws : Draws) (attempt : Nat) (state : State TQueueState Flood) (sound : Sound env state.core) :
    Meets (fun _ => True) (fun sent => Moves env (eventOf state.connections) state.core sent.2.core)
      (sendUpdate draws attempt state) := by
  refine moves_of_advances env _ _ _ (fun sent : Bool × State TQueueState Flood => sent.2.core) (fun _ _ => False)
    (send_update_advances env _ True _ draws attempt state (.inl trivial) sound) ?_
  unfold sendUpdate
  split
  · exact writes_refl state.core
  · exact writes_refl state.core
  · rename_i connectionId readyConnections queue queues ready _
    dsimp only
    split
    · rw [meets_ok, relax_wakeup_at_core]
      exact writes_refl state.core
    · refine meets_require _ _ _ _ _ (fun _ => trivial) fun _ => ?_
      split
      · exact trivial
      · exact trivial
      · rename_i eventId rest _
        split
        · exact trivial
        · rename_i update found
          have texts := replaced_text state.updateMap eventId update
            { update with lastSendTime := (draws.sentAt attempt : Int) } found rfl
          split
          · exact quiet_writes state.core _ (unlogged_quiet state.core _ rfl rfl rfl texts)
          · obtain ⟨ipGeneration, idle⟩ := sound.connected.ready connectionId (by
              change connectionId ∈ state.readyConnections
              rw [ready]
              exact List.mem_cons_self)
            change state.connections.lookup connectionId = _ at idle
            refine ⟨⟨[.written update.id connectionId], rfl, fun other => ?_⟩, ?_, Nat.le_refl _,
              fun other old present => .inl (texts other old present)⟩
            · change Wrote _ (valueOr none Connection.eventId (state.connections.insert connectionId _) other) _
              rw [value_or_insert, writtenOn, List.filterMap_cons, writtenTo]
              by_cases same : connectionId = other
              · subst same
                rw [if_pos rfl, Function.update_self]
                exact .inr ⟨value_or_found none Connection.eventId _ _ _ idle, update.id, rfl, rfl⟩
              · rw [if_neg same, Function.update_of_ne (Ne.symm same)]
                exact .inl ⟨rfl, rfl⟩
            · intro other live
              simp only [State.core, lookup_insert] at live
              split at live
              · rename_i same
                refine .inl ?_
                change (state.connections.lookup other).isSome = true
                rw [same, idle]
                rfl
              · exact .inl live

theorem send_updates_from_moves (draws : Draws) (fuel attempt : Nat) (state : State TQueueState Flood)
    (sound : Sound env state.core) :
    Meets (fun _ => True) (fun after => Moves env (eventOf state.connections) state.core after.core)
      (sendUpdatesFrom draws fuel attempt state) := by
  induction fuel generalizing attempt state with
  | zero => exact moves_refl env state.core sound
  | succ fuel ih =>
      unfold sendUpdatesFrom
      refine meets_bind _ _ _ _ _ (send_update_moves env draws attempt state sound) ?_
      rintro ⟨sent, after⟩ moved
      dsimp only
      cases sent with
      | true =>
          rw [if_pos rfl]
          exact meets_weaken _ _ _ _ (fun _ => moves_trans env _ _ _ _ moved) (ih (attempt + 1) after moved.sound)
      | false => exact moved

theorem unless_stopping_moves (stage : State TQueueState Flood → Except Check (State TQueueState Flood))
    (state : State TQueueState Flood) (sound : Sound env state.core)
    (moves : Meets (fun _ => True) (fun after => Moves env (eventOf state.connections) state.core after.core) (stage state)) :
    Meets (fun _ => True) (fun after => Moves env (eventOf state.connections) state.core after.core)
      (unlessStopping stage state) := by
  unfold unlessStopping
  split
  · exact moves_refl env state.core sound
  · exact moves

theorem loop_moves (draws : Draws) (state : State TQueueState Flood) (sound : Sound env state.core) :
    Meets (fun _ => True) (fun after => Moves env (eventOf state.connections) state.core after.core)
      (loop env draws state) := by
  unfold loop
  refine moves_bind env _ state.core _ _ State.core ?_ fun loaded sound => ?_
  · exact unless_stopping_moves env _ { state with wakeupAt := 0 } sound (load_updates_moves env draws _ sound)
  refine moves_bind env _ loaded.core _ _ State.core ?_ fun resolving sound => ?_
  · refine unless_stopping_moves env _ loaded sound ?_
    rw [meets_ok, resolve_ip_address_core]
    exact moves_refl env loaded.core sound
  refine moves_bind env _ resolving.core _ _ State.core ?_ fun connected sound => ?_
  · exact unless_stopping_moves env _ resolving sound (create_new_connections_moves env draws resolving sound)
  refine moves_bind env _ connected.core _ _ State.core ?_ fun sent sound => ?_
  · exact unless_stopping_moves env _ connected sound (send_updates_from_moves env draws _ 0 connected sound)
  · exact moves_refl env sent.core sound

theorem drop_event_quiet (eventId : EventId) (reason : Reason) (state : State TQueueState Flood) :
    Meets (fun _ => True) (fun after => Quiet state.core after.core) (dropEvent env eventId reason state) := by
  have dropped (after : Core TQueueState) (log : after.log = state.log ++ [.forgotten eventId reason])
      (connections : after.connections = state.connections) (next : after.nextConnectionId = state.nextConnectionId)
      (updateMap : after.updateMap = state.updateMap.erase eventId) : Quiet state.core after := by
    refine ⟨⟨[.forgotten eventId reason], log, fun connectionId => rfl⟩, connections, next, ?_⟩
    intro other update found
    rw [updateMap, lookup_erase]
    split
    · rename_i same
      refine .inr ⟨reason, ?_⟩
      rw [log, same]
      exact List.mem_append_right _ (List.mem_singleton.2 rfl)
    · exact .inl ⟨update, found, rfl⟩
  unfold dropEvent
  split
  · exact trivial
  · dsimp only
    split
    · exact trivial
    · exact trivial
    · refine meets_require _ _ _ _ _ (fun _ => trivial) fun _ => ?_
      exact dropped _ rfl rfl rfl rfl
    · refine meets_require _ _ _ _ _ (fun _ => trivial) fun _ => ?_
      split
      · exact trivial
      · exact dropped _ rfl rfl rfl rfl

theorem finish_update_quiet (connectionId : ConnectionId) (eventId : Option EventId) (verdict : Verdict) (draws : Draws)
    (state : State TQueueState Flood) :
    Meets (fun _ => True) (fun after => Quiet state.core after.core)
      (finishUpdate env connectionId eventId verdict draws state) := by
  unfold finishUpdate
  split
  · refine meets_require _ _ _ _ _ (fun _ => trivial) fun _ => ?_
    exact drop_event_quiet env _ _
      { state with lastUpdateWasSuccessful := true, lastSuccessTime := (draws.handledAt : Int) }
  · unfold onUpdateError
    split
    · exact trivial
    · rename_i update found
      dsimp only
      split
      · exact drop_event_quiet env _ _ { state with lastUpdateWasSuccessful := false }
      · exact unlogged_quiet state.core _ rfl rfl rfl (replaced_text state.updateMap _ update _ found rfl)
  · refine meets_require _ _ _ _ _ (fun _ => trivial) fun _ => ?_
    exact unlogged_quiet state.core _ rfl rfl rfl (fun _ update found => ⟨update, found, rfl⟩)

def leftBy (core : Core TQueueState) (connectionId : ConnectionId) : ConnectionId → Option EventId :=
  Function.update (eventOf core.connections) connectionId none

theorem release_connection_writes (connectionId : ConnectionId) (connection : Connection) (close : Bool)
    (state : State TQueueState Flood) (found : state.connections.lookup connectionId = some connection) :
    Meets (fun _ => True)
      (fun after => Writes (leftBy state.core connectionId) state.core after.core ∧
        (close = true → after.connections.lookup connectionId = none))
      (releaseConnection connectionId close connection.ipGeneration state) := by
  unfold releaseConnection
  split
  · refine ⟨⟨⟨[], (List.append_nil _).symm, fun other => .inl ⟨rfl, ?_⟩⟩, ?_, Nat.le_refl _,
      fun eventId update present => .inl ⟨update, present, rfl⟩⟩, fun _ => ?_⟩
    · exact congrFun (value_or_erase none Connection.eventId _ _) other
    · intro other live
      simp only [State.core, lookup_erase] at live
      split at live
      · cases live
      · exact .inl live
    · dsimp only
      rw [lookup_erase, if_pos rfl]
  · rename_i open'
    refine meets_require _ _ _ _ _ (fun _ => trivial) fun _ => ?_
    refine ⟨⟨⟨[], (List.append_nil _).symm, fun other => .inl ⟨rfl, ?_⟩⟩, ?_, Nat.le_refl _,
      fun eventId update present => .inl ⟨update, present, rfl⟩⟩, fun closes => absurd closes open'⟩
    · exact congrFun (value_or_insert none Connection.eventId _ _ _) other
    · intro other live
      simp only [State.core, lookup_insert] at live
      split at live
      · rename_i same
        refine .inl ?_
        change (state.connections.lookup other).isSome = true
        rw [same, found]
        rfl
      · exact .inl live

theorem finish_and_release_moves (connectionId : ConnectionId) (connection : Connection) (response : Option Response)
    (verdict : Verdict) (close : Bool) (draws : Draws) (state told : State TQueueState Flood)
    (sound : Sound env state.core) (found : state.connections.lookup connectionId = some connection)
    (sameCore : told.core = state.core)
    (succeeded : verdict.queryError = none → ∃ received, response = some received ∧ received.succeeded = true) :
    Meets (fun _ => True)
      (fun after => Moves env (leftBy state.core connectionId) state.core after.core ∧
        (close = true → after.connections.lookup connectionId = none))
      (finishUpdate env connectionId connection.eventId verdict draws told >>=
        releaseConnection connectionId close connection.ipGeneration) := by
  have wrote := finish_update_quiet env connectionId connection.eventId verdict draws told
  rw [sameCore] at wrote
  have advanced := finish_and_release_advances env
    (fun _ => True) True connectionId connection response verdict close draws state told
    sound found sameCore succeeded
  have writes : Meets (fun _ => True)
      (fun after => Writes (leftBy state.core connectionId) state.core after.core ∧
        (close = true → after.connections.lookup connectionId = none))
      (finishUpdate env connectionId connection.eventId verdict draws told >>=
        releaseConnection connectionId close connection.ipGeneration) := by
    refine meets_bind _ _ _ _ _ wrote fun middle quiet => ?_
    have kept : middle.connections = state.connections := quiet.connections
    have released := release_connection_writes connectionId connection close middle (kept ▸ found)
    have sameLeft : leftBy middle.core connectionId = leftBy state.core connectionId :=
      congrArg (fun connections => Function.update (eventOf connections) connectionId none) kept
    rw [sameLeft] at released
    exact meets_weaken _ _ _ _ (fun after closes => ⟨writes_after_quiet _ _ _ _ quiet closes.1, closes.2⟩) released
  exact meets_weaken _ _ _ _ (fun after both => ⟨⟨both.1.sound, both.2.1⟩, both.2.2⟩) (meets_and _ _ _ _ advanced writes)

theorem handle_moves (connectionId : ConnectionId) (connection : Connection) (response : Option Response) (draws : Draws)
    (state : State TQueueState Flood) (sound : Sound env state.core)
    (found : state.connections.lookup connectionId = some connection) :
    Meets (fun _ => True)
      (fun after => Moves env (leftBy state.core connectionId) state.core after.core ∧
        (response = none → after.connections.lookup connectionId = none))
      (handle env connectionId response draws state) := by
  have sameCore := read_verdict_core response connection.ipGeneration draws state
  have succeeded := read_verdict_succeeded response connection.ipGeneration draws state
  have hungUp : response = none → (readVerdict response connection.ipGeneration draws state).1.closeConnection = true := by
    rintro rfl
    rfl
  unfold handle
  rw [found]
  dsimp only
  generalize readVerdict response connection.ipGeneration draws state = outcome at sameCore succeeded hungUp
  obtain ⟨verdict, told⟩ := outcome
  dsimp only at sameCore succeeded hungUp ⊢
  rw [← bind_assoc]
  refine meets_bind _ _ _ _ _ (finish_and_release_moves env connectionId connection response verdict _ draws state told
    sound found sameCore succeeded) fun released moved => ?_
  have closed (gone : response = none) : released.connections.lookup connectionId = none :=
    moved.2 (by rw [hungUp gone, Bool.or_true])
  split
  · exact ⟨moved.1, closed⟩
  · refine meets_weaken _ _ _ _ (fun after looped => ?_) (loop_moves env draws released moved.1.sound)
    refine ⟨moves_trans env _ _ _ _ moved.1 looped, fun gone => ?_⟩
    by_contra open'
    rcases looped.writes.opened connectionId (Option.ne_none_iff_isSome.1 open') with old | new
    · have absent : released.core.connections.lookup connectionId = none := closed gone
      rw [absent] at old
      cases old
    · have old := sound.connected.fresh connectionId connection found
      exact Nat.lt_irrefl _ (Nat.lt_of_lt_of_le old (Nat.le_trans moved.1.writes.next new))

theorem loop_moves_from (draws : Draws) (core : Core TQueueState) (state : State TQueueState Flood) (sound : Sound env core)
    (same : state.core = core) :
    Meets (fun _ => True) (fun after => Moves env (eventOf core.connections) core after.core) (loop env draws state) := by
  subst same
  exact loop_moves env draws state sound

theorem on_resolved_ip_address_moves (result : Except String (Option IpAddress)) (draws : Draws)
    (state : State TQueueState Flood) (sound : Sound env state.core) :
    Meets (fun _ => True) (fun after => Moves env (eventOf state.connections) state.core after.core)
      (onResolvedIpAddress env result draws state) := by
  unfold onResolvedIpAddress
  refine meets_require _ _ _ _ _ (fun _ => trivial) fun _ => ?_
  dsimp only
  split
  · refine meets_bind _ _ _ _ _ (on_error_core _ _) fun failed same => ?_
    exact loop_moves_from env draws state.core failed sound (same.trans (relax_wakeup_at_core _ _))
  · split
    · exact loop_moves_from env draws state.core _ sound (relax_wakeup_at_core _ _)
    · split
      · exact loop_moves_from env draws state.core _ sound (relax_wakeup_at_core _ _)
      · exact loop_moves_from env draws state.core _ sound (relax_wakeup_at_core _ _)

theorem on_ssl_context_created_moves (created : Bool) (draws : Draws) (state : State TQueueState Flood)
    (sound : Sound env state.core) :
    Meets (fun _ => True) (fun after => Moves env (eventOf state.connections) state.core after.core)
      (onSslContextCreated env created draws state) := by
  unfold onSslContextCreated
  dsimp only
  split
  · exact loop_moves_from env draws state.core _ sound rfl
  · refine meets_bind _ _ _ _ _ (create_webhook_error_core _ _ _ _) fun failed same => ?_
    exact loop_moves_from env draws state.core failed sound same

theorem on_socket_ready_async_moves (id : Nat) (opened : Bool) (draws : Draws) (state : State TQueueState Flood)
    (sound : Sound env state.core) :
    Meets (fun _ => True) (fun after => Moves env (eventOf state.connections) state.core after.core)
      (onSocketReadyAsync env id opened draws state) := by
  unfold onSocketReadyAsync
  dsimp only
  split
  · exact loop_moves_from env draws state.core _ sound rfl
  · refine meets_bind _ _ _ _ _ (on_error_core _ _) fun failed same => ?_
    rw [on_webhook_error_core] at same
    exact loop_moves_from env draws state.core failed sound same

theorem left_by_missing (core : Core TQueueState) (connectionId : ConnectionId)
    (missing : core.connections.lookup connectionId = none) : leftBy core connectionId = eventOf core.connections :=
  Function.update_eq_self_iff.2 (value_or_missing none Connection.eventId _ _ missing).symm

theorem handle_missing (connectionId : ConnectionId) (response : Option Response) (draws : Draws)
    (state : State TQueueState Flood) (missing : state.connections.lookup connectionId = none) :
    handle env connectionId response draws state = .ok state := by
  unfold handle
  rw [missing]

-- The flights an event starts from: a response, or the end of the connection,
-- takes the update off its connection.
def leftAt (state : State TQueueState Flood) : Event TQueueState → ConnectionId → Option EventId
  | .response connectionId _ _ => leftBy state.core connectionId
  | .hangupShared connectionId _ _ => leftBy state.core connectionId
  | _ => eventOf state.connections

def Ended (state after : State TQueueState Flood) : Event TQueueState → Prop
  | .hangupShared connectionId _ _ =>
      (state.connections.lookup connectionId).isSome = true → after.connections.lookup connectionId = none
  | _ => True

theorem hangup_shared_moves (connectionId : ConnectionId) (draws later : Draws) (state : State TQueueState Flood)
    (sound : Sound env state.core) :
    Meets (fun _ => True)
      (fun after => Moves env (leftBy state.core connectionId) state.core after.core ∧
        ((state.connections.lookup connectionId).isSome = true → after.connections.lookup connectionId = none))
      (hangupShared env connectionId draws later state) := by
  have handled : Meets (fun _ => True)
      (fun after => Moves env (leftBy state.core connectionId) state.core after.core ∧
        ((state.connections.lookup connectionId).isSome = true →
          after.connections.lookup connectionId = none ∧ connectionId < after.nextConnectionId))
      (handle env connectionId none draws state) := by
    cases found : state.connections.lookup connectionId with
    | none =>
        rw [handle_missing env connectionId none draws state found, left_by_missing state.core connectionId found]
        exact ⟨moves_refl env state.core sound, fun live => Bool.noConfusion live⟩
    | some connection =>
        refine meets_weaken _ _ _ _ (fun after moved => ⟨moved.1, fun _ => ⟨moved.2 rfl, ?_⟩⟩)
          (handle_moves env connectionId connection none draws state sound found)
        exact Nat.lt_of_lt_of_le (sound.connected.fresh connectionId connection found) moved.1.writes.next
  refine meets_bind _ _ _ _ _ handled fun middle moved => ?_
  split
  · exact ⟨moved.1, fun live => (moved.2 live).1⟩
  · refine meets_weaken _ _ _ _ (fun after looped => ?_) (loop_moves env later middle moved.1.sound)
    refine ⟨moves_trans env _ _ _ _ moved.1 looped, fun live => ?_⟩
    obtain ⟨gone, below⟩ := moved.2 live
    by_contra back
    rcases looped.writes.opened connectionId (Option.ne_none_iff_isSome.1 back) with old | new
    · have absent : middle.core.connections.lookup connectionId = none := gone
      rw [absent] at old
      cases old
    · exact Nat.lt_irrefl _ (Nat.lt_of_lt_of_le below new)

theorem step_moves (state : State TQueueState Flood) (event : Event TQueueState) (enables : enabled env state event)
    (sound : Sound env state.core) :
    Meets (fun _ => True) (fun after => Moves env (leftAt state event) state.core after.core ∧ Ended state after event)
      (step env state event) := by
  have plain {computation : Except Check (State TQueueState Flood)} (left : ConnectionId → Option EventId)
      (moves : Meets (fun _ => True) (fun after => Moves env left state.core after.core) computation) :
      Meets (fun _ => True) (fun after => Moves env left state.core after.core ∧ True) computation :=
    meets_weaken _ _ _ _ (fun _ moved => ⟨moved, trivial⟩) moves
  cases event with
  | tqueueChanged tqueue =>
      have changed := tqueue_changed_sound env state.core tqueue sound enables.2.2
      exact ⟨⟨changed, tqueue_writes state.core tqueue state.tqueueOffset⟩, trivial⟩
  | update draws => exact plain _ (loop_moves_from env draws state.core _ sound rfl)
  | wakeup draws => exact plain _ (loop_moves env draws state sound)
  | resolvedIpAddress result draws => exact plain _ (on_resolved_ip_address_moves env result draws state sound)
  | sslContextCreated created draws => exact plain _ (on_ssl_context_created_moves env created draws state sound)
  | socketReady id opened draws => exact plain _ (on_socket_ready_async_moves env id opened draws state sound)
  | response connectionId response draws =>
      refine plain (leftBy state.core connectionId) ?_
      cases found : state.connections.lookup connectionId with
      | none =>
          rw [left_by_missing state.core connectionId found, step, handle_missing env connectionId _ draws state found]
          exact moves_refl env state.core sound
      | some connection =>
          exact meets_weaken _ _ _ _ (fun _ => And.left)
            (handle_moves env connectionId connection (some response) draws state sound found)
  | hangupShared connectionId draws later => exact hangup_shared_moves env connectionId draws later state sound
  | hangup => exact ⟨moves_refl env state.core sound, trivial⟩
  | close => exact ⟨moves_refl env state.core sound, trivial⟩

end Flights

end TelegramBotApi.WebhookActor
