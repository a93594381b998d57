import TelegramBotApi.WebhookDelivery

set_option autoImplicit false

namespace TelegramBotApi.WebhookActor

open Checked Tables

section Handle

variable {TQueueState Flood : Type} (env : Environment TQueueState Flood) (clock : Int → Prop) (lossy : Prop)
  (excuse : EventId → Reason → Prop)

structure Releases (core : Core TQueueState) (connectionId : ConnectionId)
    (connections : AList (fun _ : ConnectionId => Connection)) (readyConnections : List ConnectionId) : Prop where
  connected : ConnectionsSound connections readyConnections core.nextConnectionId
  flights : eventOf connections = Function.update (eventOf core.connections) connectionId none

def Core.release (core : Core TQueueState) (connections : AList (fun _ : ConnectionId => Connection))
    (readyConnections : List ConnectionId) : Core TQueueState :=
  { core with connections := connections, readyConnections := readyConnections }

theorem closed_releases (core : Core TQueueState) (connectionId : ConnectionId) (sound : Sound env core) :
    Releases core connectionId (core.connections.erase connectionId)
      (core.readyConnections.filter (· ≠ connectionId)) := by
  refine ⟨⟨?_, ?_, sound.connected.readyOnce.filter _, ?_⟩, value_or_erase none Connection.eventId _ _⟩
  · intro other member
    obtain ⟨old, different⟩ := List.mem_filter.1 member
    rw [lookup_erase, if_neg (of_decide_eq_true different)]
    exact sound.connected.ready other old
  · intro other ipGeneration found
    rw [lookup_erase] at found
    split at found
    · cases found
    · rename_i different
      exact List.mem_filter.2 ⟨sound.connected.idle other ipGeneration found, decide_eq_true different⟩
  · intro other connection found
    rw [lookup_erase] at found
    split at found
    · cases found
    · exact sound.connected.fresh other connection found

theorem kept_releases (core : Core TQueueState) (connectionId : ConnectionId) (connection : Connection)
    (ipGeneration : Int) (sound : Sound env core) (found : core.connections.lookup connectionId = some connection)
    (busy : connectionId ∉ core.readyConnections) :
    Releases core connectionId (core.connections.insert connectionId ⟨none, ipGeneration⟩)
      (core.readyConnections ++ [connectionId]) := by
  refine ⟨⟨?_, ?_, ?_, ?_⟩, value_or_insert none Connection.eventId _ _ _⟩
  · intro other member
    rw [lookup_insert]
    by_cases same : other = connectionId
    · exact ⟨ipGeneration, if_pos same⟩
    · rw [if_neg same]
      refine sound.connected.ready other ((List.mem_append.1 member).resolve_right fun added => ?_)
      exact same (List.mem_singleton.1 added)
  · intro other generation idle
    rw [lookup_insert] at idle
    split at idle
    · rename_i same
      exact List.mem_append_right _ (List.mem_singleton.2 same)
    · exact List.mem_append_left _ (sound.connected.idle other generation idle)
  · refine List.nodup_append.2 ⟨sound.connected.readyOnce, List.nodup_singleton _, ?_⟩
    rintro old member new added rfl
    rw [List.mem_singleton.1 added] at member
    exact busy member
  · intro other later present
    rw [lookup_insert] at present
    split at present
    · rename_i same
      exact same ▸ sound.connected.fresh connectionId connection found
    · exact sound.connected.fresh other later present

theorem flying_front (core : Core TQueueState) (connectionId : ConnectionId) (eventId : EventId) (update : Update)
    (sound : Sound env core) (flying : eventOf core.connections connectionId = some eventId)
    (found : core.updateMap.lookup eventId = some update) :
    ∃ rest, pendingOf core.queueUpdates update.queueId = eventId :: rest ∧
      update.queueId ∉ core.queues.map Queue.id := by
  obtain ⟨queueId, rest, front, unscheduled⟩ := sound.inv.flying connectionId eventId flying
  have member := (sound.stored eventId update found).2
  have same : queueId = update.queueId := KeyedDelivery.same_key (delivery core) sound.inv queueId update.queueId
    eventId (by rw [front]; exact List.mem_cons_self) member
  exact ⟨rest, same ▸ front, same ▸ unscheduled⟩

theorem idle_advances (core : Core TQueueState) (connectionId : ConnectionId)
    (connections : AList (fun _ : ConnectionId => Connection)) (readyConnections : List ConnectionId)
    (sound : Sound env core) (idle : eventOf core.connections connectionId = none)
    (releases : Releases core connectionId connections readyConnections) :
    Advances env clock lossy excuse core (core.release connections readyConnections) := by
  have same : delivery (core.release connections readyConnections) = delivery core := by
    simp only [delivery, Core.release, KeyedDelivery.State.mk.injEq, true_and, and_true]
    rw [releases.flights]
    exact Function.update_eq_self_iff.2 idle.symm
  exact ⟨⟨⟨sound.nonempty, sound.stored, sound.listed, sound.once, sound.ordered, sound.above, sound.offset, sound.tail⟩,
    same ▸ sound.inv, releases.connected⟩, same ▸ .refl, unlogged_forgets env clock _ _ rfl rfl⟩

theorem retried_advances (core : Core TQueueState) (connectionId : ConnectionId) (eventId : EventId) (old new : Update)
    (wakeupAt : Int) (connections : AList (fun _ : ConnectionId => Connection)) (readyConnections : List ConnectionId)
    (sound : Sound env core) (flying : eventOf core.connections connectionId = some eventId)
    (found : core.updateMap.lookup eventId = some old) (sameId : new.id = old.id) (sameQueue : new.queueId = old.queueId)
    (releases : Releases core connectionId connections readyConnections) :
    Advances env clock lossy excuse core (Core.release { core with
      updateMap := core.updateMap.insert eventId new
      queues := emplace ⟨wakeupAt, old.queueId⟩ core.queues } connections readyConnections) := by
  obtain ⟨rest, front, unscheduled⟩ := flying_front env core connectionId eventId old sound flying found
  have touched := (touched_advances env clock lossy excuse core eventId old new sound found sameId sameQueue).sound
  have step : KeyedDelivery.Step lossy excuse (delivery core) (delivery (Core.release { core with
      updateMap := core.updateMap.insert eventId new
      queues := emplace ⟨wakeupAt, old.queueId⟩ core.queues } connections readyConnections)) := by
    have same : delivery (Core.release { core with
        updateMap := core.updateMap.insert eventId new
        queues := emplace ⟨wakeupAt, old.queueId⟩ core.queues } connections readyConnections) =
        KeyedDelivery.retry connectionId old.queueId (delivery core) := by
      simp only [delivery, Core.release, KeyedDelivery.retry, KeyedDelivery.State.mk.injEq, true_and, and_true]
      refine ⟨?_, releases.flights⟩
      ext other
      exact mem_ids_emplace _ _ other
    rw [same]
    exact .retry (delivery core) connectionId old.queueId eventId rest flying front
  exact ⟨⟨⟨touched.nonempty, touched.stored, touched.listed, emplace_once _ _ sound.once unscheduled,
    emplace_ordered _ _ sound.ordered, touched.above, touched.offset, touched.tail⟩,
    KeyedDelivery.step_inv lossy excuse _ _ step sound.inv, releases.connected⟩, .single step,
    unlogged_forgets env clock _ _ rfl rfl⟩

structure Drops (core : Core TQueueState) (queueId : QueueId) (rest : List EventId)
    (queueUpdates : AList (fun _ : QueueId => List EventId)) (queues : List Queue) : Prop where
  pending : pendingOf queueUpdates = Function.update (pendingOf core.queueUpdates) queueId rest
  nonempty : ∀ other, queueUpdates.lookup other ≠ some []
  scheduled : ∀ other, other ∈ queues.map Queue.id ↔ other ∈ core.queues.map Queue.id ∨ other = queueId ∧ rest ≠ []
  once : (queues.map Queue.id).Nodup
  ordered : queues.Pairwise Queue.Before

def Core.drop (core : Core TQueueState) (eventId : EventId) (reason : Reason)
    (queueUpdates : AList (fun _ : QueueId => List EventId)) (queues : List Queue) : Core TQueueState :=
  { core with
    updateMap := core.updateMap.erase eventId
    queueUpdates := queueUpdates
    queues := queues
    tqueue := env.tqueue.forget core.tqueue eventId
    log := core.log ++ [.forgotten eventId reason] }

theorem dropped_updates_sound (core : Core TQueueState) (eventId : EventId) (queueId : QueueId) (reason : Reason)
    (rest : List EventId) (queueUpdates : AList (fun _ : QueueId => List EventId)) (queues : List Queue)
    (sound : Sound env core) (front : pendingOf core.queueUpdates queueId = eventId :: rest)
    (drops : Drops core queueId rest queueUpdates queues) :
    UpdatesSound env (core.drop env eventId reason queueUpdates queues) := by
  have sorted := sound.inv.sorted queueId
  change (pendingOf core.queueUpdates queueId).Pairwise (· < ·) at sorted
  rw [front, List.pairwise_cons] at sorted
  have here : eventId ∈ pendingOf core.queueUpdates queueId := by
    rw [front]
    exact List.mem_cons_self
  have stillMissing (event : TQueueEvent) (kept : event ∈ env.tqueue.kept (env.tqueue.forget core.tqueue eventId))
      (missing : (core.updateMap.erase eventId).lookup event.id = none) :
      event ∈ env.tqueue.kept core.tqueue ∧ core.updateMap.lookup event.id = none := by
    rw [env.tqueue.forgetKept] at kept
    obtain ⟨old, different⟩ := List.mem_filter.1 kept
    rw [lookup_erase, if_neg (of_decide_eq_true different)] at missing
    exact ⟨old, missing⟩
  refine ⟨drops.nonempty, ?_, ?_, drops.once, drops.ordered, ?_, ?_, ?_⟩
  · intro id update found
    simp only [Core.drop, lookup_erase] at found ⊢
    split at found
    · cases found
    · rename_i different
      have old := sound.stored id update found
      refine ⟨old.1, ?_⟩
      rw [drops.pending]
      by_cases same : update.queueId = queueId
      · rw [same, front] at old
        rw [same, Function.update_self]
        exact (List.mem_cons.1 old.2).resolve_left different
      · rw [Function.update_of_ne same]
        exact old.2
  · intro other id member
    simp only [Core.drop, lookup_erase] at member ⊢
    rw [drops.pending] at member
    have old : id ∈ pendingOf core.queueUpdates other ∧ id ≠ eventId := by
      by_cases same : other = queueId
      · subst same
        rw [Function.update_self] at member
        refine ⟨by rw [front]; exact List.mem_cons_of_mem _ member, ?_⟩
        rintro rfl
        exact Nat.lt_irrefl _ (sorted.1 id member)
      · rw [Function.update_of_ne same] at member
        refine ⟨member, ?_⟩
        rintro rfl
        exact same (KeyedDelivery.same_key (delivery core) sound.inv other queueId id member here)
    rw [if_neg old.2]
    exact sound.listed other id old.1
  · intro event kept missing id owner loaded
    have old := stillMissing event kept missing
    exact sound.above event old.1 old.2 id owner (by simpa [Core.drop] using loaded)
  · intro offset set
    have old := sound.offset offset set
    refine ⟨?_, fun event kept missing => ?_⟩
    · simp only [Core.drop, env.tqueue.forgetTail]
      exact old.1
    · have still := stillMissing event kept missing
      exact old.2 event still.1 still.2
  · intro id owner loaded
    simp only [Core.drop, env.tqueue.forgetTail]
    exact sound.tail id owner (by simpa [Core.drop] using loaded)

theorem dropped_advances (core : Core TQueueState) (connectionId : ConnectionId) (eventId : EventId) (queueId : QueueId)
    (reason : Reason) (rest : List EventId) (queueUpdates : AList (fun _ : QueueId => List EventId))
    (queues : List Queue) (connections : AList (fun _ : ConnectionId => Connection))
    (readyConnections : List ConnectionId) (sound : Sound env core)
    (flying : eventOf core.connections connectionId = some eventId)
    (front : pendingOf core.queueUpdates queueId = eventId :: rest)
    (drops : Drops core queueId rest queueUpdates queues) (excused : excuse eventId reason)
    (releases : Releases core connectionId connections readyConnections) :
    Advances env clock lossy excuse core
      ((core.drop env eventId reason queueUpdates queues).release connections readyConnections) := by
  have step : KeyedDelivery.Step lossy excuse (delivery core)
      (delivery ((core.drop env eventId reason queueUpdates queues).release connections readyConnections)) := by
    have same : delivery ((core.drop env eventId reason queueUpdates queues).release connections readyConnections) =
        KeyedDelivery.finish connectionId queueId eventId rest reason (delivery core) := by
      simp only [delivery, Core.release, Core.drop, KeyedDelivery.finish, KeyedDelivery.State.mk.injEq, and_true]
      refine ⟨drops.pending, ?_, releases.flights⟩
      ext other
      exact drops.scheduled other
    rw [same]
    exact .finish (delivery core) connectionId queueId eventId rest reason flying front excused
  have updates := dropped_updates_sound env core eventId queueId reason rest queueUpdates queues sound front drops
  exact ⟨⟨⟨updates.nonempty, updates.stored, updates.listed, updates.once, updates.ordered, updates.above,
    updates.offset, updates.tail⟩, KeyedDelivery.step_inv lossy excuse _ _ step sound.inv, releases.connected⟩,
    .single step, [.forgotten eventId reason], rfl, .forget _ [] _ eventId (.refl core.tqueue)⟩

-- The connections are released only after the update was dealt with, so the
-- stages before that are described up to the release still to come.
structure Settles (connectionId : ConnectionId) (before after : Core TQueueState) : Prop where
  sameConnections : after.connections = before.connections
  sameReady : after.readyConnections = before.readyConnections
  sameNext : after.nextConnectionId = before.nextConnectionId
  released : ∀ connections readyConnections, Releases before connectionId connections readyConnections →
    Advances env clock lossy excuse before (after.release connections readyConnections)

theorem drop_event_settles (connectionId : ConnectionId) (eventId : EventId) (reason : Reason)
    (state : State TQueueState Flood) (sound : Sound env state.core)
    (flying : eventOf state.connections connectionId = some eventId) (excused : excuse eventId reason) :
    Meets (fun _ => True) (fun after => Settles env clock lossy excuse connectionId state.core after.core)
      (dropEvent env eventId reason state) := by
  unfold dropEvent
  split
  · exact trivial
  · rename_i update found
    obtain ⟨rest, front, unscheduled⟩ := flying_front env state.core connectionId eventId update sound flying found
    have settles (queueUpdates : AList (fun _ : QueueId => List EventId)) (queues : List Queue)
        (drops : Drops state.core update.queueId rest queueUpdates queues) :
        Settles env clock lossy excuse connectionId state.core (state.core.drop env eventId reason queueUpdates queues) :=
      ⟨rfl, rfl, rfl, fun connections readyConnections releases => dropped_advances env clock lossy excuse state.core
        connectionId eventId update.queueId reason rest queueUpdates queues connections readyConnections sound flying front
        drops excused releases⟩
    dsimp only
    split
    · exact trivial
    · exact trivial
    · rename_i first listed
      refine meets_require _ _ _ _ _ (fun _ => trivial) fun _ => ?_
      have only := pending_of_found state.queueUpdates update.queueId _ listed
      have emptied : rest = [] := by
        have same := front.symm.trans only
        exact (List.cons.injEq _ _ _ _ ▸ same).2
      subst emptied
      refine settles (state.queueUpdates.erase update.queueId) state.queues ⟨?_, ?_, ?_, sound.once, sound.ordered⟩
      · exact value_or_erase [] id state.queueUpdates update.queueId
      · intro other
        rw [lookup_erase]
        split
        · simp
        · exact sound.nonempty other
      · simp [State.core]
    · rename_i first next more listed
      refine meets_require _ _ _ _ _ (fun _ => trivial) fun _ => ?_
      have queued := pending_of_found state.queueUpdates update.queueId _ listed
      have remains : rest = next :: more := by
        have same := front.symm.trans queued
        exact (List.cons.injEq _ _ _ _ ▸ same).2
      subst remains
      split
      · exact trivial
      · rename_i later foundLater
        -- the next event belongs to the same queue
        have owner : later.queueId = update.queueId := by
          obtain ⟨stored, foundStored, same⟩ := sound.listed update.queueId next
            (by rw [State.core, queued]; exact List.mem_cons_of_mem _ List.mem_cons_self)
          rw [lookup_erase] at foundLater
          split at foundLater
          · cases foundLater
          · have agree := foundStored.symm.trans foundLater
            cases agree
            exact same
        refine settles _ _ ⟨?_, ?_, ?_, ?_, emplace_ordered _ _ sound.ordered⟩
        · exact value_or_insert [] id state.queueUpdates update.queueId _
        · intro other
          rw [lookup_insert]
          split
          · simp
          · exact sound.nonempty other
        · intro other
          rw [mem_ids_emplace, owner]
          simp [State.core]
        · refine emplace_once _ _ sound.once ?_
          rw [owner]
          exact unscheduled

theorem on_update_ok_settles (connectionId : ConnectionId) (eventId : EventId) (draws : Draws)
    (state : State TQueueState Flood) (sound : Sound env state.core)
    (flying : eventOf state.connections connectionId = some eventId)
    (excused : excuse eventId (.responded connectionId)) :
    Meets (fun _ => True) (fun after => Settles env clock lossy excuse connectionId state.core after.core)
      (onUpdateOk env eventId connectionId draws state) := by
  unfold onUpdateOk
  refine meets_require _ _ _ _ _ (fun _ => trivial) fun _ => ?_
  exact drop_event_settles env clock lossy excuse connectionId eventId (.responded connectionId)
    { state with lastUpdateWasSuccessful := true, lastSuccessTime := draws.handledAt } sound flying excused

def Expired (before : Core TQueueState) (draws : Draws) (retryAfter : Int) (eventId : EventId)
    (unixTime delay : Int) : Prop :=
  ∃ update, before.updateMap.lookup eventId = some update ∧ update.expiresAt < Words.addInt32 unixTime delay ∧
    unixTime = getUnixTime env.settings.unixTimeDifference draws.handledAt ∧
    delay = (nextDelays update retryAfter draws.resendTimeout).2

theorem on_update_error_settles (connectionId : ConnectionId) (eventId : EventId) (retryAfter : Int) (draws : Draws)
    (state : State TQueueState Flood) (sound : Sound env state.core)
    (flying : eventOf state.connections connectionId = some eventId)
    (excused : ∀ unixTime delay, Expired env state.core draws retryAfter eventId unixTime delay →
      excuse eventId (.expired unixTime delay)) :
    Meets (fun _ => True) (fun after => Settles env clock lossy excuse connectionId state.core after.core)
      (onUpdateError env eventId retryAfter draws state) := by
  unfold onUpdateError
  split
  · exact trivial
  · rename_i update found
    dsimp only
    split
    · rename_i expired
      exact drop_event_settles env clock lossy excuse connectionId eventId _ { state with lastUpdateWasSuccessful := false } sound
        flying (excused _ _ ⟨update, found, expired, rfl, rfl⟩)
    · exact ⟨rfl, rfl, rfl, fun connections readyConnections releases => retried_advances env clock lossy excuse state.core
        connectionId eventId update _ _ connections readyConnections sound flying found rfl rfl releases⟩

def Excused (before : Core TQueueState) (connectionId : ConnectionId) (response : Option Response) (draws : Draws)
    (eventId : EventId) : Reason → Prop
  | .responded answered => answered = connectionId ∧ eventOf before.connections connectionId = some eventId ∧
      ∃ received, response = some received ∧ received.succeeded = true
  | .expired unixTime delay => eventOf before.connections connectionId = some eventId ∧
      ∃ retryAfter, Expired env before draws retryAfter eventId unixTime delay

theorem finish_update_settles (connectionId : ConnectionId) (response : Option Response) (verdict : Verdict)
    (draws : Draws) (state : State TQueueState Flood) (sound : Sound env state.core)
    (succeeded : verdict.queryError = none → ∃ received, response = some received ∧ received.succeeded = true) :
    Meets (fun _ => True)
      (fun after => Settles env clock lossy
        (Excused env state.core connectionId response draws) connectionId state.core after.core)
      (finishUpdate env connectionId (eventOf state.connections connectionId) verdict draws state) := by
  unfold finishUpdate
  split
  · rename_i eventId flying accepted
    exact on_update_ok_settles env clock lossy _ connectionId eventId draws state sound flying
      ⟨rfl, flying, succeeded accepted⟩
  · rename_i eventId error flying failed
    exact on_update_error_settles env clock lossy _ connectionId eventId verdict.retryAfter draws state sound flying
      (fun unixTime delay expired => ⟨flying, verdict.retryAfter, expired⟩)
  · rename_i idle
    refine meets_require _ _ _ _ _ (fun _ => trivial) fun _ => ?_
    exact ⟨rfl, rfl, rfl, fun connections readyConnections releases => idle_advances env clock lossy _ state.core connectionId
      connections readyConnections sound idle releases⟩

theorem release_connection_advances (connectionId : ConnectionId) (connection : Connection) (close : Bool)
    (before : Core TQueueState) (state : State TQueueState Flood) (sound : Sound env before)
    (found : before.connections.lookup connectionId = some connection)
    (settles : Settles env clock lossy excuse connectionId before state.core) :
    Meets (fun _ => True) (fun after => Advances env clock lossy excuse before after.core)
      (releaseConnection connectionId close connection.ipGeneration state) := by
  have sameConnections : state.connections = before.connections := settles.sameConnections
  have sameReady : state.readyConnections = before.readyConnections := settles.sameReady
  unfold releaseConnection
  split
  · have closed := settles.released _ _ (closed_releases env before connectionId sound)
    rw [← sameConnections, ← sameReady] at closed
    exact closed
  · refine meets_require _ _ _ _ _ (fun _ => trivial) fun busy => ?_
    rw [sameReady] at busy
    have kept := settles.released _ _
      (kept_releases env before connectionId connection connection.ipGeneration sound found busy)
    rw [← sameConnections, ← sameReady] at kept
    exact kept

theorem read_response_core (response : Response) (ipGeneration : Int) (draws : Draws) (state : State TQueueState Flood) :
    (readResponse response ipGeneration draws state).2.core = state.core := by
  unfold readResponse
  dsimp only
  split
  · split
    · split <;> rfl
    · exact on_webhook_error_core _ _
  · exact on_webhook_error_core _ _

theorem read_response_succeeded (response : Response) (ipGeneration : Int) (draws : Draws)
    (state : State TQueueState Flood)
    (accepted : (readResponse response ipGeneration draws state).1.queryError = none) : response.succeeded = true := by
  unfold readResponse at accepted
  dsimp only at accepted
  split at accepted
  · split at accepted
    · assumption
    · cases accepted
  · cases accepted

theorem read_verdict_core (response : Option Response) (ipGeneration : Int) (draws : Draws)
    (state : State TQueueState Flood) : (readVerdict response ipGeneration draws state).2.core = state.core := by
  cases response with
  | some received => exact read_response_core received ipGeneration draws state
  | none => rfl

theorem read_verdict_succeeded (response : Option Response) (ipGeneration : Int) (draws : Draws)
    (state : State TQueueState Flood) (accepted : (readVerdict response ipGeneration draws state).1.queryError = none) :
    ∃ received, response = some received ∧ received.succeeded = true := by
  cases response with
  | some received => exact ⟨received, rfl, read_response_succeeded received ipGeneration draws state accepted⟩
  | none => cases accepted

theorem finish_and_release_advances (connectionId : ConnectionId) (connection : Connection)
    (response : Option Response) (verdict : Verdict) (close : Bool) (draws : Draws) (state told : State TQueueState Flood)
    (sound : Sound env state.core) (found : state.connections.lookup connectionId = some connection)
    (sameCore : told.core = state.core)
    (succeeded : verdict.queryError = none → ∃ received, response = some received ∧ received.succeeded = true) :
    Meets (fun _ => True)
      (fun after => Advances env clock lossy (Excused env state.core connectionId response draws) state.core after.core)
      (finishUpdate env connectionId connection.eventId verdict draws told >>=
        releaseConnection connectionId close connection.ipGeneration) := by
  have toldSound : Sound env told.core := sameCore ▸ sound
  have flying : eventOf told.connections connectionId = connection.eventId := by
    have present : told.connections.lookup connectionId = some connection := by
      change told.core.connections.lookup connectionId = some connection
      rw [sameCore]
      exact found
    exact value_or_found none Connection.eventId told.connections connectionId connection present
  have finished := finish_update_settles env clock lossy connectionId response verdict draws told toldSound succeeded
  rw [flying] at finished
  rw [sameCore] at finished
  exact meets_bind _ _ _ _ _ finished fun settled settles =>
    release_connection_advances env clock lossy _ connectionId connection close state.core settled sound found settles

theorem handle_advances (connectionId : ConnectionId) (response : Option Response) (draws : Draws)
    (state : State TQueueState Flood) (shown : clock (getUnixTime env.settings.unixTimeDifference draws.loadedAt))
    (headers : lossy ∨ ∀ attempt, draws.headerFinishes attempt = true) (sound : Sound env state.core) :
    Meets (fun _ => True)
      (fun after => Advances env clock lossy (Excused env state.core connectionId response draws) state.core after.core)
      (handle env connectionId response draws state) := by
  unfold handle
  split
  · exact advances_refl env clock lossy _ state.core sound
  · rename_i connection found
    have sameCore := read_verdict_core response connection.ipGeneration draws state
    have succeeded := read_verdict_succeeded response connection.ipGeneration draws state
    generalize readVerdict response connection.ipGeneration draws state = outcome at sameCore succeeded
    obtain ⟨verdict, told⟩ := outcome
    dsimp only at sameCore succeeded ⊢
    rw [← bind_assoc]
    refine meets_bind _ _ _ _ _ (finish_and_release_advances env clock lossy connectionId connection response verdict _ draws
      state told sound found sameCore succeeded) fun released advanced => ?_
    split
    · exact advanced
    · exact meets_weaken _ _ _ _ (fun after looped => advances_trans env clock lossy _ _ _ _ advanced
        (advances_weaken env clock lossy _ _ _ looped))
        (loop_advances env clock lossy _ draws released shown headers advanced.sound)

theorem on_resolved_ip_address_advances (result : Except String (Option IpAddress)) (draws : Draws)
    (state : State TQueueState Flood) (shown : clock (getUnixTime env.settings.unixTimeDifference draws.loadedAt))
    (headers : lossy ∨ ∀ attempt, draws.headerFinishes attempt = true) (sound : Sound env state.core) :
    Meets (fun _ => True) (fun after => Advances env clock lossy excuse state.core after.core)
      (onResolvedIpAddress env result draws state) := by
  have looped (next : State TQueueState Flood) (same : next.core = state.core) :
      Meets (fun _ => True) (fun after => Advances env clock lossy excuse state.core after.core) (loop env draws next) :=
    same ▸ loop_advances env clock lossy excuse draws next shown headers (same ▸ sound)
  unfold onResolvedIpAddress
  refine meets_require _ _ _ _ _ (fun _ => trivial) fun _ => ?_
  dsimp only
  split
  · refine meets_bind _ _ _ _ _ (on_error_core _ _) fun failed same => ?_
    exact looped failed (same.trans (relax_wakeup_at_core _ _))
  · split
    · exact looped _ (relax_wakeup_at_core _ _)
    · split
      · exact looped _ (relax_wakeup_at_core _ _)
      · exact looped _ (relax_wakeup_at_core _ _)

theorem on_ssl_context_created_advances (created : Bool) (draws : Draws) (state : State TQueueState Flood)
    (shown : clock (getUnixTime env.settings.unixTimeDifference draws.loadedAt))
    (headers : lossy ∨ ∀ attempt, draws.headerFinishes attempt = true) (sound : Sound env state.core) :
    Meets (fun _ => True) (fun after => Advances env clock lossy excuse state.core after.core)
      (onSslContextCreated env created draws state) := by
  unfold onSslContextCreated
  dsimp only
  split
  · exact loop_advances env clock lossy excuse draws _ shown headers sound
  · refine meets_bind _ _ _ _ _ (create_webhook_error_core _ _ _ _) fun failed same => ?_
    exact same ▸ loop_advances env clock lossy excuse draws failed shown headers (same ▸ sound)

theorem on_socket_ready_async_advances (id : Nat) (opened : Bool) (draws : Draws) (state : State TQueueState Flood)
    (shown : clock (getUnixTime env.settings.unixTimeDifference draws.loadedAt))
    (headers : lossy ∨ ∀ attempt, draws.headerFinishes attempt = true) (sound : Sound env state.core) :
    Meets (fun _ => True) (fun after => Advances env clock lossy excuse state.core after.core)
      (onSocketReadyAsync env id opened draws state) := by
  unfold onSocketReadyAsync
  dsimp only
  split
  · exact loop_advances env clock lossy excuse draws _ shown headers sound
  · refine meets_bind _ _ _ _ _ (on_error_core _ _) fun failed same => ?_
    rw [on_webhook_error_core] at same
    exact same ▸ loop_advances env clock lossy excuse draws failed shown headers (same ▸ sound)

def ExcusedBy (before : State TQueueState Flood) : Event TQueueState → EventId → Reason → Prop
  | .response connectionId response draws => Excused env before.core connectionId (some response) draws
  | .hangupShared connectionId draws _ => Excused env before.core connectionId none draws
  | _ => fun _ _ => False

-- The state that an event works on, and the times at which it looks into the TQueue.
def Event.begins (state : State TQueueState Flood) : Event TQueueState → State TQueueState Flood
  | .tqueueChanged tqueue => { state with tqueue := tqueue }
  | _ => state

def Event.Shows (event : Event TQueueState) (now : Int) : Prop :=
  ∃ draws ∈ event.draws, now = getUnixTime env.settings.unixTimeDifference draws.loadedAt

theorem begins_sound (state : State TQueueState Flood) (event : Event TQueueState) (enables : enabled env state event)
    (sound : Sound env state.core) : Sound env (event.begins state).core := by
  cases event with
  | tqueueChanged tqueue => exact tqueue_changed_sound env state.core tqueue sound enables.2.2
  | _ => exact sound

theorem begins_delivery (state : State TQueueState Flood) (event : Event TQueueState) :
    delivery (event.begins state).core = delivery state.core := by
  cases event <;> rfl

theorem step_advances (state : State TQueueState Flood) (event : Event TQueueState)
    (headers : lossy ∨ ∀ draws, draws ∈ event.draws → ∀ attempt, draws.headerFinishes attempt = true)
    (enables : enabled env state event) (sound : Sound env state.core) :
    Meets (fun _ => True)
      (fun after => Advances env (event.Shows env) lossy (ExcusedBy env state event) (event.begins state).core after.core)
      (step env state event) := by
  have begun := begins_sound env state event enables sound
  have shown (draws : Draws) (member : draws ∈ event.draws) :
      event.Shows env (getUnixTime env.settings.unixTimeDifference draws.loadedAt) := ⟨draws, member, rfl⟩
  have finish (draws : Draws) (member : draws ∈ event.draws) :
      lossy ∨ ∀ attempt, draws.headerFinishes attempt = true := headers.imp_right fun all => all draws member
  cases event with
  | tqueueChanged tqueue => exact advances_refl env _ lossy _ _ begun
  | update draws =>
      have only := List.mem_singleton.2 (Eq.refl draws)
      exact loop_advances env _ lossy _ draws _ (shown draws only) (finish draws only) sound
  | wakeup draws =>
      have only := List.mem_singleton.2 (Eq.refl draws)
      exact loop_advances env _ lossy _ draws _ (shown draws only) (finish draws only) sound
  | resolvedIpAddress result draws =>
      have only := List.mem_singleton.2 (Eq.refl draws)
      exact on_resolved_ip_address_advances env _ lossy _ result draws state (shown draws only) (finish draws only) sound
  | sslContextCreated created draws =>
      have only := List.mem_singleton.2 (Eq.refl draws)
      exact on_ssl_context_created_advances env _ lossy _ created draws state (shown draws only) (finish draws only) sound
  | socketReady id opened draws =>
      have only := List.mem_singleton.2 (Eq.refl draws)
      exact on_socket_ready_async_advances env _ lossy _ id opened draws state (shown draws only) (finish draws only) sound
  | response connectionId response draws =>
      have only := List.mem_singleton.2 (Eq.refl draws)
      exact handle_advances env _ lossy connectionId (some response) draws state (shown draws only) (finish draws only) sound
  | hangupShared connectionId draws later =>
      have last : later ∈ [draws, later] := List.mem_cons_of_mem _ (List.mem_singleton.2 rfl)
      refine meets_bind _ _ _ _ _ (handle_advances env _ lossy connectionId none draws state (shown draws List.mem_cons_self)
        (finish draws List.mem_cons_self) sound) fun handled advanced => ?_
      split
      · exact advanced
      · exact meets_weaken _ _ _ _ (fun after looped => advances_trans env _ lossy _ _ _ _ advanced
          (advances_weaken env _ lossy _ _ _ looped)) (loop_advances env _ lossy _ later handled (shown later last)
            (finish later last) advanced.sound)
  | hangup => exact advances_refl env _ lossy _ state.core sound
  | close => exact advances_refl env _ lossy _ state.core sound

def Unloaded (state : State TQueueState Flood) : Prop :=
  ∃ tqueue, state.core = ⟨tqueue, none, ∅, ∅, [], ∅, 0, [], []⟩

theorem unloaded_sound (state : State TQueueState Flood) (unloaded : Unloaded state) : Sound env state.core := by
  obtain ⟨tqueue, same⟩ := unloaded
  rw [same]
  have empty (queueId : QueueId) : pendingOf (∅ : AList (fun _ : QueueId => List EventId)) queueId = [] := rfl
  refine ⟨⟨?_, ?_, ?_, List.nodup_nil, List.Pairwise.nil, ?_, ?_, ?_⟩, ⟨?_, ?_, ?_, ?_, ?_, ?_, ?_, ?_, ?_⟩, ?_, ?_,
    List.nodup_nil, ?_⟩
  · intro queueId found
    cases found
  · intro id update found
    cases found
  · intro queueId id member
    cases member
  · intro event kept missing id queueId loaded
    cases loaded
  · intro offset set
    cases set
  · intro id queueId loaded
    cases loaded
  · intro queueId
    exact List.Pairwise.nil
  · intro queueId id
    simp [delivery, empty]
  · intro id first last loaded
    cases loaded
  · intro queueId due
    cases due
  · intro connectionId id flying
    cases flying
  · intro first last id flying
    cases flying
  · intro id reason forgotten
    cases forgotten
  · exact List.nodup_nil
  · intro before id connectionId started
    exact absurd (List.prefix_nil.1 started) (List.append_ne_nil_of_right_ne_nil before (List.cons_ne_nil _ _))
  · intro connectionId member
    cases member
  · intro connectionId ipGeneration found
    cases found
  · intro connectionId connection found
    cases found

theorem start_up_unloaded (draws : Draws) (tqueue : TQueueState) :
    Meets (fun _ => True) Unloaded (startUp env draws tqueue) := by
  have kept (error : String) (state : State TQueueState Flood) (unloaded : Unloaded state) :
      Meets (fun _ => True) Unloaded (onError error state) :=
    meets_weaken _ _ _ _ (fun after same => unloaded.imp fun _ core => same.trans core) (on_error_core error state)
  have begun : Unloaded (initialState env draws tqueue) := ⟨tqueue, rfl⟩
  refine meets_bind _ Unloaded _ _ _ ?_ fun state unloaded => ?_
  · unfold checkUrl
    split
    · exact begun
    · split
      · exact kept _ _ begun
      · split
        · exact begun
        · exact kept _ _ begun
  · split
    · exact kept _ _ unloaded
    · obtain ⟨queue, same⟩ := unloaded
      refine ⟨queue, ?_⟩
      unfold verifyFromDb
      split
      · exact same
      · exact same

theorem initial_sound (state : State TQueueState Flood) (initial : (actor env).start state) : Sound env state.core := by
  obtain ⟨draws, tqueue, started⟩ := initial
  exact unloaded_sound env state (meets_returns _ _ _ state (start_up_unloaded env draws tqueue) started)

theorem reachable_sound (state : State TQueueState Flood)
    (reached : Transition.Reach (actor env) Transition.unrestricted state) : Sound env state.core :=
  Transition.reach_meets (actor env) _ (fun _ => True) (fun state => Sound env state.core) (initial_sound env)
    (fun before event sound offered _ => meets_weaken _ _ _ _ (fun _ advanced => advanced.sound)
      (step_advances env True before event (.inl trivial) offered sound)) state reached

end Handle

end TelegramBotApi.WebhookActor
