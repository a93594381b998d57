import TelegramBotApi.WebhookHandle

set_option autoImplicit false

namespace TelegramBotApi.WebhookActor

open Checked Tables

section Scheduling

variable {TQueueState Flood : Type} (env : Environment TQueueState Flood)

def Carries (state : State TQueueState Flood) (connectionId : ConnectionId) (eventId : EventId) : Prop :=
  ∃ connection, state.connections.lookup connectionId = some connection ∧ connection.eventId = some eventId

-- update_map_ is the disjoint union of the lists in queue_updates_, and each
-- list is scheduled once or has its head in flight once.
structure Scheduled (state : State TQueueState Flood) : Prop where
  union : ∀ eventId, (state.updateMap.lookup eventId).isSome = true ↔
    ∃ queueId eventIds, state.queueUpdates.lookup queueId = some eventIds ∧ eventId ∈ eventIds
  disjoint : ∀ first last ids others eventId, state.queueUpdates.lookup first = some ids →
    state.queueUpdates.lookup last = some others → eventId ∈ ids → eventId ∈ others → first = last
  distinct : ∀ queueId eventIds, state.queueUpdates.lookup queueId = some eventIds → eventIds.Nodup
  nonempty : ∀ queueId, state.queueUpdates.lookup queueId ≠ some []
  exactlyOne : ∀ queueId eventId rest, state.queueUpdates.lookup queueId = some (eventId :: rest) →
    Xor ((state.queues.map Queue.id).count queueId = 1) (∃! connectionId, Carries state connectionId eventId)

theorem carries_iff (state : State TQueueState Flood) (connectionId : ConnectionId) (eventId : EventId) :
    Carries state connectionId eventId ↔ eventOf state.connections connectionId = some eventId := by
  cases found : state.connections.lookup connectionId with
  | none => simp [Carries, valueOr, found]
  | some connection => simp [Carries, valueOr, found]

theorem scheduled_of_covered (state : State TQueueState Flood) (sound : Sound env state.core)
    (covered : KeyedDelivery.Covered (delivery state.core)) : Scheduled state := by
  have listedIn (queueId : QueueId) (eventIds : List EventId)
      (found : state.queueUpdates.lookup queueId = some eventIds) : pendingOf state.queueUpdates queueId = eventIds :=
    pending_of_found state.queueUpdates queueId eventIds found
  refine ⟨?_, ?_, ?_, sound.nonempty, ?_⟩
  · intro eventId
    constructor
    · intro present
      obtain ⟨update, found⟩ := Option.isSome_iff_exists.1 present
      have member := (sound.stored eventId update found).2
      cases listed : state.queueUpdates.lookup update.queueId with
      | none => simp [valueOr, State.core, listed] at member
      | some eventIds =>
          rw [State.core, listedIn update.queueId eventIds listed] at member
          exact ⟨update.queueId, eventIds, listed, member⟩
    · rintro ⟨queueId, eventIds, listed, member⟩
      obtain ⟨update, found, _⟩ := sound.listed queueId eventId ((listedIn queueId eventIds listed).symm ▸ member)
      change state.updateMap.lookup eventId = some update at found
      simp [found]
  · intro first last ids others eventId here there member also
    rw [← listedIn first ids here] at member
    rw [← listedIn last others there] at also
    exact KeyedDelivery.same_key (delivery state.core) sound.inv first last eventId member also
  · intro queueId eventIds listed
    have sorted := sound.inv.sorted queueId
    rw [← listedIn queueId eventIds listed]
    exact sorted.imp Nat.ne_of_lt
  · intro queueId eventId rest listed
    have front := listedIn queueId _ listed
    have counted : (state.queues.map Queue.id).count queueId = 1 ↔ queueId ∈ state.queues.map Queue.id :=
      ⟨fun once => List.count_pos_iff.1 (by omega), fun member => List.count_eq_one_of_mem sound.once member⟩
    have carried : (∃! connectionId, Carries state connectionId eventId) ↔
        ∃ connectionId, eventOf state.connections connectionId = some eventId := by
      simp only [carries_iff]
      constructor
      · rintro ⟨connectionId, flying, _⟩
        exact ⟨connectionId, flying⟩
      · rintro ⟨connectionId, flying⟩
        exact ⟨connectionId, flying, fun other flies => sound.inv.single other connectionId eventId flies flying⟩
    rw [counted, carried]
    by_cases scheduled : queueId ∈ state.queues.map Queue.id
    · refine .inl ⟨scheduled, ?_⟩
      rintro ⟨connectionId, flying⟩
      obtain ⟨owner, more, frontOwner, unscheduled⟩ := sound.inv.flying connectionId eventId flying
      have member : eventId ∈ pendingOf state.queueUpdates queueId := by
        rw [front]
        exact List.mem_cons_self
      have same := KeyedDelivery.same_key (delivery state.core) sound.inv owner queueId eventId
        (by rw [frontOwner]; exact List.mem_cons_self) member
      exact unscheduled (same ▸ scheduled)
    · exact .inr ⟨(covered queueId eventId rest front).resolve_left scheduled, scheduled⟩

def headersFinish : Transition.Condition (State TQueueState Flood) (Event TQueueState) :=
  fun _ event => ∀ draws, draws ∈ event.draws → ∀ attempt, draws.headerFinishes attempt = true

theorem updates_scheduled_when_headers_finish (state : State TQueueState Flood)
    (reached : Transition.Reach (actor env) headersFinish state) : Scheduled state := by
  have both : Sound env state.core ∧ KeyedDelivery.Covered (delivery state.core) := by
    refine Transition.reach_meets (actor env) headersFinish (fun _ => True)
      (fun state => Sound env state.core ∧ KeyedDelivery.Covered (delivery state.core)) ?_ ?_ state reached
    · intro first initial
      refine ⟨initial_sound env first initial, fun queueId eventId rest waiting => ?_⟩
      obtain ⟨draws, tqueue, started⟩ := initial
      obtain ⟨queue, same⟩ := meets_returns _ _ _ first (start_up_unloaded env draws tqueue) started
      rw [same] at waiting
      cases waiting
    · intro before event held offered headers
      refine meets_weaken _ _ _ _ (fun after advanced => ?_)
        (step_advances env False before event (.inr headers) offered held.1)
      have run := advanced.run
      rw [begins_delivery] at run
      exact ⟨advanced.sound, KeyedDelivery.run_covered _ _ _ run held.1.inv held.2⟩
  exact scheduled_of_covered env state both.1 both.2

end Scheduling

-- A local server with a plain HTTP webhook that has one update to deliver.
section Overlong

def calmFlood : FloodControl Unit where
  getWakeupAt _ := 0
  addEvent _ _ := ()
  activeNewConnection := ()
  pendingNewConnection := ()

def localHttp : Environment ListQueue Unit where
  tqueue := listTQueue
  flood := calmFlood
  settings := { isHttps := false, port := 80, maxConnections := 1, fromDb := false, fixIpAddress := false,
                cachedIpAddress := none, localMode := true, webhookProxy := false, unixTimeDifference := 0 }

def webhookHost : IpAddress := { text := "10.0.0.1", isIpv4 := true, isReserved := false }

def pushedQueue : ListQueue := (ListQueue.empty 1).append "update" 100 5

def deliveryEvents (headerFinishes : Bool) : List (Event ListQueue) :=
  [.tqueueChanged pushedQueue, .wakeup { loadedAt := 1, resolvedAt := 1 },
    .resolvedIpAddress (.ok (some webhookHost)) { sentAt := fun _ => 1, headerFinishes := fun _ => headerFinishes }]

def runFrom (env : Environment ListQueue Unit) (state : State ListQueue Unit) (events : List (Event ListQueue)) :
    State ListQueue Unit :=
  match events.foldlM (step env) state with
  | .ok state => state
  | .error _ => state

def startedState : State ListQueue Unit := initialState localHttp {} (ListQueue.empty 1)

def deliveredState (headerFinishes : Bool) : State ListQueue Unit :=
  runFrom localHttp startedState (deliveryEvents headerFinishes)

theorem pushed_evolves : listTQueue.Evolves (ListQueue.empty 1) pushedQueue := by
  refine ⟨fun event member => .inr ?_, by decide⟩
  have only := List.mem_singleton.1 member
  subst only
  exact Nat.le_refl _

theorem started_state : (actor localHttp).start startedState := ⟨{}, ListQueue.empty 1, rfl⟩

theorem delivery_follows (headerFinishes : Bool)
    (meets : Transition.Condition (State ListQueue Unit) (Event ListQueue))
    (met : ∀ state event, event ∈ deliveryEvents headerFinishes → meets state event) :
    Transition.Reach (actor localHttp) meets (deliveredState headerFinishes) := by
  refine Transition.reach_follows _ _ (deliveryEvents headerFinishes) startedState _ (.start _ started_state) ?_
  have clock (state : State ListQueue Unit) (started : state.startedAt = 0) (event : Event ListQueue) (draws : Draws)
      (_ : draws ∈ event.draws) : state.startedAt ≤ draws.resolvedAt := started ▸ Nat.zero_le _
  cases headerFinishes with
  | true =>
      exact ⟨⟨rfl, clock _ rfl _, pushed_evolves⟩, met _ _ (by simp [deliveryEvents]), _, rfl,
        ⟨rfl, clock _ rfl _, trivial⟩, met _ _ (by simp [deliveryEvents]), _, rfl,
        ⟨rfl, clock _ rfl _, rfl⟩, met _ _ (by simp [deliveryEvents]), _, rfl, rfl⟩
  | false =>
      exact ⟨⟨rfl, clock _ rfl _, pushed_evolves⟩, met _ _ (by simp [deliveryEvents]), _, rfl,
        ⟨rfl, clock _ rfl _, trivial⟩, met _ _ (by simp [deliveryEvents]), _, rfl,
        ⟨rfl, clock _ rfl _, rfl⟩, met _ _ (by simp [deliveryEvents]), _, rfl, rfl⟩

-- The only loaded update is neither scheduled nor in flight.
theorem overlong_header_stalls_queue : ∃ state : State ListQueue Unit,
    Transition.Reach (actor localHttp) Transition.unrestricted state ∧ ¬ Scheduled state := by
  refine ⟨deliveredState false, delivery_follows false _ (fun _ _ _ => trivial), fun scheduled => ?_⟩
  rcases scheduled.exactlyOne 5 1 [] rfl with ⟨counted, _⟩ | ⟨⟨connectionId, carries, _⟩, _⟩
  · exact absurd counted (by decide)
  · rw [carries_iff] at carries
    by_cases first : connectionId = 0
    · subst first
      cases carries
    · have missing : (deliveredState false).connections.lookup connectionId = none := by
        refine AList.lookup_eq_none.2 fun member => ?_
        rw [AList.mem_keys] at member
        exact first (List.mem_singleton.1 member)
      have none := value_or_missing none Connection.eventId _ connectionId missing
      cases none.symm.trans carries

theorem delivered_update_scheduled : Scheduled (deliveredState true) := by
  refine updates_scheduled_when_headers_finish localHttp (deliveredState true) (delivery_follows true _ ?_)
  intro state event member draws drawn attempt
  simp only [deliveryEvents, List.mem_cons, List.not_mem_nil, or_false] at member
  rcases member with rfl | rfl | rfl
  · cases drawn
  · rw [List.mem_singleton.1 drawn]
  · rw [List.mem_singleton.1 drawn]

end Overlong

end TelegramBotApi.WebhookActor
