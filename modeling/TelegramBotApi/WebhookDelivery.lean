import TelegramBotApi.Lib.Tables
import TelegramBotApi.WebhookActor

set_option autoImplicit false

namespace TelegramBotApi.WebhookActor

open Checked Tables

section Ordering

theorem before_iff (first last : Queue) :
    Queue.Before first last ↔ toLex (first.wakeupAt, first.id) ≤ toLex (last.wakeupAt, last.id) := by
  simp only [Queue.Before, Prod.Lex.le_iff, ofLex_toLex]

instance : Std.Total Queue.Before where
  total first last := by
    simp only [before_iff]
    exact le_total _ _

instance : IsTrans Queue Queue.Before where
  trans first middle last := by
    simp only [before_iff]
    exact le_trans

theorem mem_emplace (queue other : Queue) (queues : List Queue) :
    other ∈ emplace queue queues ↔ other = queue ∨ other ∈ queues := by
  unfold emplace
  split
  · rename_i present
    exact ⟨.inr, fun either => either.elim (fun same => same ▸ present) id⟩
  · exact List.mem_orderedInsert Queue.Before

theorem emplace_ordered (queue : Queue) (queues : List Queue) (ordered : queues.Pairwise Queue.Before) :
    (emplace queue queues).Pairwise Queue.Before := by
  unfold emplace
  split
  · exact ordered
  · exact ordered.orderedInsert queue queues

theorem emplace_once (queue : Queue) (queues : List Queue) (once : (queues.map Queue.id).Nodup)
    (absent : queue.id ∉ queues.map Queue.id) : ((emplace queue queues).map Queue.id).Nodup := by
  unfold emplace
  split
  · exact once
  · have permuted := (List.perm_orderedInsert Queue.Before queue queues).map Queue.id
    rw [permuted.nodup_iff, List.map_cons, List.nodup_cons]
    exact ⟨absent, once⟩

theorem mem_ids_emplace (queue : Queue) (queues : List Queue) (id : QueueId) :
    id ∈ (emplace queue queues).map Queue.id ↔ id ∈ queues.map Queue.id ∨ id = queue.id := by
  simp only [List.mem_map, mem_emplace]
  constructor
  · rintro ⟨other, rfl | member, rfl⟩
    · exact .inr rfl
    · exact .inl ⟨other, member, rfl⟩
  · rintro (⟨other, member, rfl⟩ | rfl)
    · exact ⟨other, .inr member, rfl⟩
    · exact ⟨queue, .inl rfl, rfl⟩

end Ordering

structure Core (TQueueState : Type) where
  tqueue : TQueueState
  tqueueOffset : Option EventId
  updateMap : AList (fun _ : EventId => Update)
  queueUpdates : AList (fun _ : QueueId => List EventId)
  queues : List Queue
  connections : AList (fun _ : ConnectionId => Connection)
  nextConnectionId : ConnectionId
  readyConnections : List ConnectionId
  log : List Action

def State.core {TQueueState Flood : Type} (state : State TQueueState Flood) : Core TQueueState where
  tqueue := state.tqueue
  tqueueOffset := state.tqueueOffset
  updateMap := state.updateMap
  queueUpdates := state.queueUpdates
  queues := state.queues
  connections := state.connections
  nextConnectionId := state.nextConnectionId
  readyConnections := state.readyConnections
  log := state.log

section Delivery

variable {TQueueState Flood : Type} (env : Environment TQueueState Flood)

abbrev pendingOf (queueUpdates : AList (fun _ : QueueId => List EventId)) : QueueId → List EventId :=
  valueOr [] id queueUpdates

abbrev eventOf (connections : AList (fun _ : ConnectionId => Connection)) : ConnectionId → Option EventId :=
  valueOr none Connection.eventId connections

-- What the four data structures mean together.
def delivery (core : Core TQueueState) : KeyedDelivery.State QueueId EventId ConnectionId Reason where
  pending := pendingOf core.queueUpdates
  scheduled := {queueId | queueId ∈ core.queues.map Queue.id}
  flight := eventOf core.connections
  history := core.log

structure ConnectionsSound (connections : AList (fun _ : ConnectionId => Connection))
    (readyConnections : List ConnectionId) (nextConnectionId : ConnectionId) : Prop where
  ready : ∀ connectionId, connectionId ∈ readyConnections →
    ∃ ipGeneration, connections.lookup connectionId = some ⟨none, ipGeneration⟩
  idle : ∀ connectionId ipGeneration, connections.lookup connectionId = some ⟨none, ipGeneration⟩ →
    connectionId ∈ readyConnections
  readyOnce : readyConnections.Nodup
  fresh : ∀ connectionId connection, connections.lookup connectionId = some connection → connectionId < nextConnectionId

structure UpdatesSound (core : Core TQueueState) : Prop where
  nonempty : ∀ queueId, core.queueUpdates.lookup queueId ≠ some []
  stored : ∀ id update, core.updateMap.lookup id = some update →
    update.id = id ∧ id ∈ pendingOf core.queueUpdates update.queueId
  listed : ∀ queueId id, id ∈ pendingOf core.queueUpdates queueId →
    ∃ update, core.updateMap.lookup id = some update ∧ update.queueId = queueId
  once : (core.queues.map Queue.id).Nodup
  ordered : core.queues.Pairwise Queue.Before
  -- events of the TQueue that are not loaded come after all that ever were
  above : ∀ event, event ∈ env.tqueue.kept core.tqueue → core.updateMap.lookup event.id = none →
    ∀ id queueId, .loaded id queueId ∈ core.log → id < event.id
  offset : ∀ offset, core.tqueueOffset = some offset → offset ≤ env.tqueue.tail core.tqueue ∧
    ∀ event, event ∈ env.tqueue.kept core.tqueue → core.updateMap.lookup event.id = none → offset ≤ event.id
  tail : ∀ id queueId, .loaded id queueId ∈ core.log → id < env.tqueue.tail core.tqueue

structure Sound (core : Core TQueueState) : Prop extends UpdatesSound env core where
  inv : KeyedDelivery.Inv (delivery core)
  connected : ConnectionsSound core.connections core.readyConnections core.nextConnectionId

def Forgets (clock : Int → Prop) (before after : Core TQueueState) : Prop :=
  ∃ added, after.log = before.log ++ added ∧
    env.tqueue.Forgets clock before.tqueue (added.filterMap KeyedDelivery.forgottenItem) after.tqueue

structure Advances (clock : Int → Prop) (lossy : Prop) (excuse : EventId → Reason → Prop)
    (before after : Core TQueueState) : Prop where
  sound : Sound env after
  run : KeyedDelivery.Run lossy excuse (delivery before) (delivery after)
  forgets : Forgets env clock before after

variable (clock : Int → Prop) (lossy : Prop) (excuse : EventId → Reason → Prop)

theorem forgets_nothing (before after : Core TQueueState) (added : List Action)
    (silent : added.filterMap KeyedDelivery.forgottenItem = []) (log : after.log = before.log ++ added)
    (tqueue : after.tqueue = before.tqueue) : Forgets env clock before after := by
  refine ⟨added, log, ?_⟩
  rw [silent, tqueue]
  exact .refl before.tqueue

theorem unlogged_forgets (before after : Core TQueueState) (log : after.log = before.log)
    (tqueue : after.tqueue = before.tqueue) : Forgets env clock before after :=
  forgets_nothing env clock before after [] rfl (by rw [log, List.append_nil]) tqueue

theorem forgets_trans (first middle last : Core TQueueState) (begins : Forgets env clock first middle)
    (continues : Forgets env clock middle last) : Forgets env clock first last := by
  obtain ⟨added, grown, forgets⟩ := begins
  obtain ⟨more, grownMore, forgetsMore⟩ := continues
  refine ⟨added ++ more, by rw [grownMore, grown, List.append_assoc], ?_⟩
  rw [List.filterMap_append]
  exact env.tqueue.forgets_trans clock _ _ _ _ _ forgets forgetsMore

theorem advances_refl (core : Core TQueueState) (sound : Sound env core) : Advances env clock lossy excuse core core :=
  ⟨sound, .refl, unlogged_forgets env clock core core rfl rfl⟩

theorem advances_trans (first middle last : Core TQueueState) (begins : Advances env clock lossy excuse first middle)
    (continues : Advances env clock lossy excuse middle last) : Advances env clock lossy excuse first last :=
  ⟨continues.sound, begins.run.trans continues.run, forgets_trans env clock _ _ _ begins.forgets continues.forgets⟩

theorem advances_weaken (before after : Core TQueueState)
    (advances : Advances env clock lossy (fun _ _ => False) before after) : Advances env clock lossy excuse before after :=
  ⟨advances.sound, KeyedDelivery.run_weaken lossy excuse _ _ advances.run, advances.forgets⟩

theorem advances_bind {α : Type} (start : Core TQueueState) (first : Except Check (State TQueueState Flood))
    (next : State TQueueState Flood → Except Check α) (core : α → Core TQueueState)
    (begins : Meets (fun _ => True) (fun middle => Advances env clock lossy excuse start middle.core) first)
    (continues : ∀ middle, Sound env middle.core →
      Meets (fun _ => True) (fun last => Advances env clock lossy excuse middle.core (core last)) (next middle)) :
    Meets (fun _ => True) (fun last => Advances env clock lossy excuse start (core last)) (first >>= next) := by
  refine meets_bind _ _ _ _ _ begins fun middle advanced => ?_
  exact meets_weaken _ _ _ _ (fun last => advances_trans env clock lossy excuse _ _ _ advanced)
    (continues middle advanced.sound)

theorem tqueue_changed_sound (core : Core TQueueState) (tqueue : TQueueState) (sound : Sound env core)
    (evolves : env.tqueue.Evolves core.tqueue tqueue) : Sound env { core with tqueue := tqueue } := by
  refine ⟨⟨sound.nonempty, sound.stored, sound.listed, sound.once, sound.ordered, ?_, ?_, ?_⟩, sound.inv,
    sound.connected⟩
  · intro event kept missing id queueId loaded
    rcases evolves.kept event kept with old | new
    · exact sound.above event old missing id queueId loaded
    · exact Nat.lt_of_lt_of_le (sound.tail id queueId loaded) new
  · intro offset set
    have old := sound.offset offset set
    refine ⟨Nat.le_trans old.1 evolves.tail, fun event kept missing => ?_⟩
    rcases evolves.kept event kept with present | new
    · exact old.2 event present missing
    · exact Nat.le_trans old.1 new
  · intro id queueId loaded
    exact Nat.lt_of_lt_of_le (sound.tail id queueId loaded) evolves.tail

theorem pending_of_found (queueUpdates : AList (fun _ : QueueId => List EventId)) (queueId : QueueId)
    (ids : List EventId) (found : queueUpdates.lookup queueId = some ids) : pendingOf queueUpdates queueId = ids :=
  value_or_found [] id queueUpdates queueId ids found

def freshUpdate (now : Int) (queueId : QueueId) (event : TQueueEvent) : Update :=
  { id := event.id, json := event.data, expiresAt := event.expiresAt, wakeupAt := now, queueId := queueId }

def loadedCore (now : Int) (queueId : QueueId) (event : TQueueEvent) (core : Core TQueueState) : Core TQueueState :=
  let eventIds := pendingOf core.queueUpdates queueId
  { core with
    updateMap := core.updateMap.insert event.id (freshUpdate now queueId event)
    tqueueOffset := some (event.id + 1)
    queues := if eventIds = [] then emplace ⟨now, queueId⟩ core.queues else core.queues
    queueUpdates := core.queueUpdates.insert queueId (eventIds ++ [event.id])
    log := core.log ++ [.loaded event.id queueId] }

theorem loaded_delivery (now : Int) (queueId : QueueId) (event : TQueueEvent) (core : Core TQueueState) :
    delivery (loadedCore now queueId event core) = KeyedDelivery.load queueId event.id (delivery core) := by
  have scheduled : {other | other ∈ (loadedCore now queueId event core).queues.map Queue.id} =
      {other | other ∈ core.queues.map Queue.id ∨ other = queueId ∧ pendingOf core.queueUpdates queueId = []} := by
    ext other
    by_cases empty : pendingOf core.queueUpdates queueId = []
    · simp only [loadedCore, empty, if_true, Set.mem_ofPred_eq, mem_ids_emplace, and_true]
    · simp only [loadedCore, empty, if_false, Set.mem_ofPred_eq, and_false, or_false]
  simp only [delivery, KeyedDelivery.load, KeyedDelivery.State.mk.injEq]
  exact ⟨value_or_insert [] id core.queueUpdates queueId _, scheduled, rfl, rfl⟩

theorem loaded_advances (now : Int) (queueId : QueueId) (event : TQueueEvent) (core : Core TQueueState)
    (sound : Sound env core) (missing : core.updateMap.lookup event.id = none)
    (kept : event ∈ env.tqueue.kept core.tqueue)
    (first : ∀ other, other ∈ env.tqueue.kept core.tqueue → core.updateMap.lookup other.id = none →
      event.id ≤ other.id) :
    Advances env clock lossy excuse core (loadedCore now queueId event core) := by
  have fresh := sound.above event kept missing
  have step : KeyedDelivery.Step lossy excuse (delivery core) (delivery (loadedCore now queueId event core)) := by
    rw [loaded_delivery]
    exact .load (delivery core) queueId event.id fresh
  have pending := value_or_insert [] id core.queueUpdates queueId (pendingOf core.queueUpdates queueId ++ [event.id])
  have later (other : TQueueEvent) (present : other ∈ env.tqueue.kept core.tqueue)
      (absent : (core.updateMap.insert event.id (freshUpdate now queueId event)).lookup other.id = none) :
      core.updateMap.lookup other.id = none ∧ event.id < other.id := by
    rw [lookup_insert] at absent
    by_cases same : other.id = event.id
    · simp [same] at absent
    · rw [if_neg same] at absent
      exact ⟨absent, Nat.lt_of_le_of_ne (first other present absent) (Ne.symm same)⟩
  refine ⟨⟨⟨?_, ?_, ?_, ?_, ?_, ?_, ?_, ?_⟩, KeyedDelivery.step_inv lossy excuse _ _ step sound.inv, sound.connected⟩,
    .single step, forgets_nothing env clock _ _ [.loaded event.id queueId] rfl rfl rfl⟩
  · intro other
    simp only [loadedCore, lookup_insert]
    split
    · simp
    · exact sound.nonempty other
  · intro id update found
    simp only [loadedCore, lookup_insert] at found ⊢
    rw [pendingOf, pending]
    by_cases same : id = event.id
    · rw [if_pos same, Option.some.injEq] at found
      subst found
      simp [freshUpdate, same]
    · rw [if_neg same] at found
      have old := sound.stored id update found
      refine ⟨old.1, ?_⟩
      by_cases here : update.queueId = queueId
      · rw [here] at old ⊢
        simp [old.2]
      · simpa [here] using old.2
  · intro other id member
    simp only [loadedCore, lookup_insert] at member ⊢
    rw [pendingOf, pending] at member
    by_cases same : id = event.id
    · subst same
      rw [if_pos rfl]
      refine ⟨_, rfl, ?_⟩
      by_cases here : other = queueId
      · exact here.symm
      · rw [Function.update_of_ne here] at member
        obtain ⟨update, found, _⟩ := sound.listed other event.id member
        rw [missing] at found
        cases found
    · rw [if_neg same]
      by_cases here : other = queueId
      · subst here
        have old : id ∈ pendingOf core.queueUpdates other := by simpa [same] using member
        exact sound.listed other id old
      · rw [Function.update_of_ne here] at member
        exact sound.listed other id member
  · simp only [loadedCore]
    split
    · rename_i empty
      refine emplace_once _ _ sound.once fun scheduled => ?_
      exact sound.inv.due queueId scheduled empty
    · exact sound.once
  · simp only [loadedCore]
    split
    · exact emplace_ordered _ _ sound.ordered
    · exact sound.ordered
  · intro other present absent id owner loaded
    have after := later other present absent
    simp only [loadedCore, List.mem_append, List.mem_singleton, KeyedDelivery.Action.loaded.injEq] at loaded
    rcases loaded with old | ⟨rfl, _⟩
    · exact sound.above other present after.1 id owner old
    · exact after.2
  · intro offset set
    simp only [loadedCore, Option.some.injEq] at set
    subst set
    exact ⟨env.tqueue.belowTail core.tqueue event kept, fun other present absent => (later other present absent).2⟩
  · intro id owner loaded
    simp only [loadedCore, List.mem_append, List.mem_singleton, KeyedDelivery.Action.loaded.injEq] at loaded
    rcases loaded with old | ⟨rfl, _⟩
    · exact sound.tail id owner old
    · exact env.tqueue.belowTail core.tqueue event kept

structure Loading (start : Core TQueueState) (rest : List TQueueEvent) (state : State TQueueState Flood) : Prop where
  advances : Advances env clock lossy excuse start state.core
  sorted : (rest.map TQueueEvent.id).Pairwise (· < ·)
  kept : ∀ event, event ∈ rest → event ∈ env.tqueue.kept state.tqueue
  others : ∀ other, other ∈ env.tqueue.kept state.tqueue → state.updateMap.lookup other.id = none →
    other ∈ rest ∨ ∀ event, event ∈ rest → event.id < other.id

theorem load_update_loading (start : Core TQueueState) (now unixTimeNow : Int) (event : TQueueEvent)
    (rest : List TQueueEvent) (state : State TQueueState Flood)
    (loading : Loading env clock lossy excuse start (event :: rest) state) :
    Meets (fun _ => True) (Loading env clock lossy excuse start rest) (loadUpdate now unixTimeNow state event) := by
  have sorted := loading.sorted
  rw [List.map_cons, List.pairwise_cons] at sorted
  have restKept (other : TQueueEvent) (member : other ∈ rest) : other ∈ env.tqueue.kept state.tqueue :=
    loading.kept other (List.mem_cons_of_mem event member)
  unfold loadUpdate
  split
  · rename_i present
    refine ⟨loading.advances, sorted.2, restKept, fun other kept missing => ?_⟩
    rcases loading.others other kept missing with member | after
    · rcases List.mem_cons.1 member with rfl | later
      · rw [missing] at present
        cases present
      · exact .inl later
    · exact .inr fun item member => after item (List.mem_cons_of_mem event member)
  · rename_i absent
    have missing : state.updateMap.lookup event.id = none := by simpa using absent
    refine meets_require _ _ _ _ _ (fun _ => trivial) fun _ => ?_
    have first (other : TQueueEvent) (kept : other ∈ env.tqueue.kept state.tqueue)
        (unloaded : state.updateMap.lookup other.id = none) : event.id ≤ other.id := by
      rcases loading.others other kept unloaded with member | after
      · rcases List.mem_cons.1 member with rfl | later
        · exact Nat.le_refl _
        · exact Nat.le_of_lt (sorted.1 other.id (List.mem_map_of_mem later))
      · exact Nat.le_of_lt (after event List.mem_cons_self)
    have advanced := loaded_advances env clock lossy excuse now (if event.extra = 0 then state.uniqueQueueId else event.extra)
      event state.core loading.advances.sound missing (loading.kept event List.mem_cons_self) first
    have same : pendingOf state.queueUpdates (if event.extra = 0 then state.uniqueQueueId else event.extra) =
        (state.queueUpdates.lookup (if event.extra = 0 then state.uniqueQueueId else event.extra)).getD [] := by
      simp [valueOr]
    refine ⟨advances_trans env clock lossy excuse _ _ _ loading.advances ?_, sorted.2, restKept, fun other kept unloaded => ?_⟩
    · simpa only [loadedCore, State.core, same, freshUpdate] using advanced
    · simp only [lookup_insert] at unloaded
      have old : state.updateMap.lookup other.id = none := by
        split at unloaded
        · cases unloaded
        · exact unloaded
      rcases loading.others other kept old with member | after
      · rcases List.mem_cons.1 member with rfl | later
        · simp at unloaded
        · exact .inl later
      · exact .inr fun item member => after item (List.mem_cons_of_mem event member)

theorem offset_set_advances (core : Core TQueueState) (offset : Option EventId) (sound : Sound env core)
    (fits : ∀ set, offset = some set → set ≤ env.tqueue.tail core.tqueue ∧
      ∀ event, event ∈ env.tqueue.kept core.tqueue → core.updateMap.lookup event.id = none → set ≤ event.id) :
    Advances env clock lossy excuse core { core with tqueueOffset := offset } :=
  ⟨⟨⟨sound.nonempty, sound.stored, sound.listed, sound.once, sound.ordered, sound.above, fits, sound.tail⟩, sound.inv,
    sound.connected⟩, .refl, unlogged_forgets env clock _ _ rfl rfl⟩

theorem head_fits (core : Core TQueueState) (head : EventId) (found : env.tqueue.getHead core.tqueue = some head) :
    head ≤ env.tqueue.tail core.tqueue ∧
      ∀ event, event ∈ env.tqueue.kept core.tqueue → core.updateMap.lookup event.id = none → head ≤ event.id := by
  have below := env.tqueue.headBelow core.tqueue head found
  exact ⟨below.1, fun event kept _ => below.2 event kept⟩

theorem fetched_loading (start : Core TQueueState) (state : State TQueueState Flood) (offset : EventId)
    (unixTimeNow : Int) (shown : clock unixTimeNow) (limit size : Nat) (events : List TQueueEvent) (tqueue : TQueueState)
    (advances : Advances env clock lossy excuse start state.core) (set : state.tqueueOffset = some offset)
    (got : env.tqueue.get state.tqueue offset false unixTimeNow limit = some (size, events, tqueue)) :
    Loading env clock lossy excuse start events { state with tqueue := tqueue } := by
  have kept := env.tqueue.getKept _ _ _ _ _ _ _ _ got
  have evolves : env.tqueue.Evolves state.tqueue tqueue :=
    ⟨fun event member => .inl (kept.2.1.subset member), Nat.le_of_eq kept.1.symm⟩
  have changed : Advances env clock lossy excuse state.core { state.core with tqueue := tqueue } :=
    ⟨tqueue_changed_sound env state.core tqueue advances.sound evolves, .refl, [], (List.append_nil _).symm,
      .get _ _ _ offset unixTimeNow limit size events tqueue (.refl state.tqueue) shown got⟩
  refine ⟨advances_trans env clock lossy excuse _ _ _ advances changed, ?_, ?_, ?_⟩
  · exact env.tqueue.events_increasing _ _ _ _ _ _ _ _ got
  · exact fun event member => (env.tqueue.mem_of_get _ _ _ _ _ _ _ _ got event member).1
  · intro other present unloaded
    by_cases after : ∀ event, event ∈ events → event.id < other.id
    · exact .inr after
    · push Not at after
      obtain ⟨event, member, notBefore⟩ := after
      have above := (changed.sound.offset offset set).2 other present unloaded
      exact .inl (env.tqueue.mem_events_of_le _ _ _ _ _ _ _ _ got other event present above member notBefore)

theorem fetch_updates_loading (start : Core TQueueState) (state : State TQueueState Flood) (offset : EventId)
    (unixTimeNow : Int) (shown : clock unixTimeNow) (limit : Nat)
    (advances : Advances env clock lossy excuse start state.core)
    (set : state.tqueueOffset = some offset) :
    Meets (fun _ => True) (fun fetched => Loading env clock lossy excuse start fetched.2.1 fetched.2.2)
      (fetchUpdates env offset unixTimeNow limit state) := by
  unfold fetchUpdates
  split
  · rename_i size events tqueue got
    exact fetched_loading env clock lossy excuse start state offset unixTimeNow shown limit size events tqueue
      advances set got
  · split
    · exact trivial
    · rename_i head found
      split
      · exact trivial
      · rename_i size events tqueue got
        have reset := offset_set_advances env clock lossy excuse state.core (some head) advances.sound
          (fun set same => by
            cases same
            exact head_fits env state.core head found)
        exact fetched_loading env clock lossy excuse start { state with tqueueOffset := some head } head unixTimeNow shown
          limit size events tqueue (advances_trans env clock lossy excuse _ _ _ advances reset) rfl got

theorem tell_success_core (drained : Bool) (state : State TQueueState Flood) :
    (tellSuccess drained state).core = state.core := by
  unfold tellSuccess
  split <;> rfl

theorem load_updates_advances (draws : Draws) (state : State TQueueState Flood)
    (shown : clock (getUnixTime env.settings.unixTimeDifference draws.loadedAt)) (sound : Sound env state.core) :
    Meets (fun _ => True) (fun after => Advances env clock lossy excuse state.core after.core)
      (loadUpdates env draws state) := by
  have same := advances_refl env clock lossy excuse state.core sound
  unfold loadUpdates
  split
  · exact same
  · split
    · exact meets_require _ _ _ _ _ (fun _ => trivial) fun _ => same
    · have started : Advances env clock lossy excuse state.core
          { state.core with tqueueOffset := state.tqueueOffset.or (env.tqueue.getHead state.tqueue) } := by
        refine offset_set_advances env clock lossy excuse state.core _ sound fun set found => ?_
        cases before : state.tqueueOffset with
        | none => exact head_fits env state.core set (by simpa [State.core, before] using found)
        | some offset => exact sound.offset set (by simpa [State.core, before] using found)
      dsimp only
      split
      · rw [meets_ok, tell_success_core]
        exact started
      · rename_i offset set
        refine meets_bind _ _ _ _ _ (fetch_updates_loading env clock lossy excuse state.core _ offset _ shown _ started set) ?_
        rintro ⟨totalSize, events, fetched⟩ loading
        refine meets_bind _ (Loading env clock lossy excuse state.core []) _ _ _ ?_ ?_
        · refine meets_foldlM_rest _ (Loading env clock lossy excuse state.core) _ events _ ?_ ?_
          · exact ⟨loading.advances, loading.sorted, loading.kept, loading.others⟩
          · exact fun event rest state => load_update_loading env clock lossy excuse _ _ _ event rest state
        · intro loaded done
          rw [meets_pure, tell_success_core]
          exact done.advances

theorem relax_wakeup_at_core (wakeupAt : Int) (state : State TQueueState Flood) :
    (relaxWakeupAt wakeupAt state).core = state.core := by
  unfold relaxWakeupAt
  split <;> rfl

theorem resolve_ip_address_core (draws : Draws) (state : State TQueueState Flood) :
    (resolveIpAddress env draws state).core = state.core := by
  unfold resolveIpAddress
  split
  · rfl
  · split
    · exact relax_wakeup_at_core _ state
    · rfl

theorem on_webhook_error_core (error : String) (state : State TQueueState Flood) :
    (onWebhookError error state).core = state.core := by
  unfold onWebhookError
  split <;> rfl

theorem on_error_core (error : String) (state : State TQueueState Flood) :
    Meets (fun _ => True) (fun after => after.core = state.core) (onError error state) := by
  unfold onError
  split
  · exact meets_require _ _ _ _ _ (fun _ => trivial) fun _ => rfl
  · rfl

theorem create_webhook_error_core (errorMessage result : String) (isPublic : Bool) (state : State TQueueState Flood) :
    Meets (fun _ => True) (fun after => after.core = state.core)
      (createWebhookError errorMessage result isPublic state) := by
  have told := on_error_core result
    (onWebhookError (if isPublic then errorMessage ++ ": " ++ result else errorMessage) state)
  rwa [on_webhook_error_core] at told

theorem verify_unchecked_core (state : State TQueueState Flood) : (verifyUnchecked state).core = state.core := by
  unfold verifyUnchecked
  split <;> rfl

theorem add_flood_event_core (active : Bool) (now : Int) (state : State TQueueState Flood) :
    (addFloodEvent env active now state).core = state.core := by
  unfold addFloodEvent
  split <;> rfl

theorem connection_added_advances (state : State TQueueState Flood) (sound : Sound env state.core) :
    Advances env clock lossy excuse state.core (addConnection state).core := by
  have unused : state.connections.lookup state.nextConnectionId = none := by
    cases found : state.connections.lookup state.nextConnectionId with
    | none => rfl
    | some connection => exact absurd (sound.connected.fresh _ connection found) (Nat.lt_irrefl _)
  have flights : eventOf (state.connections.insert state.nextConnectionId ⟨none, state.ipGeneration⟩) =
      eventOf state.connections := by
    rw [eventOf, value_or_insert]
    exact Function.update_eq_self_iff.2 (value_or_missing none _ _ _ unused).symm
  have same : delivery (addConnection state).core = delivery state.core := by
    simp only [delivery, addConnection, State.core, KeyedDelivery.State.mk.injEq]
    exact ⟨trivial, trivial, flights, trivial⟩
  refine ⟨⟨⟨sound.nonempty, sound.stored, sound.listed, sound.once, sound.ordered, sound.above, sound.offset,
    sound.tail⟩, same ▸ sound.inv, ⟨?_, ?_, ?_, ?_⟩⟩, same ▸ .refl, unlogged_forgets env clock _ _ rfl rfl⟩
  · intro connectionId member
    simp only [addConnection, State.core, lookup_insert]
    split
    · exact ⟨state.ipGeneration, rfl⟩
    · rename_i different
      rcases List.mem_append.1 member with old | new
      · exact sound.connected.ready connectionId old
      · exact absurd (List.mem_singleton.1 new) different
  · intro connectionId ipGeneration found
    simp only [addConnection, State.core, lookup_insert] at found ⊢
    split at found
    · rename_i same
      exact List.mem_append_right _ (List.mem_singleton.2 same)
    · exact List.mem_append_left _ (sound.connected.idle connectionId ipGeneration found)
  · refine List.nodup_append.2 ⟨sound.connected.readyOnce, List.nodup_singleton _, ?_⟩
    intro old member new added
    rw [List.mem_singleton.1 added]
    rintro rfl
    obtain ⟨ipGeneration, found⟩ := sound.connected.ready _ member
    change state.connections.lookup state.nextConnectionId = _ at found
    rw [unused] at found
    cases found
  · intro connectionId connection found
    simp only [addConnection, State.core, lookup_insert] at found ⊢
    split at found
    · rename_i same
      exact same ▸ Nat.lt_succ_self _
    · exact Nat.lt_succ_of_lt (sound.connected.fresh connectionId connection found)

theorem create_connection_over_advances (draws : Draws) (attempt : Nat) (state : State TQueueState Flood)
    (sound : Sound env state.core) :
    Meets (fun _ => True) (fun created => Advances env clock lossy excuse state.core created.2.core)
      (createConnectionOver env draws attempt state) := by
  have same := advances_refl env clock lossy excuse state.core sound
  have added : Advances env clock lossy excuse state.core (verifyUnchecked (addConnection state)).core := by
    rw [verify_unchecked_core]
    exact connection_added_advances env clock lossy excuse state sound
  unfold createConnectionOver
  split
  · refine meets_require _ _ _ _ _ (fun _ => trivial) fun _ => ?_
    split
    · exact added
    · refine meets_bind _ _ _ _ _ (create_webhook_error_core _ _ _ state) fun failed unchanged => ?_
      rw [meets_pure, unchanged]
      exact same
  · exact added

theorem create_connection_advances (draws : Draws) (attempt : Nat) (state : State TQueueState Flood)
    (sound : Sound env state.core) :
    Meets (fun _ => True) (fun created => Advances env clock lossy excuse state.core created.2.core)
      (createConnection env draws attempt state) := by
  have same := advances_refl env clock lossy excuse state.core sound
  have failing (message : String) : Meets (fun _ => True)
      (fun created : Bool × State TQueueState Flood => Advances env clock lossy excuse state.core created.2.core)
      (do
        let failed ← createWebhookError message "Socket error" false state
        return (false, failed)) := by
    refine meets_bind _ _ _ _ _ (create_webhook_error_core _ _ _ state) fun failed unchanged => ?_
    rw [meets_pure, unchanged]
    exact same
  unfold createConnection
  refine meets_require _ _ _ _ _ (fun _ => trivial) fun _ => ?_
  split
  · split
    · have checked : (verifyUnchecked state).core = state.core := verify_unchecked_core state
      change Advances env clock lossy excuse state.core (verifyUnchecked state).core
      rw [checked]
      exact same
    · exact failing _
  · split
    · exact create_connection_over_advances env clock lossy excuse draws attempt state sound
    · exact failing _

theorem open_connections_advances (draws : Draws) (need : Nat) (active : Bool) (fuel attempt : Nat)
    (state : State TQueueState Flood) (sound : Sound env state.core) :
    Meets (fun _ => True) (fun opened => Advances env clock lossy excuse state.core opened.2.core)
      (openConnections env draws need active fuel attempt state) := by
  induction fuel generalizing attempt state with
  | zero => exact advances_refl env clock lossy excuse state.core sound
  | succ fuel ih =>
      have same := advances_refl env clock lossy excuse state.core sound
      unfold openConnections
      split
      · dsimp only
        split
        · rw [meets_ok, relax_wakeup_at_core]
          exact same
        · have counted := add_flood_event_core env active draws.connectedAt state
          have created := create_connection_advances env clock lossy excuse draws attempt
            (addFloodEvent env active draws.connectedAt state) (counted ▸ sound)
          rw [counted] at created
          refine meets_bind _ _ _ _ _ created ?_
          rintro ⟨made, after⟩ advanced
          cases made with
          | true =>
              rw [if_pos rfl]
              exact meets_weaken _ _ _ _ (fun _ => advances_trans env clock lossy excuse _ _ _ advanced)
                (ih (attempt + 1) after advanced.sound)
          | false =>
              rw [if_neg Bool.false_ne_true, meets_pure, relax_wakeup_at_core]
              exact advanced
      · exact same

theorem use_ready_sockets_advances (draws : Draws) (need sockets attempt : Nat) (state : State TQueueState Flood)
    (sound : Sound env state.core) :
    Meets (fun _ => True) (fun after => Advances env clock lossy excuse state.core after.core)
      (useReadySockets env draws need sockets attempt state) := by
  induction sockets generalizing attempt state with
  | zero => exact advances_refl env clock lossy excuse state.core sound
  | succ sockets ih =>
      unfold useReadySockets
      split
      · refine meets_bind _ _ _ _ _ (create_connection_over_advances env clock lossy excuse draws attempt
          { state with readySockets := sockets } sound) ?_
        rintro ⟨made, after⟩ advanced
        dsimp only
        cases made with
        | true =>
            rw [if_pos rfl]
            exact meets_weaken _ _ _ _ (fun _ => advances_trans env clock lossy excuse _ _ _ advanced)
              (ih (attempt + 1) after advanced.sound)
        | false =>
            rw [if_neg Bool.false_ne_true]
            change Advances env clock lossy excuse state.core (relaxWakeupAt _ after).core
            rw [relax_wakeup_at_core]
            exact advanced
      · exact advances_refl env clock lossy excuse state.core sound

theorem create_new_connections_advances (draws : Draws) (state : State TQueueState Flood)
    (sound : Sound env state.core) :
    Meets (fun _ => True) (fun after => Advances env clock lossy excuse state.core after.core)
      (createNewConnections env draws state) := by
  have same := advances_refl env clock lossy excuse state.core sound
  unfold createNewConnections
  split
  · exact same
  · split
    · exact same
    · refine meets_bind _ _ _ _ _ (open_connections_advances env clock lossy excuse draws _ _ _ 0 state sound) ?_
      rintro ⟨continues, after⟩ advanced
      dsimp only
      cases continues with
      | true =>
          rw [if_pos rfl]
          exact meets_weaken _ _ _ _ (fun _ => advances_trans env clock lossy excuse _ _ _ advanced)
            (use_ready_sockets_advances env clock lossy excuse draws _ _ _ after advanced.sound)
      | false => exact advanced

theorem touched_advances (core : Core TQueueState) (id : EventId) (old new : Update) (sound : Sound env core)
    (found : core.updateMap.lookup id = some old) (sameId : new.id = old.id) (sameQueue : new.queueId = old.queueId) :
    Advances env clock lossy excuse core { core with updateMap := core.updateMap.insert id new } := by
  have stillMissing (other : EventId) (missing : (core.updateMap.insert id new).lookup other = none) :
      core.updateMap.lookup other = none := by
    rw [lookup_insert] at missing
    split at missing
    · cases missing
    · exact missing
  refine ⟨⟨⟨sound.nonempty, ?_, ?_, sound.once, sound.ordered, ?_, ?_, sound.tail⟩, sound.inv, sound.connected⟩, .refl,
    unlogged_forgets env clock _ _ rfl rfl⟩
  · intro other update present
    simp only [lookup_insert] at present
    split at present
    · rename_i same
      cases present
      rw [same, sameQueue, sameId]
      exact sound.stored id old found
    · exact sound.stored other update present
  · intro queueId other member
    obtain ⟨update, present, owner⟩ := sound.listed queueId other member
    simp only [lookup_insert]
    by_cases same : other = id
    · subst same
      rw [found, Option.some.injEq] at present
      subst present
      exact ⟨new, if_pos rfl, sameQueue.trans owner⟩
    · exact ⟨update, by rw [if_neg same]; exact present, owner⟩
  · exact fun event kept missing => sound.above event kept (stillMissing event.id missing)
  · exact fun offset set => ⟨(sound.offset offset set).1,
      fun event kept missing => (sound.offset offset set).2 event kept (stillMissing event.id missing)⟩

theorem ids_of_tail (queue : Queue) (queues : List Queue) (once : ((queue :: queues).map Queue.id).Nodup)
    (other : QueueId) :
    other ∈ queues.map Queue.id ↔ other ∈ (queue :: queues).map Queue.id ∧ other ≠ queue.id := by
  rw [List.map_cons, List.nodup_cons] at once
  rw [List.map_cons, List.mem_cons]
  constructor
  · exact fun member => ⟨.inr member, fun same => once.1 (same ▸ member)⟩
  · rintro ⟨same | member, different⟩
    · exact absurd same different
    · exact member

-- A header that cannot be built loses the place of the queue.
theorem lost_advances (core : Core TQueueState) (queue : Queue) (queues : List Queue) (loses : lossy)
    (sound : Sound env core) (front : core.queues = queue :: queues) :
    Advances env clock lossy excuse core { core with queues := queues } := by
  have once := sound.once
  have ordered := sound.ordered
  rw [front] at once ordered
  have step : KeyedDelivery.Step lossy excuse (delivery core) (delivery { core with queues := queues }) := by
    have same : delivery { core with queues := queues } = KeyedDelivery.lose queue.id (delivery core) := by
      simp only [delivery, KeyedDelivery.lose, KeyedDelivery.State.mk.injEq, true_and, and_true]
      ext other
      simp only [Set.mem_ofPred_eq, front]
      exact ids_of_tail queue queues once other
    rw [same]
    exact .lose (delivery core) queue.id loses
  rw [List.map_cons, List.nodup_cons] at once
  exact ⟨⟨⟨sound.nonempty, sound.stored, sound.listed, once.2, ordered.of_cons, sound.above, sound.offset, sound.tail⟩,
    KeyedDelivery.step_inv lossy excuse _ _ step sound.inv, sound.connected⟩, .single step,
    unlogged_forgets env clock _ _ rfl rfl⟩

theorem written_advances (core : Core TQueueState) (queue : Queue) (queues : List Queue) (connectionId : ConnectionId)
    (readyConnections : List ConnectionId) (eventId : EventId) (rest : List EventId) (ipGeneration : Int)
    (sound : Sound env core) (front : core.queues = queue :: queues)
    (ready : core.readyConnections = connectionId :: readyConnections)
    (first : pendingOf core.queueUpdates queue.id = eventId :: rest) :
    Advances env clock lossy excuse core { core with
      queues := queues
      readyConnections := readyConnections
      connections := core.connections.insert connectionId ⟨some eventId, ipGeneration⟩
      log := core.log ++ [.written eventId connectionId] } := by
  have once := sound.once
  have ordered := sound.ordered
  have readyOnce := sound.connected.readyOnce
  rw [front] at once ordered
  rw [ready, List.nodup_cons] at readyOnce
  obtain ⟨generation, idle⟩ := sound.connected.ready connectionId (by rw [ready]; exact List.mem_cons_self)
  have step : KeyedDelivery.Step lossy excuse (delivery core) (delivery { core with
      queues := queues
      readyConnections := readyConnections
      connections := core.connections.insert connectionId ⟨some eventId, ipGeneration⟩
      log := core.log ++ [.written eventId connectionId] }) := by
    have same : delivery { core with
        queues := queues
        readyConnections := readyConnections
        connections := core.connections.insert connectionId ⟨some eventId, ipGeneration⟩
        log := core.log ++ [.written eventId connectionId] } =
        KeyedDelivery.write connectionId queue.id eventId (delivery core) := by
      simp only [delivery, KeyedDelivery.write, KeyedDelivery.State.mk.injEq, true_and, and_true]
      refine ⟨?_, value_or_insert none Connection.eventId core.connections connectionId _⟩
      ext other
      simp only [Set.mem_ofPred_eq, front]
      exact ids_of_tail queue queues once other
    rw [same]
    refine .write (delivery core) connectionId queue.id eventId rest ?_ ?_ first
    · exact value_or_found none Connection.eventId core.connections connectionId _ idle
    · change queue.id ∈ core.queues.map Queue.id
      rw [front, List.map_cons]
      exact List.mem_cons_self
  rw [List.map_cons, List.nodup_cons] at once
  refine ⟨⟨⟨sound.nonempty, sound.stored, sound.listed, once.2, ordered.of_cons, ?_, sound.offset, ?_⟩,
    KeyedDelivery.step_inv lossy excuse _ _ step sound.inv, ?_, ?_, readyOnce.2, ?_⟩, .single step,
    forgets_nothing env clock _ _ [.written eventId connectionId] rfl rfl rfl⟩
  · intro event kept missing id queueId loaded
    exact sound.above event kept missing id queueId (by simpa using loaded)
  · intro id queueId loaded
    exact sound.tail id queueId (by simpa using loaded)
  · intro other member
    have different : other ≠ connectionId := fun same => readyOnce.1 (same ▸ member)
    simp only [lookup_insert, if_neg different]
    exact sound.connected.ready other (by rw [ready]; exact List.mem_cons_of_mem _ member)
  · intro other generation found
    simp only [lookup_insert] at found
    split at found
    · cases found
    · rename_i different
      have member := sound.connected.idle other generation found
      rw [ready] at member
      exact (List.mem_cons.1 member).resolve_left different
  · intro other connection found
    simp only [lookup_insert] at found
    split at found
    · rename_i same
      exact same ▸ sound.connected.fresh connectionId _ idle
    · exact sound.connected.fresh other connection found

theorem send_update_advances (draws : Draws) (attempt : Nat) (state : State TQueueState Flood)
    (headers : lossy ∨ ∀ attempt, draws.headerFinishes attempt = true) (sound : Sound env state.core) :
    Meets (fun _ => True) (fun sent => Advances env clock lossy excuse state.core sent.2.core)
      (sendUpdate draws attempt state) := by
  have same := advances_refl env clock lossy excuse state.core sound
  unfold sendUpdate
  split
  · exact same
  · exact same
  · rename_i connectionId readyConnections queue queues ready front
    dsimp only
    split
    · rw [meets_ok, relax_wakeup_at_core]
      exact same
    · refine meets_require _ _ _ _ _ (fun _ => trivial) fun _ => ?_
      split
      · exact trivial
      · exact trivial
      · rename_i eventId rest listed
        split
        · exact trivial
        · rename_i update found
          have first := pending_of_found state.queueUpdates queue.id _ listed
          have named := (sound.stored eventId update found).1
          have touched := touched_advances env clock lossy excuse state.core eventId update
            { update with lastSendTime := draws.sentAt attempt } sound found rfl rfl
          split
          · rename_i failed
            have loses : lossy := by
              rcases headers with loses | finishes
              · exact loses
              · simp [finishes attempt] at failed
            exact advances_trans env clock lossy excuse _ _ _ touched
              (lost_advances env clock lossy excuse _ queue queues loses touched.sound front)
          · subst named
            exact advances_trans env clock lossy excuse _ _ _ touched
              (written_advances env clock lossy excuse _ queue queues connectionId readyConnections update.id rest _
                touched.sound front ready first)

theorem send_updates_from_advances (draws : Draws) (fuel attempt : Nat) (state : State TQueueState Flood)
    (headers : lossy ∨ ∀ attempt, draws.headerFinishes attempt = true) (sound : Sound env state.core) :
    Meets (fun _ => True) (fun after => Advances env clock lossy excuse state.core after.core)
      (sendUpdatesFrom draws fuel attempt state) := by
  induction fuel generalizing attempt state with
  | zero => exact advances_refl env clock lossy excuse state.core sound
  | succ fuel ih =>
      unfold sendUpdatesFrom
      refine meets_bind _ _ _ _ _ (send_update_advances env clock lossy excuse draws attempt state headers sound) ?_
      rintro ⟨sent, after⟩ advanced
      dsimp only
      cases sent with
      | true =>
          rw [if_pos rfl]
          exact meets_weaken _ _ _ _ (fun _ => advances_trans env clock lossy excuse _ _ _ advanced)
            (ih (attempt + 1) after advanced.sound)
      | false => exact advanced

theorem unless_stopping_advances (stage : State TQueueState Flood → Except Check (State TQueueState Flood))
    (state : State TQueueState Flood) (sound : Sound env state.core)
    (advances : Meets (fun _ => True) (fun after => Advances env clock lossy excuse state.core after.core) (stage state)) :
    Meets (fun _ => True) (fun after => Advances env clock lossy excuse state.core after.core)
      (unlessStopping stage state) := by
  unfold unlessStopping
  split
  · exact advances_refl env clock lossy excuse state.core sound
  · exact advances

theorem loop_advances (draws : Draws) (state : State TQueueState Flood)
    (shown : clock (getUnixTime env.settings.unixTimeDifference draws.loadedAt))
    (headers : lossy ∨ ∀ attempt, draws.headerFinishes attempt = true) (sound : Sound env state.core) :
    Meets (fun _ => True) (fun after => Advances env clock lossy excuse state.core after.core) (loop env draws state) := by
  unfold loop
  refine advances_bind env clock lossy excuse state.core _ _ State.core ?_ fun loaded sound => ?_
  · exact unless_stopping_advances env clock lossy excuse _ { state with wakeupAt := 0 } sound
      (load_updates_advances env clock lossy excuse draws _ shown sound)
  refine advances_bind env clock lossy excuse loaded.core _ _ State.core ?_ fun resolving sound => ?_
  · refine unless_stopping_advances env clock lossy excuse _ loaded sound ?_
    rw [meets_ok, resolve_ip_address_core]
    exact advances_refl env clock lossy excuse loaded.core sound
  refine advances_bind env clock lossy excuse resolving.core _ _ State.core ?_ fun connected sound => ?_
  · exact unless_stopping_advances env clock lossy excuse _ resolving sound
      (create_new_connections_advances env clock lossy excuse draws resolving sound)
  refine advances_bind env clock lossy excuse connected.core _ _ State.core ?_ fun sent sound => ?_
  · exact unless_stopping_advances env clock lossy excuse _ connected sound
      (send_updates_from_advances env clock lossy excuse draws _ 0 connected headers sound)
  · exact advances_refl env clock lossy excuse sent.core sound

end Delivery

end TelegramBotApi.WebhookActor
