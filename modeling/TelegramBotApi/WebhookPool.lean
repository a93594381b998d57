import TelegramBotApi.WebhookLimits
import TelegramBotApi.WebhookScheduling

set_option autoImplicit false

namespace TelegramBotApi.WebhookActor

open Checked Tables

structure Worker (TQueueState Flood : Type) where
  env : Environment TQueueState Flood
  state : State TQueueState Flood

-- The live webhook actors of all bots and the counter that they share.
structure Pool (TQueueState Flood : Type) where
  totalConnectionCount : Int := 0
  workers : Table Nat (Worker TQueueState Flood) := ∅

inductive PoolEvent (TQueueState Flood : Type) where
  | create (id : Nat) (env : Environment TQueueState Flood) (draws : Draws) (tqueue : TQueueState)
  | act (id : Nat) (event : Event TQueueState)

section Pool

variable {TQueueState Flood : Type}

def Worker.connectionCount (worker : Worker TQueueState Flood) : Int := worker.state.connections.keys.length

def Pool.connectionCount (pool : Pool TQueueState Flood) : Int := ((values pool.workers).map Worker.connectionCount).sum

-- The actor finds the counter as the last one left it.
def Worker.enter (totalConnectionCount : Int) (worker : Worker TQueueState Flood) : State TQueueState Flood :=
  { worker.state with totalConnectionCount := totalConnectionCount }

def tearDown (state : State TQueueState Flood) : State TQueueState Flood :=
  { state with totalConnectionCount := state.totalConnectionCount - state.connections.keys.length }

def Pool.leave (id : Nat) (env : Environment TQueueState Flood) (state : State TQueueState Flood)
    (pool : Pool TQueueState Flood) : Pool TQueueState Flood :=
  if state.stopped then
    { totalConnectionCount := (tearDown state).totalConnectionCount, workers := pool.workers.erase id }
  else { totalConnectionCount := state.totalConnectionCount, workers := pool.workers.insert id ⟨env, state⟩ }

def Pool.step (pool : Pool TQueueState Flood) : PoolEvent TQueueState Flood → Except Check (Pool TQueueState Flood)
  | .create id env draws tqueue => do
      let state ← startUp env draws tqueue
      return { pool with workers := pool.workers.insert id ⟨env, state⟩ }
  | .act id event =>
      match pool.workers.lookup id with
      | none => .ok pool
      | some worker => do
          let state ← WebhookActor.step worker.env (worker.enter pool.totalConnectionCount) event
          return pool.leave id worker.env state

def Pool.enabled (pool : Pool TQueueState Flood) : PoolEvent TQueueState Flood → Prop
  | .create id _ _ _ => pool.workers.lookup id = none
  | .act id event => ∃ worker, pool.workers.lookup id = some worker ∧ WebhookActor.enabled worker.env worker.state event

def webhookActors : Transition.Machine (Pool TQueueState Flood) (PoolEvent TQueueState Flood) Check where
  start pool := pool = {}
  enabled := Pool.enabled
  step := Pool.step

-- Every actor is within its limits when the counter is set off against its own share.
structure PoolLimited (pool : Pool TQueueState Flood) : Prop where
  workers : ∀ id worker, pool.workers.lookup id = some worker → ∀ total : Int,
    Limited worker.env (total - worker.connectionCount) (worker.enter total)
  counted : pool.totalConnectionCount = pool.connectionCount

theorem connection_count_split (pool : Pool TQueueState Flood) (id : Nat) (worker : Worker TQueueState Flood)
    (found : pool.workers.lookup id = some worker) :
    pool.connectionCount = worker.connectionCount + ((values (pool.workers.erase id)).map Worker.connectionCount).sum := by
  rw [Pool.connectionCount, ← values_erase pool.workers id worker found, Multiset.map_cons, Multiset.sum_cons]

theorem limited_recounted (env : Environment TQueueState Flood) (others total : Int) (state : State TQueueState Flood)
    (limited : Limited env others state) :
    Limited env (total - (⟨env, state⟩ : Worker TQueueState Flood).connectionCount)
      ((⟨env, state⟩ : Worker TQueueState Flood).enter total) := by
  refine ⟨limited.sockets, limited.loaded, limited.maxLoaded, limited.fresh, limited.ready, ?_⟩
  simp only [State.usage, Worker.enter, Worker.connectionCount, sub_add_cancel]

theorem workers_inserted (workers : Table Nat (Worker TQueueState Flood)) (id : Nat) (env : Environment TQueueState Flood)
    (others : Int) (state : State TQueueState Flood) (limited : Limited env others state)
    (kept : ∀ id worker, workers.lookup id = some worker → ∀ total : Int,
      Limited worker.env (total - worker.connectionCount) (worker.enter total)) :
    ∀ other worker, (workers.insert id ⟨env, state⟩).lookup other = some worker → ∀ total : Int,
      Limited worker.env (total - worker.connectionCount) (worker.enter total) := by
  intro other worker found total
  rw [lookup_insert] at found
  split at found
  · cases found
    exact limited_recounted env others total state limited
  · exact kept other worker found total

theorem start_up_limited (env : Environment TQueueState Flood) (draws : Draws) (tqueue : TQueueState) :
    Meets Unlimited (fun after => Limited env 0 after ∧ after.connections = ∅) (startUp env draws tqueue) := by
  apply meets_weaken _ _ _ _ _ (start_up_usage env draws tqueue)
  intro after same
  refine ⟨?_, congrArg Usage.connections same⟩
  rw [Limited, same]
  exact ⟨Nat.zero_le _, Nat.zero_le _, rfl, fun id member => absurd member (AList.notMem_empty id),
    fun id member => absurd member List.not_mem_nil, rfl⟩

theorem create_limited (pool : Pool TQueueState Flood) (id : Nat) (env : Environment TQueueState Flood) (draws : Draws)
    (tqueue : TQueueState) (absent : pool.workers.lookup id = none) (limited : PoolLimited pool) :
    Meets Unlimited PoolLimited (pool.step (.create id env draws tqueue)) := by
  refine meets_bind _ _ _ _ _ (start_up_limited env draws tqueue) ?_
  rintro state ⟨started, connections⟩
  refine ⟨workers_inserted pool.workers id env 0 state started limited.workers, ?_⟩
  have idle : (⟨env, state⟩ : Worker TQueueState Flood).connectionCount = 0 := by
    rw [Worker.connectionCount, connections]
    rfl
  rw [Pool.connectionCount, values_insert_new _ _ _ absent, Multiset.map_cons, Multiset.sum_cons, idle, zero_add]
  exact limited.counted

theorem leave_limited (pool : Pool TQueueState Flood) (id : Nat) (worker : Worker TQueueState Flood)
    (state : State TQueueState Flood) (found : pool.workers.lookup id = some worker) (limited : PoolLimited pool)
    (kept : Limited worker.env (pool.totalConnectionCount - worker.connectionCount) state) :
    PoolLimited (pool.leave id worker.env state) := by
  have rest : ((values (pool.workers.erase id)).map Worker.connectionCount).sum =
      pool.totalConnectionCount - worker.connectionCount := by
    rw [limited.counted, connection_count_split pool id worker found, add_sub_cancel_left]
  have counted : state.totalConnectionCount =
      pool.totalConnectionCount - worker.connectionCount + state.connections.keys.length := kept.counted
  unfold Pool.leave
  split
  · constructor
    · intro other remaining listed
      rw [lookup_erase] at listed
      split at listed
      · cases listed
      · exact limited.workers other remaining listed
    · rw [Pool.connectionCount, rest]
      simp only [tearDown, counted, add_sub_cancel_right]
  · refine ⟨workers_inserted pool.workers id worker.env _ state kept limited.workers, ?_⟩
    have own : (⟨worker.env, state⟩ : Worker TQueueState Flood).connectionCount = state.connections.keys.length := rfl
    rw [Pool.connectionCount, values_insert, Multiset.map_cons, Multiset.sum_cons, rest, counted, own]
    ring

theorem pool_step_limited (pool : Pool TQueueState Flood) (event : PoolEvent TQueueState Flood)
    (allowed : pool.enabled event) (limited : PoolLimited pool) : Meets Unlimited PoolLimited (pool.step event) := by
  cases event with
  | create id env draws tqueue => exact create_limited pool id env draws tqueue allowed limited
  | act id event =>
      obtain ⟨worker, found, offered⟩ := allowed
      simp only [Pool.step, found]
      refine meets_bind _ _ _ _ _ (step_limits worker.env (pool.totalConnectionCount - worker.connectionCount)
        (worker.enter pool.totalConnectionCount) event offered ?_) ?_
      · exact limited.workers id worker found pool.totalConnectionCount
      · intro state kept
        exact leave_limited pool id worker state found limited kept

theorem start_pool_limited (pool : Pool TQueueState Flood) (initial : pool = {}) : PoolLimited pool := by
  subst initial
  exact ⟨fun id worker found => (by cases found), rfl⟩

structure WithinLimits (worker : Worker TQueueState Flood) : Prop where
  sockets : worker.state.connections.keys.length + worker.state.pendingSockets.length + worker.state.readySockets ≤
    worker.env.settings.maxConnections
  maxLoaded : worker.state.maxLoadedUpdates = 2 * worker.env.settings.maxConnections
  loaded : worker.state.queueUpdates.keys.length ≤ worker.state.maxLoadedUpdates

theorem webhook_actors_limited (pool : Pool TQueueState Flood)
    (reached : Transition.Reach webhookActors Transition.unrestricted pool) :
    (∀ id worker, pool.workers.lookup id = some worker → WithinLimits worker) ∧
    pool.totalConnectionCount = pool.connectionCount ∧
    ∀ event, pool.enabled event → pool.step event ≠ .error .maxLoadedUpdates := by
  have limited : PoolLimited pool := Transition.reach_meets webhookActors Transition.unrestricted Unlimited PoolLimited
    start_pool_limited (fun before event held offered _ => pool_step_limited before event offered held) pool reached
  refine ⟨?_, limited.counted, ?_⟩
  · intro id worker found
    have within := limited.workers id worker found 0
    refine ⟨within.sockets, ?_, within.loaded⟩
    rw [Nat.mul_comm]
    exact within.maxLoaded
  · intro event offered failed
    have met := pool_step_limited pool event offered limited
    rw [failed] at met
    exact met rfl

end Pool

def deliveringPool : Pool ListQueue Unit where
  totalConnectionCount := 1
  workers := (∅ : Table Nat (Worker ListQueue Unit)).insert 1 ⟨localHttp, deliveredState true⟩

def poolEvents : List (PoolEvent ListQueue Unit) :=
  .create 1 localHttp {} (ListQueue.empty 1) :: (deliveryEvents true).map (.act 1)

theorem delivering_pool_limited : ∃ pool : Pool ListQueue Unit, pool.totalConnectionCount = 1 ∧
    (∀ id worker, pool.workers.lookup id = some worker → WithinLimits worker) ∧
    pool.totalConnectionCount = pool.connectionCount := by
  have clock (state : State ListQueue Unit) (started : state.startedAt = 0) (event : Event ListQueue) (draws : Draws)
      (_ : draws ∈ event.draws) : state.startedAt ≤ draws.resolvedAt := started ▸ Nat.zero_le _
  have reached : Transition.Reach webhookActors Transition.unrestricted deliveringPool := by
    apply Transition.reach_follows webhookActors Transition.unrestricted poolEvents {} deliveringPool (.start _ rfl)
    exact ⟨rfl, trivial, _, rfl, ⟨_, rfl, rfl, clock _ rfl _, pushed_evolves⟩, trivial, _, rfl,
      ⟨_, rfl, rfl, clock _ rfl _, trivial⟩, trivial, _, rfl, ⟨_, rfl, rfl, clock _ rfl _, rfl⟩, trivial, _, rfl, rfl⟩
  obtain ⟨limits, counted, _⟩ := webhook_actors_limited deliveringPool reached
  exact ⟨deliveringPool, rfl, limits, counted⟩

end TelegramBotApi.WebhookActor
