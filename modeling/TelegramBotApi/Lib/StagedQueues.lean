import TelegramBotApi.Lib.Checked

set_option autoImplicit false

-- Queues of items, one per key, whose first item passes through numbered stages. A stage
-- may hand a request to the environment, and the answer resumes the queue at a later stage.
namespace StagedQueues

open Checked

structure Queue (Item : Type) where
  items : List Item := []
  hasActiveRequest : Bool := false

-- The stages of an item from the given one on: the request it has to wait for, and what
-- is done with the item when it has to wait for none.
structure Stages (World Request Fault Item : Type) where
  advance : World → Item → Nat → Except Fault (Option Request)
  finish : World → Item → Nat → Except Fault World

structure Turn (World Request Item : Type) where
  world : World
  queue : Option (Queue Item)
  request : Option Request
  processed : List Item

variable {World Request Fault : Type}

section Loop

variable {Item : Type} (stages : Stages World Request Fault Item)

def loop : List Item → World → Nat → Except Fault (Turn World Request Item)
  | [], world, _ => .ok ⟨world, none, none, []⟩
  | item :: rest, world, state => do
      match ← stages.advance world item state with
      | some request => return ⟨world, some ⟨item :: rest, true⟩, some request, []⟩
      | none =>
          let after ← stages.finish world item state
          let turn ← loop rest after 0
          return { turn with processed := item :: turn.processed }

end Loop

structure State (Key World Request : Type) (Item : Key → Type) where
  world : World
  queues : (key : Key) → Option (Queue (Item key)) := fun _ => none
  outstanding : List (Key × Request) := []
  -- history
  arrived : (key : Key) → List (Item key) := fun _ => []
  processed : (key : Key) → List (Item key) := fun _ => []
  resumed : Key → Nat := fun _ => 0

variable {Key : Type} {Item : Key → Type}

namespace State

def items (state : State Key World Request Item) (key : Key) : List (Item key) :=
  (state.queues key).elim [] Queue.items

def evolve (state : State Key World Request Item) (world : World) : State Key World Request Item := { state with world }

variable [DecidableEq Key]

def requests (state : State Key World Request Item) (key : Key) : List Request :=
  (state.outstanding.filter (fun entry => entry.1 = key)).map Prod.snd

def push (state : State Key World Request Item) (key : Key) (item : Item key) : State Key World Request Item :=
  let queue := (state.queues key).getD {}
  { state with
    queues := Function.update state.queues key (some { queue with items := queue.items ++ [item] })
    arrived := Function.update state.arrived key (state.arrived key ++ [item]) }

def erase (state : State Key World Request Item) (key : Key) : State Key World Request Item :=
  { state with queues := Function.update state.queues key none }

def install (state : State Key World Request Item) (key : Key) (turn : Turn World Request (Item key)) :
    State Key World Request Item :=
  { state with
    world := turn.world
    queues := Function.update state.queues key turn.queue
    outstanding := state.outstanding ++ turn.request.toList.map (fun request => (key, request))
    processed := Function.update state.processed key (state.processed key ++ turn.processed) }

def take [DecidableEq Request] (state : State Key World Request Item) (key : Key) (request : Request) :
    State Key World Request Item :=
  { state with
    outstanding := state.outstanding.erase (key, request)
    resumed := Function.update state.resumed key (state.resumed key + 1) }

def replace [DecidableEq Request] (state : State Key World Request Item) (key : Key) (request changed : Request) :
    State Key World Request Item :=
  { state with outstanding := state.outstanding.erase (key, request) ++ [(key, changed)] }

-- The rest of the queue of a key that is not active, or no longer.
def proceed (stopped : World → Bool) (key : Key) (stages : Stages World Request Fault (Item key))
    (state : State Key World Request Item) (stage : Nat) : Except Fault (State Key World Request Item) :=
  if stopped state.world then .ok (state.erase key)
  else do
    let turn ← loop stages (state.items key) state.world stage
    return state.install key turn

-- The body of the functions that process a queue. Some of them assert that a queue with an
-- active request is not empty.
def process (stopped : World → Bool) (unexpectedStage : Fault) (emptyQueue : Option Fault) (key : Key)
    (stages : Stages World Request Fault (Item key)) (state : State Key World Request Item) (stage : Nat) :
    Except Fault (State Key World Request Item) :=
  let queue := (state.queues key).getD {}
  if queue.hasActiveRequest then
    match emptyQueue, queue.items with
    | some fault, [] => .error fault
    | _, _ => if stage = 0 then .ok state else state.proceed stopped key stages stage
  else if stage = 0 then state.proceed stopped key stages stage
  else .error unexpectedStage

end State

-- What the stages of the queues need and promise. Good says which items a queue may hold
-- and Waits what a request says about the item that waits for it; both last while the
-- world grows.
structure Contract (Key World Request : Type) (Item : Key → Type) where
  Sound : World → Prop
  Grows : World → World → Prop
  Good : World → (key : Key) → Item key → Prop
  Waits : World → (key : Key) → Item key → Request → Prop
  stopped : World → Bool
  last : Key → Nat
  resumesAt : Request → Nat

structure Contract.Lawful (contract : Contract Key World Request Item) : Prop where
  refl : ∀ world, contract.Grows world world
  trans : ∀ first middle last, contract.Grows first middle → contract.Grows middle last → contract.Grows first last
  good : ∀ world after key item, contract.Grows world after → contract.Good world key item → contract.Good after key item
  waits : ∀ world after key item request, contract.Grows world after → contract.Waits world key item request →
    contract.Waits after key item request
  running : ∀ world after, contract.Grows world after → contract.stopped after = false → contract.stopped world = false

structure Contract.Meets (contract : Contract Key World Request Item) (key : Key)
    (stages : Stages World Request Fault (Item key)) : Prop where
  advances : ∀ world item stage, contract.Sound world → contract.Good world key item → stage ≤ contract.last key →
    ∃ result, stages.advance world item stage = .ok result ∧ ∀ request, result = some request →
      contract.Waits world key item request ∧ stage < contract.resumesAt request ∧ contract.resumesAt request ≤ contract.last key
  finishes : ∀ world item stage, contract.Sound world → contract.Good world key item → stage ≤ contract.last key →
    ∃ after, stages.finish world item stage = .ok after ∧ contract.Sound after ∧ contract.Grows world after

def Turn.items {Item : Type} (turn : Turn World Request Item) : List Item := turn.queue.elim [] Queue.items

section Turns

variable (contract : Contract Key World Request Item) (key : Key)

structure Turned (items : List (Item key)) (world : World) (stage : Nat) (turn : Turn World Request (Item key)) : Prop where
  sound : contract.Sound turn.world
  grows : contract.Grows world turn.world
  split : turn.processed ++ turn.items = items
  waits : turn.queue = none ∧ turn.request = none ∨ ∃ item rest request, turn.queue = some ⟨item :: rest, true⟩ ∧
    turn.request = some request ∧ contract.Waits turn.world key item request ∧ contract.resumesAt request ≤ contract.last key ∧
    1 ≤ contract.resumesAt request ∧ (turn.processed = [] → stage < contract.resumesAt request)

theorem loop_turned (lawful : contract.Lawful) (stages : Stages World Request Fault (Item key))
    (meets : contract.Meets key stages) (items : List (Item key)) (world : World) (stage : Nat) (sound : contract.Sound world)
    (good : ∀ item ∈ items, contract.Good world key item) (small : stage ≤ contract.last key) :
    ∃ turn, loop stages items world stage = .ok turn ∧ Turned contract key items world stage turn ∧
      ∀ item rest, items = item :: rest → stages.advance world item stage = .ok none → turn.processed ≠ [] := by
  induction items generalizing world stage with
  | nil =>
      exact ⟨⟨world, none, none, []⟩, rfl, ⟨sound, lawful.refl world, rfl, .inl ⟨rfl, rfl⟩⟩, fun item rest same => by cases same⟩
  | cons item rest ih =>
      obtain ⟨result, advanced, promises⟩ := meets.advances world item stage sound (good item List.mem_cons_self) small
      rw [loop, advanced, ok_bind]
      cases result with
      | some request =>
          obtain ⟨waits, later, bound⟩ := promises request rfl
          refine ⟨_, rfl, ⟨sound, lawful.refl world, rfl,
            .inr ⟨item, rest, request, rfl, rfl, waits, bound, by omega, fun _ => later⟩⟩,
            fun other others same none => ?_⟩
          cases same
          rw [advanced] at none
          cases none
      | none =>
          obtain ⟨after, finished, soundAfter, grows⟩ :=
            meets.finishes world item stage sound (good item List.mem_cons_self) small
          have goodAfter (other : Item key) (member : other ∈ rest) : contract.Good after key other :=
            lawful.good world after key other grows (good other (List.mem_cons_of_mem item member))
          obtain ⟨turn, done, turned, _⟩ := ih after 0 soundAfter goodAfter (Nat.zero_le _)
          dsimp only
          rw [finished, ok_bind, done, ok_bind]
          refine ⟨_, rfl, ⟨turned.sound, lawful.trans _ _ _ grows turned.grows, congrArg (item :: ·) turned.split, ?_⟩,
            fun _ _ _ _ => List.cons_ne_nil _ _⟩
          rcases turned.waits with finishedAll | ⟨head, tail, request, queue, requested, waits, bound, positive, _⟩
          · exact .inl finishedAll
          · exact .inr ⟨head, tail, request, queue, requested, waits, bound, positive, fun none => by cases none⟩

end Turns

section Requests

variable [DecidableEq Key]

structure Same (before after : State Key World Request Item) (key : Key) : Prop where
  queues : after.queues key = before.queues key
  requests : after.requests key = before.requests key
  arrived : after.arrived key = before.arrived key
  processed : after.processed key = before.processed key
  resumed : after.resumed key = before.resumed key

theorem same_trans (first middle last : State Key World Request Item) (key : Key) (begins : Same first middle key)
    (ends : Same middle last key) : Same first last key :=
  ⟨ends.queues.trans begins.queues, ends.requests.trans begins.requests, ends.arrived.trans begins.arrived,
    ends.processed.trans begins.processed, ends.resumed.trans begins.resumed⟩

theorem outstanding_of_requests (state : State Key World Request Item) (key : Key) :
    state.outstanding.filter (fun entry => entry.1 = key) = (state.requests key).map (fun request => (key, request)) := by
  have own : ∀ entry ∈ state.outstanding.filter (fun entry => entry.1 = key), (key, entry.2) = entry := by
    rintro ⟨other, request⟩ member
    have same : other = key := by simpa using (List.mem_filter.1 member).2
    rw [same]
  rw [State.requests, List.map_map]
  exact (List.map_id _).symm.trans (List.map_congr_left (fun entry member => (own entry member).symm))

theorem request_of_mem (state : State Key World Request Item) (key : Key) (request : Request)
    (member : (key, request) ∈ state.outstanding) : request ∈ state.requests key :=
  List.mem_map.2 ⟨(key, request), List.mem_filter.2 ⟨member, by simp⟩, rfl⟩

theorem requests_append (state : State Key World Request Item) (key other : Key) (requests : List Request) :
    State.requests { state with outstanding := state.outstanding ++ requests.map (fun request => (key, request)) } other =
      state.requests other ++ if key = other then requests else [] := by
  rw [State.requests, List.filter_append, List.map_append]
  congr 1
  by_cases same : key = other
  · simp [same, List.filter_map, Function.comp_def]
  · simp [same, List.filter_map, Function.comp_def]

variable [DecidableEq Request]

theorem requests_erase (state : State Key World Request Item) (key other : Key) (request : Request) :
    State.requests { state with outstanding := state.outstanding.erase (key, request) } other =
      if key = other then (state.requests other).erase request else state.requests other := by
  rw [State.requests, ← List.erase_filter, outstanding_of_requests]
  by_cases same : key = other
  · subst same
    have injective : Function.Injective (fun request : Request => (key, request)) := fun first last equal => (Prod.mk.inj equal).2
    rw [if_pos rfl, ← List.map_erase injective, List.map_map]
    exact List.map_id _
  · have absent : (key, request) ∉ (state.requests other).map (fun request => (other, request)) := by
      intro member
      obtain ⟨_, _, equal⟩ := List.mem_map.1 member
      exact same (Prod.mk.inj equal).1.symm
    rw [if_neg same, List.erase_of_not_mem absent, List.map_map]
    exact List.map_id _

end Requests

section Invariant

variable [DecidableEq Key] (contract : Contract Key World Request Item)

def Phase (state : State Key World Request Item) (key : Key) : Prop :=
  state.queues key = none ∧ state.requests key = [] ∨ ∃ item rest request, state.queues key = some ⟨item :: rest, true⟩ ∧
    state.requests key = [request] ∧ contract.Waits state.world key item request ∧ 1 ≤ contract.resumesAt request ∧
    contract.resumesAt request ≤ contract.last key

-- Each item takes as many continuations as it has stages, at most.
structure Held (state : State Key World Request Item) (key : Key) : Prop where
  phase : Phase contract state key
  good : ∀ item ∈ state.items key, contract.Good state.world key item
  begun : state.processed key <+: state.arrived key
  order : contract.stopped state.world = false → state.processed key ++ state.items key = state.arrived key
  progress : contract.stopped state.world = false → state.resumed key + (state.requests key).length ≤
    contract.last key * (state.processed key).length + ((state.requests key).map contract.resumesAt).sum

structure Inv (state : State Key World Request Item) : Prop where
  sound : contract.Sound state.world
  held : ∀ key, Held contract state key

structure Serialized (stopped : World → Bool) (last : Nat) (state : State Key World Request Item) (key : Key) : Prop where
  active : (state.queues key).any Queue.hasActiveRequest = true ↔ (state.requests key).length = 1
  single : (state.requests key).length ≤ 1
  entry : ∀ queue, state.queues key = some queue → queue.hasActiveRequest = true ∧ queue.items ≠ []
  begun : state.processed key <+: state.arrived key
  order : stopped state.world = false → state.processed key ++ state.items key = state.arrived key
  finished : stopped state.world = false → state.requests key = [] → state.processed key = state.arrived key
  progress : stopped state.world = false → state.resumed key + (state.requests key).length ≤ last * (state.arrived key).length

theorem held_serialized (state : State Key World Request Item) (key : Key) (held : Held contract state key) :
    Serialized contract.stopped (contract.last key) state key := by
  rcases held.phase with ⟨none, nothing⟩ | ⟨item, rest, request, queue, one, waits, positive, bound⟩
  · have items : state.items key = [] := congrArg (fun queue => queue.elim [] Queue.items) none
    have all (running : contract.stopped state.world = false) : state.processed key = state.arrived key := by
      have order := held.order running
      rwa [items, List.append_nil] at order
    refine ⟨by simp [none, nothing], by simp [nothing], fun queue same => ?_, held.begun, held.order,
      fun running _ => all running, fun running => ?_⟩
    · rw [none] at same
      cases same
    · have progress := held.progress running
      rwa [nothing, all running, List.map_nil, List.sum_nil, Nat.add_zero, ← nothing] at progress
  · have items : state.items key = item :: rest := congrArg (fun queue => queue.elim [] Queue.items) queue
    refine ⟨by simp [queue, one], by simp [one], fun other same => ?_, held.begun, held.order, fun _ nothing => ?_,
      fun running => ?_⟩
    · rw [queue] at same
      cases same
      exact ⟨rfl, List.cons_ne_nil _ _⟩
    · rw [one] at nothing
      cases nothing
    · have order := congrArg List.length (held.order running)
      rw [items, List.length_append, List.length_cons] at order
      have enough : (state.processed key).length + 1 ≤ (state.arrived key).length := by omega
      calc state.resumed key + (state.requests key).length
        _ ≤ contract.last key * (state.processed key).length + ((state.requests key).map contract.resumesAt).sum :=
            held.progress running
        _ ≤ contract.last key * (state.processed key).length + contract.last key := by
            rw [one, List.map_singleton, List.sum_singleton]
            exact Nat.add_le_add_left bound _
        _ ≤ contract.last key * (state.arrived key).length := Nat.mul_le_mul_left (contract.last key) enough

theorem held_same (lawful : contract.Lawful) (before after : State Key World Request Item) (key : Key)
    (held : Held contract before key) (grows : contract.Grows before.world after.world) (same : Same before after key) :
    Held contract after key := by
  have items : after.items key = before.items key := congrArg (fun queue => queue.elim [] Queue.items) same.queues
  refine ⟨?_, fun item member => ?_, ?_, fun running => ?_, fun running => ?_⟩
  · rcases held.phase with ⟨none, nothing⟩ | ⟨item, rest, request, queue, one, waits, bounds⟩
    · exact .inl ⟨same.queues.trans none, same.requests.trans nothing⟩
    · exact .inr ⟨item, rest, request, same.queues.trans queue, same.requests.trans one,
        lawful.waits _ _ key item request grows waits, bounds⟩
  · rw [items] at member
    exact lawful.good _ _ key item grows (held.good item member)
  · rw [same.processed, same.arrived]
    exact held.begun
  · rw [same.processed, same.arrived, items]
    exact held.order (lawful.running _ _ grows running)
  · rw [same.processed, same.requests, same.resumed]
    exact held.progress (lawful.running _ _ grows running)

theorem evolve_inv (lawful : contract.Lawful) (state : State Key World Request Item) (world : World) (inv : Inv contract state)
    (grows : contract.Grows state.world world) (sound : contract.Sound world) : Inv contract (state.evolve world) :=
  ⟨sound, fun key => held_same contract lawful state (state.evolve world) key (inv.held key) grows ⟨rfl, rfl, rfl, rfl, rfl⟩⟩

-- What a queue is like when its loop begins: nothing is awaited, and the continuations so
-- far are paid for by the processed items and the stage.
structure Entering (state : State Key World Request Item) (key : Key) (stages : Stages World Request Fault (Item key))
    (stage : Nat) : Prop where
  requests : state.requests key = []
  nonempty : state.items key ≠ []
  good : ∀ item ∈ state.items key, contract.Good state.world key item
  begun : state.processed key <+: state.arrived key
  order : contract.stopped state.world = false → state.processed key ++ state.items key = state.arrived key
  small : stage ≤ contract.last key
  credit : ∃ credit ≤ contract.last key,
    (contract.stopped state.world = false → state.resumed key ≤ contract.last key * (state.processed key).length + credit) ∧
      (credit ≤ stage ∨ ∀ item rest, state.items key = item :: rest → stages.advance state.world item stage = .ok none)

theorem install_same (state : State Key World Request Item) (key other : Key) (turn : Turn World Request (Item key))
    (different : other ≠ key) : Same state (state.install key turn) other where
  queues := Function.update_of_ne different _ _
  requests := by
    refine (requests_append state key other turn.request.toList).trans ?_
    rw [if_neg (Ne.symm different), List.append_nil]
  arrived := rfl
  processed := Function.update_of_ne different _ _
  resumed := rfl

theorem erase_same (state : State Key World Request Item) (key other : Key) (different : other ≠ key) :
    Same state (state.erase key) other :=
  ⟨Function.update_of_ne different _ _, rfl, rfl, rfl, rfl⟩

theorem erase_held (state : State Key World Request Item) (key : Key) (nothing : state.requests key = [])
    (begun : state.processed key <+: state.arrived key) (stopped : contract.stopped state.world = true) :
    Held contract (state.erase key) key := by
  have gone : (state.erase key).queues key = none := by simp [State.erase]
  have none : (state.erase key).items key = [] := congrArg (fun queue => queue.elim [] Queue.items) gone
  refine ⟨.inl ⟨gone, nothing⟩, fun item member => ?_, begun, fun running => ?_, fun running => ?_⟩
  · rw [none] at member
    cases member
  · exact absurd (stopped.symm.trans running) (by decide)
  · exact absurd (stopped.symm.trans running) (by decide)

theorem install_held (lawful : contract.Lawful) (state : State Key World Request Item) (key : Key)
    (stages : Stages World Request Fault (Item key)) (stage : Nat) (entering : Entering contract state key stages stage)
    (running : contract.stopped state.world = false) (turn : Turn World Request (Item key))
    (turned : Turned contract key (state.items key) state.world stage turn)
    (moved : ∀ item rest, state.items key = item :: rest → stages.advance state.world item stage = .ok none →
      turn.processed ≠ []) :
    Held contract (state.install key turn) key := by
  have queue : (state.install key turn).queues key = turn.queue := by simp [State.install]
  have items : (state.install key turn).items key = turn.items := congrArg (fun queue => queue.elim [] Queue.items) queue
  have requests : (state.install key turn).requests key = turn.request.toList := by
    refine (requests_append state key key turn.request.toList).trans ?_
    rw [if_pos rfl, entering.requests, List.nil_append]
  have processed : (state.install key turn).processed key = state.processed key ++ turn.processed :=
    Function.update_self key _ state.processed
  have order : state.processed key ++ turn.processed ++ turn.items = state.arrived key := by
    rw [List.append_assoc, turned.split]
    exact entering.order running
  refine ⟨?_, fun item member => ?_, ?_, fun _ => ?_, fun _ => ?_⟩
  · rcases turned.waits with ⟨none, nothing⟩ | ⟨item, rest, request, same, one, waits, bound, positive, _⟩
    · exact .inl ⟨queue.trans none, by rw [requests, nothing]; rfl⟩
    · exact .inr ⟨item, rest, request, queue.trans same, by rw [requests, one]; rfl, waits, positive, bound⟩
  · rw [items] at member
    refine lawful.good _ _ key item turned.grows (entering.good item ?_)
    rw [← turned.split]
    exact List.mem_append_right _ member
  · rw [processed]
    exact ⟨turn.items, order⟩
  · rw [processed, items]
    exact order
  · obtain ⟨credit, bounded, paid, enough⟩ := entering.credit
    have before := paid running
    rw [processed, requests, List.length_append, Nat.mul_add]
    change state.resumed key + _ ≤ _
    have shared : turn.processed ≠ [] → contract.last key ≤ contract.last key * turn.processed.length := by
      intro some
      exact Nat.le_mul_of_pos_right _ (List.length_pos_of_ne_nil some)
    rcases turned.waits with ⟨none, nothing⟩ | ⟨item, rest, request, same, one, waits, bound, positive, later⟩
    · have all : turn.processed = state.items key := by
        have split := turned.split
        rw [Turn.items, none, Option.elim_none, List.append_nil] at split
        exact split
      have cost := shared (all ▸ entering.nonempty)
      rw [nothing]
      simp only [Option.toList_none, List.length_nil, List.map_nil, List.sum_nil]
      omega
    · rw [one]
      simp only [Option.toList_some, List.length_singleton, List.map_singleton, List.sum_singleton]
      by_cases some : turn.processed = []
      · have small : credit ≤ stage := by
          rcases enough with small | finishing
          · exact small
          · cases found : state.items key with
            | nil => exact absurd found entering.nonempty
            | cons item rest => exact absurd some (moved item rest found (finishing item rest found))
        have next := later some
        omega
      · have cost := shared some
        omega

theorem proceed_inv (lawful : contract.Lawful) (state : State Key World Request Item) (key : Key)
    (stages : Stages World Request Fault (Item key)) (meets : contract.Meets key stages) (stage : Nat)
    (sound : contract.Sound state.world) (others : ∀ other, other ≠ key → Held contract state other)
    (entering : Entering contract state key stages stage) :
    ∃ after, state.proceed contract.stopped key stages stage = .ok after ∧ Inv contract after := by
  unfold State.proceed
  cases stopped : contract.stopped state.world with
  | true =>
      refine ⟨state.erase key, if_pos rfl, sound, fun other => ?_⟩
      by_cases same : other = key
      · rw [same]
        exact erase_held contract state key entering.requests entering.begun stopped
      · exact held_same contract lawful state _ other (others other same) (lawful.refl _) (erase_same state key other same)
  | false =>
      obtain ⟨turn, looped, turned, moved⟩ :=
        loop_turned contract key lawful stages meets _ _ stage sound entering.good entering.small
      rw [if_neg Bool.false_ne_true, looped, ok_bind]
      refine ⟨state.install key turn, rfl, turned.sound, fun other => ?_⟩
      by_cases same : other = key
      · rw [same]
        exact install_held contract lawful state key stages stage entering stopped turn turned moved
      · exact held_same contract lawful state _ other (others other same) turned.grows (install_same state key other turn same)

theorem push_same (state : State Key World Request Item) (key other : Key) (item : Item key) (different : other ≠ key) :
    Same state (state.push key item) other :=
  ⟨Function.update_of_ne different _ _, rfl, Function.update_of_ne different _ _, rfl, rfl⟩

theorem arrive_inv (lawful : contract.Lawful) (state : State Key World Request Item) (key : Key)
    (stages : Stages World Request Fault (Item key)) (meets : contract.Meets key stages) (unexpectedStage : Fault)
    (emptyQueue : Option Fault) (item : Item key) (inv : Inv contract state) (good : contract.Good state.world key item) :
    ∃ after, (state.push key item).process contract.stopped unexpectedStage emptyQueue key stages 0 = .ok after ∧
      Inv contract after := by
  have held := inv.held key
  have others (other : Key) (different : other ≠ key) : Held contract (state.push key item) other :=
    held_same contract lawful state _ other (inv.held other) (lawful.refl _) (push_same state key other item different)
  have arrived : (state.push key item).arrived key = state.arrived key ++ [item] := by simp [State.push]
  have begun : (state.push key item).processed key <+: (state.push key item).arrived key := by
    rw [arrived]
    exact held.begun.trans (List.prefix_append _ _)
  rcases held.phase with ⟨none, nothing⟩ | ⟨head, rest, request, queue, one, waits, bounds⟩
  · have pushed : (state.push key item).queues key = some ⟨[item], false⟩ := by simp [State.push, none]
    have items : (state.push key item).items key = [item] := congrArg (fun queue => queue.elim [] Queue.items) pushed
    have before : state.items key = [] := congrArg (fun queue => queue.elim [] Queue.items) none
    have entering : Entering contract (state.push key item) key stages 0 := by
      refine ⟨nothing, by rw [items]; exact List.cons_ne_nil _ _, fun other member => ?_, begun, fun running => ?_, Nat.zero_le _,
        0, Nat.zero_le _, fun running => ?_, .inl (Nat.le_refl 0)⟩
      · rw [items, List.mem_singleton] at member
        rw [member]
        exact good
      · have order := held.order running
        rw [before, List.append_nil] at order
        rw [arrived, items, ← order]
        rfl
      · have progress := held.progress running
        rw [nothing] at progress
        exact progress
    obtain ⟨after, done, invAfter⟩ := proceed_inv contract lawful
      (state.push key item) key stages meets 0 inv.sound others entering
    refine ⟨after, ?_, invAfter⟩
    unfold State.process
    rw [pushed]
    exact done
  · have pushed : (state.push key item).queues key = some ⟨head :: (rest ++ [item]), true⟩ := by simp [State.push, queue]
    have items : (state.push key item).items key = head :: (rest ++ [item]) :=
      congrArg (fun queue => queue.elim [] Queue.items) pushed
    have before : state.items key = head :: rest := congrArg (fun queue => queue.elim [] Queue.items) queue
    refine ⟨state.push key item, ?_, inv.sound, fun other => ?_⟩
    · unfold State.process
      rw [pushed]
      cases emptyQueue <;> rfl
    · by_cases same : other = key
      · rw [same]
        refine ⟨.inr ⟨head, rest ++ [item], request, pushed, one, waits, bounds⟩, fun other member => ?_, begun,
          fun running => ?_,
          held.progress⟩
        · rw [items, ← List.cons_append, ← before] at member
          rcases List.mem_append.1 member with old | new
          · exact held.good other old
          · rw [List.mem_singleton.1 new]
            exact good
        · rw [items, arrived, ← held.order running, before, List.append_assoc]
          rfl
      · exact others other same

theorem held_request (state : State Key World Request Item) (key : Key) (request : Request) (inv : Inv contract state)
    (member : (key, request) ∈ state.outstanding) : ∃ item rest, state.queues key = some ⟨item :: rest, true⟩ ∧
      state.requests key = [request] ∧ contract.Waits state.world key item request ∧ 1 ≤ contract.resumesAt request ∧
      contract.resumesAt request ≤ contract.last key := by
  have present := request_of_mem state key request member
  rcases (inv.held key).phase with ⟨_, nothing⟩ | ⟨item, rest, other, queue, one, waits, bounds⟩
  · rw [nothing] at present
    cases present
  · rw [one, List.mem_singleton] at present
    subst present
    exact ⟨item, rest, queue, one, waits, bounds⟩

variable [DecidableEq Request]

theorem take_same (state : State Key World Request Item) (key other : Key) (request : Request) (world : World)
    (different : other ≠ key) : Same state ((state.take key request).evolve world) other := by
  refine ⟨rfl, ?_, rfl, rfl, Function.update_of_ne different _ _⟩
  exact (requests_erase state key other request).trans (if_neg (Ne.symm different))

theorem resume_inv (lawful : contract.Lawful) (state : State Key World Request Item) (key : Key)
    (stages : Stages World Request Fault (Item key)) (meets : contract.Meets key stages) (unexpectedStage : Fault)
    (emptyQueue : Option Fault) (request : Request) (world : World) (stage : Nat) (inv : Inv contract state)
    (member : (key, request) ∈ state.outstanding) (grows : contract.Grows state.world world) (sound : contract.Sound world)
    (positive : stage ≠ 0) (small : stage ≤ contract.last key)
    (moved : contract.resumesAt request ≤ stage ∨
      ∀ item rest, state.items key = item :: rest → stages.advance world item stage = .ok none) :
    ∃ after, ((state.take key request).evolve world).process contract.stopped unexpectedStage emptyQueue key stages stage =
      .ok after ∧ Inv contract after := by
  obtain ⟨item, rest, queue, one, _, _, bound⟩ := held_request contract state key request inv member
  have held := inv.held key
  have items : state.items key = item :: rest := congrArg (fun queue => queue.elim [] Queue.items) queue
  have others (other : Key) (different : other ≠ key) : Held contract ((state.take key request).evolve world) other :=
    held_same contract lawful state _ other (inv.held other) grows (take_same state key other request world different)
  have requests : ((state.take key request).evolve world).requests key = [] := by
    refine (requests_erase state key key request).trans ?_
    rw [if_pos rfl, one, List.erase_cons_head]
  have resumed : ((state.take key request).evolve world).resumed key = state.resumed key + 1 :=
    Function.update_self key _ state.resumed
  have entering : Entering contract ((state.take key request).evolve world) key stages stage := by
    refine ⟨requests, ?_, fun other present => lawful.good _ _ key other grows (held.good other present), held.begun,
      fun running => held.order (lawful.running _ _ grows running), small, contract.resumesAt request, bound,
        fun running => ?_, moved⟩
    · change state.items key ≠ []
      rw [items]
      exact List.cons_ne_nil _ _
    · have progress := held.progress (lawful.running _ _ grows running)
      rw [one, List.length_singleton, List.map_singleton, List.sum_singleton] at progress
      rw [resumed]
      exact progress
  obtain ⟨after, done, invAfter⟩ := proceed_inv contract lawful
    ((state.take key request).evolve world) key stages meets stage sound
    others entering
  refine ⟨after, ?_, invAfter⟩
  have active : ((state.take key request).evolve world).queues key = some ⟨item :: rest, true⟩ := queue
  unfold State.process
  rw [active]
  cases emptyQueue <;> exact (if_neg positive).trans done

theorem replace_inv (lawful : contract.Lawful) (state : State Key World Request Item) (key : Key) (request changed : Request)
    (inv : Inv contract state) (member : (key, request) ∈ state.outstanding)
    (waits : ∀ item, contract.Waits state.world key item request → contract.Waits state.world key item changed)
    (same : contract.resumesAt changed = contract.resumesAt request) : Inv contract (state.replace key request changed) := by
  obtain ⟨item, rest, queue, one, awaits, bounds⟩ := held_request contract state key request inv member
  have held := inv.held key
  have requests (other : Key) : (state.replace key request changed).requests other =
      (if key = other then (state.requests other).erase request else state.requests other) ++
      if key = other then [changed] else [] := by
    refine (requests_append { state with outstanding := state.outstanding.erase (key, request) } key other [changed]).trans ?_
    rw [requests_erase]
  have own : (state.replace key request changed).requests key = [changed] := by
    rw [requests, if_pos rfl, if_pos rfl, one, List.erase_cons_head, List.nil_append]
  refine ⟨inv.sound, fun other => ?_⟩
  by_cases here : other = key
  · rw [here]
    refine ⟨.inr ⟨item, rest, changed, queue, own, waits item awaits, same ▸ bounds⟩, held.good, held.begun, held.order,
      fun running => ?_⟩
    have progress := held.progress running
    rw [one, List.map_singleton] at progress
    rw [own, List.map_singleton, same]
    exact progress
  · refine held_same contract lawful state _ other (inv.held other) (lawful.refl _) ⟨rfl, ?_, rfl, rfl, rfl⟩
    rw [requests, if_neg (Ne.symm here), if_neg (Ne.symm here), List.append_nil]

end Invariant

end StagedQueues
