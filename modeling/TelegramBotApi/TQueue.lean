import Mathlib

set_option autoImplicit false

namespace TelegramBotApi

abbrev EventId := Nat

structure TQueueEvent where
  id : EventId
  data : String
  expiresAt : Int
  extra : Int
deriving DecidableEq

-- The queue of one bot in td::TQueue, which is not part of the repository: its
-- operations and what the callers rely on. None from get stands for an error.
structure TQueue (Queue : Type) where
  kept : Queue → List TQueueEvent
  tail : Queue → EventId
  getHead : Queue → Option EventId
  get : Queue → EventId → Bool → Int → Nat → Option (Nat × List TQueueEvent × Queue)
  forget : Queue → EventId → Queue
  clear : Queue → Nat → Queue
  push : Queue → String → Int → Int → Option (EventId × Queue)
  increasing : ∀ queue, ((kept queue).map TQueueEvent.id).Pairwise (· < ·)
  belowTail : ∀ queue event, event ∈ kept queue → event.id < tail queue
  headBelow : ∀ queue head, getHead queue = some head → head ≤ tail queue ∧ ∀ event ∈ kept queue, head ≤ event.id
  headMissing : ∀ queue, getHead queue = none → kept queue = []
  headPositive : ∀ queue head, getHead queue = some head → 0 < head
  getKept : ∀ queue offset forgetPrevious now limit size events after,
    get queue offset forgetPrevious now limit = some (size, events, after) →
    tail after = tail queue ∧ (kept after).Sublist (kept queue) ∧
    (∀ event ∈ kept queue, event ∉ kept after → forgetPrevious = true ∧ event.id < offset ∨ event.expiresAt < now)
  getEvents : ∀ queue offset forgetPrevious now limit size events after,
    get queue offset forgetPrevious now limit = some (size, events, after) →
    events = ((kept after).filter (fun event => offset ≤ event.id)).take limit ∧ events.length ≤ size ∧
    ∀ event ∈ events, now ≤ event.expiresAt
  forgetKept : ∀ queue id, kept (forget queue id) = (kept queue).filter (fun event => event.id ≠ id)
  forgetTail : ∀ queue id, tail (forget queue id) = tail queue
  clearKept : ∀ queue keep, kept (clear queue keep) = (kept queue).drop ((kept queue).length - keep)
  clearTail : ∀ queue keep, tail (clear queue keep) = tail queue
  pushed : ∀ queue data expiresAt extra id after, push queue data expiresAt extra = some (id, after) →
    tail queue ≤ id ∧ tail after = id + 1 ∧ kept after = kept queue ++ [⟨id, data, expiresAt, extra⟩]

namespace TQueue

variable {Queue : Type} (tqueue : TQueue Queue)

-- What the rest of the server may do to the queue: add events with new ids and
-- remove events.
structure Evolves (before after : Queue) : Prop where
  kept : ∀ event, event ∈ tqueue.kept after → event ∈ tqueue.kept before ∨ tqueue.tail before ≤ event.id
  tail : tqueue.tail before ≤ tqueue.tail after

-- What reads and calls of forget make of a queue. A read drops only events that
-- have expired by one of the times shown.
inductive Forgets (shown : Int → Prop) : Queue → List EventId → Queue → Prop
  | refl (queue : Queue) : Forgets shown queue [] queue
  | forget (before : Queue) (ids : List EventId) (middle : Queue) (id : EventId) (run : Forgets shown before ids middle) :
      Forgets shown before (ids ++ [id]) (tqueue.forget middle id)
  | get (before : Queue) (ids : List EventId) (middle : Queue) (offset : EventId) (now : Int) (limit size : Nat)
      (events : List TQueueEvent) (after : Queue) (run : Forgets shown before ids middle) (known : shown now)
      (got : tqueue.get middle offset false now limit = some (size, events, after)) : Forgets shown before ids after

theorem forgets_trans (shown : Int → Prop) (first middle last : Queue) (ids more : List EventId)
    (begins : tqueue.Forgets shown first ids middle) (continues : tqueue.Forgets shown middle more last) :
    tqueue.Forgets shown first (ids ++ more) last := by
  induction continues with
  | refl => rwa [List.append_nil]
  | forget ids middle id run ih =>
      rw [← List.append_assoc]
      exact .forget _ _ _ id ih
  | get ids middle offset now limit size events after run known got ih =>
      exact .get _ _ _ offset now limit size events _ ih known got

theorem forgets_removes (shown : Int → Prop) (before after : Queue) (ids : List EventId)
    (run : tqueue.Forgets shown before ids after) :
    (∀ event ∈ tqueue.kept after, event ∈ tqueue.kept before ∧ event.id ∉ ids) ∧
      ∀ event ∈ tqueue.kept before, event ∉ tqueue.kept after →
        event.id ∈ ids ∨ ∃ now, shown now ∧ event.expiresAt < now := by
  induction run with
  | refl => exact ⟨fun event present => ⟨present, List.not_mem_nil⟩, fun event present absent => absurd present absent⟩
  | forget ids middle id run ih =>
      rw [tqueue.forgetKept]
      constructor
      · intro event present
        obtain ⟨stays, different⟩ := List.mem_filter.1 present
        obtain ⟨old, unnamed⟩ := ih.1 event stays
        refine ⟨old, fun named => ?_⟩
        rcases List.mem_append.1 named with earlier | last
        · exact unnamed earlier
        · exact of_decide_eq_true different (List.mem_singleton.1 last)
      · intro event present absent
        by_cases stays : event ∈ tqueue.kept middle
        · refine .inl (List.mem_append_right _ (List.mem_singleton.2 ?_))
          by_contra different
          exact absent (List.mem_filter.2 ⟨stays, decide_eq_true different⟩)
        · exact (ih.2 event present stays).imp_left (List.mem_append_left _)
  | get ids middle offset now limit size events after run known got ih =>
      have kept := tqueue.getKept _ _ _ _ _ _ _ _ got
      constructor
      · exact fun event present => ih.1 event (kept.2.1.subset present)
      · intro event present absent
        by_cases stays : event ∈ tqueue.kept middle
        · rcases kept.2.2 event stays absent with ⟨forgets, _⟩ | expired
          · cases forgets
          · exact .inr ⟨now, known, expired⟩
        · exact ih.2 event present stays

theorem mem_of_get (queue : Queue) (offset : EventId) (forgetPrevious : Bool) (now : Int) (limit size : Nat)
    (events : List TQueueEvent) (after : Queue)
    (got : tqueue.get queue offset forgetPrevious now limit = some (size, events, after))
    (event : TQueueEvent) (member : event ∈ events) :
    event ∈ tqueue.kept after ∧ event ∈ tqueue.kept queue ∧ offset ≤ event.id := by
  rw [(tqueue.getEvents _ _ _ _ _ _ _ _ got).1] at member
  have inFilter := List.mem_filter.1 (List.mem_of_mem_take member)
  have old := (tqueue.getKept _ _ _ _ _ _ _ _ got).2.1.subset inFilter.1
  exact ⟨inFilter.1, old, of_decide_eq_true inFilter.2⟩

theorem events_increasing (queue : Queue) (offset : EventId) (forgetPrevious : Bool) (now : Int) (limit size : Nat)
    (events : List TQueueEvent) (after : Queue)
    (got : tqueue.get queue offset forgetPrevious now limit = some (size, events, after)) :
    (events.map TQueueEvent.id).Pairwise (· < ·) := by
  rw [(tqueue.getEvents _ _ _ _ _ _ _ _ got).1]
  have sublist := (List.take_sublist limit _).trans (List.filter_sublist (l := tqueue.kept after)
    (p := fun event => decide (offset ≤ event.id)))
  exact (tqueue.increasing after).sublist (sublist.map _)

theorem mem_events_of_le (queue : Queue) (offset : EventId) (forgetPrevious : Bool) (now : Int) (limit size : Nat)
    (events : List TQueueEvent) (after : Queue)
    (got : tqueue.get queue offset forgetPrevious now limit = some (size, events, after))
    (event last : TQueueEvent) (present : event ∈ tqueue.kept after) (above : offset ≤ event.id)
    (member : last ∈ events) (before : event.id ≤ last.id) : event ∈ events := by
  have found := (tqueue.getEvents _ _ _ _ _ _ _ _ got).1
  have ready : event ∈ (tqueue.kept after).filter (fun event => decide (offset ≤ event.id)) :=
    List.mem_filter.2 ⟨present, decide_eq_true above⟩
  have sorted : (((tqueue.kept after).filter (fun event => decide (offset ≤ event.id))).map TQueueEvent.id).Pairwise
      (· < ·) := (tqueue.increasing after).sublist (List.filter_sublist.map _)
  rw [found] at member ⊢
  rw [← List.take_append_drop limit (List.filter _ _), List.map_append, List.pairwise_append] at sorted
  rw [← List.take_append_drop limit (List.filter _ _), List.mem_append] at ready
  rcases ready with taken | dropped
  · exact taken
  · have later := sorted.2.2 last.id (List.mem_map_of_mem member) event.id (List.mem_map_of_mem dropped)
    exact absurd before (Nat.not_le.2 later)

end TQueue

-- A reference queue: a list of events whose identifiers increase below the tail.
structure ListQueue where
  events : List TQueueEvent
  tail : EventId
  increasing : (events.map TQueueEvent.id).Pairwise (· < ·)
  belowTail : ∀ event ∈ events, event.id < tail
  positive : ∀ event ∈ events, 0 < event.id
  tailPositive : 0 < tail

namespace ListQueue

def restrict (queue : ListQueue) (events : List TQueueEvent) (sublist : events.Sublist queue.events) : ListQueue where
  events := events
  tail := queue.tail
  increasing := queue.increasing.sublist (sublist.map _)
  belowTail := fun event member => queue.belowTail event (sublist.subset member)
  positive := fun event member => queue.positive event (sublist.subset member)
  tailPositive := queue.tailPositive

def empty (tail : EventId) (positive : 0 < tail := by first | exact Nat.one_pos | decide) : ListQueue :=
  ⟨[], tail, List.Pairwise.nil, fun _ member => (by cases member), fun _ member => (by cases member), positive⟩

def append (queue : ListQueue) (data : String) (expiresAt extra : Int) : ListQueue where
  events := queue.events ++ [⟨queue.tail, data, expiresAt, extra⟩]
  tail := queue.tail + 1
  increasing := by
    rw [List.map_append, List.pairwise_append]
    refine ⟨queue.increasing, List.pairwise_singleton _ _, ?_⟩
    intro first member last same
    obtain ⟨event, present, rfl⟩ := List.mem_map.1 member
    simp only [List.map_cons, List.map_nil, List.mem_singleton] at same
    subst same
    exact queue.belowTail event present
  belowTail := by
    intro event member
    rcases List.mem_append.1 member with old | new
    · exact Nat.lt_succ_of_lt (queue.belowTail event old)
    · rw [List.mem_singleton.1 new]
      exact Nat.lt_succ_self _
  positive := by
    intro event member
    rcases List.mem_append.1 member with old | new
    · exact queue.positive event old
    · rw [List.mem_singleton.1 new]
      exact queue.tailPositive
  tailPositive := Nat.succ_pos _

def getHead (queue : ListQueue) : EventId :=
  match queue.events with
  | [] => queue.tail
  | event :: _ => event.id

def prune (queue : ListQueue) (offset : EventId) (forgetPrevious : Bool) (now : Int) : ListQueue :=
  queue.restrict (queue.events.filter (fun event => now ≤ event.expiresAt && !(forgetPrevious && event.id < offset)))
    List.filter_sublist

def get (queue : ListQueue) (offset : EventId) (forgetPrevious : Bool) (now : Int) (limit : Nat) :
    Nat × List TQueueEvent × ListQueue :=
  let pruned := queue.prune offset forgetPrevious now
  let ready := pruned.events.filter (fun event => offset ≤ event.id)
  (ready.length, ready.take limit, pruned)

end ListQueue

def listTQueue : TQueue ListQueue where
  kept := ListQueue.events
  tail := ListQueue.tail
  getHead queue := some queue.getHead
  get queue offset forgetPrevious now limit := some (queue.get offset forgetPrevious now limit)
  forget queue id := queue.restrict (queue.events.filter (fun event => event.id ≠ id)) List.filter_sublist
  clear queue keep := queue.restrict (queue.events.drop (queue.events.length - keep)) (List.drop_sublist _ _)
  push queue data expiresAt extra := some (queue.tail, queue.append data expiresAt extra)
  increasing := ListQueue.increasing
  belowTail := ListQueue.belowTail
  headBelow := by
    intro queue head found
    cases found
    have sorted := queue.increasing
    have below := queue.belowTail
    cases listed : queue.events with
    | nil =>
        simp only [ListQueue.getHead, listed]
        exact ⟨Nat.le_refl _, fun event member => by cases member⟩
    | cons first rest =>
        rw [listed, List.map_cons, List.pairwise_cons] at sorted
        simp only [ListQueue.getHead, listed]
        refine ⟨Nat.le_of_lt (below first (listed ▸ List.mem_cons_self)), fun event member => ?_⟩
        rcases List.mem_cons.1 member with rfl | later
        · exact Nat.le_refl _
        · exact Nat.le_of_lt (sorted.1 event.id (List.mem_map_of_mem later))
  headMissing := by
    intro queue found
    cases found
  headPositive := by
    intro queue head found
    cases found
    have positive := queue.positive
    cases listed : queue.events with
    | nil =>
        simp only [ListQueue.getHead, listed]
        exact queue.tailPositive
    | cons first rest =>
        simp only [ListQueue.getHead, listed]
        exact positive first (listed ▸ List.mem_cons_self)
  getKept := by
    intro queue offset forgetPrevious now limit size events after got
    cases got
    refine ⟨rfl, List.filter_sublist, fun event present absent => ?_⟩
    have dropped : ¬ (now ≤ event.expiresAt && !(forgetPrevious && event.id < offset)) = true :=
      fun stays => absent (List.mem_filter.2 ⟨present, stays⟩)
    by_cases expired : event.expiresAt < now
    · exact .inr expired
    · have fresh : now ≤ event.expiresAt := by omega
      simp only [fresh, decide_true, Bool.true_and, Bool.not_eq_true, Bool.not_eq_false', Bool.and_eq_true,
        decide_eq_true_eq] at dropped
      exact .inl dropped
  getEvents := by
    intro queue offset forgetPrevious now limit size events after got
    cases got
    refine ⟨rfl, (List.take_sublist _ _).length_le, fun event member => ?_⟩
    have stays := (List.mem_filter.1 (List.mem_filter.1 (List.mem_of_mem_take member)).1).2
    simp only [Bool.and_eq_true, decide_eq_true_eq] at stays
    exact stays.1
  forgetKept _ _ := rfl
  forgetTail _ _ := rfl
  clearKept _ _ := rfl
  clearTail _ _ := rfl
  pushed := by
    intro queue data expiresAt extra id after done
    cases done
    exact ⟨Nat.le_refl _, rfl, rfl⟩

end TelegramBotApi
