import TelegramBotApi.GetUpdatesPoll

set_option autoImplicit false

namespace TelegramBotApi.Client

open Checked

section Cut

theorem take_fitting_starts (updates : List TQueueEvent) (left : Int) : takeFitting left updates <+: updates := by
  induction updates generalizing left with
  | nil => exact List.prefix_refl _
  | cons update updates ih =>
      rw [takeFitting]
      split
      · exact List.nil_prefix
      · exact (List.prefix_cons_inj update).2 (ih _)

def Fits (update : TQueueEvent) : Prop := update.data.utf8ByteSize ≤ 2 ^ 19

instance : DecidablePred Fits := fun update => inferInstanceAs (Decidable (update.data.utf8ByteSize ≤ 2 ^ 19))

theorem json_updates_nil (updates : List TQueueEvent) (fits : ∀ update ∈ updates, Fits update)
    (empty : jsonUpdates updates = []) : updates = [] := by
  cases updates with
  | nil => rfl
  | cons update updates =>
      have small : update.data.utf8ByteSize ≤ 2 ^ 19 := fits update List.mem_cons_self
      rw [jsonUpdates, takeFitting] at empty
      rw [if_neg (by omega)] at empty
      cases empty

end Cut

section Delivery

variable {Queue : Type} (env : Environment Queue)

def Delivered (state : State Queue) (event : TQueueEvent) : Prop :=
  ∃ query updates, (query, .updates updates) ∈ state.answers ∧ event ∈ updates

def Poll.log (poll : Poll Queue) : CursorLog.Log TQueueEvent where
  kept := env.tqueue.kept poll.tqueue
  delivered := {event | ∃ success ∈ poll.successes, event ∈ success.2}
  next := env.tqueue.tail poll.tqueue

theorem mem_delivered (state : State Queue) (event : TQueueEvent) :
    event ∈ (state.poll.log env).delivered ↔ Delivered state event := by
  constructor
  · rintro ⟨⟨query, updates⟩, member, inside⟩
    exact ⟨query, updates, (mem_successes query updates state).1 member, inside⟩
  · rintro ⟨query, updates, member, inside⟩
    exact ⟨(query, updates), (mem_successes query updates state).2 member, inside⟩

def Acknowledged (poll : Poll Queue) (offset : Int) : Prop :=
  ∃ event ∈ (poll.log env).delivered, offset ≤ event.id + 1

def Entitled (poll : Poll Queue) (query : Query) : Prop :=
  getUpdatesOffset env query = 0 ∨ 0 < getUpdatesOffset env query ∧ Acknowledged env poll (getUpdatesOffset env query)

-- The offset do_get_updates works with: that of the request, or one below all
-- that is kept and all that will come.
inductive Aims (poll : Poll Queue) (query : Query) (offset : Int) : Prop where
  | first (unasked : getUpdatesOffset env query = 0) (positive : 0 ≤ offset)
      (below : offset ≤ env.tqueue.tail poll.tqueue)
      (first : ∀ event ∈ env.tqueue.kept poll.tqueue, offset ≤ event.id) : Aims poll query offset
  | asked (positive : 0 < getUpdatesOffset env query) (same : offset = getUpdatesOffset env query)
      (acknowledged : Acknowledged env poll (getUpdatesOffset env query)) : Aims poll query offset

def FromOffset (offset : Int) (served : Served Queue) : Prop :=
  let ready := (env.tqueue.kept served.after).filter (fun event => decide (offset ≤ event.id))
  served.updates <+: ready ∧ (served.updates = [] → ready = [])

def Rejected (served : Served Queue) : Prop :=
  env.tqueue.get served.before (getUpdatesOffset env served.query).toNat true served.unixTime served.limit = none

def RightlyServed (served : Served Queue) : Prop :=
  FromOffset env (getUpdatesOffset env served.query) served ∨ Rejected env served ∧ FromOffset env 0 served

def Permitted (poll : Poll Queue) (query : Query) : Prop :=
  query.method ≠ "logout" ∧ ¬ IsWebhookQuery query ∧ (query.method = "getupdates" → Entitled env poll query)

structure PollSound (poll : Poll Queue) : Prop where
  inv : CursorLog.Inv TQueueEvent.id (poll.log env)
  parked : ∀ query, poll.longPollQuery = some query → Aims env poll query poll.longPollOffset ∧ 1 ≤ poll.longPollLimit
  answered : ∀ success ∈ poll.successes, ∃ served ∈ poll.served,
    served.query = success.1 ∧ served.updates = success.2 ∧ RightlyServed env served
  keepsQueue : poll.clearTqueue = false
  queued : ∀ query ∈ poll.cmdQueue, Permitted env poll query

structure Since (base : Poll Queue) (unixTime : Int) (poll : Poll Queue) : Prop extends PollSound env poll where
  fits : ∀ event ∈ env.tqueue.kept poll.tqueue, Fits event
  removed : ∀ event ∈ env.tqueue.kept base.tqueue, event ∉ env.tqueue.kept poll.tqueue →
    event ∈ (base.log env).delivered ∨ event.expiresAt < unixTime
  grows : (base.log env).delivered ⊆ (poll.log env).delivered

structure Later (before after : Poll Queue) : Prop where
  kept : ∀ event ∈ env.tqueue.kept after.tqueue, event ∈ env.tqueue.kept before.tqueue ∨
    env.tqueue.tail before.tqueue ≤ event.id
  tail : env.tqueue.tail before.tqueue ≤ env.tqueue.tail after.tqueue
  delivered : (before.log env).delivered ⊆ (after.log env).delivered

theorem acknowledged_later (before after : Poll Queue) (later : Later env before after) (offset : Int)
    (acknowledged : Acknowledged env before offset) : Acknowledged env after offset := by
  obtain ⟨event, delivered, next⟩ := acknowledged
  exact ⟨event, later.delivered delivered, next⟩

theorem entitled_later (before after : Poll Queue) (later : Later env before after) (query : Query)
    (entitled : Entitled env before query) : Entitled env after query := by
  rcases entitled with unasked | ⟨positive, acknowledged⟩
  · exact .inl unasked
  · exact .inr ⟨positive, acknowledged_later env before after later _ acknowledged⟩

theorem permitted_later (before after : Poll Queue) (later : Later env before after) (query : Query)
    (permitted : Permitted env before query) : Permitted env after query :=
  ⟨permitted.1, permitted.2.1, fun updates => entitled_later env before after later query (permitted.2.2 updates)⟩

theorem aims_later (before after : Poll Queue) (later : Later env before after) (query : Query) (offset : Int)
    (aims : Aims env before query offset) : Aims env after query offset := by
  cases aims with
  | asked positive same acknowledged =>
      exact .asked positive same (acknowledged_later env before after later _ acknowledged)
  | first unasked positive below first =>
      apply Aims.first unasked positive
      · exact below.trans (Int.ofNat_le.2 later.tail)
      · intro event member
        rcases later.kept event member with old | new
        · exact first event old
        · exact below.trans (Int.ofNat_le.2 new)

theorem aims_effective (poll : Poll Queue) (query : Query) (offset : Int) (aims : Aims env poll query offset) :
    Aims env poll query (effectiveOffset env offset poll.tqueue) := by
  unfold effectiveOffset
  by_cases unset : offset ≤ 0
  · rw [if_pos unset]
    cases aims with
    | asked positive same acknowledged => omega
    | first unasked positive below first =>
        cases found : env.tqueue.getHead poll.tqueue with
        | none =>
            have nothing := env.tqueue.headMissing poll.tqueue found
            apply Aims.first unasked (Int.le_refl 0) (Int.natCast_nonneg _)
            intro event member
            rw [nothing] at member
            cases member
        | some head =>
            obtain ⟨below, all⟩ := env.tqueue.headBelow poll.tqueue head found
            apply Aims.first unasked (Int.natCast_nonneg _)
            · exact Int.ofNat_le.2 below
            · intro event member
              exact Int.ofNat_le.2 (all event member)
  · rw [if_neg unset]
    exact aims

theorem kept_empty_of_missing (offset : Int) (queue : Queue) (missing : effectiveOffset env offset queue ≤ 0) :
    env.tqueue.kept queue = [] := by
  unfold effectiveOffset at missing
  by_cases unset : offset ≤ 0
  · rw [if_pos unset] at missing
    cases found : env.tqueue.getHead queue with
    | none => exact env.tqueue.headMissing queue found
    | some head =>
        have positive := env.tqueue.headPositive queue head found
        rw [found, Option.getD_some] at missing
        exact absurd missing (Int.not_le.2 (Int.ofNat_lt.2 positive))
  · rw [if_neg unset] at missing
    exact absurd missing unset

structure Reads (unixTime : Int) (limit : Nat) (cursor : EventId) (queue : Queue) (updates : List TQueueEvent)
    (after : Queue) : Prop where
  read : CursorLog.Read TQueueEvent.id (fun event => event.expiresAt < unixTime) cursor updates (env.tqueue.kept queue)
    (env.tqueue.kept after)
  tail : env.tqueue.tail after = env.tqueue.tail queue
  taken : updates = ((env.tqueue.kept after).filter (fun event => decide (cursor ≤ event.id))).take limit

theorem reads_of_get (unixTime : Int) (limit totalSize : Nat) (cursor : EventId) (queue : Queue)
    (updates : List TQueueEvent) (after : Queue)
    (got : env.tqueue.get queue cursor true unixTime limit = some (totalSize, updates, after)) :
    Reads env unixTime limit cursor queue updates after := by
  obtain ⟨tail, sublist, removed⟩ := env.tqueue.getKept _ _ _ _ _ _ _ _ got
  have taken := (env.tqueue.getEvents _ _ _ _ _ _ _ _ got).1
  refine ⟨⟨sublist, ?_, taken ▸ List.take_prefix _ _⟩, tail, taken⟩
  intro event member gone
  rcases removed event member gone with passed | expired
  · exact .inl passed.2
  · exact .inr expired

def CursorOf (poll : Poll Queue) (query : Query) (limit : Nat) (unixTime : Int) (cursor : EventId) : Prop :=
  (∀ event ∈ env.tqueue.kept poll.tqueue, cursor ≤ event.id) ∧
    (getUpdatesOffset env query = 0 ∨
      env.tqueue.get poll.tqueue (getUpdatesOffset env query).toNat true unixTime limit = none) ∨
  cursor = (getUpdatesOffset env query).toNat ∧ 0 < getUpdatesOffset env query ∧
    Acknowledged env poll (getUpdatesOffset env query)

theorem cursor_of_reads (poll : Poll Queue) (query : Query) (offset : Int) (limit : Nat) (unixTime : Int)
    (updates : List TQueueEvent) (after : Queue) (cursor : EventId) (positive : 0 < offset)
    (aims : Aims env poll query offset)
    (reads : ReadsFrom env offset limit unixTime poll.tqueue updates after cursor) :
    Reads env unixTime limit cursor poll.tqueue updates after ∧ CursorOf env poll query limit unixTime cursor := by
  cases reads with
  | requested totalSize got =>
      refine ⟨reads_of_get env unixTime limit totalSize _ _ _ _ got, ?_⟩
      cases aims with
      | asked positive same acknowledged =>
          subst same
          exact .inr ⟨rfl, positive, acknowledged⟩
      | first unasked _ below first =>
          refine .inl ⟨?_, .inl unasked⟩
          intro event member
          exact Int.toNat_le.2 (first event member)
  | head totalSize rejected got =>
      refine ⟨reads_of_get env unixTime limit totalSize _ _ _ _ got, .inl ⟨?_, ?_⟩⟩
      · intro event member
        cases found : env.tqueue.getHead poll.tqueue with
        | none => exact Nat.zero_le _
        | some head => exact (env.tqueue.headBelow poll.tqueue head found).2 event member
      · cases aims with
        | asked positive same acknowledged =>
            subst same
            exact .inr rejected
        | first unasked _ below first => exact .inl unasked

theorem cursor_justified (poll : Poll Queue) (inv : CursorLog.Inv TQueueEvent.id (poll.log env)) (query : Query)
    (limit : Nat) (unixTime : Int) (cursor : EventId) (cursorOf : CursorOf env poll query limit unixTime cursor) :
    CursorLog.Justified TQueueEvent.id (poll.log env) cursor := by
  rcases cursorOf with ⟨first, _⟩ | ⟨same, _, last, delivered, next⟩
  · exact CursorLog.justified_of_first _ _ _ first
  · apply CursorLog.justified_of_delivered _ _ inv cursor last delivered
    rw [same]
    exact Int.toNat_le.2 next

theorem removed_since (base poll : Poll Queue) (unixTime : Int) (since : Since env base unixTime poll)
    (baseInv : CursorLog.Inv TQueueEvent.id (base.log env)) (query : Query) (limit : Nat) (cursor : EventId)
    (based : 0 < getUpdatesOffset env query → Acknowledged env base (getUpdatesOffset env query))
    (cursorOf : CursorOf env poll query limit unixTime cursor) (updates : List TQueueEvent) (after : Queue)
    (reads : Reads env unixTime limit cursor poll.tqueue updates after) (event : TQueueEvent)
    (member : event ∈ env.tqueue.kept base.tqueue) (gone : event ∉ env.tqueue.kept after) :
    event ∈ (base.log env).delivered ∨ event.expiresAt < unixTime := by
  by_cases present : event ∈ env.tqueue.kept poll.tqueue
  · rcases reads.read.forgotten event present gone with passed | expired
    · rcases cursorOf with ⟨first, _⟩ | ⟨same, asked, _⟩
      · exact absurd passed (Nat.not_lt.2 (first event present))
      · rw [same] at passed
        exact .inl (CursorLog.justified_of_delivered _ _ baseInv _ _ (based asked).choose_spec.1
          (Int.toNat_le.2 (based asked).choose_spec.2) event member passed)
    · exact .inr expired
  · exact since.removed event member present

theorem rightly_served (poll : Poll Queue) (query : Query) (limit : Nat) (unixTime : Int) (cursor : EventId)
    (cursorOf : CursorOf env poll query limit unixTime cursor) (updates : List TQueueEvent) (after : Queue)
    (reads : Reads env unixTime limit cursor poll.tqueue updates after) (limitPositive : 0 < limit)
    (fits : ∀ event ∈ env.tqueue.kept poll.tqueue, Fits event) :
    RightlyServed env ⟨query, poll.tqueue, limit, unixTime, jsonUpdates updates, after⟩ := by
  have sublist := reads.read.sublist
  have cut : jsonUpdates updates <+: updates := take_fitting_starts updates _
  have small : ∀ update ∈ updates, Fits update := by
    intro update member
    exact fits update (sublist.subset (List.mem_filter.1 (reads.read.batch.subset member)).1)
  have fromCursor (offset : Int) (same : ∀ event ∈ env.tqueue.kept after,
      decide (offset ≤ event.id) = decide (cursor ≤ event.id)) :
      FromOffset env offset ⟨query, poll.tqueue, limit, unixTime, jsonUpdates updates, after⟩ := by
    unfold FromOffset
    dsimp only
    rw [List.filter_congr same]
    refine ⟨cut.trans reads.read.batch, fun empty => ?_⟩
    have nothing := json_updates_nil updates small empty
    rw [nothing] at reads
    rcases List.take_eq_nil_iff.1 reads.taken.symm with noLimit | ready
    · omega
    · exact ready
  have fromFirst (first : ∀ event ∈ env.tqueue.kept poll.tqueue, cursor ≤ event.id) :
      FromOffset env 0 ⟨query, poll.tqueue, limit, unixTime, jsonUpdates updates, after⟩ := by
    apply fromCursor
    intro event member
    rw [decide_eq_true (first event (sublist.subset member)), decide_eq_true (Int.natCast_nonneg _)]
  rcases cursorOf with ⟨first, unasked | rejected⟩ | ⟨same, asked, _⟩
  · apply Or.inl
    change FromOffset env (getUpdatesOffset env query) _
    rw [unasked]
    exact fromFirst first
  · exact .inr ⟨rejected, fromFirst first⟩
  · apply Or.inl
    apply fromCursor
    intro event _
    rw [same]
    exact decide_eq_decide.2 Int.toNat_le.symm

theorem later_of_read (poll after : Poll Queue) (unixTime : Int) (limit : Nat) (cursor : EventId)
    (updates : List TQueueEvent) (reads : Reads env unixTime limit cursor poll.tqueue updates after.tqueue)
    (delivered : (poll.log env).delivered ⊆ (after.log env).delivered) : Later env poll after where
  kept _ member := .inl (reads.read.sublist.subset member)
  tail := Nat.le_of_eq reads.tail.symm
  delivered := delivered

theorem since_of_read (base poll after : Poll Queue) (unixTime : Int) (since : Since env base unixTime poll)
    (baseInv : CursorLog.Inv TQueueEvent.id (base.log env)) (query : Query) (limit : Nat) (cursor : EventId)
    (based : 0 < getUpdatesOffset env query → Acknowledged env base (getUpdatesOffset env query))
    (cursorOf : CursorOf env poll query limit unixTime cursor) (updates batch : List TQueueEvent)
    (reads : Reads env unixTime limit cursor poll.tqueue updates after.tqueue) (cut : batch <+: updates)
    (delivers : after.log env = (poll.log env).deliver batch (env.tqueue.kept after.tqueue))
    (parked : ∀ query, after.longPollQuery = some query →
      Aims env after query after.longPollOffset ∧ 1 ≤ after.longPollLimit)
    (answered : ∀ success ∈ after.successes, ∃ served ∈ after.served,
      served.query = success.1 ∧ served.updates = success.2 ∧ RightlyServed env served)
    (keepsQueue : after.clearTqueue = poll.clearTqueue) (queued : after.cmdQueue = poll.cmdQueue) :
    Since env base unixTime after := by
  have grows : (poll.log env).delivered ⊆ (after.log env).delivered := by
    rw [delivers]
    exact Set.subset_union_left
  have later := later_of_read env poll after unixTime limit cursor updates reads grows
  have read : CursorLog.Read TQueueEvent.id (fun event => event.expiresAt < unixTime) cursor batch
      (poll.log env).kept (env.tqueue.kept after.tqueue) :=
    ⟨reads.read.sublist, reads.read.forgotten, cut.trans reads.read.batch⟩
  refine ⟨⟨?_, parked, answered, keepsQueue.trans since.keepsQueue, ?_⟩, ?_, ?_, since.grows.trans grows⟩
  · rw [delivers]
    exact CursorLog.read_inv TQueueEvent.id (poll.log env) _ cursor batch _ since.inv
      (cursor_justified env poll since.inv query limit unixTime cursor cursorOf) read
  · intro waiting member
    rw [queued] at member
    exact permitted_later env poll after later waiting (since.queued waiting member)
  · intro event member
    exact since.fits event (reads.read.sublist.subset member)
  · exact removed_since env base poll unixTime since baseInv query limit cursor based cursorOf updates after.tqueue reads

theorem polled_since (draws : Draws) (base poll after : Poll Queue) (since : Since env base draws.unixTime poll)
    (baseInv : CursorLog.Inv TQueueEvent.id (base.log env)) (query : Query) (offset limit timeout : Int) (cursor : EventId)
    (based : 0 < getUpdatesOffset env query → Acknowledged env base (getUpdatesOffset env query))
    (aims : Aims env poll query offset) (limitPositive : 1 ≤ limit)
    (cursorOf : CursorOf env poll query (servedLimit limit) draws.unixTime cursor) (updates : List TQueueEvent)
    (tqueue : Queue) (reads : Reads env draws.unixTime (servedLimit limit) cursor poll.tqueue updates tqueue)
    (polled : Polled draws offset limit timeout query poll.tqueue updates { poll with tqueue := tqueue } after) :
    Since env base draws.unixTime after := by
  cases polled with
  | parked waits nothing =>
      have later := later_of_read env poll (Poll.park offset limit query { poll with tqueue := tqueue }) draws.unixTime _
        cursor updates reads (Set.Subset.refl _)
      refine since_of_read env base poll _ draws.unixTime since baseInv query _ cursor based cursorOf updates [] reads
        List.nil_prefix ?_ ?_ since.answered rfl rfl
      · simp only [Poll.log, Poll.park, CursorLog.Log.deliver, reads.tail, List.not_mem_nil, Set.ofPred_false,
          Set.union_empty]
      · intro waiting same
        cases same
        exact ⟨aims_later env _ _ later query offset aims, limitPositive⟩
  | served =>
      have delivers : (Poll.serve query poll.tqueue (servedLimit limit) draws.unixTime (jsonUpdates updates)
          { poll with tqueue := tqueue }).log env = (poll.log env).deliver (jsonUpdates updates) (env.tqueue.kept tqueue) := by
        simp only [Poll.log, Poll.serve, CursorLog.Log.deliver, reads.tail, CursorLog.Log.mk.injEq, true_and, and_true]
        ext event
        simp only [Set.mem_ofPred_eq, Set.mem_union, List.mem_append, List.mem_singleton, or_and_right, exists_or,
          exists_eq_left]
      have later := later_of_read env poll (Poll.serve query poll.tqueue (servedLimit limit) draws.unixTime
        (jsonUpdates updates) { poll with tqueue := tqueue }) draws.unixTime _ cursor updates reads (by
          rw [delivers]
          exact Set.subset_union_left)
      refine since_of_read env base poll _ draws.unixTime since baseInv query _ cursor based cursorOf updates
        (jsonUpdates updates) reads (take_fitting_starts updates _) delivers ?_ ?_ rfl rfl
      · intro waiting same
        obtain ⟨stored, positive⟩ := since.parked waiting same
        exact ⟨aims_later env _ _ later waiting _ stored, positive⟩
      · intro success member
        rcases List.mem_append.1 member with old | new
        · obtain ⟨served, recorded, rest⟩ := since.answered success old
          exact ⟨served, List.mem_append_left _ recorded, rest⟩
        · rw [List.mem_singleton.1 new]
          refine ⟨_, List.mem_append_right _ List.mem_cons_self, rfl, rfl, ?_⟩
          apply rightly_served env poll query _ _ cursor cursorOf updates tqueue reads _ since.fits
          unfold servedLimit tqueueEventBufferSize
          omega

theorem do_get_updates_since (draws : Draws) (base : Poll Queue) (baseInv : CursorLog.Inv TQueueEvent.id (base.log env))
    (query : Query) (offset limit timeout : Int) (state : State Queue) (since : Since env base draws.unixTime state.poll)
    (based : 0 < getUpdatesOffset env query → Acknowledged env base (getUpdatesOffset env query))
    (aims : Aims env state.poll query offset) (limitPositive : 1 ≤ limit) :
    Meets Tolerated (fun after => Since env base draws.unixTime after.poll)
      (doGetUpdates env draws offset limit timeout query state) := by
  have positive : 0 ≤ offset := by
    cases aims with
    | first unasked positive below first => exact positive
    | asked positive same acknowledged => omega
  have effective := aims_effective env state.poll query offset aims
  apply meets_weaken Tolerated _ _ _ _ (do_get_updates_meets env draws offset limit timeout query state positive)
  rintro after (⟨missing, polled⟩ | ⟨present, cursor, updates, tqueue, readsFrom, polled⟩)
  · have nothing := kept_empty_of_missing env offset state.tqueue missing
    have reads : Reads env draws.unixTime (servedLimit limit) 0 state.tqueue [] state.tqueue := by
      refine ⟨⟨List.Sublist.refl _, fun event member gone => absurd member gone, List.nil_prefix⟩, rfl, ?_⟩
      rw [nothing, List.filter_nil, List.take_nil]
    have unasked : getUpdatesOffset env query = 0 := by
      cases effective with
      | first unasked positive below first => exact unasked
      | asked positive same acknowledged =>
          change effectiveOffset env offset state.tqueue = _ at same
          omega
    exact polled_since env draws base state.poll after.poll since baseInv query _ limit timeout 0 based effective limitPositive
      (.inl ⟨fun event _ => Nat.zero_le _, .inl unasked⟩) [] state.tqueue reads polled
  · obtain ⟨reads, cursorOf⟩ := cursor_of_reads env state.poll query _ _ draws.unixTime updates tqueue cursor present
      effective readsFrom
    exact polled_since env draws base state.poll after.poll since baseInv query _ limit timeout cursor based effective
      limitPositive cursorOf updates tqueue reads polled

theorem since_refl (poll : Poll Queue) (unixTime : Int) (sound : PollSound env poll)
    (fits : ∀ event ∈ env.tqueue.kept poll.tqueue, Fits event) : Since env poll unixTime poll :=
  ⟨sound, fits, fun _ member gone => absurd member gone, Set.Subset.refl _⟩

theorem since_same (base poll after : Poll Queue) (unixTime : Int) (since : Since env base unixTime poll)
    (tqueue : after.tqueue = poll.tqueue) (successes : after.successes = poll.successes) (served : after.served = poll.served)
    (limit : after.longPollLimit = poll.longPollLimit) (offset : after.longPollOffset = poll.longPollOffset)
    (parked : ∀ query, after.longPollQuery = some query → poll.longPollQuery = some query)
    (keepsQueue : after.clearTqueue = poll.clearTqueue) (queued : ∀ query ∈ after.cmdQueue, Permitted env poll query) :
    Since env base unixTime after := by
  have log : after.log env = poll.log env := by rw [Poll.log, Poll.log, tqueue, successes]
  have later : Later env poll after := by
    refine ⟨fun event member => .inl (tqueue ▸ member), by rw [tqueue], ?_⟩
    rw [log]
  refine ⟨⟨by rw [log]; exact since.inv, ?_, ?_, keepsQueue.trans since.keepsQueue, ?_⟩, ?_, ?_, ?_⟩
  · intro query waiting
    obtain ⟨aims, positive⟩ := since.parked query (parked query waiting)
    rw [offset, limit]
    exact ⟨aims_later env poll after later query _ aims, positive⟩
  · rw [successes, served]
    exact since.answered
  · intro query member
    exact permitted_later env poll after later query (queued query member)
  · rw [tqueue]
    exact since.fits
  · rw [tqueue]
    exact since.removed
  · rw [log]
    exact since.grows

theorem meets_since (base : Poll Queue) (unixTime : Int) (state : State Queue) (computation : Except Check (State Queue))
    (unpolled : Unpolled state computation) (since : Since env base unixTime state.poll) :
    Meets Tolerated (fun after => Since env base unixTime after.poll) computation := by
  apply meets_weaken Tolerated _ _ _ _ unpolled
  intro after same
  rw [same]
  exact since

theorem aims_of_entitled (poll : Poll Queue) (query : Query) (entitled : Entitled env poll query) :
    Aims env poll query (getUpdatesOffset env query) := by
  rcases entitled with unasked | ⟨positive, acknowledged⟩
  · rw [unasked]
    exact .first unasked (Int.le_refl 0) (Int.natCast_nonneg _) (fun event _ => Int.natCast_nonneg _)
  · exact .asked positive rfl acknowledged

theorem acknowledged_of_aims (poll : Poll Queue) (query : Query) (offset : Int) (aims : Aims env poll query offset)
    (asked : 0 < getUpdatesOffset env query) : Acknowledged env poll (getUpdatesOffset env query) := by
  cases aims with
  | first unasked positive below first => omega
  | asked positive same acknowledged => exact acknowledged

theorem long_poll_wakeup_since (draws : Draws) (forceFlag : Bool) (base : Poll Queue)
    (baseInv : CursorLog.Inv TQueueEvent.id (base.log env)) (state : State Queue)
    (since : Since env base draws.unixTime state.poll)
    (based : ∀ query, state.longPollQuery = some query → 0 < getUpdatesOffset env query →
      Acknowledged env base (getUpdatesOffset env query)) :
    Meets Tolerated (fun after => Since env base draws.unixTime after.poll) (longPollWakeup env draws forceFlag state) := by
  unfold longPollWakeup
  split
  · exact meets_since env base _ state _ (warn_pending_updates_unpolled env draws state) since
  · rename_i query waiting
    obtain ⟨aims, positive⟩ := since.parked query waiting
    split
    · have taken : Since env base draws.unixTime { state.poll with longPollQuery := none } :=
        since_same env base state.poll _ _ since rfl rfl rfl rfl rfl (fun query found => by cases found) rfl
          since.queued
      refine do_get_updates_since env draws base baseInv query _ _ 0 _ taken (based query waiting) ?_ positive
      exact aims_later env state.poll { state.poll with longPollQuery := none }
        ⟨fun _ => .inl, Nat.le_refl _, Set.Subset.refl _⟩ query _ aims
    · exact since

theorem process_get_updates_since (draws : Draws) (base : Poll Queue)
    (baseInv : CursorLog.Inv TQueueEvent.id (base.log env)) (query : Query) (state : State Queue)
    (since : Since env base draws.unixTime state.poll) (entitled : Entitled env base query) :
    Meets Tolerated (fun after => Since env base draws.unixTime after.poll)
      (processGetUpdatesQuery env draws query state) := by
  unfold processGetUpdatesQuery
  split
  · change Since env base draws.unixTime (failQueryConflict draws webhookConflict query state).poll
    rw [fail_query_conflict_poll]
    exact since
  · apply meets_bind Tolerated _ _ _ _ (update_allowed_update_types_unpolled env query state)
    rintro ⟨changed, updated⟩ same
    dsimp only
    have still : Since env base draws.unixTime updated.poll := by
      rw [show updated.poll = state.poll from same]
      exact since
    refine do_get_updates_since env draws base baseInv query _ _ _ _ still ?_ ?_ ?_
    · intro asked
      rcases entitled with unasked | ⟨positive, acknowledged⟩
      · omega
      · exact acknowledged
    · apply aims_of_entitled
      rcases entitled with unasked | ⟨positive, last, delivered, next⟩
      · exact .inl unasked
      · exact .inr ⟨positive, last, still.grows delivered, next⟩
    · split
      · exact Int.le_refl 1
      · exact le_max_left _ _

end Delivery

end TelegramBotApi.Client
