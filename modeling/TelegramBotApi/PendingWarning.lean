import TelegramBotApi.GetUpdatesLossless
import TelegramBotApi.Lib.Tables
import TelegramBotApi.WebhookActor

set_option autoImplicit false

namespace TelegramBotApi

open Checked

namespace TQueue

variable {Queue : Type} (tqueue : TQueue Queue)

def pending (offset : EventId) (queue : Queue) : List TQueueEvent :=
  (tqueue.kept queue).filter (fun event => offset ≤ event.id)

-- The size that get returns covers the events pending from the offset on, and is
-- their number when the previous ones are forgotten.
structure CountsPending : Prop where
  covers : ∀ queue offset forgetPrevious now limit size events after,
    tqueue.get queue offset forgetPrevious now limit = some (size, events, after) →
    (tqueue.pending offset after).length ≤ size
  exact : ∀ queue offset now limit size events after,
    tqueue.get queue offset true now limit = some (size, events, after) → size = (tqueue.pending offset after).length

theorem events_of_get (queue : Queue) (offset : EventId) (forgetPrevious : Bool) (now : Int) (limit size : Nat)
    (events : List TQueueEvent) (after : Queue)
    (got : tqueue.get queue offset forgetPrevious now limit = some (size, events, after)) :
    events = (tqueue.pending offset after).take limit :=
  (tqueue.getEvents _ _ _ _ _ _ _ _ got).1

theorem events_all_pending (counts : tqueue.CountsPending) (queue : Queue) (offset : EventId) (forgetPrevious : Bool)
    (now : Int) (limit size : Nat) (events : List TQueueEvent) (after : Queue)
    (got : tqueue.get queue offset forgetPrevious now limit = some (size, events, after)) (all : events.length = size) :
    events = tqueue.pending offset after := by
  have taken := tqueue.events_of_get _ _ _ _ _ _ _ _ got
  have covered := counts.covers _ _ _ _ _ _ _ _ got
  rw [taken]
  apply List.take_of_length_le
  rw [← all, taken, List.length_take] at covered
  exact covered.trans (Nat.min_le_left _ _)

theorem list_counts_pending : listTQueue.CountsPending where
  covers queue offset forgetPrevious now limit size events after got := by
    cases got
    exact Nat.le_refl _
  exact queue offset now limit size events after got := by
    cases got
    rfl

end TQueue

namespace WebhookActor

variable {TQueueState Flood : Type} (env : Environment TQueueState Flood)

def State.Loaded (event : TQueueEvent) (state : State TQueueState Flood) : Prop :=
  (state.updateMap.lookup event.id).isSome = true

-- What load_updates may say about the success of the webhook: every update that
-- is pending from tqueue_offset_ on has been loaded.
def AllLoaded (state after : State TQueueState Flood) : Prop :=
  ∀ event ∈ env.tqueue.kept after.tqueue, (∀ offset, state.tqueueOffset = some offset → offset ≤ event.id) →
    after.Loaded event

structure Filling (tqueue : TQueueState) (messages : List Message) (events rest : List TQueueEvent)
    (state : State TQueueState Flood) : Prop where
  tqueue : state.tqueue = tqueue
  messages : state.messages = messages
  filled : ∀ event ∈ events, event ∈ rest ∨ state.Loaded event

theorem load_update_filling (now unixTimeNow : Int) (tqueue : TQueueState) (messages : List Message)
    (events : List TQueueEvent) (event : TQueueEvent) (rest : List TQueueEvent) (state : State TQueueState Flood)
    (filling : Filling tqueue messages events (event :: rest) state) :
    Meets (fun _ => True) (Filling tqueue messages events rest) (loadUpdate now unixTimeNow state event) := by
  unfold loadUpdate
  split
  · rename_i present
    refine ⟨filling.tqueue, filling.messages, fun other member => ?_⟩
    rcases filling.filled other member with waiting | loaded
    · rcases List.mem_cons.1 waiting with rfl | later
      · exact .inr present
      · exact .inl later
    · exact .inr loaded
  · apply meets_require _ _ _ _ _ (fun _ => trivial)
    intro _
    refine ⟨filling.tqueue, filling.messages, fun other member => ?_⟩
    simp only [State.Loaded, Tables.lookup_insert]
    by_cases same : other.id = event.id
    · exact .inr (by rw [if_pos same, Option.isSome_some])
    · rw [if_neg same]
      rcases filling.filled other member with waiting | loaded
      · rcases List.mem_cons.1 waiting with rfl | later
        · exact absurd rfl same
        · exact .inl later
      · exact .inr loaded

theorem tell_success_tqueue (drained : Bool) (state : State TQueueState Flood) :
    (tellSuccess drained state).tqueue = state.tqueue := by
  unfold tellSuccess
  split <;> rfl

theorem tell_success_update_map (drained : Bool) (state : State TQueueState Flood) :
    (tellSuccess drained state).updateMap = state.updateMap := by
  unfold tellSuccess
  split <;> rfl

theorem tell_success_messages (drained : Bool) (state : State TQueueState Flood) :
    (tellSuccess drained state).messages ≠ state.messages → drained = true := by
  unfold tellSuccess
  split
  · rename_i told
    intro _
    simp only [Bool.and_eq_true] at told
    exact told.1
  · intro changed
    exact absurd rfl changed

theorem fetch_updates_pending (counts : env.tqueue.CountsPending) (offset : EventId) (unixTimeNow : Int) (limit : Nat)
    (state : State TQueueState Flood) :
    Meets (fun _ => True) (fun fetched => fetched.2.2.messages = state.messages ∧
        env.tqueue.kept fetched.2.2.tqueue ⊆ env.tqueue.kept state.tqueue ∧
        (fetched.2.1.length = fetched.1 → ∀ event ∈ env.tqueue.kept fetched.2.2.tqueue, offset ≤ event.id →
          event ∈ fetched.2.1))
      (fetchUpdates env offset unixTimeNow limit state) := by
  have present (from_ : EventId) (size : Nat) (events : List TQueueEvent) (tqueue : TQueueState)
      (got : env.tqueue.get state.tqueue from_ false unixTimeNow limit = some (size, events, tqueue))
      (all : events.length = size) (event : TQueueEvent) (kept : event ∈ env.tqueue.kept tqueue)
      (above : from_ ≤ event.id) : event ∈ events := by
    rw [env.tqueue.events_all_pending counts _ _ _ _ _ _ _ _ got all]
    exact List.mem_filter.2 ⟨kept, decide_eq_true above⟩
  unfold fetchUpdates
  split
  · rename_i size events tqueue got
    exact ⟨rfl, (env.tqueue.getKept _ _ _ _ _ _ _ _ got).2.1.subset, present _ _ _ _ got⟩
  · split
    · exact trivial
    · rename_i head found
      split
      · exact trivial
      · rename_i size events tqueue got
        have stayed := (env.tqueue.getKept _ _ _ _ _ _ _ _ got).2.1.subset
        refine ⟨rfl, stayed, fun all event kept _ => present _ _ _ _ got all event kept ?_⟩
        exact (env.tqueue.headBelow _ _ found).2 event (stayed kept)

theorem load_updates_success (counts : env.tqueue.CountsPending) (draws : Draws) (state : State TQueueState Flood) :
    Meets (fun _ => True) (fun after => after.messages ≠ state.messages → AllLoaded env state after)
      (loadUpdates env draws state) := by
  unfold loadUpdates
  split
  · exact fun changed => absurd rfl changed
  · split
    · exact meets_require _ _ _ _ _ (fun _ => trivial) fun _ changed => absurd rfl changed
    · dsimp only
      split
      · rename_i missing
        intro _ event member _
        have nothing := env.tqueue.headMissing state.tqueue (Option.or_eq_none_iff.1 missing).2
        rw [tell_success_tqueue, nothing] at member
        cases member
      · rename_i offset set
        refine meets_bind _ _ _ _ _ (fetch_updates_pending env counts offset _ _ _) ?_
        rintro ⟨totalSize, events, fetched⟩ ⟨silent, stayed, covered⟩
        refine meets_bind _ (Filling fetched.tqueue fetched.messages events []) _ _ _ ?_ ?_
        · refine meets_foldlM_rest _ (Filling fetched.tqueue fetched.messages events) _ events _ ?_ ?_
          · exact ⟨rfl, rfl, fun event member => .inl member⟩
          · exact fun event rest state => load_update_filling _ _ _ _ events event rest state
        · intro loaded filling changed event member above
          have all := tell_success_messages _ loaded (by rwa [filling.messages, silent])
          rw [tell_success_tqueue, filling.tqueue] at member
          rw [State.Loaded, tell_success_update_map]
          have wanted : offset ≤ event.id := by
            cases before : state.tqueueOffset with
            | some asked =>
                rw [before, Option.some_or, Option.some.injEq] at set
                exact set ▸ above asked before
            | none =>
                rw [before, Option.none_or] at set
                exact (env.tqueue.headBelow _ _ set).2 event (stayed member)
          exact (filling.filled event (covered (of_decide_eq_true all) event member wanted)).resolve_left
            List.not_mem_nil

end WebhookActor

namespace Client

section Backlog

variable {Queue : Type} (env : Environment Queue)

structure Backlog where
  updates : List TQueueEvent
  pending : List TQueueEvent

def readBacklog (offset : EventId) (limit : Nat) (unixTime : Int) (queue : Queue) : Option Backlog :=
  (env.tqueue.get queue offset true unixTime limit).map
    (fun fetched => ⟨fetched.2.1, env.tqueue.pending offset fetched.2.2⟩)

-- A rejected offset is replaced by the head, and no head leaves nothing to fetch.
def backlogFrom (offset : Int) (limit : Nat) (unixTime : Int) (queue : Queue) : Backlog :=
  if offset ≤ 0 then ⟨[], []⟩
  else
    ((readBacklog env offset.toNat limit unixTime queue).or
      (readBacklog env ((env.tqueue.getHead queue).getD 0) limit unixTime queue)).getD ⟨[], []⟩

def backlog (draws : Draws) (offset limit : Int) (queue : Queue) : Backlog :=
  let cleared := if offset < 0 then env.tqueue.clear queue offset.natAbs else queue
  backlogFrom env (effectiveOffset env offset cleared) (servedLimit limit) draws.unixTime cleared

def State.requested (request : Request) (state : State Queue) : List Request :=
  if state.closing || state.loggingOut then state.requests else state.requests ++ [request]

def WarningCleared (before after : State Queue) : Prop :=
  after.requests = before.requested (.setBotUpdatesStatus 0 "") ∧ after.wasBotUpdatesWarning = false

def WarningKept (before after : State Queue) : Prop :=
  after.requests = before.requests ∧ after.wasBotUpdatesWarning = true

def ClearsExactly (drained : Prop) (before after : State Queue) : Prop :=
  (drained → WarningCleared before after) ∧ (¬ drained → WarningKept before after)

def Answered (query : Query) (before after : State Queue) : Prop :=
  ∃ updates, after.answers = before.answers ++ [(query, .updates updates)]

theorem read_backlog_taken (offset : EventId) (limit : Nat) (unixTime : Int) (queue : Queue) (found : Backlog)
    (read : readBacklog env offset limit unixTime queue = some found) : found.updates = found.pending.take limit := by
  simp only [readBacklog, Option.map_eq_some_iff] at read
  obtain ⟨⟨size, updates, after⟩, got, rfl⟩ := read
  exact env.tqueue.events_of_get _ _ _ _ _ _ _ _ got

theorem backlog_from_taken (offset : Int) (limit : Nat) (unixTime : Int) (queue : Queue) :
    (backlogFrom env offset limit unixTime queue).updates =
      (backlogFrom env offset limit unixTime queue).pending.take limit := by
  unfold backlogFrom
  split
  · simp
  · cases found : (readBacklog env offset.toNat limit unixTime queue).or
      (readBacklog env ((env.tqueue.getHead queue).getD 0) limit unixTime queue) with
    | none => simp
    | some backlog =>
        rcases Option.or_eq_some_iff.1 found with asked | ⟨_, head⟩
        · exact read_backlog_taken env _ _ _ _ _ asked
        · exact read_backlog_taken env _ _ _ _ _ head

theorem backlog_taken (draws : Draws) (offset limit : Int) (queue : Queue) :
    (backlog env draws offset limit queue).updates =
      (backlog env draws offset limit queue).pending.take (servedLimit limit) :=
  backlog_from_taken env _ _ _ _

theorem fetch_updates_backlog (counts : env.tqueue.CountsPending) (offset : Int) (limit : Nat) (unixTime : Int)
    (queue after : Queue) (size : Nat) (updates : List TQueueEvent) (positive : ¬ offset ≤ 0)
    (fetched : fetchUpdates env offset limit unixTime queue = .ok (size, updates, after)) :
    updates = (backlogFrom env offset limit unixTime queue).updates ∧
      size = (backlogFrom env offset limit unixTime queue).pending.length := by
  unfold fetchUpdates at fetched
  split at fetched
  · rename_i got
    cases fetched
    simp only [backlogFrom, if_neg positive, readBacklog, got, Option.map_some, Option.some_or, Option.getD_some,
      true_and]
    exact counts.exact _ _ _ _ _ _ _ got
  · rename_i rejected
    split at fetched
    · rename_i got
      cases fetched
      simp only [backlogFrom, if_neg positive, readBacklog, rejected, got, Option.map_some, Option.map_none,
        Option.none_or, Option.getD_some, true_and]
      exact counts.exact _ _ _ _ _ _ _ got
    · cases fetched

theorem do_get_updates_backlog (counts : env.tqueue.CountsPending) (draws : Draws) (offset limit timeout : Int)
    (query : Query) (state after : State Queue)
    (done : doGetUpdates env draws offset limit timeout query state = .ok after) :
    ∃ start tqueue before, answerGetUpdates draws start limit timeout query before
      (backlog env draws offset limit state.tqueue).pending.length (backlog env draws offset limit state.tqueue).updates
      { state with tqueue := tqueue } = .ok after := by
  have cleared : (if offset < 0 then { state with tqueue := env.tqueue.clear state.tqueue offset.natAbs } else state) =
      { state with tqueue := if offset < 0 then env.tqueue.clear state.tqueue offset.natAbs else state.tqueue } := by
    split <;> rfl
  simp only [doGetUpdates, cleared] at done
  rw [← effectiveOffset, ← servedLimit] at done
  simp only [backlog]
  generalize (if offset < 0 then env.tqueue.clear state.tqueue offset.natAbs else state.tqueue) = queue at done ⊢
  generalize effectiveOffset env offset queue = start at done ⊢
  by_cases missing : start ≤ 0
  · rw [if_pos missing] at done
    rw [backlogFrom, if_pos missing]
    exact ⟨start, queue, queue, done⟩
  · rw [if_neg missing] at done
    cases fetched : fetchUpdates env start (servedLimit limit) draws.unixTime queue with
    | error check =>
        rw [fetched] at done
        cases done
    | ok found =>
        obtain ⟨size, updates, tqueue⟩ := found
        rw [fetched] at done
        obtain ⟨rfl, rfl⟩ := fetch_updates_backlog env counts start _ _ queue tqueue size updates missing fetched
        exact ⟨start, tqueue, queue, done⟩

theorem report_status_cleared (draws : Draws) (state reported : State Queue) (warned : state.wasBotUpdatesWarning = true)
    (done : reportBotUpdatesStatus draws true state = .ok reported) :
    WarningCleared state reported ∧ reported.answers = state.answers := by
  simp only [reportBotUpdatesStatus, warned, Bool.and_self, if_true] at done
  simp only [WarningCleared, State.requested]
  unfold sendRequest at done
  split at done
  · rename_i closing
    cases done
    exact ⟨⟨(if_pos closing).symm, rfl⟩, rfl⟩
  · rename_i running
    simp only [doSendRequest] at done
    by_cases online : state.tdClient = true
    · rw [require_true _ _ online] at done
      cases done
      exact ⟨⟨(if_neg running).symm, rfl⟩, rfl⟩
    · rw [require, if_neg online] at done
      cases done

theorem report_status_kept (draws : Draws) (state reported : State Queue) (warned : state.wasBotUpdatesWarning = true)
    (done : reportBotUpdatesStatus draws false state = .ok reported) :
    WarningKept state reported ∧ reported.answers = state.answers := by
  simp only [reportBotUpdatesStatus, Bool.false_and] at done
  cases done
  exact ⟨⟨rfl, warned⟩, rfl⟩

theorem parked_unanswered (draws : Draws) (offset limit timeout : Int) (query : Query) (state : State Queue) :
    ¬ Answered query state (parkLongPoll draws offset limit timeout query state) := by
  rintro ⟨updates, answered⟩
  simp only [parkLongPoll, abortLongPoll] at answered
  split at answered
  · simp at answered
  · simp only [failQueryConflict] at answered
    split at answered <;> simp [State.answer] at answered

theorem answer_get_updates_reports (draws : Draws) (start limit timeout : Int) (query : Query) (before : Queue)
    (totalSize : Nat) (updates : List TQueueEvent) (state after : State Queue)
    (warned : state.wasBotUpdatesWarning = true)
    (done : answerGetUpdates draws start limit timeout query before totalSize updates state = .ok after)
    (answered : Answered query state after) :
    if totalSize - updates.length = updates.length then WarningCleared state after else WarningKept state after := by
  by_cases covers : updates.length ≤ totalSize
  · rw [answerGetUpdates, require_true _ _ covers, ok_bind] at done
    by_cases parked : timeout ≠ 0 ∧ updates = []
    · rw [if_pos parked] at done
      cases done
      exact absurd answered (parked_unanswered draws start limit timeout query state)
    · rw [if_neg parked] at done
      cases reporting : reportBotUpdatesStatus draws (decide (totalSize - updates.length = updates.length)) state with
      | error check =>
          rw [reporting] at done
          cases done
      | ok reported =>
          rw [reporting] at done
          cases done
          by_cases equal : totalSize - updates.length = updates.length
          · rw [decide_eq_true equal] at reporting
            rw [if_pos equal]
            exact (report_status_cleared draws state reported warned reporting).1
          · rw [decide_eq_false equal] at reporting
            rw [if_neg equal]
            exact (report_status_kept draws state reported warned reporting).1
  · rw [answerGetUpdates, require, if_neg covers] at done
    cases done

theorem not_cleared_and_kept (before after : State Queue) (cleared : WarningCleared before after)
    (kept : WarningKept before after) : False := by
  have unset := cleared.2
  rw [kept.2] at unset
  cases unset

theorem clears_exactly_iff (drained reported : Prop) [Decidable reported] (before after : State Queue)
    (outcome : if reported then WarningCleared before after else WarningKept before after) :
    ClearsExactly drained before after ↔ (reported ↔ drained) := by
  by_cases cleared : reported
  · rw [if_pos cleared] at outcome
    constructor
    · intro exactly
      exact ⟨fun _ => Classical.not_not.1 fun left => not_cleared_and_kept _ _ outcome (exactly.2 left), fun _ => cleared⟩
    · intro agrees
      exact ⟨fun _ => outcome, fun left => absurd (agrees.1 cleared) left⟩
  · rw [if_neg cleared] at outcome
    constructor
    · intro exactly
      exact ⟨fun set => absurd set cleared, fun all => (not_cleared_and_kept _ _ (exactly.1 all) outcome).elim⟩
    · intro agrees
      exact ⟨fun all => absurd (agrees.2 all) cleared, fun _ => outcome⟩

theorem compared_iff (pending : List TQueueEvent) (limit : Nat) :
    (pending.length - (pending.take limit).length = (pending.take limit).length ↔ pending.take limit = pending) ↔
      pending = [] ∨ limit < pending.length ∧ pending.length ≠ 2 * limit := by
  rw [List.take_eq_self_iff, List.length_take, ← List.length_eq_zero_iff]
  omega

-- The warning is taken back when half of the pending updates was fetched, while
-- the webhook reports its success when all of them were.
theorem warning_cleared_iff (counts : env.tqueue.CountsPending) (draws : Draws) (offset limit timeout : Int)
    (query : Query) (state after : State Queue) (warned : state.wasBotUpdatesWarning = true)
    (done : doGetUpdates env draws offset limit timeout query state = .ok after)
    (answered : Answered query state after) :
    (ClearsExactly ((backlog env draws offset limit state.tqueue).updates = (backlog env draws offset limit state.tqueue).pending)
        state after ↔
      (backlog env draws offset limit state.tqueue).pending = [] ∨
        servedLimit limit < (backlog env draws offset limit state.tqueue).pending.length ∧
          (backlog env draws offset limit state.tqueue).pending.length ≠ 2 * servedLimit limit) ∧
    ∀ (Flood : Type) (actor : WebhookActor.Environment Queue Flood) (loading : WebhookActor.Draws)
      (hook loaded : WebhookActor.State Queue Flood), actor.tqueue = env.tqueue →
      WebhookActor.loadUpdates actor loading hook = .ok loaded → loaded.messages ≠ hook.messages →
      WebhookActor.AllLoaded actor hook loaded := by
  constructor
  · obtain ⟨start, tqueue, before, answering⟩ :=
      do_get_updates_backlog env counts draws offset limit timeout query state after done
    have reported := answer_get_updates_reports draws start limit timeout query before _ _ { state with tqueue := tqueue }
      after warned answering answered
    rw [backlog_taken] at reported ⊢
    rw [← compared_iff]
    exact clears_exactly_iff _ _ state after reported
  · intro Flood actor loading hook loaded same ended told
    have success := WebhookActor.load_updates_success actor (same ▸ counts) loading hook
    rw [ended] at success
    exact success told

end Backlog

def warnedClient (queue : ListQueue) : State ListQueue :=
  { startedClient with tqueue := queue, wasBotUpdatesWarning := true }

def plainPoll : Query where
  id := 1
  method := "getupdates"

theorem first_of_three_cleared_exactly : ∃ after,
    doGetUpdates plainServer {} 0 1 0 plainPoll (warnedClient threeUpdates) = .ok after ∧
    ClearsExactly ((backlog plainServer {} 0 1 threeUpdates).updates = (backlog plainServer {} 0 1 threeUpdates).pending)
      (warnedClient threeUpdates) after :=
  ⟨_, rfl, (warning_cleared_iff plainServer TQueue.list_counts_pending {} 0 1 0 plainPoll (warnedClient threeUpdates) _
    rfl rfl ⟨_, rfl⟩).1.2 (.inr (by decide))⟩

-- Three pending updates are fetched at once.
theorem drained_keeps_warning : ∃ after,
    doGetUpdates plainServer {} 0 100 0 plainPoll (warnedClient threeUpdates) = .ok after ∧
    Answered plainPoll (warnedClient threeUpdates) after ∧ (warnedClient threeUpdates).wasBotUpdatesWarning = true ∧
    ¬ ClearsExactly
      ((backlog plainServer {} 0 100 threeUpdates).updates = (backlog plainServer {} 0 100 threeUpdates).pending)
      (warnedClient threeUpdates) after := by
  refine ⟨_, rfl, ⟨_, rfl⟩, rfl, fun exactly => ?_⟩
  have cleared := (exactly.1 (by decide)).2
  cases cleared

end Client

end TelegramBotApi
