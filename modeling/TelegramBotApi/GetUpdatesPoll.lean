import TelegramBotApi.Lib.CursorLog
import TelegramBotApi.SetWebhookSafety

set_option autoImplicit false

namespace TelegramBotApi.Client

open Checked

def successOf : Query × Answer → Option (Query × List TQueueEvent)
  | (query, .updates updates) => some (query, updates)
  | _ => none

structure Poll (Queue : Type) where
  tqueue : Queue
  longPollQuery : Option Query
  longPollLimit : Int
  longPollOffset : Int
  clearTqueue : Bool
  cmdQueue : List Query
  successes : List (Query × List TQueueEvent)
  served : List (Served Queue)

section Poll

variable {Queue : Type} (env : Environment Queue)

def State.poll (state : State Queue) : Poll Queue where
  tqueue := state.tqueue
  longPollQuery := state.longPollQuery
  longPollLimit := state.longPollLimit
  longPollOffset := state.longPollOffset
  clearTqueue := state.clearTqueue
  cmdQueue := state.cmdQueue
  successes := state.answers.filterMap successOf
  served := state.served

theorem mem_successes (query : Query) (updates : List TQueueEvent) (state : State Queue) :
    (query, updates) ∈ state.poll.successes ↔ (query, .updates updates) ∈ state.answers := by
  simp only [State.poll, List.mem_filterMap]
  constructor
  · rintro ⟨⟨other, answer⟩, member, same⟩
    cases answer with
    | updates found =>
        cases same
        exact member
    | ok description => cases same
    | error code message => cases same
    | retryAfter seconds => cases same
  · intro member
    exact ⟨_, member, rfl⟩

def Unpolled (state : State Queue) (computation : Except Check (State Queue)) : Prop :=
  Meets Tolerated (fun after => after.poll = state.poll) computation

theorem answer_poll (query : Query) (answer : Answer) (state : State Queue) (silent : successOf (query, answer) = none) :
    (state.answer query answer).poll = state.poll := by
  simp only [State.poll, State.answer, List.filterMap_append, List.filterMap_cons, silent, List.filterMap_nil,
    List.append_nil]

theorem fail_query_conflict_poll (draws : Draws) (message : String) (query : Query) (state : State Queue) :
    (failQueryConflict draws message query state).poll = state.poll := by
  unfold failQueryConflict
  split
  · exact answer_poll query _ state rfl
  · exact answer_poll query _ state rfl

theorem fail_query_closing_unpolled (draws : Draws) (query : Query) (state : State Queue) :
    Unpolled state (failQueryClosing draws query state) := by
  apply meets_bind Tolerated (fun _ => True) _ _ _ (closing_error_meets draws state)
  intro error _
  by_cases later : 0 < error.retryAfter
  · rw [if_pos later]
    exact answer_poll query _ state rfl
  · rw [if_neg later]
    exact answer_poll query _ state rfl

theorem do_send_request_unpolled (request : Request) (state : State Queue) :
    Unpolled state (doSendRequest request state) := by
  apply meets_require Tolerated _ _ _ _ (fun _ => by decide)
  intro _
  exact rfl

theorem send_request_unpolled (request : Request) (state : State Queue) : Unpolled state (sendRequest request state) := by
  unfold sendRequest
  split
  · exact rfl
  · exact do_send_request_unpolled request state

theorem ask_poll (types : Nat) (state : State Queue) : (state.ask types).poll = state.poll := by
  unfold State.ask
  split <;> rfl

theorem update_allowed_update_types_unpolled (query : Query) (state : State Queue) :
    Meets Tolerated (fun result => result.2.poll = state.poll) (updateAllowedUpdateTypes env query state) := by
  unfold updateAllowedUpdateTypes
  extract_lets types
  split
  · apply meets_bind Tolerated _ _ _ _ (send_request_unpolled _ _)
    intro sent kept
    exact kept.trans (ask_poll types state)
  · exact ask_poll types state

theorem report_bot_updates_status_unpolled (draws : Draws) (allFetched : Bool) (state : State Queue) :
    Unpolled state (reportBotUpdatesStatus draws allFetched state) := by
  unfold reportBotUpdatesStatus
  dsimp only
  split
  · apply meets_bind Tolerated _ _ _ _ (send_request_unpolled _ _)
    intro sent kept
    exact kept
  · exact rfl

theorem warn_pending_updates_unpolled (draws : Draws) (state : State Queue) :
    Unpolled state (warnPendingUpdates env draws state) := by
  unfold warnPendingUpdates
  dsimp only
  split
  · apply meets_bind Tolerated _ _ _ _ (send_request_unpolled _ _)
    intro sent kept
    exact kept
  · exact rfl

theorem process_close_unpolled (draws : Draws) (query : Query) (state : State Queue) :
    Unpolled state (processClose env draws query state) := by
  unfold processClose
  dsimp only
  split
  · exact answer_poll query _ state rfl
  · exact do_send_request_unpolled _ _

theorem close_unpolled (draws : Draws) (state : State Queue) : Unpolled state (close draws state) := by
  unfold close
  dsimp only
  split
  · exact rfl
  · split
    · exact do_send_request_unpolled _ _
    · exact rfl

theorem unpolled_from (first state : State Queue) (computation : Except Check (State Queue)) (same : first.poll = state.poll)
    (unpolled : Unpolled first computation) : Unpolled state computation :=
  meets_weaken Tolerated _ _ _ (fun _ kept => kept.trans same) unpolled

theorem log_out_unpolled (draws : Draws) (code : Int) (message : String) (state : State Queue) :
    Unpolled state (logOut env draws code message state) := by
  unfold logOut
  extract_lets retryAfter noted
  have same : noted.poll = state.poll := by
    unfold noted
    split
    · rfl
    · split
      · split <;> rfl
      · split <;> rfl
  split
  · exact unpolled_from _ _ _ same (do_send_request_unpolled _ noted)
  · exact same

theorem stop_or_wait_poll (draws : Draws) (state : State Queue) : (stopOrWait draws state).poll = state.poll := by
  unfold stopOrWait
  split <;> rfl

theorem abort_long_poll_poll (draws : Draws) (fromSetWebhook : Bool) (state : State Queue) :
    (abortLongPoll draws fromSetWebhook state).poll = { state.poll with longPollQuery := none } := by
  unfold abortLongPoll
  split
  · rename_i missing
    have absent : state.poll.longPollQuery = none := missing
    rw [← absent]
  · rw [fail_query_conflict_poll]
    rfl

def Poll.park (offset limit : Int) (query : Query) (poll : Poll Queue) : Poll Queue :=
  { poll with longPollQuery := some query, longPollLimit := limit, longPollOffset := offset }

theorem park_long_poll_poll (draws : Draws) (offset limit timeout : Int) (query : Query) (state : State Queue) :
    (parkLongPoll draws offset limit timeout query state).poll = state.poll.park offset limit query := by
  have aborted := abort_long_poll_poll draws false state
  change (abortLongPoll draws false state).poll.park offset limit query = _
  rw [aborted]
  rfl

def Poll.serve (query : Query) (before : Queue) (limit : Nat) (unixTime : Int) (updates : List TQueueEvent)
    (poll : Poll Queue) : Poll Queue :=
  { poll with
    successes := poll.successes ++ [(query, updates)]
    served := poll.served ++ [⟨query, before, limit, unixTime, updates, poll.tqueue⟩] }

theorem serve_poll (query : Query) (before : Queue) (limit : Nat) (unixTime : Int) (updates : List TQueueEvent)
    (state : State Queue) :
    (serve query before limit unixTime updates state).poll = state.poll.serve query before limit unixTime updates := by
  simp only [State.poll, serve, State.answer, Poll.serve, List.filterMap_append, List.filterMap_cons, successOf,
    List.filterMap_nil]

def servedLimit (limit : Int) : Nat := min limit.toNat tqueueEventBufferSize

inductive Polled (draws : Draws) (offset limit timeout : Int) (query : Query) (before : Queue) (updates : List TQueueEvent)
    (poll : Poll Queue) : Poll Queue → Prop where
  | parked (waits : timeout ≠ 0) (nothing : updates = []) :
      Polled draws offset limit timeout query before updates poll (poll.park offset limit query)
  | served : Polled draws offset limit timeout query before updates poll
      (poll.serve query before (servedLimit limit) draws.unixTime (jsonUpdates updates))

theorem answer_get_updates_meets (draws : Draws) (offset limit timeout : Int) (query : Query) (before : Queue)
    (totalSize : Nat) (updates : List TQueueEvent) (state : State Queue) :
    Meets Tolerated
      (fun after => Polled draws offset limit timeout query before updates state.poll after.poll)
      (answerGetUpdates draws offset limit timeout query before totalSize updates state) := by
  apply meets_require Tolerated _ _ _ _ (fun _ => by decide)
  intro _
  by_cases waits : timeout ≠ 0 ∧ updates = []
  · rw [if_pos waits]
    change Polled draws offset limit timeout query before updates state.poll
      (parkLongPoll draws offset limit timeout query state).poll
    rw [park_long_poll_poll]
    exact .parked waits.1 waits.2
  · rw [if_neg waits]
    apply meets_bind Tolerated _ _ _ _ (report_bot_updates_status_unpolled draws _ state)
    intro reported same
    change Polled draws offset limit timeout query before updates state.poll (serve _ _ _ _ _ _).poll
    rw [serve_poll, same]
    exact .served

inductive ReadsFrom (offset : Int) (limit : Nat) (unixTime : Int) (queue : Queue) (updates : List TQueueEvent)
    (after : Queue) : EventId → Prop where
  | requested (totalSize : Nat)
      (got : env.tqueue.get queue offset.toNat true unixTime limit = some (totalSize, updates, after)) :
      ReadsFrom offset limit unixTime queue updates after offset.toNat
  | head (totalSize : Nat) (rejected : env.tqueue.get queue offset.toNat true unixTime limit = none)
      (got : env.tqueue.get queue ((env.tqueue.getHead queue).getD 0) true unixTime limit =
        some (totalSize, updates, after)) :
      ReadsFrom offset limit unixTime queue updates after ((env.tqueue.getHead queue).getD 0)

theorem fetch_updates_reads (offset : Int) (limit : Nat) (unixTime : Int) (queue : Queue) :
    Meets Tolerated (fun fetched => ∃ cursor, ReadsFrom env offset limit unixTime queue fetched.2.1 fetched.2.2 cursor)
      (fetchUpdates env offset limit unixTime queue) := by
  unfold fetchUpdates
  split
  · rename_i fetched got
    exact ⟨_, .requested fetched.1 got⟩
  · rename_i rejected
    split
    · rename_i fetched got
      exact ⟨_, .head fetched.1 rejected got⟩
    · exact (by decide : Tolerated .updatesFetched)

def effectiveOffset (offset : Int) (queue : Queue) : Int :=
  if offset ≤ 0 then ((env.tqueue.getHead queue).getD 0 : Int) else offset

theorem do_get_updates_meets (draws : Draws) (offset limit timeout : Int) (query : Query) (state : State Queue)
    (positive : 0 ≤ offset) :
    Meets Tolerated (fun after =>
      (effectiveOffset env offset state.tqueue ≤ 0 ∧
        Polled draws (effectiveOffset env offset state.tqueue) limit timeout query state.tqueue [] state.poll after.poll) ∨
      0 < effectiveOffset env offset state.tqueue ∧ ∃ cursor updates tqueue,
        ReadsFrom env (effectiveOffset env offset state.tqueue) (servedLimit limit) draws.unixTime state.tqueue updates
          tqueue cursor ∧
        Polled draws (effectiveOffset env offset state.tqueue) limit timeout query state.tqueue updates
          { state.poll with tqueue := tqueue } after.poll)
      (doGetUpdates env draws offset limit timeout query state) := by
  unfold doGetUpdates
  rw [if_neg (Int.not_lt.2 positive)]
  dsimp only
  rw [← effectiveOffset]
  by_cases missing : effectiveOffset env offset state.tqueue ≤ 0
  · rw [if_pos missing]
    apply meets_weaken Tolerated _ _ _ _ (answer_get_updates_meets draws _ limit timeout query state.tqueue 0 [] state)
    intro after polled
    exact .inl ⟨missing, polled⟩
  · rw [if_neg missing]
    apply meets_bind Tolerated _ _ _ _ (fetch_updates_reads env _ _ _ _)
    rintro ⟨totalSize, updates, tqueue⟩ ⟨cursor, reads⟩
    apply meets_weaken Tolerated _ _ _ _ (answer_get_updates_meets draws _ limit timeout query state.tqueue totalSize updates
      { state with tqueue := tqueue })
    intro after polled
    exact .inr ⟨Int.not_le.1 missing, cursor, updates, tqueue, reads, polled⟩

end Poll

end TelegramBotApi.Client
