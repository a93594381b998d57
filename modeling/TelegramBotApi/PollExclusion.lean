import TelegramBotApi.RequestLedger

set_option autoImplicit false

namespace TelegramBotApi.Client

open Checked

section Exclusion

variable {Queue : Type} (env : Environment Queue)

section Commands

variable (sent : Multiset Query) (hand : List Query) (phase : Phase) (draws : Draws)

theorem do_send_request_undesked (request : Request) (state : State Queue) :
    Undesked state (doSendRequest request state) := by
  apply meets_require _ _ _ _ _ (fun _ => trivial)
  intro _
  exact rfl

-- The queries of close and logOut are answered by TDLib.
theorem td_query_balances (query : Query) (unhandled : ¬ Handled query) (request : Request) (state : State Queue)
    (balanced : Balanced sent (query :: hand) phase state.desk) :
    Balances sent hand phase (doSendRequest request { state with tdQueries := state.tdQueries ++ [query] }) := by
  apply meets_weaken _ _ _ _ _ (do_send_request_undesked request _)
  intro after same
  have dropped := (unhandled_balanced sent hand phase query state.desk unhandled).1 balanced
  rw [same]
  exact { dropped with
    others := fun other member => by
      rcases List.mem_append.1 member with old | new
      · exact dropped.others other old
      · rw [List.mem_singleton.1 new]
        exact unhandled }

theorem on_cmd_balances (query : Query) (state : State Queue) (consistent : Consistent env state.side)
    (balanced : Balanced sent (query :: hand) phase state.desk) : Balances sent hand phase (onCmd env draws state query) := by
  have unhandled (name : String) (named : query.method = name) (differs : name ≠ "getupdates" ∧ name ≠ "setwebhook" ∧
      name ≠ "deletewebhook") : ¬ Handled query := by
    rintro (poll | set | delete)
    · exact differs.1 (named.symm.trans poll)
    · exact differs.2.1 (named.symm.trans set)
    · exact differs.2.2 (named.symm.trans delete)
  unfold onCmd
  extract_lets online
  by_cases close : online = true ∧ query.method = "close"
  · rw [if_pos close]
    have other := unhandled "close" close.2 (by decide)
    unfold processClose
    dsimp only
    split
    · exact answer_balanced sent hand phase query _ state.desk balanced (fun poll => absurd (.inl poll) other)
    · exact td_query_balances sent hand phase query other .close { state with needClose := true } balanced
  · rw [if_neg close]
    by_cases logout : online = true ∧ query.method = "logout"
    · rw [if_pos logout]
      exact td_query_balances sent hand phase query (unhandled "logout" logout.2 (by decide)) .logOut
        { state with clearTqueue := true } balanced
    · rw [if_neg logout]
      by_cases closing : state.side.isClosing = true
      · rw [if_pos (show (state.loggingOut || state.closing) = true from closing)]
        exact fail_query_closing_balances sent hand phase draws query state balanced
      · rw [if_neg (show ¬ (state.loggingOut || state.closing) = true from closing)]
        apply meets_require _ _ _ _ _ (fun _ => trivial)
        intro _
        unfold processQuery
        split
        · rename_i poll
          apply process_get_updates_balances env sent hand phase draws query poll state balanced
          rintro rfl
          have running : state.desk.tdClient = true :=
            running_of_open env state.side consistent (Bool.eq_false_of_not_eq_true closing)
          rw [balanced.client] at running
          cases running
        · rename_i notPoll
          split
          · rename_i webhook
            exact process_set_webhook_balances env sent hand phase draws query webhook state balanced
          · rename_i notWebhook
            exact (unhandled_balanced sent hand phase query state.desk (not_or.2 ⟨notPoll, notWebhook⟩)).1 balanced

theorem loop_balances (state : State Queue) (consistent : Consistent env state.side)
    (balanced : Balanced sent state.cmdQueue phase { state.desk with cmdQueue := [] })
    (waits : state.side.isClosing = false → phase ≠ .ended) :
    Balances sent [] phase (loop env draws state) := by
  unfold loop
  split
  · refine meets_weaken _ _ _ _ (fun _ both => both.2) (meets_foldlM_rest (fun _ => True)
      (fun rest (after : State Queue) => Consistent env after.side ∧ Balanced sent rest phase after.desk) _ _ _
      ⟨consistent, balanced⟩ ?_)
    rintro query rest before ⟨held, kept⟩
    apply meets_and
    · exact meets_allow Tolerated _ _ _ (fun _ _ => trivial) (on_cmd_consistent env draws query before held)
    · exact on_cmd_balances env sent rest phase draws query before held kept
  · rename_i idle
    simp only [Bool.or_eq_true, not_or, Bool.not_eq_true] at idle
    have isOpen : state.side.isClosing = false := by
      change (state.loggingOut || state.closing) = false
      rw [idle.1.2, idle.2]
      rfl
    exact { balanced with
      account := by
        rw [← total_queue [] state.desk, List.append_nil]
        exact balanced.account
      ended := fun last => absurd last (waits isOpen) }

theorem waits_of_consistent (state : State Queue) (consistent : Consistent env state.side)
    (client : state.desk.tdClient = decide (phase = .running)) : state.side.isClosing = false → phase ≠ .ended := by
  rintro isOpen rfl
  have running : state.desk.tdClient = true := running_of_open env state.side consistent isOpen
  rw [client] at running
  cases running

theorem take_queue_balanced (desk : Desk) (balanced : Balanced sent [] phase desk) :
    Balanced sent desk.cmdQueue phase { desk with cmdQueue := [] } :=
  { balanced with
    account := by
      have same := total_queue [] desk
      rw [List.append_nil] at same
      rw [same]
      exact balanced.account
    ended := fun last => ⟨(balanced.ended last).1, rfl⟩ }

theorem arrive_balanced (query : Query) (desk : Desk) (balanced : Balanced sent hand phase desk) :
    Balanced (sent + {query}) (hand ++ [query]) phase desk :=
  { balanced with
    account := by
      have total : desk.total (hand ++ [query]) = desk.total hand + {query} := by
        simp only [Desk.total, ← Multiset.coe_add, Multiset.coe_singleton]
        abel
      rw [total, Multiset.filter_add, balanced.account, ← Multiset.filter_add] }

theorem webhook_verified_balanced (token : Nat) (cachedIpAddress : String) (state : State Queue)
    (balanced : Balanced sent hand phase state.desk) :
    Balanced sent hand phase (webhookVerified token cachedIpAddress state).desk := by
  unfold webhookVerified
  split
  · exact balanced
  · extract_lets needSave verified answered
    have kept : Balanced sent hand phase answered.desk := by
      unfold answered
      split
      · rename_i unset
        have absent : state.desk.setQuery = none := unset
        change Balanced sent hand phase { state.desk with setQuery := none }
        rw [← absent]
        exact balanced
      · rename_i query waiting
        exact answer_webhook_balanced sent hand phase query (balanced.sets query waiting) (.ok "Webhook was set") _
          (take_set_balanced sent hand phase query state.desk balanced waiting)
    split
    · exact kept
    · exact kept

theorem on_webhook_closed_balances (status : String) (state : State Queue)
    (balanced : Balanced sent hand phase state.desk) (busy : state.desk.url ≠ "") :
    Balances sent hand phase (onWebhookClosed env draws status state) := by
  have unpolled : state.desk.longPoll = none := by
    by_contra parked
    exact busy (balanced.exclusive parked).1
  unfold onWebhookClosed
  dsimp only
  split
  · exact url_balanced sent hand phase "" state.desk balanced (.inl rfl)
  · rename_i query waiting
    have taken := url_balanced sent (query :: hand) phase "" _
      (take_set_balanced sent hand phase query state.desk balanced waiting) (.inl rfl)
    have webhook := balanced.sets query waiting
    split
    · exact answer_webhook_balanced sent hand phase query webhook _ _ taken
    · exact do_set_webhook_balances env sent hand phase draws query webhook true _ taken (fun _ => unpolled)

theorem webhook_closed_balances (status : String) (state : State Queue)
    (balanced : Balanced sent hand phase state.desk) (busy : state.desk.url ≠ "") :
    Balances sent hand phase (webhookClosed env draws status state) := by
  unfold webhookClosed
  split
  · exact balanced
  · exact on_webhook_closed_balances env sent hand phase draws status state balanced busy

theorem on_webhook_certificate_copied_balances (copied : Bool) (state : State Queue)
    (balanced : Balanced sent hand phase state.desk) :
    Balances sent hand phase (onWebhookCertificateCopied env draws copied state) := by
  unfold onWebhookCertificateCopied
  split
  · exact trivial
  · rename_i query active
    have webhook := balanced.activeSets query active
    have taken := take_active_balanced sent hand phase query state.desk balanced active
    have unpolled : state.desk.longPoll = none := by
      by_contra parked
      have idle := (balanced.exclusive parked).2.2
      rw [show state.desk.active = some query from active] at idle
      cases idle
    dsimp only
    split
    · exact finish_set_webhook_balances env sent hand phase draws query webhook _ taken unpolled
    · exact answer_webhook_balanced sent hand phase query webhook _ _ taken

theorem fail_query_closing_desk (query : Query) (state : State Queue) :
    Meets (fun _ => True) (fun after => ∃ answers, after.desk = { state.desk with answers := answers })
      (failQueryClosing draws query state) := by
  apply meets_read
  intro error
  split
  · exact ⟨_, rfl⟩
  · exact ⟨_, rfl⟩

theorem fail_set_query_balances (state : State Queue) (balanced : Balanced sent hand phase state.desk) :
    Balances sent hand phase (failSetQuery draws state) := by
  unfold failSetQuery
  split
  · exact balanced
  · rename_i query waiting
    exact fail_member_balances sent hand phase draws query _ state balanced
      (take_set_balanced sent hand phase query state.desk balanced waiting)

theorem fail_active_set_query_balances (state : State Queue) (balanced : Balanced sent hand phase state.desk) :
    Balances sent hand phase (failActiveSetQuery draws state) := by
  unfold failActiveSetQuery
  split
  · exact balanced
  · rename_i query active
    exact fail_member_balances sent hand phase draws query _ state balanced
      (take_active_balanced sent hand phase query state.desk balanced active)

theorem wake_long_poll_balances (state : State Queue) (balanced : Balanced sent hand phase state.desk) :
    Meets (fun _ => True) (fun after => Balanced sent hand phase after.desk ∧ after.desk.longPoll = none)
      (wakeLongPoll env draws state) := by
  unfold wakeLongPoll
  split
  · apply meets_bind _ _ _ _ _ (long_poll_wakeup_balances env sent hand phase draws true state balanced)
    intro woken kept
    apply meets_require _ _ _ _ _ (fun _ => trivial)
    intro unset
    exact ⟨kept, unset⟩
  · rename_i missing
    exact ⟨balanced, Option.not_isSome_iff_eq_none.1 missing⟩

theorem finish_closing_undesked (state : State Queue) : Undesked state (finishClosing env draws state) := by
  apply meets_bind _ (fun cleared => cleared.desk = state.desk)
  · unfold clearLoggedOut
    split
    · exact clear_tqueue_undesked env state
    · exact rfl
  · intro cleared same
    change (stopOrWait draws cleared).desk = state.desk
    rw [← same]
    unfold stopOrWait
    split <;> rfl

theorem on_closed_balances (state : State Queue) (balanced : Balanced sent [] .running state.desk) :
    Balances sent [] .ended (onClosed env draws state) := by
  apply meets_require _ _ _ _ _ (fun _ => trivial)
  intro _
  apply meets_require _ _ _ _ _ (fun _ => trivial)
  intro _
  have offline : Balanced sent [] .draining (State.desk { state with tdClient := false }) :=
    { balanced with client := rfl, ended := fun last => by cases last }
  apply meets_bind _ _ _ _ _ (fail_set_query_balances sent [] .draining draws _ offline)
  intro unset unsetBalanced
  apply meets_bind _ _ _ _ _ (fail_active_set_query_balances sent [] .draining draws unset unsetBalanced)
  intro failed failedBalanced
  extract_lets reset
  have resetBalanced : Balanced sent [] .draining reset.desk := by
    unfold reset
    split
    · exact failedBalanced
    · exact failedBalanced
  apply meets_bind _ _ _ _ _ (wake_long_poll_balances env sent [] .draining draws reset resetBalanced)
  rintro woken ⟨wokenBalanced, unpolled⟩
  refine meets_bind _ _ _ _ _ (meets_foldlM_rest (fun _ => True) (fun rest (after : State Queue) =>
    Balanced sent rest .draining after.desk ∧ after.desk.longPoll = none ∧ after.desk.cmdQueue = []) _ _ _
    ⟨take_queue_balanced sent .draining woken.desk wokenBalanced, unpolled, rfl⟩ ?_) ?_
  · rintro query rest before ⟨kept, noPoll, noQueue⟩
    apply meets_weaken _ _ _ _ _ (meets_and _ _ _ _
      (fail_query_closing_balances sent rest .draining draws query before kept) (fail_query_closing_desk draws query before))
    rintro after ⟨afterBalanced, answers, same⟩
    rw [same] at afterBalanced ⊢
    exact ⟨afterBalanced, noPoll, noQueue⟩
  · rintro drained ⟨drainedBalanced, noPoll, noQueue⟩
    have last : Balanced sent [] .ended drained.desk :=
      { drainedBalanced with client := drainedBalanced.client, ended := fun _ => ⟨noPoll, noQueue⟩ }
    split
    · exact last
    · apply meets_weaken _ _ _ _ _ (finish_closing_undesked env draws drained)
      intro after same
      rw [same]
      exact last

end Commands

def sentQuery : Event × Draws → Option Query
  | (.send query, _) => some query
  | _ => none

def sentQueries (events : List (Event × Draws)) : Multiset Query := events.filterMap sentQuery

structure Settled (sent : Multiset Query) (state : State Queue) : Prop where
  consistent : Consistent env state.side
  balanced : ∃ phase, phase ≠ .draining ∧ Balanced sent [] phase state.desk

section Step

variable (sent : Multiset Query) (phase : Phase) (draws : Draws) (state : State Queue)

theorem loop_sent_balances (consistent : Consistent env state.side) (balanced : Balanced sent [] phase state.desk) :
    Balances sent [] phase (loop env draws state) :=
  loop_balances env sent phase draws state consistent (take_queue_balanced sent phase state.desk balanced)
    (waits_of_consistent env phase state consistent balanced.client)

theorem undesked_balances (computation : Except Check (State Queue)) (undesked : Undesked state computation)
    (balanced : Balanced sent [] phase state.desk) : Balances sent [] phase computation := by
  apply meets_weaken _ _ _ _ _ undesked
  intro after same
  rw [same]
  exact balanced

theorem close_undesked : Undesked state (close draws state) := by
  unfold close
  dsimp only
  split
  · exact rfl
  · split
    · exact do_send_request_undesked _ _
    · exact rfl

theorem log_out_undesked (code : Int) (message : String) : Undesked state (logOut env draws code message state) := by
  unfold logOut
  extract_lets retryAfter noted
  have same : noted.desk = state.desk := by
    unfold noted
    split
    · rfl
    · split
      · split <;> rfl
      · split <;> rfl
  split
  · apply meets_weaken _ _ _ _ _ (do_send_request_undesked _ noted)
    exact fun after kept => kept.trans same
  · exact same

theorem add_update_balances (updateType : UpdateType) (json : String) (timeout webhookQueueId : Int)
    (balanced : Balanced sent [] phase state.desk) :
    Balances sent [] phase (addUpdate env draws updateType json timeout webhookQueueId state) := by
  unfold addUpdate
  split
  · exact balanced
  · split
    · exact balanced
    · dsimp only
      split
      · exact long_poll_wakeup_balances env sent [] phase draws false _ balanced
      · exact balanced

theorem send_balances (query : Query) (consistent : Consistent env state.side)
    (balanced : Balanced sent [] phase state.desk) : Balances (sent + {query}) [] phase (send env draws query state) := by
  apply loop_balances env (sent + {query}) phase draws { state with cmdQueue := state.cmdQueue ++ [query] } consistent
  · exact arrive_balanced sent state.cmdQueue phase query _ (take_queue_balanced sent phase state.desk balanced)
  · exact waits_of_consistent env phase state consistent balanced.client

theorem step_balances (event : Event) (consistent : Consistent env state.side) (offered : enabled state event)
    (balanced : Balanced sent [] phase state.desk) (goesOn : event ≠ .authorizationClosed)
    (silent : sentQuery (event, draws) = none) : Balances sent [] phase (step env draws state event) := by
  cases event with
  | send query => cases silent
  | close => exact undesked_balances sent phase state _ (close_undesked draws state) balanced
  | authorizationReady =>
      exact loop_sent_balances env sent phase draws _ (ready_consistent env state.side consistent
        (not_retrying state offered.2.2.2.2)) balanced
  | authorizationLoggingOut =>
      exact loop_sent_balances env sent phase draws _ (closing_consistent env state.side true state.closing consistent rfl)
        balanced
  | authorizationClosing =>
      exact loop_sent_balances env sent phase draws _
        (closing_consistent env state.side state.loggingOut true consistent (Bool.or_true state.loggingOut)) balanced
  | authorizationClosed => exact absurd rfl goesOn
  | authorizationFailed code message =>
      exact undesked_balances sent phase state _ (log_out_undesked env draws state code message) balanced
  | allowedUpdateTypesChanged types => exact balanced
  | authorizationDateChanged date => exact balanced
  | tdQueryAnswered query error =>
      have unhandled := balanced.others query offered.2.2
      have atHand := (unhandled_balanced sent [] phase query state.desk unhandled).2 balanced
      have taken : Balanced sent [query] phase { state.desk with tdQueries := state.tdQueries.erase query } :=
        { atHand with others := fun other member => balanced.others other (List.mem_of_mem_erase member) }
      cases error with
      | none => exact answer_balanced sent [] phase query _ _ taken (fun poll => absurd (.inl poll) unhandled)
      | some status => exact answer_balanced sent [] phase query _ _ taken (fun poll => absurd (.inl poll) unhandled)
  | addUpdate updateType json timeout webhookQueueId =>
      exact add_update_balances env sent phase draws state updateType json timeout webhookQueueId balanced
  | longPollTimeout => exact long_poll_wakeup_balances env sent [] phase draws true state balanced
  | certificateCopied copied => exact on_webhook_certificate_copied_balances env sent [] phase draws copied _ balanced
  | certificateUnlinked status =>
      obtain ⟨busy, _⟩ := called_back_of_unlink env state.side consistent status offered.2
      exact on_webhook_closed_balances env sent [] phase draws status _ balanced busy
  | webhookVerified token cachedIpAddress =>
      exact webhook_verified_balanced sent [] phase token cachedIpAddress state balanced
  | webhookClosed token status =>
      obtain ⟨busy, _⟩ := called_back_of_actor env state.side consistent token offered.2
      exact webhook_closed_balances env sent [] phase draws status _ balanced busy
  | webhookHungUp token =>
      obtain ⟨busy, _⟩ := called_back_of_actor env state.side consistent token offered.2
      exact webhook_closed_balances env sent [] phase draws "Unknown" _ balanced busy
  | directoryRemoved =>
      exact undesked_balances sent phase { state with directoryRemoval := false } _
        (finish_closing_undesked env draws _) balanced
  | timeoutExpired => exact balanced

theorem step_settled (event : Event) (settled : Settled env sent state) (offered : enabled state event) :
    Meets (fun _ => True) (Settled env (sent + sentQueries [(event, draws)])) (step env draws state event) := by
  obtain ⟨consistent, phase, notDraining, balanced⟩ := settled
  suffices balances : ∃ phase, phase ≠ .draining ∧
      Balances (sent + sentQueries [(event, draws)]) [] phase (step env draws state event) by
    obtain ⟨phase, notDraining, balances⟩ := balances
    apply meets_weaken _ _ _ _ _
      (meets_and _ _ _ _ (step_keeps_consistent env draws state event consistent offered) balances)
    rintro after ⟨kept, balanced⟩
    exact ⟨kept, phase, notDraining, balanced⟩
  cases sends : sentQuery (event, draws) with
  | some query =>
      cases event with
      | send query => exact ⟨phase, notDraining, send_balances env sent phase draws state query consistent balanced⟩
      | _ => cases sends
  | none =>
      have silent : sentQueries [(event, draws)] = 0 := by
        simp only [sentQueries, List.filterMap_cons, sends, List.filterMap_nil, Multiset.coe_nil]
      rw [silent, add_zero]
      by_cases closes : event = .authorizationClosed
      · subst closes
        have running : phase = .running := by
          have online := balanced.client
          rw [show state.desk.tdClient = true from offered.2.1] at online
          exact of_decide_eq_true online.symm
        subst running
        exact ⟨.ended, by decide, on_closed_balances env sent draws state balanced⟩
      · exact ⟨phase, notDraining, step_balances env sent phase draws state event consistent offered balanced closes sends⟩

end Step

theorem empty_balanced (tdClient : Bool) (phase : Phase) (client : tdClient = decide (phase = .running)) :
    Balanced 0 [] phase ⟨tdClient, [], none, none, none, "", [], []⟩ where
  account := rfl
  exclusive parked := absurd rfl parked
  polls _ found := by cases found
  sets _ found := by cases found
  activeSets _ found := by cases found
  others _ member := by cases member
  answers _ member := by cases member
  client := client
  ended _ := ⟨rfl, rfl⟩

theorem start_settled (state : State Queue) (started : (client env).start state) : Settled env 0 state := by
  refine ⟨start_consistent env state started, ?_⟩
  obtain ⟨draws, tqueue, webhookDb, running | failed⟩ := started
  · rw [running]
    exact ⟨.running, by decide, empty_balanced true .running rfl⟩
  · have kept := meets_returns _ _ _ state (finish_closing_undesked env draws _) failed
    rw [kept]
    exact ⟨.ended, by decide, empty_balanced false .ended rfl⟩

theorem reach_settled (meets : Transition.Condition (State Queue) (Event × Draws))
    (recorded : Transition.Recorded (State Queue) (Event × Draws))
    (reached : Transition.Reach (client env).recording (fun recorded event => meets recorded.state event) recorded) :
    Settled env (sentQueries recorded.events) recorded.state := by
  apply Transition.reach_meets _ _ (fun _ => True)
    (fun recorded : Transition.Recorded _ _ => Settled env (sentQueries recorded.events) recorded.state) _ _ recorded reached
  · rintro ⟨state, events⟩ ⟨started, rfl⟩
    exact start_settled env state started
  · rintro ⟨state, events⟩ ⟨event, draws⟩ settled offered _
    apply meets_bind _ _ _ _ _ (step_settled env _ draws state event settled offered)
    intro after kept
    change Settled env (sentQueries (events ++ [(event, draws)])) after
    rw [sentQueries, List.filterMap_append, ← Multiset.coe_add]
    exact kept

-- What do_get_updates relies on: the events from the head of a queue can be read, and
-- so can those of a queue that does not exist.
def HeadReadable : Prop :=
  ∀ queue unixTime limit, (env.tqueue.get queue ((env.tqueue.getHead queue).getD 0) true unixTime limit).isSome = true

section WakeUp

variable (draws : Draws) (query : Query)

def AnsweredNow (state : State Queue) (after : State Queue) : Prop :=
  after.longPollQuery = none ∧ ∃ updates, after.answers = state.answers ++ [(query, .updates updates)]

theorem report_bot_updates_status_passes (allFetched : Bool) (state : State Queue) (online : state.tdClient = true) :
    Passes (fun after => after.desk = state.desk) (reportBotUpdatesStatus draws allFetched state) := by
  unfold reportBotUpdatesStatus
  dsimp only
  split
  · apply meets_bind _ (fun sent => sent.desk = state.desk)
    · unfold sendRequest
      split
      · exact rfl
      · apply meets_require _ _ _ _ _ (fun offline => offline online)
        intro _
        exact rfl
    · intro sent same
      exact same
  · exact rfl

theorem answer_get_updates_passes (offset limit : Int) (before : Queue) (totalSize : Nat) (updates : List TQueueEvent)
    (state : State Queue) (covered : updates.length ≤ totalSize) (online : state.tdClient = true)
    (unset : state.longPollQuery = none) :
    Passes (AnsweredNow query state) (answerGetUpdates draws offset limit 0 query before totalSize updates state) := by
  apply meets_require _ _ _ _ _ (fun uncovered => uncovered covered)
  intro _
  rw [if_neg (fun waits => waits.1 rfl)]
  apply meets_bind _ _ _ _ _ (report_bot_updates_status_passes draws _ state online)
  intro reported same
  refine ⟨(congrArg Desk.longPoll same).trans unset, jsonUpdates updates, ?_⟩
  change reported.desk.answers ++ _ = _
  rw [same]
  rfl

theorem fetch_updates_passes (readable : HeadReadable env) (offset : Int) (limit : Nat) (unixTime : Int) (queue : Queue) :
    Passes (fun fetched => fetched.2.1.length ≤ fetched.1) (fetchUpdates env offset limit unixTime queue) := by
  unfold fetchUpdates
  split
  · rename_i fetched got
    exact (env.tqueue.getEvents _ _ _ _ _ _ _ _ got).2.1
  · split
    · rename_i fetched got
      exact (env.tqueue.getEvents _ _ _ _ _ _ _ _ got).2.1
    · rename_i missing
      have found := readable queue unixTime limit
      rw [missing] at found
      cases found

theorem do_get_updates_passes (readable : HeadReadable env) (offset limit : Int) (state : State Queue)
    (online : state.tdClient = true) (unset : state.longPollQuery = none) :
    Passes (AnsweredNow query state) (doGetUpdates env draws offset limit 0 query state) := by
  unfold doGetUpdates
  extract_lets cleared first
  have same : cleared.desk = state.desk := by
    unfold cleared
    split <;> rfl
  have stillOnline : cleared.tdClient = true := (congrArg Desk.tdClient same).trans online
  have stillUnset : cleared.longPollQuery = none := (congrArg Desk.longPoll same).trans unset
  have answers : cleared.answers = state.answers := congrArg Desk.answers same
  suffices passes : Passes (AnsweredNow query cleared) (if first ≤ 0 then _ else _) by
    apply meets_weaken _ _ _ _ _ passes
    rintro after ⟨empty, updates, added⟩
    exact ⟨empty, updates, answers ▸ added⟩
  by_cases missing : first ≤ 0
  · rw [if_pos missing]
    exact answer_get_updates_passes draws query first limit _ 0 [] cleared (Nat.le_refl 0) stillOnline stillUnset
  · rw [if_neg missing]
    apply meets_bind _ _ _ _ _ (fetch_updates_passes env readable _ _ _ _)
    rintro ⟨totalSize, updates, after⟩ covered
    exact answer_get_updates_passes draws query first limit _ totalSize updates { cleared with tqueue := after } covered
      stillOnline stillUnset

end WakeUp

def polls (queries : Multiset Query) : Multiset Query := queries.filter (fun query => query.method = "getupdates")

structure PollsSettled (sent : Multiset Query) (state : State Queue) : Prop where
  exclusive : state.longPollQuery ≠ none →
    state.webhookUrl = "" ∧ state.webhookSetQuery = none ∧ state.activeWebhookSetQuery = none
  accounted : polls (state.answers.map Prod.fst) + state.longPollQuery.toList + polls state.cmdQueue = polls sent
  answers : ∀ entry ∈ state.answers, entry.1.method = "getupdates" → GetUpdatesAnswer entry.2
  woken : ∀ draws query, state.longPollQuery = some query → ∃ after,
    step env draws state .longPollTimeout = .ok after ∧ AnsweredNow query state after
  closed : state.tdClient = false → state.longPollQuery = none ∧ state.cmdQueue = []

theorem polls_accounted (sent : Multiset Query) (phase : Phase) (desk : Desk) (balanced : Balanced sent [] phase desk) :
    polls desk.answered + desk.longPoll.toList + polls desk.cmdQueue = polls sent := by
  have account := congrArg polls balanced.account
  have handled (queries : Multiset Query) : polls (queries.filter Handled) = polls queries := by
    rw [polls, polls, Multiset.filter_filter]
    apply Multiset.filter_congr
    intro query _
    exact ⟨fun both => both.1, fun poll => ⟨poll, .inl poll⟩⟩
  have parked : polls (desk.longPoll.toList : Multiset Query) = desk.longPoll.toList := by
    apply Multiset.filter_eq_self.2
    intro query member
    exact balanced.polls query (Option.mem_toList.1 member)
  have noSet (waiting : Option Query) (webhook : ∀ query, waiting = some query → IsWebhookQuery query) :
      polls (waiting.toList : Multiset Query) = 0 := by
    apply Multiset.filter_eq_nil.2
    intro query member
    exact not_poll_of_webhook query (webhook query (Option.mem_toList.1 member))
  rw [handled, handled] at account
  have parts : polls (desk.total []) = polls desk.answered + (polls desk.cmdQueue +
      (polls (desk.longPoll.toList : Multiset Query) + (polls (desk.setQuery.toList : Multiset Query) +
        polls (desk.active.toList : Multiset Query)))) := by
    simp only [polls, Desk.total, Desk.held, Multiset.filter_add, Multiset.coe_nil, add_zero]
  rw [parts, parked, noSet desk.setQuery balanced.sets, noSet desk.active balanced.activeSets] at account
  rw [← account]
  abel

end Exclusion

def waitingServer : Environment ListQueue := { plainServer with
  library := { plainLibrary with toInt32 := fun text => if text = "30" then 30 else 0 } }

def waitingQuery (id : Nat) : Query where
  id := id
  method := "getupdates"
  args := [("timeout", "30")]

end TelegramBotApi.Client
