import TelegramBotApi.GetUpdatesDelivery

set_option autoImplicit false

namespace TelegramBotApi.Client

open Checked

section Lossless

variable {Queue : Type} (env : Environment Queue)

theorem on_cmd_since (draws : Draws) (base : Poll Queue) (baseInv : CursorLog.Inv TQueueEvent.id (base.log env))
    (query : Query) (state : State Queue) (since : Since env base draws.unixTime state.poll)
    (permitted : Permitted env base query) :
    Meets Tolerated (fun after => Since env base draws.unixTime after.poll) (onCmd env draws state query) := by
  obtain ⟨stays, noWebhook, entitled⟩ := permitted
  unfold onCmd
  extract_lets online
  by_cases close : online = true ∧ query.method = "close"
  · rw [if_pos close]
    exact meets_since env base _ state _ (process_close_unpolled env draws query state) since
  · rw [if_neg close, if_neg (fun logout => stays logout.2)]
    split
    · exact meets_since env base _ state _ (fail_query_closing_unpolled draws query state) since
    · apply meets_require Tolerated _ _ _ _ (fun _ => by decide)
      intro _
      unfold processQuery
      by_cases updates : query.method = "getupdates"
      · rw [if_pos updates]
        exact process_get_updates_since env draws base baseInv query state since (entitled updates)
      · rw [if_neg updates, if_neg (show ¬ (query.method = "setwebhook" ∨ query.method = "deletewebhook") from noWebhook)]
        exact since

theorem loop_since (draws : Draws) (base : Poll Queue) (baseInv : CursorLog.Inv TQueueEvent.id (base.log env))
    (state : State Queue) (since : Since env base draws.unixTime state.poll)
    (permitted : ∀ query ∈ state.cmdQueue, Permitted env base query) :
    Meets Tolerated (fun after => Since env base draws.unixTime after.poll) (loop env draws state) := by
  unfold loop
  split
  · refine meets_foldlM Tolerated (fun state : State Queue => Since env base draws.unixTime state.poll) _ _ _ ?_ ?_
    · exact since_same env base state.poll _ _ since rfl rfl rfl rfl rfl (fun _ => id) rfl (fun query member => by cases member)
    · intro state query member held
      exact on_cmd_since env draws base baseInv query state held (permitted query member)
  · exact since

-- The events of a run without a webhook in which every offset is allowed; every
-- event of the queue fits into an answer.
def PollsWith (permitted : Poll Queue → Query → Prop) (state : State Queue) (event : Event × Draws) : Prop :=
  (∀ stored ∈ env.tqueue.kept state.tqueue, Fits stored) ∧
  match event.1 with
  | .send query => permitted state.poll query
  | .addUpdate updateType json _ _ => (updateText updateType json).utf8ByteSize ≤ 2 ^ 19
  | _ => True

def Polls : Transition.Condition (State Queue) (Event × Draws) := PollsWith env (Permitted env)

theorem send_since (draws : Draws) (query : Query) (state : State Queue) (sound : PollSound env state.poll)
    (fits : ∀ stored ∈ env.tqueue.kept state.tqueue, Fits stored) (permitted : Permitted env state.poll query) :
    Meets Tolerated (fun after => Since env state.poll draws.unixTime after.poll) (send env draws query state) := by
  have all : ∀ waiting ∈ state.cmdQueue ++ [query], Permitted env state.poll waiting := by
    intro waiting member
    rcases List.mem_append.1 member with old | new
    · exact sound.queued waiting old
    · rw [List.mem_singleton.1 new]
      exact permitted
  apply loop_since env draws state.poll sound.inv _ _ all
  exact since_same env state.poll state.poll _ _ (since_refl env state.poll _ sound fits) rfl rfl rfl rfl rfl
    (fun _ => id) rfl all

theorem push_since (unixTime : Int) (poll : Poll Queue) (since : Since env poll unixTime poll) (data : String)
    (expiresAt extra : Int) (id : EventId) (tqueue : Queue) (small : data.utf8ByteSize ≤ 2 ^ 19)
    (pushed : env.tqueue.push poll.tqueue data expiresAt extra = some (id, tqueue)) :
    Since env poll unixTime { poll with tqueue := tqueue } := by
  obtain ⟨fresh, tail, kept⟩ := env.tqueue.pushed _ _ _ _ _ _ pushed
  have log : Poll.log env { poll with tqueue := tqueue } = (poll.log env).append TQueueEvent.id ⟨id, data, expiresAt, extra⟩ := by
    simp only [Poll.log, CursorLog.Log.append, kept, tail]
  have later : Later env poll { poll with tqueue := tqueue } := by
    refine ⟨?_, ?_, Set.Subset.refl _⟩
    · intro event member
      rw [kept] at member
      rcases List.mem_append.1 member with old | new
      · exact .inl old
      · rw [List.mem_singleton.1 new]
        exact .inr fresh
    · rw [tail]
      exact fresh.trans (Nat.le_succ id)
  refine ⟨⟨?_, ?_, since.answered, since.keepsQueue, ?_⟩, ?_, ?_, Set.Subset.refl _⟩
  · rw [log]
    exact CursorLog.append_inv TQueueEvent.id (poll.log env) _ since.inv fresh
  · intro query waiting
    obtain ⟨aims, positive⟩ := since.parked query waiting
    exact ⟨aims_later env poll _ later query _ aims, positive⟩
  · intro query member
    exact permitted_later env poll _ later query (since.queued query member)
  · intro event member
    rw [kept] at member
    rcases List.mem_append.1 member with old | new
    · exact since.fits event old
    · rw [List.mem_singleton.1 new]
      exact small
  · intro event member gone
    rw [kept] at gone
    exact absurd (List.mem_append_left _ member) gone

theorem parked_acknowledged (poll : Poll Queue) (sound : PollSound env poll) (query : Query)
    (waiting : poll.longPollQuery = some query) (asked : 0 < getUpdatesOffset env query) :
    Acknowledged env poll (getUpdatesOffset env query) :=
  acknowledged_of_aims env poll query _ (sound.parked query waiting).1 asked

theorem add_update_since (draws : Draws) (updateType : UpdateType) (json : String) (timeout webhookQueueId : Int)
    (state : State Queue) (sound : PollSound env state.poll) (fits : ∀ stored ∈ env.tqueue.kept state.tqueue, Fits stored)
    (small : (updateText updateType json).utf8ByteSize ≤ 2 ^ 19) :
    Meets Tolerated (fun after => Since env state.poll draws.unixTime after.poll)
      (addUpdate env draws updateType json timeout webhookQueueId state) := by
  have since := since_refl env state.poll draws.unixTime sound fits
  unfold addUpdate
  split
  · exact since
  · split
    · exact since
    · rename_i id tqueue pushed
      have after := push_since env draws.unixTime state.poll since _ _ _ id tqueue small pushed
      dsimp only
      split
      · apply long_poll_wakeup_since env draws false state.poll sound.inv { state with tqueue := tqueue } after
        intro query waiting asked
        exact parked_acknowledged env state.poll sound query waiting asked
      · exact after

theorem fail_set_query_unpolled (draws : Draws) (state : State Queue) : Unpolled state (failSetQuery draws state) := by
  unfold failSetQuery
  split
  · exact rfl
  · exact fail_member_meets draws _ _ state _ rfl (fun _ _ => answer_poll _ _ _ rfl)

theorem fail_active_set_query_unpolled (draws : Draws) (state : State Queue) :
    Unpolled state (failActiveSetQuery draws state) := by
  unfold failActiveSetQuery
  split
  · exact rfl
  · exact fail_member_meets draws _ _ state _ rfl (fun _ _ => answer_poll _ _ _ rfl)

theorem finish_closing_unpolled (draws : Draws) (state : State Queue) (keepsQueue : state.clearTqueue = false) :
    Unpolled state (finishClosing env draws state) := by
  unfold finishClosing clearLoggedOut
  rw [keepsQueue, Bool.false_and, if_neg Bool.false_ne_true]
  exact stop_or_wait_poll draws state

theorem on_closed_since (draws : Draws) (state : State Queue) (sound : PollSound env state.poll)
    (fits : ∀ stored ∈ env.tqueue.kept state.tqueue, Fits stored) :
    Meets Tolerated (fun after => Since env state.poll draws.unixTime after.poll) (onClosed env draws state) := by
  apply meets_require Tolerated _ _ _ _ (fun _ => by decide)
  intro _
  apply meets_require Tolerated _ _ _ _ (fun _ => by decide)
  intro _
  apply meets_bind Tolerated _ _ _ _ (fail_set_query_unpolled draws _)
  intro unset unsetPoll
  apply meets_bind Tolerated _ _ _ _ (fail_active_set_query_unpolled draws unset)
  intro failed failedPoll
  extract_lets reset
  have resetPoll : reset.poll = state.poll := by
    have same : reset.poll = failed.poll := by
      unfold reset
      split <;> rfl
    exact (same.trans failedPoll).trans unsetPoll
  have since : Since env state.poll draws.unixTime reset.poll := by
    rw [resetPoll]
    exact since_refl env state.poll draws.unixTime sound fits
  have wake : Meets Tolerated (fun after => Since env state.poll draws.unixTime after.poll) (wakeLongPoll env draws reset) := by
    unfold wakeLongPoll
    split
    · apply meets_bind Tolerated _ _ _ _ (long_poll_wakeup_since env draws true state.poll sound.inv reset since (by
        intro query waiting asked
        apply parked_acknowledged env state.poll sound query _ asked
        rw [← resetPoll]
        exact waiting))
      intro woken held
      apply meets_require Tolerated _ _ _ _ (fun _ => by decide)
      intro _
      exact held
    · exact since
  apply meets_bind Tolerated _ _ _ _ wake
  intro woken held
  apply meets_bind Tolerated (fun drained : State Queue => Since env state.poll draws.unixTime drained.poll)
  · refine meets_foldlM Tolerated (fun state' : State Queue => Since env state.poll draws.unixTime state'.poll) _ _ _ ?_ ?_
    · exact since_same env state.poll woken.poll _ _ held rfl rfl rfl rfl rfl (fun _ => id) rfl
        (fun query member => by cases member)
    · intro after query _ held
      exact meets_since env state.poll _ after _ (fail_query_closing_unpolled draws query after) held
  · intro drained held
    split
    · exact held
    · exact meets_since env state.poll _ drained _ (finish_closing_unpolled env draws drained held.keepsQueue) held

structure Quiet (side : Side) : Prop where
  url : side.url = ""
  active : side.active = none
  copies : side.copies = 0

structure Polling (state : State Queue) : Prop where
  consistent : Consistent env state.side
  quiet : Quiet state.side
  sound : PollSound env state.poll

theorem quiet_silent (side : Side) (consistent : Consistent env side) (quiet : Quiet side) :
    side.actors = [] ∧ side.unlinks = [] := by
  have callbacks := consistent.callbacks
  rw [if_pos quiet.url] at callbacks
  exact ⟨List.length_eq_zero_iff.1 (by omega), List.length_eq_zero_iff.1 (by omega)⟩

theorem step_since (draws : Draws) (state : State Queue) (event : Event) (polling : Polling env state)
    (offered : enabled state event) (polls : Polls env state (event, draws)) :
    Meets Tolerated (fun after => Since env state.poll draws.unixTime after.poll) (step env draws state event) := by
  obtain ⟨consistent, quiet, sound⟩ := polling
  obtain ⟨noActor, noUnlink⟩ := quiet_silent env state.side consistent quiet
  have fits := polls.1
  have since := since_refl env state.poll draws.unixTime sound fits
  have noActorOf (token : Nat) (member : token ∈ state.webhookActors) : False := by
    rw [show state.webhookActors = [] from noActor] at member
    cases member
  cases event with
  | send query => exact send_since env draws query state sound fits polls.2
  | close => exact meets_since env state.poll _ state _ (close_unpolled draws state) since
  | authorizationReady => exact loop_since env draws state.poll sound.inv _ since sound.queued
  | authorizationLoggingOut => exact loop_since env draws state.poll sound.inv _ since sound.queued
  | authorizationClosing => exact loop_since env draws state.poll sound.inv _ since sound.queued
  | authorizationClosed => exact on_closed_since env draws state sound fits
  | authorizationFailed code message =>
      exact meets_since env state.poll _ state _ (log_out_unpolled env draws code message state) since
  | allowedUpdateTypesChanged types => exact since
  | authorizationDateChanged date => exact since
  | tdQueryAnswered query error =>
      cases error with
      | none => exact meets_since env state.poll _ state (.ok _) (answer_poll query _ _ rfl) since
      | some status => exact meets_since env state.poll _ state (.ok _) (answer_poll query _ _ rfl) since
  | addUpdate updateType json timeout webhookQueueId =>
      exact add_update_since env draws updateType json timeout webhookQueueId state sound fits polls.2
  | longPollTimeout =>
      apply long_poll_wakeup_since env draws true state.poll sound.inv state since
      intro query waiting asked
      exact parked_acknowledged env state.poll sound query waiting asked
  | certificateCopied copied =>
      have copying : 0 < state.side.copies := offered.2
      rw [quiet.copies] at copying
      cases copying
  | certificateUnlinked status =>
      have member : status ∈ state.side.unlinks := offered.2
      rw [noUnlink] at member
      cases member
  | webhookVerified token cachedIpAddress => exact (noActorOf token offered.2).elim
  | webhookClosed token status => exact (noActorOf token offered.2).elim
  | webhookHungUp token => exact (noActorOf token offered.2).elim
  | directoryRemoved =>
      exact meets_since env state.poll _ { state with directoryRemoval := false } _
        (finish_closing_unpolled env draws _ sound.keepsQueue) since
  | timeoutExpired => exact since

theorem loop_quiet (draws : Draws) (state : State Queue) (consistent : Consistent env state.side) (quiet : Quiet state.side)
    (noWebhook : ∀ query ∈ state.cmdQueue, ¬ IsWebhookQuery query) :
    Meets Tolerated (fun after => Quiet after.side) (loop env draws state) := by
  unfold loop
  split
  · apply meets_weaken Tolerated (fun after : State Queue => Consistent env after.side ∧ Quiet after.side) _ _
      (fun _ => And.right)
    refine meets_foldlM Tolerated (fun after : State Queue => Consistent env after.side ∧ Quiet after.side) _ _ _
      ⟨consistent, quiet⟩ ?_
    intro state query member held
    apply meets_weaken Tolerated _ _ _ _ (on_cmd_meets env draws query state held.1)
    intro after outcome
    have same : after.side = state.side :=
      congrArg Frame.toSide (outcome.1 (fun webhook => noWebhook query member webhook.1))
    rw [same]
    exact held
  · exact quiet

theorem meets_quiet (state : State Queue) (computation : Except Check (State Queue)) (keeps : Keeps state computation)
    (quiet : Quiet state.side) : Meets Tolerated (fun after => Quiet after.side) computation := by
  apply meets_weaken Tolerated _ _ _ _ (keeps_side state _ keeps)
  intro after same
  rw [same]
  exact quiet

theorem step_quiet (draws : Draws) (state : State Queue) (event : Event) (polling : Polling env state)
    (offered : enabled state event) (polls : Polls env state (event, draws)) :
    Meets Tolerated (fun after => Quiet after.side) (step env draws state event) := by
  obtain ⟨consistent, quiet, sound⟩ := polling
  obtain ⟨noActor, noUnlink⟩ := quiet_silent env state.side consistent quiet
  have noWebhook : ∀ query ∈ state.cmdQueue, ¬ IsWebhookQuery query := fun query member => (sound.queued query member).2.1
  have noActorOf (token : Nat) (member : token ∈ state.webhookActors) : False := by
    rw [show state.webhookActors = [] from noActor] at member
    cases member
  cases event with
  | send query =>
      refine loop_quiet env draws { state with cmdQueue := state.cmdQueue ++ [query] } consistent quiet ?_
      intro waiting member
      rcases List.mem_append.1 member with old | new
      · exact noWebhook waiting old
      · rw [List.mem_singleton.1 new]
        exact polls.2.2.1
  | close => exact meets_quiet state _ (close_keeps draws state) quiet
  | authorizationReady =>
      have kept := ready_consistent env state.side consistent (not_retrying state offered.2.2.2.2)
      exact loop_quiet env draws { state with wasAuthorized := true } kept ⟨quiet.url, quiet.active, quiet.copies⟩ noWebhook
  | authorizationLoggingOut =>
      exact loop_quiet env draws { state with loggingOut := true }
        (closing_consistent env state.side true state.closing consistent rfl) ⟨quiet.url, quiet.active, quiet.copies⟩ noWebhook
  | authorizationClosing =>
      exact loop_quiet env draws { state with closing := true }
        (closing_consistent env state.side state.loggingOut true consistent (Bool.or_true state.loggingOut))
        ⟨quiet.url, quiet.active, quiet.copies⟩ noWebhook
  | authorizationClosed =>
      apply meets_weaken Tolerated _ _ _ _ (on_closed_meets env draws state consistent offered.2.2)
      rintro after ⟨_, webhookDb, removal, _, same⟩
      rw [same]
      exact ⟨quiet.url, rfl, quiet.copies⟩
  | authorizationFailed code message =>
      obtain ⟨invalid, time, _, keeps⟩ := log_out_keeps env draws code message state
      exact meets_quiet _ _ keeps ⟨quiet.url, quiet.active, quiet.copies⟩
  | allowedUpdateTypesChanged types => exact quiet
  | authorizationDateChanged date => exact quiet
  | tdQueryAnswered query error =>
      cases error with
      | none => exact quiet
      | some status => exact quiet
  | addUpdate updateType json timeout webhookQueueId =>
      exact meets_quiet state _ (add_update_keeps env draws updateType json timeout webhookQueueId state) quiet
  | longPollTimeout => exact meets_quiet state _ (long_poll_wakeup_keeps env draws true state) quiet
  | certificateCopied copied =>
      have copying : 0 < state.side.copies := offered.2
      rw [quiet.copies] at copying
      cases copying
  | certificateUnlinked status =>
      have member : status ∈ state.side.unlinks := offered.2
      rw [noUnlink] at member
      cases member
  | webhookVerified token cachedIpAddress => exact (noActorOf token offered.2).elim
  | webhookClosed token status => exact (noActorOf token offered.2).elim
  | webhookHungUp token => exact (noActorOf token offered.2).elim
  | directoryRemoved =>
      apply meets_quiet { state with directoryRemoval := false } _ (finish_closing_keeps env draws _ ?_)
      · exact ⟨quiet.url, quiet.active, quiet.copies⟩
      · exact (consistent.offline (consistent.removal offered.2)).1
  | timeoutExpired => exact quiet

theorem start_polling (state : State Queue) (started : (client env).start state) : Polling env state := by
  have consistent := start_consistent env state started
  have fresh (tqueue : Queue) : PollSound env ⟨tqueue, none, 0, 0, false, [], [], []⟩ :=
    ⟨⟨env.tqueue.increasing tqueue, env.tqueue.belowTail tqueue, fun event delivered => (by cases delivered.choose_spec.1),
      fun event _ last delivered => (by cases delivered.choose_spec.1)⟩, fun query found => (by cases found),
      fun success member => (by cases member), rfl, fun query member => (by cases member)⟩
  obtain ⟨draws, tqueue, webhookDb, running | failed⟩ := started
  · refine ⟨consistent, ?_, ?_⟩
    · rw [running]
      exact ⟨rfl, rfl, rfl⟩
    · rw [running]
      exact fresh tqueue
  · refine ⟨consistent, ?_, ?_⟩
    · have kept := meets_returns Tolerated _ _ state (keeps_side _ _ (finish_closing_keeps env draws _ rfl)) failed
      rw [kept]
      exact ⟨rfl, rfl, rfl⟩
    · have kept := meets_returns Tolerated _ _ state (finish_closing_unpolled env draws _ rfl) failed
      rw [kept]
      exact fresh tqueue

theorem polls_copied_while_connected (state : State Queue) (event : Event × Draws) (polling : Polling env state)
    (offered : enabled state event.1) : CopiedWhileConnected state event := by
  intro copied same
  rw [same] at offered
  have copying : 0 < state.side.copies := offered.2
  rw [polling.quiet.copies] at copying
  cases copying

theorem step_polls (state : State Queue) (event : Event × Draws) (polling : Polling env state)
    (offered : (client env).enabled state event) (polls : Polls env state event) :
    Meets Tolerated (fun after => Polling env after ∧ Since env state.poll event.2.unixTime after.poll)
      ((client env).step state event) := by
  have consistent := step_consistent env event.2 state event.1 polling.consistent offered
    (polls_copied_while_connected env state event polling offered)
  have quiet := step_quiet env event.2 state event.1 polling offered polls
  have since := step_since env event.2 state event.1 polling offered polls
  apply meets_weaken Tolerated _ _ _ _ (meets_and Tolerated _ _ _ (meets_and Tolerated _ _ _ consistent quiet) since)
  rintro after ⟨⟨afterConsistent, afterQuiet⟩, afterSince⟩
  exact ⟨⟨afterConsistent, afterQuiet, afterSince.toPollSound⟩, afterSince⟩

theorem reach_polling (state : State Queue) (reached : Transition.Reach (client env) (Polls env) state) :
    Polling env state := by
  apply Transition.reach_meets (client env) (Polls env) Tolerated (Polling env) (start_polling env) _ state reached
  intro before event held offered polls
  exact meets_weaken Tolerated _ _ _ (fun _ => And.left) (step_polls env before event held offered polls)

structure Lossless (rightly : Served Queue → Prop) (before : State Queue) (event : Event × Draws) (after : State Queue) :
    Prop where
  removed : ∀ stored ∈ env.tqueue.kept before.tqueue, stored ∉ env.tqueue.kept after.tqueue →
    Delivered before stored ∨ stored.expiresAt < event.2.unixTime
  answered : ∀ query updates, (query, .updates updates) ∈ after.answers →
    ∃ served ∈ after.served, served.query = query ∧ served.updates = updates ∧ rightly served
  increasing : ∀ query updates, (query, .updates updates) ∈ after.answers →
    (updates.map TQueueEvent.id).Pairwise (· < ·)

theorem from_offset_increasing (offset : Int) (served : Served Queue) (fromOffset : FromOffset env offset served) :
    (served.updates.map TQueueEvent.id).Pairwise (· < ·) :=
  (env.tqueue.increasing served.after).sublist ((fromOffset.1.sublist.trans List.filter_sublist).map _)

theorem get_updates_loses_nothing (before after : State Queue) (event : Event × Draws)
    (taken : Transition.StepOf (client env) (Polls env) before event after) :
    Lossless env (RightlyServed env) before event after := by
  obtain ⟨reached, offered, polls, done⟩ := taken
  have polling := reach_polling env before reached
  obtain ⟨_, since⟩ := meets_returns Tolerated _ _ after (step_polls env before event polling offered polls) done
  have answered (query : Query) (updates : List TQueueEvent) (member : (query, .updates updates) ∈ after.answers) :
      ∃ served ∈ after.served, served.query = query ∧ served.updates = updates ∧ RightlyServed env served :=
    since.answered (query, updates) ((mem_successes query updates after).2 member)
  refine ⟨?_, answered, ?_⟩
  · intro stored member gone
    rcases since.removed stored member gone with delivered | expired
    · exact .inl ((mem_delivered env before stored).1 delivered)
    · exact .inr expired
  · intro query updates member
    obtain ⟨served, _, _, same, rightly⟩ := answered query updates member
    rw [← same]
    rcases rightly with asked | ⟨_, first⟩
    · exact from_offset_increasing env _ served asked
    · exact from_offset_increasing env _ served first

end Lossless

section Forgetting

def PermittedAnyway {Queue : Type} (env : Environment Queue) (poll : Poll Queue) (query : Query) : Prop :=
  query.method ≠ "logout" ∧ ¬ IsWebhookQuery query ∧
    (query.method = "getupdates" → getUpdatesOffset env query = 0 ∨ Acknowledged env poll (getUpdatesOffset env query))

def pollLibrary : Library := { plainLibrary with
  toInt32 := fun text => if text = "-1" then -1 else if text = "1" then 1 else if text = "2" then 2 else 0 }

def pollServer : Environment ListQueue where
  tqueue := listTQueue
  library := pollLibrary

-- A queue that does not accept the offset 2.
def pickyTQueue : TQueue ListQueue := { listTQueue with
  get := fun queue offset forgetPrevious now limit =>
    if offset = 2 then none else listTQueue.get queue offset forgetPrevious now limit
  getKept := by
    intro queue offset forgetPrevious now limit size events after got
    by_cases rejected : offset = 2
    · rw [if_pos rejected] at got
      cases got
    · rw [if_neg rejected] at got
      exact listTQueue.getKept _ _ _ _ _ _ _ _ got
  getEvents := by
    intro queue offset forgetPrevious now limit size events after got
    by_cases rejected : offset = 2
    · rw [if_pos rejected] at got
      cases got
    · rw [if_neg rejected] at got
      exact listTQueue.getEvents _ _ _ _ _ _ _ _ got }

def pickyServer : Environment ListQueue where
  tqueue := pickyTQueue
  library := pollLibrary

def threeUpdates : ListQueue := (((ListQueue.empty 1).append "a" 100 0).append "b" 100 0).append "c" 100 0

def updatesQuery (id : Nat) (offset limit : String) : Query where
  id := id
  method := "getupdates"
  args := [("offset", offset), ("limit", limit)]

def getUpdates (id : Nat) (offset limit : String) : Event × Draws := (.send (updatesQuery id offset limit), {})

def polledServer (picky : Bool) : Environment ListQueue := if picky then pickyServer else pollServer

def freshClient : State ListQueue := startUp {} threeUpdates none

def polledClient (picky : Bool) (events : List (Event × Draws)) : State ListQueue :=
  runEvents (polledServer picky) freshClient ((.authorizationReady, {}) :: getUpdates 1 "0" "1" :: events)

theorem polled_client_reached (picky : Bool) (permitted : Poll ListQueue → Query → Prop)
    (allowed : ∀ poll query, query.method = "getupdates" → getUpdatesOffset (polledServer picky) query = 0 →
      permitted poll query) :
    Transition.Reach (client (polledServer picky)) (PollsWith (polledServer picky) permitted) (polledClient picky []) := by
  have started : (client (polledServer picky)).start freshClient := ⟨{}, threeUpdates, none, .inl rfl⟩
  apply Transition.reach_follows _ _ [(.authorizationReady, {}), getUpdates 1 "0" "1"] freshClient _ (.start _ started)
  cases picky with
  | true =>
      exact ⟨⟨rfl, rfl, rfl, rfl, Int.le_refl 0⟩, ⟨by decide, trivial⟩, _, rfl, ⟨rfl, trivial⟩,
        ⟨by decide, allowed _ _ rfl rfl⟩, _, rfl, rfl⟩
  | false =>
      exact ⟨⟨rfl, rfl, rfl, rfl, Int.le_refl 0⟩, ⟨by decide, trivial⟩, _, rfl, ⟨rfl, trivial⟩,
        ⟨by decide, allowed _ _ rfl rfl⟩, _, rfl, rfl⟩

theorem first_update_acknowledged (picky : Bool) (offset : Int) (small : offset ≤ 2) :
    Acknowledged (polledServer picky) (polledClient picky []).poll offset := by
  cases picky with
  | true => exact ⟨⟨1, "a", 100, 0⟩, ⟨_, List.mem_singleton.2 rfl, List.mem_singleton.2 rfl⟩, small⟩
  | false => exact ⟨⟨1, "a", 100, 0⟩, ⟨_, List.mem_singleton.2 rfl, List.mem_singleton.2 rfl⟩, small⟩

-- The offset -1 keeps the last update only; the offset 2, when the queue rejects
-- it, starts again from the head.
theorem get_updates_can_lose_and_repeat :
    (∃ before event after, Transition.StepOf (client pollServer) (PollsWith pollServer (PermittedAnyway pollServer))
      before event after ∧
      ¬ Lossless pollServer (fun served => FromOffset pollServer (getUpdatesOffset pollServer served.query) served)
        before event after) ∧
    ∃ before event after, Transition.StepOf (client pickyServer) (PollsWith pickyServer (PermittedAnyway pickyServer))
      before event after ∧
      ¬ Lossless pickyServer (fun served => FromOffset pickyServer (getUpdatesOffset pickyServer served.query) served)
        before event after := by
  have permitted_first (picky : Bool) (poll : Poll ListQueue) (query : Query) (updates : query.method = "getupdates")
      (zero : getUpdatesOffset (polledServer picky) query = 0) : PermittedAnyway (polledServer picky) poll query := by
    refine ⟨by rw [updates]; decide, ?_, fun _ => .inl zero⟩
    rw [IsWebhookQuery, updates]
    decide
  refine ⟨⟨polledClient false [], getUpdates 2 "-1" "1", polledClient false [getUpdates 2 "-1" "1"],
    ⟨?_, ⟨rfl, trivial⟩, ?_, rfl⟩, ?_⟩,
    polledClient true [], getUpdates 2 "2" "2", polledClient true [getUpdates 2 "2" "2"], ⟨?_, ⟨rfl, trivial⟩, ?_, rfl⟩, ?_⟩
  · exact polled_client_reached false _ (permitted_first false)
  · exact ⟨by decide, by decide, by decide, fun _ => .inr (first_update_acknowledged false _ (by decide))⟩
  · intro lossless
    rcases lossless.removed ⟨2, "b", 100, 0⟩ (by decide) (by decide) with ⟨query, updates, member, inside⟩ | expired
    · have listed := (mem_successes query updates _).2 member
      have only : (polledClient false []).poll.successes.map Prod.snd = [[⟨1, "a", 100, 0⟩]] := rfl
      have inOnly := List.mem_map_of_mem (f := Prod.snd) listed
      rw [only, List.mem_singleton] at inOnly
      change updates = _ at inOnly
      rw [inOnly] at inside
      exact absurd inside (by decide)
    · exact absurd expired (by decide)
  · exact polled_client_reached true _ (permitted_first true)
  · exact ⟨by decide, by decide, by decide, fun _ => .inr (first_update_acknowledged true _ (by decide))⟩
  · intro lossless
    obtain ⟨served, _, asked, updates, fromOffset⟩ :=
      lossless.answered (updatesQuery 2 "2" "2") [⟨1, "a", 100, 0⟩, ⟨2, "b", 100, 0⟩]
      (by decide)
    have first : (⟨1, "a", 100, 0⟩ : TQueueEvent) ∈ served.updates := by
      rw [updates]
      exact List.mem_cons_self
    have above := of_decide_eq_true (List.mem_filter.1 (fromOffset.1.subset first)).2
    rw [asked] at above
    exact absurd above (by decide)

theorem second_update_lossless : Lossless pollServer (RightlyServed pollServer) (polledClient false [])
    (getUpdates 2 "2" "1") (polledClient false [getUpdates 2 "2" "1"]) := by
  apply get_updates_loses_nothing pollServer
  refine ⟨polled_client_reached false _ ?_, ⟨rfl, trivial⟩, ⟨by decide, by decide, by decide, fun _ => .inr ⟨by decide, ?_⟩⟩, rfl⟩
  · intro poll query updates zero
    refine ⟨by rw [updates]; decide, ?_, fun _ => .inl zero⟩
    rw [IsWebhookQuery, updates]
    decide
  · exact first_update_acknowledged false _ (by decide)

end Forgetting

end TelegramBotApi.Client
