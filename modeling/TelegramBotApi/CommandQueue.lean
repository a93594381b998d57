import TelegramBotApi.PollExclusion

set_option autoImplicit false

namespace TelegramBotApi.Client

open Checked

-- What on_cmd and the functions it calls never change. The queue is emptied by the
-- loop alone, and the flags are set by the authorization states alone.
structure Intake where
  cmdQueue : List Query
  closing : Bool
  loggingOut : Bool
  tdClient : Bool

def Frame.intake (frame : Frame) : Intake := ⟨frame.cmdQueue, frame.closing, frame.loggingOut, frame.tdClient⟩

def Intake.isClosing (intake : Intake) : Bool := intake.loggingOut || intake.closing

section Intake

variable {Queue : Type} (env : Environment Queue)

def State.intake (state : State Queue) : Intake := state.frame.intake

def KeepsIntake (state : State Queue) (computation : Except Check (State Queue)) : Prop :=
  Meets (fun _ => True) (fun after => after.intake = state.intake) computation

theorem intake_of_frame (state : State Queue) (computation : Except Check (State Queue))
    (keeps : KeepsFrame state computation) : KeepsIntake state computation := by
  apply meets_allow Tolerated _ _ _ (fun _ _ => trivial)
  exact meets_weaken Tolerated _ _ _ (fun _ same => congrArg Frame.intake same) keeps

theorem intake_of_keeps (state : State Queue) (computation : Except Check (State Queue))
    (keeps : Keeps state computation) : KeepsIntake state computation :=
  intake_of_frame state computation (keeps_frame state computation keeps)

theorem intake_from (first state : State Queue) (computation : Except Check (State Queue))
    (same : first.intake = state.intake) (keeps : KeepsIntake first computation) : KeepsIntake state computation :=
  meets_weaken _ _ _ _ (fun _ kept => kept.trans same) keeps

theorem update_allowed_update_types_intake (query : Query) (state : State Queue) :
    Meets (fun _ => True) (fun result => result.2.intake = state.intake) (updateAllowedUpdateTypes env query state) := by
  apply meets_allow Tolerated _ _ _ (fun _ _ => trivial)
  apply meets_weaken Tolerated _ _ _ _ (update_allowed_update_types_keeps env query state)
  intro result kept
  exact congrArg Frame.intake kept.1

theorem clear_pending_updates_intake (query : Query) (state : State Queue) :
    KeepsIntake state (clearPendingUpdates env query state) := by
  unfold clearPendingUpdates
  split
  · apply meets_require _ _ _ _ _ (fun _ => trivial)
    intro _
    exact rfl
  · exact rfl

section SetWebhook

variable (draws : Draws) (query : Query)

theorem fail_query_closing_intake (state : State Queue) : KeepsIntake state (failQueryClosing draws query state) :=
  intake_of_keeps state _ (fail_query_closing_keeps draws query state)

theorem finish_set_webhook_intake (state : State Queue) : KeepsIntake state (finishSetWebhook env draws query state) := by
  apply meets_require _ _ _ _ _ (fun _ => trivial)
  intro _
  apply meets_require _ _ _ _ _ (fun _ => trivial)
  intro _
  apply meets_require _ _ _ _ _ (fun _ => trivial)
  intro _
  split
  · exact fail_query_closing_intake draws query state
  · apply meets_require _ _ _ _ _ (fun _ => trivial)
    intro _
    apply meets_bind _ _ _ _ _ (update_allowed_update_types_intake env query _)
    rintro ⟨changed, updated⟩ same
    apply meets_require _ _ _ _ _ (fun _ => trivial)
    intro _
    apply meets_require _ _ _ _ _ (fun _ => trivial)
    intro _
    exact same

theorem set_certificate_intake (state : State Queue) : KeepsIntake state (setCertificate env draws query state) := by
  unfold setCertificate
  split
  · exact finish_set_webhook_intake env draws query _
  · split
    · exact finish_set_webhook_intake env draws query state
    · split
      · exact rfl
      · apply meets_require _ _ _ _ _ (fun _ => trivial)
        intro _
        exact rfl

theorem set_new_webhook_intake (state : State Queue) : KeepsIntake state (setNewWebhook env draws query state) := by
  unfold setNewWebhook
  split
  · exact rfl
  · split
    · exact rfl
    · apply meets_require _ _ _ _ _ (fun _ => trivial)
      intro _
      exact set_certificate_intake env draws query state

theorem do_set_webhook_intake (wasDeleted : Bool) (state : State Queue) :
    KeepsIntake state (doSetWebhook env draws query wasDeleted state) := by
  apply meets_require _ _ _ _ _ (fun _ => trivial)
  intro _
  split
  · exact fail_query_closing_intake draws query state
  · apply meets_bind _ _ _ _ _ (clear_pending_updates_intake env query state)
    intro cleared same
    split
    · exact intake_from cleared state _ same (set_new_webhook_intake env draws query cleared)
    · exact same

theorem abort_long_poll_intake (fromSetWebhook : Bool) (state : State Queue) :
    (abortLongPoll draws fromSetWebhook state).intake = state.intake :=
  congrArg (fun core : Core => core.toFrame.intake) (abort_long_poll_core draws fromSetWebhook state)

theorem replace_webhook_intake (state : State Queue) : KeepsIntake state (replaceWebhook env draws query state) := by
  unfold replaceWebhook
  extract_lets aborted next
  have same : next.intake = state.intake := by
    change aborted.intake = state.intake
    unfold aborted
    split
    · exact abort_long_poll_intake draws true state
    · rfl
  split
  · apply meets_require _ _ _ _ _ (fun _ => trivial)
    intro _
    exact same
  · exact intake_from next state _ same (do_set_webhook_intake env draws query false next)

theorem keep_webhook_intake (state : State Queue) : KeepsIntake state (keepWebhook env query state) := by
  apply meets_bind _ _ _ _ _ (update_allowed_update_types_intake env query state)
  rintro ⟨changed, updated⟩ same
  cases changed with
  | true => exact same
  | false => exact same

theorem start_set_webhook_intake (state : State Queue) : KeepsIntake state (startSetWebhook env draws query state) := by
  unfold startSetWebhook
  split
  · rename_i previous waiting
    apply intake_from _ state _ _ (replace_webhook_intake env draws query _)
    have failed := fail_query_conflict_core draws "Conflict: terminated by other setWebhook" previous
      { state with webhookSetQuery := none }
    have same := congrArg (fun core : Core => core.toFrame.intake) failed
    exact same
  · split
    · exact rfl
    · split
      · exact keep_webhook_intake env query state
      · exact replace_webhook_intake env draws query state

theorem process_set_webhook_intake (state : State Queue) :
    KeepsIntake state (processSetWebhookQuery env draws query state) := by
  unfold processSetWebhookQuery
  split
  · exact rfl
  · exact start_set_webhook_intake env draws query _

theorem on_cmd_intake (state : State Queue) : KeepsIntake state (onCmd env draws state query) := by
  unfold onCmd
  extract_lets online
  split
  · exact intake_of_keeps state _ (process_close_keeps env draws query state)
  · split
    · exact intake_of_keeps state _ (do_send_request_keeps .logOut _ rfl)
    · split
      · exact fail_query_closing_intake draws query state
      · apply meets_require _ _ _ _ _ (fun _ => trivial)
        intro _
        unfold processQuery
        split
        · exact intake_of_frame state _ (process_get_updates_frame env draws query state)
        · split
          · exact process_set_webhook_intake env draws query state
          · exact rfl

end SetWebhook

section Callbacks

variable (draws : Draws)

theorem on_webhook_certificate_copied_intake (copied : Bool) (state : State Queue) :
    KeepsIntake state (onWebhookCertificateCopied env draws copied state) := by
  unfold onWebhookCertificateCopied
  split
  · trivial
  · dsimp only
    split
    · exact finish_set_webhook_intake env draws _ _
    · exact rfl

theorem webhook_verified_intake (token : Nat) (cachedIpAddress : String) (state : State Queue) :
    (webhookVerified token cachedIpAddress state).intake = state.intake := by
  rcases webhook_verified_cases token cachedIpAddress state with ⟨_, kept⟩ | ⟨_, answers, saved⟩
  · rw [kept]
  · rw [saved]
    rfl

theorem on_webhook_closed_intake (status : String) (state : State Queue) :
    KeepsIntake state (onWebhookClosed env draws status state) := by
  unfold onWebhookClosed
  dsimp only
  split
  · exact rfl
  · split
    · exact rfl
    · exact do_set_webhook_intake env draws _ true _

theorem webhook_closed_intake (status : String) (state : State Queue) :
    KeepsIntake state (webhookClosed env draws status state) := by
  unfold webhookClosed
  split
  · exact rfl
  · exact on_webhook_closed_intake env draws status state

theorem finish_closing_intake (state : State Queue) : KeepsIntake state (finishClosing env draws state) := by
  apply meets_bind _ (fun cleared => cleared.intake = state.intake)
  · unfold clearLoggedOut
    split
    · apply meets_require _ _ _ _ _ (fun _ => trivial)
      intro _
      exact rfl
    · exact rfl
  · intro cleared same
    have core := stop_or_wait_core draws cleared
    exact (congrArg (fun core : Core => core.toFrame.intake) core).trans same

end Callbacks

-- Nobody waits for a client that is closing: the loop runs as soon as it is, and
-- whenever a request arrives.
def Intake.Attended (intake : Intake) : Prop := intake.isClosing = true → intake.cmdQueue = []

theorem loop_intake (draws : Draws) (state : State Queue) :
    Meets (fun _ => True) (fun after => after.intake.Attended ∧ after.tdClient = state.tdClient) (loop env draws state) := by
  unfold loop
  split
  · refine meets_weaken _ (fun after : State Queue => after.intake = { state.intake with cmdQueue := [] }) _ _ ?_
      (meets_foldlM _ _ _ _ _ rfl ?_)
    · intro after same
      refine ⟨?_, congrArg Intake.tdClient same⟩
      rw [same]
      exact fun _ => rfl
    · intro before query _ same
      exact meets_weaken _ _ _ _ (fun _ kept => kept.trans same) (on_cmd_intake env draws query before)
  · rename_i idle
    simp only [Bool.or_eq_true, not_or, Bool.not_eq_true] at idle
    refine ⟨fun closing => ?_, rfl⟩
    change (state.loggingOut || state.closing) = true at closing
    rw [idle.1.2, idle.2] at closing
    cases closing

theorem step_attended (draws : Draws) (state : State Queue) (event : Event) (goesOn : event ≠ .authorizationClosed) :
    Meets (fun _ => True)
      (fun after => (state.intake.Attended → after.intake.Attended) ∧ after.tdClient = state.tdClient)
      (step env draws state event) := by
  have looped (before : State Queue) (same : before.tdClient = state.tdClient) :
      Meets (fun _ => True)
        (fun after => (state.intake.Attended → after.intake.Attended) ∧ after.tdClient = state.tdClient)
        (loop env draws before) :=
    meets_weaken _ _ _ _ (fun _ both => ⟨fun _ => both.1, both.2.trans same⟩) (loop_intake env draws before)
  have kept (computation : Except Check (State Queue)) (keeps : KeepsIntake state computation) :
      Meets (fun _ => True)
        (fun after => (state.intake.Attended → after.intake.Attended) ∧ after.tdClient = state.tdClient) computation := by
    apply meets_weaken _ _ _ _ _ keeps
    intro after same
    refine ⟨?_, congrArg Intake.tdClient same⟩
    rw [same]
    exact id
  cases event with
  | send query => exact looped _ rfl
  | close => exact kept _ (intake_of_keeps state _ (close_keeps draws state))
  | authorizationReady => exact looped _ rfl
  | authorizationLoggingOut => exact looped _ rfl
  | authorizationClosing => exact looped _ rfl
  | authorizationClosed => exact absurd rfl goesOn
  | authorizationFailed code message =>
      obtain ⟨invalid, time, _, keeps⟩ := log_out_keeps env draws code message state
      exact kept _ (intake_of_keeps { state with isApiIdInvalid := invalid, nextAuthorizationTime := time } _ keeps)
  | allowedUpdateTypesChanged types => exact kept _ rfl
  | authorizationDateChanged date => exact kept _ rfl
  | tdQueryAnswered query error =>
      cases error with
      | none => exact kept _ rfl
      | some status => exact kept _ rfl
  | addUpdate updateType json timeout webhookQueueId =>
      exact kept _ (intake_of_keeps state _ (add_update_keeps env draws updateType json timeout webhookQueueId state))
  | longPollTimeout => exact kept _ (intake_of_keeps state _ (long_poll_wakeup_keeps env draws true state))
  | certificateCopied copied => exact kept _ (on_webhook_certificate_copied_intake env draws copied _)
  | certificateUnlinked status => exact kept _ (on_webhook_closed_intake env draws status _)
  | webhookVerified token cachedIpAddress => exact kept _ (webhook_verified_intake token cachedIpAddress state)
  | webhookClosed token status => exact kept _ (webhook_closed_intake env draws status _)
  | webhookHungUp token => exact kept _ (webhook_closed_intake env draws "Unknown" _)
  | directoryRemoved => exact kept _ (finish_closing_intake env draws { state with directoryRemoval := false })
  | timeoutExpired => exact kept _ rfl

theorem start_attended (state : State Queue) (started : (client env).start state) : state.intake.Attended := by
  obtain ⟨draws, tqueue, webhookDb, running | failed⟩ := started
  · rw [running]
    exact fun _ => rfl
  · have same := meets_returns _ _ _ state (finish_closing_intake env draws _) failed
    rw [same]
    exact fun _ => rfl

theorem on_closed_offline (draws : Draws) (state : State Queue) :
    Meets (fun _ => True) (fun after => after.tdClient = false) (onClosed env draws state) := by
  have kept (before : State Queue) (offline : before.tdClient = false) (computation : Except Check (State Queue))
      (keeps : KeepsIntake before computation) : Meets (fun _ => True) (fun after => after.tdClient = false) computation :=
    meets_weaken _ _ _ _ (fun _ same => (congrArg Intake.tdClient same).trans offline) keeps
  apply meets_require _ _ _ _ _ (fun _ => trivial)
  intro _
  apply meets_require _ _ _ _ _ (fun _ => trivial)
  intro _
  apply meets_bind _ (fun unset => unset.tdClient = false)
  · unfold failSetQuery
    split
    · exact rfl
    · apply meets_allow Tolerated _ _ _ (fun _ _ => trivial)
      exact fail_member_meets draws _ _ _ _ rfl (fun _ _ => rfl)
  intro unset unsetOffline
  apply meets_bind _ (fun failed => failed.tdClient = false)
  · unfold failActiveSetQuery
    split
    · exact unsetOffline
    · apply meets_allow Tolerated _ _ _ (fun _ _ => trivial)
      exact fail_member_meets draws _ _ _ _ unsetOffline (fun _ _ => unsetOffline)
  intro failed failedOffline
  extract_lets reset
  have resetOffline : reset.tdClient = false := by
    unfold reset
    split <;> exact failedOffline
  apply meets_bind _ _ _ _ _ (kept reset resetOffline _ (intake_of_keeps _ _ (wake_long_poll_keeps env draws reset)))
  intro woken wokenOffline
  apply meets_bind _ _ _ _ _ (kept { woken with cmdQueue := [] } wokenOffline _
    (intake_of_keeps _ _ (drain_keeps draws woken.cmdQueue _)))
  intro drained drainedOffline
  split
  · exact drainedOffline
  · exact kept drained drainedOffline _ (finish_closing_intake env draws drained)

def Side.Disconnected (side : Side) : Prop := side.tdClient = false → side.setQuery = none

theorem meets_disconnected (state : State Queue) (computation : Except Check (State Queue)) (keeps : Keeps state computation)
    (disconnected : state.side.Disconnected) : Meets (fun _ => True) (fun after => after.side.Disconnected) computation := by
  apply meets_allow Tolerated _ _ _ (fun _ _ => trivial)
  apply meets_weaken Tolerated _ _ _ _ (keeps_side state _ keeps)
  intro after same
  rw [same]
  exact disconnected

theorem on_webhook_closed_disconnected (draws : Draws) (status : String) (state : State Queue)
    (unset : state.webhookSetQuery = none) :
    Meets (fun _ => True) (fun after => after.side.Disconnected) (onWebhookClosed env draws status state) := by
  unfold onWebhookClosed
  rw [unset]
  exact fun _ => rfl

theorem webhook_closed_disconnected (draws : Draws) (status : String) (state : State Queue)
    (unset : state.webhookSetQuery = none) :
    Meets (fun _ => True) (fun after => after.side.Disconnected) (webhookClosed env draws status state) := by
  unfold webhookClosed
  split
  · exact fun _ => unset
  · exact on_webhook_closed_disconnected env draws status state unset

theorem start_unset (state : State Queue) (started : (client env).start state) : state.webhookSetQuery = none := by
  obtain ⟨draws, tqueue, webhookDb, running | failed⟩ := started
  · rw [running]
    rfl
  · have same := meets_returns _ _ _ state (finish_closing_undesked env draws _) failed
    exact congrArg Desk.setQuery same

theorem offline_step_disconnected (draws : Draws) (state : State Queue) (event : Event)
    (consistent : Consistent env state.side) (offered : enabled state event) (disconnected : state.side.Disconnected)
    (stopped : state.tdClient = false) :
    Meets (fun _ => True) (fun after => after.side.Disconnected) (step env draws state event) := by
  have closing : state.side.isClosing = true := consistent.online stopped
  have unset : state.webhookSetQuery = none := disconnected stopped
  have offline (running : state.tdClient = true) : False := by
    cases running.symm.trans stopped
  cases event with
  | send query =>
      apply meets_allow Tolerated _ _ _ (fun _ _ => trivial)
      apply meets_weaken Tolerated _ _ _ _ (loop_closing env draws { state with cmdQueue := state.cmdQueue ++ [query] }
        consistent closing)
      intro after kept
      rw [kept.1]
      exact disconnected
  | close => exact meets_disconnected state _ (close_keeps draws state) disconnected
  | longPollTimeout => exact meets_disconnected state _ (long_poll_wakeup_keeps env draws true state) disconnected
  | certificateCopied copied =>
      have noActive : state.activeWebhookSetQuery = none := (consistent.offline stopped).2
      change Meets _ _ (onWebhookCertificateCopied env draws copied _)
      unfold onWebhookCertificateCopied
      rw [noActive]
      exact trivial
  | certificateUnlinked status => exact on_webhook_closed_disconnected env draws status _ unset
  | webhookVerified token cachedIpAddress =>
      change (webhookVerified token cachedIpAddress state).side.Disconnected
      rcases webhook_verified_cases token cachedIpAddress state with ⟨_, kept⟩ | ⟨_, answers, saved⟩
      · rw [kept]
        exact disconnected
      · rw [saved]
        exact fun _ => rfl
  | webhookClosed token status => exact webhook_closed_disconnected env draws status _ unset
  | webhookHungUp token => exact webhook_closed_disconnected env draws "Unknown" _ unset
  | directoryRemoved =>
      exact meets_disconnected { state with directoryRemoval := false } _
        (finish_closing_keeps env draws _ (consistent.offline stopped).1) disconnected
  | timeoutExpired => exact disconnected
  | authorizationReady => exact (offline offered.2.1).elim
  | authorizationFailed code message => exact (offline offered.2.1).elim
  | authorizationLoggingOut => exact (offline offered.2).elim
  | authorizationClosing => exact (offline offered.2).elim
  | allowedUpdateTypesChanged types => exact (offline offered.2).elim
  | authorizationDateChanged date => exact (offline offered.2).elim
  | addUpdate updateType json timeout webhookQueueId => exact (offline offered.2).elim
  | authorizationClosed => exact (offline offered.2.1).elim
  | tdQueryAnswered query error => exact (offline offered.2.1).elim

end Intake

end TelegramBotApi.Client
