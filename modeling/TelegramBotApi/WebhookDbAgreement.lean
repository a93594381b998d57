import TelegramBotApi.AllowedUpdateTypes

set_option autoImplicit false

namespace TelegramBotApi.Client

open Checked

def Core.webhookInfo (core : Core) : String :=
  webhookInfoOf core.hasCertificate core.maxConnections core.ipAddress core.fixIpAddress core.secretToken
    core.allowedUpdateTypes core.url

def Core.Stored (core : Core) : Prop :=
  core.isClosing = false → core.url ≠ "" → core.setQuery = none → core.webhookDb = some core.webhookInfo

section Agreement

variable {Queue : Type} (env : Environment Queue)

@[simp] theorem webhook_info_core (state : State Queue) : state.core.webhookInfo = webhookInfo state := rfl

theorem stored_of_closing (core : Core) (closing : core.isClosing = true) : core.Stored := by
  intro isOpen
  rw [closing] at isOpen
  cases isOpen

theorem stored_of_unset (core : Core) (unset : core.url = "") : core.Stored := fun _ busy => absurd unset busy

theorem stored_of_waiting (core : Core) (query : Query) (waiting : core.setQuery = some query) : core.Stored := by
  intro _ _ idle
  rw [waiting] at idle
  cases idle

theorem save_webhook_stored (state : State Queue) : (saveWebhook state).core.Stored := fun _ _ _ => rfl

theorem meets_stored (state : State Queue) (computation : Except Check (State Queue)) (keeps : Keeps state computation)
    (stored : state.core.Stored) : Meets (fun _ => True) (fun after => after.core.Stored) computation := by
  apply meets_allow Tolerated _ _ _ (fun _ _ => trivial)
  apply meets_weaken Tolerated _ _ _ _ keeps
  intro after same
  rw [same]
  exact stored

theorem outcome_stored (query : Query) (before : Side) (after : State Queue) (idle : Idle before)
    (outcome : SetOutcome env query before after.side) : after.core.Stored := by
  have side : after.core.toSide = after.side := rfl
  generalize after.side = reached at outcome side
  cases outcome with
  | refused why =>
      apply stored_of_unset
      rw [side]
      exact idle.url
  | copying isOpen usable =>
      apply stored_of_unset
      rw [side]
      exact idle.url
  | created token certificate isOpen usable =>
      apply stored_of_waiting _ query
      rw [side]
      rfl

theorem do_set_webhook_stored (draws : Draws) (query : Query) (wasDeleted : Bool) (state : State Queue)
    (consistent : Consistent env state.side) (idle : Idle state.side) :
    Meets (fun _ => True) (fun after => after.core.Stored) (doSetWebhook env draws query wasDeleted state) := by
  apply meets_allow Tolerated _ _ _ (fun _ _ => trivial)
  apply meets_weaken Tolerated _ _ _ _ (do_set_webhook_meets env draws query wasDeleted state idle
    (no_id_of_consistent env state.side consistent idle.url) (no_certificate_of_consistent env state.side consistent idle.url))
  exact fun after outcome => outcome_stored env query state.side after idle outcome

theorem replace_webhook_stored (draws : Draws) (query : Query) (state : State Queue)
    (ready : state.side.url = "" → Consistent env state.side ∧ Idle state.side) :
    Meets (fun _ => True) (fun after => after.core.Stored) (replaceWebhook env draws query state) := by
  unfold replaceWebhook
  extract_lets aborted next
  have same : next.side = state.side := by
    change aborted.side = state.side
    unfold aborted
    split
    · exact side_of_core _ _ (abort_long_poll_core draws true state)
    · rfl
  by_cases busy : next.webhookUrl ≠ ""
  · rw [if_pos busy]
    apply meets_require _ _ _ _ _ (fun _ => trivial)
    intro _
    exact stored_of_waiting _ query rfl
  · rw [if_neg busy]
    obtain ⟨consistent, idle⟩ := ready ((congrArg Side.url same).symm.trans (not_not.1 busy))
    exact do_set_webhook_stored env draws query false next (same ▸ consistent) (same ▸ idle)

theorem keep_webhook_stored (query : Query) (state : State Queue) (stored : state.core.Stored) :
    Meets (fun _ => True) (fun after => after.core.Stored) (keepWebhook env query state) := by
  unfold keepWebhook updateAllowedUpdateTypes
  extract_lets types source
  split
  · apply meets_bind _ (fun result => result.1 = true)
    · apply meets_bind _ _ _ _ _ (meets_allow Tolerated _ _ _ (fun _ _ => trivial) (send_request_frame _ _))
      intro sent _
      exact rfl
    · rintro ⟨changed, updated⟩ saved
      cases saved
      exact save_webhook_stored updated
  · have asked : (state.ask types).core.Stored := by
      unfold State.ask
      split
      · exact stored
      · exact stored
    exact asked

theorem start_set_webhook_stored (draws : Draws) (query : Query) (state : State Queue)
    (consistent : Consistent env state.side) (stored : state.core.Stored) :
    Meets (fun _ => True) (fun after => after.core.Stored) (startSetWebhook env draws query state) := by
  unfold startSetWebhook
  cases waiting : state.webhookSetQuery with
  | some previous =>
      apply replace_webhook_stored
      intro unset
      have same := side_of_core _ _ (fail_query_conflict_core draws "Conflict: terminated by other setWebhook" previous
        { state with webhookSetQuery := none })
      rw [same] at unset
      exact absurd unset (consistent.setBusy (by
        rw [show state.side.setQuery = some previous from waiting]
        exact Option.some_ne_none previous))
  | none =>
      dsimp only
      split
      · exact stored
      · rename_i noActive
        split
        · exact keep_webhook_stored env query state stored
        · apply replace_webhook_stored
          intro noUrl
          exact ⟨consistent, noUrl, waiting, Option.not_isSome_iff_eq_none.1 noActive⟩

theorem process_set_webhook_stored (draws : Draws) (query : Query) (state : State Queue)
    (consistent : Consistent env state.side) (stored : state.core.Stored) :
    Meets (fun _ => True) (fun after => after.core.Stored) (processSetWebhookQuery env draws query state) := by
  unfold processSetWebhookQuery
  split
  · exact stored
  · exact start_set_webhook_stored env draws query _ consistent stored

theorem process_get_updates_stored (draws : Draws) (query : Query) (state : State Queue) (stored : state.core.Stored) :
    Meets (fun _ => True) (fun after => after.core.Stored) (processGetUpdatesQuery env draws query state) := by
  by_cases busy : state.side.url ≠ ""
  · unfold processGetUpdatesQuery
    rw [if_pos (.inl busy)]
    change (failQueryConflict draws webhookConflict query state).core.Stored
    rw [fail_query_conflict_core]
    exact stored
  · apply meets_allow Tolerated _ _ _ (fun _ _ => trivial)
    apply meets_weaken Tolerated _ _ _ _ (process_get_updates_frame env draws query state)
    intro after same
    apply stored_of_unset
    exact (congrArg Side.url (side_of_frame after state same)).trans (not_not.1 busy)

theorem on_cmd_stored (draws : Draws) (query : Query) (state : State Queue) (consistent : Consistent env state.side)
    (stored : state.core.Stored) : Meets (fun _ => True) (fun after => after.core.Stored) (onCmd env draws state query) := by
  unfold onCmd
  extract_lets online
  split
  · exact meets_stored state _ (process_close_keeps env draws query state) stored
  · split
    · exact meets_stored state _ (do_send_request_keeps .logOut _ rfl) stored
    · split
      · exact meets_stored state _ (fail_query_closing_keeps draws query state) stored
      · apply meets_require _ _ _ _ _ (fun _ => trivial)
        intro _
        unfold processQuery
        split
        · exact process_get_updates_stored env draws query state stored
        · split
          · exact process_set_webhook_stored env draws query state consistent stored
          · exact stored

theorem loop_stored (draws : Draws) (state : State Queue) (consistent : Consistent env state.side)
    (stored : state.core.Stored) : Meets (fun _ => True) (fun after => after.core.Stored) (loop env draws state) := by
  unfold loop
  split
  · refine meets_weaken _ _ _ _ (fun _ both => both.2) (meets_foldlM (fun _ => True)
      (fun after : State Queue => Consistent env after.side ∧ after.core.Stored) _ _ _ ⟨consistent, stored⟩ ?_)
    rintro before query _ ⟨held, kept⟩
    apply meets_and
    · exact meets_allow Tolerated _ _ _ (fun _ _ => trivial) (on_cmd_consistent env draws query before held)
    · exact on_cmd_stored env draws query before held kept
  · exact stored

theorem on_webhook_closed_stored (draws : Draws) (status : String) (before : Side) (state : State Queue)
    (consistent : Consistent env before) (busy : before.url ≠ "") (same : state.side = before.calledBack) :
    Meets (fun _ => True) (fun after => after.core.Stored) (onWebhookClosed env draws status state) := by
  have forgotten := forget_consistent env before consistent
  have idle := forget_idle env before consistent busy
  rw [← same] at forgotten idle
  unfold onWebhookClosed
  dsimp only
  split
  · exact stored_of_unset _ rfl
  · split
    · exact stored_of_unset _ rfl
    · exact do_set_webhook_stored env draws _ true _ forgotten idle

theorem webhook_closed_stored (draws : Draws) (status : String) (before : Side) (state : State Queue)
    (consistent : Consistent env before) (busy : before.url ≠ "") (same : state.side = before.calledBack)
    (stored : state.core.Stored) :
    Meets (fun _ => True) (fun after => after.core.Stored) (webhookClosed env draws status state) := by
  unfold webhookClosed
  split
  · exact stored
  · exact on_webhook_closed_stored env draws status before state consistent busy same

theorem on_webhook_certificate_copied_stored (draws : Draws) (copied : Bool) (state : State Queue)
    (consistent : Consistent env state.side) :
    Meets (fun _ => True) (fun after => after.core.Stored) (onWebhookCertificateCopied env draws copied
      { state with certificateCopies := state.certificateCopies - 1 }) := by
  unfold onWebhookCertificateCopied
  dsimp only
  split
  · exact trivial
  · rename_i query active
    have isActive : state.side.active = some query := active
    have unset : state.side.url = "" := consistent.activeIdle (by
      rw [isActive]
      exact Option.some_ne_none query)
    have idle : Idle { state.side with active := none } := by
      refine ⟨unset, ?_, rfl⟩
      by_contra waiting
      exact consistent.setBusy waiting unset
    split
    · apply meets_allow Tolerated _ _ _ (fun _ _ => trivial)
      refine meets_weaken Tolerated _ _ _ ?_ (finish_set_webhook_meets env draws query _ (consistent.usable query isActive)
        ⟨idle.url, idle.setQuery, idle.active⟩)
      rintro after ⟨refused, created⟩
      by_cases closing : state.side.isClosing = true
      · apply stored_of_closing
        have same := congrArg Side.isClosing (refused closing)
        exact same.trans closing
      · obtain ⟨token, reached⟩ := created (Bool.eq_false_of_not_eq_true closing)
        exact stored_of_waiting _ query (congrArg Side.setQuery reached)
    · exact stored_of_unset _ unset

theorem webhook_verified_stored (token : Nat) (cachedIpAddress : String) (state : State Queue) (stored : state.core.Stored) :
    (webhookVerified token cachedIpAddress state).core.Stored := by
  rcases webhook_verified_cases token cachedIpAddress state with ⟨_, kept⟩ | ⟨_, answers, saved⟩
  · rw [kept]
    exact stored
  · rw [saved]
    exact save_webhook_stored _

theorem loop_closing_stored (draws : Draws) (state : State Queue) (consistent : Consistent env state.side)
    (closing : state.side.isClosing = true) :
    Meets (fun _ => True) (fun after => after.core.Stored) (loop env draws state) := by
  apply meets_allow Tolerated _ _ _ (fun _ _ => trivial)
  apply meets_weaken Tolerated _ _ _ _ (loop_closing env draws state consistent closing)
  rintro after ⟨same, _⟩
  apply stored_of_closing
  exact (congrArg Side.isClosing same).trans closing

theorem step_stored (draws : Draws) (state : State Queue) (event : Event) (consistent : Consistent env state.side)
    (offered : enabled state event) (stored : state.core.Stored)
    (echo : ∀ types ∈ echoed event, types = state.allowedUpdateTypes) :
    Meets (fun _ => True) (fun after => after.core.Stored) (step env draws state event) := by
  cases event with
  | send query => exact loop_stored env draws _ consistent stored
  | close => exact meets_stored state _ (close_keeps draws state) stored
  | authorizationReady =>
      exact loop_stored env draws _ (ready_consistent env state.side consistent (not_retrying state offered.2.2.2.2)) stored
  | authorizationLoggingOut =>
      exact loop_closing_stored env draws _ (closing_consistent env state.side true state.closing consistent rfl) rfl
  | authorizationClosing =>
      have closing := Bool.or_true state.loggingOut
      exact loop_closing_stored env draws _ (closing_consistent env state.side state.loggingOut true consistent closing) closing
  | authorizationClosed =>
      apply meets_allow Tolerated _ _ _ (fun _ _ => trivial)
      apply meets_weaken Tolerated _ _ _ _ (on_closed_meets env draws state consistent offered.2.2)
      rintro after ⟨_, webhookDb, removal, _, ended⟩
      apply stored_of_closing
      exact (congrArg Side.isClosing ended).trans offered.2.2
  | authorizationFailed code message =>
      obtain ⟨invalid, time, _, keeps⟩ := log_out_keeps env draws code message state
      exact meets_stored { state with isApiIdInvalid := invalid, nextAuthorizationTime := time } _ keeps stored
  | allowedUpdateTypesChanged types =>
      have same := echo _ rfl
      change (State.core { state with allowedUpdateTypes := types.getD defaultAllowedUpdateTypes }).Stored
      rw [same]
      exact stored
  | authorizationDateChanged date => exact stored
  | tdQueryAnswered query error =>
      cases error with
      | none => exact stored
      | some status => exact stored
  | addUpdate updateType json timeout webhookQueueId =>
      exact meets_stored state _ (add_update_keeps env draws updateType json timeout webhookQueueId state) stored
  | longPollTimeout => exact meets_stored state _ (long_poll_wakeup_keeps env draws true state) stored
  | certificateCopied copied => exact on_webhook_certificate_copied_stored env draws copied state consistent
  | certificateUnlinked status =>
      obtain ⟨busy, same⟩ := called_back_of_unlink env state.side consistent status offered.2
      exact on_webhook_closed_stored env draws status state.side _ consistent busy same
  | webhookVerified token cachedIpAddress => exact webhook_verified_stored token cachedIpAddress state stored
  | webhookClosed token status =>
      obtain ⟨busy, same⟩ := called_back_of_actor env state.side consistent token offered.2
      exact webhook_closed_stored env draws status state.side _ consistent busy same stored
  | webhookHungUp token =>
      obtain ⟨busy, same⟩ := called_back_of_actor env state.side consistent token offered.2
      exact webhook_closed_stored env draws "Unknown" state.side _ consistent busy same stored
  | directoryRemoved =>
      refine meets_stored { state with directoryRemoval := false } _ (finish_closing_keeps env draws _ ?_) stored
      exact (consistent.offline (consistent.removal offered.2)).1
  | timeoutExpired => exact stored

-- The echo of each value comes before the next request that changes it.
def EchoedInTime (echoing : Echoing Queue) (event : Event × Draws) : Prop :=
  ∀ after, (echoingClient env).step echoing event = .ok after → after.pending.length ≤ 1

instance (echoing : Echoing Queue) (event : Event × Draws) : Decidable (EchoedInTime env echoing event) :=
  match done : (echoingClient env).step echoing event with
  | .ok after => decidable_of_iff (after.pending.length ≤ 1) ⟨fun few other same => by
      rw [done] at same
      cases same
      exact few, fun inTime => inTime after done⟩
  | .error _ => isTrue (fun _ same => by
      rw [done] at same
      cases same)

def Latest (initial : Nat) (view : TypesView) : Prop := view.allowed = view.sent.getLast?.getD initial

theorem asks_latest (initial : Nat) (first last : TypesView) (latest : Latest initial first) (asked : Asks first last) :
    Latest initial last := by
  induction asked with
  | refl => exact latest
  | ask last types _ ih =>
      unfold TypesView.ask
      split
      · exact ih
      · simp [Latest]

structure Agreeing (echoing : Echoing Queue) : Prop where
  consistent : Consistent env echoing.client.side
  stored : echoing.client.core.Stored
  latest : Latest echoing.initial echoing.client.types
  echoed : echoing.pending.length ≤ 1

theorem pending_latest (echoing : Echoing Queue) (types : Nat) (latest : Latest echoing.initial echoing.client.types)
    (awaited : echoing.pending.length ≤ 1) (next : echoing.pending.head? = some types) :
    types = echoing.client.allowedUpdateTypes := by
  have single : echoing.pending = [types] := by
    cases pending : echoing.pending with
    | nil =>
        rw [pending] at next
        cases next
    | cons first rest =>
        rw [pending] at next awaited
        cases next
        rw [List.length_eq_zero_iff.1 (Nat.le_zero.1 (Nat.le_of_succ_le_succ awaited))]
  have last : echoing.sent.getLast? = some types := by
    have split := List.take_append_drop echoing.delivered echoing.sent
    rw [show echoing.sent.drop echoing.delivered = [types] from single] at split
    rw [← split, List.getLast?_concat]
  have current : echoing.client.allowedUpdateTypes = echoing.sent.getLast?.getD echoing.initial := latest
  rw [current, last]
  rfl

theorem step_agreeing (echoing : Echoing Queue) (event : Event × Draws) (inv : Agreeing env echoing)
    (offered : (echoingClient env).enabled echoing event) (inTime : EchoedInTime env echoing event) :
    Meets (fun _ => True) (Agreeing env) ((echoingClient env).step echoing event) := by
  obtain ⟨event, draws⟩ := event
  have repeats (types : Nat) (echo : types ∈ echoed event) : types = echoing.client.allowedUpdateTypes :=
    pending_latest echoing types inv.latest inv.echoed (offered.2 types echo)
  have stored := step_stored env draws echoing.client event inv.consistent offered.1 inv.stored repeats
  have consistent := step_keeps_consistent env draws echoing.client event inv.consistent offered.1
  have latest : Meets (fun _ => True) (fun after => Latest echoing.initial after.types)
      (step env draws echoing.client event) := by
    cases kind : echoed event with
    | some types =>
        cases event with
        | allowedUpdateTypesChanged types =>
            change types.getD defaultAllowedUpdateTypes = _
            rw [repeats _ rfl]
            exact inv.latest
        | _ => cases kind
    | none =>
        have notEcho (types : Option Nat) : event ≠ .allowedUpdateTypesChanged types := by
          rintro rfl
          cases kind
        apply meets_weaken _ _ _ _ _ (step_asks env draws echoing.client event notEcho)
        intro after asked
        exact asks_latest echoing.initial _ _ inv.latest asked
  change Meets (fun _ => True) (Agreeing env) (step env draws echoing.client event >>= fun after => _)
  cases done : step env draws echoing.client event with
  | error fault => exact trivial
  | ok after =>
      rw [done] at stored consistent latest
      refine ⟨consistent, stored, latest, inTime _ ?_⟩
      change step env draws echoing.client event >>= _ = _
      rw [done]
      rfl

theorem start_agreeing (echoing : Echoing Queue) (started : (echoingClient env).start echoing) : Agreeing env echoing := by
  have synchronised := start_synchronised env echoing started
  obtain ⟨state, types, started, rfl⟩ := started
  have noneSent : sentTypes state.requests = [] := by
    obtain ⟨draws, tqueue, webhookDb, running | failed⟩ := started
    · rw [running]
      rfl
    · have kept := meets_returns Tolerated _ _ state (finish_closing_keeps env draws _ rfl) failed
      exact congrArg Core.sentTypes kept
  have unset : state.side.url = "" := by
    obtain ⟨draws, tqueue, webhookDb, running | failed⟩ := started
    · rw [running]
      rfl
    · have kept := meets_returns Tolerated _ _ state (keeps_side _ _ (finish_closing_keeps env draws _ rfl)) failed
      rw [kept]
      rfl
  refine ⟨start_consistent env state started, stored_of_unset _ unset, ?_, ?_⟩
  · exact synchronised.settled (by
      change 0 = (sentTypes state.requests).length
      rw [noneSent]
      rfl)
  · change ((sentTypes state.requests).drop 0).length ≤ 1
    rw [noneSent]
    exact Nat.zero_le 1

theorem webhook_db_agrees (echoing : Echoing Queue)
    (reached : Transition.Reach (echoingClient env) (EchoedInTime env) echoing)
    (isOpen : echoing.client.side.isClosing = false) (set : echoing.client.webhookUrl ≠ "")
    (idle : echoing.client.webhookSetQuery = none) :
    echoing.client.webhookDb = some (webhookInfo echoing.client) := by
  have inv := Transition.reach_meets (echoingClient env) (EchoedInTime env) (fun _ => True) (Agreeing env)
    (start_agreeing env) (fun before event held offered inTime => step_agreeing env before event held offered inTime)
    echoing reached
  exact inv.stored isOpen set idle

end Agreement

def pollWebhookQuery : Query where
  id := 1
  method := "setwebhook"
  args := [("url", "https://example.org"), ("allowed_updates", "[\"poll\"]")]

def storedWebhook : String := "#maxc1/#ip10.0.0.1/#allow2048/https://example.org"

-- The webhook is verified while the echo of its update types is still awaited.
theorem verified_webhook_stored : ∃ echoing : Echoing ListQueue,
    echoing.client.webhookUrl = "https://example.org" ∧ echoing.client.webhookDb = some (webhookInfo echoing.client) ∧
    webhookInfo echoing.client = storedWebhook := by
  obtain ⟨echoing, reached, isOpen, url, idle, info⟩ := Transition.exists_reach (echoingClient namesServer)
    (EchoedInTime namesServer) (fun echoing => echoing.client.side.isClosing = false ∧
      echoing.client.webhookUrl = "https://example.org" ∧ echoing.client.webhookSetQuery = none ∧
      webhookInfo echoing.client = storedWebhook) echoingStart echoing_started
    [(.authorizationReady, {}), (.send pollWebhookQuery, {}), (.webhookVerified 2 "10.0.0.1", {})] (by decide +kernel)
  refine ⟨echoing, url, ?_, info⟩
  exact webhook_db_agrees namesServer echoing reached isOpen (by rw [url]; decide) idle

end TelegramBotApi.Client
