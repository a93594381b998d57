import TelegramBotApi.WebhookTracking

set_option autoImplicit false

namespace TelegramBotApi.Client

open Checked

section Absence

variable {Queue : Type} (env : Environment Queue)

structure Frame.Bare (frame : Frame) : Prop where
  url : frame.url = ""
  active : frame.active = none
  webhookDb : frame.webhookDb = none
  waiting : ∀ query ∈ frame.cmdQueue, query.method ≠ "setwebhook"

theorem new_url_of_delete (query : Query) (other : query.method ≠ "setwebhook") : newUrl query = "" := if_neg other

theorem do_delete_webhook_keeps (draws : Draws) (query : Query) (wasDeleted : Bool) (state : State Queue)
    (other : query.method ≠ "setwebhook") (unset : state.side.url = "") (noId : state.side.id = none) :
    KeepsFrame state (doSetWebhook env draws query wasDeleted state) := by
  apply meets_require Tolerated _ _ _ _ (fun busy => absurd unset busy)
  intro _
  by_cases closing : (state.loggingOut || state.closing) = true
  · rw [if_pos closing]
    exact keeps_frame state _ (fail_query_closing_keeps draws query state)
  · rw [if_neg closing]
    apply keeps_frame
    apply keeps_bind state
    · unfold clearPendingUpdates
      split
      · exact clear_tqueue_keeps env state noId
      · exact rfl
    · intro cleared
      rw [if_neg (not_not.2 (new_url_of_delete query other))]
      exact rfl

theorem start_delete_webhook_keeps (draws : Draws) (query : Query) (state : State Queue)
    (other : query.method ≠ "setwebhook") (consistent : Consistent env state.side) (unset : state.side.url = "")
    (noActive : state.side.active = none) (keepsTypes : ¬ ChangesOnlyTypes env query state) :
    KeepsFrame state (startSetWebhook env draws query state) := by
  have noSetQuery : state.webhookSetQuery = none := (idle_of_consistent env state.side consistent unset noActive).setQuery
  have noActiveQuery : state.activeWebhookSetQuery = none := noActive
  unfold startSetWebhook
  rw [noSetQuery]
  dsimp only
  rw [noActiveQuery, Option.isSome_none, if_neg Bool.false_ne_true]
  by_cases notModified : isNotModified env query state = true
  · rw [if_pos notModified]
    apply meets_bind Tolerated _ _ _ _ (update_allowed_update_types_keeps env query state)
    rintro ⟨changed, updated⟩ ⟨kept, why⟩
    cases changed with
    | true => exact absurd ⟨notModified, why rfl⟩ keepsTypes
    | false => exact kept
  · rw [if_neg notModified]
    unfold replaceWebhook
    rw [if_neg (not_not.2 (new_url_of_delete query other))]
    extract_lets aborted next
    rw [if_neg (not_not.2 (show next.webhookUrl = "" from unset))]
    exact do_delete_webhook_keeps env draws query false next other unset
      (no_id_of_consistent env state.side consistent unset)

theorem delete_without_webhook_keeps (draws : Draws) (query : Query) (state : State Queue)
    (other : query.method ≠ "setwebhook") (consistent : Consistent env state.side) (unset : state.side.url = "")
    (noActive : state.side.active = none) (keepsTypes : ¬ ChangesOnlyTypes env query state) :
    KeepsFrame state (processSetWebhookQuery env draws query state) := by
  have unlimited : isRateLimited query = false := by simp [isRateLimited, new_url_of_delete query other]
  unfold processSetWebhookQuery
  rw [if_neg (by simp [unlimited])]
  exact start_delete_webhook_keeps env draws query _ other consistent unset noActive keepsTypes

theorem on_cmd_webhook (draws : Draws) (query : Query) (state : State Queue) (webhook : IsWebhookQuery query)
    (isOpen : state.side.isClosing = false) (post : State Queue → Prop)
    (processed : Meets Tolerated post (processSetWebhookQuery env draws query state)) :
    Meets Tolerated post (onCmd env draws state query) := by
  have named (name : String) (set : name ≠ "setwebhook") (delete : name ≠ "deletewebhook") : query.method ≠ name := by
    rintro rfl
    rcases webhook with isSet | isDelete
    · exact set isSet
    · exact delete isDelete
  unfold onCmd
  extract_lets online
  rw [if_neg (fun both => named "close" (by decide) (by decide) both.2),
    if_neg (fun both => named "logout" (by decide) (by decide) both.2),
    if_neg (show ¬ (state.loggingOut || state.closing) = true from fun closing => by cases isOpen.symm.trans closing)]
  apply meets_require Tolerated _ _ _ _ (fun _ => by decide)
  intro _
  unfold processQuery
  rw [if_neg (named "getupdates" (by decide) (by decide)),
    if_pos (show query.method = "setwebhook" ∨ query.method = "deletewebhook" from webhook)]
  exact processed

theorem on_cmd_bare (draws : Draws) (query : Query) (state : State Queue) (other : query.method ≠ "setwebhook")
    (consistent : Consistent env state.side) (bare : state.frame.Bare) (harmless : Harmless env draws query state) :
    KeepsFrame state (onCmd env draws state query) := by
  by_cases handled : IsWebhookQuery query ∧ state.side.isClosing = false
  · obtain ⟨webhook, isOpen⟩ := handled
    apply on_cmd_webhook env draws query state webhook isOpen
    exact delete_without_webhook_keeps env draws query state other consistent bare.url bare.active
      (harmless webhook ⟨isOpen, bare.url, bare.active⟩).2
  · apply meets_weaken Tolerated _ _ _ _ (on_cmd_meets env draws query state consistent)
    intro after outcome
    exact outcome.1 handled

theorem drain_bare (draws : Draws) (queries : List Query) (state : State Queue)
    (others : ∀ query ∈ queries, query.method ≠ "setwebhook") (consistent : Consistent env state.side)
    (bare : state.frame.Bare) (harmless : HandledHarmlessly env draws queries state) :
    KeepsFrame state (queries.foldlM (onCmd env draws) state) := by
  refine meets_weaken Tolerated _ _ _ (fun _ => And.left) (meets_foldlM_along Tolerated
    (fun state query => Harmless env draws query state)
    (fun rest after => after.frame = state.frame ∧ ∀ query ∈ rest, query.method ≠ "setwebhook")
    (onCmd env draws) queries state ⟨rfl, others⟩ harmless ?_)
  rintro query rest before ⟨same, waiting⟩ met
  have side := side_of_frame before state same
  apply meets_weaken Tolerated _ _ _ _ (on_cmd_bare env draws query before (waiting query List.mem_cons_self)
    (side ▸ consistent) (same ▸ bare) met)
  intro after kept
  exact ⟨kept.trans same, fun query member => waiting query (List.mem_cons_of_mem _ member)⟩

theorem loop_bare (draws : Draws) (state : State Queue) (consistent : Consistent env state.side) (bare : state.frame.Bare)
    (harmless : state.wasAuthorized = true → HandledHarmlessly env draws state.cmdQueue { state with cmdQueue := [] }) :
    Meets Tolerated (fun after => after.frame.Bare) (loop env draws state) := by
  unfold loop
  by_cases runs : (state.wasAuthorized || state.loggingOut || state.closing) = true
  · rw [if_pos runs]
    have taken : State.frame { state with cmdQueue := [] } |>.Bare :=
      ⟨bare.url, bare.active, bare.webhookDb, fun query member => by cases member⟩
    apply meets_weaken Tolerated _ _ _ _ (drain_bare env draws state.cmdQueue { state with cmdQueue := [] } bare.waiting
      consistent taken _)
    · intro after same
      rw [same]
      exact taken
    · by_cases authorized : state.wasAuthorized = true
      · exact harmless authorized
      · rw [Bool.eq_false_of_not_eq_true authorized, Bool.false_or] at runs
        exact handled_of_closing env draws state.cmdQueue _ consistent runs
  · rw [if_neg runs]
    exact bare

theorem meets_bare (state : State Queue) (computation : Except Check (State Queue)) (keeps : Keeps state computation)
    (bare : state.frame.Bare) : Meets Tolerated (fun after => after.frame.Bare) computation := by
  apply meets_weaken Tolerated _ _ _ _ (keeps_frame state _ keeps)
  intro after same
  rw [same]
  exact bare

theorem silent_of_unset (side : Side) (consistent : Consistent env side) (unset : side.url = "") :
    side.actors = [] ∧ side.unlinks = [] := by
  have callbacks := consistent.callbacks
  rw [if_pos unset] at callbacks
  exact ⟨List.length_eq_zero_iff.1 (by omega), List.length_eq_zero_iff.1 (by omega)⟩

theorem send_bare (draws : Draws) (query : Query) (state : State Queue) (consistent : Consistent env state.side)
    (bare : state.frame.Bare) (other : query.method ≠ "setwebhook")
    (harmless : HarmlessEvent env state (.send query, draws)) :
    Meets Tolerated (fun after => after.frame.Bare) (send env draws query state) := by
  apply loop_bare env draws { state with cmdQueue := state.cmdQueue ++ [query] } consistent _ harmless
  refine ⟨bare.url, bare.active, bare.webhookDb, fun waiting member => ?_⟩
  rcases List.mem_append.1 member with old | new
  · exact bare.waiting waiting old
  · rw [List.mem_singleton.1 new]
    exact other

theorem step_bare (draws : Draws) (state : State Queue) (event : Event) (consistent : Consistent env state.side)
    (bare : state.frame.Bare) (offered : enabled state event) (harmless : HarmlessEvent env state (event, draws))
    (others : ∀ query, event = .send query → query.method ≠ "setwebhook") :
    Meets (fun _ => True) (fun after => after.frame.Bare) (step env draws state event) := by
  obtain ⟨noActor, noUnlink⟩ := silent_of_unset env state.side consistent bare.url
  have noActorOf (token : Nat) (member : token ∈ state.webhookActors) : False := by
    rw [show state.webhookActors = [] from noActor] at member
    cases member
  cases event with
  | certificateCopied copied =>
      have noActive : state.activeWebhookSetQuery = none := bare.active
      change Meets _ _ (onWebhookCertificateCopied env draws copied _)
      unfold onWebhookCertificateCopied
      rw [noActive]
      exact trivial
  | send query =>
      exact meets_allow Tolerated _ _ _ (fun _ _ => trivial)
        (send_bare env draws query state consistent bare (others query rfl) harmless)
  | close => exact meets_allow Tolerated _ _ _ (fun _ _ => trivial) (meets_bare state _ (close_keeps draws state) bare)
  | authorizationReady =>
      have kept := ready_consistent env state.side consistent (not_retrying state offered.2.2.2.2)
      exact meets_allow Tolerated _ _ _ (fun _ _ => trivial)
        (loop_bare env draws { state with wasAuthorized := true } kept
          ⟨bare.url, bare.active, bare.webhookDb, bare.waiting⟩ (fun _ => harmless))
  | authorizationLoggingOut =>
      have kept := closing_consistent env state.side true state.closing consistent rfl
      exact meets_allow Tolerated _ _ _ (fun _ _ => trivial)
        (loop_bare env draws { state with loggingOut := true } kept ⟨bare.url, bare.active, bare.webhookDb, bare.waiting⟩
          (fun _ => handled_of_closing env draws state.cmdQueue _ kept rfl))
  | authorizationClosing =>
      have closing : (state.loggingOut || true) = true := Bool.or_true state.loggingOut
      have kept := closing_consistent env state.side state.loggingOut true consistent closing
      exact meets_allow Tolerated _ _ _ (fun _ _ => trivial)
        (loop_bare env draws { state with closing := true } kept ⟨bare.url, bare.active, bare.webhookDb, bare.waiting⟩
          (fun _ => handled_of_closing env draws state.cmdQueue _ kept closing))
  | authorizationClosed =>
      apply meets_allow Tolerated _ _ _ (fun _ _ => trivial)
      apply meets_weaken Tolerated _ _ _ _ (on_closed_meets env draws state consistent offered.2.2)
      rintro after ⟨⟨_, emptied⟩, webhookDb, removal, kept, reached⟩
      have none : webhookDb = none := by
        rcases kept with removed | ⟨same, _⟩
        · exact removed
        · exact same.trans bare.webhookDb
      refine ⟨?_, ?_, ?_, ?_⟩
      · exact (congrArg Side.url reached).trans bare.url
      · exact congrArg Side.active reached
      · exact (congrArg Side.webhookDb reached).trans none
      · intro query member
        rw [show after.frame.cmdQueue = [] from emptied] at member
        cases member
  | authorizationFailed code message =>
      obtain ⟨invalid, time, _, keeps⟩ := log_out_keeps env draws code message state
      exact meets_allow Tolerated _ _ _ (fun _ _ => trivial)
        (meets_bare _ _ keeps ⟨bare.url, bare.active, bare.webhookDb, bare.waiting⟩)
  | allowedUpdateTypesChanged types => exact bare
  | authorizationDateChanged date => exact bare
  | tdQueryAnswered query error =>
      cases error with
      | none => exact bare
      | some status => exact bare
  | addUpdate updateType json timeout webhookQueueId =>
      exact meets_allow Tolerated _ _ _ (fun _ _ => trivial)
        (meets_bare state _ (add_update_keeps env draws updateType json timeout webhookQueueId state) bare)
  | longPollTimeout =>
      exact meets_allow Tolerated _ _ _ (fun _ _ => trivial)
        (meets_bare state _ (long_poll_wakeup_keeps env draws true state) bare)
  | certificateUnlinked status =>
      have member : status ∈ state.side.unlinks := offered.2
      rw [noUnlink] at member
      cases member
  | webhookVerified token cachedIpAddress => exact (noActorOf token offered.2).elim
  | webhookClosed token status => exact (noActorOf token offered.2).elim
  | webhookHungUp token => exact (noActorOf token offered.2).elim
  | directoryRemoved =>
      apply meets_allow Tolerated _ _ _ (fun _ _ => trivial)
      apply meets_bare { state with directoryRemoval := false } _ (finish_closing_keeps env draws _
        (consistent.offline (consistent.removal offered.2)).1)
      exact ⟨bare.url, bare.active, bare.webhookDb, bare.waiting⟩
  | timeoutExpired => exact bare

end Absence

end TelegramBotApi.Client
