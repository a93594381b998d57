import TelegramBotApi.SetWebhookSafety

set_option autoImplicit false

namespace TelegramBotApi.Client

open Checked

section LoggedOut

variable {Queue : Type} (env : Environment Queue)

structure Erased (side : Side) : Prop where
  stopped : side.tdClient = false
  loggingOut : side.loggingOut = true
  setQuery : side.setQuery = none
  webhookDb : side.webhookDb = none

def NoNewAddress (state : State Queue) (event : Event × Draws) : Prop :=
  ∀ token cachedIpAddress, event.1 = .webhookVerified token cachedIpAddress →
    state.tdClient = false → state.loggingOut = true →
      token ≠ state.webhookGeneration ∨ cachedIpAddress = state.webhookIpAddress

theorem meets_erased (state : State Queue) (computation : Except Check (State Queue)) (keeps : Keeps state computation)
    (erased : Erased state.side) : Meets (fun _ => True) (fun after => Erased after.side) computation := by
  apply meets_allow Tolerated _ _ _ (fun _ _ => trivial)
  apply meets_weaken Tolerated _ _ _ _ (keeps_side state _ keeps)
  intro after same
  rw [same]
  exact erased

theorem on_webhook_closed_erased (draws : Draws) (status : String) (state : State Queue) (erased : Erased state.side) :
    Meets (fun _ => True) (fun after => Erased after.side) (onWebhookClosed env draws status state) := by
  have unset : state.webhookSetQuery = none := erased.setQuery
  unfold onWebhookClosed
  dsimp only
  split
  · exact ⟨erased.stopped, erased.loggingOut, erased.setQuery, rfl⟩
  · rename_i query waiting
    cases unset.symm.trans waiting

theorem webhook_closed_erased (draws : Draws) (status : String) (state : State Queue) (erased : Erased state.side) :
    Meets (fun _ => True) (fun after => Erased after.side) (webhookClosed env draws status state) := by
  unfold webhookClosed
  split
  · exact ⟨erased.stopped, erased.loggingOut, erased.setQuery, erased.webhookDb⟩
  · exact on_webhook_closed_erased env draws status state erased

theorem webhook_verified_erased (token : Nat) (cachedIpAddress : String) (state : State Queue) (erased : Erased state.side)
    (known : token ≠ state.webhookGeneration ∨ cachedIpAddress = state.webhookIpAddress) :
    webhookVerified token cachedIpAddress state = state := by
  rcases webhook_verified_cases token cachedIpAddress state with ⟨_, kept⟩ | ⟨current, answers, saved⟩
  · exact kept
  · have same := known.resolve_left (not_not.2 current)
    have unset : state.webhookSetQuery = none := erased.setQuery
    unfold webhookVerified
    rw [if_neg (not_not.2 current)]
    simp only [unset, same, Option.isSome_none, ne_eq, not_true_eq_false, decide_false, Bool.or_self, Bool.false_eq_true,
      if_false]
    rw [← unset]

theorem step_erased (draws : Draws) (state : State Queue) (event : Event) (consistent : Consistent env state.side)
    (erased : Erased state.side) (offered : enabled state event) (known : NoNewAddress state (event, draws)) :
    Meets (fun _ => True) (fun after => Erased after.side) (step env draws state event) := by
  have closing : state.side.isClosing = true := consistent.online erased.stopped
  have offline (running : state.tdClient = true) : False := by
    cases running.symm.trans erased.stopped
  cases event with
  | send query =>
      apply meets_allow Tolerated _ _ _ (fun _ _ => trivial)
      apply meets_weaken Tolerated _ _ _ _ (loop_closing env draws { state with cmdQueue := state.cmdQueue ++ [query] }
        consistent closing)
      intro after kept
      rw [kept.1]
      exact erased
  | close => exact meets_erased state _ (close_keeps draws state) erased
  | longPollTimeout => exact meets_erased state _ (long_poll_wakeup_keeps env draws true state) erased
  | certificateCopied copied =>
      have noActive : state.activeWebhookSetQuery = none := (consistent.offline erased.stopped).2
      change Meets _ _ (onWebhookCertificateCopied env draws copied _)
      unfold onWebhookCertificateCopied
      rw [noActive]
      exact trivial
  | certificateUnlinked status =>
      exact on_webhook_closed_erased env draws status _
        ⟨erased.stopped, erased.loggingOut, erased.setQuery, erased.webhookDb⟩
  | webhookVerified token cachedIpAddress =>
      have same := webhook_verified_erased token cachedIpAddress state erased
        (known token cachedIpAddress rfl erased.stopped erased.loggingOut)
      change Erased (webhookVerified token cachedIpAddress state).side
      rw [same]
      exact erased
  | webhookClosed token status =>
      exact webhook_closed_erased env draws status _
        ⟨erased.stopped, erased.loggingOut, erased.setQuery, erased.webhookDb⟩
  | webhookHungUp token =>
      exact webhook_closed_erased env draws "Unknown" _
        ⟨erased.stopped, erased.loggingOut, erased.setQuery, erased.webhookDb⟩
  | directoryRemoved =>
      exact meets_erased { state with directoryRemoval := false } _
        (finish_closing_keeps env draws _ (consistent.offline erased.stopped).1)
        ⟨erased.stopped, erased.loggingOut, erased.setQuery, erased.webhookDb⟩
  | timeoutExpired => exact erased
  | authorizationReady => exact (offline offered.2.1).elim
  | authorizationFailed code message => exact (offline offered.2.1).elim
  | authorizationLoggingOut => exact (offline offered.2).elim
  | authorizationClosing => exact (offline offered.2).elim
  | allowedUpdateTypesChanged types => exact (offline offered.2).elim
  | authorizationDateChanged date => exact (offline offered.2).elim
  | addUpdate updateType json timeout webhookQueueId => exact (offline offered.2).elim
  | authorizationClosed => exact (offline offered.2.1).elim
  | tdQueryAnswered query error => exact (offline offered.2.1).elim

theorem logged_out_webhook_stays_erased (before closed later : State Queue) (draws : Draws)
    (taken : Transition.StepOf (client env) NoNewAddress before (.authorizationClosed, draws) closed)
    (loggedOut : before.loggingOut = true)
    (continued : Transition.Reach ((client env).startingFrom closed) NoNewAddress later) : later.webhookDb = none := by
  obtain ⟨reached, offered, _, done⟩ := taken
  have consistent := reach_consistent env NoNewAddress before reached
  obtain ⟨⟨kept, _⟩, webhookDb, removal, db, ended⟩ := meets_returns Tolerated _ _ closed
    (on_closed_meets env draws before consistent offered.2.2) done
  have erased : Erased closed.side := by
    rw [ended]
    refine ⟨rfl, loggedOut, rfl, ?_⟩
    rcases db with none | ⟨_, stays⟩
    · exact none
    · cases stays.symm.trans loggedOut
  have both : Consistent env later.side ∧ Erased later.side := by
    apply Transition.reach_meets ((client env).startingFrom closed) NoNewAddress (fun _ => True)
      (fun later => Consistent env later.side ∧ Erased later.side) _ _ later continued
    · rintro _ rfl
      exact ⟨kept, erased⟩
    · rintro state event ⟨stateConsistent, stateErased⟩ stateOffered known
      exact meets_and _ _ _ _ (step_keeps_consistent env event.2 state event.1 stateConsistent stateOffered)
        (step_erased env event.2 state event.1 stateConsistent stateErased stateOffered known)
  exact both.2.webhookDb

end LoggedOut

section LateVerification

def verifiedClient : State ListQueue := runEvents plainServer startedClient
  [(.authorizationReady, {}), (.send (webhookQuery 1 "setwebhook"), {}), (.webhookVerified 2 "10.0.0.1", {})]

theorem verified_client_reached (meets : Transition.Condition (State ListQueue) (Event × Draws))
    (met : ∀ state event, state.tdClient = true → meets state event) :
    Transition.Reach (client plainServer) meets verifiedClient := by
  apply Transition.reach_follows (client plainServer) _ [(.authorizationReady, {}),
    (.send (webhookQuery 1 "setwebhook"), {}), (.webhookVerified 2 "10.0.0.1", {})] startedClient _
    (.start _ started_client)
  exact ⟨⟨rfl, rfl, rfl, rfl, Int.le_refl 0⟩, met _ _ rfl, _, rfl, ⟨rfl, trivial⟩, met _ _ rfl, _, rfl,
    ⟨rfl, List.mem_singleton.2 rfl⟩, met _ _ rfl, _, rfl, rfl⟩

def loggingOutClient : State ListQueue := runEvents plainServer verifiedClient [(.authorizationLoggingOut, {})]

def loggedOutClient : State ListQueue := runEvents plainServer loggingOutClient [(.authorizationClosed, {})]

theorem logged_out_step (meets : Transition.Condition (State ListQueue) (Event × Draws))
    (met : ∀ state event, state.tdClient = true → meets state event) :
    Transition.StepOf (client plainServer) meets loggingOutClient (.authorizationClosed, {}) loggedOutClient := by
  refine ⟨?_, ⟨rfl, rfl, rfl⟩, met _ _ rfl, rfl⟩
  exact .next _ _ (.authorizationLoggingOut, {}) (verified_client_reached meets met) ⟨rfl, rfl⟩ (met _ _ rfl) rfl

-- The webhook was verified with another address just before the session ended.
theorem late_verification_stores_webhook : ∃ before closed later draws,
    Transition.StepOf (client plainServer) Transition.unrestricted before (.authorizationClosed, draws) closed ∧
    before.loggingOut = true ∧
    Transition.Reach ((client plainServer).startingFrom closed) Transition.unrestricted later ∧ later.webhookDb ≠ none := by
  refine ⟨loggingOutClient, loggedOutClient, runEvents plainServer loggedOutClient [(.webhookVerified 2 "10.0.0.2", {})], {},
    logged_out_step _ (fun _ _ _ => trivial), rfl, ?_, Option.some_ne_none _⟩
  exact .next _ _ (.webhookVerified 2 "10.0.0.2", {}) (.start _ rfl) ⟨rfl, List.mem_singleton.2 rfl⟩ trivial rfl

theorem verified_again_stays_erased :
    (runEvents plainServer loggedOutClient [(.webhookVerified 2 "10.0.0.1", {}), (.webhookClosed 2 "Closed", {})]).webhookDb =
      none := by
  have running (state : State ListQueue) (event : Event × Draws) (online : state.tdClient = true) : NoNewAddress state event := by
    intro token cachedIpAddress _ stopped
    cases online.symm.trans stopped
  apply logged_out_webhook_stays_erased plainServer loggingOutClient loggedOutClient _ {} (logged_out_step _ running) rfl
  apply Transition.reach_follows ((client plainServer).startingFrom loggedOutClient) _
    [(.webhookVerified 2 "10.0.0.1", {}), (.webhookClosed 2 "Closed", {})] loggedOutClient _ (.start _ rfl)
  refine ⟨⟨rfl, List.mem_singleton.2 rfl⟩, ?_, _, rfl, ⟨rfl, List.mem_singleton.2 rfl⟩, ?_, _, rfl, rfl⟩
  · intro token cachedIpAddress same _ _
    cases same
    exact .inr rfl
  · intro token cachedIpAddress same
    cases same

end LateVerification

end TelegramBotApi.Client
