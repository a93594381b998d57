import TelegramBotApi.SetWebhookSafety

set_option autoImplicit false

namespace TelegramBotApi.Client

open Checked

section Tracking

variable {Queue : Type} (env : Environment Queue)

def Side.Accounted (side : Side) : Prop :=
  side.webhookDb ≠ none → side.isClosing = true ∨ side.url ≠ "" ∨ side.active ≠ none

structure Side.Unset (side : Side) : Prop where
  isOpen : side.isClosing = false
  url : side.url = ""
  active : side.active = none

-- A request that finds no webhook replaces the entry, if there is one, and does not
-- store another one without setting a webhook.
def Harmless (draws : Draws) (query : Query) (state : State Queue) : Prop :=
  IsWebhookQuery query → state.side.Unset →
    (state.webhookDb ≠ none → Acceptable env query ∧ ¬ Limited draws query state) ∧ ¬ ChangesOnlyTypes env query state

theorem accounted_of_set (side : Side) (set : ¬ side.Unset) : side.Accounted := by
  intro _
  cases closing : side.isClosing with
  | true => exact .inl rfl
  | false =>
      by_cases url : side.url = ""
      · refine .inr (.inr (fun active => set ⟨closing, url, active⟩))
      · exact .inr (.inl url)

theorem outcome_accounted (query : Query) (before after : Side) (acceptable : before.webhookDb ≠ none → Acceptable env query)
    (outcome : SetOutcome env query before after) : after.Accounted := by
  cases outcome with
  | refused why =>
      intro entry
      rcases why with closing | refused
      · exact .inl closing
      · exact absurd (acceptable entry) refused
  | copying isOpen usable => exact fun _ => .inr (.inr (Option.some_ne_none query))
  | created token certificate isOpen usable => exact fun _ => .inr (.inl usable.given)

theorem processed_accounted (query : Query) (limited changesOnlyTypes : Prop) (before after : Side)
    (isOpen : before.isClosing = false)
    (harmless : before.Unset → (before.webhookDb ≠ none → Acceptable env query ∧ ¬ limited) ∧ ¬ changesOnlyTypes)
    (processed : Processed env query limited changesOnlyTypes before after) : after.Accounted := by
  cases processed with
  | kept why =>
      by_cases unset : before.Unset
      · intro entry
        obtain ⟨acceptable, unlimited⟩ := (harmless unset).1 entry
        rcases why with busy | active | refused | limit
        · exact absurd unset.url busy
        · rw [unset.active] at active
          cases active
        · exact absurd acceptable refused
        · exact absurd limit unlimited
      · exact accounted_of_set before unset
  | saved value stored why =>
      apply accounted_of_set
      rintro ⟨_, url, active⟩
      exact (harmless ⟨isOpen, url, active⟩).2 why
  | waiting authorized busy => exact fun _ => .inr (.inl busy)
  | set after authorized idle outcome =>
      apply outcome_accounted env query before after _ outcome
      intro entry
      exact ((harmless ⟨isOpen, idle.url, idle.active⟩).1 entry).1

theorem processed_stored (query : Query) (limited changesOnlyTypes : Prop) (before after : Side)
    (stored : before.webhookDb ≠ some "") (processed : Processed env query limited changesOnlyTypes before after) :
    after.webhookDb ≠ some "" := by
  cases processed with
  | kept why => exact stored
  | saved value given why => exact fun same => given (Option.some.inj same)
  | waiting authorized busy => exact stored
  | set after authorized idle outcome =>
      rw [outcome_keeps_db env query before after outcome]
      exact stored

theorem on_cmd_accounted (draws : Draws) (query : Query) (state : State Queue) (consistent : Consistent env state.side)
    (stored : state.side.webhookDb ≠ some "") (accounted : state.side.Accounted ∨ IsWebhookQuery query)
    (harmless : Harmless env draws query state) :
    Meets Tolerated
      (fun after => (Consistent env after.side ∧ after.side.webhookDb ≠ some "") ∧ after.side.Accounted)
      (onCmd env draws state query) := by
  apply meets_weaken Tolerated _ _ _ _ (on_cmd_meets env draws query state consistent)
  rintro after ⟨kept, processed⟩
  by_cases handled : IsWebhookQuery query ∧ state.side.isClosing = false
  · obtain ⟨webhook, isOpen⟩ := handled
    have done := processed webhook isOpen
    exact ⟨⟨processed_consistent env query _ _ state.side after.side consistent done,
      processed_stored env query _ _ state.side after.side stored done⟩,
      processed_accounted env query _ _ state.side after.side isOpen (harmless webhook) done⟩
  · have same := side_of_frame after state (kept handled)
    rw [same]
    refine ⟨⟨consistent, stored⟩, ?_⟩
    rcases accounted with known | webhook
    · exact known
    · exact accounted_of_set state.side (fun unset => handled ⟨webhook, unset.isOpen⟩)

def Awaited (queries : List Query) : Prop := ∃ query rest, queries = query :: rest ∧ IsWebhookQuery query

structure Tracked (state : State Queue) : Prop where
  consistent : Consistent env state.side
  stored : state.side.webhookDb ≠ some ""
  accounted : state.side.Accounted ∨ state.wasAuthorized = false ∧ Awaited state.cmdQueue

def HandledHarmlessly (draws : Draws) (queries : List Query) (state : State Queue) : Prop :=
  Along (fun state query => Harmless env draws query state) (onCmd env draws) state queries

theorem drain_tracked (draws : Draws) (queries : List Query) (state : State Queue) (consistent : Consistent env state.side)
    (stored : state.side.webhookDb ≠ some "") (accounted : state.side.Accounted ∨ Awaited queries)
    (harmless : HandledHarmlessly env draws queries state) :
    Meets Tolerated (Tracked env) (queries.foldlM (onCmd env draws) state) := by
  refine meets_weaken Tolerated _ _ _ ?_ (meets_foldlM_along Tolerated (fun state query => Harmless env draws query state)
    (fun rest state => (Consistent env state.side ∧ state.side.webhookDb ≠ some "") ∧
      (state.side.Accounted ∨ Awaited rest)) (onCmd env draws) queries state ⟨⟨consistent, stored⟩, accounted⟩ harmless ?_)
  · rintro after ⟨⟨kept, afterStored⟩, known | ⟨_, _, impossible, _⟩⟩
    · exact ⟨kept, afterStored, .inl known⟩
    · cases impossible
  · rintro query rest before ⟨⟨kept, beforeStored⟩, known⟩ met
    have webhook : before.side.Accounted ∨ IsWebhookQuery query := by
      rcases known with accounted | ⟨_, _, same, first⟩
      · exact .inl accounted
      · cases same
        exact .inr first
    apply meets_weaken Tolerated _ _ _ _ (on_cmd_accounted env draws query before kept beforeStored webhook met)
    rintro after ⟨inv, afterAccounted⟩
    exact ⟨inv, .inl afterAccounted⟩

theorem handled_of_closing (draws : Draws) (queries : List Query) (state : State Queue)
    (consistent : Consistent env state.side) (closing : state.side.isClosing = true) :
    HandledHarmlessly env draws queries state := by
  induction queries generalizing state with
  | nil => exact trivial
  | cons query rest ih =>
      refine ⟨fun _ unset => ?_, ?_⟩
      · have isOpen := unset.isOpen
        rw [closing] at isOpen
        cases isOpen
      · intro after done
        obtain ⟨kept, _⟩ := meets_returns Tolerated _ _ after (on_cmd_meets env draws query state consistent) done
        have same := side_of_frame after state (kept (fun both => by rw [closing] at both; cases both.2))
        exact ih after (same ▸ consistent) (same ▸ closing)

-- Requests are handled harmlessly, and the copy of a certificate does not fail
-- while there is an entry.
def HarmlessEvent (state : State Queue) (event : Event × Draws) : Prop :=
  match event.1 with
  | .send query =>
      state.wasAuthorized = true →
        HandledHarmlessly env event.2 (state.cmdQueue ++ [query]) { state with cmdQueue := [] }
  | .authorizationReady =>
      HandledHarmlessly env event.2 state.cmdQueue { state with wasAuthorized := true, cmdQueue := [] }
  | .certificateCopied copied => copied = true ∨ state.side.isClosing = true ∨ state.webhookDb = none
  | _ => True

theorem loop_tracked (draws : Draws) (state : State Queue) (consistent : Consistent env state.side)
    (stored : state.side.webhookDb ≠ some "") (accounted : state.side.Accounted ∨ Awaited state.cmdQueue)
    (harmless : state.wasAuthorized = true → HandledHarmlessly env draws state.cmdQueue { state with cmdQueue := [] }) :
    Meets Tolerated (Tracked env) (loop env draws state) := by
  unfold loop
  by_cases runs : (state.wasAuthorized || state.loggingOut || state.closing) = true
  · rw [if_pos runs]
    apply drain_tracked env draws state.cmdQueue { state with cmdQueue := [] } consistent stored accounted
    by_cases authorized : state.wasAuthorized = true
    · exact harmless authorized
    · rw [Bool.eq_false_of_not_eq_true authorized, Bool.false_or] at runs
      exact handled_of_closing env draws state.cmdQueue _ consistent runs
  · rw [if_neg runs]
    simp only [Bool.or_eq_true, not_or, Bool.not_eq_true] at runs
    refine ⟨consistent, stored, ?_⟩
    rcases accounted with known | awaited
    · exact .inl known
    · exact .inr ⟨runs.1.1, awaited⟩

theorem loop_unauthorized (draws : Draws) (state : State Queue) (consistent : Consistent env state.side)
    (unauthorized : state.wasAuthorized = false) :
    Meets Tolerated (fun after => after.wasAuthorized = false) (loop env draws state) := by
  by_cases closing : state.side.isClosing = true
  · refine meets_weaken Tolerated _ _ _ ?_ (loop_closing env draws state consistent closing)
    exact fun after kept => kept.2.1.trans unauthorized
  · have idle : ¬ (state.wasAuthorized || state.loggingOut || state.closing) = true := by
      rw [unauthorized, Bool.false_or]
      exact closing
    unfold loop
    rw [if_neg idle]
    exact unauthorized

theorem awaited_append (queries : List Query) (query : Query) (awaited : Awaited queries) : Awaited (queries ++ [query]) := by
  obtain ⟨first, rest, same, webhook⟩ := awaited
  exact ⟨first, rest ++ [query], by rw [same, List.cons_append], webhook⟩

theorem send_tracked (draws : Draws) (query : Query) (state : State Queue) (tracked : Tracked env state)
    (harmless : HarmlessEvent env state (.send query, draws)) :
    Meets Tolerated (Tracked env) (send env draws query state) := by
  apply loop_tracked env draws { state with cmdQueue := state.cmdQueue ++ [query] } tracked.consistent tracked.stored _ harmless
  rcases tracked.accounted with known | ⟨_, awaited⟩
  · exact .inl known
  · exact .inr (awaited_append state.cmdQueue query awaited)

theorem meets_tracked (state : State Queue) (computation : Except Check (State Queue)) (keeps : Keeps state computation)
    (tracked : Tracked env state) : Meets Tolerated (Tracked env) computation := by
  apply meets_weaken Tolerated _ _ _ _ keeps
  intro after kept
  have same : after.frame = state.frame := congrArg Core.toFrame kept
  have side := side_of_frame after state same
  have authorized : after.wasAuthorized = state.wasAuthorized := congrArg (fun frame => frame.wasAuthorized) same
  have queue : after.cmdQueue = state.cmdQueue := congrArg Frame.cmdQueue same
  exact ⟨side ▸ tracked.consistent, side ▸ tracked.stored, by rw [side, authorized, queue]; exact tracked.accounted⟩

theorem tracked_of_closing (state : State Queue) (consistent : Consistent env state.side)
    (stored : state.side.webhookDb ≠ some "") (closing : state.side.isClosing = true) : Tracked env state :=
  ⟨consistent, stored, .inl (fun _ => .inl closing)⟩

theorem removed_tracked (state : State Queue) (consistent : Consistent env state.side)
    (removed : state.side.webhookDb = none) : Tracked env state :=
  ⟨consistent, fun empty => (by cases removed.symm.trans empty), .inl (fun entry => absurd removed entry)⟩

theorem certificate_copied_tracked (draws : Draws) (copied : Bool) (state : State Queue) (tracked : Tracked env state)
    (copying : 0 < state.side.copies)
    (harmless : copied = true ∨ state.side.isClosing = true ∨ state.webhookDb = none) :
    Meets (fun _ => True) (Tracked env)
      (onWebhookCertificateCopied env draws copied { state with certificateCopies := state.certificateCopies - 1 }) := by
  cases running : state.side.tdClient with
  | false =>
      have noActive : state.activeWebhookSetQuery = none := (tracked.consistent.offline running).2
      unfold onWebhookCertificateCopied
      rw [noActive]
      exact trivial
  | true =>
      apply meets_allow Tolerated _ _ _ (fun _ _ => trivial)
      apply meets_weaken Tolerated _ _ _ _
        (on_webhook_certificate_copied_meets env draws copied state tracked.consistent running copying)
      rintro after ⟨consistent, db, set⟩
      refine ⟨consistent, db ▸ tracked.stored, .inl (fun entry => ?_)⟩
      have done : copied = true ∨ state.side.isClosing = true := by
        rcases harmless with copied | closing | absent
        · exact .inl copied
        · exact .inr closing
        · exact absurd (db.trans absent) entry
      rcases set done with closing | busy
      · exact .inl closing
      · exact .inr (.inl busy)

theorem webhook_verified_tracked (token : Nat) (cachedIpAddress : String) (state : State Queue) (tracked : Tracked env state)
    (busy : state.side.url ≠ "") : Tracked env (webhookVerified token cachedIpAddress state) := by
  have consistent := webhook_verified_consistent env token cachedIpAddress state tracked.consistent
  rcases webhook_verified_cases token cachedIpAddress state with ⟨_, kept⟩ | ⟨_, answers, saved⟩
  · rw [kept]
    exact tracked
  · rw [saved] at consistent ⊢
    exact ⟨consistent, fun empty => webhook_info_not_empty _ (Option.some.inj empty), .inl (fun _ => .inr (.inl busy))⟩

theorem webhook_closed_tracked (draws : Draws) (status : String) (before : Side) (state : State Queue)
    (consistent : Consistent env before) (busy : before.url ≠ "") (same : state.side = before.calledBack)
    (stored : state.side.webhookDb ≠ some "") : Meets Tolerated (Tracked env) (webhookClosed env draws status state) := by
  apply meets_weaken Tolerated _ _ _ _ (webhook_closed_meets env draws status before state consistent busy same)
  rintro after ⟨kept, ⟨url, db⟩ | removed⟩
  · exact ⟨kept, db ▸ stored, .inl (fun _ => .inr (.inl url))⟩
  · exact removed_tracked env after kept removed

theorem step_tracked (draws : Draws) (state : State Queue) (event : Event) (tracked : Tracked env state)
    (offered : enabled state event) (harmless : HarmlessEvent env state (event, draws)) :
    Meets (fun _ => True) (Tracked env) (step env draws state event) := by
  have consistent := tracked.consistent
  cases event with
  | certificateCopied copied => exact certificate_copied_tracked env draws copied state tracked offered.2 harmless
  | send query => exact meets_allow Tolerated _ _ _ (fun _ _ => trivial) (send_tracked env draws query state tracked harmless)
  | close => exact meets_allow Tolerated _ _ _ (fun _ _ => trivial) (meets_tracked env state _ (close_keeps draws state) tracked)
  | authorizationReady =>
      apply meets_allow Tolerated _ _ _ (fun _ _ => trivial)
      apply loop_tracked env draws { state with wasAuthorized := true }
        (ready_consistent env state.side consistent (not_retrying state offered.2.2.2.2)) tracked.stored _ (fun _ => harmless)
      rcases tracked.accounted with known | ⟨_, awaited⟩
      · exact .inl known
      · exact .inr awaited
  | authorizationLoggingOut =>
      apply meets_allow Tolerated _ _ _ (fun _ _ => trivial)
      exact loop_tracked env draws { state with loggingOut := true }
        (closing_consistent env state.side true state.closing consistent rfl) tracked.stored (.inl (fun _ => .inl rfl))
        (fun _ => handled_of_closing env draws state.cmdQueue _
          (closing_consistent env state.side true state.closing consistent rfl) rfl)
  | authorizationClosing =>
      have closing : (state.loggingOut || true) = true := Bool.or_true state.loggingOut
      apply meets_allow Tolerated _ _ _ (fun _ _ => trivial)
      exact loop_tracked env draws { state with closing := true }
        (closing_consistent env state.side state.loggingOut true consistent closing) tracked.stored
        (.inl (fun _ => .inl closing))
        (fun _ => handled_of_closing env draws state.cmdQueue _
          (closing_consistent env state.side state.loggingOut true consistent closing) closing)
  | authorizationClosed =>
      apply meets_allow Tolerated _ _ _ (fun _ _ => trivial)
      apply meets_weaken Tolerated _ _ _ _ (on_closed_meets env draws state consistent offered.2.2)
      rintro after ⟨⟨kept, _⟩, webhookDb, removal, same, reached⟩
      refine tracked_of_closing env after kept ?_ (by rw [reached]; exact offered.2.2)
      rw [reached]
      rcases same with none | ⟨old, _⟩
      · exact fun empty => by cases none.symm.trans empty
      · exact fun empty => tracked.stored (old.symm.trans empty)
  | authorizationFailed code message =>
      apply meets_allow Tolerated _ _ _ (fun _ _ => trivial)
      obtain ⟨invalid, time, kept, keeps⟩ := log_out_keeps env draws code message state
      have noted := noted_consistent env state code invalid time consistent offered.2.2.2.2 kept
      exact meets_tracked env _ _ keeps ⟨noted, tracked.stored, tracked.accounted⟩
  | allowedUpdateTypesChanged types => exact ⟨consistent, tracked.stored, tracked.accounted⟩
  | authorizationDateChanged date => exact ⟨consistent, tracked.stored, tracked.accounted⟩
  | tdQueryAnswered query error =>
      cases error with
      | none => exact ⟨consistent, tracked.stored, tracked.accounted⟩
      | some status => exact ⟨consistent, tracked.stored, tracked.accounted⟩
  | addUpdate updateType json timeout webhookQueueId =>
      exact meets_allow Tolerated _ _ _ (fun _ _ => trivial)
        (meets_tracked env state _ (add_update_keeps env draws updateType json timeout webhookQueueId state) tracked)
  | longPollTimeout =>
      exact meets_allow Tolerated _ _ _ (fun _ _ => trivial)
        (meets_tracked env state _ (long_poll_wakeup_keeps env draws true state) tracked)
  | certificateUnlinked status =>
      obtain ⟨busy, same⟩ := called_back_of_unlink env state.side consistent status offered.2
      apply meets_allow Tolerated _ _ _ (fun _ _ => trivial)
      apply meets_weaken Tolerated _ _ _ _ (on_webhook_closed_meets env draws status state.side _ consistent busy same)
      rintro after ⟨kept, removed⟩
      exact removed_tracked env after kept removed
  | webhookVerified token cachedIpAddress =>
      obtain ⟨busy, _⟩ := called_back_of_actor env state.side consistent token offered.2
      exact webhook_verified_tracked env token cachedIpAddress state tracked busy
  | webhookClosed token status =>
      obtain ⟨busy, same⟩ := called_back_of_actor env state.side consistent token offered.2
      exact meets_allow Tolerated _ _ _ (fun _ _ => trivial)
        (webhook_closed_tracked env draws status state.side _ consistent busy same tracked.stored)
  | webhookHungUp token =>
      obtain ⟨busy, same⟩ := called_back_of_actor env state.side consistent token offered.2
      exact meets_allow Tolerated _ _ _ (fun _ _ => trivial)
        (webhook_closed_tracked env draws "Unknown" state.side _ consistent busy same tracked.stored)
  | directoryRemoved =>
      have stopped := consistent.removal offered.2
      have kept : Consistent env { state.side with directoryRemoval := false } :=
        ⟨consistent.authorized, consistent.unretried, consistent.activeIdle, consistent.setBusy, consistent.idBusy,
          consistent.callbacks, consistent.copies, consistent.certificate, consistent.usable, consistent.online,
          consistent.offline, fun removing => by cases removing⟩
      apply meets_allow Tolerated _ _ _ (fun _ _ => trivial)
      apply meets_tracked env { state with directoryRemoval := false } _
        (finish_closing_keeps env draws _ (consistent.offline stopped).1)
      exact tracked_of_closing env _ kept tracked.stored (consistent.online stopped)
  | timeoutExpired => exact ⟨consistent, tracked.stored, tracked.accounted⟩

end Tracking

end TelegramBotApi.Client
