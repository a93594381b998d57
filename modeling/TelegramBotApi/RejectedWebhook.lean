import TelegramBotApi.RequestLedger

set_option autoImplicit false

namespace TelegramBotApi.Client

open Checked

section Rejection

variable {Queue : Type} (env : Environment Queue)

def rejection (query : Query) : Option String :=
  match invalidWebhook env query with
  | some message => some message
  | none =>
      if query.isInternal then none
      else
        match getWebhookCertificate query with
        | none => none
        | some file => if maxCertificateFileSize < file.size then some (certificateTooBig file.size) else none

structure RefusedFor (query : Query) (message : String) : Prop where
  given : newUrl query ≠ ""
  rejects : rejection env query = some message

-- drop_pending_updates is acted on before the arguments are looked at.
def droppedQueue (query : Query) (queue : Queue) : Queue :=
  if dropPendingUpdates query then env.tqueue.clear queue 0 else queue

def dropped (query : Query) (state : State Queue) : State Queue :=
  { state with tqueue := droppedQueue env query state.tqueue }

section Functions

variable (draws : Draws) (query : Query) (message : String) (rejected : RefusedFor env query message)
variable (state : State Queue)

include rejected

theorem method_of_rejected : query.method = "setwebhook" := by
  by_contra other
  have given := rejected.given
  simp [newUrl, other] at given

theorem set_new_webhook_rejected (noActive : state.activeWebhookSetQuery = none)
    (noCertificate : state.hasWebhookCertificate = false) :
    setNewWebhook env draws query state = .ok (state.answer query (.error 400 message)) := by
  have rejects := rejected.rejects
  cases invalid : invalidWebhook env query with
  | some text =>
      simp only [rejection, invalid, Option.some.injEq] at rejects
      simp [setNewWebhook, invalid, rejects]
  | none =>
      simp only [rejection, invalid] at rejects
      by_cases internal : query.isInternal = true
      · simp [internal] at rejects
      · cases uploaded : getWebhookCertificate query with
        | none => simp [internal, uploaded] at rejects
        | some file =>
            by_cases big : maxCertificateFileSize < file.size
            · have text : certificateTooBig file.size = message := by simpa [internal, uploaded, big] using rejects
              simp [setNewWebhook, invalid, noActive, require, noCertificate, setCertificate, internal, uploaded, big, text]
            · simp [internal, uploaded, big] at rejects

theorem do_set_webhook_rejected (wasDeleted : Bool) (idle : Idle state.side) (noId : state.webhookId = none)
    (isOpen : state.side.isClosing = false) (noCertificate : state.hasWebhookCertificate = false) :
    doSetWebhook env draws query wasDeleted state = .ok ((dropped env query state).answer query (.error 400 message)) := by
  have opened : (state.loggingOut || state.closing) = false := isOpen
  have url : state.webhookUrl = "" := idle.url
  have handled (cleared : State Queue) (same : cleared.frame = state.frame) :
      setNewWebhook env draws query cleared = .ok (cleared.answer query (.error 400 message)) := by
    apply set_new_webhook_rejected env draws query message rejected
    · exact (congrArg (fun frame => frame.active) same).trans idle.active
    · exact (congrArg (fun frame => frame.hasCertificate) same).trans noCertificate
  have clears : clearPendingUpdates env query state = .ok (dropped env query state) := by
    by_cases drops : dropPendingUpdates query = true
    · simp [clearPendingUpdates, dropped, droppedQueue, drops, clearTqueue, require, noId]
    · simp [clearPendingUpdates, dropped, droppedQueue, drops]
  simp [doSetWebhook, require, url, opened, clears, rejected.given, handled (dropped env query state) rfl]

theorem replace_webhook_rejected (idle : Idle state.side) (noId : state.webhookId = none)
    (isOpen : state.side.isClosing = false) (noCertificate : state.hasWebhookCertificate = false) :
    replaceWebhook env draws query state = .ok ((dropped env query { abortLongPoll draws true state with
      webhookGeneration := (abortLongPoll draws true state).webhookGeneration + 1 }).answer query (.error 400 message)) := by
  have core := abort_long_poll_core draws true state
  have same := side_of_core _ _ core
  have url : (abortLongPoll draws true state).webhookUrl = "" := (congrArg Side.url same).trans idle.url
  have handled := do_set_webhook_rejected env draws query message rejected { abortLongPoll draws true state with
    webhookGeneration := (abortLongPoll draws true state).webhookGeneration + 1 } false (same ▸ idle)
    ((congrArg Side.id same).trans noId) ((congrArg Side.isClosing same).trans isOpen)
    ((congrArg Side.hasCertificate same).trans noCertificate)
  unfold replaceWebhook
  rw [if_pos rejected.given]
  exact (if_neg (not_not.2 url)).trans handled

end Functions

def Frame.wait (query : Query) (frame : Frame) : Frame :=
  { frame with id := none, queryType := .cancel, setQuery := some query }

-- What handling the request does when its arguments are at fault; a request that is
-- answered in another way is not rejected.
inductive RejectionHandled (query : Query) (message : String) (before after : State Queue) : Prop where
  | otherwise (answer : Answer) (last : after.answers.getLast? = some (query, answer))
      (different : ∀ text, answer ≠ .error 400 text)
  | answered (unset : before.webhookUrl = "") (frame : after.frame = before.frame)
      (queue : after.tqueue = droppedQueue env query before.tqueue)
      (last : after.answers.getLast? = some (query, .error 400 message))
  | waits (set : before.webhookUrl ≠ "") (queue : after.tqueue = before.tqueue)
      (frame : after.frame = before.frame.wait query)

section Handling

variable (draws : Draws) (query : Query) (message : String) (rejected : RefusedFor env query message)

theorem last_answer (answer : Answer) (state : State Queue) :
    (state.answer query answer).answers.getLast? = some (query, answer) := by
  simp [State.answer]

@[simp] theorem fail_query_conflict_tqueue (text : String) (state : State Queue) :
    (failQueryConflict draws text query state).tqueue = state.tqueue := by
  unfold failQueryConflict
  split <;> rfl

@[simp] theorem abort_long_poll_tqueue (fromSetWebhook : Bool) (state : State Queue) :
    (abortLongPoll draws fromSetWebhook state).tqueue = state.tqueue := by
  unfold abortLongPoll
  split <;> simp

theorem replace_webhook_waits (state : State Queue) (set : state.webhookUrl ≠ "") :
    Meets (fun _ => True) (fun after => after.tqueue = state.tqueue ∧ after.frame = state.frame.wait query)
      (replaceWebhook env draws query state) := by
  unfold replaceWebhook
  extract_lets aborted next
  have same : next.tqueue = state.tqueue ∧ next.frame = state.frame := by
    change aborted.tqueue = state.tqueue ∧ aborted.frame = state.frame
    unfold aborted
    split
    · exact ⟨abort_long_poll_tqueue draws true state, congrArg Core.toFrame (abort_long_poll_core draws true state)⟩
    · exact ⟨rfl, rfl⟩
  have busy : next.webhookUrl ≠ "" := by
    rw [show next.webhookUrl = state.webhookUrl from congrArg (fun frame => frame.url) same.2]
    exact set
  rw [if_pos busy]
  apply meets_require _ _ _ _ _ (fun _ => trivial)
  intro _
  refine ⟨same.1, ?_⟩
  change next.frame.wait query = _
  rw [same.2]

include rejected

theorem start_set_webhook_rejected (state : State Queue) (consistent : Consistent env state.side)
    (isOpen : state.side.isClosing = false) :
    Meets (fun _ => True) (RejectionHandled env query message state) (startSetWebhook env draws query state) := by
  unfold startSetWebhook
  cases waiting : state.webhookSetQuery with
  | some previous =>
      have set : state.webhookUrl ≠ "" := consistent.setBusy (by
        rw [show state.side.setQuery = some previous from waiting]
        exact Option.some_ne_none previous)
      have failed := congrArg Core.toFrame (fail_query_conflict_core draws "Conflict: terminated by other setWebhook" previous
        { state with webhookSetQuery := none })
      refine meets_weaken _ _ _ _ ?_ (replace_webhook_waits env draws query _ ?_)
      · rintro after ⟨queue, frame⟩
        refine .waits set (by simpa using queue) (frame.trans ?_)
        rw [show (failQueryConflict draws _ previous _).frame = _ from failed]
        rfl
      · rw [show (failQueryConflict draws _ previous _).webhookUrl = _ from congrArg (fun frame => frame.url) failed]
        exact set
  | none =>
      dsimp only
      by_cases active : state.activeWebhookSetQuery.isSome = true
      · rw [if_pos active]
        exact .otherwise (.retryAfter 1) (last_answer query _ state) (fun text impossible => by cases impossible)
      · rw [if_neg active]
        by_cases notModified : isNotModified env query state = true
        · rw [if_pos notModified]
          apply meets_read
          rintro ⟨changed, updated⟩
          exact .otherwise (.ok _) (last_answer query _ _) (fun text impossible => by cases impossible)
        · rw [if_neg notModified]
          by_cases set : state.webhookUrl = ""
          · have idle := idle_of_consistent env state.side consistent set (Option.not_isSome_iff_eq_none.1 active)
            rw [replace_webhook_rejected env draws query message rejected state idle
              (no_id_of_consistent env state.side consistent set) isOpen
              (no_certificate_of_consistent env state.side consistent set isOpen)]
            refine .answered set ?_ ?_ (last_answer query _ _)
            · exact congrArg Core.toFrame (abort_long_poll_core draws true state)
            · exact congrArg (droppedQueue env query) (abort_long_poll_tqueue draws true state)
          · apply meets_weaken _ _ _ _ _ (replace_webhook_waits env draws query state set)
            rintro after ⟨queue, frame⟩
            exact .waits set queue frame

theorem process_set_webhook_rejected (state : State Queue) (consistent : Consistent env state.side)
    (isOpen : state.side.isClosing = false) :
    Meets (fun _ => True) (RejectionHandled env query message state) (processSetWebhookQuery env draws query state) := by
  unfold processSetWebhookQuery
  split
  · exact .otherwise (.retryAfter 1) (last_answer query _ state) (fun text impossible => by cases impossible)
  · refine meets_weaken _ _ _ _ ?_ (start_set_webhook_rejected env draws query message rejected _ consistent isOpen)
    intro after handled
    cases handled with
    | otherwise answer last different => exact .otherwise answer last different
    | answered unset frame queue last => exact .answered unset frame queue last
    | waits set queue frame => exact .waits set queue frame

theorem on_cmd_rejected (state : State Queue) (consistent : Consistent env state.side)
    (isOpen : state.side.isClosing = false) :
    Meets (fun _ => True) (RejectionHandled env query message state) (onCmd env draws state query) := by
  have method := method_of_rejected env query message rejected
  have opened : (state.loggingOut || state.closing) = false := isOpen
  unfold onCmd
  simp only [method, opened, String.reduceEq, and_false, if_false, Bool.false_eq_true]
  apply meets_require _ _ _ _ _ (fun _ => trivial)
  intro _
  simp only [processQuery, method, String.reduceEq, if_false, true_or, if_true]
  exact process_set_webhook_rejected env draws query message rejected state consistent isOpen

theorem on_webhook_closed_rejected (status : String) (before : Side) (state bare : State Queue)
    (consistent : Consistent env before) (busy : before.url ≠ "") (same : state.side = before.calledBack)
    (waiting : state.webhookSetQuery = some query) (cancel : state.webhookQueryType = .cancel)
    (isOpen : state.side.isClosing = false)
    (alone : onWebhookClosed env draws status { state with webhookSetQuery := none } = .ok bare) :
    onWebhookClosed env draws status state = .ok ((dropped env query bare).answer query (.error 400 message)) := by
  have idle := forget_idle env before consistent busy
  rw [← same] at idle
  cases alone
  unfold onWebhookClosed
  rw [waiting, cancel]
  exact do_set_webhook_rejected env draws query message rejected _ true ⟨rfl, rfl, idle.active⟩ rfl isOpen rfl

end Handling

def loopInput (state : State Queue) : Event → Option (State Queue)
  | .send query => some { state with cmdQueue := state.cmdQueue ++ [query] }
  | .authorizationReady => some { state with wasAuthorized := true }
  | .authorizationLoggingOut => some { state with loggingOut := true }
  | .authorizationClosing => some { state with closing := true }
  | _ => none

def ClosesWebhook : Event → Prop
  | .webhookClosed _ _ | .webhookHungUp _ | .certificateUnlinked _ => True
  | _ => False

structure RejectionSettled (state : State Queue) : Prop where
  handled : ∀ event draws input, enabled state event → loopInput state event = some input →
    step env draws state event = loop env draws input ∧
    Along (fun before query => ∀ message, RefusedFor env query message → before.side.isClosing = false →
        Meets (fun _ => True) (RejectionHandled env query message before) (onCmd env draws before query))
      (onCmd env draws) { input with cmdQueue := [] } input.cmdQueue
  closed : ∀ event draws query message bare, enabled state event → ClosesWebhook event → RefusedFor env query message →
    state.webhookSetQuery = some query → state.webhookQueryType = .cancel → state.side.isClosing = false →
    step env draws { state with webhookSetQuery := none } event = .ok bare →
    step env draws state event = .ok { bare with webhookSetQuery := some query } ∨
    step env draws state event = .ok ((dropped env query bare).answer query (.error 400 message))

theorem input_consistent (state input : State Queue) (event : Event) (consistent : Consistent env state.side)
    (offered : enabled state event) (found : loopInput state event = some input) : Consistent env input.side := by
  cases event <;> simp only [loopInput, Option.some.injEq, reduceCtorEq] at found
  · exact found ▸ consistent
  · exact found ▸ ready_consistent env state.side consistent (not_retrying state offered.2.2.2.2)
  · exact found ▸ closing_consistent env state.side true state.closing consistent rfl
  · exact found ▸ closing_consistent env state.side state.loggingOut true consistent (Bool.or_true state.loggingOut)

theorem step_of_input (draws : Draws) (state input : State Queue) (event : Event) (found : loopInput state event = some input) :
    step env draws state event = loop env draws input := by
  cases event <;> simp only [loopInput, Option.some.injEq, reduceCtorEq] at found
  all_goals exact found ▸ rfl

theorem webhook_closed_rejected (draws : Draws) (query : Query) (message : String) (rejected : RefusedFor env query message)
    (status : String) (before : Side) (state bare : State Queue)
    (consistent : Consistent env before) (busy : before.url ≠ "") (same : state.side = before.calledBack)
    (waiting : state.webhookSetQuery = some query) (cancel : state.webhookQueryType = .cancel)
    (isOpen : state.side.isClosing = false)
    (alone : webhookClosed env draws status { state with webhookSetQuery := none } = .ok bare) :
    webhookClosed env draws status state = .ok { bare with webhookSetQuery := some query } ∨
    webhookClosed env draws status state = .ok ((dropped env query bare).answer query (.error 400 message)) := by
  unfold webhookClosed at alone ⊢
  by_cases certificate : state.hasWebhookCertificate = true
  · rw [if_pos certificate] at alone ⊢
    cases alone
    rw [← waiting]
    exact .inl rfl
  · rw [if_neg certificate] at alone ⊢
    exact .inr (on_webhook_closed_rejected env draws query message rejected status before state bare consistent busy same
      waiting cancel isOpen alone)

theorem rejected_webhook_settled (state : State Queue)
    (reached : Transition.Reach (client env) Transition.unrestricted state) : RejectionSettled env state := by
  have consistent := reach_consistent env Transition.unrestricted state reached
  refine ⟨?_, ?_⟩
  · intro event draws input offered found
    refine ⟨step_of_input env draws state input event found, ?_⟩
    apply along_of_inv _ (fun before : State Queue => Consistent env before.side)
    · exact input_consistent env state input event consistent offered found
    · intro before query held message rejected isOpen
      exact on_cmd_rejected env draws query message rejected before held isOpen
    · intro before query held
      exact meets_allow Tolerated _ _ _ (fun _ _ => trivial) (on_cmd_consistent env draws query before held)
  · intro event draws query message bare offered closes rejected waiting cancel isOpen alone
    cases event with
    | certificateUnlinked status =>
        obtain ⟨busy, same⟩ := called_back_of_unlink env state.side consistent status offered.2
        exact .inr (on_webhook_closed_rejected env draws query message rejected status state.side _ bare consistent busy
          same waiting cancel isOpen alone)
    | webhookClosed token status =>
        obtain ⟨busy, same⟩ := called_back_of_actor env state.side consistent token offered.2
        exact webhook_closed_rejected env draws query message rejected status state.side _ bare consistent busy same
          waiting cancel isOpen alone
    | webhookHungUp token =>
        obtain ⟨busy, same⟩ := called_back_of_actor env state.side consistent token offered.2
        exact webhook_closed_rejected env draws query message rejected "Unknown" state.side _ bare consistent busy same
          waiting cancel isOpen alone
    | _ => exact closes.elim

end Rejection

section Refusals

def refusal : String := "Bad Request: secret token contains unallowed characters"

def refusedQuery (drop : String) : Query where
  id := 7
  method := "setwebhook"
  args := [("url", "https://example.org"), ("secret_token", "not allowed"), ("drop_pending_updates", drop)]

def pendingClient : State ListQueue := startUp {} ((ListQueue.empty 1).append "a" 100 0) none

def later : Draws where
  now := 10 * second

theorem pending_client_started : (client plainServer).start pendingClient := ⟨{}, _, none, .inl rfl⟩

def settingEvents : List (Event × Draws) :=
  [(.authorizationReady, {}), (.send (webhookQuery 6 "setwebhook"), {}), (.webhookVerified 2 "", {})]

-- Without the request nothing would have happened in either run.
theorem rejected_webhook_changes_state :
    (∃ before after : State ListQueue, Transition.Reach (client plainServer) Transition.unrestricted before ∧
      Transition.Follows (client plainServer) Transition.unrestricted before [(.send (refusedQuery "true"), {})] after ∧
      after.answers.getLast? = some (refusedQuery "true", .error 400 refusal) ∧
      before.side.isClosing = false ∧ before.tqueue.events ≠ [] ∧ after.tqueue.events = []) ∧
    (∃ before after : State ListQueue, Transition.Reach (client plainServer) Transition.unrestricted before ∧
      Transition.Follows (client plainServer) Transition.unrestricted before
        [(.send (refusedQuery ""), later), (.webhookClosed 2 "Canceled", later)] after ∧
      after.answers.getLast? = some (refusedQuery "", .error 400 refusal) ∧
      before.side.isClosing = false ∧ (before.webhookUrl = "https://example.org" ∧ before.webhookDb ≠ none) ∧
      after.webhookUrl = "" ∧ after.webhookDb = none) := by
  constructor
  · exact Transition.exists_run (client plainServer) Transition.unrestricted _ pendingClient pending_client_started
      [(.authorizationReady, {})] _ (by decide +kernel)
  · exact Transition.exists_run (client plainServer) Transition.unrestricted _ pendingClient pending_client_started
      settingEvents _ (by decide +kernel)

theorem waiting_rejection_settled : ∃ state : State ListQueue,
    (state.webhookUrl = "https://example.org" ∧ state.webhookSetQuery = some (refusedQuery "")) ∧
    RejectionSettled plainServer state := by
  obtain ⟨state, reached, waiting⟩ := Transition.exists_reach (client plainServer) Transition.unrestricted
    (fun state => state.webhookUrl = "https://example.org" ∧ state.webhookSetQuery = some (refusedQuery ""))
    pendingClient pending_client_started (settingEvents ++ [(.send (refusedQuery ""), later)]) (by decide +kernel)
  exact ⟨state, waiting, rejected_webhook_settled plainServer state reached⟩

end Refusals

end TelegramBotApi.Client
