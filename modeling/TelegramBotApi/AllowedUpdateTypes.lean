import TelegramBotApi.SetWebhookSafety

set_option autoImplicit false

namespace TelegramBotApi.Client

open Checked

structure TypesView where
  allowed : Nat
  sent : List Nat
  asked : List Asked

def TypesView.ask (types : Nat) (view : TypesView) : TypesView :=
  let noted := { view with asked := view.asked ++ [⟨types, view.allowed, view.sent.getLast?⟩] }
  if types = view.allowed then noted else { noted with allowed := types, sent := view.sent ++ [types] }

inductive Asks (first : TypesView) : TypesView → Prop where
  | refl : Asks first first
  | ask (last : TypesView) (types : Nat) (before : Asks first last) : Asks first (last.ask types)

theorem asks_trans (first middle last : TypesView) (begins : Asks first middle) (ends : Asks middle last) :
    Asks first last := by
  induction ends with
  | refl => exact begins
  | ask last types _ ih => exact .ask last types ih

section Asking

variable {Queue : Type} (env : Environment Queue)

def State.types (state : State Queue) : TypesView := ⟨state.allowedUpdateTypes, sentTypes state.requests, state.asked⟩

def KeepsAsking (state : State Queue) (computation : Except Check (State Queue)) : Prop :=
  Meets (fun _ => True) (fun after => Asks state.types after.types) computation

theorem types_of_core (after state : State Queue) (same : after.core = state.core) : after.types = state.types :=
  congrArg (fun core => TypesView.mk core.allowedUpdateTypes core.sentTypes core.asked) same

theorem asking_of_keeps (state : State Queue) (computation : Except Check (State Queue)) (keeps : Keeps state computation) :
    KeepsAsking state computation := by
  apply meets_allow Tolerated _ _ _ (fun _ _ => trivial)
  apply meets_weaken Tolerated _ _ _ _ keeps
  intro after same
  rw [types_of_core after state same]
  exact .refl

theorem asking_bind (state : State Queue) (first : Except Check (State Queue)) (next : State Queue → Except Check (State Queue))
    (begins : KeepsAsking state first) (continues : ∀ after, KeepsAsking after (next after)) :
    KeepsAsking state (first >>= next) := by
  apply meets_bind _ _ _ first next begins
  intro after asked
  exact meets_weaken _ _ _ _ (fun _ more => asks_trans _ _ _ asked more) (continues after)

theorem asking_from (first state : State Queue) (computation : Except Check (State Queue)) (same : first.types = state.types)
    (keeps : KeepsAsking first computation) : KeepsAsking state computation := by
  apply meets_weaken _ _ _ _ _ keeps
  intro after asked
  rw [← same]
  exact asked

theorem types_of_request (types : Nat) :
    (Request.setAllowedUpdateTypes (if types = defaultAllowedUpdateTypes then none else some types)).types = some types := by
  by_cases isDefault : types = defaultAllowedUpdateTypes
  · rw [if_pos isDefault, isDefault]
    rfl
  · rw [if_neg isDefault]
    rfl

theorem update_allowed_update_types_asks (query : Query) (state : State Queue) (isOpen : state.side.isClosing = false) :
    Meets (fun _ => True) (fun result => Asks state.types result.2.types) (updateAllowedUpdateTypes env query state) := by
  unfold updateAllowedUpdateTypes
  extract_lets types source
  by_cases given : types = 0
  · rw [if_neg (fun both => both.1 given), State.ask, if_pos given]
    exact .refl
  · have noted : source =
        { state with asked := state.asked ++ [⟨types, state.allowedUpdateTypes, (sentTypes state.requests).getLast?⟩] } :=
      if_neg given
    have asked : Asks state.types (state.types.ask types) := .ask state.types types .refl
    by_cases changes : types = state.allowedUpdateTypes
    · rw [if_neg (fun both => both.2 changes)]
      rw [TypesView.ask, if_pos (show types = state.types.allowed from changes)] at asked
      change Asks state.types source.types
      rw [noted]
      exact asked
    · rw [if_pos ⟨given, changes⟩]
      have opened : ¬ (state.closing || state.loggingOut) = true := by
        rw [Bool.or_comm, show (state.loggingOut || state.closing) = false from isOpen]
        exact Bool.false_ne_true
      rw [TypesView.ask, if_neg (show ¬ types = state.types.allowed from changes)] at asked
      rw [noted]
      unfold sendRequest
      dsimp only
      rw [if_neg opened, doSendRequest, bind_assoc]
      apply meets_require _ _ _ _ _ (fun _ => trivial)
      intro _
      have sent := sent_types_append state.requests
        (.setAllowedUpdateTypes (if types = defaultAllowedUpdateTypes then none else some types))
      rw [types_of_request, Option.toList_some] at sent
      change Asks state.types ⟨types, sentTypes (state.requests ++ [_]), _⟩
      rw [sent]
      exact asked

theorem finish_set_webhook_asks (draws : Draws) (query : Query) (state : State Queue) :
    KeepsAsking state (finishSetWebhook env draws query state) := by
  apply meets_require _ _ _ _ _ (fun _ => trivial)
  intro _
  apply meets_require _ _ _ _ _ (fun _ => trivial)
  intro _
  apply meets_require _ _ _ _ _ (fun _ => trivial)
  intro _
  by_cases closing : (state.loggingOut || state.closing) = true
  · rw [if_pos closing]
    exact asking_of_keeps state _ (fail_query_closing_keeps draws query state)
  · rw [if_neg closing]
    apply meets_require _ _ _ _ _ (fun _ => trivial)
    intro _
    refine meets_bind _ _ _ _ _ (update_allowed_update_types_asks env query _ ?_) ?_
    · exact Bool.eq_false_of_not_eq_true closing
    rintro ⟨changed, updated⟩ asked
    apply meets_require _ _ _ _ _ (fun _ => trivial)
    intro _
    apply meets_require _ _ _ _ _ (fun _ => trivial)
    intro _
    exact asked

theorem set_certificate_asks (draws : Draws) (query : Query) (state : State Queue) :
    KeepsAsking state (setCertificate env draws query state) := by
  unfold setCertificate
  split
  · exact finish_set_webhook_asks env draws query _
  · split
    · exact finish_set_webhook_asks env draws query state
    · split
      · exact .refl
      · apply meets_require _ _ _ _ _ (fun _ => trivial)
        intro _
        exact .refl

theorem set_new_webhook_asks (draws : Draws) (query : Query) (state : State Queue) :
    KeepsAsking state (setNewWebhook env draws query state) := by
  unfold setNewWebhook
  split
  · exact .refl
  · split
    · exact .refl
    · apply meets_require _ _ _ _ _ (fun _ => trivial)
      intro _
      exact set_certificate_asks env draws query state

theorem do_set_webhook_asks (draws : Draws) (query : Query) (wasDeleted : Bool) (state : State Queue) :
    KeepsAsking state (doSetWebhook env draws query wasDeleted state) := by
  apply meets_require _ _ _ _ _ (fun _ => trivial)
  intro _
  split
  · exact asking_of_keeps state _ (fail_query_closing_keeps draws query state)
  · apply asking_bind
    · unfold clearPendingUpdates
      split
      · apply meets_require _ _ _ _ _ (fun _ => trivial)
        intro _
        exact .refl
      · exact .refl
    · intro cleared
      split
      · exact set_new_webhook_asks env draws query cleared
      · exact .refl

theorem on_webhook_certificate_copied_asks (draws : Draws) (copied : Bool) (state : State Queue) :
    KeepsAsking state (onWebhookCertificateCopied env draws copied state) := by
  unfold onWebhookCertificateCopied
  split
  · exact trivial
  · dsimp only
    split
    · exact finish_set_webhook_asks env draws _ _
    · exact .refl

theorem on_webhook_closed_asks (draws : Draws) (status : String) (state : State Queue) :
    KeepsAsking state (onWebhookClosed env draws status state) := by
  unfold onWebhookClosed
  dsimp only
  split
  · exact .refl
  · split
    · exact .refl
    · exact do_set_webhook_asks env draws _ true _

theorem webhook_closed_asks (draws : Draws) (status : String) (state : State Queue) :
    KeepsAsking state (webhookClosed env draws status state) := by
  unfold webhookClosed
  split
  · exact .refl
  · exact on_webhook_closed_asks env draws status state

theorem replace_webhook_asks (draws : Draws) (query : Query) (state : State Queue) :
    KeepsAsking state (replaceWebhook env draws query state) := by
  unfold replaceWebhook
  extract_lets aborted next
  have same : next.types = state.types := by
    change aborted.types = state.types
    unfold aborted
    split
    · exact types_of_core _ _ (abort_long_poll_core draws true state)
    · rfl
  apply asking_from next state _ same
  split
  · apply meets_require _ _ _ _ _ (fun _ => trivial)
    intro _
    exact .refl
  · exact do_set_webhook_asks env draws query false next

theorem start_set_webhook_asks (draws : Draws) (query : Query) (state : State Queue) (isOpen : state.side.isClosing = false) :
    KeepsAsking state (startSetWebhook env draws query state) := by
  unfold startSetWebhook
  split
  · apply asking_from _ state _ _ (replace_webhook_asks env draws query _)
    exact types_of_core _ { state with webhookSetQuery := none } (fail_query_conflict_core draws _ _ _)
  · split
    · exact .refl
    · split
      · apply meets_bind _ _ _ _ _ (update_allowed_update_types_asks env query state isOpen)
        rintro ⟨changed, updated⟩ asked
        cases changed with
        | true => exact asked
        | false => exact asked
      · exact replace_webhook_asks env draws query state

theorem process_set_webhook_asks (draws : Draws) (query : Query) (state : State Queue)
    (isOpen : state.side.isClosing = false) : KeepsAsking state (processSetWebhookQuery env draws query state) := by
  unfold processSetWebhookQuery
  split
  · exact .refl
  · exact start_set_webhook_asks env draws query _ isOpen

theorem process_get_updates_asks (draws : Draws) (query : Query) (state : State Queue)
    (isOpen : state.side.isClosing = false) : KeepsAsking state (processGetUpdatesQuery env draws query state) := by
  unfold processGetUpdatesQuery
  split
  · change Asks state.types (failQueryConflict draws _ query state).types
    rw [types_of_core _ _ (fail_query_conflict_core draws _ query state)]
    exact .refl
  · apply meets_bind _ _ _ _ _ (update_allowed_update_types_asks env query state isOpen)
    rintro ⟨changed, updated⟩ asked
    apply meets_weaken _ _ _ _ (fun _ more => asks_trans _ _ _ asked more)
    exact asking_of_keeps _ _ (do_get_updates_keeps env draws _ _ _ query _)

theorem on_cmd_asks (draws : Draws) (query : Query) (state : State Queue) : KeepsAsking state (onCmd env draws state query) := by
  unfold onCmd
  extract_lets online
  split
  · exact asking_of_keeps state _ (process_close_keeps env draws query state)
  · split
    · exact asking_of_keeps state _ (do_send_request_keeps .logOut _ rfl)
    · by_cases closing : (state.loggingOut || state.closing) = true
      · rw [if_pos closing]
        exact asking_of_keeps state _ (fail_query_closing_keeps draws query state)
      · rw [if_neg closing]
        have isOpen : state.side.isClosing = false := Bool.eq_false_of_not_eq_true closing
        apply meets_require _ _ _ _ _ (fun _ => trivial)
        intro _
        unfold processQuery
        split
        · exact process_get_updates_asks env draws query state isOpen
        · split
          · exact process_set_webhook_asks env draws query state isOpen
          · exact .refl

theorem loop_asks (draws : Draws) (state : State Queue) : KeepsAsking state (loop env draws state) := by
  unfold loop
  split
  · refine meets_foldlM _ (fun after : State Queue => Asks state.types after.types) _ _ _ .refl ?_
    intro before query _ asked
    exact meets_weaken _ _ _ _ (fun _ more => asks_trans _ _ _ asked more) (on_cmd_asks env draws query before)
  · exact .refl

theorem fail_set_query_asks (draws : Draws) (state : State Queue) : KeepsAsking state (failSetQuery draws state) := by
  unfold failSetQuery
  split
  · exact .refl
  · apply meets_allow Tolerated _ _ _ (fun _ _ => trivial)
    exact fail_member_meets draws _ _ state _ .refl (fun _ _ => .refl)

theorem fail_active_set_query_asks (draws : Draws) (state : State Queue) :
    KeepsAsking state (failActiveSetQuery draws state) := by
  unfold failActiveSetQuery
  split
  · exact .refl
  · apply meets_allow Tolerated _ _ _ (fun _ _ => trivial)
    exact fail_member_meets draws _ _ state _ .refl (fun _ _ => .refl)

theorem finish_closing_asks (draws : Draws) (state : State Queue) : KeepsAsking state (finishClosing env draws state) := by
  apply asking_bind
  · unfold clearLoggedOut
    split
    · apply meets_require _ _ _ _ _ (fun _ => trivial)
      intro _
      exact .refl
    · exact .refl
  · intro cleared
    change Asks cleared.types (stopOrWait draws cleared).types
    rw [types_of_core _ _ (stop_or_wait_core draws cleared)]
    exact .refl

theorem on_closed_asks (draws : Draws) (state : State Queue) : KeepsAsking state (onClosed env draws state) := by
  apply meets_require _ _ _ _ _ (fun _ => trivial)
  intro _
  apply meets_require _ _ _ _ _ (fun _ => trivial)
  intro _
  apply asking_from _ state _ (show State.types { state with tdClient := false } = state.types from rfl)
  apply asking_bind _ _ _ (fail_set_query_asks draws _)
  intro unset
  apply asking_bind _ _ _ (fail_active_set_query_asks draws unset)
  intro failed
  extract_lets reset
  apply asking_from reset failed _ (by unfold reset; split <;> rfl)
  apply asking_bind _ _ _ (asking_of_keeps _ _ (wake_long_poll_keeps env draws reset))
  intro woken
  apply asking_from _ woken _ (show State.types { woken with cmdQueue := [] } = woken.types from rfl)
  apply asking_bind _ _ _ (asking_of_keeps _ _ (drain_keeps draws woken.cmdQueue _))
  intro drained
  split
  · exact .refl
  · exact finish_closing_asks env draws drained

theorem step_asks (draws : Draws) (state : State Queue) (event : Event)
    (notEcho : ∀ types, event ≠ .allowedUpdateTypesChanged types) : KeepsAsking state (step env draws state event) := by
  cases event with
  | send query => exact loop_asks env draws _
  | close => exact asking_of_keeps state _ (close_keeps draws state)
  | authorizationReady => exact loop_asks env draws _
  | authorizationLoggingOut => exact loop_asks env draws _
  | authorizationClosing => exact loop_asks env draws _
  | authorizationClosed => exact on_closed_asks env draws state
  | authorizationFailed code message =>
      obtain ⟨invalid, time, _, keeps⟩ := log_out_keeps env draws code message state
      exact asking_of_keeps { state with isApiIdInvalid := invalid, nextAuthorizationTime := time } _ keeps
  | allowedUpdateTypesChanged types => exact absurd rfl (notEcho types)
  | authorizationDateChanged date => exact .refl
  | tdQueryAnswered query error =>
      cases error with
      | none => exact .refl
      | some status => exact .refl
  | addUpdate updateType json timeout webhookQueueId =>
      exact asking_of_keeps state _ (add_update_keeps env draws updateType json timeout webhookQueueId state)
  | longPollTimeout => exact asking_of_keeps state _ (long_poll_wakeup_keeps env draws true state)
  | certificateCopied copied => exact on_webhook_certificate_copied_asks env draws copied _
  | certificateUnlinked status => exact on_webhook_closed_asks env draws status _
  | webhookVerified token cachedIpAddress =>
      change Asks state.types (webhookVerified token cachedIpAddress state).types
      rcases webhook_verified_cases token cachedIpAddress state with ⟨_, kept⟩ | ⟨_, answers, saved⟩
      · rw [kept]
        exact .refl
      · rw [saved]
        exact .refl
  | webhookClosed token status => exact webhook_closed_asks env draws status _
  | webhookHungUp token => exact webhook_closed_asks env draws "Unknown" _
  | directoryRemoved => exact finish_closing_asks env draws _
  | timeoutExpired => exact .refl

-- A client with TDLib's answers: each value that was sent comes back in one
-- updateOption, in order. The value that TDLib keeps from an earlier session comes
-- before the first request is handled.
structure Echoing (Queue : Type) where
  client : State Queue
  initial : Nat
  delivered : Nat := 0

def Echoing.sent (echoing : Echoing Queue) : List Nat := sentTypes echoing.client.requests

def Echoing.pending (echoing : Echoing Queue) : List Nat := echoing.sent.drop echoing.delivered

def echoed : Event → Option Nat
  | .allowedUpdateTypesChanged types => some (types.getD defaultAllowedUpdateTypes)
  | _ => none

def echoingClient : Transition.Machine (Echoing Queue) (Event × Draws) Check where
  start echoing := ∃ started types, (client env).start started ∧
    echoing = { client := { started with allowedUpdateTypes := types }, initial := types }
  enabled echoing event := enabled echoing.client event.1 ∧
    ∀ types ∈ echoed event.1, echoing.pending.head? = some types
  step echoing event := do
    let after ← step env event.2 echoing.client event.1
    return { echoing with
      client := after
      delivered := if (echoed event.1).isSome then echoing.delivered + 1 else echoing.delivered }

instance (echoing : Echoing Queue) (event : Event × Draws) : Decidable ((echoingClient env).enabled echoing event) :=
  inferInstanceAs (Decidable (enabled echoing.client event.1 ∧ ∀ types ∈ echoed event.1, echoing.pending.head? = some types))

structure Synchronised (initial delivered : Nat) (view : TypesView) : Prop where
  bounded : delivered ≤ view.sent.length
  settled : delivered = view.sent.length → view.allowed = view.sent.getLast?.getD initial
  silent : view.asked = [] → view.sent = []
  last : ∀ entry, view.asked.getLast? = some entry →
    view.sent.getLast? = if entry.types = entry.allowed then entry.lastSent else some entry.types
  first : ∀ entry ∈ view.asked, entry.lastSent = none → entry.allowed = initial

theorem ask_synchronised (initial delivered types : Nat) (view : TypesView) (inv : Synchronised initial delivered view) :
    Synchronised initial delivered (view.ask types) := by
  have first : ∀ entry ∈ view.asked ++ [⟨types, view.allowed, view.sent.getLast?⟩],
      entry.lastSent = none → entry.allowed = initial := by
    intro entry member fresh
    rcases List.mem_append.1 member with old | new
    · exact inv.first entry old fresh
    · rw [List.mem_singleton.1 new] at fresh ⊢
      have noneSent : view.sent = [] := List.getLast?_eq_none_iff.1 fresh
      have bounded := inv.bounded
      rw [noneSent, List.length_nil, Nat.le_zero] at bounded
      have settled := inv.settled (by rw [noneSent]; exact bounded)
      rw [noneSent] at settled
      exact settled
  unfold TypesView.ask
  by_cases same : types = view.allowed
  · rw [if_pos same]
    refine ⟨inv.bounded, inv.settled, fun none => absurd none (List.append_ne_nil_of_right_ne_nil _ (List.cons_ne_nil _ _)),
      ?_, first⟩
    intro entry last
    rw [List.getLast?_concat, Option.some.injEq] at last
    rw [← last, if_pos same]
  · rw [if_neg same]
    refine ⟨?_, ?_, fun none => absurd none (List.append_ne_nil_of_right_ne_nil _ (List.cons_ne_nil _ _)), ?_, first⟩
    · exact inv.bounded.trans (by simp)
    · intro all
      have bounded := inv.bounded
      rw [List.length_append, List.length_singleton] at all
      omega
    · intro entry last
      rw [List.getLast?_concat, Option.some.injEq] at last
      rw [← last, if_neg same, List.getLast?_concat]

theorem asks_synchronised (initial delivered : Nat) (first last : TypesView) (inv : Synchronised initial delivered first)
    (asked : Asks first last) : Synchronised initial delivered last := by
  induction asked with
  | refl => exact inv
  | ask last types _ ih => exact ask_synchronised initial delivered types last ih

theorem echo_synchronised (initial delivered types : Nat) (view : TypesView) (inv : Synchronised initial delivered view)
    (next : (view.sent.drop delivered).head? = some types) :
    Synchronised initial (delivered + 1) { view with allowed := types } := by
  rw [List.head?_drop] at next
  have inside : delivered < view.sent.length := by
    by_contra outside
    rw [List.getElem?_eq_none (Nat.not_lt.1 outside)] at next
    cases next
  refine ⟨inside, fun all => ?_, inv.silent, inv.last, inv.first⟩
  have position : view.sent.length - 1 = delivered := by
    change delivered + 1 = view.sent.length at all
    omega
  change types = view.sent.getLast?.getD initial
  rw [List.getLast?_eq_getElem?, position, next]
  rfl

theorem step_synchronised (echoing : Echoing Queue) (event : Event × Draws)
    (inv : Synchronised echoing.initial echoing.delivered echoing.client.types)
    (offered : (echoingClient env).enabled echoing event) :
    Meets (fun _ => True) (fun after => Synchronised after.initial after.delivered after.client.types)
      ((echoingClient env).step echoing event) := by
  obtain ⟨event, draws⟩ := event
  cases kind : echoed event with
  | some types =>
      cases event with
      | allowedUpdateTypesChanged types =>
          exact echo_synchronised echoing.initial echoing.delivered _ echoing.client.types inv (offered.2 _ rfl)
      | _ => cases kind
  | none =>
      have notEcho (types : Option Nat) : event ≠ .allowedUpdateTypesChanged types := by
        rintro rfl
        cases kind
      apply meets_bind _ _ _ _ _ (step_asks env draws echoing.client event notEcho)
      intro after asked
      rw [kind]
      exact asks_synchronised echoing.initial echoing.delivered _ _ inv asked

theorem start_synchronised (echoing : Echoing Queue) (started : (echoingClient env).start echoing) :
    Synchronised echoing.initial echoing.delivered echoing.client.types := by
  obtain ⟨state, types, started, rfl⟩ := started
  have fresh : state.asked = [] ∧ sentTypes state.requests = [] := by
    obtain ⟨draws, tqueue, webhookDb, running | failed⟩ := started
    · rw [running]
      exact ⟨rfl, rfl⟩
    · have kept := meets_returns Tolerated _ _ state (finish_closing_keeps env draws _ rfl) failed
      exact ⟨congrArg Core.asked kept, congrArg Core.sentTypes kept⟩
  have view : State.types { state with allowedUpdateTypes := types } = ⟨types, [], []⟩ := by
    change TypesView.mk types (sentTypes state.requests) state.asked = _
    rw [fresh.1, fresh.2]
  rw [view]
  refine ⟨Nat.le_refl 0, fun _ => rfl, fun _ => rfl, ?_, ?_⟩
  · intro entry last
    cases last
  · intro entry member
    cases member

theorem reach_synchronised (meets : Transition.Condition (Echoing Queue) (Event × Draws)) (echoing : Echoing Queue)
    (reached : Transition.Reach (echoingClient env) meets echoing) :
    Synchronised echoing.initial echoing.delivered echoing.client.types := by
  apply Transition.reach_meets (echoingClient env) meets (fun _ => True)
    (fun echoing => Synchronised echoing.initial echoing.delivered echoing.client.types)
    (start_synchronised env) _ echoing reached
  intro before event inv offered _
  exact step_synchronised env before event inv offered

structure LastWins (echoing : Echoing Queue) : Prop where
  asked : echoing.client.allowedUpdateTypes = (echoing.client.asked.getLast?.map Asked.types).getD echoing.initial
  sent : echoing.client.allowedUpdateTypes = echoing.sent.getLast?.getD echoing.initial

def Effective (entry : Asked) : Prop :=
  entry.types = entry.allowed → entry.lastSent = none ∨ entry.lastSent = some entry.types

theorem last_allowed_updates_win_iff (echoing : Echoing Queue)
    (reached : Transition.Reach (echoingClient env) Transition.unrestricted echoing) (delivered : echoing.pending = []) :
    LastWins echoing ↔ ∀ last, echoing.client.asked.getLast? = some last → Effective last := by
  have inv := reach_synchronised env _ echoing reached
  have settled := inv.settled (Nat.le_antisymm inv.bounded (List.drop_eq_nil_iff.1 delivered))
  change echoing.client.allowedUpdateTypes = echoing.sent.getLast?.getD echoing.initial at settled
  cases last : echoing.client.asked.getLast? with
  | none =>
      have noneSent : echoing.sent = [] := inv.silent (List.getLast?_eq_none_iff.1 last)
      rw [noneSent] at settled
      constructor
      · intro _ entry found
        cases found
      · intro _
        exact ⟨by rw [last]; exact settled, by rw [noneSent]; exact settled⟩
  | some entry =>
      have lastSent : echoing.sent.getLast? = _ := inv.last entry last
      have initial := inv.first entry (List.mem_of_getLast? last)
      constructor
      · rintro ⟨wins, _⟩ other found skipped
        cases found
        rw [if_pos skipped] at lastSent
        rw [last, settled, lastSent] at wins
        cases sent : entry.lastSent with
        | none => exact .inl rfl
        | some types =>
            rw [sent] at wins
            exact .inr (congrArg some wins)
      · intro effective
        refine ⟨?_, settled⟩
        rw [last, settled, lastSent]
        by_cases skipped : entry.types = entry.allowed
        · rw [if_pos skipped]
          rcases effective entry rfl skipped with fresh | same
          · rw [fresh]
            exact (skipped.trans (initial fresh)).symm
          · rw [same]
            rfl
        · rw [if_neg skipped]
          rfl

end Asking

section Overtaken

def namesLibrary : Library := { plainLibrary with
  jsonDecode := fun text =>
    if text = "[\"message\"]" then some (.array [.string "message"])
    else if text = "[\"poll\"]" then some (.array [.string "poll"])
    else none }

def namesServer : Environment ListQueue := { plainServer with library := namesLibrary }

def pollTypes (id : Nat) (allowedUpdates : String) : Event × Draws :=
  (.send { id := id, method := "getupdates", args := [("allowed_updates", allowedUpdates)] }, {})

def echoTypes (types : Nat) : Event × Draws := (.allowedUpdateTypesChanged (some types), {})

def echoingStart : Echoing ListQueue where
  client := startedClient
  initial := defaultAllowedUpdateTypes

theorem echoing_started : (echoingClient namesServer).start echoingStart :=
  ⟨startedClient, defaultAllowedUpdateTypes, ⟨{}, ListQueue.empty 1, none, .inl rfl⟩, rfl⟩

-- The third request finds its own value, which the first echo brought back, and the
-- echo of the second request overwrites it.
theorem skipped_request_overtaken : ∃ echoing, Transition.Reach (echoingClient namesServer) Transition.unrestricted echoing ∧
    echoing.pending = [] ∧ ¬ LastWins echoing := by
  obtain ⟨echoing, reached, delivered, value, last⟩ := Transition.exists_reach (echoingClient namesServer) Transition.unrestricted
    (fun echoing => echoing.pending = [] ∧ echoing.client.allowedUpdateTypes = UpdateType.poll.bit ∧
      echoing.client.asked.getLast?.map Asked.types = some UpdateType.message.bit) echoingStart echoing_started
    [(.authorizationReady, {}), pollTypes 1 "[\"message\"]", pollTypes 2 "[\"poll\"]", echoTypes UpdateType.message.bit,
      pollTypes 3 "[\"message\"]", echoTypes UpdateType.poll.bit] (by decide +kernel)
  refine ⟨echoing, reached, delivered, fun wins => ?_⟩
  have same := wins.asked
  rw [value, last, Option.getD_some] at same
  exact absurd same (by decide)

theorem echoed_request_wins : ∃ echoing : Echoing ListQueue, LastWins echoing ∧
    echoing.client.allowedUpdateTypes = UpdateType.poll.bit := by
  obtain ⟨echoing, reached, delivered, value, effective⟩ :=
    Transition.exists_reach (echoingClient namesServer) Transition.unrestricted
    (fun echoing => echoing.pending = [] ∧ echoing.client.allowedUpdateTypes = UpdateType.poll.bit ∧
      echoing.client.asked.getLast? = some ⟨UpdateType.poll.bit, UpdateType.message.bit, some UpdateType.message.bit⟩)
    echoingStart echoing_started
    [(.authorizationReady, {}), pollTypes 1 "[\"message\"]", echoTypes UpdateType.message.bit,
      pollTypes 2 "[\"poll\"]", echoTypes UpdateType.poll.bit] (by decide +kernel)
  refine ⟨echoing, (last_allowed_updates_win_iff namesServer echoing reached delivered).2 ?_, value⟩
  intro last found
  rw [effective] at found
  cases found
  exact fun same => absurd same (by decide)

end Overtaken

end TelegramBotApi.Client
