import TelegramBotApi.WebhookWakeup

set_option autoImplicit false

namespace TelegramBotApi.WebhookActor

open Checked Tables

section Stall

variable {TQueueState Flood : Type} (env : Environment TQueueState Flood)

def Due (resolvedAt : Nat) (state : State TQueueState Flood) : Prop :=
  AddressDue resolvedAt state.standing ∨ Idle env state

-- A verified webhook is stranded when its TLS context could not be created, or
-- when there is something to deliver but no address and none on the way.
def neverStranded : Transition.Condition (State TQueueState Flood) (Event TQueueState) := fun state event =>
  match event with
  | .update draws => Due env draws.resolvedAt { state with tqueueEmpty := false }
  | .wakeup draws | .socketReady _ _ draws => Due env draws.resolvedAt state
  | .sslContextCreated created draws =>
      (created = false → state.wasChecked = false) ∧ Due env draws.resolvedAt state
  | .resolvedIpAddress result _ => state.wasChecked = true → state.ipAddress = none →
      (∃ address, result.bind (checkIpAddress env) = .ok address) ∨ Idle env state
  | event => ∀ draws, draws ∈ event.draws → AddressDue draws.resolvedAt state.standing

theorem idle_of_core (before after : State TQueueState Flood) (sameCore : after.core = before.core)
    (sameEmpty : after.tqueueEmpty = before.tqueueEmpty) (idle : Idle env before) : Idle env after := by
  have sameQueues : after.queues = before.queues := congrArg Core.queues sameCore
  have sameTqueue : after.tqueue = before.tqueue := congrArg Core.tqueue sameCore
  rw [Idle, sameQueues, sameEmpty, sameTqueue]
  exact idle

theorem due_of_settling (resolvedAt : Nat) (before after : Standing) (settling : Settling before after)
    (sameChecked : after.wasChecked = before.wasChecked) (due : AddressDue resolvedAt before) :
    AddressDue resolvedAt after := by
  have sameAddress : after.ipAddress = before.ipAddress := by rw [settling.same]
  have sameResolving : after.isIpAddressBeingResolved = before.isIpAddressBeingResolved := by rw [settling.same]
  have sameTime : after.nextIpAddressResolveTime = before.nextIpAddressResolveTime := by rw [settling.same]
  rw [AddressDue, sameChecked, sameAddress, sameResolving, sameTime]
  exact due.imp_left settling.stops

theorem due_of_addressed (resolvedAt : Nat) (standing : Standing) (addressed : Addressed standing) :
    AddressDue resolvedAt standing := by
  rcases addressed with stop | present | resolving
  · exact .inl stop
  · exact .inr (.inr (.inl present))
  · exact .inr (.inr (.inr (.inl resolving)))

theorem on_error_checked (error : String) (state : State TQueueState Flood) :
    Meets (fun _ => True)
      (fun after => after.wasChecked = state.wasChecked ∧ after.tqueueEmpty = state.tqueueEmpty) (onError error state) := by
  unfold onError
  split
  · exact meets_require _ _ _ _ _ (fun _ => trivial) fun _ => ⟨rfl, rfl⟩
  · exact ⟨rfl, rfl⟩

theorem on_webhook_error_tqueue_empty (error : String) (state : State TQueueState Flood) :
    (onWebhookError error state).tqueueEmpty = state.tqueueEmpty := by
  unfold onWebhookError
  split <;> rfl

theorem relax_wakeup_at_tqueue_empty (wakeupAt : Int) (state : State TQueueState Flood) :
    (relaxWakeupAt wakeupAt state).tqueueEmpty = state.tqueueEmpty := by
  unfold relaxWakeupAt
  split <;> rfl

theorem stopped_wakeable (before after : Standing) (wakeable : Wakeable env before) (stop : after.stopFlag = true)
    (sameEnds : after.loopEnds = before.loopEnds) : Wakeable env after :=
  ⟨fun _ => .inl stop, fun _ => .inl stop, .inl stop, sameEnds ▸ wakeable.reported⟩

theorem resolution_wakeable (before : Standing) (address : Option IpAddress) (nextResolve : Int)
    (wakeable : Wakeable env before)
    (known : address.isSome = true ∨ before.wasChecked = true ∧ address = before.ipAddress) :
    Wakeable env { before with
      ipAddress := address, isIpAddressBeingResolved := false, nextIpAddressResolveTime := nextResolve } := by
  rcases known with present | ⟨checked, rfl⟩
  · exact ⟨fun _ => .inr present, wakeable.ssl, .inr (.inl present), wakeable.reported⟩
  · exact ⟨wakeable.fixed, wakeable.ssl, .inr (.inr (.inl checked)), wakeable.reported⟩

theorem loop_stays_ready (draws : Draws) (state : State TQueueState Flood) (ready : Ready env state)
    (headers : ∀ attempt, draws.headerFinishes attempt = true) (started : state.startedAt ≤ draws.resolvedAt)
    (due : Due env draws.resolvedAt state) : Meets (fun _ => True) (Ready env) (loop env draws state) :=
  meets_weaken _ _ _ _ (fun _ outcome => outcome.1) (loop_ready env draws state ready headers started due)

theorem on_error_loop_ready (error : String) (draws : Draws) (before state : State TQueueState Flood)
    (ready : Ready env before) (sameCore : state.core = before.core) (sameEnds : state.loopEnds = before.loopEnds)
    (headers : ∀ attempt, draws.headerFinishes attempt = true) (started : state.startedAt ≤ draws.resolvedAt)
    (checked : state.wasChecked = true → Wakeable env state.standing ∧ Due env draws.resolvedAt state) :
    Meets (fun _ => True) (Ready env) (onError error state >>= loop env draws) := by
  have core := on_error_core error state
  have settles := on_error_settling error state
  have same := on_error_checked error state
  refine meets_bind _ _ _ _ _ (meets_and _ _ _ _ core (meets_and _ _ _ _ settles same)) ?_
  rintro failed ⟨keptCore, ⟨settling, _, stops⟩, keptChecked, keptEmpty⟩
  have sound : Sound env failed.core := by
    rw [keptCore, sameCore]
    exact ready.1
  have sameStart : failed.standing.startedAt = state.standing.startedAt := by rw [settling.same]
  have startedFailed : failed.startedAt ≤ draws.resolvedAt := le_of_eq_of_le sameStart started
  by_cases verified : state.wasChecked = true
  · obtain ⟨wakeable, due⟩ := checked verified
    have dueFailed : Due env draws.resolvedAt failed :=
      due.imp (due_of_settling draws.resolvedAt state.standing failed.standing settling keptChecked)
        (idle_of_core env state failed keptCore keptEmpty)
    exact loop_stays_ready env draws failed ⟨sound, settling_wakeable env _ _ wakeable settling⟩ headers startedFailed
      dueFailed
  · have stop : failed.stopFlag = true := stops (Bool.eq_false_iff.2 verified)
    have keptEnds : failed.standing.loopEnds = state.standing.loopEnds := by rw [settling.same]
    have wakeable := stopped_wakeable env before.standing failed.standing ready.2 stop (keptEnds.trans sameEnds)
    exact loop_stays_ready env draws failed ⟨sound, wakeable⟩ headers startedFailed (.inl (.inl stop))

theorem on_resolved_ip_address_ready (result : Except String (Option IpAddress)) (draws : Draws)
    (state : State TQueueState Flood) (ready : Ready env state)
    (headers : ∀ attempt, draws.headerFinishes attempt = true) (started : state.startedAt ≤ draws.resolvedAt)
    (found : state.wasChecked = true → state.ipAddress = none →
      (∃ address, result.bind (checkIpAddress env) = .ok address) ∨ Idle env state) :
    Meets (fun _ => True) (Ready env) (onResolvedIpAddress env result draws state) := by
  unfold onResolvedIpAddress
  refine meets_require _ _ _ _ _ (fun _ => trivial) fun _ => ?_
  dsimp only
  generalize (draws.resolvedAt : Int) + (ipAddressCacheTime + draws.cacheTimeShift) * second = nextResolve
  have sameCore := relax_wakeup_at_core nextResolve
    { state with isIpAddressBeingResolved := false, nextIpAddressResolveTime := nextResolve }
  have sameStanding := relax_wakeup_at_standing nextResolve
    { state with isIpAddressBeingResolved := false, nextIpAddressResolveTime := nextResolve }
  have sameEmpty := relax_wakeup_at_tqueue_empty nextResolve
    { state with isIpAddressBeingResolved := false, nextIpAddressResolveTime := nextResolve }
  generalize relaxWakeupAt nextResolve { state with
    isIpAddressBeingResolved := false, nextIpAddressResolveTime := nextResolve } = timed at sameCore sameStanding sameEmpty
  have sameAddress : timed.ipAddress = state.ipAddress := congrArg Standing.ipAddress sameStanding
  have sameChecked : timed.wasChecked = state.wasChecked := congrArg Standing.wasChecked sameStanding
  have sameEnds : timed.loopEnds = state.loopEnds := congrArg Standing.loopEnds sameStanding
  have sameStart : timed.startedAt = state.startedAt := congrArg Standing.startedAt sameStanding
  have soundTimed : Sound env timed.core := by
    rw [sameCore]
    exact ready.1
  split
  · rename_i error failure
    refine on_error_loop_ready env error draws state timed ready sameCore sameEnds headers (sameStart ▸ started) ?_
    intro checked
    have checkedBefore : state.wasChecked = true := sameChecked.symm.trans checked
    have wakeable := resolution_wakeable env state.standing state.ipAddress nextResolve ready.2 (.inr ⟨checkedBefore, rfl⟩)
    refine ⟨sameStanding ▸ wakeable, ?_⟩
    by_cases missing : state.ipAddress = none
    · rcases found checkedBefore missing with ⟨address, succeeded⟩ | idle
      · rw [failure] at succeeded
        cases succeeded
      · exact .inr (idle_of_core env state timed sameCore sameEmpty idle)
    · have present : timed.ipAddress.isSome = true := by
        rw [sameAddress]
        exact Option.isSome_iff_ne_none.2 missing
      exact .inl (.inr (.inr (.inl present)))
  · rename_i address success
    have wakeable := resolution_wakeable env state.standing (some address) nextResolve ready.2 (.inl rfl)
    split
    · rename_i unchanged
      have kept : timed.standing = { state.standing with
          ipAddress := some address, isIpAddressBeingResolved := false, nextIpAddressResolveTime := nextResolve } := by
        rw [sameStanding, ← unchanged, sameAddress]
        rfl
      have present : timed.ipAddress.isSome = true := by rw [unchanged]; rfl
      exact loop_stays_ready env draws timed ⟨soundTimed, kept ▸ wakeable⟩ headers (sameStart ▸ started)
        (.inl (.inr (.inr (.inl present))))
    · have kept : { timed.standing with ipAddress := some address } = { state.standing with
          ipAddress := some address, isIpAddressBeingResolved := false, nextIpAddressResolveTime := nextResolve } := by
        rw [sameStanding]
        rfl
      have wakeableChanged : Wakeable env { timed.standing with ipAddress := some address } := kept ▸ wakeable
      have due : AddressDue draws.resolvedAt { timed.standing with ipAddress := some address } := .inr (.inr (.inl rfl))
      split
      · exact loop_stays_ready env draws _ ⟨soundTimed, wakeableChanged⟩ headers (sameStart ▸ started) (.inl due)
      · exact loop_stays_ready env draws _ ⟨soundTimed, wakeableChanged⟩ headers (sameStart ▸ started) (.inl due)

theorem on_ssl_context_created_ready (created : Bool) (draws : Draws) (state : State TQueueState Flood)
    (ready : Ready env state) (headers : ∀ attempt, draws.headerFinishes attempt = true)
    (started : state.startedAt ≤ draws.resolvedAt) (due : Due env draws.resolvedAt state)
    (trusted : created = false → state.wasChecked = false) :
    Meets (fun _ => True) (Ready env) (onSslContextCreated env created draws state) := by
  have wakeable := ready.2
  unfold onSslContextCreated
  dsimp only
  split
  · have wakeableCreated : Wakeable env { state.standing with sslContextRunning := false, sslCtx := true } :=
      ⟨wakeable.fixed, fun _ => .inr (.inl rfl), wakeable.address, wakeable.reported⟩
    exact loop_stays_ready env draws _ ⟨ready.1, wakeableCreated⟩ headers started due
  · rename_i failed
    have unchecked := trusted (by simpa using failed)
    have frame := on_webhook_error_frame "Can't create an SSL context: SSL error" { state with sslContextRunning := false }
    have sameCore := on_webhook_error_core "Can't create an SSL context: SSL error" { state with sslContextRunning := false }
    refine on_error_loop_ready env "SSL error" draws state _ ready sameCore (congrArg Standing.loopEnds frame.1) headers
      (le_of_eq_of_le (congrArg Standing.startedAt frame.1) started) ?_
    intro checked
    have same := congrArg Standing.wasChecked frame.1
    exact absurd ((same.symm.trans checked).symm.trans unchecked) (Bool.noConfusion)

theorem on_socket_ready_async_ready (id : Nat) (opened : Bool) (draws : Draws) (state : State TQueueState Flood)
    (ready : Ready env state) (headers : ∀ attempt, draws.headerFinishes attempt = true)
    (started : state.startedAt ≤ draws.resolvedAt) (due : Due env draws.resolvedAt state) :
    Meets (fun _ => True) (Ready env) (onSocketReadyAsync env id opened draws state) := by
  unfold onSocketReadyAsync
  dsimp only
  split
  · exact loop_stays_ready env draws _ ready headers started due
  · have frame := on_webhook_error_frame "Socket error" { state with pendingSockets := state.pendingSockets.erase id }
    have sameCore := on_webhook_error_core "Socket error" { state with pendingSockets := state.pendingSockets.erase id }
    refine on_error_loop_ready env "Socket error" draws state _ ready sameCore (congrArg Standing.loopEnds frame.1) headers
      (le_of_eq_of_le (congrArg Standing.startedAt frame.1) started) ?_
    have sameEmpty := on_webhook_error_tqueue_empty "Socket error"
      { state with pendingSockets := state.pendingSockets.erase id }
    intro _
    rw [Due, frame.1]
    exact ⟨ready.2, due.imp_right (idle_of_core env state _ sameCore sameEmpty)⟩

theorem read_verdict_standing (response : Option Response) (ipGeneration : Int) (draws : Draws)
    (state : State TQueueState Flood) :
    (readVerdict response ipGeneration draws state).2.standing = state.standing := by
  cases response with
  | none => rfl
  | some received =>
      change (readResponse received ipGeneration draws state).2.standing = state.standing
      unfold readResponse
      dsimp only
      split
      · split
        · split <;> rfl
        · exact (on_webhook_error_frame _ _).1
      · exact (on_webhook_error_frame _ _).1

theorem drop_event_standing (eventId : EventId) (reason : Reason) (state : State TQueueState Flood) :
    Meets (fun _ => True) (fun after => after.standing = state.standing) (dropEvent env eventId reason state) := by
  unfold dropEvent
  split
  · exact trivial
  · dsimp only
    split
    · exact trivial
    · exact trivial
    · exact meets_require _ _ _ _ _ (fun _ => trivial) fun _ => rfl
    · refine meets_require _ _ _ _ _ (fun _ => trivial) fun _ => ?_
      split
      · exact trivial
      · exact rfl

theorem finish_update_standing (connectionId : ConnectionId) (eventId : Option EventId) (verdict : Verdict)
    (draws : Draws) (state : State TQueueState Flood) :
    Meets (fun _ => True) (fun after => after.standing = state.standing)
      (finishUpdate env connectionId eventId verdict draws state) := by
  unfold finishUpdate
  split
  · rename_i eventId accepted
    unfold onUpdateOk
    refine meets_require _ _ _ _ _ (fun _ => trivial) fun _ => ?_
    exact drop_event_standing env eventId _ { state with lastUpdateWasSuccessful := true, lastSuccessTime := draws.handledAt }
  · rename_i eventId error failed
    unfold onUpdateError
    split
    · exact trivial
    · dsimp only
      split
      · exact drop_event_standing env eventId _ { state with lastUpdateWasSuccessful := false }
      · exact rfl
  · exact meets_require _ _ _ _ _ (fun _ => trivial) fun _ => rfl

theorem release_connection_standing (connectionId : ConnectionId) (close : Bool) (ipGeneration : Int)
    (state : State TQueueState Flood) :
    Meets (fun _ => True) (fun after => after.standing = state.standing)
      (releaseConnection connectionId close ipGeneration state) := by
  unfold releaseConnection
  split
  · exact rfl
  · exact meets_require _ _ _ _ _ (fun _ => trivial) fun _ => rfl

theorem finish_and_release_standing (connectionId : ConnectionId) (eventId : Option EventId) (verdict : Verdict)
    (close : Bool) (ipGeneration : Int) (draws : Draws) (state : State TQueueState Flood) :
    Meets (fun _ => True) (fun after => after.standing = state.standing)
      (finishUpdate env connectionId eventId verdict draws state >>= releaseConnection connectionId close ipGeneration) :=
  meets_bind _ _ _ _ _ (finish_update_standing env connectionId eventId verdict draws state) fun finished same =>
    meets_weaken _ _ _ _ (fun _ kept => kept.trans same)
      (release_connection_standing connectionId close ipGeneration finished)

theorem handle_ready (connectionId : ConnectionId) (response : Option Response) (draws : Draws)
    (state : State TQueueState Flood) (ready : Ready env state)
    (headers : ∀ attempt, draws.headerFinishes attempt = true) (started : state.startedAt ≤ draws.resolvedAt)
    (due : AddressDue draws.resolvedAt state.standing) :
    Meets (fun _ => True) (fun after => Ready env after ∧ after.startedAt = state.startedAt ∧
      (after.standing = state.standing ∨ Addressed after.standing)) (handle env connectionId response draws state) := by
  unfold handle
  split
  · exact ⟨ready, rfl, .inl rfl⟩
  · rename_i connection found
    have sameCore := read_verdict_core response connection.ipGeneration draws state
    have sameStanding := read_verdict_standing response connection.ipGeneration draws state
    have succeeded := read_verdict_succeeded response connection.ipGeneration draws state
    generalize readVerdict response connection.ipGeneration draws state = outcome at sameCore sameStanding succeeded
    obtain ⟨verdict, told⟩ := outcome
    dsimp only at sameCore sameStanding succeeded ⊢
    rw [← bind_assoc]
    have advances := finish_and_release_advances env (fun _ => True) False connectionId connection response verdict
      (verdict.needClose || verdict.closeConnection) draws state told ready.1 found sameCore succeeded
    refine meets_bind _ _ _ _ _ (meets_and _ _ _ _ advances (finish_and_release_standing env _ _ _ _ _ _ _)) ?_
    rintro released ⟨advanced, kept⟩
    have same : released.standing = state.standing := kept.trans sameStanding
    have readyReleased : Ready env released := ⟨advanced.sound, same ▸ ready.2⟩
    have sameStart : released.startedAt = state.startedAt := congrArg Standing.startedAt same
    split
    · exact ⟨readyReleased, sameStart, .inl same⟩
    · refine meets_weaken _ _ _ _ (fun after outcome => ?_) (loop_ready env draws released readyReleased headers
        (sameStart ▸ started) (.inl (same ▸ due)))
      exact ⟨outcome.1, outcome.2.1.trans sameStart, .inr (outcome.2.2 (same ▸ due))⟩

theorem step_ready (state : State TQueueState Flood) (event : Event TQueueState) (ready : Ready env state)
    (enables : enabled env state event) (headers : headersFinish state event) (stranded : neverStranded env state event) :
    Meets (fun _ => True) (Ready env) (step env state event) := by
  have clock := enables.2.1
  cases event with
  | tqueueChanged tqueue => exact ⟨tqueue_changed_sound env state.core tqueue ready.1 enables.2.2, ready.2⟩
  | update draws =>
      exact loop_stays_ready env draws { state with tqueueEmpty := false } ready (headers draws (List.mem_singleton.2 rfl))
        (clock draws (List.mem_singleton.2 rfl)) stranded
  | wakeup draws =>
      exact loop_stays_ready env draws state ready (headers draws (List.mem_singleton.2 rfl))
        (clock draws (List.mem_singleton.2 rfl)) stranded
  | resolvedIpAddress result draws =>
      exact on_resolved_ip_address_ready env result draws state ready (headers draws (List.mem_singleton.2 rfl))
        (clock draws (List.mem_singleton.2 rfl)) stranded
  | sslContextCreated created draws =>
      exact on_ssl_context_created_ready env created draws state ready (headers draws (List.mem_singleton.2 rfl))
        (clock draws (List.mem_singleton.2 rfl)) stranded.2 stranded.1
  | socketReady id opened draws =>
      exact on_socket_ready_async_ready env id opened draws state ready (headers draws (List.mem_singleton.2 rfl))
        (clock draws (List.mem_singleton.2 rfl)) stranded
  | response connectionId response draws =>
      have handled := handle_ready env connectionId (some response) draws state ready
        (headers draws (List.mem_singleton.2 rfl)) (clock draws (List.mem_singleton.2 rfl))
        (stranded draws (List.mem_singleton.2 rfl))
      exact meets_weaken _ _ _ _ (fun _ outcome => outcome.1) handled
  | hangupShared connectionId draws later =>
      have memberLater : later ∈ [draws, later] := List.mem_cons_of_mem _ (List.mem_singleton.2 rfl)
      refine meets_bind _ _ _ _ _ (handle_ready env connectionId none draws state ready (headers draws List.mem_cons_self)
        (clock draws List.mem_cons_self) (stranded draws List.mem_cons_self)) ?_
      rintro handled ⟨readyHandled, sameStart, either⟩
      split
      · exact readyHandled
      · have due : AddressDue later.resolvedAt handled.standing := by
          rcases either with same | addressed
          · exact same ▸ stranded later memberLater
          · exact due_of_addressed _ _ addressed
        exact loop_stays_ready env later handled readyHandled (headers later memberLater)
          (sameStart ▸ clock later memberLater) (.inl due)
  | hangup => exact ready
  | close => exact ready

structure Begun (state : State TQueueState Flood) : Prop where
  unchecked : state.wasChecked = false
  unlooped : state.loopEnds = []
  resolves : env.settings.fromDb = true ∨ state.nextIpAddressResolveTime ≤ state.startedAt

theorem initial_begun (draws : Draws) (tqueue : TQueueState) : Begun env (initialState env draws tqueue) := by
  refine ⟨rfl, rfl, ?_⟩
  by_cases restored : env.settings.fromDb = true
  · exact .inl restored
  · right
    simp only [initialState, if_neg restored, ipAddressCacheTime, second]
    omega

theorem on_error_begun (error : String) (state : State TQueueState Flood) (begun : Begun env state) :
    Meets (fun _ => True) (fun after => Begun env after ∧ after.stopFlag = true) (onError error state) := by
  have settles := on_error_settling error state
  refine meets_weaken _ _ _ _ (fun after both => ?_) (meets_and _ _ _ _ settles (on_error_checked error state))
  obtain ⟨⟨settling, _, stops⟩, checked, _⟩ := both
  have ends : after.standing.loopEnds = state.standing.loopEnds := by rw [settling.same]
  have time : after.standing.nextIpAddressResolveTime = state.standing.nextIpAddressResolveTime := by rw [settling.same]
  have start : after.standing.startedAt = state.standing.startedAt := by rw [settling.same]
  refine ⟨⟨checked.trans begun.unchecked, ends.trans begun.unlooped, ?_⟩, stops begun.unchecked⟩
  refine begun.resolves.imp_right fun early => ?_
  change after.standing.nextIpAddressResolveTime ≤ after.standing.startedAt
  rw [time, start]
  exact early

theorem check_url_begun (state : State TQueueState Flood) (begun : Begun env state) :
    Meets (fun _ => True) (Begun env) (checkUrl env state) := by
  have failing (error : String) : Meets (fun _ => True) (Begun env) (onError error state) :=
    meets_weaken _ _ _ _ (fun _ both => both.1) (on_error_begun env error state begun)
  unfold checkUrl
  split
  · exact begun
  · split
    · exact failing _
    · split
      · exact begun
      · exact failing _

theorem nothing_reported (state : State TQueueState Flood) (begun : Begun env state) (ended : LoopEnd)
    (member : ended ∈ state.standing.loopEnds) : ended.stopFlag = false → ended.queues ≠ [] → Woken ended := by
  change ended ∈ state.loopEnds at member
  rw [begun.unlooped] at member
  cases member

theorem fixed_ip_address_known (state : State TQueueState Flood) (accepted : fixedIpAddressError env state = none)
    (fixes : env.settings.fixIpAddress = true) : state.stopFlag = true ∨ state.ipAddress.isSome = true := by
  by_cases stop : state.stopFlag = true
  · exact .inl stop
  · right
    cases known : state.ipAddress with
    | some address => rfl
    | none => simp [fixedIpAddressError, fixes, stop, known, checkIpAddress] at accepted

theorem start_up_wakeable (draws : Draws) (tqueue : TQueueState) :
    Meets (fun _ => True) (fun state => Wakeable env state.standing) (startUp env draws tqueue) := by
  refine meets_bind _ _ _ _ _ (check_url_begun env _ (initial_begun env draws tqueue)) fun state begun => ?_
  split
  · rename_i error rejected
    refine meets_weaken _ _ _ _ (fun after both => ?_) (on_error_begun env error state begun)
    exact ⟨fun _ => .inl both.2, fun _ => .inl both.2, .inl both.2, nothing_reported env after both.1⟩
  · rename_i accepted
    have fixed := fixed_ip_address_known env state accepted
    have ssl (https : env.settings.isHttps = true) : state.stopFlag = true ∨ state.sslCtx = true ∨
        (env.settings.isHttps && !state.stopFlag) = true := by
      cases stop : state.stopFlag with
      | true => exact .inl rfl
      | false => exact .inr (.inr (by simp [https]))
    unfold verifyFromDb
    split
    · exact ⟨fixed, ssl, .inr (.inr (.inl rfl)), nothing_reported env state begun⟩
    · rename_i unverified
      refine ⟨fixed, ssl, ?_, nothing_reported env state begun⟩
      rcases begun.resolves with restored | early
      · refine .inl ?_
        change state.stopFlag = true
        simpa [restored] using unverified
      · exact .inr (.inr (.inr (.inr early)))

def neverStrandedWithHeaders : Transition.Condition (State TQueueState Flood) (Event TQueueState) :=
  fun state event => headersFinish state event ∧ neverStranded env state event

theorem webhook_woken_unless_stranded (state : State TQueueState Flood)
    (reached : Transition.Reach (actor env) (neverStrandedWithHeaders env) state) (ended : LoopEnd)
    (member : ended ∈ state.loopEnds) (running : ended.stopFlag = false) (waiting : ended.queues ≠ []) : Woken ended := by
  have ready : Ready env state := by
    refine Transition.reach_meets (actor env) _ (fun _ => True) (Ready env) ?_ ?_ state reached
    · intro first initial
      refine ⟨initial_sound env first initial, ?_⟩
      obtain ⟨draws, tqueue, started⟩ := initial
      exact meets_returns _ _ _ first (start_up_wakeable env draws tqueue) started
    · intro before event held offered condition
      exact step_ready env before event held offered condition.1 condition.2
  exact ready.2.reported ended member running waiting

end Stall

-- Webhooks restored from the database, with one update to deliver.
section Restored

def restored (isHttps : Bool) (cachedIpAddress : Option IpAddress) : Environment ListQueue Unit where
  tqueue := listTQueue
  flood := calmFlood
  settings := { isHttps, port := 443, maxConnections := 1, fromDb := true, fixIpAddress := false, cachedIpAddress,
                localMode := true, webhookProxy := false, unixTimeDifference := 0 }

def restoredState (isHttps : Bool) (cachedIpAddress : Option IpAddress) : State ListQueue Unit :=
  match startUp (restored isHttps cachedIpAddress) { cacheTimeShift := 1800 } (ListQueue.empty 1) with
  | .ok state => state
  | .error _ => initialState (restored isHttps cachedIpAddress) {} (ListQueue.empty 1)

def loadingEvents : List (Event ListQueue) := [.tqueueChanged pushedQueue, .wakeup { loadedAt := 1, connectedAt := 1 }]

def untrustedEvents (created : Bool) : List (Event ListQueue) :=
  loadingEvents ++ [.sslContextCreated created { connectedAt := 2, sentAt := fun _ => 2 }]

def untrustedState (created : Bool) : State ListQueue Unit :=
  runFrom (restored true (some webhookHost)) (restoredState true (some webhookHost)) (untrustedEvents created)

def unaddressedState : State ListQueue Unit := runFrom (restored false none) (restoredState false none) loadingEvents

theorem restored_start (isHttps : Bool) (cachedIpAddress : Option IpAddress) :
    (actor (restored isHttps cachedIpAddress)).start (restoredState isHttps cachedIpAddress) := by
  refine ⟨{ cacheTimeShift := 1800 }, ListQueue.empty 1, ?_⟩
  cases isHttps <;> rfl

theorem untrusted_follows (created : Bool) (meets : Transition.Condition (State ListQueue Unit) (Event ListQueue))
    (met : ∀ state event, state.ipAddress = some webhookHost → event ∈ untrustedEvents created → meets state event) :
    Transition.Reach (actor (restored true (some webhookHost))) meets (untrustedState created) := by
  refine Transition.reach_follows _ _ (untrustedEvents created) (restoredState true (some webhookHost)) _
    (.start _ (restored_start true (some webhookHost))) ?_
  have clock (state : State ListQueue Unit) (started : state.startedAt = 0) (event : Event ListQueue) (draws : Draws)
      (_ : draws ∈ event.draws) : state.startedAt ≤ draws.resolvedAt := started ▸ Nat.zero_le _
  have listed (event : Event ListQueue) (index : Nat) (found : (untrustedEvents created)[index]? = some event) :
      event ∈ untrustedEvents created := List.mem_of_getElem? found
  cases created with
  | true =>
      exact ⟨⟨rfl, clock _ rfl _, pushed_evolves⟩, met _ _ rfl (listed _ 0 rfl), _, rfl,
        ⟨rfl, clock _ rfl _, trivial⟩, met _ _ rfl (listed _ 1 rfl), _, rfl,
        ⟨rfl, clock _ rfl _, rfl⟩, met _ _ rfl (listed _ 2 rfl), _, rfl, rfl⟩
  | false =>
      exact ⟨⟨rfl, clock _ rfl _, pushed_evolves⟩, met _ _ rfl (listed _ 0 rfl), _, rfl,
        ⟨rfl, clock _ rfl _, trivial⟩, met _ _ rfl (listed _ 1 rfl), _, rfl,
        ⟨rfl, clock _ rfl _, rfl⟩, met _ _ rfl (listed _ 2 rfl), _, rfl, rfl⟩

theorem unaddressed_follows (meets : Transition.Condition (State ListQueue Unit) (Event ListQueue))
    (met : ∀ state event, event ∈ loadingEvents → meets state event) :
    Transition.Reach (actor (restored false none)) meets unaddressedState := by
  refine Transition.reach_follows _ _ loadingEvents (restoredState false none) _ (.start _ (restored_start false none)) ?_
  have clock (state : State ListQueue Unit) (started : state.startedAt = 0) (event : Event ListQueue) (draws : Draws)
      (_ : draws ∈ event.draws) : state.startedAt ≤ draws.resolvedAt := started ▸ Nat.zero_le _
  exact ⟨⟨rfl, clock _ rfl _, pushed_evolves⟩, met _ _ List.mem_cons_self, _, rfl,
    ⟨rfl, clock _ rfl _, trivial⟩, met _ _ (List.mem_cons_of_mem _ (List.mem_singleton.2 rfl)), _, rfl, rfl⟩

theorem untrusted_headers_finish (created : Bool) (state : State ListQueue Unit) (event : Event ListQueue)
    (member : event ∈ untrustedEvents created) : headersFinish state event := by
  intro draws drawn attempt
  simp only [untrustedEvents, loadingEvents, List.cons_append, List.nil_append, List.mem_cons, List.not_mem_nil,
    or_false] at member
  rcases member with rfl | rfl | rfl
  · cases drawn
  · rw [List.mem_singleton.1 drawn]
  · rw [List.mem_singleton.1 drawn]

-- Half an hour of silence before the address is looked up at all, and silence
-- for ever without a TLS context.
theorem restored_webhook_stalls :
    (∃ state, Transition.Reach (actor (restored true (some webhookHost))) headersFinish state ∧
      ∃ ended ∈ state.loopEnds, ended.stopFlag = false ∧ ended.queues ≠ [] ∧ ¬ Woken ended) ∧
    ∃ state, Transition.Reach (actor (restored false none)) headersFinish state ∧
      ∃ ended ∈ state.loopEnds, ended.stopFlag = false ∧ ended.queues ≠ [] ∧ ¬ Woken ended := by
  have unwoken (ended : LoopEnd) (queues : ended.queues = [⟨1, 5⟩]) (flight : ended.inFlight = false)
      (sockets : ended.pendingSockets = []) (address : ended.isIpAddressBeingResolved = false)
      (context : ended.sslContextRunning = false)
      (late : max 1 (max (ended.now + second) ended.floodWakeupAt) < ended.wakeupAt) : ¬ Woken ended := by
    rintro ⟨queue, member, _, flying | pending | resolving | running | ⟨_, early⟩⟩
    · exact Bool.false_ne_true (flight.symm.trans flying)
    · exact pending sockets
    · exact Bool.false_ne_true (address.symm.trans resolving)
    · exact Bool.false_ne_true (context.symm.trans running)
    · rw [queues, List.mem_singleton] at member
      subst member
      exact absurd early (not_le.2 late)
  constructor
  · refine ⟨untrustedState false, untrusted_follows false _ fun state event _ => untrusted_headers_finish false state event,
      _, List.mem_of_getElem? (i := 1) rfl, rfl, by decide, unwoken _ rfl rfl rfl rfl rfl (by decide)⟩
  · refine ⟨unaddressedState, unaddressed_follows _ ?_, _, List.mem_of_getElem? (i := 0) rfl, rfl, by decide,
      unwoken _ rfl rfl rfl rfl rfl (by decide)⟩
    exact fun state event member => untrusted_headers_finish true state event (List.mem_append_left _ member)

theorem restored_webhook_woken :
    ∃ ended ∈ (untrustedState true).loopEnds, ended.stopFlag = false ∧ ended.queues ≠ [] ∧ Woken ended := by
  refine ⟨_, List.mem_of_getElem? (i := 0) rfl, rfl, by decide, webhook_woken_unless_stranded
    (restored true (some webhookHost)) (untrustedState true) (untrusted_follows true _ ?_) _
    (List.mem_of_getElem? (i := 0) rfl) rfl (by decide)⟩
  intro state event address member
  refine ⟨untrusted_headers_finish true state event member, ?_⟩
  have present : state.ipAddress.isSome = true := by rw [address]; rfl
  have due (resolvedAt : Nat) : Due (restored true (some webhookHost)) resolvedAt state := .inl (.inr (.inr (.inl present)))
  simp only [untrustedEvents, loadingEvents, List.cons_append, List.nil_append, List.mem_cons, List.not_mem_nil,
    or_false] at member
  rcases member with rfl | rfl | rfl
  · intro draws drawn
    cases drawn
  · exact due 0
  · exact ⟨fun failed => (by cases failed), due 0⟩

end Restored

end TelegramBotApi.WebhookActor
