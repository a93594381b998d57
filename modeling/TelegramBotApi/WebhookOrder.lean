import TelegramBotApi.WebhookScheduling

set_option autoImplicit false

namespace TelegramBotApi.WebhookActor

open Checked Tables

section Order

variable {TQueueState Flood : Type} (env : Environment TQueueState Flood)

def Removed (state : State TQueueState Flood) : Prop :=
  ∀ eventId reason, .forgotten eventId reason ∈ state.log → ∀ event ∈ env.tqueue.kept state.tqueue, event.id ≠ eventId

-- The log of a run: an update is written only after every smaller identifier
-- loaded into its queue was forgotten, and nothing is forgotten twice.
structure DeliveredInOrder (state : State TQueueState Flood) : Prop where
  oneAtATime : ∀ first last firstId lastId firstUpdate lastUpdate, Carries state first firstId →
    Carries state last lastId → state.updateMap.lookup firstId = some firstUpdate →
    state.updateMap.lookup lastId = some lastUpdate → firstUpdate.queueId = lastUpdate.queueId → first = last
  inOrder : ∀ before eventId connectionId, before ++ [.written eventId connectionId] <+: state.log →
    ∃ queueId, .loaded eventId queueId ∈ before ∧ ∀ earlier, .loaded earlier queueId ∈ state.log → earlier < eventId →
      ∃ reason, .forgotten earlier reason ∈ before
  forgottenOnce : (state.log.filterMap KeyedDelivery.forgottenItem).Nodup
  removed : Removed env state

def ForgetsExcused (before after : State TQueueState Flood) (event : Event TQueueState) : Prop :=
  ∃ added, after.log = before.log ++ added ∧
    (∀ eventId reason, .forgotten eventId reason ∈ added → ExcusedBy env before event eventId reason) ∧
    env.tqueue.Forgets (event.Shows env) (event.begins before).tqueue (added.filterMap KeyedDelivery.forgottenItem)
      after.tqueue

theorem delivered_in_order_of_sound (state : State TQueueState Flood) (sound : Sound env state.core)
    (removed : Removed env state) : DeliveredInOrder env state := by
  refine ⟨?_, sound.inv.inOrder, sound.inv.forgottenOnce, removed⟩
  intro first last firstId lastId firstUpdate lastUpdate carries carried foundFirst foundLast sameQueue
  rw [carries_iff] at carries carried
  obtain ⟨rest, front, _⟩ := flying_front env state.core first firstId firstUpdate sound carries foundFirst
  obtain ⟨more, frontLast, _⟩ := flying_front env state.core last lastId lastUpdate sound carried foundLast
  -- both are the first event of the same queue
  rw [sameQueue, frontLast, List.cons.injEq] at front
  obtain ⟨rfl, rfl⟩ := front
  exact sound.inv.single first last lastId carries carried

theorem begins_log (state : State TQueueState Flood) (event : Event TQueueState) :
    (event.begins state).log = state.log := by
  cases event <;> rfl

theorem step_forgets_excused (before after : State TQueueState Flood) (event : Event TQueueState)
    (sound : Sound env before.core) (offered : enabled env before event) (done : step env before event = .ok after) :
    ForgetsExcused env before after event := by
  have advanced := meets_returns _ _ _ after (step_advances env True before event (.inl trivial) offered sound) done
  obtain ⟨added, grown, excused⟩ := KeyedDelivery.run_history True _ _ _ advanced.run
  obtain ⟨named, grownNamed, forgets⟩ := advanced.forgets
  change after.log = (event.begins before).log ++ added at grown
  change after.log = (event.begins before).log ++ named at grownNamed
  have same : named = added := List.append_cancel_left (grownNamed.symm.trans grown)
  rw [same] at forgets
  rw [begins_log] at grown
  exact ⟨added, grown, excused, forgets⟩

theorem begins_removed (state : State TQueueState Flood) (event : Event TQueueState) (sound : Sound env state.core)
    (offered : enabled env state event) (removed : Removed env state) : Removed env (event.begins state) := by
  cases event with
  | tqueueChanged tqueue =>
      intro eventId reason forgotten queued present
      have evolves : env.tqueue.Evolves state.tqueue tqueue := offered.2.2
      rcases evolves.kept queued present with old | new
      · exact removed eventId reason forgotten queued old
      · obtain ⟨queueId, loaded⟩ := sound.inv.wasLoaded eventId reason forgotten
        exact Nat.ne_of_gt (Nat.lt_of_lt_of_le (sound.tail eventId queueId loaded) new)
  | _ => exact removed

theorem step_removed (before after : State TQueueState Flood) (event : Event TQueueState) (sound : Sound env before.core)
    (offered : enabled env before event) (removed : Removed env before) (forgets : ForgetsExcused env before after event) :
    Removed env after := by
  obtain ⟨added, grown, _, run⟩ := forgets
  have begun := begins_removed env before event sound offered removed
  intro eventId reason forgotten queued present
  obtain ⟨old, unnamed⟩ := (env.tqueue.forgets_removes _ _ _ _ run).1 queued present
  rw [grown] at forgotten
  rcases List.mem_append.1 forgotten with earlier | now
  · exact begun eventId reason (by rw [begins_log]; exact earlier) queued old
  · rintro rfl
    exact unnamed ((KeyedDelivery.mem_forgotten_items added queued.id).2 ⟨reason, now⟩)

theorem reachable_removed (state : State TQueueState Flood)
    (reached : Transition.Reach (actor env) Transition.unrestricted state) : Sound env state.core ∧ Removed env state := by
  apply Transition.reach_invariant (actor env) Transition.unrestricted _ _ _ state reached
  · intro first initial
    refine ⟨initial_sound env first initial, fun eventId reason forgotten => ?_⟩
    obtain ⟨draws, tqueue, started⟩ := initial
    obtain ⟨queue, same⟩ := meets_returns _ _ _ first (start_up_unloaded env draws tqueue) started
    have unlogged : first.log = [] := congrArg Core.log same
    rw [unlogged] at forgotten
    cases forgotten
  · intro before after event held offered _ done
    have forgets := step_forgets_excused env before after event held.1 offered done
    have advanced := meets_returns _ _ _ after (step_advances env True before event (.inl trivial) offered held.1) done
    exact ⟨advanced.sound, step_removed env before after event held.1 offered held.2 forgets⟩

theorem webhook_updates_delivered_in_order (state : State TQueueState Flood)
    (reached : Transition.Reach (actor env) Transition.unrestricted state) :
    DeliveredInOrder env state ∧ ∀ event after, enabled env state event → step env state event = .ok after →
      ForgetsExcused env state after event := by
  obtain ⟨sound, removed⟩ := reachable_removed env state reached
  exact ⟨delivered_in_order_of_sound env state sound removed,
    fun event after offered done => step_forgets_excused env state after event sound offered done⟩

-- Two updates of one queue: the answer to the first one makes room for the second.
def twoQueued : ListQueue := pushedQueue.append "later" 100 5

def acceptance : Response :=
  { isResponse := true, keepAlive := true, code := 200, reason := "OK", method := "", retryAfter := 0 }

def twoEvents : List (Event ListQueue) :=
  [.tqueueChanged twoQueued, .wakeup { loadedAt := 1, resolvedAt := 1 },
    .resolvedIpAddress (.ok (some webhookHost)) { sentAt := fun _ => 1 },
    .response 0 acceptance { loadedAt := 1, resolvedAt := 1, connectedAt := 1, sentAt := fun _ => 1 }]

def twoState : State ListQueue Unit := runFrom localHttp startedState twoEvents

theorem two_queued_evolves : listTQueue.Evolves (ListQueue.empty 1) twoQueued := by
  refine ⟨fun event member => .inr ?_, by decide⟩
  rcases List.mem_cons.1 member with rfl | later
  · exact Nat.le_refl _
  · rw [List.mem_singleton.1 later]
    exact Nat.le_succ _

theorem two_reached : Transition.Reach (actor localHttp) Transition.unrestricted twoState := by
  refine Transition.reach_follows _ _ twoEvents startedState _ (.start _ started_state) ?_
  have clock (state : State ListQueue Unit) (started : state.startedAt = 0) (event : Event ListQueue) (draws : Draws)
      (_ : draws ∈ event.draws) : state.startedAt ≤ draws.resolvedAt := started ▸ Nat.zero_le _
  refine ⟨⟨rfl, clock _ rfl _, two_queued_evolves⟩, trivial, _, rfl, ⟨rfl, clock _ rfl _, trivial⟩, trivial, _, rfl,
    ⟨rfl, clock _ rfl _, rfl⟩, trivial, _, rfl, ⟨rfl, clock _ rfl _, ?_⟩, trivial, _, rfl, rfl⟩
  intro connection found
  cases found
  rfl

theorem two_updates_delivered_in_order :
    twoState.log = [.loaded 1 5, .loaded 2 5, .written 1 0, .forgotten 1 (.responded 0), .written 2 0] ∧
      (listTQueue.kept twoState.tqueue).map TQueueEvent.id = [2] ∧
      DeliveredInOrder localHttp twoState ∧ ∀ event after, enabled localHttp twoState event →
        step localHttp twoState event = .ok after → ForgetsExcused localHttp twoState after event :=
  ⟨rfl, rfl, webhook_updates_delivered_in_order localHttp twoState two_reached⟩

end Order

end TelegramBotApi.WebhookActor
