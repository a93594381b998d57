import TelegramBotApi.WebhookDelivery

set_option autoImplicit false

namespace TelegramBotApi.WebhookActor

open Checked Tables Words

structure Failure where
  retryAfter : Int
  maxTimeout : Int
  now : Int

def Failure.Drawn (failure : Failure) : Prop :=
  webhookMaxResendTimeout ≤ failure.maxTimeout ∧ failure.maxTimeout ≤ webhookMaxResendTimeout * 2

instance : DecidablePred Failure.Drawn := fun failure =>
  inferInstanceAs (Decidable (webhookMaxResendTimeout ≤ failure.maxTimeout ∧
    failure.maxTimeout ≤ webhookMaxResendTimeout * 2))

-- on_update_error for one update; the error stands for dropping it.
def failUpdate (unixTimeDifference : Int) (update : Update) (failure : Failure) : Except Unit Update :=
  let (nextDelay, nextEffectiveDelay) := nextDelays update failure.retryAfter failure.maxTimeout
  if update.expiresAt < addInt32 (getUnixTime unixTimeDifference failure.now) nextEffectiveDelay then .error ()
  else
    .ok { update with
      delay := nextDelay
      wakeupAt := failure.now + nextEffectiveDelay * second
      failCount := update.failCount + 1 }

def newDelay (update : Update) (failure : Failure) : Int := (nextDelays update failure.retryAfter failure.maxTimeout).1

def effectiveDelay (update : Update) (failure : Failure) : Int :=
  if 0 < failure.retryAfter then min failure.retryAfter maxRetryAfter
  else if update.failCount = 0 then 0
  else newDelay update failure

structure FollowsSchedule (unixTimeDifference : Int) (update : Update) (failure : Failure) : Prop where
  effective : (nextDelays update failure.retryAfter failure.maxTimeout).2 = effectiveDelay update failure
  dropped : failUpdate unixTimeDifference update failure = .error () ↔
    update.expiresAt < getUnixTime unixTimeDifference failure.now + effectiveDelay update failure
  kept : ∀ next, failUpdate unixTimeDifference update failure = .ok next →
    (next.delay = newDelay update failure ∧ 1 ≤ next.delay ∧ next.delay ≤ 120) ∧
    next.wakeupAt = failure.now + effectiveDelay update failure * second ∧
    getUnixTime unixTimeDifference next.wakeupAt ≤ update.expiresAt

def Fits (unixTimeDifference : Int) (update : Update) (failure : Failure) : Prop :=
  getUnixTime unixTimeDifference failure.now + effectiveDelay update failure ≤ int32Max

instance (unixTimeDifference : Int) (update : Update) (failure : Failure) :
    Decidable (Fits unixTimeDifference update failure) :=
  inferInstanceAs (Decidable (getUnixTime unixTimeDifference failure.now + effectiveDelay update failure ≤ int32Max))

structure Retried (update : Update) : Prop where
  positive : 1 ≤ update.delay
  bounded : update.delay ≤ 120
  unexpired : 0 ≤ update.expiresAt
  expires : update.expiresAt ≤ int32Max

theorem get_unix_time_bounds (unixTimeDifference now : Int) :
    0 ≤ getUnixTime unixTimeDifference now ∧ getUnixTime unixTimeDifference now ≤ int32Max := by
  unfold getUnixTime int32Max
  omega

theorem new_delay_bounds (update : Update) (failure : Failure) (retried : Retried update) (drawn : failure.Drawn) :
    1 ≤ newDelay update failure ∧ newDelay update failure ≤ 120 := by
  obtain ⟨low, high⟩ := drawn
  have positive := retried.positive
  have bounded := retried.bounded
  unfold webhookMaxResendTimeout at low high
  simp only [newDelay, nextDelays]
  split <;> dsimp only <;> omega

theorem next_delays_effective (update : Update) (failure : Failure) :
    (nextDelays update failure.retryAfter failure.maxTimeout).2 = effectiveDelay update failure := by
  by_cases asked : 0 < failure.retryAfter
  · have positive : max 0 (min maxRetryAfter failure.retryAfter) = min failure.retryAfter maxRetryAfter := by
      unfold maxRetryAfter
      omega
    have set : min failure.retryAfter maxRetryAfter ≠ 0 := by
      unfold maxRetryAfter
      omega
    simp only [nextDelays, effectiveDelay, if_pos asked, positive, set, false_and, if_false]
  · have unset : max 0 (min maxRetryAfter failure.retryAfter) = 0 := by
      unfold maxRetryAfter
      omega
    by_cases first : update.failCount = 0
    · simp [nextDelays, effectiveDelay, asked, unset, first]
    · have later : 0 < update.failCount := Nat.pos_of_ne_zero first
      simp [nextDelays, effectiveDelay, newDelay, asked, unset, first, later]

theorem effective_delay_bounds (update : Update) (failure : Failure) (retried : Retried update) (drawn : failure.Drawn) :
    0 ≤ effectiveDelay update failure ∧ effectiveDelay update failure ≤ maxRetryAfter := by
  have delay := new_delay_bounds update failure retried drawn
  unfold effectiveDelay maxRetryAfter
  split
  · omega
  · split <;> omega

theorem fail_update_retried (unixTimeDifference : Int) (update : Update) (failure : Failure) (retried : Retried update)
    (drawn : failure.Drawn) : Meets (fun _ => True) Retried (failUpdate unixTimeDifference update failure) := by
  have delay := new_delay_bounds update failure retried drawn
  simp only [failUpdate]
  split
  · trivial
  · exact ⟨delay.1, delay.2, retried.unexpired, retried.expires⟩

theorem fail_update_exact (unixTimeDifference : Int) (update : Update) (failure : Failure) (retried : Retried update)
    (drawn : failure.Drawn) (fits : Fits unixTimeDifference update failure) :
    failUpdate unixTimeDifference update failure =
      if update.expiresAt < getUnixTime unixTimeDifference failure.now + effectiveDelay update failure then .error ()
      else .ok { update with
        delay := newDelay update failure
        wakeupAt := failure.now + effectiveDelay update failure * second
        failCount := update.failCount + 1 } := by
  have clock := (get_unix_time_bounds unixTimeDifference failure.now).1
  have delay := (effective_delay_bounds update failure retried drawn).1
  simp only [failUpdate, next_delays_effective, add_int32_exact _ _ (Int.add_nonneg clock delay) fits]
  rfl

-- Past the end of the 32-bit range the sum is negative, and the update is kept.
theorem fail_update_wrapped (unixTimeDifference : Int) (update : Update) (failure : Failure) (retried : Retried update)
    (drawn : failure.Drawn) (overflows : ¬ Fits unixTimeDifference update failure) :
    failUpdate unixTimeDifference update failure ≠ .error () := by
  have clock := (get_unix_time_bounds unixTimeDifference failure.now).2
  have delay := (effective_delay_bounds update failure retried drawn).2
  have negative : addInt32 (getUnixTime unixTimeDifference failure.now) (effectiveDelay update failure) < 0 := by
    apply add_int32_wraps _ _ (Int.not_le.1 overflows)
    unfold int32Max at clock
    unfold maxRetryAfter at delay
    omega
  have kept : ¬ update.expiresAt <
      addInt32 (getUnixTime unixTimeDifference failure.now) (effectiveDelay update failure) :=
    fun expired => absurd (expired.trans negative) (Int.not_lt.2 retried.unexpired)
  simp [failUpdate, next_delays_effective, kept]

theorem get_unix_time_later (unixTimeDifference now delay : Int) :
    getUnixTime unixTimeDifference (now + delay * second) =
      max 0 (min int32Max ((unixTimeDifference + now) / second + delay)) := by
  have shifted : (unixTimeDifference + (now + delay * second)) / second = (unixTimeDifference + now) / second + delay := by
    rw [← Int.add_assoc, Int.add_mul_ediv_right _ _ (by decide)]
  rw [getUnixTime, shifted]
  rfl

theorem woken_unexpired (unixTimeDifference now delay expiresAt : Int) (later : 0 ≤ delay) (unexpired : 0 ≤ expiresAt)
    (kept : getUnixTime unixTimeDifference now + delay ≤ expiresAt) :
    getUnixTime unixTimeDifference (now + delay * second) ≤ expiresAt := by
  rw [get_unix_time_later]
  have clock : getUnixTime unixTimeDifference now = max 0 (min int32Max ((unixTimeDifference + now) / second)) := rfl
  rw [clock] at kept
  generalize (unixTimeDifference + now) / second = unixTime at kept ⊢
  unfold int32Max at kept ⊢
  omega

theorem follows_schedule_iff (unixTimeDifference : Int) (update : Update) (failure : Failure) (retried : Retried update)
    (drawn : failure.Drawn) :
    FollowsSchedule unixTimeDifference update failure ↔ Fits unixTimeDifference update failure := by
  have delays := effective_delay_bounds update failure retried drawn
  constructor
  · intro follows
    by_contra overflows
    have late : update.expiresAt < getUnixTime unixTimeDifference failure.now + effectiveDelay update failure :=
      Int.lt_of_le_of_lt retried.expires (Int.not_le.1 overflows)
    exact fail_update_wrapped unixTimeDifference update failure retried drawn overflows (follows.dropped.2 late)
  · intro fits
    have exactly := fail_update_exact unixTimeDifference update failure retried drawn fits
    by_cases late : update.expiresAt < getUnixTime unixTimeDifference failure.now + effectiveDelay update failure
    · rw [if_pos late] at exactly
      refine ⟨next_delays_effective update failure, ⟨fun _ => late, fun _ => exactly⟩, fun next done => ?_⟩
      rw [exactly] at done
      cases done
    · rw [if_neg late] at exactly
      refine ⟨next_delays_effective update failure, ⟨fun dropped => ?_, fun expired => absurd expired late⟩, ?_⟩
      · rw [exactly] at dropped
        cases dropped
      · intro next done
        rw [exactly] at done
        cases done
        refine ⟨⟨rfl, new_delay_bounds update failure retried drawn⟩, rfl, ?_⟩
        exact woken_unexpired _ _ _ _ delays.1 retried.unexpired (Int.not_lt.1 late)

section Actor

variable {TQueueState Flood : Type} (env : Environment TQueueState Flood)

theorem on_update_error_fails (eventId : EventId) (retryAfter : Int) (draws : Draws) (state : State TQueueState Flood)
    (update : Update) (found : state.updateMap.lookup eventId = some update) :
    onUpdateError env eventId retryAfter draws state =
      match failUpdate env.settings.unixTimeDifference update ⟨retryAfter, draws.resendTimeout, draws.handledAt⟩ with
      | .error _ => dropEvent env eventId
          (.expired (getUnixTime env.settings.unixTimeDifference draws.handledAt)
            (effectiveDelay update ⟨retryAfter, draws.resendTimeout, draws.handledAt⟩))
          { state with lastUpdateWasSuccessful := false }
      | .ok next => .ok { state with
          lastUpdateWasSuccessful := false
          updateMap := state.updateMap.insert eventId next
          queues := emplace ⟨next.wakeupAt, update.queueId⟩ state.queues } := by
  have effective := next_delays_effective update ⟨retryAfter, draws.resendTimeout, draws.handledAt⟩
  simp only [onUpdateError, found, failUpdate]
  rw [← effective]
  dsimp only
  split <;> rfl

end Actor

-- load_updates checks that the event has not expired.
theorem fresh_update_retried (unixTimeDifference now : Int) (queueId : QueueId) (event : TQueueEvent)
    (unexpired : getUnixTime unixTimeDifference now ≤ event.expiresAt) (expires : event.expiresAt ≤ int32Max) :
    Retried (freshUpdate now queueId event) :=
  ⟨by simp [freshUpdate], by simp [freshUpdate], (get_unix_time_bounds unixTimeDifference now).1.trans unexpired, expires⟩

theorem retries_follow_schedule_iff (unixTimeDifference now : Int) (queueId : QueueId) (event : TQueueEvent)
    (unexpired : getUnixTime unixTimeDifference now ≤ event.expiresAt) (expires : event.expiresAt ≤ int32Max)
    (failures : List Failure) (drawn : ∀ failure ∈ failures, failure.Drawn) :
    Along (FollowsSchedule unixTimeDifference) (failUpdate unixTimeDifference) (freshUpdate now queueId event) failures ↔
      Along (Fits unixTimeDifference) (failUpdate unixTimeDifference) (freshUpdate now queueId event) failures :=
  along_iff (fun _ failure => failure.Drawn) _ _ Retried _ failures _
    (fresh_update_retried unixTimeDifference now queueId event unexpired expires)
    (along_of_forall Failure.Drawn _ failures _ drawn)
    (fun update failure retried offered => follows_schedule_iff unixTimeDifference update failure retried offered)
    (fun update failure retried offered => fail_update_retried unixTimeDifference update failure retried offered)

def plainEvent : TQueueEvent := ⟨1, "update", 1000, 0⟩

theorem three_failures_follow_schedule :
    Along (FollowsSchedule 0) (failUpdate 0) (freshUpdate 0 1 plainEvent)
      [⟨0, 60, 0⟩, ⟨0, 60, second⟩, ⟨5, 60, 10 * second⟩] := by
  apply (retries_follow_schedule_iff 0 0 1 plainEvent (by decide) (by decide) _ (by decide)).2
  refine ⟨by decide, fun first failed => ?_⟩
  cases failed
  refine ⟨by decide, fun next failed => ?_⟩
  cases failed
  exact ⟨by decide, fun _ _ => trivial⟩

-- Ten minutes before the end of the 32-bit range an hour does not fit.
def lateEvent : TQueueEvent := ⟨1, "update", int32Max, 0⟩

theorem late_failure_keeps_update :
    ¬ Along (FollowsSchedule 0) (failUpdate 0) (freshUpdate ((int32Max - 600) * second) 1 lateEvent)
      [⟨3600, 60, (int32Max - 600) * second⟩] := by
  rintro ⟨follows, _⟩
  have dropped := follows.dropped.2 (by decide)
  cases dropped

end TelegramBotApi.WebhookActor
