import TelegramBotApi.Lib.Checked

set_option autoImplicit false

-- Machines driven by an environment. The environment picks any enabled event
-- at each step; the machine itself is deterministic and a failed assertion ends
-- the run. Nothing here depends on what the machine computes.
namespace Transition

structure Machine (State Event Fault : Type) where
  start : State → Prop
  enabled : State → Event → Prop
  step : State → Event → Except Fault State

variable {State Event Fault : Type}

abbrev Condition (State Event : Type) := State → Event → Prop

def unrestricted : Condition State Event := fun _ _ => True

-- The states of the runs all of whose steps meet the condition.
inductive Reach (machine : Machine State Event Fault) (meets : Condition State Event) : State → Prop where
  | start (state : State) (initial : machine.start state) : Reach machine meets state
  | next (before after : State) (event : Event) (reached : Reach machine meets before)
      (offered : machine.enabled before event) (condition : meets before event)
      (done : machine.step before event = .ok after) : Reach machine meets after

theorem reach_invariant (machine : Machine State Event Fault) (meets : Condition State Event) (inv : State → Prop)
    (initial : ∀ state, machine.start state → inv state)
    (preserved : ∀ before after event, inv before → machine.enabled before event → meets before event →
      machine.step before event = .ok after → inv after)
    (state : State) (reached : Reach machine meets state) : inv state := by
  induction reached with
  | start state first => exact initial state first
  | next before after event _ offered condition done ih => exact preserved before after event ih offered condition done

def Machine.startingFrom (machine : Machine State Event Fault) (first : State) : Machine State Event Fault :=
  { machine with start := fun state => state = first }

-- A step of the run itself, for properties that relate two consecutive states.
def StepOf (machine : Machine State Event Fault) (meets : Condition State Event)
    (before : State) (event : Event) (after : State) : Prop :=
  Reach machine meets before ∧ machine.enabled before event ∧ meets before event ∧ machine.step before event = .ok after

-- No assertion fails: every enabled event meeting the condition has a successor.
def Safe (machine : Machine State Event Fault) (meets : Condition State Event) : Prop :=
  ∀ state event, Reach machine meets state → machine.enabled state event → meets state event →
    ∃ after, machine.step state event = .ok after

-- The invariant rule: one step lemma gives the invariant of every reachable
-- state and bounds the faults of every step taken from one.
theorem reach_meets (machine : Machine State Event Fault) (meets : Condition State Event)
    (allowed : Fault → Prop) (inv : State → Prop) (initial : ∀ state, machine.start state → inv state)
    (preserved : ∀ before event, inv before → machine.enabled before event → meets before event →
      Checked.Meets allowed inv (machine.step before event))
    (state : State) (reached : Reach machine meets state) : inv state := by
  apply reach_invariant machine meets inv initial _ state reached
  intro before after event held offered condition done
  exact Checked.meets_returns allowed inv _ after (preserved before event held offered condition) done

theorem safe_of_passes (machine : Machine State Event Fault) (meets : Condition State Event) (inv : State → Prop)
    (initial : ∀ state, machine.start state → inv state)
    (passes : ∀ before event, inv before → machine.enabled before event → meets before event →
      Checked.Passes inv (machine.step before event)) :
    Safe machine meets := by
  intro state event reached offered condition
  have held := reach_meets machine meets _ inv initial passes state reached
  obtain ⟨after, done, _⟩ := Checked.passes_returns inv _ (passes state event held offered condition)
  exact ⟨after, done⟩

-- A run given by its events, to exhibit reachable states.
def Follows (machine : Machine State Event Fault) (meets : Condition State Event) :
    State → List Event → State → Prop
  | state, [], last => state = last
  | state, event :: events, last => machine.enabled state event ∧ meets state event ∧
      ∃ after, machine.step state event = .ok after ∧ Follows machine meets after events last

theorem reach_follows (machine : Machine State Event Fault) (meets : Condition State Event)
    (events : List Event) (state last : State) (reached : Reach machine meets state)
    (follows : Follows machine meets state events last) : Reach machine meets last := by
  induction events generalizing state with
  | nil =>
      cases follows
      exact reached
  | cons event events ih =>
      obtain ⟨offered, condition, after, done, rest⟩ := follows
      exact ih after (.next state after event reached offered condition done) rest

structure Recorded (State Event : Type) where
  state : State
  events : List Event := []

def Machine.recording (machine : Machine State Event Fault) : Machine (Recorded State Event) Event Fault where
  start recorded := machine.start recorded.state ∧ recorded.events = []
  enabled recorded event := machine.enabled recorded.state event
  step recorded event := do
    let after ← machine.step recorded.state event
    return ⟨after, recorded.events ++ [event]⟩

instance (machine : Machine State Event Fault) [enabled : ∀ state event, Decidable (machine.enabled state event)]
    (recorded : Recorded State Event) (event : Event) : Decidable (machine.recording.enabled recorded event) :=
  enabled recorded.state event

instance (state : State) (event : Event) : Decidable (unrestricted state event) := inferInstanceAs (Decidable True)

section Computed

variable (machine : Machine State Event Fault) [∀ state event, Decidable (machine.enabled state event)]
variable (meets : Condition State Event) [∀ state event, Decidable (meets state event)]

def tryRun : State → List Event → Option State
  | state, [] => some state
  | state, event :: events =>
      if machine.enabled state event ∧ meets state event then
        match machine.step state event with
        | .ok after => tryRun after events
        | .error _ => none
      else none

theorem follows_of_run (events : List Event) (state last : State) (ran : tryRun machine meets state events = some last) :
    Follows machine meets state events last := by
  induction events generalizing state with
  | nil => exact Option.some.inj ran
  | cons event events ih =>
      by_cases offered : machine.enabled state event ∧ meets state event
      · rw [tryRun, if_pos offered] at ran
        cases done : machine.step state event with
        | error fault =>
            rw [done] at ran
            cases ran
        | ok after =>
            rw [done] at ran
            exact ⟨offered.1, offered.2, after, done, ih after ran⟩
      · rw [tryRun, if_neg offered] at ran
        cases ran

theorem exists_follows (post : State → Prop) [DecidablePred post] (first : State) (events : List Event)
    (runs : (tryRun machine meets first events).any (fun last => decide (post last)) = true) :
    ∃ last, Follows machine meets first events last ∧ post last := by
  obtain ⟨last, ran, holds⟩ := Option.any_eq_true _ _ |>.1 runs
  exact ⟨last, follows_of_run machine meets events first last ran, of_decide_eq_true holds⟩

theorem exists_run (post : State → State → Prop) [∀ middle last, Decidable (post middle last)] (first : State)
    (initial : machine.start first) (events later : List Event)
    (runs : (tryRun machine meets first events).any (fun middle =>
      (tryRun machine meets middle later).any (fun last => decide (post middle last))) = true) :
    ∃ middle last, Reach machine meets middle ∧ Follows machine meets middle later last ∧ post middle last := by
  obtain ⟨middle, ran, more⟩ := Option.any_eq_true _ _ |>.1 runs
  obtain ⟨last, finished, holds⟩ := Option.any_eq_true _ _ |>.1 more
  exact ⟨middle, last, reach_follows machine meets events first middle (.start first initial)
    (follows_of_run machine meets events first middle ran), follows_of_run machine meets later middle last finished,
    of_decide_eq_true holds⟩

theorem exists_reach (post : State → Prop) [DecidablePred post] (first : State) (initial : machine.start first)
    (events : List Event) (runs : (tryRun machine meets first events).any (fun last => decide (post last)) = true) :
    ∃ last, Reach machine meets last ∧ post last := by
  obtain ⟨last, _, reached, _, holds⟩ := exists_run machine meets (fun middle _ => post middle) first initial events []
    (by simpa [tryRun] using runs)
  exact ⟨last, reached, holds⟩

end Computed

end Transition
