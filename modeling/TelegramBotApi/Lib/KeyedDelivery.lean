import Mathlib

set_option autoImplicit false

-- Delivery of items queued per key over channels that carry one item at a time.
-- A key is scheduled when its first item waits for a channel; an item leaves the
-- queue of its key when it is forgotten.
namespace KeyedDelivery

inductive Action (Key Item Channel Reason : Type) where
  | loaded (item : Item) (key : Key)
  | written (item : Item) (channel : Channel)
  | forgotten (item : Item) (reason : Reason)

structure State (Key Item Channel Reason : Type) where
  pending : Key → List Item
  scheduled : Set Key
  flight : Channel → Option Item
  history : List (Action Key Item Channel Reason)

variable {Key Item Channel Reason : Type}

def forgottenItem : Action Key Item Channel Reason → Option Item
  | .forgotten item _ => some item
  | _ => none

theorem mem_forgotten_items (history : List (Action Key Item Channel Reason)) (item : Item) :
    item ∈ history.filterMap forgottenItem ↔ ∃ reason, .forgotten item reason ∈ history := by
  rw [List.mem_filterMap]
  constructor
  · rintro ⟨action, member, same⟩
    cases action with
    | forgotten other reason =>
        cases same
        exact ⟨reason, member⟩
    | _ => cases same
  · rintro ⟨reason, member⟩
    exact ⟨_, member, rfl⟩

section Histories

variable [LinearOrder Item]

def InOrder (history : List (Action Key Item Channel Reason)) : Prop :=
  ∀ before item channel, before ++ [.written item channel] <+: history →
    ∃ key, .loaded item key ∈ before ∧ ∀ earlier, .loaded earlier key ∈ history → earlier < item →
      ∃ reason, .forgotten earlier reason ∈ before

structure Inv (state : State Key Item Channel Reason) : Prop where
  sorted : ∀ key, (state.pending key).Pairwise (· < ·)
  kept : ∀ key item, item ∈ state.pending key ↔
    .loaded item key ∈ state.history ∧ ∀ reason, .forgotten item reason ∉ state.history
  oneKey : ∀ item key other, .loaded item key ∈ state.history → .loaded item other ∈ state.history → key = other
  due : ∀ key, key ∈ state.scheduled → state.pending key ≠ []
  flying : ∀ channel item, state.flight channel = some item →
    ∃ key rest, state.pending key = item :: rest ∧ key ∉ state.scheduled
  single : ∀ channel other item, state.flight channel = some item → state.flight other = some item → channel = other
  wasLoaded : ∀ item reason, .forgotten item reason ∈ state.history → ∃ key, .loaded item key ∈ state.history
  forgottenOnce : (state.history.filterMap forgottenItem).Nodup
  inOrder : InOrder state.history

def Covered (state : State Key Item Channel Reason) : Prop :=
  ∀ key item rest, state.pending key = item :: rest →
    key ∈ state.scheduled ∨ ∃ channel, state.flight channel = some item

theorem in_order_append (history : List (Action Key Item Channel Reason)) (action : Action Key Item Channel Reason)
    (ordered : InOrder history) (unwritten : ∀ item channel, action ≠ .written item channel)
    (late : ∀ item key, action = .loaded item key → ∀ earlier other, .loaded earlier other ∈ history → earlier < item) :
    InOrder (history ++ [action]) := by
  intro before item channel started
  rcases List.prefix_concat_iff.1 started with same | old
  · have last := (List.append_inj' same rfl).2
    exact absurd (List.singleton_inj.1 last).symm (unwritten item channel)
  · obtain ⟨key, loaded, passed⟩ := ordered before item channel old
    refine ⟨key, loaded, fun earlier member less => ?_⟩
    rcases List.mem_append.1 member with present | new
    · exact passed earlier present less
    · have after := late earlier key (List.mem_singleton.1 new).symm item key
        (old.subset (List.mem_append_left _ loaded))
      exact absurd less (lt_asymm after)

theorem same_key (state : State Key Item Channel Reason) (inv : Inv state) (key other : Key) (item : Item)
    (here : item ∈ state.pending key) (there : item ∈ state.pending other) : key = other :=
  inv.oneKey item key other ((inv.kept key item).1 here).1 ((inv.kept other item).1 there).1

-- The key leaves the schedule without its item being written.
def lose (key : Key) (state : State Key Item Channel Reason) : State Key Item Channel Reason :=
  { state with scheduled := {other | other ∈ state.scheduled ∧ other ≠ key} }

theorem lose_inv (state : State Key Item Channel Reason) (key : Key) (inv : Inv state) : Inv (lose key state) := by
  refine ⟨inv.sorted, inv.kept, inv.oneKey, fun other due => inv.due other due.1, ?_, inv.single, inv.wasLoaded,
    inv.forgottenOnce, inv.inOrder⟩
  intro channel item flying
  obtain ⟨owner, rest, front, idle⟩ := inv.flying channel item flying
  exact ⟨owner, rest, front, fun scheduled => idle scheduled.1⟩

end Histories

section Keys

variable [DecidableEq Key] [LinearOrder Item]

def load (key : Key) (item : Item) (state : State Key Item Channel Reason) : State Key Item Channel Reason :=
  { state with
    pending := Function.update state.pending key (state.pending key ++ [item])
    scheduled := {other | other ∈ state.scheduled ∨ other = key ∧ state.pending key = []}
    history := state.history ++ [.loaded item key] }

theorem load_inv (state : State Key Item Channel Reason) (key : Key) (item : Item) (inv : Inv state)
    (fresh : ∀ earlier other, .loaded earlier other ∈ state.history → earlier < item) : Inv (load key item state) := by
  have unloaded (other : Key) : .loaded item other ∉ state.history := fun old => lt_irrefl item (fresh item other old)
  have unforgotten (reason : Reason) : .forgotten item reason ∉ state.history := by
    intro old
    obtain ⟨other, found⟩ := inv.wasLoaded item reason old
    exact unloaded other found
  refine ⟨?_, ?_, ?_, ?_, ?_, inv.single, ?_, ?_, ?_⟩
  · intro other
    by_cases same : other = key
    · subst same
      simp only [load, Function.update_self]
      refine List.pairwise_append.2 ⟨inv.sorted other, List.pairwise_singleton _ _, ?_⟩
      intro earlier member last added
      rw [List.mem_singleton.1 added]
      exact fresh earlier other ((inv.kept other earlier).1 member).1
    · simpa only [load, Function.update_of_ne same] using inv.sorted other
  · intro other found
    have kept := inv.kept other found
    by_cases same : other = key
    · subst same
      by_cases new : found = item
      · subst new
        simp [load, unforgotten]
      · simp [load, kept, new]
    · simp [load, same, kept]
  · intro found first last
    simp only [load, List.mem_append, List.mem_singleton, Action.loaded.injEq]
    rintro (old | ⟨rfl, rfl⟩) (older | ⟨same, rfl⟩)
    · exact inv.oneKey found first last old older
    · subst same
      exact absurd old (unloaded first)
    · exact absurd older (unloaded last)
    · rfl
  · intro other due
    by_cases same : other = key
    · subst same
      simp [load]
    · have old : other ∈ state.scheduled := by simpa [load, same] using due
      simpa only [load, Function.update_of_ne same] using inv.due other old
  · intro channel found flying
    obtain ⟨other, rest, front, idle⟩ := inv.flying channel found flying
    by_cases same : other = key
    · subst same
      refine ⟨other, rest ++ [item], by simp [load, front], ?_⟩
      simp [load, front, idle]
    · exact ⟨other, rest, by simpa only [load, Function.update_of_ne same] using front, by simp [load, same, idle]⟩
  · intro found reason member
    have old : .forgotten found reason ∈ state.history := by simpa [load] using member
    obtain ⟨other, loaded⟩ := inv.wasLoaded found reason old
    exact ⟨other, List.mem_append_left _ loaded⟩
  · rw [load, List.filterMap_append, List.filterMap_cons_none rfl, List.filterMap_nil, List.append_nil]
    exact inv.forgottenOnce
  · refine in_order_append _ _ inv.inOrder (fun _ _ same => by cases same) fun new other same => ?_
    cases same
    exact fresh

end Keys

section Channels

variable [DecidableEq Channel]

theorem flight_of_cleared (state : State Key Item Channel Reason) (channel other : Channel) (item : Item)
    (flying : Function.update state.flight channel none other = some item) :
    other ≠ channel ∧ state.flight other = some item := by
  by_cases same : other = channel
  · subst same
    rw [Function.update_self] at flying
    cases flying
  · rw [Function.update_of_ne same] at flying
    exact ⟨same, flying⟩

variable [LinearOrder Item]

def write (channel : Channel) (key : Key) (item : Item) (state : State Key Item Channel Reason) :
    State Key Item Channel Reason :=
  { state with
    scheduled := {other | other ∈ state.scheduled ∧ other ≠ key}
    flight := Function.update state.flight channel (some item)
    history := state.history ++ [.written item channel] }

theorem write_inv (state : State Key Item Channel Reason) (channel : Channel) (key : Key) (item : Item)
    (rest : List Item) (due : key ∈ state.scheduled) (front : state.pending key = item :: rest) (inv : Inv state) :
    Inv (write channel key item state) := by
  have member : item ∈ state.pending key := by simp [front]
  -- an item in flight would keep its key off the schedule
  have unwritten (other : Channel) : state.flight other ≠ some item := by
    intro flying
    obtain ⟨found, more, frontFound, idle⟩ := inv.flying other item flying
    have same := same_key state inv found key item (by simp [frontFound]) member
    exact idle (same ▸ due)
  refine ⟨inv.sorted, ?_, ?_, fun other due => inv.due other due.1, ?_, ?_, ?_, ?_, ?_⟩
  · intro other found
    simpa [write] using inv.kept other found
  · intro found first last old older
    exact inv.oneKey found first last (by simpa [write] using old) (by simpa [write] using older)
  · intro other found flying
    by_cases same : other = channel
    · subst same
      simp only [write, Function.update_self, Option.some.injEq] at flying
      subst flying
      exact ⟨key, rest, front, fun scheduled => scheduled.2 rfl⟩
    · simp only [write, Function.update_of_ne same] at flying
      obtain ⟨owner, more, frontOwner, idle⟩ := inv.flying other found flying
      exact ⟨owner, more, frontOwner, fun scheduled => idle scheduled.1⟩
  · intro first last found flying flown
    by_cases same : first = channel
    · subst same
      by_cases other : last = first
      · exact other.symm
      · simp only [write, Function.update_self, Option.some.injEq, Function.update_of_ne other] at flying flown
        exact absurd flown (flying ▸ unwritten last)
    · by_cases other : last = channel
      · subst other
        simp only [write, Function.update_self, Option.some.injEq, Function.update_of_ne same] at flying flown
        exact absurd flying (flown ▸ unwritten first)
      · simp only [write, Function.update_of_ne same, Function.update_of_ne other] at flying flown
        exact inv.single first last found flying flown
  · intro found reason old
    obtain ⟨other, loaded⟩ := inv.wasLoaded found reason (by simpa [write] using old)
    exact ⟨other, List.mem_append_left _ loaded⟩
  · rw [write, List.filterMap_append, List.filterMap_cons_none rfl, List.filterMap_nil, List.append_nil]
    exact inv.forgottenOnce
  · intro before found target started
    rcases List.prefix_concat_iff.1 started with same | old
    · -- what was loaded before the first waiting item is no longer waiting
      obtain ⟨rfl, last⟩ := List.append_inj' same rfl
      cases List.singleton_inj.1 last
      refine ⟨key, ((inv.kept key item).1 member).1, fun earlier loaded less => ?_⟩
      have earlierLoaded : .loaded earlier key ∈ state.history := by simpa [write] using loaded
      by_contra unforgotten
      push Not at unforgotten
      have waiting := (inv.kept key earlier).2 ⟨earlierLoaded, unforgotten⟩
      have sorted := inv.sorted key
      rw [front] at waiting sorted
      rcases List.mem_cons.1 waiting with rfl | behind
      · exact lt_irrefl _ less
      · exact lt_asymm less ((List.pairwise_cons.1 sorted).1 earlier behind)
    · obtain ⟨owner, loaded, passed⟩ := inv.inOrder before found target old
      exact ⟨owner, loaded, fun earlier member less => passed earlier (by simpa [write] using member) less⟩

def retry (channel : Channel) (key : Key) (state : State Key Item Channel Reason) : State Key Item Channel Reason :=
  { state with
    scheduled := {other | other ∈ state.scheduled ∨ other = key}
    flight := Function.update state.flight channel none }

theorem retry_inv (state : State Key Item Channel Reason) (channel : Channel) (key : Key) (item : Item)
    (rest : List Item) (flying : state.flight channel = some item) (front : state.pending key = item :: rest)
    (inv : Inv state) : Inv (retry channel key state) := by
  refine ⟨inv.sorted, inv.kept, inv.oneKey, ?_, ?_, ?_, inv.wasLoaded, inv.forgottenOnce, inv.inOrder⟩
  · rintro other (due | rfl)
    · exact inv.due other due
    · simp [retry, front]
  · intro other found flies
    obtain ⟨different, flew⟩ := flight_of_cleared state channel other found flies
    obtain ⟨owner, more, frontOwner, idle⟩ := inv.flying other found flew
    refine ⟨owner, more, frontOwner, ?_⟩
    rintro (scheduled | rfl)
    · exact idle scheduled
    · -- the same first item on two channels
      rw [front, List.cons.injEq] at frontOwner
      obtain ⟨rfl, rfl⟩ := frontOwner
      exact different (inv.single other channel item flew flying)
  · intro first last found flies flew
    exact inv.single first last found (flight_of_cleared state channel first found flies).2
      (flight_of_cleared state channel last found flew).2

end Channels

section Operations

variable [DecidableEq Key] [DecidableEq Channel] [LinearOrder Item]

def finish (channel : Channel) (key : Key) (item : Item) (rest : List Item) (reason : Reason)
    (state : State Key Item Channel Reason) : State Key Item Channel Reason :=
  { pending := Function.update state.pending key rest
    scheduled := {other | other ∈ state.scheduled ∨ other = key ∧ rest ≠ []}
    flight := Function.update state.flight channel none
    history := state.history ++ [.forgotten item reason] }

-- Whether an item may get lost, and which reasons excuse forgetting an item, is
-- left to the instance.
inductive Step (lossy : Prop) (excuse : Item → Reason → Prop) : State Key Item Channel Reason → State Key Item Channel Reason →
    Prop where
  | load (state : State Key Item Channel Reason) (key : Key) (item : Item)
      (fresh : ∀ earlier other, .loaded earlier other ∈ state.history → earlier < item) :
      Step lossy excuse state (load key item state)
  | write (state : State Key Item Channel Reason) (channel : Channel) (key : Key) (item : Item) (rest : List Item)
      (idle : state.flight channel = none) (due : key ∈ state.scheduled) (front : state.pending key = item :: rest) :
      Step lossy excuse state (write channel key item state)
  | lose (state : State Key Item Channel Reason) (key : Key) (loses : lossy) : Step lossy excuse state (lose key state)
  | retry (state : State Key Item Channel Reason) (channel : Channel) (key : Key) (item : Item) (rest : List Item)
      (flying : state.flight channel = some item) (front : state.pending key = item :: rest) :
      Step lossy excuse state (retry channel key state)
  | finish (state : State Key Item Channel Reason) (channel : Channel) (key : Key) (item : Item) (rest : List Item)
      (reason : Reason) (flying : state.flight channel = some item) (front : state.pending key = item :: rest)
      (excused : excuse item reason) : Step lossy excuse state (finish channel key item rest reason state)

theorem finish_inv (state : State Key Item Channel Reason) (channel : Channel) (key : Key) (item : Item)
    (rest : List Item) (reason : Reason) (flying : state.flight channel = some item)
    (front : state.pending key = item :: rest) (inv : Inv state) : Inv (finish channel key item rest reason state) := by
  have sorted := inv.sorted key
  rw [front, List.pairwise_cons] at sorted
  have member : item ∈ state.pending key := by simp [front]
  have unforgotten := ((inv.kept key item).1 member).2
  refine ⟨?_, ?_, ?_, ?_, ?_, ?_, ?_, ?_, ?_⟩
  · intro other
    by_cases same : other = key
    · subst same
      simpa only [finish, Function.update_self] using sorted.2
    · simpa only [finish, Function.update_of_ne same] using inv.sorted other
  · intro other found
    have kept := inv.kept other found
    by_cases same : other = key
    · subst same
      rw [front, List.mem_cons] at kept
      by_cases gone : found = item
      · subst gone
        have passed : found ∉ rest := fun behind => lt_irrefl _ (sorted.1 found behind)
        simpa [finish, passed] using fun _ => ⟨reason, fun _ => rfl⟩
      · simp only [gone, false_or] at kept
        simp [finish, kept, gone]
    · by_cases gone : found = item
      · subst gone
        have elsewhere : found ∉ state.pending other := fun here => same (same_key state inv other key found here member)
        simpa [finish, same, elsewhere] using fun _ => ⟨reason, fun _ => rfl⟩
      · simp [finish, same, kept, gone]
  · intro found first last old older
    exact inv.oneKey found first last (by simpa [finish] using old) (by simpa [finish] using older)
  · intro other due
    by_cases same : other = key
    · subst same
      simp only [finish, Function.update_self]
      rcases due with due | ⟨_, more⟩
      · obtain ⟨owner, behind, frontOwner, idle⟩ := inv.flying channel item flying
        have here := same_key state inv owner other item (by simp [frontOwner]) member
        exact absurd due (here ▸ idle)
      · exact more
    · have old : other ∈ state.scheduled := by simpa [finish, same] using due
      simpa only [finish, Function.update_of_ne same] using inv.due other old
  · intro other found flies
    obtain ⟨different, flew⟩ := flight_of_cleared state channel other found flies
    obtain ⟨owner, more, frontOwner, idle⟩ := inv.flying other found flew
    by_cases same : owner = key
    · subst same
      rw [front, List.cons.injEq] at frontOwner
      obtain ⟨rfl, rfl⟩ := frontOwner
      exact absurd (inv.single other channel item flew flying) different
    · refine ⟨owner, more, by simpa only [finish, Function.update_of_ne same] using frontOwner, ?_⟩
      simp [finish, same, idle]
  · intro first last found flies flew
    exact inv.single first last found (flight_of_cleared state channel first found flies).2
      (flight_of_cleared state channel last found flew).2
  · intro found why forgotten
    simp only [finish, List.mem_append, List.mem_singleton, Action.forgotten.injEq] at forgotten ⊢
    rcases forgotten with old | ⟨rfl, rfl⟩
    · obtain ⟨other, loaded⟩ := inv.wasLoaded found why old
      exact ⟨other, .inl loaded⟩
    · exact ⟨key, .inl ((inv.kept key found).1 member).1⟩
  · rw [finish, List.filterMap_append]
    refine List.nodup_append.2 ⟨inv.forgottenOnce, List.nodup_singleton _, ?_⟩
    intro first old last new
    obtain ⟨why, forgotten⟩ := (mem_forgotten_items state.history first).1 old
    rintro rfl
    rw [List.mem_singleton.1 new] at forgotten
    exact unforgotten why forgotten
  · exact in_order_append _ _ inv.inOrder (fun _ _ same => by cases same) (fun _ _ same => by cases same)

theorem step_inv (lossy : Prop) (excuse : Item → Reason → Prop) (before after : State Key Item Channel Reason)
    (step : Step lossy excuse before after) (inv : Inv before) : Inv after := by
  cases step with
  | load key item fresh => exact load_inv before key item inv fresh
  | write channel key item rest idle due front => exact write_inv before channel key item rest due front inv
  | lose key loses => exact lose_inv before key inv
  | retry channel key item rest flying front => exact retry_inv before channel key item rest flying front inv
  | finish channel key item rest reason flying front _ =>
      exact finish_inv before channel key item rest reason flying front inv

theorem step_covered (excuse : Item → Reason → Prop) (before after : State Key Item Channel Reason)
    (step : Step False excuse before after) (inv : Inv before) (covered : Covered before) : Covered after := by
  intro other found more waiting
  cases step with
  | load key item fresh =>
      by_cases same : other = key
      · subst same
        cases queued : before.pending other with
        | nil => exact .inl (.inr ⟨rfl, queued⟩)
        | cons first rest =>
            simp only [load, Function.update_self, queued, List.cons_append, List.cons.injEq] at waiting
            have old := covered other first rest queued
            rw [waiting.1] at old
            exact old.imp_left .inl
      · simp only [load, Function.update_of_ne same] at waiting
        exact (covered other found more waiting).imp_left .inl
  | write channel key item rest idle due front =>
      by_cases same : other = key
      · subst same
        rw [write, front, List.cons.injEq] at waiting
        exact .inr ⟨channel, by simp [write, waiting.1]⟩
      · rcases covered other found more waiting with scheduled | ⟨carrier, flying⟩
        · exact .inl ⟨scheduled, same⟩
        · have different : carrier ≠ channel := by
            rintro rfl
            rw [idle] at flying
            cases flying
          exact .inr ⟨carrier, by simpa only [write, Function.update_of_ne different] using flying⟩
  | lose key loses => exact loses.elim
  | retry channel key item rest flying front =>
      by_cases same : other = key
      · exact .inl (.inr same)
      · rcases covered other found more waiting with scheduled | ⟨carrier, carries⟩
        · exact .inl (.inl scheduled)
        · have queued : before.pending other = found :: more := waiting
          have different : carrier ≠ channel := by
            rintro rfl
            rw [flying, Option.some.injEq] at carries
            subst carries
            exact same (same_key before inv other key item (by simp [queued]) (by simp [front]))
          exact .inr ⟨carrier, by simpa only [retry, Function.update_of_ne different] using carries⟩
  | finish channel key item rest reason flying front _ =>
      by_cases same : other = key
      · subst same
        simp only [finish, Function.update_self] at waiting
        exact .inl (.inr ⟨rfl, by simp [waiting]⟩)
      · simp only [finish, Function.update_of_ne same] at waiting
        rcases covered other found more waiting with scheduled | ⟨carrier, carries⟩
        · exact .inl (.inl scheduled)
        · have different : carrier ≠ channel := by
            rintro rfl
            rw [flying, Option.some.injEq] at carries
            subst carries
            exact same (same_key before inv other key item (by simp [waiting]) (by simp [front]))
          exact .inr ⟨carrier, by simpa only [finish, Function.update_of_ne different] using carries⟩

abbrev Run (lossy : Prop) (excuse : Item → Reason → Prop) :
    State Key Item Channel Reason → State Key Item Channel Reason → Prop :=
  Relation.ReflTransGen (Step lossy excuse)

theorem run_inv (lossy : Prop) (excuse : Item → Reason → Prop) (before after : State Key Item Channel Reason)
    (run : Run lossy excuse before after) (inv : Inv before) : Inv after := by
  induction run with
  | refl => exact inv
  | tail _ step ih => exact step_inv lossy excuse _ _ step ih

theorem run_covered (excuse : Item → Reason → Prop) (before after : State Key Item Channel Reason)
    (run : Run False excuse before after) (inv : Inv before) (covered : Covered before) : Covered after := by
  induction run with
  | refl => exact covered
  | tail front step ih => exact step_covered excuse _ _ step (run_inv False excuse _ _ front inv) ih

theorem step_weaken (lossy : Prop) (excuse : Item → Reason → Prop) (before after : State Key Item Channel Reason)
    (step : Step lossy (fun _ _ => False) before after) : Step lossy excuse before after := by
  cases step with
  | load key item fresh => exact .load before key item fresh
  | write channel key item rest idle due front => exact .write before channel key item rest idle due front
  | lose key loses => exact .lose before key loses
  | retry channel key item rest flying front => exact .retry before channel key item rest flying front
  | finish channel key item rest reason flying front excused => exact excused.elim

theorem run_weaken (lossy : Prop) (excuse : Item → Reason → Prop) (before after : State Key Item Channel Reason)
    (run : Run lossy (fun _ _ => False) before after) : Run lossy excuse before after :=
  Relation.ReflTransGen.mono (step_weaken lossy excuse) before after run

theorem run_history (lossy : Prop) (excuse : Item → Reason → Prop) (before after : State Key Item Channel Reason)
    (run : Run lossy excuse before after) :
    ∃ added, after.history = before.history ++ added ∧ ∀ item reason, .forgotten item reason ∈ added → excuse item reason := by
  induction run with
  | refl => exact ⟨[], (List.append_nil _).symm, fun _ _ member => by cases member⟩
  | @tail middle last _ step ih =>
      obtain ⟨added, same, excused⟩ := ih
      have one (action : Action Key Item Channel Reason)
          (appended : last.history = middle.history ++ [action])
          (fine : ∀ item reason, action = .forgotten item reason → excuse item reason) :
          ∃ added, last.history = before.history ++ added ∧
            ∀ item reason, .forgotten item reason ∈ added → excuse item reason := by
        refine ⟨added ++ [action], by rw [appended, same, List.append_assoc], fun item reason member => ?_⟩
        rcases List.mem_append.1 member with old | new
        · exact excused item reason old
        · exact fine item reason (List.mem_singleton.1 new).symm
      cases step with
      | load key item fresh => exact one _ rfl (fun _ _ same => by cases same)
      | write channel key item rest idle due front => exact one _ rfl (fun _ _ same => by cases same)
      | lose key loses => exact ⟨added, same, excused⟩
      | retry channel key item rest flying front => exact ⟨added, same, excused⟩
      | finish channel key item rest reason flying front allowed =>
          refine one _ rfl (fun _ _ same => ?_)
          cases same
          exact allowed

end Operations

end KeyedDelivery
