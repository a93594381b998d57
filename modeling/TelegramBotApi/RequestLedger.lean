import TelegramBotApi.SetWebhookSafety

set_option autoImplicit false

namespace TelegramBotApi.Client

open Checked

structure Desk where
  tdClient : Bool
  cmdQueue : List Query
  longPoll : Option Query
  setQuery : Option Query
  active : Option Query
  url : String
  tdQueries : List Query
  answers : List (Query × Answer)

def Handled (query : Query) : Prop := query.method = "getupdates" ∨ IsWebhookQuery query

instance (query : Query) : Decidable (Handled query) := inferInstanceAs (Decidable (_ ∨ _))

inductive Phase where
  | running
  | draining    -- within on_closed
  | ended
deriving DecidableEq

def conflicts : List String :=
  [webhookConflict, "Conflict: terminated by setWebhook request",
    "Conflict: terminated by other getUpdates request; make sure that only one bot instance is running"]

-- The closing errors; a client that may be authorized again later asks for a retry.
def closingErrors : List (Int × String) :=
  [(401, "Unauthorized: invalid api-id/api-hash"), (400, "Logged out"), (401, "Unauthorized"),
    (500, "Internal Server Error: restart")]

inductive GetUpdatesAnswer : Answer → Prop where
  | updates (updates : List TQueueEvent) : GetUpdatesAnswer (.updates updates)
  | conflict (message : String) (known : message ∈ conflicts) : GetUpdatesAnswer (.error 409 message)
  | closing (code : Int) (message : String) (known : (code, message) ∈ closingErrors) : GetUpdatesAnswer (.error code message)
  | later (seconds : Int) (positive : 0 < seconds) : GetUpdatesAnswer (.retryAfter seconds)

namespace Desk

def answer (query : Query) (answer : Answer) (desk : Desk) : Desk :=
  { desk with answers := desk.answers ++ [(query, answer)] }

def answered (desk : Desk) : Multiset Query := desk.answers.map Prod.fst

def held (desk : Desk) : Multiset Query :=
  desk.cmdQueue + (desk.longPoll.toList + (desk.setQuery.toList + desk.active.toList))

def total (hand : List Query) (desk : Desk) : Multiset Query := desk.answered + (desk.held + hand)

theorem total_answer (query : Query) (answer : Answer) (hand : List Query) (desk : Desk) :
    (desk.answer query answer).total hand = desk.total (query :: hand) := by
  simp only [total, answered, held, Desk.answer, List.map_append, List.map_cons, List.map_nil, ← Multiset.coe_add,
    ← Multiset.cons_coe, ← Multiset.singleton_add]
  abel

end Desk

section Ledger

variable {Queue : Type} (env : Environment Queue)

def State.desk (state : State Queue) : Desk where
  tdClient := state.tdClient
  cmdQueue := state.cmdQueue
  longPoll := state.longPollQuery
  setQuery := state.webhookSetQuery
  active := state.activeWebhookSetQuery
  url := state.webhookUrl
  tdQueries := state.tdQueries
  answers := state.answers

-- Every request that was sent is answered, kept or at hand, and the requests that
-- are kept are of the methods they are kept for.
structure Balanced (sent : Multiset Query) (hand : List Query) (phase : Phase) (desk : Desk) : Prop where
  account : (desk.total hand).filter Handled = sent.filter Handled
  exclusive : desk.longPoll ≠ none → desk.url = "" ∧ desk.setQuery = none ∧ desk.active = none
  polls : ∀ query, desk.longPoll = some query → query.method = "getupdates"
  sets : ∀ query, desk.setQuery = some query → IsWebhookQuery query
  activeSets : ∀ query, desk.active = some query → IsWebhookQuery query
  others : ∀ query ∈ desk.tdQueries, ¬ Handled query
  answers : ∀ entry ∈ desk.answers, entry.1.method = "getupdates" → GetUpdatesAnswer entry.2
  client : desk.tdClient = decide (phase = .running)
  ended : phase = .ended → desk.longPoll = none ∧ desk.cmdQueue = []

def Balances (sent : Multiset Query) (hand : List Query) (phase : Phase) (computation : Except Check (State Queue)) : Prop :=
  Meets (fun _ => True) (fun after => Balanced sent hand phase after.desk) computation

def Undesked (state : State Queue) (computation : Except Check (State Queue)) : Prop :=
  Meets (fun _ => True) (fun after => after.desk = state.desk) computation

theorem send_request_undesked (request : Request) (state : State Queue) : Undesked state (sendRequest request state) := by
  unfold sendRequest
  split
  · exact rfl
  · apply meets_require _ _ _ _ _ (fun _ => trivial)
    intro _
    exact rfl

@[simp] theorem ask_desk (types : Nat) (state : State Queue) : (state.ask types).desk = state.desk := by
  unfold State.ask
  split <;> rfl

theorem update_allowed_update_types_undesked (query : Query) (state : State Queue) :
    Meets (fun _ => True) (fun result => result.2.desk = state.desk) (updateAllowedUpdateTypes env query state) := by
  unfold updateAllowedUpdateTypes
  extract_lets types
  split
  · apply meets_bind _ _ _ _ _ (send_request_undesked _ _)
    intro sent kept
    exact kept.trans (ask_desk types state)
  · exact ask_desk types state

theorem report_bot_updates_status_undesked (draws : Draws) (allFetched : Bool) (state : State Queue) :
    Undesked state (reportBotUpdatesStatus draws allFetched state) := by
  unfold reportBotUpdatesStatus
  dsimp only
  split
  · apply meets_bind _ _ _ _ _ (send_request_undesked _ _)
    intro sent kept
    exact kept
  · exact rfl

theorem warn_pending_updates_undesked (draws : Draws) (state : State Queue) :
    Undesked state (warnPendingUpdates env draws state) := by
  unfold warnPendingUpdates
  dsimp only
  split
  · apply meets_bind _ _ _ _ _ (send_request_undesked _ _)
    intro sent kept
    exact kept
  · exact rfl

theorem clear_tqueue_undesked (state : State Queue) : Undesked state (clearTqueue env state) := by
  apply meets_require _ _ _ _ _ (fun _ => trivial)
  intro _
  exact rfl

theorem answer_balanced (sent : Multiset Query) (hand : List Query) (phase : Phase) (query : Query) (answer : Answer)
    (desk : Desk) (balanced : Balanced sent (query :: hand) phase desk)
    (fits : query.method = "getupdates" → GetUpdatesAnswer answer) :
    Balanced sent hand phase (desk.answer query answer) where
  account := by
    rw [Desk.total_answer]
    exact balanced.account
  exclusive := balanced.exclusive
  polls := balanced.polls
  sets := balanced.sets
  activeSets := balanced.activeSets
  others := balanced.others
  answers := by
    intro entry member
    rcases List.mem_append.1 member with old | new
    · exact balanced.answers entry old
    · rw [List.mem_singleton.1 new]
      exact fits
  client := balanced.client
  ended := balanced.ended

theorem closing_error_known (draws : Draws) (state : State Queue) :
    Meets (fun _ => True) (fun error => error.retryAfter = 0 → (error.code, error.message) ∈ closingErrors)
      (getClosingError draws state) := by
  unfold getClosingError
  split
  · split
    · intro _
      decide
    · split
      · intro never
        dsimp only at never
        omega
      · split
        · intro _
          decide
        · intro _
          decide
  · apply meets_require _ _ _ _ _ (fun _ => trivial)
    intro _ _
    decide

theorem closing_error_retry (draws : Draws) (state : State Queue) :
    Meets (fun _ => True) (fun error => 0 ≤ error.retryAfter) (getClosingError draws state) := by
  unfold getClosingError
  split
  · split
    · exact Int.le_refl 0
    · split
      · change 0 ≤ max _ 0 + 1
        omega
      · split <;> exact Int.le_refl 0
  · apply meets_require _ _ _ _ _ (fun _ => trivial)
    intro _
    exact Int.le_refl 0

theorem fail_query_closing_balances (sent : Multiset Query) (hand : List Query) (phase : Phase) (draws : Draws)
    (query : Query) (state : State Queue) (balanced : Balanced sent (query :: hand) phase state.desk) :
    Balances sent hand phase (failQueryClosing draws query state) := by
  apply meets_bind _ _ _ _ _ (meets_and _ _ _ _ (closing_error_known draws state) (closing_error_retry draws state))
  rintro error ⟨known, retry⟩
  by_cases later : 0 < error.retryAfter
  · rw [if_pos later]
    exact answer_balanced sent hand phase query _ state.desk balanced (fun _ => .later error.retryAfter later)
  · rw [if_neg later]
    have now : error.retryAfter = 0 := Int.le_antisymm (Int.not_lt.1 later) retry
    exact answer_balanced sent hand phase query _ state.desk balanced (fun _ => .closing error.code error.message (known now))

theorem fail_member_balances (sent : Multiset Query) (hand : List Query) (phase : Phase) (draws : Draws)
    (query : Query) (emptied state : State Queue) (balanced : Balanced sent hand phase state.desk)
    (taken : Balanced sent (query :: hand) phase emptied.desk) :
    Balances sent hand phase (failMember draws query emptied state) := by
  apply meets_bind _ _ _ _ _ (meets_and _ _ _ _ (closing_error_known draws state) (closing_error_retry draws state))
  rintro error ⟨known, retry⟩
  by_cases later : 0 < error.retryAfter
  · rw [if_pos later]
    exact balanced
  · rw [if_neg later]
    have now : error.retryAfter = 0 := Int.le_antisymm (Int.not_lt.1 later) retry
    exact answer_balanced sent hand phase query _ emptied.desk taken (fun _ => .closing error.code error.message (known now))

theorem fail_query_conflict_desk (draws : Draws) (message : String) (query : Query) (state : State Queue) :
    (failQueryConflict draws message query state).desk = state.desk.answer query (.error 409 message) := by
  unfold failQueryConflict
  split <;> rfl

theorem total_poll (query : Query) (hand : List Query) (desk : Desk) (unset : desk.longPoll = none) :
    Desk.total hand { desk with longPoll := some query } = desk.total (query :: hand) := by
  simp only [Desk.total, Desk.answered, Desk.held, unset, Option.toList_some, Option.toList_none, ← Multiset.cons_coe,
    Multiset.coe_nil, ← Multiset.singleton_add]
  abel

theorem total_set (query : Query) (hand : List Query) (desk : Desk) (unset : desk.setQuery = none) :
    Desk.total hand { desk with setQuery := some query } = desk.total (query :: hand) := by
  simp only [Desk.total, Desk.answered, Desk.held, unset, Option.toList_some, Option.toList_none, ← Multiset.cons_coe,
    Multiset.coe_nil, ← Multiset.singleton_add]
  abel

theorem total_active (query : Query) (hand : List Query) (desk : Desk) (unset : desk.active = none) :
    Desk.total hand { desk with active := some query } = desk.total (query :: hand) := by
  simp only [Desk.total, Desk.answered, Desk.held, unset, Option.toList_some, Option.toList_none, ← Multiset.cons_coe,
    Multiset.coe_nil, ← Multiset.singleton_add]
  abel

theorem total_queue (hand : List Query) (desk : Desk) :
    Desk.total (desk.cmdQueue ++ hand) { desk with cmdQueue := [] } = desk.total hand := by
  simp only [Desk.total, Desk.answered, Desk.held, ← Multiset.coe_add, Multiset.coe_nil]
  abel

theorem unhandled_balanced (sent : Multiset Query) (hand : List Query) (phase : Phase) (query : Query) (desk : Desk)
    (unhandled : ¬ Handled query) : Balanced sent (query :: hand) phase desk ↔ Balanced sent hand phase desk := by
  have same : (desk.total (query :: hand)).filter Handled = (desk.total hand).filter Handled := by
    simp only [Desk.total, ← Multiset.cons_coe, Multiset.add_cons, Multiset.filter_cons_of_neg _ unhandled]
  constructor
  · intro balanced
    exact { balanced with account := same ▸ balanced.account }
  · intro balanced
    exact { balanced with account := same ▸ balanced.account }

theorem take_poll_balanced (sent : Multiset Query) (hand : List Query) (phase : Phase) (query : Query) (desk : Desk)
    (balanced : Balanced sent hand phase desk) (parked : desk.longPoll = some query) :
    Balanced sent (query :: hand) phase { desk with longPoll := none } where
  account := by
    rw [← total_poll query hand { desk with longPoll := none } rfl]
    change (Desk.total hand { desk with longPoll := some query }).filter Handled = _
    rw [← parked]
    exact balanced.account
  exclusive present := absurd rfl present
  polls := by
    intro query found
    cases found
  sets := balanced.sets
  activeSets := balanced.activeSets
  others := balanced.others
  answers := balanced.answers
  client := balanced.client
  ended last := ⟨rfl, (balanced.ended last).2⟩

theorem park_balanced (sent : Multiset Query) (hand : List Query) (phase : Phase) (query : Query) (desk : Desk)
    (balanced : Balanced sent (query :: hand) phase desk) (poll : query.method = "getupdates")
    (unset : desk.longPoll = none) (notEnded : phase ≠ .ended)
    (idle : desk.url = "" ∧ desk.setQuery = none ∧ desk.active = none) :
    Balanced sent hand phase { desk with longPoll := some query } where
  account := by
    rw [total_poll query hand desk unset]
    exact balanced.account
  exclusive _ := idle
  polls := by
    intro parked found
    cases found
    exact poll
  sets := balanced.sets
  activeSets := balanced.activeSets
  others := balanced.others
  answers := balanced.answers
  client := balanced.client
  ended last := absurd last notEnded

theorem take_set_balanced (sent : Multiset Query) (hand : List Query) (phase : Phase) (query : Query) (desk : Desk)
    (balanced : Balanced sent hand phase desk) (waiting : desk.setQuery = some query) :
    Balanced sent (query :: hand) phase { desk with setQuery := none } where
  account := by
    rw [← total_set query hand { desk with setQuery := none } rfl]
    change (Desk.total hand { desk with setQuery := some query }).filter Handled = _
    rw [← waiting]
    exact balanced.account
  exclusive parked := ⟨(balanced.exclusive parked).1, rfl, (balanced.exclusive parked).2.2⟩
  polls := balanced.polls
  sets := by
    intro query found
    cases found
  activeSets := balanced.activeSets
  others := balanced.others
  answers := balanced.answers
  client := balanced.client
  ended := balanced.ended

theorem put_set_balanced (sent : Multiset Query) (hand : List Query) (phase : Phase) (query : Query) (desk : Desk)
    (balanced : Balanced sent (query :: hand) phase desk) (webhook : IsWebhookQuery query) (unset : desk.setQuery = none)
    (unpolled : desk.longPoll = none) : Balanced sent hand phase { desk with setQuery := some query } where
  account := by
    rw [total_set query hand desk unset]
    exact balanced.account
  exclusive parked := absurd unpolled parked
  polls := balanced.polls
  sets := by
    intro waiting found
    cases found
    exact webhook
  activeSets := balanced.activeSets
  others := balanced.others
  answers := balanced.answers
  client := balanced.client
  ended := balanced.ended

theorem take_active_balanced (sent : Multiset Query) (hand : List Query) (phase : Phase) (query : Query) (desk : Desk)
    (balanced : Balanced sent hand phase desk) (waiting : desk.active = some query) :
    Balanced sent (query :: hand) phase { desk with active := none } where
  account := by
    rw [← total_active query hand { desk with active := none } rfl]
    change (Desk.total hand { desk with active := some query }).filter Handled = _
    rw [← waiting]
    exact balanced.account
  exclusive parked := ⟨(balanced.exclusive parked).1, (balanced.exclusive parked).2.1, rfl⟩
  polls := balanced.polls
  sets := balanced.sets
  activeSets := by
    intro query found
    cases found
  others := balanced.others
  answers := balanced.answers
  client := balanced.client
  ended := balanced.ended

theorem put_active_balanced (sent : Multiset Query) (hand : List Query) (phase : Phase) (query : Query) (desk : Desk)
    (balanced : Balanced sent (query :: hand) phase desk) (webhook : IsWebhookQuery query) (unset : desk.active = none)
    (unpolled : desk.longPoll = none) : Balanced sent hand phase { desk with active := some query } where
  account := by
    rw [total_active query hand desk unset]
    exact balanced.account
  exclusive parked := absurd unpolled parked
  polls := balanced.polls
  sets := balanced.sets
  activeSets := by
    intro waiting found
    cases found
    exact webhook
  others := balanced.others
  answers := balanced.answers
  client := balanced.client
  ended := balanced.ended

theorem url_balanced (sent : Multiset Query) (hand : List Query) (phase : Phase) (url : String) (desk : Desk)
    (balanced : Balanced sent hand phase desk) (fits : url = "" ∨ desk.longPoll = none) :
    Balanced sent hand phase { desk with url := url } :=
  { balanced with
    exclusive := fun parked => ⟨fits.resolve_right parked, (balanced.exclusive parked).2⟩ }

theorem not_poll_of_webhook (query : Query) (webhook : IsWebhookQuery query) : query.method ≠ "getupdates" := by
  intro poll
  rcases webhook with set | delete
  · rw [poll] at set
    exact absurd set (by decide)
  · rw [poll] at delete
    exact absurd delete (by decide)

theorem abort_long_poll_desk (draws : Draws) (fromSetWebhook : Bool) (state : State Queue) :
    ∃ answers, (abortLongPoll draws fromSetWebhook state).desk = { state.desk with longPoll := none, answers := answers } := by
  unfold abortLongPoll
  split
  · rename_i missing
    have absent : state.desk.longPoll = none := missing
    exact ⟨state.answers, by rw [← absent]; rfl⟩
  · rw [fail_query_conflict_desk]
    exact ⟨_, rfl⟩

theorem abort_long_poll_balanced (sent : Multiset Query) (hand : List Query) (phase : Phase) (draws : Draws)
    (fromSetWebhook : Bool) (state : State Queue) (balanced : Balanced sent hand phase state.desk) :
    Balanced sent hand phase (abortLongPoll draws fromSetWebhook state).desk := by
  unfold abortLongPoll
  split
  · exact balanced
  · rename_i query parked
    rw [fail_query_conflict_desk]
    apply answer_balanced sent hand phase query _ _ (take_poll_balanced sent hand phase query state.desk balanced parked)
    intro _
    apply GetUpdatesAnswer.conflict
    cases fromSetWebhook <;> decide

section GetUpdates

variable (sent : Multiset Query) (hand : List Query) (phase : Phase) (draws : Draws) (offset limit timeout : Int)
variable (query : Query)

def MayWait (timeout : Int) (phase : Phase) (desk : Desk) : Prop :=
  timeout ≠ 0 → phase ≠ .ended ∧ desk.url = "" ∧ desk.setQuery = none ∧ desk.active = none

theorem answer_get_updates_balances (poll : query.method = "getupdates") (before : Queue) (totalSize : Nat)
    (updates : List TQueueEvent) (state : State Queue) (balanced : Balanced sent (query :: hand) phase state.desk)
    (waits : MayWait timeout phase state.desk) :
    Balances sent hand phase (answerGetUpdates draws offset limit timeout query before totalSize updates state) := by
  apply meets_require _ _ _ _ _ (fun _ => trivial)
  intro _
  by_cases parks : timeout ≠ 0 ∧ updates = []
  · rw [if_pos parks]
    obtain ⟨running, url, set, active⟩ := waits parks.1
    have aborted := abort_long_poll_balanced sent (query :: hand) phase draws false state balanced
    obtain ⟨answers, same⟩ := abort_long_poll_desk draws false state
    change Balanced sent hand phase { (abortLongPoll draws false state).desk with longPoll := some query }
    rw [same] at aborted ⊢
    exact park_balanced sent hand phase query _ aborted poll rfl running ⟨url, set, active⟩
  · rw [if_neg parks]
    apply meets_bind _ _ _ _ _ (report_bot_updates_status_undesked draws _ state)
    intro reported same
    change Balanced sent hand phase (reported.desk.answer query (.updates (jsonUpdates updates)))
    rw [same]
    exact answer_balanced sent hand phase query _ state.desk balanced (fun _ => .updates _)

theorem do_get_updates_balances (poll : query.method = "getupdates") (state : State Queue)
    (balanced : Balanced sent (query :: hand) phase state.desk) (waits : MayWait timeout phase state.desk) :
    Balances sent hand phase (doGetUpdates env draws offset limit timeout query state) := by
  unfold doGetUpdates
  extract_lets cleared first
  have same : cleared.desk = state.desk := by
    unfold cleared
    split <;> rfl
  rw [← same] at balanced waits
  by_cases missing : first ≤ 0
  · rw [if_pos missing]
    exact answer_get_updates_balances sent hand phase draws first limit timeout query poll _ 0 [] cleared balanced waits
  · rw [if_neg missing]
    apply meets_read
    rintro ⟨totalSize, updates, after⟩
    exact answer_get_updates_balances sent hand phase draws first limit timeout query poll _ totalSize updates
      { cleared with tqueue := after } balanced waits

theorem long_poll_wakeup_balances (forceFlag : Bool) (state : State Queue)
    (balanced : Balanced sent hand phase state.desk) :
    Balances sent hand phase (longPollWakeup env draws forceFlag state) := by
  unfold longPollWakeup
  split
  · apply meets_weaken _ _ _ _ _ (warn_pending_updates_undesked env draws state)
    intro after same
    rw [same]
    exact balanced
  · rename_i query parked
    split
    · apply do_get_updates_balances env sent hand phase draws _ _ 0 query (balanced.polls query parked) _
        (take_poll_balanced sent hand phase query state.desk balanced parked)
      exact fun never => absurd rfl never
    · exact balanced

theorem process_get_updates_balances (poll : query.method = "getupdates") (state : State Queue)
    (balanced : Balanced sent (query :: hand) phase state.desk) (running : phase ≠ .ended) :
    Balances sent hand phase (processGetUpdatesQuery env draws query state) := by
  unfold processGetUpdatesQuery
  split
  · change Balanced sent hand phase (failQueryConflict draws webhookConflict query state).desk
    rw [fail_query_conflict_desk]
    exact answer_balanced sent hand phase query _ state.desk balanced (fun _ => .conflict _ (by decide))
  · rename_i free
    apply meets_bind _ _ _ _ _ (update_allowed_update_types_undesked env query state)
    rintro ⟨changed, updated⟩ same
    have same : updated.desk = state.desk := same
    apply do_get_updates_balances env sent hand phase draws _ _ _ query poll
    · change Balanced sent (query :: hand) phase updated.desk
      rw [same]
      exact balanced
    · intro _
      change phase ≠ .ended ∧ updated.desk.url = "" ∧ updated.desk.setQuery = none ∧ updated.desk.active = none
      rw [same]
      rw [not_or, not_or, not_not, Option.not_isSome_iff_eq_none, Option.not_isSome_iff_eq_none] at free
      exact ⟨running, free⟩

end GetUpdates

section SetWebhook

variable (sent : Multiset Query) (hand : List Query) (phase : Phase) (draws : Draws) (query : Query)
variable (webhook : IsWebhookQuery query)

include webhook

theorem answer_webhook_balanced (answer : Answer) (desk : Desk) (balanced : Balanced sent (query :: hand) phase desk) :
    Balanced sent hand phase (desk.answer query answer) :=
  answer_balanced sent hand phase query answer desk balanced (fun poll => absurd poll (not_poll_of_webhook query webhook))

theorem finish_set_webhook_balances (state : State Queue) (balanced : Balanced sent (query :: hand) phase state.desk)
    (unpolled : state.desk.longPoll = none) : Balances sent hand phase (finishSetWebhook env draws query state) := by
  apply meets_require _ _ _ _ _ (fun _ => trivial)
  intro _
  apply meets_require _ _ _ _ _ (fun _ => trivial)
  intro unset
  apply meets_require _ _ _ _ _ (fun _ => trivial)
  intro _
  split
  · exact fail_query_closing_balances sent hand phase draws query state balanced
  · apply meets_require _ _ _ _ _ (fun _ => trivial)
    intro _
    apply meets_bind _ _ _ _ _ (update_allowed_update_types_undesked env query _)
    rintro ⟨changed, updated⟩ same
    apply meets_require _ _ _ _ _ (fun _ => trivial)
    intro _
    apply meets_require _ _ _ _ _ (fun _ => trivial)
    intro _
    have same : updated.desk = { state.desk with url := query.arg "url" } := same
    change Balanced sent hand phase { updated.desk with setQuery := some query }
    rw [same]
    exact put_set_balanced sent hand phase query _
      (url_balanced sent (query :: hand) phase _ state.desk balanced (.inr unpolled)) webhook unset unpolled

theorem set_certificate_balances (state : State Queue) (balanced : Balanced sent (query :: hand) phase state.desk)
    (unpolled : state.desk.longPoll = none) (noActive : state.desk.active = none) :
    Balances sent hand phase (setCertificate env draws query state) := by
  unfold setCertificate
  split
  · exact finish_set_webhook_balances env sent hand phase draws query webhook _ balanced unpolled
  · split
    · exact finish_set_webhook_balances env sent hand phase draws query webhook _ balanced unpolled
    · split
      · exact answer_webhook_balanced sent hand phase query webhook _ state.desk balanced
      · apply meets_require _ _ _ _ _ (fun _ => trivial)
        intro _
        exact put_active_balanced sent hand phase query state.desk balanced webhook noActive unpolled

theorem set_new_webhook_balances (state : State Queue) (balanced : Balanced sent (query :: hand) phase state.desk)
    (unpolled : state.desk.longPoll = none) : Balances sent hand phase (setNewWebhook env draws query state) := by
  unfold setNewWebhook
  split
  · exact answer_webhook_balanced sent hand phase query webhook _ state.desk balanced
  · split
    · exact answer_webhook_balanced sent hand phase query webhook _ state.desk balanced
    · rename_i noActive
      apply meets_require _ _ _ _ _ (fun _ => trivial)
      intro _
      exact set_certificate_balances env sent hand phase draws query webhook state balanced unpolled
        (Option.not_isSome_iff_eq_none.1 noActive)

theorem do_set_webhook_balances (wasDeleted : Bool) (state : State Queue)
    (balanced : Balanced sent (query :: hand) phase state.desk)
    (unpolled : newUrl query ≠ "" → state.desk.longPoll = none) :
    Balances sent hand phase (doSetWebhook env draws query wasDeleted state) := by
  apply meets_require _ _ _ _ _ (fun _ => trivial)
  intro _
  split
  · exact fail_query_closing_balances sent hand phase draws query state balanced
  · apply meets_bind _ (fun cleared => cleared.desk = state.desk)
    · unfold clearPendingUpdates
      split
      · exact clear_tqueue_undesked env state
      · exact rfl
    · intro cleared same
      rw [← same] at balanced unpolled
      split
      · rename_i given
        exact set_new_webhook_balances env sent hand phase draws query webhook cleared balanced (unpolled given)
      · exact answer_webhook_balanced sent hand phase query webhook _ cleared.desk balanced

theorem replace_webhook_balances (state : State Queue) (balanced : Balanced sent (query :: hand) phase state.desk)
    (unset : state.desk.setQuery = none) : Balances sent hand phase (replaceWebhook env draws query state) := by
  unfold replaceWebhook
  extract_lets aborted next
  have kept : Balanced sent (query :: hand) phase next.desk ∧ next.desk.setQuery = none ∧
      (newUrl query ≠ "" → next.desk.longPoll = none) := by
    change Balanced sent (query :: hand) phase aborted.desk ∧ aborted.desk.setQuery = none ∧
      (newUrl query ≠ "" → aborted.desk.longPoll = none)
    unfold aborted
    by_cases given : newUrl query ≠ ""
    · rw [if_pos given]
      refine ⟨abort_long_poll_balanced sent (query :: hand) phase draws true state balanced, ?_⟩
      obtain ⟨answers, same⟩ := abort_long_poll_desk draws true state
      rw [same]
      exact ⟨unset, fun _ => rfl⟩
    · rw [if_neg given]
      exact ⟨balanced, unset, fun present => absurd present given⟩
  obtain ⟨nextBalanced, nextUnset, unpolled⟩ := kept
  split
  · rename_i busy
    apply meets_require _ _ _ _ _ (fun _ => trivial)
    intro _
    apply put_set_balanced sent hand phase query next.desk nextBalanced webhook nextUnset
    by_contra parked
    exact busy (nextBalanced.exclusive parked).1
  · exact do_set_webhook_balances env sent hand phase draws query webhook false next nextBalanced unpolled

theorem keep_webhook_balances (state : State Queue) (balanced : Balanced sent (query :: hand) phase state.desk) :
    Balances sent hand phase (keepWebhook env query state) := by
  apply meets_bind _ _ _ _ _ (update_allowed_update_types_undesked env query state)
  rintro ⟨changed, updated⟩ same
  have same : updated.desk = state.desk := same
  rw [← same] at balanced
  cases changed with
  | true => exact answer_webhook_balanced sent hand phase query webhook _ updated.desk balanced
  | false => exact answer_webhook_balanced sent hand phase query webhook _ updated.desk balanced

theorem start_set_webhook_balances (state : State Queue) (balanced : Balanced sent (query :: hand) phase state.desk) :
    Balances sent hand phase (startSetWebhook env draws query state) := by
  unfold startSetWebhook
  cases waiting : state.webhookSetQuery with
  | some previous =>
      dsimp only
      have failed := fail_query_conflict_desk draws "Conflict: terminated by other setWebhook" previous
        { state with webhookSetQuery := none }
      apply replace_webhook_balances env sent hand phase draws query webhook
      · rw [failed]
        exact answer_webhook_balanced sent (query :: hand) phase previous (balanced.sets previous waiting) _ _
          (take_set_balanced sent (query :: hand) phase previous state.desk balanced waiting)
      · rw [failed]
        rfl
  | none =>
      dsimp only
      split
      · exact answer_webhook_balanced sent hand phase query webhook _ state.desk balanced
      · split
        · exact keep_webhook_balances env sent hand phase query webhook state balanced
        · exact replace_webhook_balances env sent hand phase draws query webhook state balanced waiting

theorem process_set_webhook_balances (state : State Queue) (balanced : Balanced sent (query :: hand) phase state.desk) :
    Balances sent hand phase (processSetWebhookQuery env draws query state) := by
  unfold processSetWebhookQuery
  split
  · exact answer_webhook_balanced sent hand phase query webhook _ state.desk balanced
  · exact start_set_webhook_balances env sent hand phase draws query webhook _ balanced

end SetWebhook

end Ledger

end TelegramBotApi.Client
