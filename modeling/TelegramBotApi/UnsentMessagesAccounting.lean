import TelegramBotApi.UnsentMessages

set_option autoImplicit false

namespace TelegramBotApi.UnsentMessages

open Checked Tables
open Messages (MessageFullId ChatInfo)

def messageCountIn (chatId : Int) (request : SendRequest) : Nat :=
  if request.chatId = chatId then request.messageCount else 0

def State.inFlight (chatId : Int) (state : State) : Nat :=
  ((values state.handlers).map (messageCountIn chatId)).sum

def State.unsent (chatId : Int) (state : State) : Nat :=
  countEntries (fun fullId _ => decide (fullId.1 = chatId)) state.yetUnsentMessages

def State.naming (queryId : Int) (state : State) : Nat :=
  count (fun named => decide (named = queryId)) state.yetUnsentMessages

def State.unsentCount (chatId : Int) (state : State) : Int := valueOr 0 id state.yetUnsentMessageCount chatId

def State.answeredIds (state : State) : Multiset QueryId := (state.answers.map Answer.query : List QueryId)

def State.handlerIds (state : State) : Multiset QueryId := (values state.handlers).map (fun request => request.query.id)

def State.pendingIds (state : State) : Multiset QueryId :=
  (values state.pendingSendMessageQueries).map (fun pending => pending.query.id)

def State.outcome (query : QueryId) (state : State) : Outcome := (state.reports.outcomes.lookup query).getD {}

structure Agrees (pending : PendingSendMessageQuery) (outcome : Outcome) : Prop where
  awaited : (outcome.returned : Int) = outcome.sent + outcome.failed + pending.awaitedMessageCount
  error : pending.error.isSome = true ↔ 0 < outcome.failed
  sole : pending.isMultisend = false → outcome.returned ≤ 1

-- The account between two calls and inside one. There some messages are owed to
-- the count of their chat, and some queries are held by the running function.
structure Accounted (owed : Int → Nat) (held : Multiset QueryId) (state : State) : Prop where
  counts : ∀ chatId, state.unsentCount chatId = state.inFlight chatId + state.unsent chatId + owed chatId
  awaited : ∀ queryId pending, state.pendingSendMessageQueries.lookup queryId = some pending →
    pending.awaitedMessageCount = state.naming queryId
  named : ∀ fullId queryId, state.yetUnsentMessages.lookup fullId = some queryId →
    ∃ pending, state.pendingSendMessageQueries.lookup queryId = some pending ∧
      state.reports.unreported.lookup fullId = some pending.query.id
  known : ∀ fullId, state.yetUnsentMessages.lookup fullId = none → state.reports.unreported.lookup fullId = none
  younger : ∀ queryId pending, state.pendingSendMessageQueries.lookup queryId = some pending →
    queryId < state.currentSendMessageQueryId
  agrees : ∀ queryId pending, state.pendingSendMessageQueries.lookup queryId = some pending →
    Agrees pending (state.outcome pending.query.id)
  apart : ∀ fullId ∈ state.messages, state.reports.unreported.lookup fullId = none
  singles : ∀ handlerId request, state.handlers.lookup handlerId = some request → request.kind = .message →
    request.messageCount = 1
  owned : state.answeredIds + state.handlerIds + state.pendingIds + held = (state.requested : Multiset QueryId)
  distinct : state.requested.Nodup
  unrecorded : ∀ query, query ∈ state.handlerIds ∨ query ∈ held ∨ query ∉ state.requested →
    state.reports.outcomes.lookup query = none
  answered : ∀ answer ∈ state.answers, ∀ outcome, state.reports.outcomes.lookup answer.query = some outcome →
    outcome.sent + outcome.failed = outcome.returned ∧ (answer.reply.isSuccess = true ↔ outcome.failed = 0)

def Waiting (state : State) : Prop :=
  ∀ queryId pending, state.pendingSendMessageQueries.lookup queryId = some pending → 0 < pending.awaitedMessageCount

def nothingOwed : Int → Nat := fun _ => 0

def owing (chatId : Int) (messageCount : Nat) (owed : Int → Nat) : Int → Nat :=
  fun other => owed other + if chatId = other then messageCount else 0

theorem mem_pending_ids (state : State) (queryId : Int) (pending : PendingSendMessageQuery)
    (found : state.pendingSendMessageQueries.lookup queryId = some pending) : pending.query.id ∈ state.pendingIds :=
  Multiset.mem_map_of_mem _ ((mem_values _ _).2 ⟨queryId, found⟩)

theorem naming_erase (state : State) (fullId : MessageFullId) (queryId other : Int)
    (listed : state.yetUnsentMessages.lookup fullId = some queryId) :
    count (fun named => decide (named = other)) (state.yetUnsentMessages.erase fullId) +
      (if queryId = other then 1 else 0) = state.naming other := by
  have erased := count_erase (fun named : Int => decide (named = other)) state.yetUnsentMessages fullId queryId listed
  simp only [decide_eq_true_eq] at erased
  exact erased

theorem unsent_erase (state : State) (fullId : MessageFullId) (queryId chatId : Int)
    (listed : state.yetUnsentMessages.lookup fullId = some queryId) :
    countEntries (fun (other : MessageFullId) (_ : Int) => decide (other.1 = chatId)) (state.yetUnsentMessages.erase fullId) +
      (if fullId.1 = chatId then 1 else 0) = state.unsent chatId := by
  have erased := count_entries_erase (fun (other : MessageFullId) (_ : Int) => decide (other.1 = chatId))
    state.yetUnsentMessages fullId queryId listed
  simp only [decide_eq_true_eq] at erased
  exact erased

section Ownership

variable (owed : Int → Nat) (held : Multiset QueryId) (state : State) (accounted : Accounted owed held state)

include accounted

theorem owners_distinct : (state.answeredIds + state.handlerIds + state.pendingIds + held).Nodup := by
  rw [accounted.owned]
  exact Multiset.coe_nodup.2 accounted.distinct

theorem pending_alone (query : QueryId) (pending : query ∈ state.pendingIds) :
    query ∉ state.answeredIds ∧ query ∉ state.handlerIds ∧ query ∉ held ∧ query ∈ state.requested := by
  have distinct := owners_distinct owed held state accounted
  simp only [Multiset.nodup_add, Multiset.disjoint_left, Multiset.mem_add] at distinct
  obtain ⟨⟨⟨_, _, answersHandlers⟩, _, others⟩, _, outside⟩ := distinct
  refine ⟨fun member => others (.inl member) pending, fun member => others (.inr member) pending,
    outside (.inr pending), ?_⟩
  rw [← Multiset.mem_coe, ← accounted.owned]
  simp only [Multiset.mem_add]
  exact .inl (.inr pending)

theorem pending_key (first last : Int) (pending other : PendingSendMessageQuery)
    (here : state.pendingSendMessageQueries.lookup first = some pending)
    (there : state.pendingSendMessageQueries.lookup last = some other) (same : pending.query.id = other.query.id) :
    first = last := by
  have distinct := owners_distinct owed held state accounted
  simp only [Multiset.nodup_add] at distinct
  exact key_of_distinct (fun pending : PendingSendMessageQuery => pending.query.id) _ first last pending other
    distinct.1.2.1 here there same

end Ownership

section Handlers

variable (owed : Int → Nat) (held : Multiset QueryId) (state : State) (accounted : Accounted owed held state)

include accounted

theorem take_handler (handlerId : Nat) (request : SendRequest) (found : state.handlers.lookup handlerId = some request) :
    ∃ after, takeHandler handlerId state = .ok (request, after) ∧
      after = { state with handlers := state.handlers.erase handlerId } ∧
      Accounted (owing request.chatId request.messageCount owed) (request.query.id ::ₘ held) after := by
  refine ⟨_, by rw [takeHandler, found], rfl, ?_⟩
  have values := values_erase state.handlers handlerId request found
  have ids : state.handlerIds = request.query.id ::ₘ State.handlerIds
    { state with handlers := state.handlers.erase handlerId } := by
    rw [State.handlerIds, ← values, Multiset.map_cons, State.handlerIds]
  exact {
    accounted with
    counts := fun chatId => by
      have sum : state.inFlight chatId = messageCountIn chatId request +
          State.inFlight chatId { state with handlers := state.handlers.erase handlerId } := by
        rw [State.inFlight, ← values, Multiset.map_cons, Multiset.sum_cons, State.inFlight]
      have counts := accounted.counts chatId
      rw [sum] at counts
      simp only [owing, messageCountIn] at counts ⊢
      change state.unsentCount chatId = _ + (state.unsent chatId : Int) + _
      omega
    singles := fun other otherRequest there => by
      simp only [lookup_erase] at there
      split at there
      · cases there
      · exact accounted.singles other otherRequest there
    owned := by
      rw [← accounted.owned, ids]
      simp only [Multiset.add_cons, Multiset.cons_add]
      rfl
    unrecorded := fun query cause => by
      apply accounted.unrecorded query
      rw [ids]
      rcases cause with handled | holds | unknown
      · exact .inl (Multiset.mem_cons_of_mem handled)
      · rcases Multiset.mem_cons.1 holds with rfl | holds
        · exact .inl (Multiset.mem_cons_self _ _)
        · exact .inr (.inl holds)
      · exact .inr (.inr unknown) }

omit accounted in
theorem lowered_value (table : Table Int Int) (chatId left other : Int) :
    valueOr 0 id (if left = 0 then table.erase chatId else table.insert chatId left) other =
      if other = chatId then left else valueOr 0 id table other := by
  by_cases last : left = 0
  · rw [if_pos last, value_or_erase, Function.update_apply, last]
  · rw [if_neg last, value_or_insert, Function.update_apply, id]

theorem decrease_pays (chatId : Int) (messageCount : Nat) (rest : Int → Nat) (positive : 0 < messageCount)
    (owes : owed = owing chatId messageCount rest) :
    ∃ after, decreaseYetUnsentMessageCount chatId messageCount state = .ok after ∧
      after = { state with yetUnsentMessageCount := after.yetUnsentMessageCount } ∧ Accounted rest held after := by
  have here := accounted.counts chatId
  rw [owes, owing, if_pos rfl, State.unsentCount] at here
  unfold decreaseYetUnsentMessageCount
  cases found : state.yetUnsentMessageCount.lookup chatId with
  | none =>
      rw [value_or_missing 0 id _ _ found] at here
      omega
  | some stored =>
      rw [value_or_found 0 id _ _ stored found, id] at here
      simp only [require_true Check.countEnough (stored ≥ (messageCount : Int)) (by omega), ok_bind]
      refine ⟨_, rfl, rfl, ?_⟩
      exact {
        accounted with
        counts := fun other => by
          have before := accounted.counts other
          rw [owes] at before
          simp only [State.unsentCount, owing] at before ⊢
          change _ = (state.inFlight other : Int) + (state.unsent other : Int) + _
          rw [lowered_value]
          by_cases same : other = chatId
          · subst same
            rw [value_or_found 0 id _ _ stored found, if_pos rfl] at before
            rw [if_pos rfl]
            simp only [id] at before
            omega
          · rw [if_neg (Ne.symm same)] at before
            rw [if_neg same]
            omega }

end Handlers

theorem answer_held (owed : Int → Nat) (held : Multiset QueryId) (state : State) (query : Query) (reply : Reply)
    (accounted : Accounted owed (query.id ::ₘ held) state) : Accounted owed held (state.answer query reply) :=
  { accounted with
    owned := by
      have answered : (state.answer query reply).answeredIds = query.id ::ₘ state.answeredIds := by
        rw [State.answeredIds, State.answeredIds, State.answer, List.map_append, ← Multiset.coe_add, add_comm]
        rfl
      rw [answered, Multiset.cons_add, Multiset.cons_add, Multiset.cons_add, ← Multiset.add_cons]
      exact accounted.owned
    unrecorded := fun other cause => accounted.unrecorded other (by
      rcases cause with handled | holds | unknown
      · exact .inl handled
      · exact .inr (.inl (Multiset.mem_cons_of_mem holds))
      · exact .inr (.inr unknown))
    answered := fun answer member outcome found => by
      rcases List.mem_append.1 member with old | new
      · exact accounted.answered answer old outcome found
      · cases List.mem_singleton.1 new
        have unrecorded := accounted.unrecorded query.id (.inr (.inl (Multiset.mem_cons_self _ _)))
        change state.reports.outcomes.lookup query.id = some outcome at found
        rw [unrecorded] at found
        cases found }

theorem pending_ids_insert_new (state : State) (queryId : Int) (pending : PendingSendMessageQuery)
    (absent : state.pendingSendMessageQueries.lookup queryId = none) :
    (state.setPending queryId pending).pendingIds = pending.query.id ::ₘ state.pendingIds := by
  rw [State.pendingIds, State.setPending, values_insert_new _ _ _ absent, Multiset.map_cons, State.pendingIds]

theorem pending_ids_replace (state : State) (queryId : Int) (old new : PendingSendMessageQuery)
    (found : state.pendingSendMessageQueries.lookup queryId = some old) (same : new.query = old.query) :
    (state.setPending queryId new).pendingIds = state.pendingIds := by
  have replaced := congrArg (Multiset.map (fun pending : PendingSendMessageQuery => pending.query.id))
    (values_replace state.pendingSendMessageQueries queryId old new found)
  rw [Multiset.map_cons, Multiset.map_cons, same] at replaced
  exact (Multiset.cons_inj_right _).1 replaced

theorem pending_ids_erase (state : State) (queryId : Int) (pending : PendingSendMessageQuery)
    (found : state.pendingSendMessageQueries.lookup queryId = some pending) :
    pending.query.id ::ₘ (state.erasePending queryId).pendingIds = state.pendingIds := by
  rw [State.pendingIds, State.pendingIds, ← values_erase state.pendingSendMessageQueries queryId pending found,
    Multiset.map_cons, State.erasePending]

theorem unnamed_query (owed : Int → Nat) (held : Multiset QueryId) (state : State) (accounted : Accounted owed held state)
    (queryId : Int) (absent : state.pendingSendMessageQueries.lookup queryId = none) : state.naming queryId = 0 := by
  rw [State.naming, count_zero_iff]
  intro fullId named found
  refine decide_eq_false (fun same => ?_)
  subst same
  obtain ⟨pending, present, _⟩ := accounted.named fullId named found
  rw [absent] at present
  cases present

theorem get_send_message_query_id (owed : Int → Nat) (held : Multiset QueryId) (state : State) (query : Query)
    (isMultisend : Bool) (accounted : Accounted owed (query.id ::ₘ held) state) :
    ∃ after, getSendMessageQueryId query isMultisend state = .ok (state.currentSendMessageQueryId, after) ∧
      after = State.setPending state.currentSendMessageQueryId { query := query, isMultisend := isMultisend }
        { state with currentSendMessageQueryId := state.currentSendMessageQueryId + 1 } ∧
      Accounted owed held after := by
  have absent : state.pendingSendMessageQueries.lookup state.currentSendMessageQueryId = none := by
    cases found : state.pendingSendMessageQueries.lookup state.currentSendMessageQueryId with
    | none => rfl
    | some pending => exact absurd (accounted.younger _ _ found) (lt_irrefl _)
  have unrecorded := accounted.unrecorded query.id (.inr (.inl (Multiset.mem_cons_self _ _)))
  refine ⟨_, ?_, rfl, ?_⟩
  · rw [getSendMessageQueryId, require_true _ _ absent]
    rfl
  exact {
    accounted with
    awaited := fun queryId pending found => by
      simp only [State.setPending, lookup_insert] at found
      split at found
      · rename_i same
        cases found
        have unnamed := unnamed_query owed _ state accounted _ absent
        rw [same]
        exact congrArg Nat.cast unnamed.symm
      · exact accounted.awaited queryId pending found
    named := fun fullId queryId found => by
      obtain ⟨pending, present, reported⟩ := accounted.named fullId queryId found
      have different : queryId ≠ state.currentSendMessageQueryId := (accounted.younger _ _ present).ne
      exact ⟨pending, by simp only [State.setPending, lookup_insert, if_neg different, present], reported⟩
    younger := fun queryId pending found => by
      simp only [State.setPending, lookup_insert] at found ⊢
      split at found
      · omega
      · have := accounted.younger queryId pending found
        omega
    agrees := fun queryId pending found => by
      simp only [State.setPending, lookup_insert] at found
      split at found
      · cases found
        change Agrees _ ((state.reports.outcomes.lookup query.id).getD {})
        rw [unrecorded]
        exact ⟨rfl, by simp, fun _ => Nat.zero_le 1⟩
      · exact accounted.agrees queryId pending found
    owned := by
      have ids := pending_ids_insert_new { state with currentSendMessageQueryId := state.currentSendMessageQueryId + 1 }
        state.currentSendMessageQueryId { query := query, isMultisend := isMultisend } absent
      rw [ids, Multiset.add_cons, Multiset.cons_add, ← Multiset.add_cons]
      exact accounted.owned
    unrecorded := fun other cause => accounted.unrecorded other (by
      rcases cause with handled | holds | unknown
      · exact .inl handled
      · exact .inr (.inl (Multiset.mem_cons_of_mem holds))
      · exact .inr (.inr unknown)) }

theorem outcome_of_other (outcomes : Table QueryId Outcome) (query other : QueryId) (outcome : Outcome)
    (different : other ≠ query) : (outcomes.insert query outcome).lookup other = outcomes.lookup other := by
  rw [lookup_insert, if_neg different]

theorem unreported_of_fresh (owed : Int → Nat) (held : Multiset QueryId) (state : State) (accounted : Accounted owed held state)
    (fullId : MessageFullId) (fresh : state.reports.unreported.lookup fullId = none) :
    state.yetUnsentMessages.lookup fullId = none := by
  cases found : state.yetUnsentMessages.lookup fullId with
  | none => rfl
  | some queryId =>
      obtain ⟨_, _, reported⟩ := accounted.named fullId queryId found
      rw [fresh] at reported
      cases reported

def State.withMessage (queryId : Int) (pending : PendingSendMessageQuery) (message : MessageFullId) (state : State) : State :=
  State.setPending queryId { pending with
      awaitedMessageCount := pending.awaitedMessageCount + 1
      totalMessageCount := pending.totalMessageCount + 1 }
    { state with
      yetUnsentMessages := state.yetUnsentMessages.insert message queryId
      reports := state.reports.returned pending.query.id message }

theorem return_message (owed : Int → Nat) (held : Multiset QueryId) (state : State) (chatId queryId : Int)
    (pending : PendingSendMessageQuery) (message : MessageFullId)
    (accounted : Accounted (owing chatId 1 owed) held state)
    (found : state.pendingSendMessageQueries.lookup queryId = some pending) (fresh : Fresh state chatId message)
    (sole : pending.isMultisend = false → (state.outcome pending.query.id).returned = 0) :
    returnMessage pending.query.id queryId state (some message) = .ok (state.withMessage queryId pending message) ∧
      Accounted owed held (state.withMessage queryId pending message) := by
  obtain ⟨inChat, unreported, unknown⟩ := fresh
  rw [← AList.lookup_eq_none] at unreported
  have absent := unreported_of_fresh _ held state accounted message unreported
  have alone := pending_alone _ held state accounted pending.query.id
    (mem_pending_ids state queryId pending found)
  have pendingHere : (state.withMessage queryId pending message).pendingSendMessageQueries.lookup queryId = some { pending with
      awaitedMessageCount := pending.awaitedMessageCount + 1
      totalMessageCount := pending.totalMessageCount + 1 } := AList.lookup_insert _
  constructor
  · rw [returnMessage, onSentMessage]
    simp only [Option.elim_some, pure_bind, require_true Check.messageEmplaced _ absent, ok_bind, pendingQuery, found]
    rfl
  exact {
    counts := fun other => by
      have counts := accounted.counts other
      have unsent : (state.withMessage queryId pending message).unsent other =
          state.unsent other + if message.1 = other then 1 else 0 := by
        have inserted := count_entries_insert_new (fun (fullId : MessageFullId) (_ : Int) => decide (fullId.1 = other))
          state.yetUnsentMessages message queryId absent
        simp only [decide_eq_true_eq] at inserted
        exact inserted
      rw [unsent]
      change state.unsentCount other = (state.inFlight other : Int) + _ + _
      simp only [owing, ← inChat] at counts
      omega
    awaited := fun other otherPending present => by
      have naming : (state.withMessage queryId pending message).naming other =
          state.naming other + if queryId = other then 1 else 0 := by
        have inserted := count_insert_new (fun named : Int => decide (named = other)) state.yetUnsentMessages message
          queryId absent
        simp only [decide_eq_true_eq] at inserted
        exact inserted
      rw [naming]
      by_cases same : other = queryId
      · subst same
        cases Option.some.inj (pendingHere.symm.trans present)
        have before := accounted.awaited other pending found
        rw [if_pos rfl]
        push_cast
        linarith
      · simp only [State.withMessage, State.setPending, lookup_insert, if_neg same] at present
        rw [if_neg (Ne.symm same)]
        exact accounted.awaited other otherPending present
    named := fun fullId named present => by
      simp only [State.withMessage, State.setPending, Reports.returned, lookup_insert] at present ⊢
      by_cases same : fullId = message
      · rw [if_pos same] at present
        cases present
        exact ⟨_, if_pos rfl, if_pos same⟩
      · rw [if_neg same] at present
        obtain ⟨otherPending, there, reported⟩ := accounted.named fullId named present
        by_cases own : named = queryId
        · subst own
          cases Option.some.inj (found.symm.trans there)
          exact ⟨_, if_pos rfl, by rw [if_neg same, reported]⟩
        · exact ⟨otherPending, by rw [if_neg own, there], by rw [if_neg same, reported]⟩
    known := fun fullId missing => by
      simp only [State.withMessage, State.setPending, Reports.returned, lookup_insert] at missing ⊢
      by_cases same : fullId = message
      · rw [if_pos same] at missing
        cases missing
      · rw [if_neg same] at missing ⊢
        exact accounted.known fullId missing
    younger := fun other otherPending present => by
      by_cases same : other = queryId
      · subst same
        exact accounted.younger other pending found
      · simp only [State.withMessage, State.setPending, lookup_insert, if_neg same] at present
        exact accounted.younger other otherPending present
    agrees := fun other otherPending present => by
      by_cases same : other = queryId
      · subst same
        cases Option.some.inj (pendingHere.symm.trans present)
        have before := accounted.agrees other pending found
        have outcome : (state.withMessage other pending message).outcome pending.query.id =
            { state.outcome pending.query.id with returned := (state.outcome pending.query.id).returned + 1 } := by
          simp [State.outcome, State.withMessage, State.setPending, Reports.returned]
        rw [outcome]
        refine ⟨?_, before.error, fun single => by rw [sole single]⟩
        have awaited := before.awaited
        push_cast
        linarith
      · simp only [State.withMessage, State.setPending, lookup_insert, if_neg same] at present
        have different : otherPending.query.id ≠ pending.query.id := fun equal =>
          same (pending_key _ held state accounted other queryId otherPending pending present found equal)
        have kept : (state.withMessage queryId pending message).outcome otherPending.query.id =
            state.outcome otherPending.query.id :=
          congrArg (fun found : Option Outcome => found.getD {}) (outcome_of_other _ _ _ _ different)
        rw [kept]
        exact accounted.agrees other otherPending present
    apart := fun fullId member => by
      have different : fullId ≠ message := fun same => unknown (same ▸ member)
      simp only [State.withMessage, State.setPending, Reports.returned, lookup_insert, if_neg different]
      exact accounted.apart fullId member
    singles := accounted.singles
    owned := by
      have ids : (state.withMessage queryId pending message).pendingIds = state.pendingIds :=
        pending_ids_replace { state with
          yetUnsentMessages := state.yetUnsentMessages.insert message queryId
          reports := state.reports.returned pending.query.id message } queryId pending _ found rfl
      rw [ids]
      exact accounted.owned
    distinct := accounted.distinct
    unrecorded := fun query cause => by
      have different : query ≠ pending.query.id := by
        rintro rfl
        rcases cause with handled | holds | missing
        · exact alone.2.1 handled
        · exact alone.2.2.1 holds
        · exact missing alone.2.2.2
      exact (outcome_of_other _ _ _ _ different).trans (accounted.unrecorded query cause)
    answered := fun answer member outcome present => by
      have different : answer.query ≠ pending.query.id := fun same =>
        alone.1 (same ▸ Multiset.mem_coe.2 (List.mem_map_of_mem member))
      exact accounted.answered answer member outcome ((outcome_of_other _ _ _ _ different).symm.trans present) }

@[simp] theorem owing_zero (chatId : Int) (owed : Int → Nat) : owing chatId 0 owed = owed := by
  funext other
  simp [owing]

theorem owing_succ (chatId : Int) (messageCount : Nat) (owed : Int → Nat) :
    owing chatId (messageCount + 1) owed = owing chatId 1 (owing chatId messageCount owed) := by
  funext other
  simp only [owing]
  split <;> omega

theorem fresh_after (state : State) (chatId queryId : Int) (pending : PendingSendMessageQuery) (message other : MessageFullId)
    (fresh : Fresh state chatId other) (different : other ≠ message) :
    Fresh (state.withMessage queryId pending message) chatId other := by
  refine ⟨fresh.1, ?_, fresh.2.2⟩
  rw [← AList.lookup_eq_none]
  change (state.reports.unreported.insert message _).lookup other = none
  rw [lookup_insert, if_neg different, AList.lookup_eq_none]
  exact fresh.2.1

theorem return_messages (owed : Int → Nat) (held : Multiset QueryId) (chatId queryId : Int) (messages : List MessageFullId)
    (distinct : messages.Nodup) (state : State) (pending : PendingSendMessageQuery)
    (accounted : Accounted (owing chatId messages.length owed) held state)
    (found : state.pendingSendMessageQueries.lookup queryId = some pending) (multisend : pending.isMultisend = true)
    (fresh : ∀ message ∈ messages, Fresh state chatId message) :
    ∃ after, (messages.map some).foldlM (returnMessage pending.query.id queryId) state = .ok after ∧
      Accounted owed held after ∧
      (∀ other, other ≠ queryId → after.pendingSendMessageQueries.lookup other = state.pendingSendMessageQueries.lookup other) ∧
      ∃ last, after.pendingSendMessageQueries.lookup queryId = some last ∧
        last.awaitedMessageCount = pending.awaitedMessageCount + messages.length := by
  induction messages generalizing state pending with
  | nil => exact ⟨state, rfl, by simpa using accounted, fun _ _ => rfl, pending, found, by simp⟩
  | cons message messages ih =>
      have distinct := List.nodup_cons.1 distinct
      rw [List.length_cons, owing_succ] at accounted
      obtain ⟨returned, next⟩ := return_message _ held state chatId queryId pending message accounted found
        (fresh message List.mem_cons_self) (fun single => by rw [multisend] at single; cases single)
      obtain ⟨after, done, paid, others, last, lastFound, awaited⟩ := ih distinct.2 (state.withMessage queryId pending message)
        { pending with
          awaitedMessageCount := pending.awaitedMessageCount + 1
          totalMessageCount := pending.totalMessageCount + 1 } next (AList.lookup_insert _) multisend
        (fun other member => fresh_after state chatId queryId pending message other
          (fresh other (List.mem_cons_of_mem message member)) (fun same => distinct.1 (same ▸ member)))
      refine ⟨after, ?_, paid, fun other different => ?_, last, lastFound, ?_⟩
      · rw [List.map_cons, List.foldlM_cons, returned, ok_bind]
        exact done
      · rw [others other different]
        simp only [State.withMessage, State.setPending, lookup_insert, if_neg different]
      · rw [awaited, List.length_cons]
        push_cast
        ring

theorem answer_messages (owed : Int → Nat) (held : Multiset QueryId) (state : State) (chatId : Int) (query : Query)
    (messages : List MessageFullId)
    (accounted : Accounted (owing chatId messages.length owed) (query.id ::ₘ held) state) (waiting : Waiting state)
    (nonempty : messages ≠ []) (distinct : messages.Nodup) (fresh : ∀ message ∈ messages, Fresh state chatId message) :
    ∃ after, (do
        let (queryId, state) ← getSendMessageQueryId query true state
        (messages.map some).foldlM (returnMessage query.id queryId) state) = .ok after ∧
      Accounted owed held after ∧ Waiting after := by
  obtain ⟨started, given, same, accounted⟩ := get_send_message_query_id _ held state query true accounted
  subst same
  obtain ⟨after, done, paid, others, last, found, awaited⟩ := return_messages owed held chatId
    state.currentSendMessageQueryId messages distinct _ { query := query, isMultisend := true } accounted
    (AList.lookup_insert _) rfl fresh
  refine ⟨after, by rw [given, ok_bind]; exact done, paid, fun queryId pending present => ?_⟩
  by_cases own : queryId = state.currentSendMessageQueryId
  · subst own
    cases Option.some.inj (found.symm.trans present)
    have positive := List.length_pos_of_ne_nil nonempty
    rw [awaited]
    change 0 < (0 : Int) + _
    omega
  · rw [others queryId own] at present
    simp only [State.setPending, lookup_insert, if_neg own] at present
    exact waiting queryId pending present

section Fates

variable (owed : Int → Nat) (held : Multiset QueryId) (state : State) (accounted : Accounted owed held state)
variable (fullId : MessageFullId) (queryId : Int) (pending : PendingSendMessageQuery)
variable (listed : state.yetUnsentMessages.lookup fullId = some queryId)
variable (found : state.pendingSendMessageQueries.lookup queryId = some pending)

include accounted

theorem unreported_listed (query : QueryId) (unreported : state.reports.unreported.lookup fullId = some query) :
    ∃ queryId pending, state.yetUnsentMessages.lookup fullId = some queryId ∧
      state.pendingSendMessageQueries.lookup queryId = some pending := by
  cases listed : state.yetUnsentMessages.lookup fullId with
  | none =>
      rw [accounted.known fullId listed] at unreported
      cases unreported
  | some queryId =>
      obtain ⟨pending, found, _⟩ := accounted.named fullId queryId listed
      exact ⟨queryId, pending, rfl, found⟩

include listed

theorem extract_listed :
    ∃ counts, extractYetUnsentMessageQueryId fullId state = .ok (queryId, { state with
        yetUnsentMessages := state.yetUnsentMessages.erase fullId
        yetUnsentMessageCount := counts }) ∧
      ∀ chatId, valueOr 0 id counts chatId = state.unsentCount chatId - if fullId.1 = chatId then 1 else 0 := by
  have here := accounted.counts fullId.1
  have unsent := unsent_erase state fullId queryId fullId.1 listed
  rw [if_pos rfl] at unsent
  rw [extractYetUnsentMessageQueryId, listed]
  simp only [decreaseYetUnsentMessageCount]
  cases stored : state.yetUnsentMessageCount.lookup fullId.1 with
  | none =>
      rw [State.unsentCount, value_or_missing 0 id _ _ stored] at here
      omega
  | some number =>
      rw [State.unsentCount, value_or_found 0 id _ _ number stored, id] at here
      simp only [require_true Check.countEnough (number ≥ 1) (by omega), ok_bind]
      refine ⟨_, rfl, fun chatId => ?_⟩
      rw [lowered_value]
      by_cases same : chatId = fullId.1
      · rw [if_pos same, if_pos same.symm, same, State.unsentCount, value_or_found 0 id _ _ number stored, id]
      · rw [if_neg same, if_neg (Ne.symm same), sub_zero, State.unsentCount]

include found

theorem fate_accounted (sent : Bool) (counts : Table Int Int) (pendings : Table Int PendingSendMessageQuery)
    (answers : List Answer)
    (lowered : ∀ chatId, valueOr 0 id counts chatId = state.unsentCount chatId - if fullId.1 = chatId then 1 else 0)
    (others : ∀ other, other ≠ queryId → pendings.lookup other = state.pendingSendMessageQueries.lookup other)
    (kept : ∀ last, pendings.lookup queryId = some last → last.query = pending.query ∧
      last.isMultisend = pending.isMultisend ∧ last.awaitedMessageCount = pending.awaitedMessageCount - 1 ∧
      (last.error.isSome = true ↔ 0 < ((state.outcome pending.query.id).report sent).failed))
    (finished : pendings.lookup queryId = none → pending.awaitedMessageCount = 1)
    (owners : ((answers.map Answer.query : List QueryId) : Multiset QueryId) +
      (values pendings).map (fun pending => pending.query.id) = state.answeredIds + state.pendingIds)
    (replies : ∀ answer ∈ answers, answer ∈ state.answers ∨ pendings.lookup queryId = none ∧
      answer.query = pending.query.id ∧
      (answer.reply.isSuccess = true ↔ ((state.outcome pending.query.id).report sent).failed = 0)) :
    Accounted owed held { state with
      yetUnsentMessages := state.yetUnsentMessages.erase fullId
      yetUnsentMessageCount := counts
      pendingSendMessageQueries := pendings
      answers := answers
      reports := state.reports.reported fullId sent } := by
  have reported : state.reports.unreported.lookup fullId = some pending.query.id := by
    obtain ⟨present, same, reported⟩ := accounted.named fullId queryId listed
    cases Option.some.inj (found.symm.trans same)
    exact reported
  have naming := fun other => naming_erase state fullId queryId other listed
  have alone := pending_alone owed held state accounted pending.query.id
    (mem_pending_ids state queryId pending found)
  have agreesBefore := accounted.agrees queryId pending found
  have reports : state.reports.reported fullId sent =
      ⟨state.reports.unreported.erase fullId,
        state.reports.outcomes.insert pending.query.id ((state.outcome pending.query.id).report sent)⟩ := by
    rw [Reports.reported, reported]
    rfl
  have otherOutcome (query : QueryId) (different : query ≠ pending.query.id) :
      (state.reports.reported fullId sent).outcomes.lookup query = state.reports.outcomes.lookup query := by
    rw [reports]
    exact outcome_of_other _ _ _ _ different
  have ownOutcome : (state.reports.reported fullId sent).outcomes.lookup pending.query.id =
      some ((state.outcome pending.query.id).report sent) := by
    rw [reports]
    exact AList.lookup_insert _
  have fewer : (((state.outcome pending.query.id).report sent).sent : Int) +
      ((state.outcome pending.query.id).report sent).failed =
        (state.outcome pending.query.id).sent + (state.outcome pending.query.id).failed + 1 := by
    cases sent <;> simp only [Outcome.report, if_true, Bool.false_eq_true, if_false] <;> push_cast <;> ring
  have sameReturned : ((state.outcome pending.query.id).report sent).returned = (state.outcome pending.query.id).returned := by
    cases sent <;> rfl
  exact {
    counts := fun chatId => by
      have before := accounted.counts chatId
      have unsent := unsent_erase state fullId queryId chatId listed
      have after := lowered chatId
      simp only [State.unsentCount, State.inFlight, State.unsent] at before unsent after ⊢
      by_cases same : fullId.1 = chatId
      · rw [if_pos same] at unsent after
        omega
      · rw [if_neg same] at unsent after
        omega
    awaited := fun other otherPending there => by
      have fewerNamed := naming other
      simp only [State.naming] at fewerNamed ⊢
      by_cases same : other = queryId
      · subst same
        rw [(kept otherPending there).2.2.1, accounted.awaited other pending found, State.naming]
        rw [if_pos rfl] at fewerNamed
        omega
      · rw [others other same] at there
        rw [if_neg (Ne.symm same)] at fewerNamed
        rw [accounted.awaited other otherPending there, State.naming]
        omega
    named := fun otherId named there => by
      simp only [lookup_erase] at there
      split at there
      · cases there
      · rename_i different
        obtain ⟨otherPending, before, unreported⟩ := accounted.named otherId named there
        simp only [reports, lookup_erase, if_neg different, unreported]
        by_cases same : named = queryId
        · subst same
          cases Option.some.inj (found.symm.trans before)
          cases left : pendings.lookup named with
          | some last => exact ⟨last, rfl, by rw [(kept last left).1]⟩
          | none =>
              have stays : (state.yetUnsentMessages.erase fullId).lookup otherId = some named := by
                rw [lookup_erase, if_neg different, there]
              have still := count_pos (fun other : Int => decide (other = named)) _ otherId named stays (decide_eq_true rfl)
              have one := finished left
              have fewerNamed := naming named
              rw [accounted.awaited named pending found] at one
              rw [if_pos rfl] at fewerNamed
              omega
        · exact ⟨otherPending, by rw [others named same, before], rfl⟩
    known := fun otherId missing => by
      simp only [reports, lookup_erase] at missing ⊢
      split
      · rfl
      · rename_i different
        rw [if_neg different] at missing
        exact accounted.known otherId missing
    younger := fun other otherPending there => by
      by_cases same : other = queryId
      · subst same
        exact accounted.younger other pending found
      · rw [others other same] at there
        exact accounted.younger other otherPending there
    agrees := fun other otherPending there => by
      by_cases same : other = queryId
      · subst same
        obtain ⟨sameQuery, sameKind, awaited, error⟩ := kept otherPending there
        rw [State.outcome, sameQuery, ownOutcome, Option.getD_some]
        refine ⟨?_, error, fun single => ?_⟩
        · have before := agreesBefore.awaited
          rw [awaited, sameReturned]
          linarith
        · rw [sameReturned]
          exact agreesBefore.sole (sameKind ▸ single)
      · rw [others other same] at there
        have different : otherPending.query.id ≠ pending.query.id := fun equal =>
          same (pending_key owed held state accounted other queryId otherPending pending there found equal)
        rw [State.outcome, otherOutcome _ different]
        exact accounted.agrees other otherPending there
    apart := fun otherId member => by
      simp only [reports, lookup_erase]
      split
      · rfl
      · exact accounted.apart otherId member
    singles := accounted.singles
    owned := by
      rw [← accounted.owned, add_right_comm state.answeredIds, ← owners]
      change _ + state.handlerIds + _ + held = _
      rw [add_right_comm (((answers.map Answer.query : List QueryId)) : Multiset QueryId)]
      rfl
    distinct := accounted.distinct
    unrecorded := fun query cause => by
      have different : query ≠ pending.query.id := by
        rintro rfl
        rcases cause with handled | holds | missing
        · exact alone.2.1 handled
        · exact alone.2.2.1 holds
        · exact missing alone.2.2.2
      exact (otherOutcome query different).trans (accounted.unrecorded query cause)
    answered := fun answer member outcome there => by
      rcases replies answer member with old | ⟨last, same, success⟩
      · have different : answer.query ≠ pending.query.id := fun same =>
          alone.1 (same ▸ Multiset.mem_coe.2 (List.mem_map_of_mem old))
        exact accounted.answered answer old outcome ((otherOutcome _ different).symm.trans there)
      · have own : (state.reports.reported fullId sent).outcomes.lookup pending.query.id = some outcome := same ▸ there
        cases Option.some.inj (ownOutcome.symm.trans own)
        refine ⟨?_, success⟩
        have before := agreesBefore.awaited
        rw [finished last] at before
        rw [sameReturned]
        omega }

def State.extracted (fullId : MessageFullId) (counts : Table Int Int) (state : State) : State :=
  { state with
    yetUnsentMessages := state.yetUnsentMessages.erase fullId
    yetUnsentMessageCount := counts }

theorem fate_kept (sent : Bool) (counts : Table Int Int) (last : PendingSendMessageQuery) (waiting : Waiting state)
    (lowered : ∀ chatId, valueOr 0 id counts chatId = state.unsentCount chatId - if fullId.1 = chatId then 1 else 0)
    (query : last.query = pending.query) (kind : last.isMultisend = pending.isMultisend)
    (awaited : last.awaitedMessageCount = pending.awaitedMessageCount - 1) (more : last.awaitedMessageCount ≠ 0)
    (error : last.error.isSome = true ↔ 0 < ((state.outcome pending.query.id).report sent).failed) :
    Accounted owed held (((state.extracted fullId counts).setPending queryId last).reportedBy fullId sent) ∧
      Waiting (((state.extracted fullId counts).setPending queryId last).reportedBy fullId sent) := by
  have inserted : (state.pendingSendMessageQueries.insert queryId last).lookup queryId = some last := AList.lookup_insert _
  constructor
  · apply fate_accounted owed held state accounted fullId queryId pending listed found sent counts
      (state.pendingSendMessageQueries.insert queryId last) state.answers lowered
    · intro other different
      rw [lookup_insert, if_neg different]
    · intro other same
      cases Option.some.inj (inserted.symm.trans same)
      exact ⟨query, kind, awaited, error⟩
    · intro missing
      rw [inserted] at missing
      cases missing
    · exact congrArg (state.answeredIds + ·) (pending_ids_replace state queryId pending last found query)
    · exact fun answer member => .inl member
  · intro other otherPending there
    by_cases same : other = queryId
    · subst same
      cases Option.some.inj (inserted.symm.trans there)
      have before := waiting other pending found
      omega
    · refine waiting other otherPending ?_
      rw [← there]
      exact ((lookup_insert _ _ _ _).trans (if_neg same)).symm

theorem fate_answered (sent : Bool) (counts : Table Int Int) (reply : Reply) (waiting : Waiting state)
    (lowered : ∀ chatId, valueOr 0 id counts chatId = state.unsentCount chatId - if fullId.1 = chatId then 1 else 0)
    (awaited : pending.awaitedMessageCount = 1)
    (success : reply.isSuccess = true ↔ ((state.outcome pending.query.id).report sent).failed = 0) :
    Accounted owed held ((((state.extracted fullId counts).answer pending.query reply).erasePending queryId).reportedBy
        fullId sent) ∧
      Waiting ((((state.extracted fullId counts).answer pending.query reply).erasePending queryId).reportedBy fullId sent) := by
  have erased : (state.pendingSendMessageQueries.erase queryId).lookup queryId = none := AList.lookup_erase _ _
  constructor
  · apply fate_accounted owed held state accounted fullId queryId pending listed found sent counts
      (state.pendingSendMessageQueries.erase queryId) (state.answers ++ [Answer.mk pending.query.id reply]) lowered
    · intro other different
      rw [lookup_erase, if_neg different]
    · intro other same
      rw [erased] at same
      cases same
    · exact fun _ => awaited
    · have ids := pending_ids_erase state queryId pending found
      rw [List.map_append, ← Multiset.coe_add, add_assoc, ← ids]
      rfl
    · intro answer member
      rcases List.mem_append.1 member with old | new
      · exact .inl old
      · cases List.mem_singleton.1 new
        exact .inr ⟨erased, rfl, success⟩
  · intro other otherPending there
    refine waiting other otherPending ?_
    change (state.pendingSendMessageQueries.erase queryId).lookup other = _ at there
    rw [lookup_erase] at there
    split at there
    · cases there
    · exact there

end Fates

theorem single_awaited (owed : Int → Nat) (held : Multiset QueryId) (state : State) (accounted : Accounted owed held state)
    (waiting : Waiting state) (queryId : Int) (pending : PendingSendMessageQuery)
    (found : state.pendingSendMessageQueries.lookup queryId = some pending) (single : pending.isMultisend = false) :
    pending.awaitedMessageCount = 1 ∧ (state.outcome pending.query.id).failed = 0 := by
  have agrees := accounted.agrees queryId pending found
  have awaited := agrees.awaited
  have sole := agrees.sole single
  have positive := waiting queryId pending found
  omega

theorem accounted_message_added (owed : Int → Nat) (held : Multiset QueryId) (state : State) (fullId : MessageFullId)
    (accounted : Accounted owed held state) (sent : state.reports.unreported.lookup fullId = none) :
    Accounted owed held { state with messages := insert fullId state.messages } :=
  { accounted with
    apart := fun other member => by
      rcases Finset.mem_insert.1 member with rfl | old
      · exact sent
      · exact accounted.apart other old }

theorem send_succeeded_accounted (owed : Int → Nat) (held : Multiset QueryId) (state : State)
    (accounted : Accounted owed held state) (waiting : Waiting state) (chatId newMessageId oldMessageId : Int)
    (positive : 0 < newMessageId) (query : QueryId)
    (unreported : state.reports.unreported.lookup (chatId, oldMessageId) = some query)
    (stored : state.reports.unreported.lookup (chatId, newMessageId) = none) :
    ∃ after, onMessageSendSucceeded chatId newMessageId oldMessageId state = .ok after ∧
      Accounted owed held (after.reportedBy (chatId, oldMessageId) true) ∧
      Waiting (after.reportedBy (chatId, oldMessageId) true) := by
  have added := accounted_message_added owed held state (chatId, newMessageId) accounted stored
  obtain ⟨queryId, pending, listed, found⟩ := unreported_listed owed held _ added (chatId, oldMessageId) query unreported
  obtain ⟨counts, extracted, lowered⟩ := extract_listed owed held _ added (chatId, oldMessageId) queryId listed
  have waitingAdded : Waiting { state with messages := insert (chatId, newMessageId) state.messages } := waiting
  have error := (added.agrees queryId pending found).error
  simp only [onMessageSendSucceeded, require_true Check.newMessageIdPositive (newMessageId > 0) positive, ok_bind,
    extracted, pendingQuery]
  rw [show state.pendingSendMessageQueries.lookup queryId = some pending from found, Option.elim_some, ok_bind]
  by_cases kind : pending.isMultisend = true
  · simp only [if_pos kind]
    by_cases last : pending.awaitedMessageCount - 1 = 0
    · simp only [if_pos last]
      refine ⟨_, rfl, fate_answered owed held _ added _ queryId pending listed found true counts _ waitingAdded lowered
        (by omega) ?_⟩
      cases failed : pending.error with
      | none => simpa [Outcome.report, Reply.isSuccess, failed] using error
      | some failure => simpa [Outcome.report, Reply.isSuccess, failed, Nat.pos_iff_ne_zero] using error
    · simp only [if_neg last]
      exact ⟨_, rfl, fate_kept owed held _ added _ queryId pending listed found true counts
        { pending with
          messages := pending.messages ++ [sentMessage pending.query.method chatId newMessageId]
          awaitedMessageCount := pending.awaitedMessageCount - 1 } waitingAdded lowered rfl rfl rfl last error⟩
  · obtain ⟨one, unfailed⟩ := single_awaited owed held _ added waitingAdded queryId pending found (by simpa using kind)
    simp only [if_neg kind, require_true Check.awaitedOne _ one, ok_bind]
    refine ⟨_, rfl, fate_answered owed held _ added _ queryId pending listed found true counts _ waitingAdded lowered one ?_⟩
    simpa [Outcome.report, Reply.isSuccess] using unfailed

theorem merge_error_some (query : PendingSendMessageQuery) (error : Error) : (mergeError query error).isSome = true := by
  unfold mergeError
  split
  · split <;> rfl
  · rename_i kept
    cases present : query.error with
    | none => simp [present] at kept
    | some _ => rfl

theorem accounted_delete_requests (owed : Int → Nat) (held : Multiset QueryId) (state : State) (requests : List MessageFullId)
    (accounted : Accounted owed held state) : Accounted owed held { state with deleteRequests := requests } :=
  { accounted with }

theorem fate_requests_deletion (owed : Int → Nat) (held : Multiset QueryId) (fullId : MessageFullId) (state : State)
    (deletes : Prop) [Decidable deletes] (requests : List MessageFullId)
    (settled : Accounted owed held (state.reportedBy fullId false) ∧ Waiting (state.reportedBy fullId false)) :
    ∃ after, (if deletes then pure { state with deleteRequests := requests } else pure state : Except Check State) = .ok after ∧
      Accounted owed held (after.reportedBy fullId false) ∧ Waiting (after.reportedBy fullId false) := by
  by_cases deleting : deletes
  · rw [if_pos deleting]
    exact ⟨_, rfl, accounted_delete_requests owed held _ requests settled.1, settled.2⟩
  · rw [if_neg deleting]
    exact ⟨_, rfl, settled⟩

theorem send_failed_accounted (owed : Int → Nat) (held : Multiset QueryId) (state : State)
    (accounted : Accounted owed held state) (waiting : Waiting state) (chatId oldMessageId newMessageId : Int) (error : Error)
    (query : QueryId) (unreported : state.reports.unreported.lookup (chatId, oldMessageId) = some query) :
    ∃ after, onMessageSendFailed chatId oldMessageId newMessageId error state = .ok after ∧
      Accounted owed held (after.reportedBy (chatId, oldMessageId) false) ∧
      Waiting (after.reportedBy (chatId, oldMessageId) false) := by
  obtain ⟨queryId, pending, listed, found⟩ :=
    unreported_listed owed held state accounted (chatId, oldMessageId) query unreported
  obtain ⟨counts, extracted, lowered⟩ := extract_listed owed held state accounted (chatId, oldMessageId) queryId listed
  have failure (reply : Error) : (Reply.error reply).isSuccess = true ↔
      ((state.outcome pending.query.id).report false).failed = 0 := by
    simp [Reply.isSuccess, Outcome.report]
  simp only [onMessageSendFailed, extracted, ok_bind, pendingQuery]
  rw [found, Option.elim_some, ok_bind]
  by_cases kind : pending.isMultisend = true
  · simp only [if_pos kind]
    by_cases last : pending.awaitedMessageCount - 1 = 0
    · simp only [if_pos last, pure_bind]
      exact fate_requests_deletion owed held _ _ _ _ (fate_answered owed held state accounted _ queryId pending listed found
        false counts _ waiting lowered (by omega) (failure _))
    · simp only [if_neg last, pure_bind]
      refine fate_requests_deletion owed held _ _ _ _ (fate_kept owed held state accounted _ queryId pending listed found
        false counts { pending with
          error := mergeError pending error
          awaitedMessageCount := pending.awaitedMessageCount - 1 } waiting lowered rfl rfl rfl last ?_)
      simp [merge_error_some, Outcome.report]
  · obtain ⟨one, _⟩ := single_awaited owed held state accounted waiting queryId pending found (by simpa using kind)
    simp only [if_neg kind, require_true Check.awaitedOne _ one, ok_bind, pure_bind]
    exact fate_requests_deletion owed held _ _ _ _ (fate_answered owed held state accounted _ queryId pending listed found
      false counts _ waiting lowered one (failure _))

theorem reported_absent (reports : Reports) (fullId : MessageFullId) (sent : Bool)
    (absent : reports.unreported.lookup fullId = none) : reports.reported fullId sent = reports := by
  rw [Reports.reported, absent]

theorem delete_message_error_known (chat : Option ChatInfo) (known : knownChat chat = true) :
    ∃ error, deleteMessageError chat = .ok error := by
  cases chat with
  | none => cases known
  | some chatInfo =>
      cases chatInfo with
      | supergroup info =>
          cases info with
          | none => cases known
          | some supergroupInfo =>
              simp only [deleteMessageError, Option.elim_some, pure_bind]
              split
              · split <;> exact ⟨_, rfl⟩
              · exact ⟨_, rfl⟩
      | privateChat => exact ⟨_, rfl⟩
      | group => exact ⟨_, rfl⟩
      | unknown => exact ⟨_, rfl⟩

theorem delete_message_accounted (owed : Int → Nat) (held : Multiset QueryId) (state : State)
    (accounted : Accounted owed held state) (waiting : Waiting state) (chatId messageId : Int) (chat : Option ChatInfo)
    (known : state.reports.unreported.lookup (chatId, messageId) ≠ none → knownChat chat = true) :
    ∃ after, deleteMessage chatId messageId chat state = .ok after ∧
      Accounted owed held (after.reportedBy (chatId, messageId) false) ∧
      Waiting (after.reportedBy (chatId, messageId) false) ∧
      (state.reports.unreported.lookup (chatId, messageId) = none →
        (after.reportedBy (chatId, messageId) false).reports = state.reports) := by
  unfold deleteMessage
  by_cases stored : (chatId, messageId) ∈ state.messages
  · rw [if_pos stored]
    have absent := accounted.apart _ stored
    have erased : Accounted owed held { state with messages := state.messages.erase (chatId, messageId) } :=
      { accounted with apart := fun other member => accounted.apart other (Finset.mem_of_mem_erase member) }
    refine ⟨_, rfl, ?_⟩
    rw [State.reportedBy, reported_absent _ _ _ absent]
    exact ⟨erased, waiting, fun _ => rfl⟩
  · rw [if_neg stored]
    by_cases listed : (chatId, messageId) ∈ state.yetUnsentMessages
    · obtain ⟨queryId, found⟩ := lookup_of_mem _ _ listed
      obtain ⟨pending, _, unreported⟩ := accounted.named _ queryId found
      obtain ⟨error, made⟩ := delete_message_error_known chat (known (by rw [unreported]; exact Option.some_ne_none _))
      obtain ⟨after, done, settled, stillWaiting⟩ :=
        send_failed_accounted owed held state accounted waiting chatId messageId 0 error pending.query.id unreported
      simp only [if_pos listed, made, ok_bind]
      refine ⟨after, done, settled, stillWaiting, fun absent => ?_⟩
      rw [unreported] at absent
      cases absent
    · rw [if_neg listed]
      have absent := accounted.known _ (AList.lookup_eq_none.2 listed)
      refine ⟨state, rfl, ?_⟩
      rw [State.reportedBy, reported_absent _ _ _ absent]
      exact ⟨accounted, waiting, fun _ => rfl⟩

theorem delete_messages_accounted (state : State) (accounted : Accounted nothingOwed 0 state) (waiting : Waiting state)
    (chatId : Int) (messageIds : List Int) (chat : Option ChatInfo)
    (known : (∃ messageId ∈ messageIds, (chatId, messageId) ∈ state.reports.unreported) → knownChat chat = true) :
    Passes (fun after => Accounted nothingOwed 0 after ∧ Waiting after)
    (step state (.messagesDeleted chatId messageIds chat)) := by
  -- either the chat is known or no message of the list is unreported, now and later
  have knows : knownChat chat = true ∨ ∀ messageId ∈ messageIds, state.reports.unreported.lookup (chatId, messageId) = none := by
    by_cases known : knownChat chat = true
    · exact .inl known
    · refine .inr (fun messageId member => AList.lookup_eq_none.2 (fun present => known ?_))
      rename_i implies
      exact implies ⟨messageId, member, present⟩
  refine meets_weaken _ _ _ _ (fun after held => ⟨held.1, held.2.1⟩) (meets_foldlM (fun _ => False)
    (fun state => Accounted nothingOwed 0 state ∧ Waiting state ∧ (knownChat chat = true ∨
      ∀ messageId ∈ messageIds, state.reports.unreported.lookup (chatId, messageId) = none))
    _ messageIds state ⟨accounted, waiting, knows⟩ ?_)
  rintro state messageId member ⟨accounted, waiting, knows⟩
  obtain ⟨after, done, settled, stillWaiting, kept⟩ := delete_message_accounted nothingOwed 0 state accounted waiting
    chatId messageId chat (fun present => knows.resolve_right (fun absent => present (absent messageId member)))
  rw [done]
  refine ⟨settled, stillWaiting, knows.imp id (fun absent other listed => ?_)⟩
  rw [kept (absent messageId member)]
  exact absent other listed

theorem requested_accounted (owed : Int → Nat) (held : Multiset QueryId) (state : State)
    (accounted : Accounted owed held state) (query : QueryId) (new : query ∉ state.requested) :
    Accounted owed (query ::ₘ held) { state with requested := query :: state.requested } :=
  { accounted with
    owned := by
      rw [Multiset.add_cons, ← Multiset.cons_coe, ← accounted.owned]
      rfl
    distinct := List.nodup_cons.2 ⟨new, accounted.distinct⟩
    unrecorded := fun other cause => accounted.unrecorded other (by
      rcases cause with handled | holds | missing
      · exact .inl handled
      · rcases Multiset.mem_cons.1 holds with rfl | holds
        · exact .inr (.inr new)
        · exact .inr (.inl holds)
      · exact .inr (.inr (fun old => missing (List.mem_cons_of_mem query old)))) }

theorem send_messages_pending (state : State) (request : SendRequest) (handlerId : Nat) :
    (sendMessages request handlerId state).pendingSendMessageQueries = state.pendingSendMessageQueries := by
  simp only [sendMessages]
  split <;> rfl

theorem send_messages_accounted (owed : Int → Nat) (held : Multiset QueryId) (state : State) (request : SendRequest)
    (handlerId : Nat) (accounted : Accounted owed (request.query.id ::ₘ held) state) (new : handlerId ∉ state.handlers)
    (single : request.kind = .message → request.messageCount = 1) :
    Accounted owed held (sendMessages request handlerId state) := by
  unfold sendMessages
  by_cases full : valueOr 0 id state.yetUnsentMessageCount request.chatId ≥ maxConcurrentlySentChatMessages
  · simp only [if_pos full]
    exact answer_held owed held state request.query .floodLimitExceeded accounted
  · simp only [if_neg full]
    have inserted := values_insert_new state.handlers handlerId request (AList.lookup_eq_none.2 new)
    have ids : (values (state.handlers.insert handlerId request)).map (fun request => request.query.id) =
        request.query.id ::ₘ state.handlerIds := by
      rw [inserted, Multiset.map_cons, State.handlerIds]
    exact {
      accounted with
      counts := fun chatId => by
        have counts := accounted.counts chatId
        simp only [State.unsentCount, State.inFlight] at counts ⊢
        rw [inserted, Multiset.map_cons, Multiset.sum_cons, value_or_insert, Function.update_apply, id]
        change _ = _ + (state.unsent chatId : Int) + _
        rw [messageCountIn]
        by_cases same : chatId = request.chatId
        · subst same
          rw [if_pos rfl, if_pos rfl]
          omega
        · rw [if_neg same, if_neg (Ne.symm same)]
          omega
      singles := fun other otherRequest there => by
        simp only [lookup_insert] at there
        split at there
        · cases there
          exact single
        · exact accounted.singles other otherRequest there
      owned := by
        rw [State.handlerIds, ids, ← accounted.owned]
        simp only [Multiset.add_cons, Multiset.cons_add]
        rfl
      unrecorded := fun query cause => accounted.unrecorded query (by
        rw [State.handlerIds, ids] at cause
        rcases cause with handled | holds | missing
        · rcases Multiset.mem_cons.1 handled with rfl | handled
          · exact .inr (.inl (Multiset.mem_cons_self _ _))
          · exact .inl handled
        · exact .inr (.inl (Multiset.mem_cons_of_mem holds))
        · exact .inr (.inr missing)) }

theorem result_error_accounted (state : State) (accounted : Accounted nothingOwed 0 state) (waiting : Waiting state)
    (handlerId : Nat) (error : Error) (present : handlerId ∈ state.handlers) :
    Passes (fun after => Accounted nothingOwed 0 after ∧ Waiting after) (step state (.resultError handlerId error)) := by
  obtain ⟨request, found⟩ := lookup_of_mem _ _ present
  obtain ⟨taken, took, same, accounted⟩ := take_handler nothingOwed 0 state accounted handlerId request found
  have waitingTaken : Waiting taken := by
    rw [same]
    exact waiting
  simp only [step, onResultError, took, ok_bind]
  by_cases positive : request.messageCount > 0
  · obtain ⟨paid, pays, samePending, accounted⟩ := decrease_pays _ _ taken accounted request.chatId request.messageCount
      nothingOwed positive rfl
    simp only [if_pos positive, pays, ok_bind]
    refine ⟨answer_held nothingOwed 0 paid request.query _ accounted, ?_⟩
    rw [samePending]
    exact waitingTaken
  · simp only [if_neg positive, pure_bind]
    rw [Nat.eq_zero_of_not_pos positive, owing_zero] at accounted
    exact ⟨answer_held nothingOwed 0 taken request.query _ accounted, waitingTaken⟩

theorem result_message_accounted (state : State) (accounted : Accounted nothingOwed 0 state) (waiting : Waiting state)
    (handlerId : Nat) (message : MessageFullId) (request : SendRequest) (found : state.handlers.lookup handlerId = some request)
    (kind : request.kind = .message) (fresh : Fresh state request.chatId message) :
    Passes (fun after => Accounted nothingOwed 0 after ∧ Waiting after) (step state (.resultMessage handlerId message)) := by
  have single := accounted.singles handlerId request found kind
  obtain ⟨taken, took, sameTaken, accounted⟩ := take_handler nothingOwed 0 state accounted handlerId request found
  have unrecorded := accounted.unrecorded request.query.id (.inr (.inl (Multiset.mem_cons_self _ _)))
  obtain ⟨started, given, sameStarted, accounted⟩ := get_send_message_query_id _ 0 taken request.query false accounted
  rw [single] at accounted
  have stored : started.pendingSendMessageQueries.lookup taken.currentSendMessageQueryId =
      some { query := request.query, isMultisend := false } := by
    rw [sameStarted]
    exact AList.lookup_insert _
  have freshStarted : Fresh started request.chatId message := by
    rw [sameStarted, sameTaken]
    exact fresh
  have noMessage : (started.outcome request.query.id).returned = 0 := by
    rw [sameStarted]
    change ((taken.reports.outcomes.lookup request.query.id).getD {}).returned = 0
    rw [unrecorded]
    rfl
  obtain ⟨returned, accounted⟩ := return_message nothingOwed 0 started request.chatId taken.currentSendMessageQueryId
    { query := request.query, isMultisend := false } message accounted stored freshStarted (fun _ => noMessage)
  simp only [step, onResultMessage, took, ok_bind, require_true Check.resultKind _ kind, given, returned]
  refine ⟨accounted, fun queryId pending there => ?_⟩
  simp only [State.withMessage, State.setPending, lookup_insert] at there
  split at there
  · cases there
    exact one_pos
  · rename_i different
    rw [sameStarted] at there
    simp only [State.setPending, lookup_insert, if_neg different] at there
    rw [sameTaken] at there
    exact waiting queryId pending there

theorem kept_messages (messages : List (Option MessageFullId)) :
    messages.filter Option.isSome = messages.reduceOption.map some := by
  induction messages with
  | nil => rfl
  | cons message messages ih => cases message <;> simp [ih]

theorem album_messages (messages : List (Option MessageFullId)) (all : none ∉ messages) :
    messages = messages.reduceOption.map some := by
  rw [← kept_messages, List.filter_eq_self.2]
  intro message member
  cases message with
  | none => exact absurd member all
  | some _ => rfl

theorem reduced_fresh (state : State) (chatId : Int) (messages : List (Option MessageFullId))
    (distinct : (messages.filter Option.isSome).Nodup) (fresh : ∀ message, some message ∈ messages → Fresh state chatId message) :
    messages.reduceOption.Nodup ∧ ∀ message ∈ messages.reduceOption, Fresh state chatId message := by
  rw [kept_messages] at distinct
  exact ⟨distinct.of_map some, fun message member => fresh message (List.reduceOption_mem_iff.1 member)⟩

theorem owing_split (chatId : Int) (total part : Nat) (owed : Int → Nat) (enough : part ≤ total) :
    owing chatId total owed = owing chatId (total - part) (owing chatId part owed) := by
  funext other
  simp only [owing]
  split <;> omega

theorem forward_accounted (state : State) (chatId : Int) (query : Query) (messages : List MessageFullId)
    (accounted : Accounted (owing chatId messages.length nothingOwed) (query.id ::ₘ 0) state) (waiting : Waiting state)
    (distinct : messages.Nodup) (fresh : ∀ message ∈ messages, Fresh state chatId message) :
    Passes (fun after => Accounted nothingOwed 0 after ∧ Waiting after) (do
      if messages.map some = [] then return state.answer query (.error ⟨400, "Messages can't be forwarded"⟩)
      let (queryId, state) ← getSendMessageQueryId query true state
      (messages.map some).foldlM (returnMessage query.id queryId) state) := by
  by_cases none : messages = []
  · subst none
    rw [List.length_nil, owing_zero] at accounted
    exact ⟨answer_held nothingOwed 0 state query _ accounted, waiting⟩
  · have some : ¬ messages.map some = [] := fun empty => none (List.map_eq_nil_iff.1 empty)
    obtain ⟨after, done, settled⟩ :=
      answer_messages nothingOwed 0 state chatId query messages accounted waiting none distinct fresh
    rw [if_neg some]
    change Passes _ (getSendMessageQueryId query true state >>= fun result =>
      (messages.map _).foldlM (returnMessage query.id result.1) result.2)
    rw [done]
    exact settled

theorem result_messages_accounted (state : State) (accounted : Accounted nothingOwed 0 state) (waiting : Waiting state)
    (handlerId : Nat) (messages : List (Option MessageFullId)) (request : SendRequest)
    (found : state.handlers.lookup handlerId = some request) (kind : request.kind ≠ .message)
    (size : messages.length = request.messageCount) (album : request.kind = .album → messages ≠ [] ∧ none ∉ messages)
    (distinct : (messages.filter Option.isSome).Nodup)
    (fresh : ∀ message, some message ∈ messages → Fresh state request.chatId message) :
    Passes (fun after => Accounted nothingOwed 0 after ∧ Waiting after) (step state (.resultMessages handlerId messages)) := by
  obtain ⟨taken, took, sameTaken, accounted⟩ := take_handler nothingOwed 0 state accounted handlerId request found
  have waitingTaken : Waiting taken := by
    rw [sameTaken]
    exact waiting
  obtain ⟨distinct, fresh⟩ := reduced_fresh taken request.chatId messages distinct (by rw [sameTaken]; exact fresh)
  simp only [step, onResultMessages, took, ok_bind, require_true Check.resultSize _ size]
  cases kindHere : request.kind with
  | message => exact absurd kindHere kind
  | album =>
      obtain ⟨nonempty, all⟩ := album kindHere
      have same := album_messages messages all
      have length : messages.length = messages.reduceOption.length := by
        conv_lhs => rw [same, List.length_map]
      rw [← size, length] at accounted
      obtain ⟨after, done, settled⟩ := answer_messages nothingOwed 0 taken request.chatId request.query
        messages.reduceOption accounted waitingTaken (fun empty => nonempty (by rw [same, empty]; rfl)) distinct fresh
      rw [← same] at done
      change Passes _ (getSendMessageQueryId request.query true taken >>= fun result =>
        messages.foldlM (returnMessage request.query.id result.1) result.2)
      rw [done]
      exact settled
  | forward =>
      have fewer : messages.reduceOption.length ≤ request.messageCount := size ▸ List.reduceOption_length_le messages
      simp only [kept_messages, List.length_map]
      by_cases lost : messages.reduceOption.length ≠ request.messageCount
      · obtain ⟨paid, pays, samePaid, accounted⟩ := decrease_pays _ _ taken accounted request.chatId
          (request.messageCount - messages.reduceOption.length) (owing request.chatId messages.reduceOption.length nothingOwed)
          (by omega) (owing_split _ _ _ _ fewer)
        rw [Nat.cast_sub fewer] at pays
        simp only [if_pos lost, pays, ok_bind]
        refine forward_accounted paid request.chatId request.query messages.reduceOption accounted ?_ distinct ?_
        · rw [samePaid]
          exact waitingTaken
        · rw [samePaid]
          exact fresh
      · rw [← not_ne_iff.1 lost] at accounted
        simp only [if_neg lost, pure_bind]
        exact forward_accounted taken request.chatId request.query messages.reduceOption accounted waitingTaken distinct fresh

theorem step_accounted (state : State) (event : Event) (accounted : Accounted nothingOwed 0 state) (waiting : Waiting state)
    (offered : enabled state event) :
    Passes (fun after => Accounted nothingOwed 0 after ∧ Waiting after) (step state event) := by
  cases event with
  | send request handlerId =>
      obtain ⟨new, unused, single⟩ := offered
      have requested := requested_accounted nothingOwed 0 state accounted request.query.id new
      refine ⟨send_messages_accounted nothingOwed 0 _ request handlerId requested unused single, ?_⟩
      rw [Waiting, send_messages_pending]
      exact waiting
  | resultError handlerId error => exact result_error_accounted state accounted waiting handlerId error offered
  | resultMessage handlerId message =>
      obtain ⟨request, found, kind, fresh⟩ := offered
      exact result_message_accounted state accounted waiting handlerId message request found kind fresh
  | resultMessages handlerId messages =>
      obtain ⟨request, found, kind, size, album, distinct, fresh⟩ := offered
      exact result_messages_accounted state accounted waiting handlerId messages request found kind size album distinct fresh
  | sendSucceeded chatId newMessageId oldMessageId =>
      obtain ⟨present, positive, stored⟩ := offered
      obtain ⟨query, unreported⟩ := lookup_of_mem _ _ present
      obtain ⟨after, done, settled⟩ := send_succeeded_accounted nothingOwed 0 state accounted waiting chatId newMessageId
        oldMessageId positive query unreported (AList.lookup_eq_none.2 stored)
      simp only [step, done, ok_bind]
      exact settled
  | sendFailed chatId oldMessageId newMessageId error =>
      obtain ⟨query, unreported⟩ := lookup_of_mem _ _ offered
      obtain ⟨after, done, settled⟩ := send_failed_accounted nothingOwed 0 state accounted waiting chatId oldMessageId
        newMessageId error query unreported
      simp only [step, done, ok_bind]
      exact settled
  | messagesDeleted chatId messageIds chat =>
      exact delete_messages_accounted state accounted waiting chatId messageIds chat offered
  | messageAdded fullId =>
      exact ⟨accounted_message_added nothingOwed 0 state fullId accounted (AList.lookup_eq_none.2 offered), waiting⟩
  | closes loggingOut => cases loggingOut <;> exact ⟨{ accounted with }, waiting⟩

theorem start_accounted : Accounted nothingOwed 0 {} ∧ Waiting {} := by
  refine ⟨?_, fun _ _ found => by cases found⟩
  exact {
    counts := fun _ => rfl
    awaited := fun _ _ found => by cases found
    named := fun _ _ found => by cases found
    known := fun _ _ => rfl
    younger := fun _ _ found => by cases found
    agrees := fun _ _ found => by cases found
    apart := fun _ member => absurd member (Finset.notMem_empty _)
    singles := fun _ _ found => by cases found
    owned := rfl
    distinct := List.nodup_nil
    unrecorded := fun _ _ => rfl
    answered := fun _ member => absurd member List.not_mem_nil }

open Transition (Reach unrestricted)

theorem accounted_of_reach (state : State) (reached : Reach machine unrestricted state) :
    Accounted nothingOwed 0 state ∧ Waiting state := by
  refine Transition.reach_meets machine unrestricted (fun _ => False)
    (fun state => Accounted nothingOwed 0 state ∧ Waiting state) ?_ ?_ state reached
  · intro state first
    cases first
    exact start_accounted
  · intro before event held offered _
    exact step_accounted before event held.1 held.2 offered

def State.Awaits (query : QueryId) (state : State) : Prop :=
  query ∈ state.handlerIds ∨ ∃ fullId, state.reports.unreported.lookup fullId = some query

theorem unreported_iff_pending (state : State) (accounted : Accounted nothingOwed 0 state) (waiting : Waiting state)
    (query : QueryId) :
    (∃ fullId, state.reports.unreported.lookup fullId = some query) ↔ query ∈ state.pendingIds := by
  constructor
  · rintro ⟨fullId, unreported⟩
    obtain ⟨queryId, pending, listed, found⟩ := unreported_listed nothingOwed 0 state accounted fullId query unreported
    obtain ⟨named, there, reported⟩ := accounted.named fullId queryId listed
    cases Option.some.inj (found.symm.trans there)
    rw [← Option.some.inj (reported.symm.trans unreported)]
    exact mem_pending_ids state queryId pending found
  · intro member
    obtain ⟨pending, listed, rfl⟩ := Multiset.mem_map.1 member
    obtain ⟨queryId, found⟩ := (mem_values _ _).1 listed
    have positive := waiting queryId pending found
    rw [accounted.awaited queryId pending found] at positive
    obtain ⟨fullId, named, there, same⟩ := exists_of_count_pos _ _ (Int.natCast_pos.1 positive)
    cases of_decide_eq_true same
    obtain ⟨other, otherFound, reported⟩ := accounted.named fullId _ there
    cases Option.some.inj (found.symm.trans otherFound)
    exact ⟨fullId, reported⟩

theorem answered_once (state : State) (accounted : Accounted nothingOwed 0 state) (waiting : Waiting state)
    (query : QueryId) (requested : query ∈ state.requested) :
    (¬ state.Awaits query → state.answeredIds.count query = 1) ∧ (state.Awaits query → state.answeredIds.count query = 0) := by
  have total : state.answeredIds.count query + state.handlerIds.count query + state.pendingIds.count query = 1 := by
    rw [← Multiset.count_add, ← Multiset.count_add, ← add_zero (state.answeredIds + _ + _), accounted.owned]
    exact Multiset.count_eq_one_of_mem (Multiset.coe_nodup.2 accounted.distinct) requested
  rw [State.Awaits, unreported_iff_pending state accounted waiting]
  constructor
  · intro free
    rw [not_or] at free
    rw [Multiset.count_eq_zero_of_notMem free.1, Multiset.count_eq_zero_of_notMem free.2] at total
    exact total
  · rintro (handled | pending)
    · have := Multiset.count_pos.2 handled
      omega
    · have := Multiset.count_pos.2 pending
      omega

structure Balanced (state : State) : Prop where
  counts : ∀ chatId, state.unsentCount chatId = state.inFlight chatId + state.unsent chatId
  awaited : ∀ queryId pending, state.pendingSendMessageQueries.lookup queryId = some pending →
    pending.awaitedMessageCount = state.naming queryId
  once : ∀ query ∈ state.requested, ¬ state.Awaits query → state.answeredIds.count query = 1
  late : ∀ query ∈ state.requested, state.Awaits query → state.answeredIds.count query = 0
  success : ∀ answer ∈ state.answers, ∀ outcome, state.reports.outcomes.lookup answer.query = some outcome →
    (answer.reply.isSuccess = true ↔ outcome.sent = outcome.returned)

theorem unsent_messages_balanced :
    Transition.Safe machine unrestricted ∧ ∀ state, Reach machine unrestricted state → Balanced state := by
  constructor
  · apply Transition.safe_of_passes machine unrestricted (fun state => Accounted nothingOwed 0 state ∧ Waiting state)
    · intro state first
      cases first
      exact start_accounted
    · intro before event held offered _
      exact step_accounted before event held.1 held.2 offered
  · intro state reached
    obtain ⟨accounted, waiting⟩ := accounted_of_reach state reached
    exact {
      counts := fun chatId => by simpa [nothingOwed] using accounted.counts chatId
      awaited := accounted.awaited
      once := fun query requested => (answered_once state accounted waiting query requested).1
      late := fun query requested => (answered_once state accounted waiting query requested).2
      success := fun answer member outcome found => by
        obtain ⟨all, success⟩ := accounted.answered answer member outcome found
        rw [success]
        omega }

section Examples

instance (state : State) (chatId : Int) (message : MessageFullId) : Decidable (Fresh state chatId message) :=
  inferInstanceAs (Decidable (_ ∧ _ ∧ _))

instance decidableFound {Value : Type} (found : Option Value) (property : Value → Prop) [DecidablePred property] :
    Decidable (∃ value, found = some value ∧ property value) :=
  match found with
  | none => isFalse (by simp)
  | some value => decidable_of_iff (property value) (by simp)

instance decidableReduced (messages : List (Option MessageFullId)) (property : MessageFullId → Prop) [DecidablePred property] :
    Decidable (∀ message, some message ∈ messages → property message) :=
  decidable_of_iff (∀ message ∈ messages.reduceOption, property message) (by simp [List.reduceOption_mem_iff])

instance (state : State) : (event : Event) → Decidable (machine.enabled state event)
  | .send _ _ => inferInstanceAs (Decidable (_ ∧ _ ∧ (_ → _)))
  | .resultError handlerId _ => inferInstanceAs (Decidable (handlerId ∈ state.handlers))
  | .resultMessage handlerId message => inferInstanceAs (Decidable (∃ request,
      state.handlers.lookup handlerId = some request ∧ request.kind = .message ∧ Fresh state request.chatId message))
  | .resultMessages handlerId messages => inferInstanceAs (Decidable (∃ request,
      state.handlers.lookup handlerId = some request ∧ request.kind ≠ .message ∧ messages.length = request.messageCount ∧
      (request.kind = .album → messages ≠ [] ∧ none ∉ messages) ∧ (messages.filter Option.isSome).Nodup ∧
      ∀ message, some message ∈ messages → Fresh state request.chatId message))
  | .sendSucceeded _ _ _ => inferInstanceAs (Decidable (_ ∧ _ ∧ _))
  | .sendFailed chatId oldMessageId _ _ => inferInstanceAs (Decidable ((chatId, oldMessageId) ∈ state.reports.unreported))
  | .messagesDeleted chatId messageIds chat => inferInstanceAs (Decidable
      ((∃ messageId ∈ messageIds, (chatId, messageId) ∈ state.reports.unreported) → knownChat chat = true))
  | .messageAdded fullId => inferInstanceAs (Decidable (fullId ∉ state.reports.unreported))
  | .closes _ => isTrue trivial

-- Of three forwarded messages one can't be forwarded, one is sent and one deleted.
theorem forwarded_messages_balanced :
    ∃ state, Reach machine unrestricted state ∧ Balanced state ∧
      state.answers =
        [⟨4, .error ⟨500, "Internal Server Error: sent message was immediately deleted and can't be returned"⟩⟩] := by
  obtain ⟨state, reached, answers⟩ := Transition.exists_reach machine unrestricted (fun state => state.answers =
    [⟨4, .error ⟨500, "Internal Server Error: sent message was immediately deleted and can't be returned"⟩⟩]) {} rfl
    [.send ⟨.forward, 7, 3, ⟨4, "forwardmessages"⟩⟩ 0, .resultMessages 0 [some (7, 11), none, some (7, 12)],
      .sendSucceeded 7 21 11, .messagesDeleted 7 [12] (some .privateChat)] (by decide +kernel)
  exact ⟨state, reached, unsent_messages_balanced.2 state reached, answers⟩

end Examples

end TelegramBotApi.UnsentMessages
