import TelegramBotApi.BotUsernames
import TelegramBotApi.Lib.Tables

set_option autoImplicit false

namespace TelegramBotApi.BotUsernames

open Checked

structure Request (KeyboardButton : Type) where
  queryId : Int
  query : Query
  usernames : List Username
  onSuccess : Continuation KeyboardButton
  results : List (Username × UserId) := []

namespace Request

variable {KeyboardButton : Type}

def unanswered (request : Request KeyboardButton) : List Username :=
  request.usernames.filter (fun username => username ∉ request.results.map Prod.fst)

def firstNotFound (request : Request KeyboardButton) : Option Username :=
  (request.results.find? (fun result => result.2 = 0)).map Prod.fst

def Waiting (request : Request KeyboardButton) : Prop := request.firstNotFound = none ∧ request.unanswered ≠ []

def AllFound (request : Request KeyboardButton) : Prop := request.firstNotFound = none ∧ request.unanswered = []

instance (request : Request KeyboardButton) : Decidable request.Waiting :=
  inferInstanceAs (Decidable (_ ∧ _))

instance (request : Request KeyboardButton) : Decidable request.AllFound :=
  inferInstanceAs (Decidable (_ ∧ _))

def note (username : Username) (userId : UserId) (request : Request KeyboardButton) : Request KeyboardButton :=
  if username ∈ request.unanswered then { request with results := request.results ++ [(username, userId)] } else request

end Request

inductive FoundChat where
  | error
  | notPrivate
  | user (userId : UserId) (isBot : Bool)

def FoundChat.userId : FoundChat → UserId
  | .user userId isBot => if isBot then userId else 0
  | _ => 0

structure Resolving (KeyboardButton : Type) where
  client : State KeyboardButton
  requests : List (Request KeyboardButton) := []
  closed : Bool := false

inductive ResolvingEvent (KeyboardButton : Type) where
  | resolve (query : Query) (usernames : List Username) (onSuccess : Continuation KeyboardButton)
  | chatFound (username : Username) (chat : FoundChat)
  | closing
  | closed

section Resolution

variable {KeyboardButton : Type}

def State.waits (state : State KeyboardButton) (username : Username) : List Int :=
  (state.awaitingQueries.lookup username).getD []

-- The part of on_closed about pending_bot_resolve_queries_.
def onClosed (state : State KeyboardButton) : State KeyboardButton :=
  { state with
    failed := state.failed ++ state.pendingQueries.entries.map (fun entry => (entry.2.query, closingError))
    pendingQueries := ∅ }

def answeredAtOnce (state : State KeyboardButton) (username : Username) : Bool :=
  state.closing && (state.waits username).isEmpty

def noteAll (username : Username) (userId : UserId) (requests : List (Request KeyboardButton)) :
    List (Request KeyboardButton) := requests.map (Request.note username userId)

def register (state : State KeyboardButton) (query : Query) (usernames : List Username)
    (onSuccess : Continuation KeyboardButton) (requests : List (Request KeyboardButton)) : List (Request KeyboardButton) :=
  (usernames.filter (answeredAtOnce state)).foldl (fun requests username => noteAll username 0 requests)
    (requests ++ [{ queryId := state.currentQueryId, query, usernames, onSuccess }])

def resolvingStep (state : Resolving KeyboardButton) :
    ResolvingEvent KeyboardButton → Except Check (Resolving KeyboardButton)
  | .resolve query usernames onSuccess => do
      let client ← resolveBotUsernames query onSuccess
        { state.client with ids := { state.client.ids with unresolvedBotUsernames := usernames } }
      return { state with client, requests := register state.client query usernames onSuccess state.requests }
  | .chatFound username chat => do
      let client ← onResolveBotUsername username chat.userId
        { state.client with searching := state.client.searching.erase username }
      return { state with client, requests := noteAll username chat.userId state.requests }
  | .closing => .ok { state with client := { state.client with closing := true } }
  | .closed => .ok { state with client := onClosed state.client, closed := true }

-- The usernames of a request are a set, and no request is made twice; TDLib is
-- closed after it has answered everything, and then no request continues any more.
def resolvingEnabled (state : Resolving KeyboardButton) : ResolvingEvent KeyboardButton → Prop
  | .resolve query usernames _ =>
      state.closed = false ∧ usernames ≠ [] ∧ usernames.Nodup ∧ ∀ request ∈ state.requests, request.query.id ≠ query.id
  | .chatFound username _ => username ∈ state.client.searching
  | .closing => state.closed = false
  | .closed => state.closed = false ∧ state.client.closing = true ∧ state.client.searching = []

def resolution : Transition.Machine (Resolving KeyboardButton) (ResolvingEvent KeyboardButton) Check where
  start state := ∃ myId, state = { client := { ids := { defaultBotUserId := myId } } }
  enabled := resolvingEnabled
  step := resolvingStep

def ContinuationFault (fault : Check) : Prop := fault = .temporaryIdFound ∨ fault = .realIdNotZero

instance (fault : Check) : Decidable (ContinuationFault fault) := inferInstanceAs (Decidable (_ ∨ _))

structure Books (state : State KeyboardButton) (request : Request KeyboardButton) : Prop where
  pending : state.pendingQueries.lookup request.queryId =
    if request.Waiting then some ⟨request.unanswered.length, request.query, request.onSuccess⟩ else none
  continued : if request.AllFound then
      ∃ tempToReal fixed, fixContinuation tempToReal request.onSuccess = .ok fixed ∧
        state.continued.filter (fun entry => entry.1.id = request.query.id) = [(request.query, fixed)]
    else state.continued.filter (fun entry => entry.1.id = request.query.id) = []
  failed : state.failed.filter (fun entry => entry.1.id = request.query.id) =
    request.firstNotFound.toList.map (fun username => (request.query, botNotFound username))

-- Between the rounds of a loop a request of its own is still to be entered into the
-- lists of the usernames to do.
structure Tracks (requests : List (Request KeyboardButton)) (fresh : Int) (todo : List Username)
    (state : State KeyboardButton) : Prop where
  books : ∀ request ∈ requests, Books state request
  waits : ∀ request ∈ requests, ∀ username, request.queryId ∈ state.waits username ↔
    username ∈ request.unanswered ∧ ¬ (request.queryId = fresh ∧ username ∈ todo)
  registered : ∀ username, ∀ queryId ∈ state.waits username, ∃ request ∈ requests, request.queryId = queryId
  distinct : ∀ username, (state.waits username).Nodup
  present : ∀ username, state.awaitingQueries.lookup username ≠ some []
  known : ∀ queryId pending, state.pendingQueries.lookup queryId = some pending →
    ∃ request ∈ requests, request.queryId = queryId
  continues : ∀ entry ∈ state.continued, ∃ request ∈ requests, request.query.id = entry.1.id
  fails : ∀ entry ∈ state.failed, ∃ request ∈ requests, request.query.id = entry.1.id
  issued : ∀ request ∈ requests, request.queryId < state.currentQueryId
  queryIds : (requests.map Request.queryId).Nodup
  queries : (requests.map (fun request => request.query.id)).Nodup
  usernames : ∀ request ∈ requests, request.usernames.Nodup

def Searched (state : State KeyboardButton) : Prop :=
  ∀ username, state.searching.count username = if state.waits username = [] then 0 else 1

structure Completed (state : State KeyboardButton) (request : Request KeyboardButton) : Prop where
  continues : (state.continued.filter (fun entry => entry.1.id = request.query.id)).map Prod.fst =
    if request.AllFound then [request.query] else []
  fails : state.failed.filter (fun entry => entry.1.id = request.query.id) =
    request.firstNotFound.toList.map (fun username => (request.query, botNotFound username))

structure Resolved (state : Resolving KeyboardButton) : Prop where
  counts : ∀ queryId pending, state.client.pendingQueries.lookup queryId = some pending →
    pending.pendingResolveCount =
      (state.client.awaitingQueries.entries.filter (fun entry => queryId ∈ entry.2)).length
  searches : ∀ username queryIds, state.client.awaitingQueries.lookup username = some queryIds →
    queryIds ≠ [] ∧ state.client.searching.count username = 1
  awaited : ∀ username ∈ state.client.searching, (state.client.awaitingQueries.lookup username).isSome = true
  completed : ∀ request ∈ state.requests, Completed state.client request
  settled : state.client.searching = [] → ∀ request ∈ state.requests, request.AllFound ∨ request.firstNotFound.isSome = true
  safe : ∀ event fault, resolvingEnabled state event → resolvingStep state event = .error fault → ContinuationFault fault

namespace Request

variable (username : Username) (userId : UserId) (request : Request KeyboardButton)

@[simp] theorem note_query_id : (request.note username userId).queryId = request.queryId := by
  unfold note
  split <;> rfl

@[simp] theorem note_query : (request.note username userId).query = request.query := by
  unfold note
  split <;> rfl

@[simp] theorem note_usernames : (request.note username userId).usernames = request.usernames := by
  unfold note
  split <;> rfl

@[simp] theorem note_on_success : (request.note username userId).onSuccess = request.onSuccess := by
  unfold note
  split <;> rfl

theorem note_unanswered : (request.note username userId).unanswered = request.unanswered.filter (· ≠ username) := by
  by_cases member : username ∈ request.unanswered
  · rw [note, if_pos member, unanswered, unanswered, List.filter_filter]
    congr 1
    funext other
    rw [Bool.eq_iff_iff]
    simp [and_comm]
  · have kept : ∀ other ∈ request.unanswered, decide (other ≠ username) = true := by
      intro other present
      rw [decide_eq_true_eq]
      rintro rfl
      exact member present
    rw [note, if_neg member, List.filter_eq_self.2 kept]

theorem note_first_not_found (member : username ∈ request.unanswered) : (request.note username userId).firstNotFound =
    request.firstNotFound.or (if userId = 0 then some username else none) := by
  rw [note, if_pos member, firstNotFound, firstNotFound, List.find?_append]
  cases request.results.find? (fun result => result.2 = 0) with
  | none => by_cases zero : userId = 0 <;> simp [zero]
  | some result => rfl

theorem note_absent (absent : username ∉ request.unanswered) : request.note username userId = request := if_neg absent

theorem note_length (fresh : request.usernames.Nodup) (member : username ∈ request.unanswered) :
    (request.note username userId).unanswered.length = request.unanswered.length - 1 := by
  have distinct : request.unanswered.Nodup := fresh.filter _
  have erased : request.unanswered.erase username = request.unanswered.filter (· ≠ username) := by
    rw [distinct.erase_eq_filter]
    exact List.filter_congr (fun other _ => (decide_not (p := other = username)).symm)
  rw [note_unanswered, ← erased, List.length_erase_of_mem member]

end Request

theorem books_apart (state after : State KeyboardButton) (request : Request KeyboardButton) (books : Books state request)
    (pending : after.pendingQueries.lookup request.queryId = state.pendingQueries.lookup request.queryId)
    (continued : after.continued.filter (fun entry => entry.1.id = request.query.id) =
      state.continued.filter (fun entry => entry.1.id = request.query.id))
    (failed : after.failed.filter (fun entry => entry.1.id = request.query.id) =
      state.failed.filter (fun entry => entry.1.id = request.query.id)) : Books after request := by
  refine ⟨pending.trans books.pending, ?_, failed.trans books.failed⟩
  rw [continued]
  exact books.continued

theorem tracks_congr (state after : State KeyboardButton) (requests : List (Request KeyboardButton)) (fresh : Int)
    (todo : List Username) (tracks : Tracks requests fresh todo state)
    (awaiting : after.awaitingQueries = state.awaitingQueries) (pending : after.pendingQueries = state.pendingQueries)
    (continued : after.continued = state.continued) (failed : after.failed = state.failed)
    (current : after.currentQueryId = state.currentQueryId) : Tracks requests fresh todo after := by
  have waits (username : Username) : after.waits username = state.waits username := by
    rw [State.waits, awaiting, State.waits]
  refine ⟨fun request held => ?_, fun request held username => ?_, fun username => ?_, fun username => ?_,
    by rw [awaiting]; exact tracks.present, by rw [pending]; exact tracks.known, by rw [continued]; exact tracks.continues,
    by rw [failed]; exact tracks.fails, by rw [current]; exact tracks.issued, tracks.queryIds, tracks.queries,
    tracks.usernames⟩
  · exact books_apart state after request (tracks.books request held) (by rw [pending]) (by rw [continued]) (by rw [failed])
  · rw [waits]
    exact tracks.waits request held username
  · rw [waits]
    exact tracks.registered username
  · rw [waits]
    exact tracks.distinct username

structure Answers (request noted : Request KeyboardButton) (state after : State KeyboardButton) : Prop where
  books : Books after noted
  apart : ∀ other : Request KeyboardButton, other.queryId ≠ request.queryId → other.query.id ≠ request.query.id →
    Books state other → Books after other
  awaiting : after.awaitingQueries = state.awaitingQueries
  searching : after.searching = state.searching
  closing : after.closing = state.closing
  current : after.currentQueryId = state.currentQueryId
  known : ∀ queryId pending, after.pendingQueries.lookup queryId = some pending →
    ∃ earlier, state.pendingQueries.lookup queryId = some earlier
  continues : ∀ entry ∈ after.continued, entry ∈ state.continued ∨ entry.1 = request.query
  fails : ∀ entry ∈ after.failed, entry ∈ state.failed ∨ entry.1 = request.query

theorem filter_append_other {Outcome : Type} (log : List (Query × Outcome)) (query : Query) (outcome : Outcome) (id : Nat)
    (other : id ≠ query.id) : (log ++ [(query, outcome)]).filter (fun entry => entry.1.id = id) =
      log.filter (fun entry => entry.1.id = id) := by
  simp [List.filter_append, Ne.symm other]

theorem filter_append_same {Outcome : Type} (log : List (Query × Outcome)) (query : Query) (outcome : Outcome) :
    (log ++ [(query, outcome)]).filter (fun entry => entry.1.id = query.id) =
      log.filter (fun entry => entry.1.id = query.id) ++ [(query, outcome)] := by
  simp [List.filter_append]

theorem waiting_of_pending (state : State KeyboardButton) (request : Request KeyboardButton) (books : Books state request)
    (pending : PendingBotResolveQuery KeyboardButton)
    (found : state.pendingQueries.lookup request.queryId = some pending) :
    request.Waiting ∧ pending = ⟨request.unanswered.length, request.query, request.onSuccess⟩ := by
  have held := books.pending
  rw [found] at held
  by_cases waiting : request.Waiting
  · rw [if_pos waiting] at held
    exact ⟨waiting, Option.some.inj held⟩
  · rw [if_neg waiting] at held
    cases held

theorem fix_button_fault (tempToReal : AList (fun _ : UserId => UserId)) (button : InlineKeyboardButton Username) :
    Meets ContinuationFault (fun _ => True) (fixButton tempToReal button) := by
  unfold fixButton
  split
  · refine meets_bind _ (fun _ => True) _ _ _ ?_ (fun _ _ => trivial)
    unfold fixButtonId
    split
    · exact trivial
    · split
      · exact .inl rfl
      · exact meets_require _ _ _ _ _ (fun _ => .inr rfl) (fun _ => trivial)
  · exact trivial

theorem fix_markup_fault (tempToReal : AList (fun _ : UserId => UserId)) (markup : Option (ReplyMarkup KeyboardButton)) :
    Meets ContinuationFault (fun _ => True) (fixReplyMarkupBotUserIds tempToReal markup) := by
  unfold fixReplyMarkupBotUserIds
  split
  · refine meets_bind _ (fun _ => True) _ _ _ ?_ (fun _ _ => trivial)
    exact meets_mapM _ _ _ fun row _ => meets_mapM _ _ row fun button _ => fix_button_fault tempToReal button
  · exact trivial

theorem fix_continuation_fault (tempToReal : AList (fun _ : UserId => UserId)) (continuation : Continuation KeyboardButton) :
    Meets ContinuationFault (fun _ => True) (fixContinuation tempToReal continuation) := by
  cases continuation with
  | replyMarkup markup => exact meets_bind _ _ _ _ _ (fix_markup_fault tempToReal markup) (fun _ _ => trivial)
  | results results =>
      refine meets_bind _ (fun _ => True) _ _ _ ?_ (fun _ _ => trivial)
      refine meets_mapM _ _ _ fun result _ => ?_
      exact meets_bind _ _ _ _ _ (fix_markup_fault tempToReal result.replyMarkup) (fun _ _ => trivial)

section Answering

variable (username : Username) (userId : UserId) (state : State KeyboardButton) (request : Request KeyboardButton)
variable (books : Books state request) (fresh : request.usernames.Nodup) (member : username ∈ request.unanswered)

include books member

theorem answers_failed (absent : state.pendingQueries.lookup request.queryId = none) :
    Answers request (request.note username userId) state state := by
  have some : request.firstNotFound ≠ none := by
    intro none
    have held := books.pending
    rw [if_pos ⟨none, List.ne_nil_of_mem member⟩, absent] at held
    cases held
  have kept : (request.note username userId).firstNotFound = request.firstNotFound := by
    rw [Request.note_first_not_found username userId request member]
    cases first : request.firstNotFound with
    | none => exact absurd first some
    | some other => rfl
  have noted : Books state (request.note username userId) := by
    refine ⟨?_, ?_, ?_⟩
    · rw [Request.note_query_id, absent, if_neg (fun waiting => some (kept ▸ waiting.1))]
    · have old := books.continued
      rw [if_neg (fun all => some all.1)] at old
      rw [if_neg (fun all => some (kept ▸ all.1)), Request.note_query]
      exact old
    · rw [Request.note_query, kept]
      exact books.failed
  exact ⟨noted, fun _ _ _ held => held, rfl, rfl, rfl, rfl, fun _ pending found => ⟨pending, found⟩,
    fun _ present => .inl present, fun _ present => .inl present⟩

theorem answers_not_found (waiting : request.Waiting) : Answers request (request.note username 0) state
    { state with
      pendingQueries := state.pendingQueries.erase request.queryId
      failed := state.failed ++ [(request.query, botNotFound username)] } := by
  have first : (request.note username 0).firstNotFound = some username := by
    rw [Request.note_first_not_found username 0 request member, waiting.1]
    rfl
  refine ⟨⟨?_, ?_, ?_⟩, fun other notId notQuery held => ?_, rfl, rfl, rfl, rfl, fun queryId pending found => ?_,
    fun _ present => .inl present, fun entry present => ?_⟩
  · have ended : ¬ (request.note username 0).Waiting := by
      rintro ⟨none, _⟩
      rw [first] at none
      cases none
    rw [if_neg ended, Request.note_query_id, AList.lookup_erase]
  · have ended : ¬ (request.note username 0).AllFound := by
      rintro ⟨none, _⟩
      rw [first] at none
      cases none
    have old := books.continued
    rw [if_neg (fun all => waiting.2 all.2)] at old
    rw [if_neg ended, Request.note_query]
    exact old
  · have old := books.failed
    rw [waiting.1] at old
    rw [first, Request.note_query, filter_append_same, old]
    rfl
  · refine books_apart state _ other held ?_ rfl ?_
    · rw [AList.lookup_erase_ne notId]
    · exact filter_append_other _ _ _ _ notQuery
  · rw [Tables.lookup_erase] at found
    by_cases same : queryId = request.queryId
    · rw [if_pos same] at found
      cases found
    · rw [if_neg same] at found
      exact ⟨pending, found⟩
  · rcases List.mem_append.1 present with old | new
    · exact .inl old
    · exact .inr (by rw [List.mem_singleton.1 new])

include fresh

theorem answers_continued (found : userId ≠ 0) (waiting : request.Waiting) (last : request.unanswered.length - 1 = 0)
    (tempToReal : AList (fun _ : UserId => UserId)) (fixed : Continuation KeyboardButton)
    (continues : fixContinuation tempToReal request.onSuccess = .ok fixed) :
    Answers request (request.note username userId) state
      { state with
        pendingQueries := state.pendingQueries.erase request.queryId
        continued := state.continued ++ [(request.query, fixed)] } := by
  have none : (request.note username userId).firstNotFound = none := by
    rw [Request.note_first_not_found username userId request member, waiting.1, if_neg found]
    rfl
  have empty : (request.note username userId).unanswered = [] := by
    rw [← List.length_eq_zero_iff, Request.note_length username userId request fresh member, last]
  refine ⟨⟨?_, ?_, ?_⟩, fun other notId notQuery held => ?_, rfl, rfl, rfl, rfl, fun queryId pending found => ?_,
    fun entry present => ?_, fun _ present => .inl present⟩
  · rw [if_neg (fun still => still.2 empty), Request.note_query_id, AList.lookup_erase]
  · have old := books.continued
    rw [if_neg (fun all => waiting.2 all.2)] at old
    rw [if_pos ⟨none, empty⟩, Request.note_query, Request.note_on_success]
    refine ⟨tempToReal, fixed, continues, ?_⟩
    rw [filter_append_same, old]
    rfl
  · have old := books.failed
    rw [waiting.1] at old
    rw [none, Request.note_query]
    exact old
  · refine books_apart state _ other held ?_ ?_ rfl
    · rw [AList.lookup_erase_ne notId]
    · exact filter_append_other _ _ _ _ notQuery
  · rw [Tables.lookup_erase] at found
    by_cases same : queryId = request.queryId
    · rw [if_pos same] at found
      cases found
    · rw [if_neg same] at found
      exact ⟨pending, found⟩
  · rcases List.mem_append.1 present with old | new
    · exact .inl old
    · exact .inr (by rw [List.mem_singleton.1 new])

theorem answers_counted (found : userId ≠ 0) (waiting : request.Waiting) (more : request.unanswered.length - 1 ≠ 0) :
    Answers request (request.note username userId) state
      { state with
        pendingQueries := state.pendingQueries.insert request.queryId
          ⟨request.unanswered.length - 1, request.query, request.onSuccess⟩ } := by
  have none : (request.note username userId).firstNotFound = none := by
    rw [Request.note_first_not_found username userId request member, waiting.1, if_neg found]
    rfl
  have length := Request.note_length username userId request fresh member
  have left : (request.note username userId).unanswered ≠ [] := by
    intro empty
    rw [empty] at length
    exact more length.symm
  refine ⟨⟨?_, ?_, ?_⟩, fun other notId notQuery held => ?_, rfl, rfl, rfl, rfl, fun queryId pending found => ?_,
    fun _ present => .inl present, fun _ present => .inl present⟩
  · rw [if_pos ⟨none, left⟩, Request.note_query_id, AList.lookup_insert, length, Request.note_query,
      Request.note_on_success]
  · have old := books.continued
    rw [if_neg (fun all => waiting.2 all.2)] at old
    rw [if_neg (fun all => left all.2), Request.note_query]
    exact old
  · have old := books.failed
    rw [waiting.1] at old
    rw [none, Request.note_query]
    exact old
  · exact books_apart state _ other held (AList.lookup_insert_ne notId) rfl rfl
  · by_cases same : queryId = request.queryId
    · have held := books.pending
      rw [if_pos waiting, ← same] at held
      exact ⟨_, held⟩
    · rw [AList.lookup_insert_ne same] at found
      exact ⟨pending, found⟩

theorem resolve_awaiting_answers : Meets ContinuationFault (Answers request (request.note username userId) state)
    (resolveAwaiting username userId state request.queryId) := by
  unfold resolveAwaiting
  cases found : state.pendingQueries.lookup request.queryId with
  | none => exact answers_failed username userId state request books member found
  | some pending =>
      obtain ⟨waiting, rfl⟩ := waiting_of_pending state request books pending found
      have positive : 0 < request.unanswered.length := List.length_pos_of_mem member
      dsimp only
      rw [require_true _ _ positive, ok_bind]
      by_cases zero : userId = 0
      · rw [if_pos zero, zero]
        exact answers_not_found username state request books member waiting
      · rw [if_neg zero]
        by_cases last : request.unanswered.length - 1 = 0
        · rw [if_pos last]
          cases fixes : fixContinuation state.tempToReal request.onSuccess with
          | error fault =>
              exact meets_fails _ _ _ fault (fix_continuation_fault state.tempToReal request.onSuccess) fixes
          | ok fixed => exact answers_continued username userId state request books fresh member zero waiting last _ fixed fixes
        · rw [if_neg last]
          exact answers_counted username userId state request books fresh member zero waiting last

end Answering

structure Midway (username : Username) (userId : UserId) (requests : List (Request KeyboardButton)) (rest : List Int)
    (first state : State KeyboardButton) : Prop where
  books : ∀ request ∈ requests, Books state (if request.queryId ∈ rest then request else request.note username userId)
  awaiting : state.awaitingQueries = first.awaitingQueries
  searching : state.searching = first.searching
  closing : state.closing = first.closing
  current : state.currentQueryId = first.currentQueryId
  known : ∀ queryId pending, state.pendingQueries.lookup queryId = some pending →
    ∃ request ∈ requests, request.queryId = queryId
  continues : ∀ entry ∈ state.continued, ∃ request ∈ requests, request.query.id = entry.1.id
  fails : ∀ entry ∈ state.failed, ∃ request ∈ requests, request.query.id = entry.1.id

theorem distinct_requests (requests : List (Request KeyboardButton))
    (queries : (requests.map (fun request => request.query.id)).Nodup) (first last : Request KeyboardButton)
    (firstMember : first ∈ requests) (lastMember : last ∈ requests) (different : last.queryId ≠ first.queryId) :
    last.query.id ≠ first.query.id := by
  intro same
  have equal : last = first := List.inj_on_of_nodup_map queries lastMember firstMember same
  exact different (congrArg Request.queryId equal)

theorem midway_step (username : Username) (userId : UserId) (requests : List (Request KeyboardButton)) (rest : List Int)
    (first state : State KeyboardButton) (request : Request KeyboardButton) (present : request ∈ requests)
    (member : username ∈ request.unanswered) (absent : request.queryId ∉ rest)
    (queryIds : (requests.map Request.queryId).Nodup) (queries : (requests.map (fun request => request.query.id)).Nodup)
    (fresh : ∀ request ∈ requests, request.usernames.Nodup)
    (midway : Midway username userId requests (request.queryId :: rest) first state) :
    Meets ContinuationFault (Midway username userId requests rest first)
      (resolveAwaiting username userId state request.queryId) := by
  have books : Books state request := by
    have held := midway.books request present
    rwa [if_pos List.mem_cons_self] at held
  refine meets_weaken _ _ _ _ (fun after answers => ?_)
    (resolve_awaiting_answers username userId state request books (fresh request present) member)
  refine ⟨fun other otherPresent => ?_, answers.awaiting.trans midway.awaiting, answers.searching.trans midway.searching,
    answers.closing.trans midway.closing, answers.current.trans midway.current, ?_, ?_, ?_⟩
  · by_cases same : other.queryId = request.queryId
    · have equal : other = request := List.inj_on_of_nodup_map queryIds otherPresent present same
      rw [equal, if_neg absent]
      exact answers.books
    · have otherQuery := distinct_requests requests queries request other present otherPresent same
      have held := midway.books other otherPresent
      by_cases later : other.queryId ∈ rest
      · rw [if_pos (List.mem_cons_of_mem _ later)] at held
        rw [if_pos later]
        exact answers.apart other same otherQuery held
      · rw [if_neg (by simp [same, later])] at held
        rw [if_neg later]
        exact answers.apart _ (by rwa [Request.note_query_id]) (by rwa [Request.note_query]) held
  · intro queryId pending found
    obtain ⟨earlier, foundEarlier⟩ := answers.known queryId pending found
    exact midway.known queryId earlier foundEarlier
  · intro entry added
    rcases answers.continues entry added with old | new
    · exact midway.continues entry old
    · exact ⟨request, present, by rw [new]⟩
  · intro entry added
    rcases answers.fails entry added with old | new
    · exact midway.fails entry old
    · exact ⟨request, present, by rw [new]⟩

theorem waits_of_lookup (state : State KeyboardButton) (username : Username) (queryIds : List Int)
    (listed : state.awaitingQueries.lookup username = some queryIds) : state.waits username = queryIds := by
  rw [State.waits, listed]
  rfl

theorem mem_note_all (username : Username) (userId : UserId) (requests : List (Request KeyboardButton))
    (noted : Request KeyboardButton) (member : noted ∈ noteAll username userId requests) :
    ∃ request ∈ requests, request.note username userId = noted := List.mem_map.1 member

theorem note_all_query_ids (username : Username) (userId : UserId) (requests : List (Request KeyboardButton)) :
    (noteAll username userId requests).map Request.queryId = requests.map Request.queryId := by
  rw [noteAll, List.map_map]
  exact List.map_congr_left (fun request _ => Request.note_query_id username userId request)

theorem note_all_queries (username : Username) (userId : UserId) (requests : List (Request KeyboardButton)) :
    (noteAll username userId requests).map (fun request => request.query.id) =
      requests.map (fun request => request.query.id) := by
  rw [noteAll, List.map_map]
  exact List.map_congr_left (fun request _ => congrArg Query.id (Request.note_query username userId request))

theorem noted_query_id (username : Username) (userId : UserId) (requests : List (Request KeyboardButton)) (queryId : Int)
    (known : ∃ request ∈ requests, request.queryId = queryId) :
    ∃ request ∈ noteAll username userId requests, request.queryId = queryId := by
  obtain ⟨request, present, same⟩ := known
  exact ⟨_, List.mem_map_of_mem present, by rwa [Request.note_query_id]⟩

theorem noted_query (username : Username) (userId : UserId) (requests : List (Request KeyboardButton)) (id : Nat)
    (known : ∃ request ∈ requests, request.query.id = id) :
    ∃ request ∈ noteAll username userId requests, request.query.id = id := by
  obtain ⟨request, present, same⟩ := known
  exact ⟨_, List.mem_map_of_mem present, by rwa [Request.note_query]⟩

structure Told (username : Username) (userId : UserId) (requests : List (Request KeyboardButton)) (fresh : Int)
    (todo : List Username) (state after : State KeyboardButton) : Prop where
  tracks : Tracks (noteAll username userId requests) fresh todo after
  waits : ∀ other, after.waits other = if other = username then [] else state.waits other
  searching : after.searching = state.searching
  closing : after.closing = state.closing
  current : after.currentQueryId = state.currentQueryId

theorem told_of_midway (username : Username) (userId : UserId) (requests : List (Request KeyboardButton)) (fresh : Int)
    (todo : List Username) (state first after : State KeyboardButton) (tracks : Tracks requests fresh todo state)
    (awaiting : first.awaitingQueries = state.awaitingQueries.erase username)
    (searching : first.searching = state.searching) (closing : first.closing = state.closing)
    (current : first.currentQueryId = state.currentQueryId) (midway : Midway username userId requests [] first after) :
    Told username userId requests fresh todo state after := by
  have lists (other : Username) : after.awaitingQueries.lookup other =
      if other = username then none else state.awaitingQueries.lookup other := by
    rw [midway.awaiting, awaiting, Tables.lookup_erase]
  have waits (other : Username) : after.waits other = if other = username then [] else state.waits other := by
    rw [State.waits, lists]
    split <;> rfl
  refine ⟨?_, waits, midway.searching.trans searching, midway.closing.trans closing, midway.current.trans current⟩
  refine ⟨?_, ?_, ?_, ?_, ?_, ?_, ?_, ?_, ?_, ?_, ?_, ?_⟩
  · intro noted member
    obtain ⟨request, present, rfl⟩ := mem_note_all username userId requests noted member
    simpa using midway.books request present
  · intro noted member other
    obtain ⟨request, present, rfl⟩ := mem_note_all username userId requests noted member
    rw [waits, Request.note_query_id, Request.note_unanswered]
    by_cases same : other = username
    · simp [same]
    · simpa [same] using tracks.waits request present other
  · intro other queryId waiting
    rw [waits] at waiting
    split at waiting
    · cases waiting
    · exact noted_query_id username userId requests queryId (tracks.registered other queryId waiting)
  · intro other
    rw [waits]
    split
    · exact List.nodup_nil
    · exact tracks.distinct other
  · intro other listed
    rw [lists] at listed
    split at listed
    · cases listed
    · exact tracks.present other listed
  · exact fun queryId pending found =>
      noted_query_id username userId requests queryId (midway.known queryId pending found)
  · exact fun entry member => noted_query username userId requests _ (midway.continues entry member)
  · exact fun entry member => noted_query username userId requests _ (midway.fails entry member)
  · intro noted member
    obtain ⟨request, present, rfl⟩ := mem_note_all username userId requests noted member
    rw [midway.current, current, Request.note_query_id]
    exact tracks.issued request present
  · rw [note_all_query_ids]
    exact tracks.queryIds
  · rw [note_all_queries]
    exact tracks.queries
  · intro noted member
    obtain ⟨request, present, rfl⟩ := mem_note_all username userId requests noted member
    rw [Request.note_usernames]
    exact tracks.usernames request present

theorem store_resolved_keeps (username : Username) (userId : UserId) (state : State KeyboardButton) :
    ∃ ids tempToReal, storeResolved username userId state = { state with ids, tempToReal } := by
  unfold storeResolved
  split
  · exact ⟨_, _, rfl⟩
  · exact ⟨_, _, rfl⟩

theorem on_resolve_bot_username_told (username : Username) (userId : UserId) (requests : List (Request KeyboardButton))
    (fresh : Int) (todo : List Username) (state : State KeyboardButton) (queryIds : List Int)
    (tracks : Tracks requests fresh todo state) (listed : state.awaitingQueries.lookup username = some queryIds)
    (entered : username ∉ todo) : Meets ContinuationFault (Told username userId requests fresh todo state)
      (onResolveBotUsername username userId state) := by
  have waits := waits_of_lookup state username queryIds listed
  have nonempty : queryIds ≠ [] := fun empty => tracks.present username (empty ▸ listed)
  have distinct : queryIds.Nodup := waits ▸ tracks.distinct username
  obtain ⟨ids, tempToReal, stored⟩ := store_resolved_keeps username userId
    { state with awaitingQueries := state.awaitingQueries.erase username }
  have told (request : Request KeyboardButton) (present : request ∈ requests) :
      request.queryId ∈ queryIds ↔ username ∈ request.unanswered := by
    have iff := tracks.waits request present username
    rw [waits] at iff
    simpa [entered] using iff
  unfold onResolveBotUsername
  rw [listed]
  dsimp only
  rw [require_true _ _ nonempty, ok_bind, stored]
  refine meets_weaken _ _ _ _ (fun after reached => ?_) (meets_foldlM_rest _
    (fun rest middle => (Midway username userId requests rest
      { state with awaitingQueries := state.awaitingQueries.erase username, ids, tempToReal } middle ∧ rest.Nodup) ∧
        rest ⊆ queryIds) _ _ _ ⟨⟨?_, distinct⟩, List.Subset.refl _⟩ ?_)
  · exact told_of_midway username userId requests fresh todo state _ after tracks (by rfl) (by rfl) (by rfl) (by rfl)
      reached.1.1
  · refine ⟨fun request present => ?_, rfl, rfl, rfl, rfl, tracks.known, tracks.continues, tracks.fails⟩
    have held := tracks.books request present
    split
    · exact books_apart state _ request held rfl rfl rfl
    · rename_i absent
      rw [Request.note_absent username userId request (fun member => absent ((told request present).2 member))]
      exact books_apart state _ request held rfl rfl rfl
  · rintro queryId rest middle ⟨⟨midway, distinctRest⟩, inside⟩
    obtain ⟨request, present, same⟩ := tracks.registered username queryId
      (by rw [waits]; exact inside List.mem_cons_self)
    subst same
    obtain ⟨absent, restDistinct⟩ := List.nodup_cons.1 distinctRest
    refine meets_weaken _ _ _ _ (fun after kept => ⟨⟨kept, restDistinct⟩, (List.cons_subset.1 inside).2⟩)
      (midway_step username userId requests rest _ middle request present
        ((told request present).1 (inside List.mem_cons_self)) absent tracks.queryIds tracks.queries tracks.usernames midway)

def entering (queryId : Int) (state : State KeyboardButton) (username : Username) : State KeyboardButton :=
  { state with awaitingQueries := state.awaitingQueries.insert username (state.waits username ++ [queryId]) }

theorem entering_lookup (queryId : Int) (state : State KeyboardButton) (username other : Username) :
    (entering queryId state username).awaitingQueries.lookup other =
      if other = username then some (state.waits username ++ [queryId]) else state.awaitingQueries.lookup other :=
  Tables.lookup_insert _ _ _ _

theorem entering_waits (queryId : Int) (state : State KeyboardButton) (username other : Username) :
    (entering queryId state username).waits other =
      if other = username then state.waits username ++ [queryId] else state.waits other := by
  rw [State.waits, entering_lookup]
  split <;> rfl

theorem entering_tracks (requests : List (Request KeyboardButton)) (fresh : Int) (username : Username) (rest : List Username)
    (state : State KeyboardButton) (own : Request KeyboardButton) (present : own ∈ requests) (same : own.queryId = fresh)
    (member : username ∈ own.unanswered) (absent : username ∉ rest)
    (tracks : Tracks requests fresh (username :: rest) state) :
    Tracks requests fresh rest (entering fresh state username) := by
  have notListed : fresh ∉ state.waits username := by
    rw [← same, tracks.waits own present]
    simp [same]
  refine ⟨fun request held => ?_, ?_, ?_, ?_, ?_, tracks.known, tracks.continues, tracks.fails, tracks.issued,
    tracks.queryIds, tracks.queries, tracks.usernames⟩
  · exact books_apart state _ request (tracks.books request held) rfl rfl rfl
  · intro request held other
    have before := tracks.waits request held other
    rw [entering_waits]
    by_cases here : other = username
    · subst here
      rw [if_pos rfl, List.mem_append, List.mem_singleton, before]
      by_cases new : request.queryId = fresh
      · have equal : request = own := List.inj_on_of_nodup_map tracks.queryIds held present (new.trans same.symm)
        simp [equal, same, member, absent]
      · simp [new]
    · rw [if_neg here, before]
      simp [here]
  · intro other queryId listed
    rw [entering_waits] at listed
    split at listed
    · rename_i here
      rcases List.mem_append.1 listed with old | new
      · exact tracks.registered username queryId old
      · exact ⟨own, present, same.trans (List.mem_singleton.1 new).symm⟩
    · exact tracks.registered other queryId listed
  · intro other
    rw [entering_waits]
    split
    · exact List.nodup_append.2 ⟨tracks.distinct username, List.nodup_singleton fresh, fun queryId listed last appended => by
        rw [List.mem_singleton.1 appended]
        rintro rfl
        exact notListed listed⟩
    · exact tracks.distinct other
  · intro other
    rw [entering_lookup]
    split
    · simp
    · exact tracks.present other

structure Entered (requests : List (Request KeyboardButton)) (fresh : Int) (username : Username) (rest : List Username)
    (state after : State KeyboardButton) : Prop where
  tracks : Tracks (if answeredAtOnce state username then noteAll username 0 requests else requests) fresh rest after
  searched : Searched after
  waits : ∀ other, other ≠ username → after.waits other = state.waits other
  closing : after.closing = state.closing

theorem await_username_entered (requests : List (Request KeyboardButton)) (fresh : Int) (username : Username)
    (rest : List Username) (state : State KeyboardButton) (own : Request KeyboardButton) (present : own ∈ requests)
    (same : own.queryId = fresh) (member : username ∈ own.unanswered) (absent : username ∉ rest)
    (tracks : Tracks requests fresh (username :: rest) state) (searched : Searched state) :
    Meets ContinuationFault (Entered requests fresh username rest state) (awaitUsername fresh state username) := by
  have entered := entering_tracks requests fresh username rest state own present same member absent tracks
  have before := searched username
  unfold awaitUsername
  change Meets _ _ (if (state.waits username ++ [fresh]).length = 1 then
    searchPublicChat username (entering fresh state username) else .ok (entering fresh state username))
  by_cases empty : state.waits username = []
  · rw [if_pos (by rw [empty]; rfl), searchPublicChat]
    rw [if_pos empty] at before
    cases closing : state.closing with
    | true =>
        have atOnce : answeredAtOnce state username = true := by rw [answeredAtOnce, closing, empty]; rfl
        have listed : (entering fresh state username).awaitingQueries.lookup username = some [fresh] := by
          rw [entering_lookup, if_pos rfl, empty, List.nil_append]
        rw [if_pos (show (entering fresh state username).closing = true from closing)]
        refine meets_weaken _ _ _ _ (fun after told => ?_)
          (on_resolve_bot_username_told username 0 requests fresh rest _ [fresh] entered listed absent)
        have waits (other : Username) : after.waits other = state.waits other := by
          rw [told.waits, entering_waits]
          by_cases here : other = username
          · rw [if_pos here, here, empty]
          · rw [if_neg here, if_neg here]
        refine ⟨by rw [if_pos atOnce]; exact told.tracks, fun other => ?_, fun other _ => waits other, told.closing⟩
        rw [told.searching, waits]
        exact searched other
    | false =>
        have later : ¬ answeredAtOnce state username = true := by simp [answeredAtOnce, closing]
        rw [if_neg (by rw [show (entering fresh state username).closing = false from closing]; exact Bool.false_ne_true)]
        refine ⟨?_, fun other => ?_, fun other different => ?_, rfl⟩
        · rw [if_neg later]
          exact tracks_congr _ _ requests fresh rest entered rfl rfl rfl rfl rfl
        · change (state.searching ++ [username]).count other = if (entering fresh state username).waits other = [] then 0 else 1
          rw [entering_waits, List.count_append]
          by_cases here : other = username
          · subst here
            simp [before]
          · rw [if_neg here, ← searched other]
            simp [Ne.symm here]
        · exact (entering_waits fresh state username other).trans (if_neg different)
  · have longer : ¬ (state.waits username ++ [fresh]).length = 1 := by simpa using empty
    have later : ¬ answeredAtOnce state username = true := by simp [answeredAtOnce, empty]
    rw [if_neg longer]
    refine ⟨by rw [if_neg later]; exact entered, fun other => ?_, fun other different => ?_, rfl⟩
    · change state.searching.count other = if (entering fresh state username).waits other = [] then 0 else 1
      rw [entering_waits]
      by_cases here : other = username
      · rw [here, before]
        simp [empty]
      · rw [if_neg here]
        exact searched other
    · exact (entering_waits fresh state username other).trans (if_neg different)

theorem await_usernames_entered (usernames : List Username) (requests : List (Request KeyboardButton)) (fresh : Int)
    (state : State KeyboardButton) (distinct : usernames.Nodup)
    (own : ∃ request ∈ requests, request.queryId = fresh ∧ ∀ username ∈ usernames, username ∈ request.unanswered)
    (tracks : Tracks requests fresh usernames state) (searched : Searched state) :
    Meets ContinuationFault
      (fun after => Tracks ((usernames.filter (answeredAtOnce state)).foldl
        (fun requests username => noteAll username 0 requests) requests) fresh [] after ∧ Searched after)
      (usernames.foldlM (awaitUsername fresh) state) := by
  induction usernames generalizing requests state with
  | nil => exact ⟨tracks, searched⟩
  | cons username rest ih =>
      obtain ⟨absent, restDistinct⟩ := List.nodup_cons.1 distinct
      obtain ⟨request, present, same, members⟩ := own
      rw [List.foldlM_cons]
      refine meets_bind _ _ _ _ _ (await_username_entered requests fresh username rest state request present same
        (members username List.mem_cons_self) absent tracks searched) (fun after entered => ?_)
      have sameAnswers : rest.filter (answeredAtOnce after) = rest.filter (answeredAtOnce state) := by
        refine List.filter_congr (fun other member => ?_)
        have different : other ≠ username := fun here => absent (here ▸ member)
        rw [answeredAtOnce, answeredAtOnce, entered.closing, entered.waits other different]
      have continues := ih (if answeredAtOnce state username then noteAll username 0 requests else requests) after
        restDistinct ?_ entered.tracks entered.searched
      · rw [sameAnswers] at continues
        by_cases atOnce : answeredAtOnce state username = true
        · rw [List.filter_cons_of_pos atOnce, List.foldl_cons]
          rw [if_pos atOnce] at continues
          exact continues
        · rw [List.filter_cons_of_neg atOnce]
          rw [if_neg atOnce] at continues
          exact continues
      · by_cases atOnce : answeredAtOnce state username = true
        · rw [if_pos atOnce]
          refine ⟨_, List.mem_map_of_mem present, by rwa [Request.note_query_id], fun other member => ?_⟩
          have different : other ≠ username := fun here => absent (here ▸ member)
          rw [Request.note_unanswered, List.mem_filter]
          exact ⟨members other (List.mem_cons_of_mem _ member), decide_eq_true different⟩
        · rw [if_neg atOnce]
          exact ⟨request, present, same, fun other member => members other (List.mem_cons_of_mem _ member)⟩

theorem tracks_any (requests : List (Request KeyboardButton)) (fresh other : Int) (state : State KeyboardButton)
    (tracks : Tracks requests fresh [] state) : Tracks requests other [] state :=
  { tracks with waits := fun request held username => by simpa using tracks.waits request held username }

theorem unanswered_new (queryId : Int) (query : Query) (usernames : List Username) (onSuccess : Continuation KeyboardButton) :
    (Request.mk queryId query usernames onSuccess []).unanswered = usernames := by
  simp [Request.unanswered]

theorem filter_unknown {Outcome : Type} (log : List (Query × Outcome)) (requests : List (Request KeyboardButton)) (id : Nat)
    (logged : ∀ entry ∈ log, ∃ request ∈ requests, request.query.id = entry.1.id)
    (unknown : ∀ request ∈ requests, request.query.id ≠ id) : log.filter (fun entry => entry.1.id = id) = [] := by
  rw [List.filter_eq_nil_iff]
  intro entry member same
  obtain ⟨request, present, equal⟩ := logged entry member
  exact unknown request present (equal.trans (of_decide_eq_true same))

theorem known_append (requests added : List (Request KeyboardButton)) (property : Request KeyboardButton → Prop)
    (known : ∃ request ∈ requests, property request) : ∃ request ∈ requests ++ added, property request := by
  obtain ⟨request, present, holds⟩ := known
  exact ⟨request, List.mem_append_left added present, holds⟩

theorem registered_tracks (state : State KeyboardButton) (requests : List (Request KeyboardButton)) (query : Query)
    (usernames : List Username) (onSuccess : Continuation KeyboardButton) (ids : BotUserIds)
    (tracks : Tracks requests 0 [] state) (named : usernames ≠ []) (distinct : usernames.Nodup)
    (unknown : ∀ request ∈ requests, request.query.id ≠ query.id) :
    Tracks (requests ++ [{ queryId := state.currentQueryId, query, usernames, onSuccess }]) state.currentQueryId usernames
      { state with
        ids
        currentQueryId := state.currentQueryId + 1
        pendingQueries := state.pendingQueries.insert state.currentQueryId ⟨usernames.length, query, onSuccess⟩ } := by
  have older (request : Request KeyboardButton) (held : request ∈ requests) : request.queryId ≠ state.currentQueryId :=
    Int.ne_of_lt (tracks.issued request held)
  have notListed (username : Username) : state.currentQueryId ∉ state.waits username := by
    intro listed
    obtain ⟨request, held, same⟩ := tracks.registered username _ listed
    exact older request held same
  refine ⟨fun request held => ?_, fun request held username => ?_, fun username queryId listed =>
    known_append _ _ _ (tracks.registered username queryId listed), tracks.distinct, tracks.present,
    fun queryId pending found => ?_, fun entry member => known_append _ _ _ (tracks.continues entry member),
    fun entry member => known_append _ _ _ (tracks.fails entry member), fun request held => ?_, ?_, ?_, fun request held => ?_⟩
  · rcases List.mem_append.1 held with old | new
    · exact books_apart state _ request (tracks.books request old) (AList.lookup_insert_ne (older request old)) rfl rfl
    · rw [List.mem_singleton.1 new]
      have waiting : (Request.mk state.currentQueryId query usernames onSuccess []).Waiting :=
        ⟨rfl, by rw [unanswered_new]; exact named⟩
      refine ⟨?_, ?_, filter_unknown _ requests _ tracks.fails unknown⟩
      · rw [if_pos waiting, unanswered_new]
        exact AList.lookup_insert _
      · rw [if_neg (fun all => waiting.2 all.2)]
        exact filter_unknown _ requests _ tracks.continues unknown
  · rcases List.mem_append.1 held with old | new
    · have before := tracks.waits request old username
      change request.queryId ∈ state.waits username ↔ _
      rw [before]
      simp [older request old]
    · rw [List.mem_singleton.1 new, unanswered_new]
      change state.currentQueryId ∈ state.waits username ↔ _
      simpa using notListed username
  · by_cases same : queryId = state.currentQueryId
    · exact ⟨_, List.mem_append_right _ (List.mem_singleton.2 rfl), same.symm⟩
    · rw [AList.lookup_insert_ne same] at found
      exact known_append _ _ _ (tracks.known queryId pending found)
  · rcases List.mem_append.1 held with old | new
    · exact Int.lt_trans (tracks.issued request old) (Int.lt_succ _)
    · rw [List.mem_singleton.1 new]
      exact Int.lt_succ _
  · rw [List.map_append]
    refine List.nodup_append.2 ⟨tracks.queryIds, List.nodup_singleton _, fun queryId listed other new => ?_⟩
    obtain ⟨request, held, rfl⟩ := List.mem_map.1 listed
    rw [List.mem_singleton.1 new]
    exact older request held
  · rw [List.map_append]
    refine List.nodup_append.2 ⟨tracks.queries, List.nodup_singleton _, fun id listed other new => ?_⟩
    obtain ⟨request, held, rfl⟩ := List.mem_map.1 listed
    rw [List.mem_singleton.1 new]
    exact unknown request held
  · rcases List.mem_append.1 held with old | new
    · exact tracks.usernames request old
    · rw [List.mem_singleton.1 new]
      exact distinct

structure ResolvingInv (state : Resolving KeyboardButton) : Prop where
  tracks : Tracks state.requests 0 [] state.client
  searched : Searched state.client

theorem idle_waits (state : State KeyboardButton) (searched : Searched state) (idle : state.searching = [])
    (username : Username) : state.waits username = [] := by
  have count := searched username
  rw [idle] at count
  by_contra listed
  rw [if_neg listed] at count
  cases count

theorem idle_answered (state : Resolving KeyboardButton) (inv : ResolvingInv state) (idle : state.client.searching = [])
    (request : Request KeyboardButton) (held : request ∈ state.requests) : request.unanswered = [] := by
  rw [List.eq_nil_iff_forall_not_mem]
  intro username member
  have listed := (inv.tracks.waits request held username).2 ⟨member, by simp⟩
  rw [idle_waits state.client inv.searched idle username] at listed
  cases listed

theorem idle_none_pending (state : Resolving KeyboardButton) (inv : ResolvingInv state) (idle : state.client.searching = []) :
    state.client.pendingQueries = ∅ := by
  apply AList.ext
  refine List.eq_nil_iff_forall_not_mem.2 (fun entry member => ?_)
  have found : state.client.pendingQueries.lookup entry.1 = some entry.2 := AList.mem_lookup_iff.2 member
  obtain ⟨request, held, same⟩ := inv.tracks.known _ _ found
  have pending := (inv.tracks.books request held).pending
  rw [same, found, if_neg (fun waiting => waiting.2 (idle_answered state inv idle request held))] at pending
  cases pending

theorem on_closed_idle (state : State KeyboardButton) (none : state.pendingQueries = ∅) : onClosed state = state := by
  unfold onClosed
  have entries : state.pendingQueries.entries = [] := by rw [none]; rfl
  rw [entries, ← none, List.map_nil, List.append_nil]

theorem resolving_step_inv (state : Resolving KeyboardButton) (event : ResolvingEvent KeyboardButton)
    (inv : ResolvingInv state) (enables : resolvingEnabled state event) :
    Meets ContinuationFault ResolvingInv (resolvingStep state event) := by
  cases event with
  | resolve query usernames onSuccess =>
      obtain ⟨_, named, distinct, unknown⟩ := enables
      have registered := registered_tracks state.client state.requests query usernames onSuccess
        { state.client.ids with unresolvedBotUsernames := usernames } inv.tracks named distinct unknown
      refine meets_bind _ (fun after => ResolvingInv
        { state with client := after, requests := register state.client query usernames onSuccess state.requests })
        _ _ _ ?_ (fun after held => held)
      unfold resolveBotUsernames
      dsimp only
      rw [require_true _ _ named, ok_bind]
      refine meets_bind _ _ _ _ _ (await_usernames_entered usernames _ state.client.currentQueryId _ distinct
        ⟨_, List.mem_append_right _ (List.mem_singleton.2 rfl), rfl, fun username member => by rwa [unanswered_new]⟩
        registered inv.searched) (fun after entered => ?_)
      have tracks := tracks_any _ state.client.currentQueryId 0 after entered.1
      exact ⟨tracks_congr after _ _ 0 [] tracks rfl rfl rfl rfl rfl, entered.2⟩
  | chatFound username chat =>
      have searched := inv.searched username
      have counted : 0 < state.client.searching.count username := List.count_pos_iff.2 enables
      have listed : state.client.waits username ≠ [] := by
        intro empty
        rw [if_pos empty] at searched
        omega
      rw [if_neg listed] at searched
      obtain ⟨queryIds, found⟩ : ∃ queryIds, state.client.awaitingQueries.lookup username = some queryIds := by
        cases lookup : state.client.awaitingQueries.lookup username with
        | none => exact absurd (by rw [State.waits, lookup]; rfl) listed
        | some queryIds => exact ⟨queryIds, rfl⟩
      have taken : Tracks state.requests 0 []
          { state.client with searching := state.client.searching.erase username } :=
        tracks_congr state.client _ _ 0 [] inv.tracks rfl rfl rfl rfl rfl
      refine meets_bind _ _ _ _ _ (on_resolve_bot_username_told username chat.userId state.requests 0 [] _ queryIds taken
        found List.not_mem_nil) (fun after told => ⟨told.tracks, fun other => ?_⟩)
      have others := inv.searched other
      rw [told.searching, told.waits]
      by_cases here : other = username
      · rw [here, List.count_erase_self, searched, if_pos rfl, if_pos rfl]
      · rw [if_neg here, List.count_erase_of_ne here]
        exact others
  | closing =>
      exact ⟨tracks_congr state.client _ _ 0 [] inv.tracks rfl rfl rfl rfl rfl, inv.searched⟩
  | closed =>
      have same := on_closed_idle state.client (idle_none_pending state inv enables.2.2)
      change ResolvingInv { state with client := onClosed state.client, closed := true }
      rw [same]
      exact ⟨inv.tracks, inv.searched⟩

theorem resolving_start_inv (state : Resolving KeyboardButton) (start : resolution.start state) : ResolvingInv state := by
  obtain ⟨myId, rfl⟩ := start
  refine ⟨⟨fun request held => (by cases held), fun request held => (by cases held), fun username queryId listed => ?_,
    fun username => List.nodup_nil, fun username listed => ?_, fun queryId pending found => ?_,
    fun entry member => (by cases member),
    fun entry member => (by cases member), fun request held => (by cases held), List.nodup_nil, List.nodup_nil,
    fun request held => (by cases held)⟩, fun username => rfl⟩
  · cases listed
  · cases listed
  · cases found

theorem pending_count (state : Resolving KeyboardButton) (inv : ResolvingInv state) (queryId : Int)
    (pending : PendingBotResolveQuery KeyboardButton)
    (found : state.client.pendingQueries.lookup queryId = some pending) : pending.pendingResolveCount =
      (state.client.awaitingQueries.entries.filter (fun entry => queryId ∈ entry.2)).length := by
  obtain ⟨request, held, rfl⟩ := inv.tracks.known queryId pending found
  obtain ⟨_, rfl⟩ := waiting_of_pending state.client request (inv.tracks.books request held) pending found
  have distinct : request.unanswered.Nodup := (inv.tracks.usernames request held).filter _
  have keys : ((state.client.awaitingQueries.entries.filter (fun entry => request.queryId ∈ entry.2)).map Sigma.fst).Nodup :=
    state.client.awaitingQueries.nodupKeys.sublist List.filter_sublist
  have members (username : Username) : username ∈ request.unanswered ↔
      username ∈ (state.client.awaitingQueries.entries.filter (fun entry => request.queryId ∈ entry.2)).map Sigma.fst := by
    have listed := inv.tracks.waits request held username
    rw [← (by simpa using listed : request.queryId ∈ state.client.waits username ↔ username ∈ request.unanswered)]
    constructor
    · intro waits
      cases lookup : state.client.awaitingQueries.lookup username with
      | none =>
          rw [State.waits, lookup] at waits
          cases waits
      | some queryIds =>
          rw [waits_of_lookup _ _ _ lookup] at waits
          exact List.mem_map.2 ⟨⟨username, queryIds⟩,
            List.mem_filter.2 ⟨AList.mem_lookup_iff.1 lookup, decide_eq_true waits⟩, rfl⟩
    · intro member
      obtain ⟨⟨_, queryIds⟩, entry, rfl⟩ := List.mem_map.1 member
      obtain ⟨present, listed⟩ := List.mem_filter.1 entry
      rw [waits_of_lookup _ _ queryIds (AList.mem_lookup_iff.2 present)]
      exact of_decide_eq_true listed
  have same := ((List.perm_ext_iff_of_nodup distinct keys).2 members).length_eq
  rwa [List.length_map] at same

theorem bot_usernames_resolved (state : Resolving KeyboardButton)
    (reached : Transition.Reach resolution Transition.unrestricted state) : Resolved state := by
  have inv : ResolvingInv state := Transition.reach_meets resolution Transition.unrestricted ContinuationFault ResolvingInv
    resolving_start_inv (fun before event held enables _ => resolving_step_inv before event held enables) state reached
  refine ⟨pending_count state inv, fun username queryIds listed => ?_, fun username searching => ?_,
    fun request held => ?_, fun idle request held => ?_, fun event fault enables failed => ?_⟩
  · have nonempty : queryIds ≠ [] := fun empty => inv.tracks.present username (empty ▸ listed)
    have counted := inv.searched username
    rw [waits_of_lookup _ _ _ listed, if_neg nonempty] at counted
    exact ⟨nonempty, counted⟩
  · have counted := inv.searched username
    have positive : 0 < state.client.searching.count username := List.count_pos_iff.2 searching
    cases lookup : state.client.awaitingQueries.lookup username with
    | some queryIds => rfl
    | none =>
        rw [State.waits, lookup] at counted
        simp only [Option.getD_none, if_true] at counted
        omega
  · have books := inv.tracks.books request held
    refine ⟨?_, books.failed⟩
    have continued := books.continued
    by_cases all : request.AllFound
    · rw [if_pos all] at continued
      obtain ⟨_, fixed, _, logged⟩ := continued
      rw [if_pos all, logged]
      rfl
    · rw [if_neg all] at continued
      rw [if_neg all, continued]
      rfl
  · have answered := idle_answered state inv idle request held
    cases first : request.firstNotFound with
    | none => exact .inl ⟨first, answered⟩
    | some username => exact .inr rfl
  · exact meets_fails _ _ _ fault (resolving_step_inv state event inv enables) failed

instance (state : Resolving KeyboardButton) (event : ResolvingEvent KeyboardButton) :
    Decidable (resolution.enabled state event) :=
  match event with
  | .resolve _ _ _ => inferInstanceAs (Decidable (_ ∧ _ ∧ _ ∧ _))
  | .chatFound _ _ => inferInstanceAs (Decidable (_ ∈ _))
  | .closing => inferInstanceAs (Decidable (_ = _))
  | .closed => inferInstanceAs (Decidable (_ ∧ _ ∧ _))

end Resolution

section TwoRequests

def sharedNames : List (ResolvingEvent Unit) :=
  [.resolve { id := 1, method := .sendMessage } ["alice_bot", "bob_bot"] (.replyMarkup none),
    .resolve { id := 2, method := .sendMessage } ["bob_bot", "carol_bot"] (.replyMarkup none),
    .chatFound "alice_bot" .notPrivate, .chatFound "bob_bot" (.user 7 true), .chatFound "carol_bot" (.user 8 true),
    .closing, .closed]

theorem shared_names_resolved : ∃ state : Resolving Unit,
    state.client.failed.map (fun entry => (entry.1.id, entry.2)) = [(1, botNotFound "alice_bot")] ∧
      state.client.continued.map (fun entry => entry.1.id) = [2] ∧ state.closed = true ∧ Resolved state := by
  obtain ⟨state, reached, failed, continued, closed⟩ :=
    Transition.exists_reach (resolution : Transition.Machine (Resolving Unit) _ _)
    Transition.unrestricted
    (fun last => last.client.failed.map (fun entry => (entry.1.id, entry.2)) = [(1, botNotFound "alice_bot")] ∧
      last.client.continued.map (fun entry => entry.1.id) = [2] ∧ last.closed = true)
    { client := { ids := {} } } ⟨0, rfl⟩ sharedNames (by decide +kernel)
  exact ⟨state, failed, continued, closed, bot_usernames_resolved state reached⟩

end TwoRequests

end TelegramBotApi.BotUsernames
