import TelegramBotApi.ClosedClientDrain

set_option autoImplicit false

-- The life of a request while TDLib runs, whatever part of the client has it.
namespace TelegramBotApi.ClosedClient

open Tables
open Client (Environment)

section Conservation

variable {Queue KeyboardButton : Type} (env : Environment Queue)

def State.Admitted (state : State Queue KeyboardButton) : Request → Prop
  | .command query => Client.Handled query ∧ query ∈ state.sent
  | .message query => query ∈ state.messages.requested
  | .usernames query => ∃ request ∈ state.usernames.requests, request.query.id = query
  | .download query => query ∈ state.downloads.requested
  | .story query => query ∈ state.stories.requested

-- The containers that hold the request and the callbacks of TDLib that own it
def State.timesHeld (state : State Queue KeyboardButton) : Request → Nat
  | .command query => state.client.desk.held.count query
  | .message query => state.messages.handlerIds.count query + state.messages.pendingIds.count query
  | .usernames query => ((values state.usernames.client.pendingQueries).map (fun pending => pending.query.id)).count query
  | .download query => state.downloads.waiting.count query
  | .story query => (values state.stories.handlers).count query + (values state.stories.yetUnsentStories).count query

-- A request whose usernames are all found goes on to the function that it came from.
def State.timesContinued (state : State Queue KeyboardButton) : Request → Nat
  | .usernames query => (state.usernames.client.continued.map (fun entry => entry.1.id)).count query
  | _ => 0

theorem count_filter_ids {Entry : Type} (id : Entry → Nat) (entries : List Entry) (query : Nat) :
    (entries.map id).count query = (entries.filter (fun entry => id entry = query)).length := by
  induction entries with
  | nil => rfl
  | cons entry entries ih => by_cases same : id entry = query <;> simp [same, ih]

theorem command_once (state : State Queue KeyboardButton) (kept : Kept env state) (query : Client.Query)
    (admitted : state.Admitted (.command query)) :
    state.timesAnswered (.command query) + state.timesHeld (.command query) = 1 := by
  obtain ⟨phase, -, balanced⟩ := kept.settled.balanced
  have counted := congrArg (Multiset.count query) balanced.account
  rw [Multiset.count_filter_of_pos admitted.1, Multiset.count_filter_of_pos admitted.1, Client.Desk.total,
    Multiset.count_add, Multiset.count_add, Multiset.coe_nil, Multiset.count_zero, Multiset.coe_count,
    List.count_eq_one_of_mem kept.books.distinct.of_map admitted.2, Client.Desk.answered, Multiset.coe_count] at counted
  exact counted

theorem message_once (state : State Queue KeyboardButton) (books : Books state) (query : UnsentMessages.QueryId)
    (admitted : state.Admitted (.message query)) :
    state.timesAnswered (.message query) + state.timesHeld (.message query) = 1 := by
  have counted := congrArg (Multiset.count query) books.messages.owned
  rw [Multiset.count_add, Multiset.count_add, Multiset.count_add, Multiset.count_zero, Multiset.coe_count,
    List.count_eq_one_of_mem books.messages.distinct admitted, UnsentMessages.State.answeredIds, Multiset.coe_count] at counted
  rw [State.timesAnswered, books.silent]
  change _ + 0 + (_ + _) = 1
  omega

theorem pending_key (state : State Queue KeyboardButton) (books : Books state)
    (request : BotUsernames.Request KeyboardButton) (held : request ∈ state.usernames.requests) (key : Int)
    (pending : BotUsernames.PendingBotResolveQuery KeyboardButton)
    (found : state.usernames.client.pendingQueries.lookup key = some pending)
    (same : pending.query.id = request.query.id) : key = request.queryId := by
  have tracks := books.usernames.tracks
  obtain ⟨other, listed, rfl⟩ := tracks.known key pending found
  have own := (tracks.books other listed).pending
  rw [found] at own
  split at own
  next =>
    cases own
    exact congrArg BotUsernames.Request.queryId (List.inj_on_of_nodup_map tracks.queries listed held same)
  next => cases own

theorem pending_count (state : State Queue KeyboardButton) (books : Books state)
    (request : BotUsernames.Request KeyboardButton) (held : request ∈ state.usernames.requests) :
    state.timesHeld (.usernames request.query.id) = if request.Waiting then 1 else 0 := by
  have own := (books.usernames.tracks.books request held).pending
  have absent (table : Table Int (BotUsernames.PendingBotResolveQuery KeyboardButton))
    (gone : table.lookup request.queryId = none)
      (part : ∀ key pending, table.lookup key = some pending → state.usernames.client.pendingQueries.lookup key = some pending) :
      ((values table).map (fun pending => pending.query.id)).count request.query.id = 0 := by
    rw [Multiset.count_eq_zero]
    intro member
    obtain ⟨pending, listed, same⟩ := Multiset.mem_map.1 member
    obtain ⟨key, found⟩ := (mem_values _ _).1 listed
    rw [pending_key state books request held key pending (part key pending found) same, gone] at found
    cases found
  change ((values state.usernames.client.pendingQueries).map (fun pending => pending.query.id)).count request.query.id = _
  by_cases waits : request.Waiting
  · rw [if_pos waits] at own ⊢
    rw [← values_erase _ _ _ own, Multiset.map_cons, Multiset.count_cons_self, absent]
    · rw [lookup_erase, if_pos rfl]
    · intro key pending found
      rw [lookup_erase] at found
      split at found
      next => cases found
      next => exact found
  · rw [if_neg waits] at own ⊢
    exact absent _ own (fun key pending found => found)

theorem usernames_once (state : State Queue KeyboardButton) (books : Books state) (query : Nat)
    (admitted : state.Admitted (.usernames query)) :
    state.timesAnswered (.usernames query) + state.timesHeld (.usernames query) +
      state.timesContinued (.usernames query) = 1 := by
  obtain ⟨request, held, rfl⟩ := admitted
  obtain ⟨-, continued, failed⟩ := books.usernames.tracks.books request held
  have fails : (state.usernames.client.failed.map (fun entry => entry.1.id)).count request.query.id =
      request.firstNotFound.toList.length := by
    rw [count_filter_ids, failed, List.length_map]
  have continues : (state.usernames.client.continued.map (fun entry => entry.1.id)).count request.query.id =
      if request.AllFound then 1 else 0 := by
    rw [count_filter_ids]
    split at continued
    next all =>
      obtain ⟨_, _, _, entries⟩ := continued
      rw [entries, if_pos all]
      rfl
    next some => rw [continued, if_neg some, List.length_nil]
  rw [pending_count state books request held, State.timesContinued, continues, State.timesAnswered, fails, books.silent]
  cases missing : request.firstNotFound with
  | some username => simp [BotUsernames.Request.Waiting, BotUsernames.Request.AllFound, missing]
  | none =>
      by_cases all : request.unanswered = [] <;>
        simp [BotUsernames.Request.Waiting, BotUsernames.Request.AllFound, missing, all]

theorem download_once (state : State Queue KeyboardButton) (books : Books state) (query : Client.Query)
    (admitted : state.Admitted (.download query)) :
    state.timesAnswered (.download query) + state.timesHeld (.download query) = 1 :=
  (FileDownloads.listeners_sound state.downloads books.downloads).once query admitted

theorem story_once (state : State Queue KeyboardButton) (books : Books state) (query : Client.Query)
    (admitted : state.Admitted (.story query)) :
    state.timesAnswered (.story query) + state.timesHeld (.story query) = 1 := by
  have counted := congrArg (Multiset.count query) books.stories.account
  rw [Multiset.count_add, Multiset.count_add, Multiset.coe_count, Multiset.coe_count,
    List.count_eq_one_of_mem books.stories.distinct.of_map admitted, Nat.add_assoc] at counted
  exact counted

end Conservation

section Example

end Example

end TelegramBotApi.ClosedClient
