import TelegramBotApi.ClosedClient

set_option autoImplicit false

namespace TelegramBotApi.ClosedClient

open Checked Tables
open Client (ClosingError Draws Environment getClosingError)

section Books

variable {Queue KeyboardButton : Type} (env : Environment Queue)

structure Books (state : State Queue KeyboardButton) : Prop where
  distinct : (state.sent.map Client.Query.id).Nodup
  attended : state.client.intake.Attended
  messages : UnsentMessages.Accounted UnsentMessages.nothingOwed 0 state.messages
  waiting : UnsentMessages.Waiting state.messages
  usernames : BotUsernames.ResolvingInv state.usernames
  downloads : FileDownloads.Accounted state.downloads
  stories : PostedStories.Accounted state.stories
  silent : state.closingAnswers = []

theorem hear_books (client : Client.State Queue) (state : State Queue KeyboardButton) (books : Books state)
    (sent : List Client.Query) (distinct : (sent.map Client.Query.id).Nodup) (attended : client.intake.Attended) :
    Books { state.hear client with sent := sent } where
  distinct := distinct
  attended := attended
  messages := { books.messages with }
  waiting := books.waiting
  usernames := ⟨BotUsernames.tracks_congr state.usernames.client _ _ 0 [] books.usernames.tracks rfl rfl rfl rfl rfl,
    books.usernames.searched⟩
  downloads := { books.downloads with }
  stories := { books.stories with }
  silent := books.silent

theorem sent_queries_single (event : Client.Event × Draws) :
    Client.sentQueries [event] = ((Client.sentQuery event).toList : Multiset Client.Query) := by
  rw [Client.sentQueries, List.filterMap_cons]
  cases Client.sentQuery event <;> rfl

theorem sent_distinct (draws : Draws) (event : Client.Event) (state : State Queue KeyboardButton) (books : Books state)
    (offers : ClientOffers state event) :
    ((state.sent ++ (Client.sentQuery (event, draws)).toList).map Client.Query.id).Nodup := by
  cases event with
  | send query => exact query.ids_distinct state.sent offers books.distinct
  | _ =>
      change ((state.sent ++ []).map Client.Query.id).Nodup
      rw [List.append_nil]
      exact books.distinct

theorem client_step_settled (draws : Draws) (event : Client.Event) (state : State Queue KeyboardButton)
    (settled : Client.Settled env state.sent state.client) (offered : Client.enabled state.client event) :
    Meets (fun _ => True) (fun after => Client.Settled env after.sent after.client) (clientStep env draws event state) := by
  refine meets_bind _ _ _ _ _ (meets_map_error _ _ _ (Client.step_settled env _ draws state.client event settled offered)) ?_
  intro client kept
  change Client.Settled env (state.sent ++ (Client.sentQuery (event, draws)).toList : List Client.Query) client
  rw [sent_queries_single, Multiset.coe_add] at kept
  exact kept

theorem client_step_books (draws : Draws) (event : Client.Event) (state : State Queue KeyboardButton)
    (books : Books state) (offers : ClientOffers state event) (goesOn : event ≠ .authorizationClosed) :
    Meets (fun _ => True) (fun after => Books after) (clientStep env draws event state) := by
  refine meets_bind _ _ _ _ _ (meets_map_error _ _ _
    (Client.step_attended env draws state.client event goesOn)) ?_
  rintro client ⟨attended, _⟩
  exact hear_books client state books _ (sent_distinct draws event state books offers) (attended books.attended)

theorem messages_step_books (event : UnsentMessages.Event) (state : State Queue KeyboardButton) (books : Books state)
    (offered : UnsentMessages.enabled state.messages event) :
    Meets (fun _ => True) (fun messages => Books { state with messages })
      ((UnsentMessages.step state.messages event).mapError Check.messages) := by
  apply meets_map_error
  have accounted := UnsentMessages.step_accounted state.messages event books.messages books.waiting offered
  refine meets_allow (fun _ => False) _ _ _ (fun _ _ => trivial) (meets_weaken _ _ _ _ ?_ accounted)
  rintro messages ⟨messagesBooks, waiting⟩
  exact { books with messages := messagesBooks, waiting := waiting }

theorem usernames_step_books (event : BotUsernames.ResolvingEvent KeyboardButton) (state : State Queue KeyboardButton)
    (books : Books state) (offered : BotUsernames.resolvingEnabled state.usernames event) :
    Meets (fun _ => True) (fun usernames => Books { state with usernames })
      ((BotUsernames.resolvingStep state.usernames event).mapError Check.usernames) := by
  apply meets_map_error
  have kept := BotUsernames.resolving_step_inv state.usernames event books.usernames offered
  refine meets_allow BotUsernames.ContinuationFault _ _ _ (fun _ _ => trivial) (meets_weaken _ _ _ _ ?_ kept)
  intro usernames inv
  exact { books with usernames := inv }

theorem stories_step_books (error : ClosingError) (event : PostedStories.Event) (state : State Queue KeyboardButton)
    (books : Books state) (offered : PostedStories.enabled state.stories event) :
    Meets (fun _ => True) (fun stories => Books { state with stories })
      ((PostedStories.step state.stories error event).mapError Check.stories) := by
  apply meets_map_error
  refine meets_weaken _ _ _ _ ?_ (PostedStories.step_accounted state.stories error event offered books.stories)
  intro stories accounted
  exact { books with stories := accounted }

theorem part_step_books (draws : Draws) (state : State Queue KeyboardButton) (event : Event KeyboardButton)
    (books : Books state) (offered : enabled state event) (part : ∀ own, event ≠ .client own) :
    Meets (fun _ => True) (fun after => Books after ∧ after.client = state.client ∧ after.sent = state.sent)
      (step env draws state event) := by
  cases event with
  | client own => exact absurd rfl (part own)
  | messages event =>
      refine meets_bind _ _ _ _ _ (messages_step_books event state books offered.2.1) ?_
      exact fun messages kept => ⟨kept, rfl, rfl⟩
  | usernames event =>
      refine meets_bind _ _ _ _ _ (usernames_step_books event state books offered.2.1) ?_
      exact fun usernames kept => ⟨kept, rfl, rfl⟩
  | downloads event =>
      have accounted := FileDownloads.step_accounted env.parameters.localMode state.downloads (state.closingError draws)
        event offered.2.1 books.downloads
      exact ⟨{ books with downloads := accounted }, rfl, rfl⟩
  | stories event =>
      refine meets_bind _ _ _ _ _ (stories_step_books (state.closingError draws) event state books offered.2) ?_
      exact fun stories kept => ⟨kept, rfl, rfl⟩

theorem running_of_part (state : State Queue KeyboardButton) (event : Event KeyboardButton) (offered : enabled state event)
    (part : ∀ own, event ≠ .client own) : state.client.tdClient = true := by
  cases event with
  | client own => exact absurd rfl (part own)
  | messages event => exact offered.1.2
  | usernames event => exact offered.1.2
  | downloads event => exact offered.1.2
  | stories event => exact offered.1.2

theorem step_goes_on (draws : Draws) (state : State Queue KeyboardButton) (event : Client.Event)
    (goesOn : event ≠ .authorizationClosed) : step env draws state (.client event) = clientStep env draws event state := by
  cases event with
  | authorizationClosed => exact absurd rfl goesOn
  | _ => rfl

end Books

section Ending

variable {Queue KeyboardButton : Type} (env : Environment Queue)

def ended (error : ClosingError) (client : Client.State Queue) (state : State Queue KeyboardButton) :
    State Queue KeyboardButton :=
  { failUsernames error (failMessages error { state with client }) with
    downloads := FileDownloads.onClosed error state.downloads }

theorem on_closed_ends (draws : Draws) (state after : State Queue KeyboardButton)
    (done : onClosed env draws state = .ok after) : ∃ error client,
      Client.onClosed env draws state.client = .ok client ∧ after = ended error client state := by
  unfold onClosed at done
  cases closed : Client.onClosed env draws state.client with
  | error fault =>
      rw [closed] at done
      cases done
  | ok client =>
      rw [closed] at done
      cases found : getClosingError draws state.client with
      | error fault =>
          simp only [Except.mapError, ok_bind, found] at done
          cases done
      | ok error =>
          simp only [Except.mapError, ok_bind, found] at done
          cases done
          exact ⟨error, client, rfl, rfl⟩

theorem on_closed_offline (draws : Draws) (state after : State Queue KeyboardButton)
    (done : onClosed env draws state = .ok after) : after.client.tdClient = false := by
  obtain ⟨error, client, closed, rfl⟩ := on_closed_ends env draws state after done
  exact meets_returns _ _ _ client (Client.on_closed_offline env draws _) closed

theorem members_emptied (sent : Multiset Client.Query) (draws : Draws) (state client : Client.State Queue)
    (settled : Client.Settled env sent state) (offered : Client.enabled state .authorizationClosed)
    (closed : Client.onClosed env draws state = .ok client) :
    client.webhookSetQuery = none ∧ client.activeWebhookSetQuery = none := by
  obtain ⟨_, _, _, _, side⟩ := meets_returns Client.Tolerated _ _ client
    (Client.on_closed_meets env draws state settled.consistent offered.2.2) closed
  exact ⟨congrArg Client.Side.setQuery side, congrArg Client.Side.active side⟩

theorem offline_settled (sent : Multiset Client.Query) (client : Client.State Queue)
    (settled : Client.Settled env sent client) (offline : client.tdClient = false) :
    client.longPollQuery = none ∧ client.cmdQueue = [] ∧ client.activeWebhookSetQuery = none ∧
      ∃ phase, Client.Balanced sent [] phase client.desk := by
  obtain ⟨phase, notDraining, balanced⟩ := settled.balanced
  have last : phase = .ended := by
    have stopped := balanced.client
    rw [show client.desk.tdClient = false from offline] at stopped
    cases phase with
    | running => cases stopped
    | draining => exact absurd rfl notDraining
    | ended => rfl
  obtain ⟨unpolled, emptied⟩ := balanced.ended last
  exact ⟨unpolled, emptied, (settled.consistent.offline offline).2, phase, balanced⟩

theorem kept_command (sent : Multiset Client.Query) (phase : Client.Phase) (client : Client.State Queue)
    (balanced : Client.Balanced sent [] phase client.desk) (emptied : client.cmdQueue = []) (query : Client.Query)
    (kept : query ∈ client.cmdQueue ∨ client.longPollQuery = some query ∨ client.webhookSetQuery = some query ∨
      client.activeWebhookSetQuery = some query) : Client.Handled query ∧ query ∈ sent := by
  have handled : Client.Handled query := by
    rcases kept with queued | polled | set | active
    · rw [emptied] at queued
      cases queued
    · exact .inl (balanced.polls query polled)
    · exact .inr (balanced.sets query set)
    · exact .inr (balanced.activeSets query active)
  have held : query ∈ client.desk.total [] := by
    simp only [Client.Desk.total, Client.Desk.held, Client.State.desk, Multiset.mem_add, Multiset.mem_coe, Option.mem_toList]
    exact .inr (.inl kept)
  have listed : query ∈ sent.filter Client.Handled := by
    rw [← balanced.account]
    exact Multiset.mem_filter.2 ⟨held, handled⟩
  exact ⟨handled, (Multiset.mem_filter.1 listed).1⟩

theorem command_answered (sent : List Client.Query) (distinct : (sent.map Client.Query.id).Nodup) (phase : Client.Phase)
    (client : Client.State Queue) (balanced : Client.Balanced sent [] phase client.desk)
    (unpolled : client.longPollQuery = none) (emptied : client.cmdQueue = []) (noSet : client.webhookSetQuery = none)
    (noActive : client.activeWebhookSetQuery = none) (query : Client.Query) (handled : Client.Handled query)
    (asked : query ∈ sent) : (client.answers.map Prod.fst).count query = 1 := by
  have nothing : client.desk.total [] = client.desk.answered := by
    simp [Client.Desk.total, Client.Desk.held, Client.State.desk, unpolled, emptied, noSet, noActive]
  have counted := congrArg (Multiset.count query) balanced.account
  rw [nothing, Multiset.count_filter_of_pos handled, Multiset.count_filter_of_pos handled, Client.Desk.answered,
    Multiset.coe_count, Multiset.coe_count, List.count_eq_one_of_mem distinct.of_map asked] at counted
  exact counted

theorem message_drained (error : ClosingError) (state : State Queue KeyboardButton) (books : Books state)
    (query : UnsentMessages.QueryId) (client : Client.State Queue) (kept : state.Keeps (.message query)) :
    (ended error client state).timesAnswered (.message query) = 1 := by
  obtain ⟨queryId, pending, found, same⟩ := kept
  have member : query ∈ state.messages.pendingIds :=
    same ▸ UnsentMessages.mem_pending_ids state.messages queryId pending found
  have distinct := UnsentMessages.owners_distinct _ 0 state.messages books.messages
  simp only [Multiset.nodup_add] at distinct
  have unanswered : (state.messages.answers.map UnsentMessages.Answer.query).count query = 0 :=
    List.count_eq_zero.2 (UnsentMessages.pending_alone _ 0 state.messages books.messages query member).1
  have once : state.messages.pendingIds.count query = 1 := Multiset.count_eq_one_of_mem distinct.1.2.1 member
  change (state.messages.answers.map UnsentMessages.Answer.query).count query +
    (((state.closingAnswers ++ state.messages.pendingSendMessageQueries.entries.map
      (fun entry => (Request.message entry.2.query.id, closingAnswer error))) ++
      state.usernames.client.pendingQueries.entries.map
      (fun entry => (Request.usernames entry.2.query.id, closingAnswer error))).map Prod.fst).count (.message query) = 1
  rw [unanswered, books.silent, List.nil_append, List.map_append, List.count_append, List.map_map, List.map_map]
  have others : (state.usernames.client.pendingQueries.entries.map
      (Prod.fst ∘ fun entry => (Request.usernames entry.2.query.id, closingAnswer error))).count (.message query) = 0 := by
    refine List.count_eq_zero.2 (fun listed => ?_)
    obtain ⟨entry, _, impossible⟩ := List.mem_map.1 listed
    cases impossible
  have own : (state.messages.pendingSendMessageQueries.entries.map
      (Prod.fst ∘ fun entry => (Request.message entry.2.query.id, closingAnswer error))).count (.message query) =
      state.messages.pendingIds.count query := by
    have injective : Function.Injective Request.message := fun _ _ same => Request.message.inj same
    rw [UnsentMessages.State.pendingIds, values, Multiset.map_coe, Multiset.coe_count, List.map_map,
      ← List.count_map_of_injective _ Request.message injective, List.map_map]
    rfl
  rw [others, own, once]

theorem download_drained (error : ClosingError) (state : State Queue KeyboardButton) (books : Books state)
    (query : Client.Query) (client : Client.State Queue) (kept : state.Keeps (.download query)) :
    (ended error client state).timesAnswered (.download query) = 1 := by
  obtain ⟨fileId, queries, found, listed⟩ := kept
  have member : query ∈ state.downloads.listeners fileId := by
    rw [FileDownloads.listeners_of_lookup state.downloads fileId queries found]
    exact listed
  have asked := FileDownloads.listener_requested state.downloads fileId query books.downloads member
  have closed := FileDownloads.on_closed_accounted error state.downloads books.downloads
  have once := (FileDownloads.listeners_sound _ closed).once query asked
  have nobody : (FileDownloads.onClosed error state.downloads).waiting.count query = 0 := Multiset.count_zero query
  rw [nobody, Nat.add_zero] at once
  exact once

theorem quiet_drains (draws : Draws) (state after : State Queue KeyboardButton) (quiet : state.Quiet)
    (settled : Client.Settled env state.sent state.client) (books : Books state)
    (offered : enabled state (.client .authorizationClosed)) (done : onClosed env draws state = .ok after) :
    Client.Settled env after.sent after.client ∧ Drained state after := by
  obtain ⟨error, client, stepped, rfl⟩ := on_closed_ends env draws state after done
  obtain ⟨noSet, noActive⟩ := members_emptied env _ draws state.client client settled offered.1 stepped
  have closedSettled := meets_returns _ _ _ client
    (Client.step_settled env _ draws state.client .authorizationClosed settled offered.1) stepped
  rw [sent_queries_single, show Client.sentQuery (Client.Event.authorizationClosed, draws) = none from rfl,
    Option.toList_none, Multiset.coe_nil, add_zero] at closedSettled
  have offline : client.tdClient = false := meets_returns _ _ _ client (Client.on_closed_offline env draws _) stepped
  obtain ⟨unpolled, emptied, _, phase, balanced⟩ := offline_settled env _ client closedSettled offline
  refine ⟨closedSettled, ⟨noSet, noActive, unpolled, emptied, rfl, rfl, rfl, quiet⟩, ?_⟩
  intro request kept
  cases request with
  | command query =>
      obtain ⟨before, _, running⟩ := settled.balanced
      have queue : state.client.cmdQueue = [] := books.attended offered.1.2.2
      obtain ⟨handled, asked⟩ := kept_command _ before state.client running queue query kept
      exact command_answered state.sent books.distinct phase client balanced unpolled emptied noSet noActive query handled
        asked
  | message query => exact message_drained error state books query client kept
  | usernames query =>
      obtain ⟨queryId, pending, found, _⟩ := kept
      have none := BotUsernames.idle_none_pending state.usernames books.usernames offered.2.2.2.1
      rw [none] at found
      cases found
  | download query => exact download_drained error state books query client kept
  | story query =>
      obtain ⟨fullId, found⟩ := kept
      rw [show state.stories.yetUnsentStories = ∅ from quiet] at found
      cases found

theorem drained_quiet (draws : Draws) (state after : State Queue KeyboardButton) (drained : Drained state after)
    (done : onClosed env draws state = .ok after) : state.Quiet := by
  obtain ⟨error, client, _, rfl⟩ := on_closed_ends env draws state after done
  exact drained.emptied.yetUnsentStories

structure Kept (state : State Queue KeyboardButton) : Prop where
  settled : Client.Settled env state.sent state.client
  books : Books state

theorem client_step_kept (draws : Draws) (event : Client.Event) (state : State Queue KeyboardButton)
    (kept : Kept env state) (offered : enabled state (.client event)) (goesOn : event ≠ .authorizationClosed) :
    Meets (fun _ => True) (Kept env) (clientStep env draws event state) := by
  refine meets_weaken _ _ _ _ ?_ (meets_and _ _ _ _ (client_step_settled env draws event state kept.settled offered.1)
    (client_step_books env draws event state kept.books offered.2 goesOn))
  rintro after ⟨settled, books⟩
  exact ⟨settled, books⟩

theorem part_step_kept (draws : Draws) (state : State Queue KeyboardButton) (event : Event KeyboardButton)
    (kept : Kept env state) (offered : enabled state event) (part : ∀ own, event ≠ .client own) :
    Meets (fun _ => True) (fun after => Kept env after ∧ after.client = state.client) (step env draws state event) := by
  refine meets_weaken _ _ _ _ ?_ (part_step_books env draws state event kept.books offered part)
  rintro after ⟨books, client, sent⟩
  refine ⟨⟨?_, books⟩, client⟩
  rw [client, sent]
  exact kept.settled

theorem client_step_running (draws : Draws) (event : Client.Event) (state : State Queue KeyboardButton)
    (goesOn : event ≠ .authorizationClosed) :
    Meets (fun _ => True) (fun after => after.client.tdClient = state.client.tdClient) (clientStep env draws event state) := by
  refine meets_bind _ _ _ _ _ (meets_map_error _ _ _ (Client.step_attended env draws state.client event goesOn)) ?_
  exact fun client both => both.2

theorem step_kept (draws : Draws) (state : State Queue KeyboardButton) (event : Event KeyboardButton)
    (kept : state.client.tdClient = true → Kept env state) (offered : enabled state event) :
    Meets (fun _ => True) (fun after => after.client.tdClient = true → Kept env after) (step env draws state event) := by
  by_cases part : ∀ own, event ≠ .client own
  · have running := running_of_part state event offered part
    refine meets_weaken _ _ _ _ ?_ (part_step_kept env draws state event (kept running) offered part)
    exact fun after both _ => both.1
  · simp only [not_forall, not_not] at part
    obtain ⟨own, rfl⟩ := part
    by_cases closes : own = .authorizationClosed
    · subst closes
      refine meets_of_returns _ _ (fun after done running => ?_)
      cases running.symm.trans (on_closed_offline env draws state after done)
    · rw [step_goes_on env draws state own closes]
      by_cases running : state.client.tdClient = true
      · refine meets_weaken _ _ _ _ ?_ (client_step_kept env draws own state (kept running) offered closes)
        exact fun after keeps _ => keeps
      · refine meets_weaken _ _ _ _ ?_ (client_step_running env draws own state closes)
        exact fun after same again => absurd (same.symm.trans again) running

theorem start_books (client : Client.State Queue) (myId : Int) (started : (Client.client env).start client) :
    Kept env ({ client, usernames := { client := { ids := { defaultBotUserId := myId } } } } : State Queue KeyboardButton) where
  settled := Client.start_settled env client started
  books := {
    distinct := List.nodup_nil
    attended := Client.start_attended env client started
    messages := UnsentMessages.start_accounted.1
    waiting := UnsentMessages.start_accounted.2
    usernames := BotUsernames.resolving_start_inv _ ⟨myId, rfl⟩
    downloads := FileDownloads.idle_accounted.1
    stories := ⟨rfl, List.nodup_nil⟩
    silent := rfl }

theorem reach_kept (meets : Transition.Condition (State Queue KeyboardButton) (Event KeyboardButton × Draws))
    (state : State Queue KeyboardButton) (reached : Transition.Reach (machine env) meets state)
    (running : state.client.tdClient = true) : Kept env state := by
  refine Transition.reach_meets (machine env) meets (fun _ => True)
    (fun state => state.client.tdClient = true → Kept env state) ?_ ?_ state reached running
  · rintro state ⟨client, myId, started, rfl⟩ _
    exact start_books env client myId started
  · intro before event held offered _
    exact step_kept env event.2 before event.1 held offered

structure PartsEmptied (state : State Queue KeyboardButton) : Prop where
  webhookSetQuery : state.client.webhookSetQuery = none
  pendingSendMessageQueries : state.messages.pendingSendMessageQueries = ∅
  pendingBotResolveQueries : state.usernames.client.pendingQueries = ∅
  fileDownloadListeners : state.downloads.fileDownloadListeners = ∅
  yetUnsentStories : state.stories.yetUnsentStories = ∅

structure QuietlyKept (state : State Queue KeyboardButton) : Prop where
  settled : Client.Settled env state.sent state.client
  running : state.client.tdClient = true → Books state
  offline : state.client.tdClient = false → PartsEmptied state

theorem offline_step_emptied (draws : Draws) (event : Client.Event) (state : State Queue KeyboardButton)
    (settled : Client.Settled env state.sent state.client) (emptied : PartsEmptied state)
    (offline : state.client.tdClient = false) (offered : Client.enabled state.client event) :
    Meets (fun _ => True) (fun after => after.client.tdClient = false → PartsEmptied after)
      (clientStep env draws event state) := by
  refine meets_bind _ _ _ _ _ (meets_map_error _ _ _ (Client.offline_step_disconnected env draws state.client event
    settled.consistent offered (fun _ => emptied.webhookSetQuery) offline)) ?_
  intro client disconnected stopped
  exact ⟨disconnected stopped, emptied.pendingSendMessageQueries, emptied.pendingBotResolveQueries,
    emptied.fileDownloadListeners, emptied.yetUnsentStories⟩

theorem step_quietly_kept (draws : Draws) (state : State Queue KeyboardButton) (event : Event KeyboardButton)
    (kept : QuietlyKept env state) (offered : enabled state event) (quiet : QuietEnd state (event, draws)) :
    Meets (fun _ => True) (QuietlyKept env) (step env draws state event) := by
  by_cases part : ∀ own, event ≠ .client own
  · have running := running_of_part state event offered part
    refine meets_weaken _ _ _ _ ?_ (part_step_kept env draws state event ⟨kept.settled, kept.running running⟩ offered part)
    rintro after ⟨keeps, same⟩
    refine ⟨keeps.settled, fun _ => keeps.books, fun stopped => ?_⟩
    rw [same] at stopped
    cases running.symm.trans stopped
  · simp only [not_forall, not_not] at part
    obtain ⟨own, rfl⟩ := part
    by_cases closes : own = .authorizationClosed
    · subst closes
      refine meets_of_returns _ _ (fun after done => ?_)
      have books := kept.running offered.1.2.1
      obtain ⟨settled, drained⟩ := quiet_drains env draws state after (quiet rfl) kept.settled books offered done
      have emptied := drained.emptied
      refine ⟨settled, fun running => ?_, fun _ => ⟨emptied.webhookSetQuery, emptied.pendingSendMessageQueries,
        emptied.pendingBotResolveQueries, emptied.fileDownloadListeners, emptied.yetUnsentStories⟩⟩
      cases running.symm.trans (on_closed_offline env draws state after done)
    · rw [step_goes_on env draws state own closes]
      by_cases running : state.client.tdClient = true
      · refine meets_weaken _ _ _ _ ?_ (meets_and _ _ _ _ (client_step_running env draws own state closes)
          (client_step_kept env draws own state ⟨kept.settled, kept.running running⟩ offered closes))
        rintro after ⟨same, keeps⟩
        refine ⟨keeps.settled, fun _ => keeps.books, fun stopped => ?_⟩
        cases (same.trans running).symm.trans stopped
      · have offline := Bool.eq_false_of_not_eq_true running
        refine meets_weaken _ _ _ _ ?_ (meets_and _ _ _ _ (client_step_running env draws own state closes)
          (meets_and _ _ _ _ (client_step_settled env draws own state kept.settled offered.1)
            (offline_step_emptied env draws own state kept.settled (kept.offline offline) offline offered.1)))
        rintro after ⟨same, settled, emptied⟩
        exact ⟨settled, fun again => absurd (same.symm.trans again) running, emptied⟩

theorem reach_quietly_kept (state : State Queue KeyboardButton)
    (reached : Transition.Reach (machine env) QuietEnd state) : QuietlyKept env state := by
  refine Transition.reach_meets (machine env) QuietEnd (fun _ => True) (QuietlyKept env) ?_ ?_ state reached
  · rintro state ⟨client, myId, started, rfl⟩
    have kept : Kept env (_ : State Queue KeyboardButton) := start_books env client myId started
    refine ⟨kept.settled, fun _ => kept.books, fun _ => ⟨?_, rfl, rfl, rfl, rfl⟩⟩
    exact Client.start_unset env client started
  · intro before event held offered quiet
    exact step_quietly_kept env event.2 before event.1 held offered quiet

theorem closed_client_drained :
    (∀ (before after : State Queue KeyboardButton) (draws : Draws),
      Transition.StepOf (machine env) Transition.unrestricted before (.client .authorizationClosed, draws) after →
        (Drained before after ↔ before.Quiet)) ∧
    ∀ state : State Queue KeyboardButton, Transition.Reach (machine env) QuietEnd state →
      state.client.tdClient = false → state.Emptied := by
  constructor
  · rintro before after draws ⟨reached, offered, _, done⟩
    constructor
    · intro drained
      exact drained_quiet env draws before after drained done
    · intro quiet
      have kept := reach_kept env _ before reached offered.1.2.1
      exact (quiet_drains env draws before after quiet kept.settled kept.books offered done).2
  · intro state reached offline
    have kept := reach_quietly_kept env state reached
    have emptied := kept.offline offline
    obtain ⟨unpolled, queue, noActive, _⟩ := offline_settled env _ state.client kept.settled offline
    exact ⟨emptied.webhookSetQuery, noActive, unpolled, queue, emptied.pendingSendMessageQueries,
      emptied.pendingBotResolveQueries, emptied.fileDownloadListeners, emptied.yetUnsentStories⟩

end Ending

section Runs

open Client (waitingServer waitingQuery startedClient)

def startedServer : State ListQueue Unit where
  client := startedClient
  usernames := { client := { ids := { defaultBotUserId := 0 } } }

def runEvents (state : State ListQueue Unit) (events : List (Event Unit × Draws)) : State ListQueue Unit :=
  match events.foldlM (fun state event => step waitingServer event.2 state event.1) state with
  | .ok state => state
  | .error _ => state

theorem started_server : (machine waitingServer).start startedServer :=
  ⟨startedClient, 0, ⟨{}, ListQueue.empty 1, none, .inl rfl⟩, rfl⟩

def storyQuery : Client.Query where
  id := 1
  method := "poststory"

def postingServer : State ListQueue Unit := runEvents startedServer
  [(.client .authorizationReady, {}), (.stories (.post storyQuery 0), {}), (.stories (.result 0 (.ok (5, 7))), {}),
    (.client .authorizationLoggingOut, {})]

def endedServer : State ListQueue Unit := runEvents postingServer [(.client .authorizationClosed, {})]

theorem posting_server_ends : Transition.StepOf (machine waitingServer) Transition.unrestricted postingServer
    (.client .authorizationClosed, {}) endedServer := by
  refine ⟨?_, ⟨⟨rfl, rfl, rfl⟩, rfl, rfl, rfl, rfl, rfl⟩, trivial, rfl⟩
  apply Transition.reach_follows (machine waitingServer) _
    [(.client .authorizationReady, {}), (.stories (.post storyQuery 0), {}), (.stories (.result 0 (.ok (5, 7))), {}),
      (.client .authorizationLoggingOut, {})] startedServer _ (.start _ started_server)
  refine ⟨⟨⟨rfl, rfl, rfl, rfl, Int.le_refl 0⟩, trivial⟩, trivial, _, rfl, ⟨⟨rfl, rfl⟩, ?_, ?_⟩, trivial, _, rfl,
    ⟨⟨rfl, rfl⟩, trivial⟩, trivial,
    _, rfl, ⟨⟨rfl, rfl⟩, trivial⟩, trivial, _, rfl, rfl⟩
  · intro other member
    cases member
  · exact fun member => by cases member

theorem posted_story_outlives_client : ∃ before after : State ListQueue Unit, ∃ draws,
    Transition.StepOf (machine waitingServer) Transition.unrestricted before (.client .authorizationClosed, draws) after ∧
    before.Keeps (.story storyQuery) ∧ after.Keeps (.story storyQuery) ∧ after.timesAnswered (.story storyQuery) = 0 ∧
    ¬ Drained before after := by
  refine ⟨postingServer, endedServer, {}, posting_server_ends, ⟨(5, 7), rfl⟩, ⟨(5, 7), rfl⟩, rfl, fun drained => ?_⟩
  have absent := drained.answered (.story storyQuery) ⟨(5, 7), rfl⟩
  cases absent

def video : FileDownloads.File where
  id := 7

def fileQuery : Client.Query where
  id := 2
  method := "getfile"

def busyEvents : List (Event Unit × Draws) :=
  [(.client .authorizationReady, {}), (.client (.send (waitingQuery 1)), {}), (.downloads (.getFile video fileQuery), {}),
    (.downloads (.downloadFileResult 0 (.ok { video with isDownloadingActive := true })), {}),
    (.client .authorizationClosing, {})]

def busyServer : State ListQueue Unit := runEvents startedServer busyEvents

def drainedServer : State ListQueue Unit := runEvents busyServer [(.client .authorizationClosed, {})]

theorem busy_server_ends : Transition.StepOf (machine waitingServer) Transition.unrestricted busyServer
    (.client .authorizationClosed, {}) drainedServer := by
  refine ⟨?_, ⟨⟨rfl, rfl, rfl⟩, rfl, rfl, rfl, rfl, rfl⟩, trivial, rfl⟩
  apply Transition.reach_follows (machine waitingServer) _ busyEvents startedServer _ (.start _ started_server)
  refine ⟨⟨⟨rfl, rfl, rfl, rfl, Int.le_refl 0⟩, trivial⟩, trivial, _, rfl, ⟨⟨rfl, trivial⟩, ?_⟩, trivial, _, rfl,
    ⟨⟨rfl, rfl⟩, ⟨rfl, ?_⟩, rfl⟩,
    trivial, _, rfl, ⟨⟨rfl, rfl⟩, ⟨rfl, ⟨7, fileQuery⟩, rfl, ?_⟩, rfl⟩, trivial, _, rfl, ⟨⟨rfl, rfl⟩, trivial⟩, trivial, _,
    rfl, rfl⟩
  · intro other member
    cases member
  · intro other member
    cases member
  · intro file same
    cases same
    rfl

theorem busy_client_drained : busyServer.Keeps (.command (waitingQuery 1)) ∧ busyServer.Keeps (.download fileQuery) ∧
    Drained busyServer drainedServer := by
  refine ⟨.inr (.inl rfl), ⟨7, [fileQuery], rfl, List.mem_singleton_self _⟩, ?_⟩
  exact ((closed_client_drained waitingServer).1 busyServer drainedServer {} busy_server_ends).2 rfl

end Runs

end TelegramBotApi.ClosedClient
