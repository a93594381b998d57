import TelegramBotApi.BotUsernames
import TelegramBotApi.ReplyMarkupUsernames

set_option autoImplicit false

namespace TelegramBotApi.BotUsernames

open Checked

section Isolation

variable {KeyboardButton : Type}

def Continuation.usernames : Continuation KeyboardButton → List Username
  | .replyMarkup markup => markupUsernames markup
  | .results answers => resultsUsernames answers

def Exact (entry : Entry KeyboardButton) : Prop :=
  ∀ username, username ∈ entry.ids.unresolvedBotUsernames ↔
    username ∈ markupUsernames entry.replyMarkup ∧ entry.ids.Unresolved username

def OwnWaits (state : State KeyboardButton) : Prop :=
  ∀ username queryIds queryId pending, state.awaitingQueries.lookup username = some queryIds → queryId ∈ queryIds →
    state.pendingQueries.lookup queryId = some pending → username ∈ pending.onSuccess.usernames

def IssuedWaits (state : State KeyboardButton) : Prop :=
  ∀ username queryIds queryId, state.awaitingQueries.lookup username = some queryIds → queryId ∈ queryIds →
    queryId < state.currentQueryId

structure Isolated (state : State KeyboardButton) : Prop where
  exact : ∀ entry, entry ∈ state.entered → Exact entry
  own : OwnWaits state

structure Inv (state : State KeyboardButton) : Prop extends Isolated state where
  issued : IssuedWaits state

def Tolerated (fault : Check) : Prop := fault ≠ .replyMarkupNotNull ∧ fault ≠ .replyMarkupInlineKeyboard

instance (fault : Check) : Decidable (Tolerated fault) :=
  inferInstanceAs (Decidable (fault ≠ .replyMarkupNotNull ∧ fault ≠ .replyMarkupInlineKeyboard))

-- Resolving a name only takes away: the continuations of pending queries and
-- the lists of waiting queries that remain are old ones.
structure Shrinks (before after : State KeyboardButton) : Prop where
  entered : after.entered = before.entered
  current : after.currentQueryId = before.currentQueryId
  awaiting : ∀ username queryIds, after.awaitingQueries.lookup username = some queryIds →
    before.awaitingQueries.lookup username = some queryIds
  pending : ∀ queryId pending, after.pendingQueries.lookup queryId = some pending →
    ∃ earlier, before.pendingQueries.lookup queryId = some earlier ∧ earlier.onSuccess = pending.onSuccess

theorem shrinks_refl (state : State KeyboardButton) : Shrinks state state :=
  ⟨rfl, rfl, fun _ _ found => found, fun _ pending found => ⟨pending, found, rfl⟩⟩

theorem shrinks_trans (first middle last : State KeyboardButton) (begins : Shrinks first middle)
    (continues : Shrinks middle last) : Shrinks first last := by
  refine ⟨continues.entered.trans begins.entered, continues.current.trans begins.current, ?_, ?_⟩
  · intro username queryIds found
    exact begins.awaiting username queryIds (continues.awaiting username queryIds found)
  · intro queryId pending found
    obtain ⟨middle, foundMiddle, sameMiddle⟩ := continues.pending queryId pending found
    obtain ⟨earlier, foundEarlier, sameEarlier⟩ := begins.pending queryId middle foundMiddle
    exact ⟨earlier, foundEarlier, sameEarlier.trans sameMiddle⟩

theorem shrinks_inv (before after : State KeyboardButton) (inv : Inv before) (shrinks : Shrinks before after) :
    Inv after := by
  refine ⟨⟨?_, ?_⟩, ?_⟩
  · rw [shrinks.entered]
    exact inv.exact
  · intro username queryIds queryId pending waiting listed found
    obtain ⟨earlier, foundEarlier, same⟩ := shrinks.pending queryId pending found
    rw [← same]
    exact inv.own username queryIds queryId earlier (shrinks.awaiting username queryIds waiting) listed foundEarlier
  · intro username queryIds queryId waiting listed
    rw [shrinks.current]
    exact inv.issued username queryIds queryId (shrinks.awaiting username queryIds waiting) listed

theorem fix_button_id_meets (tempToReal : AList (fun _ : UserId => UserId)) (id : UserId) :
    Meets Tolerated (fun _ => True) (fixButtonId tempToReal id) := by
  unfold fixButtonId
  split
  · exact trivial
  · split
    · exact (by decide : Tolerated .temporaryIdFound)
    · exact meets_require _ _ _ _ _ (fun _ => by decide) (fun _ => trivial)

theorem fix_button_meets (tempToReal : AList (fun _ : UserId => UserId)) (button : InlineKeyboardButton Username) :
    Meets Tolerated (fun _ => True) (fixButton tempToReal button) := by
  unfold fixButton
  split
  · exact meets_bind _ _ _ _ _ (fix_button_id_meets tempToReal _) (fun _ _ => trivial)
  · exact trivial

theorem fix_reply_markup_meets (tempToReal : AList (fun _ : UserId => UserId))
    (markup : Option (ReplyMarkup KeyboardButton)) :
    Meets Tolerated (fun _ => True) (fixReplyMarkupBotUserIds tempToReal markup) := by
  unfold fixReplyMarkupBotUserIds
  split
  · refine meets_bind _ (fun _ => True) _ _ _ ?_ (fun _ _ => trivial)
    exact meets_mapM _ _ _ fun row _ => meets_mapM _ _ row fun button _ => fix_button_meets tempToReal button
  · exact trivial

theorem fix_continuation_meets (tempToReal : AList (fun _ : UserId => UserId))
    (continuation : Continuation KeyboardButton) :
    Meets Tolerated (fun _ => True) (fixContinuation tempToReal continuation) := by
  cases continuation with
  | replyMarkup markup => exact meets_bind _ _ _ _ _ (fix_reply_markup_meets tempToReal markup) (fun _ _ => trivial)
  | results results =>
      refine meets_bind _ (fun _ => True) _ _ _ ?_ (fun _ _ => trivial)
      refine meets_mapM _ _ _ fun result _ => ?_
      exact meets_bind _ _ _ _ _ (fix_reply_markup_meets tempToReal result.replyMarkup) (fun _ _ => trivial)

theorem erased_shrinks (state : State KeyboardButton) (queryId : Int) :
    Shrinks state { state with pendingQueries := state.pendingQueries.erase queryId } := by
  refine ⟨rfl, rfl, fun _ _ found => found, fun other pending found => ?_⟩
  by_cases same : other = queryId
  · subst same
    rw [AList.lookup_erase] at found
    cases found
  · rw [AList.lookup_erase_ne same] at found
    exact ⟨pending, found, rfl⟩

theorem counted_shrinks (state : State KeyboardButton) (queryId : Int) (pending : PendingBotResolveQuery KeyboardButton)
    (left : Nat) (found : state.pendingQueries.lookup queryId = some pending) :
    Shrinks state { state with
      pendingQueries := state.pendingQueries.insert queryId { pending with pendingResolveCount := left } } := by
  refine ⟨rfl, rfl, fun _ _ found => found, fun other later foundLater => ?_⟩
  by_cases same : other = queryId
  · subst same
    rw [AList.lookup_insert] at foundLater
    cases foundLater
    exact ⟨pending, found, rfl⟩
  · rw [AList.lookup_insert_ne same] at foundLater
    exact ⟨later, foundLater, rfl⟩

theorem resolve_awaiting_shrinks (username : Username) (userId : UserId) (state : State KeyboardButton) (queryId : Int) :
    Meets Tolerated (Shrinks state) (resolveAwaiting username userId state queryId) := by
  cases found : state.pendingQueries.lookup queryId with
  | none =>
      simp only [resolveAwaiting, found]
      exact shrinks_refl state
  | some pending =>
      have erased := erased_shrinks state queryId
      simp only [resolveAwaiting, found]
      refine meets_require _ _ _ _ _ (fun _ => by decide) fun _ => ?_
      split
      · exact ⟨erased.entered, erased.current, erased.awaiting, erased.pending⟩
      · split
        · refine meets_bind _ _ _ _ _ (fix_continuation_meets state.tempToReal pending.onSuccess) fun _ _ => ?_
          exact ⟨erased.entered, erased.current, erased.awaiting, erased.pending⟩
        · exact counted_shrinks state queryId pending _ found

theorem on_resolve_bot_username_shrinks (username : Username) (userId : UserId) (state : State KeyboardButton) :
    Meets Tolerated (Shrinks state) (onResolveBotUsername username userId state) := by
  cases found : state.awaitingQueries.lookup username with
  | none =>
      simp only [onResolveBotUsername, found]
      exact (by decide : Tolerated .awaitingQueriesFound)
  | some queryIds =>
      simp only [onResolveBotUsername, found]
      refine meets_require _ _ _ _ _ (fun _ => by decide) fun _ => ?_
      refine meets_foldlM _ (Shrinks state) _ _ _ ?_ ?_
      · have taken (other : Username) (queryIds : List Int)
            (waiting : (state.awaitingQueries.erase username).lookup other = some queryIds) :
            state.awaitingQueries.lookup other = some queryIds := by
          by_cases same : other = username
          · subst same
            rw [AList.lookup_erase] at waiting
            cases waiting
          · rwa [AList.lookup_erase_ne same] at waiting
        unfold storeResolved
        split
        · exact ⟨rfl, rfl, taken, fun _ pending found => ⟨pending, found, rfl⟩⟩
        · exact ⟨rfl, rfl, taken, fun _ pending found => ⟨pending, found, rfl⟩⟩
      · intro middle queryId _ shrunk
        exact meets_weaken _ _ _ _ (fun last => shrinks_trans state middle last shrunk)
          (resolve_awaiting_shrinks username userId middle queryId)

structure Registering (queryId : Int) (usernames : List Username) (state : State KeyboardButton) : Prop
    extends Inv state where
  current : queryId < state.currentQueryId
  named : ∀ pending, state.pendingQueries.lookup queryId = some pending →
    ∀ username, username ∈ usernames → username ∈ pending.onSuccess.usernames

theorem shrinks_registering (queryId : Int) (usernames : List Username) (before after : State KeyboardButton)
    (registering : Registering queryId usernames before) (shrinks : Shrinks before after) :
    Registering queryId usernames after := by
  refine ⟨shrinks_inv before after registering.toInv shrinks, ?_, ?_⟩
  · rw [shrinks.current]
    exact registering.current
  · intro pending found username member
    obtain ⟨earlier, foundEarlier, same⟩ := shrinks.pending queryId pending found
    rw [← same]
    exact registering.named earlier foundEarlier username member

theorem waiting_registering (queryId : Int) (usernames : List Username) (state : State KeyboardButton)
    (username : Username) (member : username ∈ usernames) (registering : Registering queryId usernames state) :
    Registering queryId usernames { state with
      awaitingQueries :=
        state.awaitingQueries.insert username ((state.awaitingQueries.lookup username).getD [] ++ [queryId]) } := by
  have listed (other : Username) (queryIds : List Int) (waiting : Int) (held : waiting ∈ queryIds)
      (found : (state.awaitingQueries.insert username
        ((state.awaitingQueries.lookup username).getD [] ++ [queryId])).lookup other = some queryIds) :
      other = username ∧ waiting = queryId ∨
        ∃ earlier, state.awaitingQueries.lookup other = some earlier ∧ waiting ∈ earlier := by
    by_cases same : other = username
    · subst same
      rw [AList.lookup_insert, Option.some.injEq] at found
      subst found
      rw [List.mem_append, List.mem_singleton] at held
      cases earlier : state.awaitingQueries.lookup other with
      | none => simpa [earlier] using held
      | some queryIds =>
          simp only [earlier, Option.getD_some] at held
          exact held.elim (fun old => .inr ⟨queryIds, rfl, old⟩) (fun new => .inl ⟨rfl, new⟩)
    · rw [AList.lookup_insert_ne same] at found
      exact .inr ⟨queryIds, found, held⟩
  refine ⟨⟨⟨registering.exact, ?_⟩, ?_⟩, registering.current, registering.named⟩
  · intro other queryIds waiting pending found held foundPending
    rcases listed other queryIds waiting held found with ⟨rfl, rfl⟩ | ⟨earlier, foundEarlier, old⟩
    · exact registering.named pending foundPending other member
    · exact registering.own other earlier waiting pending foundEarlier old foundPending
  · intro other queryIds waiting found held
    rcases listed other queryIds waiting held found with ⟨rfl, rfl⟩ | ⟨earlier, foundEarlier, old⟩
    · exact registering.current
    · exact registering.issued other earlier waiting foundEarlier old

theorem await_username_meets (queryId : Int) (usernames : List Username) (state : State KeyboardButton)
    (username : Username) (member : username ∈ usernames) (registering : Registering queryId usernames state) :
    Meets Tolerated (Registering queryId usernames) (awaitUsername queryId state username) := by
  have waiting := waiting_registering queryId usernames state username member registering
  unfold awaitUsername
  dsimp only
  split
  · unfold searchPublicChat
    split
    · exact meets_weaken _ _ _ _ (fun after => shrinks_registering queryId usernames _ after waiting)
        (on_resolve_bot_username_shrinks username 0 _)
    · exact ⟨⟨⟨waiting.exact, waiting.own⟩, waiting.issued⟩, waiting.current, waiting.named⟩
  · exact waiting

theorem registered (query : Query) (onSuccess : Continuation KeyboardButton) (state : State KeyboardButton) (count : Nat)
    (named : ∀ username, username ∈ state.ids.unresolvedBotUsernames → username ∈ onSuccess.usernames)
    (inv : Inv state) :
    Registering state.currentQueryId state.ids.unresolvedBotUsernames { state with
      currentQueryId := state.currentQueryId + 1
      pendingQueries := state.pendingQueries.insert state.currentQueryId ⟨count, query, onSuccess⟩ } := by
  refine ⟨⟨⟨inv.exact, ?_⟩, ?_⟩, Int.lt_succ _, ?_⟩
  · intro username queryIds queryId pending waiting listed found
    have issued := inv.issued username queryIds queryId waiting listed
    have different : queryId ≠ state.currentQueryId := by omega
    rw [AList.lookup_insert_ne different] at found
    exact inv.own username queryIds queryId pending waiting listed found
  · intro username queryIds queryId waiting listed
    have issued := inv.issued username queryIds queryId waiting listed
    exact Int.lt_trans issued (Int.lt_succ _)
  · intro pending found
    rw [AList.lookup_insert, Option.some.injEq] at found
    subst found
    exact named

theorem resolve_bot_usernames_meets (query : Query) (onSuccess : Continuation KeyboardButton)
    (state : State KeyboardButton)
    (named : ∀ username, username ∈ state.ids.unresolvedBotUsernames → username ∈ onSuccess.usernames)
    (inv : Inv state) : Meets Tolerated Inv (resolveBotUsernames query onSuccess state) := by
  unfold resolveBotUsernames
  refine meets_require _ _ _ _ _ (fun _ => by decide) fun _ => ?_
  refine meets_bind _ (Registering state.currentQueryId state.ids.unresolvedBotUsernames) _ _ _ ?_ ?_
  · refine meets_foldlM _ _ _ _ _ (registered query onSuccess state _ named inv) ?_
    intro middle username member registering
    exact await_username_meets _ _ middle username member registering
  · intro waited registering
    exact ⟨⟨registering.exact, registering.own⟩, registering.issued⟩

theorem resolve_reply_markup_bot_usernames_meets (query : Query) (markup : Option (ReplyMarkup KeyboardButton))
    (state : State KeyboardButton) (exact_ : Exact ⟨query, markup, state.ids⟩) (inv : Inv state) :
    Meets Tolerated Inv (resolveReplyMarkupBotUsernames query markup state) := by
  have logged : Inv { state with entered := state.entered ++ [⟨query, markup, state.ids⟩] } := by
    refine ⟨⟨?_, inv.own⟩, inv.issued⟩
    intro entry member
    rcases List.mem_append.1 member with old | new
    · exact inv.exact entry old
    · rw [List.mem_singleton.1 new]
      exact exact_
  unfold resolveReplyMarkupBotUsernames
  dsimp only
  split
  · exact ⟨⟨logged.exact, logged.own⟩, logged.issued⟩
  · rename_i waiting
    obtain ⟨username, member⟩ := List.exists_mem_of_ne_nil _ waiting
    have inline := is_inline_keyboard_of_username markup username ((exact_ username).1 member).1
    have present : markup.isSome = true := by
      cases markup with
      | none => cases inline
      | some markup => rfl
    refine meets_require _ _ _ _ _ (fun absent => absurd present absent) fun _ => ?_
    refine meets_require _ _ _ _ _ (fun other => absurd inline other) fun _ => ?_
    exact resolve_bot_usernames_meets query _ _ (fun username member => ((exact_ username).1 member).1) logged

theorem resolve_inline_query_results_meets (query : Query) (results : List (InputInlineQueryResult KeyboardButton))
    (state : State KeyboardButton)
    (named : ∀ username, username ∈ state.ids.unresolvedBotUsernames → username ∈ resultsUsernames results)
    (inv : Inv state) : Meets Tolerated Inv (resolveInlineQueryResultsBotUsernames query results state) := by
  unfold resolveInlineQueryResultsBotUsernames
  split
  · exact ⟨⟨inv.exact, inv.own⟩, inv.issued⟩
  · exact resolve_bot_usernames_meets query _ state named inv

variable (readers : Readers KeyboardButton)

-- What was left in the set does no harm to a request: there is nothing left, or
-- its markup argument replaces the set, or its own keyboard names it all.
structure LeftoverHarmless (query : Query) (ids : BotUserIds) : Prop where
  absent : query.replyMarkup = "" → ids.unresolvedBotUsernames = []
  own : ∀ rows, (getReplyMarkup readers query.replyMarkup ids).1 = .ok (some (.inlineKeyboard rows)) →
    ∀ username, username ∈ ids.unresolvedBotUsernames → username ∈ keyboardUsernames rows ∧ ids.Unresolved username

theorem harmless_of_empty (query : Query) (ids : BotUserIds) (empty : ids.unresolvedBotUsernames = []) :
    LeftoverHarmless readers query ids := by
  refine ⟨fun _ => empty, fun rows _ username member => ?_⟩
  rw [empty] at member
  cases member

theorem parsed_exact (query : Query) (before after : BotUserIds) (markup : Option (ReplyMarkup KeyboardButton))
    (harmless : LeftoverHarmless readers query before)
    (parsed : getReplyMarkup readers query.replyMarkup before = (.ok markup, after)) : Exact ⟨query, markup, after⟩ := by
  by_cases empty : query.replyMarkup = ""
  · simp only [getReplyMarkup, if_pos empty, Prod.mk.injEq, Except.ok.injEq] at parsed
    obtain ⟨rfl, rfl⟩ := parsed
    intro username
    simp [harmless.absent empty, markupUsernames]
  · cases decoded : readers.jsonDecode query.replyMarkup with
    | none => simp [getReplyMarkup, empty, decoded] at parsed
    | some value =>
        have own := harmless.own
        simp only [getReplyMarkup, if_neg empty, decoded] at parsed own
        rw [parsed] at own
        have outcome := reply_markup_value_parsed readers value before after markup parsed
        intro username
        cases inline : isInlineKeyboard markup with
        | false => simp [outcome.plain inline, markup_usernames_not_inline markup inline]
        | true =>
            rw [outcome.status, (outcome.inline inline).added]
            cases markup with
            | none => cases inline
            | some markup =>
                cases markup with
                | inlineKeyboard rows =>
                    have named := own rows rfl username
                    simp only [markupUsernames]
                    tauto
                | _ => cases inline

theorem read_and_resolve_meets (late : Result Unit) (query : Query) (state : State KeyboardButton)
    (harmless : LeftoverHarmless readers query state.ids) (inv : Inv state) :
    Meets Tolerated Inv (readAndResolve readers late query state) := by
  rcases parsed : getReplyMarkup readers query.replyMarkup state.ids with ⟨status | markup, after⟩
  · simp only [readAndResolve, parseReplyMarkup, parsed]
    exact ⟨⟨inv.exact, inv.own⟩, inv.issued⟩
  · simp only [readAndResolve, parseReplyMarkup, parsed]
    cases late with
    | error status => exact ⟨⟨inv.exact, inv.own⟩, inv.issued⟩
    | ok =>
        exact resolve_reply_markup_bot_usernames_meets query markup _
          (parsed_exact readers query state.ids after markup harmless parsed) ⟨⟨inv.exact, inv.own⟩, inv.issued⟩

theorem do_send_message_meets (query : Query) (state : State KeyboardButton)
    (harmless : query.messageArguments = .ok () → LeftoverHarmless readers query state.ids) (inv : Inv state) :
    Meets Tolerated Inv (doSendMessage readers query state) := by
  cases read : query.messageArguments with
  | error status =>
      simp only [doSendMessage, read]
      exact ⟨⟨inv.exact, inv.own⟩, inv.issued⟩
  | ok =>
      simp only [doSendMessage, read]
      exact read_and_resolve_meets readers (.ok ()) query state (harmless read) inv

theorem answer_results_meets (query : Query) (before : BotUserIds)
    (parsed : Result (List (InputInlineQueryResult KeyboardButton)) × BotUserIds) (state : State KeyboardButton)
    (empty : before.unresolvedBotUsernames = [])
    (adds : ∀ results after, parsed = (.ok results, after) → Adds before after (resultsUsernames results))
    (inv : Inv state) : Meets Tolerated Inv (answerResults query parsed state) := by
  rcases parsed with ⟨status | results, after⟩
  · exact ⟨⟨inv.exact, inv.own⟩, inv.issued⟩
  · refine resolve_inline_query_results_meets query results _ ?_ ⟨⟨inv.exact, inv.own⟩, inv.issued⟩
    intro username member
    have cameFrom := adds results after rfl username member
    rw [empty] at cameFrom
    simpa using cameFrom

theorem process_query_meets (query : Query) (state : State KeyboardButton)
    (empty : state.ids.unresolvedBotUsernames = []) (inv : Inv state) :
    Meets Tolerated Inv (processQuery readers query state) := by
  have harmless := harmless_of_empty readers query state.ids empty
  have kept : Inv { state with checking := state.checking ++ [query] } := ⟨⟨inv.exact, inv.own⟩, inv.issued⟩
  cases read : query.handlerArguments with
  | error status =>
      simp only [processQuery, read]
      exact ⟨⟨inv.exact, inv.own⟩, inv.issued⟩
  | ok =>
      cases handler : query.method.handler with
      | sendsMessage =>
          simpa only [processQuery, read, handler] using do_send_message_meets readers query state (fun _ => harmless) inv
      | checksThenSendsMessage =>
          simp only [processQuery, read, handler]
          exact kept
      | sendsWithoutMarkup =>
          simp only [processQuery, read, handler]
          refine resolve_reply_markup_bot_usernames_meets query none state (fun username => ?_) inv
          simp [empty, markupUsernames]
      | editsMarkup =>
          simpa only [processQuery, read, handler] using read_and_resolve_meets readers (.ok ()) query state harmless inv
      | editsMarkupAndReadsMore =>
          simpa only [processQuery, read, handler] using
            read_and_resolve_meets readers query.lateArguments query state harmless inv
      | answersOneResult =>
          simp only [processQuery, read, handler]
          exact answer_results_meets query state.ids _ state empty
            (inline_query_result_adds readers query.results state.ids) inv
      | answersResults =>
          simp only [processQuery, read, handler]
          exact answer_results_meets query state.ids _ state empty
            (inline_query_results_adds readers query.results state.ids) inv
      | ignoresMarkup =>
          simp only [processQuery, read, handler]
          exact inv

-- A continuation of check_message runs outside on_cmd, so nothing cleared the
-- set for it.
def continuesHarmlessly : Transition.Condition (State KeyboardButton) Event
  | state, .messageChecked query (.ok ()) =>
      query.messageArguments = .ok () → LeftoverHarmless readers query state.ids
  | _, _ => True

theorem step_meets (state : State KeyboardButton) (event : Event) (inv : Inv state)
    (condition : continuesHarmlessly readers state event) : Meets Tolerated Inv (step readers state event) := by
  cases event with
  | command query =>
      refine on_cmd_meets readers Tolerated Inv query state inv
        (fun status => ⟨⟨inv.exact, inv.own⟩, inv.issued⟩) fun _ => ?_
      exact process_query_meets readers query _ rfl ⟨⟨inv.exact, inv.own⟩, inv.issued⟩
  | messageChecked query answer =>
      cases answer with
      | error status => exact ⟨⟨inv.exact, inv.own⟩, inv.issued⟩
      | ok => exact do_send_message_meets readers query _ condition ⟨⟨inv.exact, inv.own⟩, inv.issued⟩
  | usernameSearched username userId =>
      have searched : Inv { state with searching := state.searching.erase username } :=
        ⟨⟨inv.exact, inv.own⟩, inv.issued⟩
      exact meets_weaken _ _ _ _ (fun after => shrinks_inv _ after searched)
        (on_resolve_bot_username_shrinks username userId _)
  | closing => exact ⟨⟨inv.exact, inv.own⟩, inv.issued⟩

theorem initial_inv (state : State KeyboardButton) (initial : (client readers).start state) : Inv state := by
  obtain ⟨myId, rfl⟩ := initial
  refine ⟨⟨fun entry member => (by cases member), ?_⟩, ?_⟩
  · intro username queryIds queryId pending waiting
    simp at waiting
  · intro username queryIds queryId waiting
    simp at waiting

theorem requests_isolated_when_continued_harmlessly (state : State KeyboardButton)
    (reached : Transition.Reach (client readers) (continuesHarmlessly readers) state) :
    Isolated state ∧ ∀ event fault, (client readers).enabled state event → continuesHarmlessly readers state event →
      step readers state event = .error fault → Tolerated fault := by
  have inv : Inv state := Transition.reach_meets (client readers) _ Tolerated Inv (initial_inv readers)
    (fun before event inv _ condition => step_meets readers before event inv condition) state reached
  refine ⟨inv.toIsolated, fun event fault _ condition failed => ?_⟩
  exact meets_fails _ _ _ fault (step_meets readers state event inv condition) failed

end Isolation

-- An edit whose arguments fail after its keyboard was parsed leaves a name
-- behind, and the answer for an earlier copyMessage finds it.
section Leftover

def loginButton (botUsername : Username) : JsonValue :=
  .object [("text", .string "Log in"),
    ("login_url", .object [("url", .string "https://example.com"), ("bot_username", .string botUsername)])]

def loginKeyboard (botUsername : Username) : JsonValue :=
  .object [("inline_keyboard", .array [.array [loginButton botUsername]])]

def twoKeyboards : Readers Unit where
  jsonDecode text := if text = "first" then some (loginKeyboard "first_bot")
    else if text = "second" then some (loginKeyboard "second_bot") else none
  getOptionalLongField _ _ := .ok 0
  getKeyboardButton _ := .ok ()
  readResultHead _ := .ok ()
  readResultTail _ := .ok ()

def copyRequest (replyMarkup : String) : Query := { id := 1, method := .copyMessage, replyMarkup := replyMarkup }

def failingEdit : Query :=
  { id := 2, method := .editMessageCaption, replyMarkup := "first",
    lateArguments := .error ⟨400, "Bad Request: message caption is too long"⟩ }

def leftoverEvents (replyMarkup : String) : List Event := [.command (copyRequest replyMarkup), .command failingEdit]

def leftoverState (replyMarkup : String) : State Unit :=
  match (leftoverEvents replyMarkup).foldlM (step twoKeyboards) { ids := { defaultBotUserId := 7 } } with
  | .ok state => state
  | .error _ => { ids := {} }

theorem leftover_reached (replyMarkup : String) :
    Transition.Reach (client twoKeyboards) Transition.unrestricted (leftoverState replyMarkup) :=
  Transition.reach_follows _ _ (leftoverEvents replyMarkup) { ids := { defaultBotUserId := 7 } } _ (.start _ ⟨7, rfl⟩)
    ⟨trivial, trivial, _, rfl, trivial, trivial, _, rfl, rfl⟩

def continuedState : State Unit :=
  match step twoKeyboards (leftoverState "second") (.messageChecked (copyRequest "second") (.ok ())) with
  | .ok state => state
  | .error _ => { ids := {} }

-- Without a keyboard the assertion fails; with one the request also waits for
-- the name in the other request's keyboard.
theorem leftover_username_breaks_isolation :
    (∃ state event, Transition.Reach (client twoKeyboards) Transition.unrestricted state ∧
      (client twoKeyboards).enabled state event ∧ step twoKeyboards state event = .error .replyMarkupNotNull) ∧
    ∃ state, Transition.Reach (client twoKeyboards) Transition.unrestricted state ∧ ¬ Isolated state := by
  refine ⟨⟨leftoverState "", .messageChecked (copyRequest "") (.ok ()), leftover_reached "", ?_, rfl⟩, ?_⟩
  · exact List.mem_singleton.2 rfl
  · refine ⟨continuedState, ?_, fun isolated => ?_⟩
    · exact .next (leftoverState "second") _ (.messageChecked (copyRequest "second") (.ok ())) (leftover_reached "second")
        (List.mem_singleton.2 rfl) trivial rfl
    · have named := isolated.own "first_bot" [1] 1 _ rfl (List.mem_singleton.2 rfl) rfl
      exact absurd named (by decide)

def soloEvents : List Event := [.command (copyRequest "second"), .messageChecked (copyRequest "second") (.ok ())]

def soloState : State Unit :=
  match soloEvents.foldlM (step twoKeyboards) { ids := { defaultBotUserId := 7 } } with
  | .ok state => state
  | .error _ => { ids := {} }

theorem solo_reached : Transition.Reach (client twoKeyboards) (continuesHarmlessly twoKeyboards) soloState :=
  Transition.reach_follows _ _ soloEvents { ids := { defaultBotUserId := 7 } } _ (.start _ ⟨7, rfl⟩)
    ⟨trivial, trivial, _, rfl, List.mem_singleton.2 rfl, fun _ => harmless_of_empty twoKeyboards _ _ rfl, _, rfl, rfl⟩

theorem solo_copy_isolated : Isolated soloState ∧ ∀ event fault, (client twoKeyboards).enabled soloState event →
    continuesHarmlessly twoKeyboards soloState event → step twoKeyboards soloState event = .error fault →
    Tolerated fault :=
  requests_isolated_when_continued_harmlessly twoKeyboards soloState solo_reached

end Leftover

end TelegramBotApi.BotUsernames
