import TelegramBotApi.LoginUrlResolution

set_option autoImplicit false

namespace TelegramBotApi.BotUsernames

open Checked JsonObject Tables

section InlineResults

variable {KeyboardButton : Type} (real : Username → UserId) (readers : Readers KeyboardButton)

def markupLogins : Option (ReplyMarkup KeyboardButton) → List (Username × UserId)
  | some (.inlineKeyboard rows) => keyboardLogins rows
  | _ => []

def resultsLogins (results : List (InputInlineQueryResult KeyboardButton)) : List (Username × UserId) :=
  results.flatMap (fun result => markupLogins result.replyMarkup)

def InputInlineQueryResult.resets (result : InputInlineQueryResult KeyboardButton) : Bool :=
  match extractOptionalField result.source "reply_markup" .object with
  | .ok (.object _) => !isInlineKeyboard result.replyMarkup
  | _ => false

def keptAfter (names : List Username) (results : List (InputInlineQueryResult KeyboardButton)) : List Username :=
  results.foldl (fun names result => if result.resets then [] else names ++ markupUsernames result.replyMarkup) names

def keptUsernames (results : List (InputInlineQueryResult KeyboardButton)) : List Username := keptAfter [] results

def NoneReset (ids : BotUserIds) (results : List (InputInlineQueryResult KeyboardButton)) : Prop :=
  ∀ username ∈ resultsUsernames results, ids.Unresolved username → username ∈ keptUsernames results

def ExactlyUnresolved (ids : BotUserIds) (results : List (InputInlineQueryResult KeyboardButton)) : Prop :=
  ∀ username, username ∈ ids.unresolvedBotUsernames ↔ ids.Unresolved username ∧ username ∈ resultsUsernames results

-- A multiple of 1000 that is the id of no bot, in a button that names a bot.
def HoldsTemporaryId (login : Username × UserId) : Prop :=
  login.1 ≠ "" ∧ login.2 % 1000 = 0 ∧ ∀ username, |login.2| ≠ real username

def resultsKept : Transition.Condition (State KeyboardButton) Event
  | state, .command query => state.closing = false → query.handlerArguments = .ok () →
      query.method.handler = .answersResults → ∀ results after,
        getInlineQueryResults readers query.results state.ids.clearUnresolved = (.ok results, after) →
          NoneReset state.ids results
  | _, _ => True

section Parsing

structure ResultParsed (before after : BotUserIds) (result : InputInlineQueryResult KeyboardButton) : Prop where
  status : ∀ username, after.Unresolved username ↔ before.Unresolved username
  resets : result.resets = true → after.unresolvedBotUsernames = [] ∧ markupUsernames result.replyMarkup = []
  collects : result.resets = false → Collects before after (markupUsernames result.replyMarkup)

theorem query_result_parsed (value : JsonValue) (before after : BotUserIds) (result : InputInlineQueryResult KeyboardButton)
    (parsed : getInlineQueryResultValue readers value before = (.ok result, after)) : ResultParsed before after result := by
  cases value with
  | object object =>
      cases head : readers.readResultHead object with
      | error status => simp [getInlineQueryResultValue, head] at parsed
      | ok =>
          rcases inner : getInlineQueryResultMarkup readers object before with ⟨status | markup, last⟩
          · simp [getInlineQueryResultValue, head, inner] at parsed
          · cases tail : readers.readResultTail object with
            | error status => simp [getInlineQueryResultValue, head, inner, tail] at parsed
            | ok =>
                simp only [getInlineQueryResultValue, head, inner, tail, Prod.mk.injEq, Except.ok.injEq] at parsed
                obtain ⟨rfl, rfl⟩ := parsed
                unfold getInlineQueryResultMarkup at inner
                cases extracted : extractOptionalField object "reply_markup" .object with
                | error status => simp [extracted] at inner
                | ok value =>
                    cases value with
                    | null =>
                        simp only [extracted, Prod.mk.injEq, Except.ok.injEq] at inner
                        obtain ⟨rfl, rfl⟩ := inner
                        refine ⟨fun _ => Iff.rfl, fun resets => ?_, fun _ => collects_nothing before⟩
                        simp [InputInlineQueryResult.resets, extracted] at resets
                    | object fields =>
                        simp only [extracted] at inner
                        have held := reply_markup_value_parsed readers (.object fields) before last markup inner
                        have resets : InputInlineQueryResult.resets ⟨object, markup⟩ = !isInlineKeyboard markup := by
                          simp [InputInlineQueryResult.resets, extracted]
                        refine ⟨held.status, fun reset => ?_, fun kept => ?_⟩
                        · have plain : isInlineKeyboard markup = false := by simpa [resets] using reset
                          exact ⟨held.plain plain, markup_usernames_not_inline markup plain⟩
                        · exact held.inline (by simpa [resets] using kept)
                    | _ => simp [extracted, getReplyMarkupValue] at inner
  | _ => simp [getInlineQueryResultValue] at parsed

theorem query_results_kept (items : List JsonValue) (before after : BotUserIds) (names : List Username)
    (results : List (InputInlineQueryResult KeyboardButton))
    (starts : ∀ username, username ∈ before.unresolvedBotUsernames ↔ before.Unresolved username ∧ username ∈ names)
    (parsed : parseAll (getInlineQueryResultValue readers) items before = (.ok results, after)) :
    (∀ username, after.Unresolved username ↔ before.Unresolved username) ∧
      ∀ username, username ∈ after.unresolvedBotUsernames ↔ after.Unresolved username ∧ username ∈ keptAfter names results := by
  induction items generalizing before names results with
  | nil =>
      simp only [parseAll, Prod.mk.injEq, Except.ok.injEq] at parsed
      obtain ⟨rfl, rfl⟩ := parsed
      exact ⟨fun _ => Iff.rfl, starts⟩
  | cons item rest ih =>
      rw [parseAll] at parsed
      rcases first : getInlineQueryResultValue readers item before with ⟨status | result, middle⟩
      · simp [first] at parsed
      · rcases others : parseAll (getInlineQueryResultValue readers) rest middle with ⟨status | found, last⟩
        · simp [first, others] at parsed
        · simp only [first, others, Prod.mk.injEq, Except.ok.injEq] at parsed
          obtain ⟨rfl, rfl⟩ := parsed
          have one := query_result_parsed readers item before middle result first
          have middleSet (username : Username) : username ∈ middle.unresolvedBotUsernames ↔ middle.Unresolved username ∧
              username ∈ if result.resets then [] else names ++ markupUsernames result.replyMarkup := by
            rw [one.status username]
            cases reset : result.resets with
            | true => simp [(one.resets reset).1]
            | false =>
                rw [(one.collects reset).added, starts]
                simp only [Bool.false_eq_true, if_false, List.mem_append]
                tauto
          obtain ⟨status, set⟩ := ih middle _ found middleSet others
          exact ⟨fun username => (status username).trans (one.status username), set⟩

theorem kept_subset (results : List (InputInlineQueryResult KeyboardButton)) (names : List Username) (username : Username)
    (member : username ∈ keptAfter names results) : username ∈ names ∨ username ∈ resultsUsernames results := by
  induction results generalizing names with
  | nil => exact .inl member
  | cons result rest ih =>
      rw [resultsUsernames, List.flatMap_cons, List.mem_append]
      rcases ih _ member with here | later
      · dsimp only at here
        cases reset : result.resets with
        | true =>
            rw [reset] at here
            cases here
        | false =>
            rw [reset] at here
            rcases List.mem_append.1 here with old | own
            · exact .inl old
            · exact .inr (.inl own)
      · exact .inr (.inr later)

theorem exact_iff (before after : BotUserIds) (results : List (InputInlineQueryResult KeyboardButton))
    (status : ∀ username, after.Unresolved username ↔ before.Unresolved username)
    (set : ∀ username, username ∈ after.unresolvedBotUsernames ↔ after.Unresolved username ∧ username ∈ keptUsernames results) :
    ExactlyUnresolved after results ↔ NoneReset before results := by
  constructor
  · intro exact username named unresolved
    exact ((set username).1 ((exact username).2 ⟨(status username).2 unresolved, named⟩)).2
  · intro kept username
    rw [set]
    constructor
    · rintro ⟨unresolved, member⟩
      exact ⟨unresolved, (kept_subset results [] username member).resolve_left (fun none => by cases none)⟩
    · rintro ⟨unresolved, named⟩
      exact ⟨unresolved, kept username named ((status username).1 unresolved)⟩

theorem results_exact_iff (argument : String) (before after : BotUserIds)
    (results : List (InputInlineQueryResult KeyboardButton)) (empty : before.unresolvedBotUsernames = [])
    (parsed : getInlineQueryResults readers argument before = (.ok results, after)) :
    ExactlyUnresolved after results ↔ NoneReset before results := by
  have none (username : Username) : username ∈ before.unresolvedBotUsernames ↔ before.Unresolved username ∧ username ∈ [] := by
    simp [empty]
  unfold getInlineQueryResults at parsed
  split at parsed
  · cases parsed
    exact exact_iff before before [] (fun _ => Iff.rfl) none
  · cases decoded : readers.jsonDecode argument with
    | none => simp [decoded] at parsed
    | some values =>
        simp only [decoded] at parsed
        cases values with
        | array items =>
            rcases inner : parseAll (getInlineQueryResultValue readers) items before with ⟨status | found, last⟩
            · simp [getArrayGeneric, inner] at parsed
            · simp only [getArrayGeneric, inner, Prod.mk.injEq, Except.ok.injEq] at parsed
              obtain ⟨rfl, rfl⟩ := parsed
              obtain ⟨status, set⟩ := query_results_kept readers items before last [] found none inner
              exact exact_iff before last found status set
        | null =>
            simp only [getArrayGeneric, Prod.mk.injEq, Except.ok.injEq] at parsed
            obtain ⟨rfl, rfl⟩ := parsed
            exact exact_iff before before [] (fun _ => Iff.rfl) none
        | _ => simp [getArrayGeneric] at parsed

def ResultPlaced (ids : BotUserIds) (_ : JsonValue) (result : InputInlineQueryResult KeyboardButton) : Prop :=
  ∀ login ∈ markupLogins result.replyMarkup, ids.Named login.1 ∧ (login.2 = ids.idOf login.1 ∨ login.2 = -ids.idOf login.1)

theorem result_placed_grows (before after : BotUserIds) (item : JsonValue) (result : InputInlineQueryResult KeyboardButton)
    (grows : Grows real before after) (placed : ResultPlaced before item result) : ResultPlaced after item result := by
  intro login member
  obtain ⟨named, signed⟩ := placed login member
  obtain ⟨later, same⟩ := grown_named real before after grows login.1 named
  exact ⟨later, by rwa [same]⟩

theorem markup_value_placed (value : JsonValue) (before after : BotUserIds) (markup : Option (ReplyMarkup KeyboardButton))
    (sound : IdsSound real before) (parsed : getReplyMarkupValue readers value before = (.ok markup, after)) :
    ∀ login ∈ markupLogins markup, after.Named login.1 ∧ (login.2 = after.idOf login.1 ∨ login.2 = -after.idOf login.1) := by
  cases markup with
  | none =>
      intro login member
      cases member
  | some markup =>
      cases markup with
      | inlineKeyboard rows =>
          intro login member
          obtain ⟨object, _, placed⟩ := reply_markup_value_placed real readers value before after rows sound parsed
          obtain ⟨asks, named⟩ := placed_rows_asks after object rows placed
          exact ⟨named login member, asked_id after.idOf object rows asks login member⟩
      | _ =>
          intro login member
          cases member

theorem query_result_placed (value : JsonValue) (before : BotUserIds) (result : InputInlineQueryResult KeyboardButton)
    (after : BotUserIds) (sound : IdsSound real before)
    (parsed : getInlineQueryResultValue readers value before = (.ok result, after)) : ResultPlaced after value result := by
  cases value with
  | object object =>
      cases head : readers.readResultHead object with
      | error status => simp [getInlineQueryResultValue, head] at parsed
      | ok =>
          rcases inner : getInlineQueryResultMarkup readers object before with ⟨status | markup, last⟩
          · simp [getInlineQueryResultValue, head, inner] at parsed
          · cases tail : readers.readResultTail object with
            | error status => simp [getInlineQueryResultValue, head, inner, tail] at parsed
            | ok =>
                simp only [getInlineQueryResultValue, head, inner, tail, Prod.mk.injEq, Except.ok.injEq] at parsed
                obtain ⟨rfl, rfl⟩ := parsed
                unfold getInlineQueryResultMarkup at inner
                split at inner
                · cases inner
                · cases inner
                  intro login member
                  cases member
                · exact markup_value_placed real readers _ before last markup sound inner
  | _ => simp [getInlineQueryResultValue] at parsed

theorem results_placed (argument : String) (before after : BotUserIds)
    (results : List (InputInlineQueryResult KeyboardButton)) (sound : IdsSound real before)
    (parsed : getInlineQueryResults readers argument before = (.ok results, after)) :
    ∀ login ∈ resultsLogins results, login.2 = after.idOf login.1 ∨ login.2 = -after.idOf login.1 := by
  have none (ids : BotUserIds) : ∀ login ∈ resultsLogins ([] : List (InputInlineQueryResult KeyboardButton)),
      login.2 = ids.idOf login.1 ∨ login.2 = -ids.idOf login.1 := fun login member => by cases member
  unfold getInlineQueryResults at parsed
  split at parsed
  · cases parsed
    exact none before
  · cases decoded : readers.jsonDecode argument with
    | none => simp [decoded] at parsed
    | some values =>
        simp only [decoded] at parsed
        cases values with
        | array items =>
            rcases inner : parseAll (getInlineQueryResultValue readers) items before with ⟨status | found, last⟩
            · simp [getArrayGeneric, inner] at parsed
            · simp only [getArrayGeneric, inner, Prod.mk.injEq, Except.ok.injEq] at parsed
              obtain ⟨rfl, rfl⟩ := parsed
              intro login member
              obtain ⟨result, inside, own⟩ := List.mem_flatMap.1 member
              have placed := parse_all_placed real ResultPlaced (result_placed_grows real) _
                (query_result_value_grows real readers)
                (query_result_placed real readers) items before last found sound inner
              obtain ⟨item, _, one⟩ := related_of_mem items found placed result inside
              exact (one login own).2
        | null =>
            simp only [getArrayGeneric, Prod.mk.injEq, Except.ok.injEq] at parsed
            obtain ⟨rfl, rfl⟩ := parsed
            exact none before
        | _ => simp [getArrayGeneric] at parsed

end Parsing

section Passing

structure ResultsSound (state : State KeyboardButton) : Prop where
  ids : IdsSound real state.ids
  found : ∀ key userId, state.tempToReal.lookup key = some userId → 0 < userId ∧ ∃ username, userId = real username
  handed : ∀ query results, (query, .results results) ∈ state.continued → ∀ login ∈ resultsLogins results,
    ¬ HoldsTemporaryId real login

theorem fixed_button_id (tempToReal : AList (fun _ : UserId => UserId)) (id : UserId) (username : Username)
    (found : ∀ key userId, tempToReal.lookup key = some userId → 0 < userId ∧ ∃ username, userId = real username) :
    Meets (fun _ => True) (fun fixed => ¬ HoldsTemporaryId real (username, fixed)) (fixButtonId tempToReal id) := by
  unfold fixButtonId
  split
  · rename_i odd
    exact fun holds => odd holds.2.1
  · cases stored : tempToReal.lookup |id| with
    | none => exact trivial
    | some userId =>
        obtain ⟨positive, bot, same⟩ := found _ userId stored
        apply meets_require _ _ _ _ _ (fun _ => trivial)
        intro _ holds
        refine holds.2.2 bot ?_
        dsimp only
        split
        · rw [abs_neg, abs_of_pos positive, same]
        · rw [abs_of_pos positive, same]

theorem fixed_button (tempToReal : AList (fun _ : UserId => UserId)) (button : InlineKeyboardButton Username)
    (found : ∀ key userId, tempToReal.lookup key = some userId → 0 < userId ∧ ∃ username, userId = real username) :
    Meets (fun _ => True) (fun fixed => ∀ login ∈ fixed.type.logins, ¬ HoldsTemporaryId real login)
      (fixButton tempToReal button) := by
  unfold fixButton
  cases type : button.type with
  | loginUrl url id forwardText botUsername =>
      refine meets_bind _ _ _ _ _ (fixed_button_id real tempToReal id botUsername found) (fun fixed clean => ?_)
      intro login member
      rw [List.mem_singleton.1 member]
      exact clean
  | _ =>
      intro login member
      rw [type] at member
      cases member

theorem fixed_markup (tempToReal : AList (fun _ : UserId => UserId)) (markup : Option (ReplyMarkup KeyboardButton))
    (found : ∀ key userId, tempToReal.lookup key = some userId → 0 < userId ∧ ∃ username, userId = real username) :
    Meets (fun _ => True) (fun fixed => ∀ login ∈ markupLogins fixed, ¬ HoldsTemporaryId real login)
      (fixReplyMarkupBotUserIds tempToReal markup) := by
  cases markup with
  | none =>
      intro login member
      cases member
  | some markup =>
      cases markup with
      | inlineKeyboard rows =>
          refine meets_bind _ _ _ _ _ (meets_mapM_all _ (fun row => ∀ button ∈ row, ∀ login ∈ button.type.logins,
            ¬ HoldsTemporaryId real login) _ _ (fun row _ => meets_mapM_all _ _ _ _
              (fun button _ => fixed_button real tempToReal button found))) (fun fixed clean => ?_)
          intro login member
          obtain ⟨row, inRows, inRow⟩ := List.mem_flatMap.1 member
          obtain ⟨button, inButtons, own⟩ := List.mem_flatMap.1 inRow
          exact clean row inRows button inButtons login own
      | _ =>
          intro login member
          cases member

theorem fixed_results (tempToReal : AList (fun _ : UserId => UserId)) (continuation : Continuation KeyboardButton)
    (found : ∀ key userId, tempToReal.lookup key = some userId → 0 < userId ∧ ∃ username, userId = real username) :
    Meets (fun _ => True) (fun fixed => ∀ results, fixed = .results results → ∀ login ∈ resultsLogins results,
      ¬ HoldsTemporaryId real login) (fixContinuation tempToReal continuation) := by
  cases continuation with
  | replyMarkup markup =>
      refine meets_bind _ _ _ _ _ (fixed_markup real tempToReal markup found) (fun fixed _ => ?_)
      intro results same
      cases same
  | results results =>
      have one (result : InputInlineQueryResult KeyboardButton) : Meets (fun _ => True) (fun fixed : InputInlineQueryResult
          KeyboardButton => ∀ login ∈ markupLogins fixed.replyMarkup, ¬ HoldsTemporaryId real login)
          (fixInlineQueryResult tempToReal result) := by
        refine meets_bind _ _ _ _ _ (fixed_markup real tempToReal result.replyMarkup found) (fun fixed clean => ?_)
        exact clean
      refine meets_bind _ _ _ _ _ (meets_mapM_all _ _ _ _ (fun result _ => one result)) (fun fixed clean => ?_)
      intro shown same
      cases same
      intro login member
      obtain ⟨result, inside, own⟩ := List.mem_flatMap.1 member
      exact clean result inside login own

variable (state : State KeyboardButton)

theorem passed_sound (query : Query) (continuation : Continuation KeyboardButton) (sound : ResultsSound real state)
    (clean : ∀ results, continuation = .results results → ∀ login ∈ resultsLogins results, ¬ HoldsTemporaryId real login) :
    ResultsSound real { state with continued := state.continued ++ [(query, continuation)] } := by
  refine ⟨sound.ids, sound.found, fun other results member => ?_⟩
  rcases List.mem_append.1 member with old | new
  · exact sound.handed other results old
  · have same := List.mem_singleton.1 new
    cases same
    exact clean results rfl

theorem resolve_awaiting_sound (username : Username) (userId : UserId) (queryId : Int) (sound : ResultsSound real state) :
    Meets (fun _ => True) (ResultsSound real) (resolveAwaiting username userId state queryId) := by
  unfold resolveAwaiting
  cases found : state.pendingQueries.lookup queryId with
  | none => exact sound
  | some pending =>
      dsimp only
      apply meets_require _ _ _ _ _ (fun _ => trivial)
      intro _
      split
      · exact ⟨sound.ids, sound.found, sound.handed⟩
      · split
        · refine meets_bind _ _ _ _ _ (fixed_results real state.tempToReal pending.onSuccess sound.found) (fun fixed clean => ?_)
          have passed := passed_sound real state pending.query fixed sound clean
          exact ⟨passed.ids, passed.found, passed.handed⟩
        · exact ⟨sound.ids, sound.found, sound.handed⟩

theorem on_resolve_sound (username : Username) (userId : UserId) (answer : userId = 0 ∨ userId = real username ∧ 0 < userId)
    (sound : ResultsSound real state) :
    Meets (fun _ => True) (ResultsSound real) (onResolveBotUsername username userId state) := by
  unfold onResolveBotUsername
  cases state.awaitingQueries.lookup username with
  | none => exact trivial
  | some queryIds =>
      dsimp only
      apply meets_require _ _ _ _ _ (fun _ => trivial)
      intro _
      refine meets_foldlM _ (ResultsSound real) _ _ _ ?_ (fun middle queryId _ held =>
        resolve_awaiting_sound real middle username userId queryId held)
      by_cases zero : userId = 0
      · simp only [storeResolved, if_pos zero]
        exact ⟨sound_update real username state.ids 0 (Int.le_refl 0) (fun odd => absurd rfl odd) sound.ids, sound.found,
          sound.handed⟩
      · obtain ⟨bot, positive⟩ := answer.resolve_left zero
        simp only [storeResolved, if_neg zero]
        refine ⟨sound_update real username state.ids userId (Int.le_of_lt positive) (fun _ => bot) sound.ids,
          fun key stored found => ?_,
          sound.handed⟩
        rw [lookup_insert] at found
        split at found
        · cases found
          exact ⟨positive, username, bot⟩
        · exact sound.found key stored found

theorem await_sound (queryId : Int) (username : Username) (sound : ResultsSound real state) :
    Meets (fun _ => True) (ResultsSound real) (awaitUsername queryId state username) := by
  unfold awaitUsername
  dsimp only
  split
  · unfold searchPublicChat
    split
    · exact on_resolve_sound real _ username 0 (.inl rfl) ⟨sound.ids, sound.found, sound.handed⟩
    · exact ⟨sound.ids, sound.found, sound.handed⟩
  · exact ⟨sound.ids, sound.found, sound.handed⟩

theorem resolve_sound (query : Query) (onSuccess : Continuation KeyboardButton) (sound : ResultsSound real state) :
    Meets (fun _ => True) (ResultsSound real) (resolveBotUsernames query onSuccess state) := by
  unfold resolveBotUsernames
  apply meets_require _ _ _ _ _ (fun _ => trivial)
  intro _
  refine meets_bind _ (ResultsSound real) _ _ _ (meets_foldlM _ (ResultsSound real) _ _ _
    ⟨sound.ids, sound.found, sound.handed⟩ (fun middle username _ held => await_sound real middle _ username held))
    (fun waited held => ?_)
  exact ⟨(grows_set real waited.ids [] (fun _ => List.nodup_nil)).sound held.ids, held.found, held.handed⟩

theorem resolve_markup_sound (query : Query) (markup : Option (ReplyMarkup KeyboardButton)) (sound : ResultsSound real state) :
    Meets (fun _ => True) (ResultsSound real) (resolveReplyMarkupBotUsernames query markup state) := by
  have logged : ResultsSound real { state with entered := state.entered ++ [⟨query, markup, state.ids⟩] } :=
    ⟨sound.ids, sound.found, sound.handed⟩
  unfold resolveReplyMarkupBotUsernames
  dsimp only
  split
  · exact passed_sound real _ query _ logged (fun results same => by cases same)
  · apply meets_require _ _ _ _ _ (fun _ => trivial)
    intro _
    apply meets_require _ _ _ _ _ (fun _ => trivial)
    intro _
    exact resolve_sound real _ query _ logged

theorem read_sound (late : Result Unit) (query : Query) (sound : ResultsSound real state) :
    Meets (fun _ => True) (ResultsSound real) (readAndResolve readers late query state) := by
  have grown : ResultsSound real { state with ids := (getReplyMarkup readers query.replyMarkup state.ids).2 } :=
    ⟨(reply_markup_grows real readers query.replyMarkup state.ids).sound sound.ids, sound.found, sound.handed⟩
  unfold readAndResolve parseReplyMarkup
  rcases parsed : getReplyMarkup readers query.replyMarkup state.ids with ⟨status | markup, after⟩ <;> rw [parsed] at grown
  · exact ⟨grown.ids, grown.found, grown.handed⟩
  · cases late with
    | error status => exact ⟨grown.ids, grown.found, grown.handed⟩
    | ok => exact resolve_markup_sound real _ query markup grown

theorem send_sound (query : Query) (sound : ResultsSound real state) :
    Meets (fun _ => True) (ResultsSound real) (doSendMessage readers query state) := by
  unfold doSendMessage
  split
  · exact ⟨sound.ids, sound.found, sound.handed⟩
  · exact read_sound real readers state (.ok ()) query sound

theorem answer_sound (query : Query) (parsed : Result (List (InputInlineQueryResult KeyboardButton)) × BotUserIds)
    (grows : Grows real state.ids parsed.2)
    (placed : ∀ results, parsed.1 = .ok results → ∀ login ∈ resultsLogins results,
      login.2 = parsed.2.idOf login.1 ∨ login.2 = -parsed.2.idOf login.1)
    (exact : ∀ results, parsed.1 = .ok results → ExactlyUnresolved parsed.2 results)
    (sound : ResultsSound real state) : Meets (fun _ => True) (ResultsSound real) (answerResults query parsed state) := by
  have grown : ResultsSound real { state with ids := parsed.2 } := ⟨grows.sound sound.ids, sound.found, sound.handed⟩
  rcases parsed with ⟨status | results, after⟩
  · exact ⟨grown.ids, grown.found, grown.handed⟩
  · change Meets _ _ (resolveInlineQueryResultsBotUsernames query results { state with ids := after })
    unfold resolveInlineQueryResultsBotUsernames
    split
    · rename_i empty
      refine passed_sound real _ query _ grown (fun shown same => ?_)
      cases same
      rintro login member ⟨named, multiple, _⟩
      have unresolved : after.Unresolved login.1 := by
        rcases placed results rfl login member with same | same
        · rw [same, BotUserIds.idOf, if_neg named] at multiple
          exact multiple
        · rw [same, BotUserIds.idOf, if_neg named] at multiple
          exact Int.emod_eq_zero_of_dvd (Int.dvd_neg.1 (Int.dvd_of_emod_eq_zero multiple))
      obtain ⟨result, inside, own⟩ := List.mem_flatMap.1 member
      have listed := (exact results rfl login.1).2 ⟨unresolved, List.mem_flatMap.2 ⟨result, inside, ?_⟩⟩
      · change after.unresolvedBotUsernames = [] at empty
        rw [empty] at listed
        cases listed
      · cases kind : result.replyMarkup with
        | none =>
            rw [kind] at own
            cases own
        | some markup =>
            rw [kind] at own
            cases markup with
            | inlineKeyboard rows => exact login_username rows login own named
            | _ => cases own
    · exact resolve_sound real _ query _ grown

theorem one_result_exact (argument : String) (before after : BotUserIds)
    (results : List (InputInlineQueryResult KeyboardButton)) (sound : IdsSound real before)
    (empty : before.unresolvedBotUsernames = [])
    (parsed : getInlineQueryResult readers argument before = (.ok results, after)) :
    ExactlyUnresolved after results ∧
      ∀ login ∈ resultsLogins results, login.2 = after.idOf login.1 ∨ login.2 = -after.idOf login.1 := by
  unfold getInlineQueryResult at parsed
  split at parsed
  · cases parsed
  · cases decoded : readers.jsonDecode argument with
    | none => simp [decoded] at parsed
    | some value =>
        rcases inner : getInlineQueryResultValue readers value before with ⟨status | result, last⟩
        · simp [decoded, inner] at parsed
        · simp only [decoded, inner, Prod.mk.injEq, Except.ok.injEq] at parsed
          obtain ⟨rfl, rfl⟩ := parsed
          have one := query_result_parsed readers value before last result inner
          have names : resultsUsernames [result] = markupUsernames result.replyMarkup := by
            simp [resultsUsernames]
          have logins : resultsLogins [result] = markupLogins result.replyMarkup := by
            simp [resultsLogins]
          rw [logins]
          refine ⟨fun username => ?_, fun login member =>
            (query_result_placed real readers value before result last sound inner login member).2⟩
          rw [names, one.status]
          cases reset : result.resets with
          | true => simp [(one.resets reset).1, (one.resets reset).2]
          | false =>
              rw [(one.collects reset).added, empty]
              simp [and_comm]

theorem process_sound (query : Query) (state : State KeyboardButton) (empty : state.ids.unresolvedBotUsernames = [])
    (kept : query.handlerArguments = .ok () → query.method.handler = .answersResults → ∀ results after,
      getInlineQueryResults readers query.results state.ids = (.ok results, after) → NoneReset state.ids results)
    (sound : ResultsSound real state) : Meets (fun _ => True) (ResultsSound real) (processQuery readers query state) := by
  unfold processQuery
  cases read : query.handlerArguments with
  | error status => exact ⟨sound.ids, sound.found, sound.handed⟩
  | ok =>
      dsimp only
      cases handler : query.method.handler with
      | sendsMessage => exact send_sound real readers state query sound
      | checksThenSendsMessage => exact ⟨sound.ids, sound.found, sound.handed⟩
      | sendsWithoutMarkup => exact resolve_markup_sound real state query none sound
      | editsMarkup => exact read_sound real readers state _ query sound
      | editsMarkupAndReadsMore => exact read_sound real readers state _ query sound
      | answersOneResult =>
          have one (results : List (InputInlineQueryResult KeyboardButton))
              (parsed : (getInlineQueryResult readers query.results state.ids).1 = .ok results) :=
            one_result_exact real readers query.results state.ids _ results sound.ids empty (Prod.ext parsed rfl)
          exact answer_sound real state query _ (query_result_grows real readers query.results state.ids)
            (fun results parsed => (one results parsed).2) (fun results parsed => (one results parsed).1) sound
      | answersResults =>
          refine answer_sound real state query _ (query_results_grows real readers query.results state.ids)
            (fun results parsed => ?_) (fun results parsed => ?_) sound
          · exact results_placed real readers query.results state.ids _ results sound.ids (Prod.ext parsed rfl)
          · have same : getInlineQueryResults readers query.results state.ids =
                (.ok results, (getInlineQueryResults readers query.results state.ids).2) := Prod.ext parsed rfl
            exact (results_exact_iff readers query.results state.ids _ results empty same).2 (kept read handler results _ same)
      | ignoresMarkup => exact sound

theorem step_sound (state : State KeyboardButton) (event : Event) (enabled : loginEnabled real state event)
    (condition : resultsKept readers state event) (sound : ResultsSound real state) :
    Meets (fun _ => True) (ResultsSound real) (step readers state event) := by
  cases event with
  | command query =>
      refine on_cmd_meets readers (fun _ => True) (ResultsSound real) query state sound
        (fun status => ⟨sound.ids, sound.found, sound.handed⟩) fun running => ?_
      exact process_sound real readers query _ rfl (condition running)
        ⟨(grows_set real state.ids [] (fun _ => List.nodup_nil)).sound sound.ids, sound.found, sound.handed⟩
  | messageChecked query answer =>
      cases answer with
      | error status => exact ⟨sound.ids, sound.found, sound.handed⟩
      | ok => exact send_sound real readers _ query ⟨sound.ids, sound.found, sound.handed⟩
  | usernameSearched username userId =>
      exact on_resolve_sound real _ username userId enabled.2 ⟨sound.ids, sound.found, sound.handed⟩
  | closing => exact ⟨sound.ids, sound.found, sound.handed⟩

end Passing

theorem results_passed_clean (state : State KeyboardButton)
    (reached : Transition.Reach (loginClient real readers) (resultsKept readers) state) : ResultsSound real state := by
  apply Transition.reach_meets (loginClient real readers) (resultsKept readers) (fun _ => True)
    (ResultsSound real) _ _ state reached
  · intro first start
    have login := login_start real readers first start
    obtain ⟨myId, _, rfl⟩ := start
    refine ⟨login.ids, fun key userId found => ?_, fun query results member => ?_⟩
    · cases found
    · cases member
  · exact fun before event held enabled condition => step_sound real readers before event enabled condition held

theorem inline_results_resolved_iff :
    (∀ argument before after results, before.unresolvedBotUsernames = [] →
      getInlineQueryResults readers argument before = (.ok results, after) →
      (ExactlyUnresolved after results ↔ NoneReset before results)) ∧
    ∀ state, Transition.Reach (loginClient real readers) (resultsKept readers) state →
      ∀ query results, (query, .results results) ∈ state.continued → ∀ login ∈ resultsLogins results,
        ¬ HoldsTemporaryId real login :=
  ⟨fun argument before after results empty parsed => results_exact_iff readers argument before after results empty parsed,
    fun state reached => (results_passed_clean real readers state reached).handed⟩

end InlineResults

-- Two results, one with a keyboard that names a bot and one with an empty object.
section Lost

def keyboardResult : JsonValue := .object [("reply_markup", loginKeyboardOf ["friend_bot"])]

def emptyResult : JsonValue := .object [("reply_markup", .object [])]

def twoResults : Readers Unit where
  jsonDecode text :=
    if text = "lost" then some (.array [keyboardResult, emptyResult])
    else if text = "kept" then some (.array [emptyResult, keyboardResult])
    else none
  getOptionalLongField _ _ := .ok 0
  getKeyboardButton _ := .ok ()
  readResultHead _ := .ok ()
  readResultTail _ := .ok ()

def answers (id : Nat) (results : String) : Event := .command { id, method := .answerInlineQuery, results }

instance (state : State Unit) (event : Event) : Decidable ((loginClient fewBots twoResults).enabled state event) :=
  inferInstanceAs (Decidable (loginEnabled fewBots state event))

instance (ids : BotUserIds) (results : List (InputInlineQueryResult Unit)) : Decidable (NoneReset ids results) :=
  inferInstanceAs (Decidable (∀ username ∈ resultsUsernames results, ids.Unresolved username → username ∈ keptUsernames results))

def passedLogins (state : State Unit) : List (Username × UserId) :=
  state.continued.flatMap (fun entry =>
    match entry.2 with
    | .results results => resultsLogins results
    | .replyMarkup _ => [])

theorem temporary_id_passed : ∃ state, Transition.Reach (loginClient fewBots twoResults) Transition.unrestricted state ∧
    ∃ login ∈ passedLogins state, HoldsTemporaryId fewBots login := by
  obtain ⟨state, reached, passed⟩ := Transition.exists_reach (loginClient fewBots twoResults) Transition.unrestricted
    (fun state => ("friend_bot", -1000) ∈ passedLogins state) roundStart ⟨7, by decide, rfl⟩ [answers 1 "lost"]
    (by decide +kernel)
  refine ⟨state, reached, _, passed, by decide, by decide, fun username => ?_⟩
  unfold fewBots
  split <;> decide

def keptParsed : Result (List (InputInlineQueryResult Unit)) × BotUserIds :=
  getInlineQueryResults twoResults "kept" roundStart.ids.clearUnresolved

def keptResults : List (InputInlineQueryResult Unit) :=
  match keptParsed.1 with
  | .ok results => results
  | .error _ => []

theorem kept_parsed : keptParsed = (.ok keptResults, keptParsed.2) := rfl

theorem kept_none_reset : NoneReset roundStart.ids keptResults := by decide +kernel

def resultsStep (event : Event) (state : State Unit) : State Unit :=
  match step twoResults state event with
  | .ok after => after
  | .error _ => state

def keptFound : State Unit :=
  resultsStep (.usernameSearched "friend_bot" 7777) (resultsStep (answers 1 "kept") roundStart)

theorem kept_reached : Transition.Reach (loginClient fewBots twoResults) (resultsKept twoResults) keptFound := by
  have waiting : Transition.Reach (loginClient fewBots twoResults) (resultsKept twoResults)
      (resultsStep (answers 1 "kept") roundStart) := by
    refine .next roundStart _ (answers 1 "kept") (.start _ ⟨7, by decide, rfl⟩) trivial ?_ rfl
    intro _ _ _ results after parsed
    have same := congrArg Prod.fst (kept_parsed.symm.trans parsed)
    rw [← Except.ok.inj same]
    exact kept_none_reset
  exact .next _ _ (.usernameSearched "friend_bot" 7777) waiting (by decide +kernel) trivial rfl

-- In the other order the bot is looked for.
theorem kept_results_resolved : ExactlyUnresolved keptParsed.2 keptResults ∧ ("friend_bot", -7777) ∈ passedLogins keptFound ∧
    ∀ query results, (query, .results results) ∈ keptFound.continued → ∀ login ∈ resultsLogins results,
      ¬ HoldsTemporaryId fewBots login :=
  ⟨((inline_results_resolved_iff fewBots twoResults).1 "kept" roundStart.ids.clearUnresolved keptParsed.2 keptResults rfl
    kept_parsed).2 kept_none_reset, by decide +kernel, (inline_results_resolved_iff fewBots twoResults).2 keptFound kept_reached⟩

end Lost

end TelegramBotApi.BotUsernames
