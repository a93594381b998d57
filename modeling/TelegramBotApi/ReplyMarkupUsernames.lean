import TelegramBotApi.Lib.Checked
import TelegramBotApi.ReplyMarkup

set_option autoImplicit false

namespace TelegramBotApi.BotUsernames

open Checked JsonObject

section Usernames

variable {KeyboardButton : Type}

def InlineKeyboardButtonType.usernames : InlineKeyboardButtonType Username → List Username
  | .loginUrl _ _ _ botUsername => if botUsername = "" then [] else [botUsername]
  | _ => []

def InlineKeyboardButtonType.logins : InlineKeyboardButtonType Username → List (Username × UserId)
  | .loginUrl _ id _ botUsername => [(botUsername, id)]
  | _ => []

theorem usernames_of_no_logins (type : InlineKeyboardButtonType Username) (none : type.logins = []) : type.usernames = [] := by
  cases type with
  | loginUrl url id forwardText botUsername => cases none
  | _ => rfl

def keyboardUsernames (rows : InlineKeyboard Username) : List Username :=
  rows.flatMap (fun row => row.flatMap (fun button => button.type.usernames))

-- A markup that is null or not an inline keyboard names no bot.
def markupUsernames : Option (ReplyMarkup KeyboardButton) → List Username
  | some (.inlineKeyboard rows) => keyboardUsernames rows
  | _ => []

def resultsUsernames (results : List (InputInlineQueryResult KeyboardButton)) : List Username :=
  results.flatMap (fun result => markupUsernames result.replyMarkup)

theorem markup_usernames_not_inline (markup : Option (ReplyMarkup KeyboardButton))
    (plain : isInlineKeyboard markup = false) : markupUsernames markup = [] := by
  cases markup with
  | none => rfl
  | some markup =>
      cases markup with
      | inlineKeyboard rows => cases plain
      | _ => rfl

theorem is_inline_keyboard_of_username (markup : Option (ReplyMarkup KeyboardButton)) (username : Username)
    (named : username ∈ markupUsernames markup) : isInlineKeyboard markup = true := by
  cases inline : isInlineKeyboard markup with
  | true => rfl
  | false =>
      rw [markup_usernames_not_inline markup inline] at named
      cases named

end Usernames

-- Parsing adds to the set exactly the unresolved names it meets, and never
-- changes which names are unresolved.
structure Collects (before after : BotUserIds) (names : List Username) : Prop where
  status : ∀ username, after.Unresolved username ↔ before.Unresolved username
  added : ∀ username, username ∈ after.unresolvedBotUsernames ↔
    username ∈ before.unresolvedBotUsernames ∨ username ∈ names ∧ before.Unresolved username

theorem collects_nothing (ids : BotUserIds) : Collects ids ids [] := by
  refine ⟨fun _ => Iff.rfl, fun username => ?_⟩
  simp only [List.not_mem_nil, false_and, or_false]

theorem collects_append (first middle last : BotUserIds) (names more : List Username)
    (begins : Collects first middle names) (continues : Collects middle last more) :
    Collects first last (names ++ more) := by
  refine ⟨fun username => (continues.status username).trans (begins.status username), fun username => ?_⟩
  rw [continues.added, begins.added, begins.status, List.mem_append]
  tauto

theorem unresolved_of_known (username : Username) (ids known : BotUserIds)
    (unknown : ids.botUserIds username = 0)
    (stored : known.botUserIds = Function.update ids.botUserIds username (ids.curTempBotUserId * 1000))
    (name : Username) : known.Unresolved name ↔ ids.Unresolved name := by
  by_cases same : name = username
  · subst same
    simp [BotUserIds.Unresolved, stored, unknown]
  · simp [BotUserIds.Unresolved, stored, same]

theorem lookup_collects (username : Username) (ids known : BotUserIds)
    (status : ∀ name, known.Unresolved name ↔ ids.Unresolved name)
    (kept : known.unresolvedBotUsernames = ids.unresolvedBotUsernames) :
    Collects ids (if known.botUserIds username % 1000 = 0 then
      (known.botUserIds username, { known with unresolvedBotUsernames := known.unresolvedBotUsernames.insert username })
      else (known.botUserIds username, known)).2 [username] := by
  by_cases unresolved : known.botUserIds username % 1000 = 0
  · rw [if_pos unresolved]
    refine ⟨status, fun name => ?_⟩
    have named : name = username → ids.Unresolved name := fun same => (status name).1 (same ▸ unresolved)
    simp only [List.mem_insert_iff, kept, List.mem_singleton]
    tauto
  · rw [if_neg unresolved]
    refine ⟨status, fun name => ?_⟩
    have resolved : name = username → ¬ ids.Unresolved name := fun same held =>
      unresolved (same ▸ (status name).2 held)
    simp only [kept, List.mem_singleton]
    tauto

theorem bot_user_id_collects (username : Username) (ids : BotUserIds) :
    Collects ids (botUserId username ids).2 [username] := by
  by_cases unknown : ids.botUserIds username = 0
  · simp only [botUserId, if_pos unknown]
    exact lookup_collects username ids
      { ids with botUserIds := Function.update ids.botUserIds username (ids.curTempBotUserId * 1000)
                 curTempBotUserId := ids.curTempBotUserId + 1 }
      (unresolved_of_known username ids _ unknown rfl) rfl
  · simp only [botUserId, if_neg unknown]
    exact lookup_collects username ids ids (fun _ => Iff.rfl) rfl

theorem login_button_collects (login : LoginUrl) (ids : BotUserIds) :
    Collects ids (loginButtonType login ids).2 (loginButtonType login ids).1.usernames := by
  by_cases own : login.botUsername = ""
  · simpa only [loginButtonType, InlineKeyboardButtonType.usernames, if_pos own] using collects_nothing ids
  · simpa only [loginButtonType, InlineKeyboardButtonType.usernames, if_neg own] using
      bot_user_id_collects login.botUsername ids

theorem read_switch_inline_chosen_plain (object : JsonObject) :
    Meets (fun _ => True) (fun type => type.logins = []) (readSwitchInlineChosen object) := by
  unfold readSwitchInlineChosen
  repeat (refine meets_read _ _ _ fun _ => ?_)
  rfl

theorem read_button_type_plain (object : JsonObject) :
    Meets (fun _ => True) (fun type => ∀ plain, type = .inl plain → plain.logins = []) (readButtonType object) := by
  have plain (type : InlineKeyboardButtonType Username) (nothing : type.logins = []) :
      Meets (fun _ : Status => True) (fun found => ∀ plain, found = .inl plain → plain.logins = [])
        (.ok (.inl type) : Result (InlineKeyboardButtonType Username ⊕ LoginUrl)) := by
    intro found same
    cases same
    exact nothing
  unfold readButtonType
  refine meets_read _ _ _ fun url => ?_
  split
  · exact plain _ rfl
  refine meets_read _ _ _ fun callbackData => ?_
  split
  · exact plain _ rfl
  split
  · exact plain _ rfl
  split
  · exact plain _ rfl
  split
  · exact meets_read _ _ _ fun query => plain _ rfl
  split
  · exact meets_bind _ _ _ _ _ (read_switch_inline_chosen_plain object) (fun type nothing => plain type nothing)
  split
  · exact meets_read _ _ _ fun query => plain _ rfl
  split
  · refine meets_read _ _ _ fun login => ?_
    intro found same
    cases same
  split
  · exact meets_read _ _ _ fun webApp => meets_read _ _ _ fun url => plain _ rfl
  split
  · exact meets_read _ _ _ fun copyText => meets_read _ _ _ fun text => plain _ rfl
  · exact trivial

theorem inline_keyboard_button_type_collects (object : JsonObject) (before after : BotUserIds)
    (type : InlineKeyboardButtonType Username) (parsed : getInlineKeyboardButtonType object before = (.ok type, after)) :
    Collects before after type.usernames := by
  have plain := read_button_type_plain object
  cases read : readButtonType object with
  | error status => simp [getInlineKeyboardButtonType, read] at parsed
  | ok found =>
      rw [read] at plain
      cases found with
      | inl found =>
          simp only [getInlineKeyboardButtonType, read, Prod.mk.injEq, Except.ok.injEq] at parsed
          obtain ⟨rfl, rfl⟩ := parsed
          rw [usernames_of_no_logins found (plain found rfl)]
          exact collects_nothing before
      | inr login =>
          simp only [getInlineKeyboardButtonType, read, Prod.mk.injEq, Except.ok.injEq] at parsed
          obtain ⟨rfl, rfl⟩ := parsed
          exact login_button_collects login before

theorem parse_all_relates {α β : Type} (relates : BotUserIds → BotUserIds → List Username → Prop)
    (nothing : ∀ ids, relates ids ids [])
    (append : ∀ first middle last names more, relates first middle names → relates middle last more →
      relates first last (names ++ more))
    (parse : α → BotUserIds → Result β × BotUserIds) (names : β → List Username)
    (one : ∀ item before value after, parse item before = (.ok value, after) → relates before after (names value))
    (items : List α) (before after : BotUserIds) (values : List β)
    (parsed : parseAll parse items before = (.ok values, after)) : relates before after (values.flatMap names) := by
  induction items generalizing before values with
  | nil =>
      simp only [parseAll, Prod.mk.injEq, Except.ok.injEq] at parsed
      obtain ⟨rfl, rfl⟩ := parsed
      exact nothing before
  | cons item rest ih =>
      rw [parseAll] at parsed
      rcases head : parse item before with ⟨status | value, middle⟩
      · simp [head] at parsed
      · rcases tail : parseAll parse rest middle with ⟨status | others, last⟩
        · simp [head, tail] at parsed
        · simp only [head, tail, Prod.mk.injEq, Except.ok.injEq] at parsed
          obtain ⟨rfl, rfl⟩ := parsed
          exact append before middle last _ _ (one item before value middle head) (ih middle others tail)

theorem array_generic_relates {α : Type} (relates : BotUserIds → BotUserIds → List Username → Prop)
    (nothing : ∀ ids, relates ids ids [])
    (append : ∀ first middle last names more, relates first middle names → relates middle last more →
      relates first last (names ++ more))
    (className : String) (func : JsonValue → BotUserIds → Result α × BotUserIds) (names : α → List Username)
    (one : ∀ item before value after, func item before = (.ok value, after) → relates before after (names value))
    (value : JsonValue) (before after : BotUserIds) (values : List α)
    (parsed : getArrayGeneric className func value before = (.ok values, after)) :
    relates before after (values.flatMap names) := by
  cases value with
  | array items =>
      rcases inner : parseAll func items before with ⟨status | found, last⟩
      · simp [getArrayGeneric, inner] at parsed
      · simp only [getArrayGeneric, inner, Prod.mk.injEq, Except.ok.injEq] at parsed
        obtain ⟨rfl, rfl⟩ := parsed
        exact parse_all_relates relates nothing append func names one items before last found inner
  | null =>
      simp only [getArrayGeneric, Prod.mk.injEq, Except.ok.injEq] at parsed
      obtain ⟨rfl, rfl⟩ := parsed
      exact nothing before
  | _ => simp [getArrayGeneric] at parsed

section Markup

variable {KeyboardButton : Type} (readers : Readers KeyboardButton)

theorem inline_keyboard_button_collects (button : JsonValue) (before : BotUserIds) (value : InlineKeyboardButton Username)
    (after : BotUserIds) (parsed : getInlineKeyboardButton readers button before = (.ok value, after)) :
    Collects before after value.type.usernames := by
  cases button with
  | object object =>
      cases fields : readButtonFields readers object with
      | error status => simp [getInlineKeyboardButton, fields] at parsed
      | ok found =>
          rcases inner : getInlineKeyboardButtonType object before with ⟨status | type, last⟩
          · simp [getInlineKeyboardButton, fields, inner] at parsed
          · simp only [getInlineKeyboardButton, fields, inner, Prod.mk.injEq, Except.ok.injEq] at parsed
            obtain ⟨rfl, rfl⟩ := parsed
            exact inline_keyboard_button_type_collects object before last type inner
  | _ => simp [getInlineKeyboardButton] at parsed

theorem inline_rows_collects (object : JsonObject) (before after : BotUserIds) (rows : InlineKeyboard Username)
    (parsed : getInlineRows readers object before = (.ok rows, after)) :
    Collects before after (keyboardUsernames rows) := by
  have row (item : JsonValue) (before : BotUserIds) (value : List (InlineKeyboardButton Username)) (after : BotUserIds)
      (parsed : getArrayGeneric "InlineKeyboardButton" (getInlineKeyboardButton readers) item before = (.ok value, after)) :
      Collects before after (value.flatMap (fun button => button.type.usernames)) :=
    array_generic_relates Collects collects_nothing collects_append _ _ _
      (inline_keyboard_button_collects readers) item before after value parsed
  cases extracted : extractOptionalField object "inline_keyboard" .array with
  | error status => simp [getInlineRows, extracted] at parsed
  | ok value =>
      cases value with
      | array items =>
          simp only [getInlineRows, extracted] at parsed
          exact parse_all_relates Collects collects_nothing collects_append _ _ row items before after rows parsed
      | _ =>
          simp only [getInlineRows, extracted, Prod.mk.injEq, Except.ok.injEq] at parsed
          obtain ⟨rfl, rfl⟩ := parsed
          exact collects_nothing before

theorem choose_inline_keyboard (object : JsonObject) (rows : List (List KeyboardButton)) (inlineRows : InlineKeyboard Username) :
    Meets (fun _ => True) (fun markup => ∀ shown, markup = some (.inlineKeyboard shown) → shown = inlineRows)
      (chooseReplyMarkup object rows inlineRows) := by
  unfold chooseReplyMarkup
  repeat (refine meets_read _ _ _ fun _ => ?_)
  split
  · repeat (refine meets_read _ _ _ fun _ => ?_)
    intro shown same
    cases same
  split
  · intro shown same
    cases same
    rfl
  split
  · intro shown same
    cases same
  split
  · intro shown same
    cases same
  · intro shown same
    cases same

-- The set after a successful parse: what was left over together with the
-- keyboard's own names, or nothing when the markup is no inline keyboard.
structure MarkupParsed (before after : BotUserIds) (markup : Option (ReplyMarkup KeyboardButton)) : Prop where
  status : ∀ username, after.Unresolved username ↔ before.Unresolved username
  inline : isInlineKeyboard markup = true → Collects before after (markupUsernames markup)
  plain : isInlineKeyboard markup = false → after.unresolvedBotUsernames = []

theorem reply_markup_value_parsed (value : JsonValue) (before after : BotUserIds)
    (markup : Option (ReplyMarkup KeyboardButton))
    (parsed : getReplyMarkupValue readers value before = (.ok markup, after)) : MarkupParsed before after markup := by
  cases value with
  | object object =>
      cases rowsRead : getKeyboardRows readers object with
      | error status => simp [getReplyMarkupValue, rowsRead] at parsed
      | ok rows =>
          rcases inner : getInlineRows readers object before with ⟨status | inlineRows, last⟩
          · simp [getReplyMarkupValue, rowsRead, inner] at parsed
          · have collected := inline_rows_collects readers object before last inlineRows inner
            cases chosen : chooseReplyMarkup object rows inlineRows with
            | error status => simp [getReplyMarkupValue, rowsRead, inner, chosen] at parsed
            | ok found =>
                have shown := meets_returns _ _ _ found (choose_inline_keyboard object rows inlineRows) chosen
                simp only [getReplyMarkupValue, rowsRead, inner, chosen, Prod.mk.injEq, Except.ok.injEq] at parsed
                obtain ⟨rfl, rfl⟩ := parsed
                cases found with
                | none => exact ⟨collected.status, fun inline => (by cases inline), fun _ => rfl⟩
                | some found =>
                    cases found with
                    | inlineKeyboard keyboard =>
                        cases shown keyboard rfl
                        exact ⟨collected.status, fun _ => collected, fun plain => (by cases plain)⟩
                    | _ => exact ⟨collected.status, fun inline => (by cases inline), fun _ => rfl⟩
  | _ => simp [getReplyMarkupValue] at parsed

def Adds (before after : BotUserIds) (names : List Username) : Prop :=
  ∀ username, username ∈ after.unresolvedBotUsernames → username ∈ before.unresolvedBotUsernames ∨ username ∈ names

theorem adds_nothing (ids : BotUserIds) : Adds ids ids [] := fun _ => Or.inl

theorem adds_append (first middle last : BotUserIds) (names more : List Username)
    (begins : Adds first middle names) (continues : Adds middle last more) : Adds first last (names ++ more) := by
  intro username held
  rw [List.mem_append]
  have cameFrom := continues username held
  have before := begins username
  tauto

theorem adds_of_markup_parsed (before after : BotUserIds) (markup : Option (ReplyMarkup KeyboardButton))
    (parsed : MarkupParsed before after markup) : Adds before after (markupUsernames markup) := by
  intro username held
  cases inline : isInlineKeyboard markup with
  | true => exact ((parsed.inline inline).added username |>.1 held).imp_right And.left
  | false =>
      rw [parsed.plain inline] at held
      cases held

theorem inline_query_result_markup_adds (object : JsonObject) (before : BotUserIds)
    (markup : Option (ReplyMarkup KeyboardButton)) (after : BotUserIds)
    (parsed : getInlineQueryResultMarkup readers object before = (.ok markup, after)) :
    Adds before after (markupUsernames markup) := by
  cases extracted : extractOptionalField object "reply_markup" .object with
  | error status => simp [getInlineQueryResultMarkup, extracted] at parsed
  | ok value =>
      by_cases absent : value = .null
      · subst absent
        simp only [getInlineQueryResultMarkup, extracted, Prod.mk.injEq, Except.ok.injEq] at parsed
        obtain ⟨rfl, rfl⟩ := parsed
        exact adds_nothing before
      · simp only [getInlineQueryResultMarkup, extracted] at parsed
        exact adds_of_markup_parsed before after markup (reply_markup_value_parsed readers value before after markup parsed)

theorem inline_query_result_value_adds (value : JsonValue) (before : BotUserIds)
    (result : InputInlineQueryResult KeyboardButton) (after : BotUserIds)
    (parsed : getInlineQueryResultValue readers value before = (.ok result, after)) :
    Adds before after (markupUsernames result.replyMarkup) := by
  cases value with
  | object object =>
      cases head : readers.readResultHead object with
      | error status => simp [getInlineQueryResultValue, head] at parsed
      | ok =>
          rcases inner : getInlineQueryResultMarkup readers object before with ⟨status | markup, last⟩
          · simp [getInlineQueryResultValue, head, inner] at parsed
          · cases tail : readers.readResultTail object with
            | error status => simp [getInlineQueryResultValue, head, inner, tail] at parsed
            | ok =>
                simp only [getInlineQueryResultValue, head, inner, tail, Prod.mk.injEq, Except.ok.injEq] at parsed
                obtain ⟨rfl, rfl⟩ := parsed
                exact inline_query_result_markup_adds readers object before markup last inner
  | _ => simp [getInlineQueryResultValue] at parsed

theorem inline_query_result_adds (argument : String) (before : BotUserIds)
    (results : List (InputInlineQueryResult KeyboardButton)) (after : BotUserIds)
    (parsed : getInlineQueryResult readers argument before = (.ok results, after)) :
    Adds before after (resultsUsernames results) := by
  by_cases empty : argument = ""
  · simp [getInlineQueryResult, empty] at parsed
  · cases decoded : readers.jsonDecode argument with
    | none => simp [getInlineQueryResult, empty, decoded] at parsed
    | some value =>
        rcases inner : getInlineQueryResultValue readers value before with ⟨status | result, last⟩
        · simp [getInlineQueryResult, empty, decoded, inner] at parsed
        · simp only [getInlineQueryResult, if_neg empty, decoded, inner, Prod.mk.injEq, Except.ok.injEq] at parsed
          obtain ⟨rfl, rfl⟩ := parsed
          simpa only [resultsUsernames, List.flatMap_cons, List.flatMap_nil, List.append_nil] using
            inline_query_result_value_adds readers value before result last inner

theorem inline_query_results_adds (argument : String) (before : BotUserIds)
    (results : List (InputInlineQueryResult KeyboardButton)) (after : BotUserIds)
    (parsed : getInlineQueryResults readers argument before = (.ok results, after)) :
    Adds before after (resultsUsernames results) := by
  by_cases empty : argument = ""
  · simp only [getInlineQueryResults, if_pos empty, Prod.mk.injEq, Except.ok.injEq] at parsed
    obtain ⟨rfl, rfl⟩ := parsed
    exact adds_nothing before
  · cases decoded : readers.jsonDecode argument with
    | none => simp [getInlineQueryResults, empty, decoded] at parsed
    | some value =>
        simp only [getInlineQueryResults, if_neg empty, decoded] at parsed
        exact array_generic_relates Adds adds_nothing adds_append _ _ (fun result => markupUsernames result.replyMarkup)
          (inline_query_result_value_adds readers) value before after results parsed

end Markup

end TelegramBotApi.BotUsernames
