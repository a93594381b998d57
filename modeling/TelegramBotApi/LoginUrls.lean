import TelegramBotApi.BotUsernames
import TelegramBotApi.ReplyMarkupUsernames

set_option autoImplicit false

namespace TelegramBotApi.BotUsernames

open Checked JsonObject

-- A button without a username logs in to the bot itself.
def BotUserIds.idOf (ids : BotUserIds) (username : Username) : UserId :=
  if username = "" then ids.defaultBotUserId else ids.botUserIds username

-- What the JSON of a button asks for, given the user id for each name.
def AsksForType (idOf : Username → UserId) (object : JsonObject) (type : InlineKeyboardButtonType Username) : Prop :=
  match readButtonType object with
  | .error _ => False
  | .ok (.inl plain) => type = plain
  | .ok (.inr login) => type =
      .loginUrl login.url (if login.requestWriteAccess then idOf login.botUsername else -idOf login.botUsername)
        login.forwardText login.botUsername

def AsksForButton (idOf : Username → UserId) (item : JsonValue) (button : InlineKeyboardButton Username) : Prop :=
  match item with
  | .object object => AsksForType idOf object button.type
  | _ => False

def AsksForRow (idOf : Username → UserId) (row : JsonValue) (buttons : List (InlineKeyboardButton Username)) : Prop :=
  match row with
  | .array items => List.Forall₂ (AsksForButton idOf) items buttons
  | .null => buttons = []
  | _ => False

def AsksForRows (idOf : Username → UserId) (object : JsonObject) (rows : InlineKeyboard Username) : Prop :=
  match extractOptionalField object "inline_keyboard" .array with
  | .ok (.array items) => List.Forall₂ (AsksForRow idOf) items rows
  | .ok _ => rows = []
  | .error _ => False

def AsksForKeyboard {KeyboardButton : Type} (readers : Readers KeyboardButton) (idOf : Username → UserId)
    (argument : String) (rows : InlineKeyboard Username) : Prop :=
  match readers.jsonDecode argument with
  | some (.object object) => AsksForRows idOf object rows
  | _ => False

def keyboardLogins (rows : InlineKeyboard Username) : List (Username × UserId) :=
  rows.flatMap (fun row => row.flatMap (fun button => button.type.logins))

theorem related_of_mem {α β : Type} {relation : α → β → Prop} (sources : List α) (values : List β)
    (related : List.Forall₂ relation sources values) (value : β) (member : value ∈ values) :
    ∃ source ∈ sources, relation source value := by
  induction related with
  | nil => cases member
  | cons holds _ ih =>
      rcases List.mem_cons.1 member with rfl | rest
      · exact ⟨_, List.mem_cons_self, holds⟩
      · obtain ⟨source, inside, relates⟩ := ih rest
        exact ⟨source, List.mem_cons_of_mem _ inside, relates⟩

theorem related_imp {α β : Type} {first last : α → β → Prop} (sources : List α) (values : List β)
    (related : List.Forall₂ first sources values)
    (implies : ∀ source value, value ∈ values → first source value → last source value) :
    List.Forall₂ last sources values := by
  induction related with
  | nil => exact .nil
  | cons holds _ ih =>
      exact .cons (implies _ _ List.mem_cons_self holds)
        (ih (fun source value member => implies source value (List.mem_cons_of_mem _ member)))

theorem login_username (rows : InlineKeyboard Username) (login : Username × UserId) (member : login ∈ keyboardLogins rows)
    (named : login.1 ≠ "") : login.1 ∈ keyboardUsernames rows := by
  obtain ⟨row, inRows, inRow⟩ := List.mem_flatMap.1 member
  obtain ⟨button, inButtons, own⟩ := List.mem_flatMap.1 inRow
  refine List.mem_flatMap.2 ⟨row, inRows, List.mem_flatMap.2 ⟨button, inButtons, ?_⟩⟩
  cases type : button.type with
  | loginUrl url id forwardText botUsername =>
      rw [type] at own
      cases List.mem_singleton.1 own
      rw [InlineKeyboardButtonType.usernames, if_neg named]
      exact List.mem_singleton.2 rfl
  | _ =>
      rw [type] at own
      cases own

-- Ids that are not multiples of 1000 are those of the bots.
structure IdsSound (real : Username → UserId) (ids : BotUserIds) : Prop where
  default : 0 < ids.defaultBotUserId
  counter : 0 < ids.curTempBotUserId
  positive : ∀ username, 0 ≤ ids.botUserIds username
  real : ∀ username, ids.botUserIds username % 1000 ≠ 0 → ids.botUserIds username = real username
  distinct : ids.unresolvedBotUsernames.Nodup

structure Grows (real : Username → UserId) (before after : BotUserIds) : Prop where
  sound : IdsSound real before → IdsSound real after
  default : after.defaultBotUserId = before.defaultBotUserId
  kept : ∀ username, before.botUserIds username ≠ 0 → after.botUserIds username = before.botUserIds username

section Growth

variable (real : Username → UserId)

theorem grows_refl (ids : BotUserIds) : Grows real ids ids := ⟨id, rfl, fun _ _ => rfl⟩

theorem grows_trans (first middle last : BotUserIds) (begins : Grows real first middle) (continues : Grows real middle last) :
    Grows real first last := by
  refine ⟨fun sound => continues.sound (begins.sound sound), continues.default.trans begins.default, fun username known => ?_⟩
  have same := begins.kept username known
  exact (continues.kept username (same ▸ known)).trans same

theorem grows_set (before : BotUserIds) (names : List Username) (distinct : before.unresolvedBotUsernames.Nodup → names.Nodup) :
    Grows real before { before with unresolvedBotUsernames := names } :=
  ⟨fun sound => ⟨sound.default, sound.counter, sound.positive, sound.real, distinct sound.distinct⟩, rfl, fun _ _ => rfl⟩

theorem temporary_grows (username : Username) (ids : BotUserIds) (unknown : ids.botUserIds username = 0) :
    Grows real ids
      { ids with botUserIds := Function.update ids.botUserIds username (ids.curTempBotUserId * 1000)
                 curTempBotUserId := ids.curTempBotUserId + 1 } := by
  refine ⟨fun sound => ⟨sound.default, ?_, fun other => ?_, fun other odd => ?_, sound.distinct⟩, rfl, fun other known => ?_⟩
  · exact Int.lt_trans sound.counter (Int.lt_succ _)
  · by_cases same : other = username
    · simp only [same, Function.update_self]
      exact Int.mul_nonneg (Int.le_of_lt sound.counter) (by decide)
    · simpa only [Function.update_of_ne same] using sound.positive other
  · by_cases same : other = username
    · simp [same] at odd
    · simp only [Function.update_of_ne same] at odd ⊢
      exact sound.real other odd
  · have same : other ≠ username := fun same => known (same ▸ unknown)
    exact Function.update_of_ne same _ _

theorem bot_user_id_grows (username : Username) (ids : BotUserIds) : Grows real ids (botUserId username ids).2 := by
  by_cases unknown : ids.botUserIds username = 0
  · simp only [botUserId, if_pos unknown]
    have fresh := temporary_grows real username ids unknown
    split
    · exact grows_trans real _ _ _ fresh (grows_set real _ _ List.Nodup.insert)
    · exact fresh
  · simp only [botUserId, if_neg unknown]
    split
    · exact grows_set real _ _ List.Nodup.insert
    · exact grows_refl real ids

theorem bot_user_id_known (username : Username) (ids : BotUserIds) (sound : IdsSound real ids) :
    (botUserId username ids).1 = (botUserId username ids).2.botUserIds username ∧
      (botUserId username ids).2.botUserIds username ≠ 0 := by
  have temporary : ids.curTempBotUserId * 1000 ≠ 0 := Int.mul_ne_zero (Int.ne_of_gt sound.counter) (by decide)
  by_cases unknown : ids.botUserIds username = 0
  · simp only [botUserId, if_pos unknown]
    split
    · exact ⟨rfl, by simpa only [Function.update_self] using temporary⟩
    · exact ⟨rfl, by simpa only [Function.update_self] using temporary⟩
  · simp only [botUserId, if_neg unknown]
    split
    · exact ⟨rfl, unknown⟩
    · exact ⟨rfl, unknown⟩

theorem login_button_grows (login : LoginUrl) (ids : BotUserIds) : Grows real ids (loginButtonType login ids).2 := by
  by_cases own : login.botUsername = ""
  · simpa only [loginButtonType, if_pos own] using grows_refl real ids
  · simpa only [loginButtonType, if_neg own] using bot_user_id_grows real login.botUsername ids

theorem button_type_grows (object : JsonObject) (before : BotUserIds) :
    Grows real before (getInlineKeyboardButtonType object before).2 := by
  unfold getInlineKeyboardButtonType
  cases readButtonType object with
  | error status => exact grows_refl real before
  | ok found =>
      cases found with
      | inl plain => exact grows_refl real before
      | inr login => exact login_button_grows real login before

theorem parse_all_grows {α β : Type} (parse : α → BotUserIds → Result β × BotUserIds)
    (one : ∀ item before, Grows real before (parse item before).2) (items : List α) (before : BotUserIds) :
    Grows real before (parseAll parse items before).2 := by
  induction items generalizing before with
  | nil => exact grows_refl real before
  | cons item rest ih =>
      have head := one item before
      rw [parseAll]
      rcases parsed : parse item before with ⟨status | value, middle⟩
      · rw [parsed] at head
        exact head
      · rw [parsed] at head
        have tail := ih middle
        dsimp only
        rcases others : parseAll parse rest middle with ⟨status | values, last⟩ <;> rw [others] at tail
        · exact grows_trans real _ _ _ head tail
        · exact grows_trans real _ _ _ head tail

theorem array_generic_grows {α : Type} (className : String) (func : JsonValue → BotUserIds → Result α × BotUserIds)
    (one : ∀ item before, Grows real before (func item before).2) (value : JsonValue) (before : BotUserIds) :
    Grows real before (getArrayGeneric className func value before).2 := by
  cases value with
  | array items =>
      have inner := parse_all_grows real func one items before
      rw [getArrayGeneric]
      rcases parsed : parseAll func items before with ⟨status | values, last⟩ <;> rw [parsed] at inner
      · exact inner
      · exact inner
  | _ => exact grows_refl real before

section Markup

variable {KeyboardButton : Type} (readers : Readers KeyboardButton)

theorem button_grows (button : JsonValue) (before : BotUserIds) :
    Grows real before (getInlineKeyboardButton readers button before).2 := by
  cases button with
  | object object =>
      rw [getInlineKeyboardButton]
      cases readButtonFields readers object with
      | error status => exact grows_refl real before
      | ok fields =>
          have inner := button_type_grows real object before
          dsimp only
          rcases parsed : getInlineKeyboardButtonType object before with ⟨status | type, last⟩ <;> rw [parsed] at inner
          · exact inner
          · exact inner
  | _ => exact grows_refl real before

theorem inline_rows_grows (object : JsonObject) (before : BotUserIds) :
    Grows real before (getInlineRows readers object before).2 := by
  unfold getInlineRows
  split
  · exact grows_refl real before
  · exact parse_all_grows real _ (array_generic_grows real _ _ (button_grows real readers)) _ before
  · exact grows_refl real before

theorem reply_markup_value_grows (value : JsonValue) (before : BotUserIds) :
    Grows real before (getReplyMarkupValue readers value before).2 := by
  cases value with
  | object object =>
      rw [getReplyMarkupValue]
      cases getKeyboardRows readers object with
      | error status => exact grows_refl real before
      | ok rows =>
          have inner := inline_rows_grows real readers object before
          dsimp only
          rcases parsed : getInlineRows readers object before with ⟨status | inlineRows, last⟩ <;> rw [parsed] at inner
          · exact inner
          · dsimp only
            cases chooseReplyMarkup object rows inlineRows with
            | error status => exact inner
            | ok markup =>
                dsimp only
                split
                · exact inner
                · exact grows_trans real _ _ _ inner (grows_set real last [] (fun _ => List.nodup_nil))
  | _ => exact grows_refl real before

theorem reply_markup_grows (argument : String) (before : BotUserIds) :
    Grows real before (getReplyMarkup readers argument before).2 := by
  unfold getReplyMarkup
  split
  · exact grows_refl real before
  · cases readers.jsonDecode argument with
    | none => exact grows_refl real before
    | some value => exact reply_markup_value_grows real readers value before

theorem query_result_value_grows (value : JsonValue) (before : BotUserIds) :
    Grows real before (getInlineQueryResultValue readers value before).2 := by
  cases value with
  | object object =>
      have inner : Grows real before (getInlineQueryResultMarkup readers object before).2 := by
        unfold getInlineQueryResultMarkup
        split
        · exact grows_refl real before
        · exact grows_refl real before
        · exact reply_markup_value_grows real readers _ before
      rw [getInlineQueryResultValue]
      cases readers.readResultHead object with
      | error status => exact grows_refl real before
      | ok =>
          dsimp only
          rcases parsed : getInlineQueryResultMarkup readers object before with ⟨status | markup, last⟩ <;> rw [parsed] at inner
          · exact inner
          · dsimp only
            cases readers.readResultTail object with
            | error status => exact inner
            | ok => exact inner
  | _ => exact grows_refl real before

theorem query_result_grows (argument : String) (before : BotUserIds) :
    Grows real before (getInlineQueryResult readers argument before).2 := by
  unfold getInlineQueryResult
  split
  · exact grows_refl real before
  · cases readers.jsonDecode argument with
    | none => exact grows_refl real before
    | some value =>
        have inner := query_result_value_grows real readers value before
        dsimp only
        rcases parsed : getInlineQueryResultValue readers value before with ⟨status | result, last⟩ <;> rw [parsed] at inner
        · exact inner
        · exact inner

theorem query_results_grows (argument : String) (before : BotUserIds) :
    Grows real before (getInlineQueryResults readers argument before).2 := by
  unfold getInlineQueryResults
  split
  · exact grows_refl real before
  · cases readers.jsonDecode argument with
    | none => exact grows_refl real before
    | some value => exact array_generic_grows real _ _ (query_result_value_grows real readers) value before

end Markup

section Asking

def BotUserIds.Named (ids : BotUserIds) (username : Username) : Prop := username = "" ∨ ids.botUserIds username ≠ 0

theorem grown_named (before after : BotUserIds) (grows : Grows real before after) (username : Username)
    (named : before.Named username) : after.Named username ∧ after.idOf username = before.idOf username := by
  rcases named with own | known
  · exact ⟨.inl own, by simp only [BotUserIds.idOf, if_pos own, grows.default]⟩
  · have same := grows.kept username known
    refine ⟨.inr (same ▸ known), ?_⟩
    unfold BotUserIds.idOf
    rw [same, grows.default]

structure Placed (ids : BotUserIds) (item : JsonValue) (button : InlineKeyboardButton Username) : Prop where
  asks : AsksForButton ids.idOf item button
  named : ∀ login ∈ button.type.logins, ids.Named login.1

def PlacedRow (ids : BotUserIds) (row : JsonValue) (buttons : List (InlineKeyboardButton Username)) : Prop :=
  match row with
  | .array items => List.Forall₂ (Placed ids) items buttons
  | .null => buttons = []
  | _ => False

theorem asks_type_congr (first last : Username → UserId) (object : JsonObject) (type : InlineKeyboardButtonType Username)
    (same : ∀ login ∈ type.logins, first login.1 = last login.1) (asks : AsksForType first object type) :
    AsksForType last object type := by
  unfold AsksForType at asks ⊢
  cases read : readButtonType object with
  | error status =>
      rw [read] at asks
      exact asks
  | ok found =>
      rw [read] at asks
      cases found with
      | inl plain => exact asks
      | inr login =>
          dsimp only at asks ⊢
          have equal : first login.botUsername = last login.botUsername := by
            apply same (login.botUsername, _)
            rw [asks]
            exact List.mem_singleton.2 rfl
          rw [asks, equal]

theorem asks_button_congr (first last : Username → UserId) (item : JsonValue) (button : InlineKeyboardButton Username)
    (same : ∀ login ∈ button.type.logins, first login.1 = last login.1) (asks : AsksForButton first item button) :
    AsksForButton last item button := by
  cases item with
  | object object => exact asks_type_congr first last object button.type same asks
  | _ => exact asks

theorem placed_grows (before after : BotUserIds) (grows : Grows real before after) (item : JsonValue)
    (button : InlineKeyboardButton Username) (placed : Placed before item button) : Placed after item button := by
  refine ⟨?_, fun login member => (grown_named real before after grows login.1 (placed.named login member)).1⟩
  apply asks_button_congr before.idOf after.idOf item button _ placed.asks
  intro login member
  exact (grown_named real before after grows login.1 (placed.named login member)).2.symm

theorem placed_row_grows (before after : BotUserIds) (grows : Grows real before after) (row : JsonValue)
    (buttons : List (InlineKeyboardButton Username)) (placed : PlacedRow before row buttons) : PlacedRow after row buttons := by
  cases row with
  | array items => exact placed.imp (placed_grows real before after grows)
  | _ => exact placed

theorem button_type_placed (object : JsonObject) (before after : BotUserIds) (type : InlineKeyboardButtonType Username)
    (sound : IdsSound real before) (parsed : getInlineKeyboardButtonType object before = (.ok type, after)) :
    AsksForType after.idOf object type ∧ ∀ login ∈ type.logins, after.Named login.1 := by
  have plain := read_button_type_plain object
  unfold AsksForType
  cases read : readButtonType object with
  | error status => simp [getInlineKeyboardButtonType, read] at parsed
  | ok found =>
      rw [read] at plain
      cases found with
      | inl found =>
          simp only [getInlineKeyboardButtonType, read, Prod.mk.injEq, Except.ok.injEq] at parsed
          obtain ⟨rfl, rfl⟩ := parsed
          refine ⟨rfl, fun login member => ?_⟩
          rw [plain found rfl] at member
          cases member
      | inr login =>
          simp only [getInlineKeyboardButtonType, read, Prod.mk.injEq, Except.ok.injEq] at parsed
          obtain ⟨rfl, rfl⟩ := parsed
          by_cases own : login.botUsername = ""
          · simp only [loginButtonType, if_pos own, BotUserIds.idOf, InlineKeyboardButtonType.logins]
            exact ⟨trivial, fun _ member => .inl (by rw [List.mem_singleton.1 member]; exact own)⟩
          · obtain ⟨same, known⟩ := bot_user_id_known real login.botUsername before sound
            simp only [loginButtonType, if_neg own, BotUserIds.idOf, InlineKeyboardButtonType.logins, same]
            exact ⟨trivial, fun _ member => .inr (by rw [List.mem_singleton.1 member]; exact known)⟩

theorem parse_all_placed {α β : Type} (relates : BotUserIds → α → β → Prop)
    (stable : ∀ before after item value, Grows real before after → relates before item value → relates after item value)
    (parse : α → BotUserIds → Result β × BotUserIds) (grows : ∀ item before, Grows real before (parse item before).2)
    (one : ∀ item before value after, IdsSound real before → parse item before = (.ok value, after) → relates after item value)
    (items : List α) (before after : BotUserIds) (values : List β) (sound : IdsSound real before)
    (parsed : parseAll parse items before = (.ok values, after)) : List.Forall₂ (relates after) items values := by
  induction items generalizing before values with
  | nil =>
      simp only [parseAll, Prod.mk.injEq, Except.ok.injEq] at parsed
      obtain ⟨rfl, rfl⟩ := parsed
      exact .nil
  | cons item rest ih =>
      have head := grows item before
      rw [parseAll] at parsed
      rcases first : parse item before with ⟨status | value, middle⟩
      · simp [first] at parsed
      · rw [first] at head
        have tail := parse_all_grows real parse grows rest middle
        rcases others : parseAll parse rest middle with ⟨status | found, last⟩
        · simp [first, others] at parsed
        · simp only [first, others, Prod.mk.injEq, Except.ok.injEq] at parsed
          obtain ⟨rfl, rfl⟩ := parsed
          rw [others] at tail
          exact .cons (stable middle last item value tail (one item before value middle sound first))
            (ih middle found (head.sound sound) others)

variable {KeyboardButton : Type} (readers : Readers KeyboardButton)

theorem button_placed (item : JsonValue) (before : BotUserIds) (button : InlineKeyboardButton Username) (after : BotUserIds)
    (sound : IdsSound real before) (parsed : getInlineKeyboardButton readers item before = (.ok button, after)) :
    Placed after item button := by
  cases item with
  | object object =>
      cases fields : readButtonFields readers object with
      | error status => simp [getInlineKeyboardButton, fields] at parsed
      | ok found =>
          rcases inner : getInlineKeyboardButtonType object before with ⟨status | type, last⟩
          · simp [getInlineKeyboardButton, fields, inner] at parsed
          · simp only [getInlineKeyboardButton, fields, inner, Prod.mk.injEq, Except.ok.injEq] at parsed
            obtain ⟨rfl, rfl⟩ := parsed
            obtain ⟨asks, named⟩ := button_type_placed real object before last type sound inner
            exact ⟨asks, named⟩
  | _ => simp [getInlineKeyboardButton] at parsed

theorem row_placed (row : JsonValue) (before : BotUserIds) (buttons : List (InlineKeyboardButton Username)) (after : BotUserIds)
    (sound : IdsSound real before)
    (parsed : getArrayGeneric "InlineKeyboardButton" (getInlineKeyboardButton readers) row before = (.ok buttons, after)) :
    PlacedRow after row buttons := by
  cases row with
  | array items =>
      rcases inner : parseAll (getInlineKeyboardButton readers) items before with ⟨status | found, last⟩
      · simp [getArrayGeneric, inner] at parsed
      · simp only [getArrayGeneric, inner, Prod.mk.injEq, Except.ok.injEq] at parsed
        obtain ⟨rfl, rfl⟩ := parsed
        exact parse_all_placed real Placed (fun before after item button grows =>
          placed_grows real before after grows item button)
          _ (button_grows real readers) (button_placed real readers) items before last found sound inner
  | null =>
      simp only [getArrayGeneric, Prod.mk.injEq, Except.ok.injEq] at parsed
      exact parsed.1.symm
  | _ => simp [getArrayGeneric] at parsed

def PlacedRows (ids : BotUserIds) (object : JsonObject) (rows : InlineKeyboard Username) : Prop :=
  match extractOptionalField object "inline_keyboard" .array with
  | .ok (.array items) => List.Forall₂ (PlacedRow ids) items rows
  | .ok _ => rows = []
  | .error _ => False

theorem placed_rows_asks (ids : BotUserIds) (object : JsonObject) (rows : InlineKeyboard Username)
    (placed : PlacedRows ids object rows) :
    AsksForRows ids.idOf object rows ∧ ∀ login ∈ keyboardLogins rows, ids.Named login.1 := by
  have row (source : JsonValue) (buttons : List (InlineKeyboardButton Username)) (placed : PlacedRow ids source buttons) :
      AsksForRow ids.idOf source buttons ∧ ∀ button ∈ buttons, ∀ login ∈ button.type.logins, ids.Named login.1 := by
    cases source with
    | array items =>
        refine ⟨placed.imp (fun _ _ one => one.asks), fun button inside => ?_⟩
        obtain ⟨item, _, one⟩ := related_of_mem items buttons placed button inside
        exact one.named
    | null =>
        cases placed
        exact ⟨rfl, fun _ inside => by cases inside⟩
    | _ => exact placed.elim
  unfold PlacedRows at placed
  unfold AsksForRows
  cases extracted : extractOptionalField object "inline_keyboard" .array with
  | error status =>
      rw [extracted] at placed
      exact placed.elim
  | ok value =>
      rw [extracted] at placed
      cases value with
      | array items =>
          refine ⟨placed.imp (fun source buttons one => (row source buttons one).1), fun login member => ?_⟩
          obtain ⟨buttons, inRows, inRow⟩ := List.mem_flatMap.1 member
          obtain ⟨button, inButtons, named⟩ := List.mem_flatMap.1 inRow
          obtain ⟨source, _, one⟩ := related_of_mem items rows placed buttons inRows
          exact (row source buttons one).2 button inButtons login named
      | _ =>
          cases placed
          exact ⟨rfl, fun _ member => by cases member⟩

theorem rows_placed (object : JsonObject) (before after : BotUserIds) (rows : InlineKeyboard Username)
    (sound : IdsSound real before)
    (parsed : getInlineRows readers object before = (.ok rows, after)) : PlacedRows after object rows := by
  unfold PlacedRows
  cases extracted : extractOptionalField object "inline_keyboard" .array with
  | error status => simp [getInlineRows, extracted] at parsed
  | ok value =>
      cases value with
      | array items =>
          simp only [getInlineRows, extracted] at parsed
          exact parse_all_placed real PlacedRow
            (fun before after row buttons grows => placed_row_grows real before after grows row buttons) _
            (array_generic_grows real _ _ (button_grows real readers))
            (row_placed real readers) items before after rows sound parsed
      | _ =>
          simp only [getInlineRows, extracted, Prod.mk.injEq, Except.ok.injEq] at parsed
          exact parsed.1.symm

theorem inline_keyboard_collects (argument : String) (before after : BotUserIds) (rows : InlineKeyboard Username)
    (parsed : getReplyMarkup readers argument before = (.ok (some (.inlineKeyboard rows)), after)) :
    Collects before after (keyboardUsernames rows) := by
  unfold getReplyMarkup at parsed
  split at parsed
  · cases parsed
  · cases decoded : readers.jsonDecode argument with
    | none => simp [decoded] at parsed
    | some value =>
        simp only [decoded] at parsed
        exact (reply_markup_value_parsed readers value before after _ parsed).inline rfl

theorem reply_markup_value_placed (value : JsonValue) (before after : BotUserIds) (rows : InlineKeyboard Username)
    (sound : IdsSound real before)
    (parsed : getReplyMarkupValue readers value before = (.ok (some (.inlineKeyboard rows)), after)) :
    ∃ object, value = .object object ∧ PlacedRows after object rows := by
  cases value with
  | object object =>
      refine ⟨object, rfl, ?_⟩
      rw [getReplyMarkupValue] at parsed
      cases rowsRead : getKeyboardRows readers object with
      | error status => simp [rowsRead] at parsed
      | ok keyboardRows =>
          rcases inner : getInlineRows readers object before with ⟨status | inlineRows, last⟩
          · simp [rowsRead, inner] at parsed
          · have placed := rows_placed real readers object before last inlineRows sound inner
            cases chosen : chooseReplyMarkup object keyboardRows inlineRows with
            | error status => simp [rowsRead, inner, chosen] at parsed
            | ok found =>
                have shown := meets_returns _ _ _ found (choose_inline_keyboard object keyboardRows inlineRows) chosen
                simp only [rowsRead, inner, chosen, Prod.mk.injEq, Except.ok.injEq] at parsed
                obtain ⟨rfl, same⟩ := parsed
                cases shown rows rfl
                simp only [isInlineKeyboard, if_true] at same
                rwa [← same]
  | _ => simp [getReplyMarkupValue] at parsed

theorem reply_markup_placed (argument : String) (before after : BotUserIds) (rows : InlineKeyboard Username)
    (sound : IdsSound real before)
    (parsed : getReplyMarkup readers argument before = (.ok (some (.inlineKeyboard rows)), after)) :
    ∃ object, readers.jsonDecode argument = some (.object object) ∧ PlacedRows after object rows := by
  unfold getReplyMarkup at parsed
  split at parsed
  · cases parsed
  · cases decoded : readers.jsonDecode argument with
    | none => simp [decoded] at parsed
    | some value =>
        simp only [decoded] at parsed
        obtain ⟨object, rfl, placed⟩ := reply_markup_value_placed real readers value before after rows sound parsed
        exact ⟨object, rfl, placed⟩

end Asking

end Growth

-- The entry of temp_to_real_bot_user_id_ under which a button finds its bot.
def Ready (tempToReal : AList (fun _ : UserId => UserId)) (target key : UserId) : Prop :=
  0 < key ∧ if key % 1000 = 0 then tempToReal.lookup key = some target ∧ target ≠ 0 else key = target

section Fixing

variable (tempToReal : AList (fun _ : UserId => UserId)) (idOf target : Username → UserId)

theorem fix_button_id_ready (key bot : UserId) (write : Bool) (ready : Ready tempToReal bot key) :
    fixButtonId tempToReal (if write then key else -key) = .ok (if write then bot else -bot) := by
  obtain ⟨positive, found⟩ := ready
  have absolute : |(if write then key else -key)| = key := by
    cases write with
    | true => exact abs_of_pos positive
    | false => exact (abs_neg key).trans (abs_of_pos positive)
  have negative : (if write then key else -key) < 0 ↔ write = false := by
    cases write with
    | true => simpa using Int.le_of_lt positive
    | false => simpa using positive
  have divides : (if write then key else -key) % 1000 = 0 ↔ key % 1000 = 0 := by
    cases write with
    | true => exact Iff.rfl
    | false => exact ⟨fun zero => by simpa using zero, fun zero => by simpa using zero⟩
  unfold fixButtonId
  by_cases temporary : key % 1000 = 0
  · rw [if_pos temporary] at found
    rw [if_neg (not_not.2 (divides.2 temporary)), absolute, found.1]
    dsimp only
    rw [require_true _ _ found.2, ok_bind]
    cases write with
    | true => exact congrArg Except.ok (if_neg (fun below => absurd (negative.1 below) (by decide)))
    | false => exact congrArg Except.ok (if_pos (negative.2 rfl))
  · rw [if_neg temporary] at found
    rw [if_pos (fun zero => temporary (divides.1 zero)), found]

theorem fix_button_asks (item : JsonValue) (button : InlineKeyboardButton Username) (asks : AsksForButton idOf item button)
    (ready : ∀ login ∈ button.type.logins, Ready tempToReal (target login.1) (idOf login.1)) :
    ∃ fixed, fixButton tempToReal button = .ok fixed ∧ AsksForButton target item fixed := by
  cases item with
  | object object =>
      have plain := read_button_type_plain object
      change AsksForType idOf object button.type at asks
      unfold AsksForType at asks
      cases read : readButtonType object with
      | error status =>
          rw [read] at asks
          exact asks.elim
      | ok found =>
          rw [read] at asks plain
          cases found with
          | inl type =>
              have none : button.type.logins = [] := by
                rw [show button.type = type from asks]
                exact plain type rfl
              refine ⟨button, ?_, ?_⟩
              · unfold fixButton
                split
                · rename_i same
                  rw [same] at none
                  cases none
                · rfl
              · simp only [AsksForButton, AsksForType, read]
                exact asks
          | inr login =>
              dsimp only at asks
              have entry := ready (login.botUsername, _) (by rw [asks]; exact List.mem_singleton.2 rfl)
              refine ⟨⟨button.text, button.iconCustomEmojiId, button.style, .loginUrl login.url
                (if login.requestWriteAccess then target login.botUsername else -target login.botUsername)
                login.forwardText login.botUsername⟩, ?_, ?_⟩
              · unfold fixButton
                rw [asks]
                dsimp only
                rw [fix_button_id_ready tempToReal _ _ login.requestWriteAccess entry, ok_bind]
                rfl
              · simp only [AsksForButton, AsksForType, read]
  | _ => exact asks.elim

theorem fix_rows_asks (object : JsonObject) (rows : InlineKeyboard Username) (asks : AsksForRows idOf object rows)
    (ready : ∀ login ∈ keyboardLogins rows, Ready tempToReal (target login.1) (idOf login.1)) :
    ∃ fixed, rows.mapM (fun row => row.mapM (fixButton tempToReal)) = .ok fixed ∧ AsksForRows target object fixed := by
  have row (source : JsonValue) (buttons : List (InlineKeyboardButton Username)) (member : buttons ∈ rows)
      (asks : AsksForRow idOf source buttons) :
      ∃ fixed, buttons.mapM (fixButton tempToReal) = .ok fixed ∧ AsksForRow target source fixed := by
    cases source with
    | array items =>
        refine mapM_related (AsksForButton idOf) (AsksForButton target) _ items buttons asks (fun item button inside asks => ?_)
        refine fix_button_asks tempToReal idOf target item button asks (fun login named => ready login ?_)
        exact List.mem_flatMap.2 ⟨buttons, member, List.mem_flatMap.2 ⟨button, inside, named⟩⟩
    | null =>
        cases asks
        exact ⟨[], rfl, rfl⟩
    | _ => exact asks.elim
  unfold AsksForRows at asks ⊢
  cases extracted : extractOptionalField object "inline_keyboard" .array with
  | error status =>
      rw [extracted] at asks
      exact asks.elim
  | ok value =>
      rw [extracted] at asks
      cases value with
      | array items => exact mapM_related (AsksForRow idOf) (AsksForRow target) _ items rows asks row
      | _ =>
          cases asks
          exact ⟨[], rfl, rfl⟩

theorem asks_rows_congr (object : JsonObject) (rows : InlineKeyboard Username)
    (same : ∀ login ∈ keyboardLogins rows, idOf login.1 = target login.1) (asks : AsksForRows idOf object rows) :
    AsksForRows target object rows := by
  have row (source : JsonValue) (buttons : List (InlineKeyboardButton Username)) (member : buttons ∈ rows)
      (asks : AsksForRow idOf source buttons) : AsksForRow target source buttons := by
    cases source with
    | array items =>
        refine related_imp items buttons asks (fun item button inside asks => ?_)
        refine asks_button_congr idOf target item button (fun login named => same login ?_) asks
        exact List.mem_flatMap.2 ⟨buttons, member, List.mem_flatMap.2 ⟨button, inside, named⟩⟩
    | _ => exact asks
  unfold AsksForRows at asks ⊢
  cases extracted : extractOptionalField object "inline_keyboard" .array with
  | error status =>
      rw [extracted] at asks
      exact asks.elim
  | ok value =>
      rw [extracted] at asks
      cases value with
      | array items => exact related_imp items rows asks row
      | _ => exact asks

theorem asked_id (object : JsonObject) (rows : InlineKeyboard Username) (asks : AsksForRows idOf object rows)
    (login : Username × UserId) (member : login ∈ keyboardLogins rows) : login.2 = idOf login.1 ∨ login.2 = -idOf login.1 := by
  obtain ⟨row, inRows, inRow⟩ := List.mem_flatMap.1 member
  obtain ⟨button, inButtons, named⟩ := List.mem_flatMap.1 inRow
  have one (item : JsonValue) (asks : AsksForButton idOf item button) : login.2 = idOf login.1 ∨ login.2 = -idOf login.1 := by
    cases item with
    | object object =>
        have plain := read_button_type_plain object
        change AsksForType idOf object button.type at asks
        unfold AsksForType at asks
        cases read : readButtonType object with
        | error status =>
            rw [read] at asks
            exact asks.elim
        | ok found =>
            rw [read] at asks plain
            cases found with
            | inl type =>
                rw [show button.type = type from asks, plain type rfl] at named
                cases named
            | inr url =>
                rw [asks] at named
                rw [List.mem_singleton.1 named]
                cases url.requestWriteAccess with
                | true => exact .inl rfl
                | false => exact .inr rfl
    | _ => exact asks.elim
  have among (row : JsonValue) (buttons : List (InlineKeyboardButton Username)) (inside : button ∈ buttons)
      (asks : AsksForRow idOf row buttons) : login.2 = idOf login.1 ∨ login.2 = -idOf login.1 := by
    cases row with
    | array items =>
        obtain ⟨item, _, asked⟩ := related_of_mem items buttons asks button inside
        exact one item asked
    | null =>
        cases asks
        cases inside
    | _ => exact asks.elim
  unfold AsksForRows at asks
  cases extracted : extractOptionalField object "inline_keyboard" .array with
  | error status =>
      rw [extracted] at asks
      exact asks.elim
  | ok value =>
      rw [extracted] at asks
      cases value with
      | array items =>
          obtain ⟨item, _, asked⟩ := related_of_mem items rows asks row inRows
          exact among item row inButtons asked
      | _ =>
          cases asks
          cases inRows

end Fixing

end TelegramBotApi.BotUsernames
