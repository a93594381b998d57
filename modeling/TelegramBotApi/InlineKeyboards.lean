import TelegramBotApi.JsonFields
import TelegramBotApi.MessageMergeHistory
import TelegramBotApi.RichTextRoundTrip

set_option autoImplicit false

-- The inline keyboard of a message as the bot sees it, and what becomes of it when the bot
-- sends it back.
namespace TelegramBotApi.InlineKeyboards

open JsonObject
open BotUsernames (InlineKeyboardButtonType InlineKeyboardButton InlineKeyboard Username ButtonStyle TargetChat Readers
  BotUserIds getReplyMarkupValue getInlineKeyboardButton readButtonFields readButtonType getButtonStyle parseAll getArrayGeneric)
open Messages (areEqualInlineKeyboards MessageInfo)

section Printing

-- td::check_utf8; the data of a callback button is any sequence of bytes.
variable (checkUtf8 : String → Bool)

def jsonButtonStyle : ButtonStyle → JsonObject
  | .default => []
  | .primary => [("style", .string "primary")]
  | .danger => [("style", .string "danger")]
  | .success => [("style", .string "success")]

def callbackData (data : String) : String := if checkUtf8 data then data else "INVALID"

def userUrl (userId : Int) : String := "tg://user?id=" ++ toString userId

def jsonButtonType : InlineKeyboardButtonType Unit → JsonObject
  | .url url | .loginUrl url _ _ _ => [("url", .string url)]
  | .callback data | .callbackWithPassword data => [("callback_data", .string (callbackData checkUtf8 data))]
  | .callbackGame => [("callback_game", .object [])]
  | .switchInline query .current => [("switch_inline_query_current_chat", .string query)]
  | .switchInline query (.chosen allowUserChats allowBotChats allowGroupChats allowChannelChats) =>
      if allowUserChats && allowBotChats && allowGroupChats && allowChannelChats then [("switch_inline_query", .string query)]
      else [("switch_inline_query_chosen_chat", .object
        [("query", .string query), ("allow_user_chats", .boolean allowUserChats), ("allow_bot_chats", .boolean allowBotChats),
          ("allow_group_chats", .boolean allowGroupChats), ("allow_channel_chats", .boolean allowChannelChats)])]
  | .buy => [("pay", .boolean true)]
  | .user userId => [("url", .string (userUrl userId))]
  | .webApp url => [("web_app", .object [("url", .string url)])]
  | .copyText text => [("copy_text", .object [("text", .string text)])]

def jsonIcon (iconCustomEmojiId : Int64) : JsonObject :=
  if iconCustomEmojiId ≠ 0 then [("icon_custom_emoji_id", .string (toString iconCustomEmojiId.toInt))] else []

def jsonInlineKeyboardButton (button : InlineKeyboardButton Unit) : JsonObject :=
  [("text", JsonValue.string button.text)] ++ jsonIcon button.iconCustomEmojiId ++ jsonButtonStyle button.style ++
    jsonButtonType checkUtf8 button.type

def jsonInlineKeyboard (rows : InlineKeyboard Unit) : JsonValue :=
  .array (rows.map (fun row => .array (row.map (fun button => .object (jsonInlineKeyboardButton checkUtf8 button)))))

def jsonReplyMarkup (rows : InlineKeyboard Unit) : JsonValue := .object [("inline_keyboard", jsonInlineKeyboard checkUtf8 rows)]

end Printing

-- What the Bot API transports of a button: a login button and a button about a user are links,
-- the password of a callback button is left out, and a link or data that is empty is no button.
section Transport

variable (checkUtf8 : String → Bool)

def sentType : InlineKeyboardButtonType Unit → Option (InlineKeyboardButtonType Username)
  | .url url | .loginUrl url _ _ _ => if url = "" then none else some (.url url)
  | .callback data | .callbackWithPassword data =>
      if callbackData checkUtf8 data = "" then none else some (.callback (callbackData checkUtf8 data))
  | .callbackGame => some .callbackGame
  | .switchInline query target => some (.switchInline query target)
  | .buy => some .buy
  | .user userId => some (.url (userUrl userId))
  | .webApp url => some (.webApp url)
  | .copyText text => some (.copyText text)

def sentButton (button : InlineKeyboardButton Unit) : Option (InlineKeyboardButton Username) :=
  (sentType checkUtf8 button.type).map (⟨button.text, button.iconCustomEmojiId, button.style, ·⟩)

def Sendable (rows : InlineKeyboard Unit) : Prop := ∀ row ∈ rows, ∀ button ∈ row, (sentType checkUtf8 button.type).isSome = true

instance (rows : InlineKeyboard Unit) : Decidable (Sendable checkUtf8 rows) :=
  inferInstanceAs (Decidable (∀ row ∈ rows, ∀ button ∈ row, _ = true))

def received (rows : InlineKeyboard Username) : InlineKeyboard Unit := rows.map (List.map (.map fun _ => ()))

def transportedType : InlineKeyboardButtonType Unit → InlineKeyboardButtonType Unit
  | .loginUrl url _ _ _ => .url url
  | .callback data | .callbackWithPassword data => .callback (callbackData checkUtf8 data)
  | .user userId => .url (userUrl userId)
  | type => type

def transportedButton (button : InlineKeyboardButton Unit) : InlineKeyboardButton Unit :=
  { button with type := transportedType checkUtf8 button.type }

def transported (rows : InlineKeyboard Unit) : InlineKeyboard Unit := rows.map (List.map (transportedButton checkUtf8))

def FaithfulType : InlineKeyboardButtonType Unit → Prop
  | .callback data => callbackData checkUtf8 data = data
  | .loginUrl _ _ _ _ | .callbackWithPassword _ | .user _ => False
  | _ => True

def Faithful (rows : InlineKeyboard Unit) : Prop := ∀ row ∈ rows, ∀ button ∈ row, FaithfulType checkUtf8 button.type

end Transport

-- JsonObject::get_optional_long_field
structure ReadsLongs {KeyboardButton : Type} (readers : Readers KeyboardButton) : Prop where
  absent : ∀ object name, getField object name = none → readers.getOptionalLongField object name = .ok 0
  printed : ∀ object name (value : Int64), getField object name = some (.string (toString value.toInt)) →
    readers.getOptionalLongField object name = .ok value

section Reading

variable {KeyboardButton : Type} (readers : Readers KeyboardButton) (checkUtf8 : String → Bool)

@[simp] theorem get_field_icon (icon : Int64) (name : String) :
    getField (jsonIcon icon) name =
      if name = "icon_custom_emoji_id" ∧ icon ≠ 0 then some (.string (toString icon.toInt)) else none := by
  unfold jsonIcon
  by_cases zero : icon = 0 <;> simp [zero, eq_comm]

@[simp] theorem get_field_style (style : ButtonStyle) (name : String) (other : name ≠ "style") :
    getField (jsonButtonStyle style) name = none := by
  cases style <;> simp [jsonButtonStyle, other.symm]

def noText : Status := ⟨400, "Text buttons are unallowed in the inline keyboard"⟩

theorem type_silent (type : InlineKeyboardButtonType Unit) (name : String)
    (other : name = "icon_custom_emoji_id" ∨ name = "style") :
    getField (jsonButtonType checkUtf8 type) name = none := by
  cases type with
  | switchInline query target =>
      cases target with
      | current => rcases other with rfl | rfl <;> rfl
      | chosen users bots groups channels =>
          cases users <;> cases bots <;> cases groups <;> cases channels <;> rcases other with rfl | rfl <;> rfl
  | _ => rcases other with rfl | rfl <;> rfl

theorem read_style (style : ButtonStyle) (object : JsonObject)
    (found : getField object "style" = getField (jsonButtonStyle style) "style") :
    (getOptionalStringField object "style" >>= getButtonStyle) = .ok style := by
  rw [getOptionalStringField, found]
  cases style <;> decide

theorem button_fields (longs : ReadsLongs readers) (button : InlineKeyboardButton Unit) :
    readButtonFields readers (jsonInlineKeyboardButton checkUtf8 button) =
      .ok (button.text, button.iconCustomEmojiId, button.style) := by
  obtain ⟨text, icon, style, type⟩ := button
  have noIcon := type_silent checkUtf8 type _ (.inl rfl)
  have noStyle := type_silent checkUtf8 type _ (.inr rfl)
  have readText : getRequiredStringField (jsonInlineKeyboardButton checkUtf8 ⟨text, icon, style, type⟩) "text" = .ok text :=
    read_required_string _ _ _ (by simp [jsonInlineKeyboardButton])
  have readIcon : readers.getOptionalLongField (jsonInlineKeyboardButton checkUtf8 ⟨text, icon, style, type⟩)
      "icon_custom_emoji_id" = .ok icon := by
    by_cases zero : icon = 0
    · subst zero
      exact longs.absent _ _ (by simp [jsonInlineKeyboardButton, noIcon])
    · exact longs.printed _ _ _ (by simp [jsonInlineKeyboardButton, zero])
  have readStyle := read_style style (jsonInlineKeyboardButton checkUtf8 ⟨text, icon, style, type⟩)
    (by simp [jsonInlineKeyboardButton, noStyle])
  rw [readButtonFields, readText, Checked.ok_bind, readIcon, Checked.ok_bind, ← bind_assoc, readStyle]
  rfl

def typeFields : List String :=
  ["url", "callback_data", "callback_game", "pay", "switch_inline_query", "switch_inline_query_chosen_chat",
    "switch_inline_query_current_chat", "login_url", "web_app", "copy_text"]

theorem get_field_type (button : InlineKeyboardButton Unit) (name : String) (listed : name ∈ typeFields) :
    getField (jsonInlineKeyboardButton checkUtf8 button) name = getField (jsonButtonType checkUtf8 button.type) name := by
  have others : name ≠ "text" ∧ name ≠ "icon_custom_emoji_id" ∧ name ≠ "style" := by
    revert name
    decide
  simp [jsonInlineKeyboardButton, others.1.symm, others.2.1, others.2.2]

theorem read_button_type_congr (first last : JsonObject)
    (same : ∀ name ∈ typeFields, getField first name = getField last name) : readButtonType first = readButtonType last := by
  have optional (name : String) (listed : name ∈ typeFields) :
      getOptionalStringField first name = getOptionalStringField last name := by
    rw [getOptionalStringField, same name listed, getOptionalStringField]
  have required (name : String) (listed : name ∈ typeFields) :
      getRequiredStringField first name = getRequiredStringField last name := by
    rw [getRequiredStringField, same name listed, getRequiredStringField]
  have has (name : String) (listed : name ∈ typeFields) : hasField first name = hasField last name := by
    rw [hasField, same name listed, hasField]
  have extract (name : String) (listed : name ∈ typeFields) :
      extractRequiredObject first name = extractRequiredObject last name := by
    rw [extractRequiredObject, same name listed, extractRequiredObject]
  simp only [readButtonType, BotUsernames.readLoginUrl, BotUsernames.readSwitchInlineChosen,
    optional "url" (by decide), optional "callback_data" (by decide), has "callback_game" (by decide), has "pay" (by decide),
    has "switch_inline_query" (by decide), required "switch_inline_query" (by decide),
    has "switch_inline_query_chosen_chat" (by decide), extract "switch_inline_query_chosen_chat" (by decide),
    has "switch_inline_query_current_chat" (by decide), required "switch_inline_query_current_chat" (by decide),
    has "login_url" (by decide), extract "login_url" (by decide), has "web_app" (by decide), extract "web_app" (by decide),
    has "copy_text" (by decide), extract "copy_text" (by decide)]

def orFail {α : Type} (status : Status) : Option α → Result α
  | some value => .ok value
  | none => .error status

theorem link_type (url : String) :
    readButtonType [("url", .string url)] = if url = "" then .error noText else .ok (.inl (.url url)) := by
  by_cases empty : url = ""
  · subst empty
    rfl
  · simp [readButtonType, getOptionalStringField, empty]
    rfl

theorem data_type (data : String) :
    readButtonType [("callback_data", .string data)] = if data = "" then .error noText else .ok (.inl (.callback data)) := by
  by_cases empty : data = ""
  · subst empty
    rfl
  · simp [readButtonType, getOptionalStringField, empty]
    rfl

theorem user_url_nonempty (userId : Int) : userUrl userId ≠ "" := by
  simp [userUrl]

theorem button_type (button : InlineKeyboardButton Unit) :
    readButtonType (jsonInlineKeyboardButton checkUtf8 button) =
      (orFail noText (sentType checkUtf8 button.type)).map .inl := by
  rw [read_button_type_congr _ _ (get_field_type checkUtf8 button)]
  cases button.type with
  | url url | loginUrl url _ _ _ =>
      simp only [jsonButtonType, link_type, sentType]
      split <;> rfl
  | callback data | callbackWithPassword data =>
      simp only [jsonButtonType, data_type, sentType]
      split <;> rfl
  | user userId =>
      simp only [jsonButtonType, link_type, sentType, if_neg (user_url_nonempty userId)]
      rfl
  | switchInline query target =>
      cases target with
      | current => rfl
      | chosen users bots groups channels => cases users <;> cases bots <;> cases groups <;> cases channels <;> rfl
  | callbackGame | buy | webApp _ | copyText _ => rfl

theorem button_read (longs : ReadsLongs readers) (button : InlineKeyboardButton Unit) (ids : BotUserIds) :
    getInlineKeyboardButton readers (.object (jsonInlineKeyboardButton checkUtf8 button)) ids =
      (orFail noText (sentButton checkUtf8 button), ids) := by
  rw [getInlineKeyboardButton, button_fields readers checkUtf8 longs button]
  simp only [BotUsernames.getInlineKeyboardButtonType, button_type, sentButton]
  cases sentType checkUtf8 button.type <;> rfl

theorem parse_all_sent {α β : Type} (parse : JsonValue → BotUserIds → Result β × BotUserIds) (print : α → JsonValue)
    (sent : α → Option β) (status : Status) (ids : BotUserIds)
    (each : ∀ item, parse (print item) ids = (orFail status (sent item), ids)) (items : List α) :
    parseAll parse (items.map print) ids = (orFail status (items.mapM sent), ids) := by
  induction items with
  | nil => rfl
  | cons item items ih =>
      rw [List.map_cons, parseAll, each, List.mapM_cons]
      cases sent item with
      | none => rfl
      | some value =>
          simp only [orFail, ih]
          cases items.mapM sent <;> rfl

def cantParse : Status := ⟨400, "Can't parse InlineKeyboardButton: Text buttons are unallowed in the inline keyboard"⟩

def sentRow (row : List (InlineKeyboardButton Unit)) : Option (List (InlineKeyboardButton Username)) :=
  row.mapM (sentButton checkUtf8)

def sentRows (rows : InlineKeyboard Unit) : Option (InlineKeyboard Username) := rows.mapM (sentRow checkUtf8)

theorem row_read (longs : ReadsLongs readers) (row : List (InlineKeyboardButton Unit)) (ids : BotUserIds) :
    getArrayGeneric "InlineKeyboardButton" (getInlineKeyboardButton readers)
      (.array (row.map (fun button => .object (jsonInlineKeyboardButton checkUtf8 button)))) ids =
      (orFail cantParse (sentRow checkUtf8 row), ids) := by
  rw [getArrayGeneric, parse_all_sent (getInlineKeyboardButton readers) _ (sentButton checkUtf8) noText ids
    (fun button => button_read readers checkUtf8 longs button ids)]
  unfold sentRow
  cases row.mapM (sentButton checkUtf8) <;> rfl

theorem rows_read (longs : ReadsLongs readers) (rows : InlineKeyboard Unit) (ids : BotUserIds) :
    BotUsernames.getInlineRows readers [("inline_keyboard", jsonInlineKeyboard checkUtf8 rows)] ids =
      (orFail cantParse (sentRows checkUtf8 rows), ids) :=
  parse_all_sent _ _ (sentRow checkUtf8) cantParse ids (fun row => row_read readers checkUtf8 longs row ids) rows

end Reading

section Sending

variable {α β γ : Type} (sent : α → Option β)

theorem sent_all_iff (items : List α) :
    (items.mapM sent).isSome = true ↔ ∀ item ∈ items, (sent item).isSome = true := by
  induction items with
  | nil => simp
  | cons item items ih =>
      rw [List.mapM_cons, List.forall_mem_cons, ← ih]
      cases sent item <;> cases items.mapM sent <;> simp

theorem sent_all_map (read : β → γ) (carried : α → γ) (each : ∀ item value, sent item = some value → read value = carried item)
    (items : List α) (values : List β) (all : items.mapM sent = some values) : values.map read = items.map carried := by
  induction items generalizing values with
  | nil =>
      cases all
      rfl
  | cons item items ih =>
      rw [List.mapM_cons] at all
      obtain ⟨value, first, rest⟩ := Option.bind_eq_some_iff.1 all
      obtain ⟨others, last, same⟩ := Option.bind_eq_some_iff.1 rest
      cases same
      rw [List.map_cons, List.map_cons, each item value first, ih others last]

end Sending

section Survival

variable (checkUtf8 : String → Bool)

theorem received_type (type : InlineKeyboardButtonType Unit) (sent : InlineKeyboardButtonType Username)
    (shown : sentType checkUtf8 type = some sent) : sent.map (fun _ => ()) = transportedType checkUtf8 type := by
  cases type <;> simp only [sentType] at shown <;> try split at shown
  all_goals cases shown
  all_goals rfl

theorem received_button (button : InlineKeyboardButton Unit) (sent : InlineKeyboardButton Username)
    (shown : sentButton checkUtf8 button = some sent) : sent.map (fun _ => ()) = transportedButton checkUtf8 button := by
  obtain ⟨type, found, rfl⟩ := Option.map_eq_some_iff.1 shown
  rw [InlineKeyboardButton.map, received_type checkUtf8 button.type type found, transportedButton]

theorem received_rows (rows : InlineKeyboard Unit) (echo : InlineKeyboard Username)
    (shown : sentRows checkUtf8 rows = some echo) :
    received echo = transported checkUtf8 rows :=
  sent_all_map (sentRow checkUtf8) _ _
    (fun row sent found => sent_all_map (sentButton checkUtf8) _ _ (received_button checkUtf8) row sent found) rows echo shown

theorem sent_rows_iff (rows : InlineKeyboard Unit) : (sentRows checkUtf8 rows).isSome = true ↔ Sendable checkUtf8 rows := by
  simp only [sentRows, sent_all_iff, sentRow, sentButton, Option.isSome_map, Sendable]

theorem sent_rows_nonempty (rows : InlineKeyboard Unit) (echo : InlineKeyboard Username) (nonempty : rows ≠ [])
    (shown : sentRows checkUtf8 rows = some echo) : echo ≠ [] := by
  rintro rfl
  exact nonempty (List.map_eq_nil_iff.1 (received_rows checkUtf8 rows [] shown).symm)

end Survival

section Comparing

variable (checkUtf8 : String → Bool) (printTargetChat : TargetChat → String)

theorem faithful_type_iff (type : InlineKeyboardButtonType Unit) :
    Messages.comparedType printTargetChat type = Messages.comparedType printTargetChat (transportedType checkUtf8 type) ↔
      FaithfulType checkUtf8 type := by
  cases type with
  | callback data =>
      simp only [Messages.comparedType, transportedType, FaithfulType, Prod.mk.injEq, true_and, and_true]
      exact eq_comm
  | _ => simp [Messages.comparedType, transportedType, FaithfulType]

theorem faithful_iff (rows : InlineKeyboard Unit) :
    areEqualInlineKeyboards printTargetChat rows (transported checkUtf8 rows) = true ↔ Faithful checkUtf8 rows := by
  rw [Messages.compares_inline_keyboards printTargetChat, transported, List.map_map, List.map_inj_left]
  apply forall₂_congr
  intro row _
  rw [Function.comp, List.map_map, List.map_inj_left]
  apply forall₂_congr
  intro button _
  rw [← faithful_type_iff checkUtf8 printTargetChat]
  simp [Messages.comparedButton, transportedButton]

end Comparing

section Reading

variable {KeyboardButton : Type} (readers : Readers KeyboardButton) (checkUtf8 : String → Bool)

theorem markup_read (longs : ReadsLongs readers) (rows : InlineKeyboard Unit) (nonempty : rows ≠ []) (ids : BotUserIds) :
    getReplyMarkupValue readers (jsonReplyMarkup checkUtf8 rows) ids =
      ((orFail cantParse (sentRows checkUtf8 rows)).map (fun rows => some (.inlineKeyboard rows)), ids) := by
  unfold jsonReplyMarkup getReplyMarkupValue
  simp only [show BotUsernames.getKeyboardRows readers [("inline_keyboard", jsonInlineKeyboard checkUtf8 rows)] = .ok [] from rfl,
    rows_read readers checkUtf8 longs rows ids]
  cases shown : sentRows checkUtf8 rows with
  | none => rfl
  | some echo =>
      cases echo with
      | nil => exact absurd rfl (sent_rows_nonempty checkUtf8 rows [] nonempty shown)
      | cons row echo => rfl

theorem inline_keyboard_survives (printTargetChat : TargetChat → String) (longs : ReadsLongs readers) (rows : InlineKeyboard Unit)
    (nonempty : rows ≠ []) (ids : BotUserIds) (messageInfo : MessageInfo)
    (holds : messageInfo.replyMarkup = some (.inlineKeyboard rows)) :
    (Sendable checkUtf8 rows → ∃ echo, getReplyMarkupValue readers (jsonReplyMarkup checkUtf8 rows) ids =
        (.ok (some (.inlineKeyboard echo)), ids) ∧ received echo = transported checkUtf8 rows ∧
      (Messages.setMessageReplyMarkup printTargetChat messageInfo (some (.inlineKeyboard (received echo))) = .ok messageInfo ↔
        Faithful checkUtf8 rows)) ∧
    (¬ Sendable checkUtf8 rows → ∃ status, getReplyMarkupValue readers (jsonReplyMarkup checkUtf8 rows) ids =
      (.error status, ids) ∧ status.code = 400) := by
  rw [markup_read readers checkUtf8 longs rows nonempty ids, ← sent_rows_iff]
  cases shown : sentRows checkUtf8 rows with
  | none =>
      refine ⟨?_, fun _ => ⟨cantParse, rfl, rfl⟩⟩
      rintro ⟨⟩
  | some echo =>
      have back := received_rows checkUtf8 rows echo shown
      refine ⟨fun _ => ⟨echo, rfl, back, ?_⟩, fun refused => absurd rfl refused⟩
      rw [back, ← faithful_iff checkUtf8 printTargetChat rows]
      simp only [Messages.setMessageReplyMarkup, Messages.inlineKeyboard, Option.bind_some, Messages.ReplyMarkup.rows, holds]
      split
      next equal => simp [equal]
      next different =>
        refine ⟨fun same => ?_, fun equal => absurd equal different⟩
        have markup := congrArg MessageInfo.replyMarkup (Except.ok.inj same)
        rw [holds] at markup
        have unchanged : transported checkUtf8 rows = rows := by simpa using markup
        rw [unchanged]
        exact Slots.compares_refl _ _ (Messages.compares_inline_keyboards printTargetChat) rows

end Reading

section Example

open RichTexts (safeNumbers safe_numbers_lawful)

def exampleReaders : Readers Unit where
  jsonDecode _ := none
  getOptionalLongField object name :=
    match getField object name with
    | none => .ok 0
    | some (.string text) => (safeNumbers.toInt64 text).elim (.error ⟨400, "Field must be a valid Number"⟩) .ok
    | some _ => .error (wrongType name .number)
  getKeyboardButton _ := .ok ()
  readResultHead _ := .ok ()
  readResultTail _ := .ok ()

theorem example_reads_longs : ReadsLongs exampleReaders where
  absent object name found := by simp [exampleReaders, found]
  printed object name value found := by
    simp only [exampleReaders, found, safe_numbers_lawful.toInt64]
    rfl

def exampleRows : InlineKeyboard Unit :=
  [[⟨"open", 5, .primary, .url "https://example.org/"⟩, ⟨"log in", 0, .default, .loginUrl "https://example.org/login" 77 "" ()⟩],
    [⟨"vote", 0, .danger, .callback "1"⟩, ⟨"share", 0, .success, .switchInline "" (.chosen true false true true)⟩]]

def exampleInfo : MessageInfo where
  chatId := 7
  id := 1
  date := 1700000000
  editDate := 0
  senderTag := ""
  content := ⟨.other "messageText", "Choose"⟩
  replyMarkup := some (.inlineKeyboard exampleRows)
  isOutgoing := true
  isSelfDestruct := false
  isImported := false

theorem example_rows_survive : ∃ echo, getReplyMarkupValue exampleReaders (jsonReplyMarkup (fun _ => true) exampleRows) {} =
      (.ok (some (.inlineKeyboard echo)), {}) ∧ received echo = transported (fun _ => true) exampleRows ∧
    (Messages.setMessageReplyMarkup Messages.printTargetChatName exampleInfo (some (.inlineKeyboard (received echo))) =
      .ok exampleInfo ↔ Faithful (fun _ => true) exampleRows) :=
  (inline_keyboard_survives exampleReaders (fun _ => true) Messages.printTargetChatName example_reads_longs exampleRows
    (by decide) {} exampleInfo rfl).1 (by decide)

end Example

end TelegramBotApi.InlineKeyboards
