import TelegramBotApi.Json
import TelegramBotApi.Lib.Texts

set_option autoImplicit false

namespace TelegramBotApi.BotUsernames

open JsonObject
open Texts (toLower)

abbrev Username := String
abbrev UserId := Int

-- A missing entry of bot_user_ids_ and a stored zero are the same to the code.
structure BotUserIds where
  defaultBotUserId : UserId := 0
  curTempBotUserId : UserId := 1
  botUserIds : Username → UserId := fun _ => 0
  unresolvedBotUsernames : List Username := []

-- Temporary identifiers are the multiples of 1000; zero stands for no identifier.
def BotUserIds.Unresolved (ids : BotUserIds) (username : Username) : Prop := ids.botUserIds username % 1000 = 0

instance (ids : BotUserIds) (username : Username) : Decidable (ids.Unresolved username) :=
  inferInstanceAs (Decidable (ids.botUserIds username % 1000 = 0))

def BotUserIds.clearUnresolved (ids : BotUserIds) : BotUserIds := { ids with unresolvedBotUsernames := [] }

inductive ButtonStyle where
  | default | primary | danger | success
deriving DecidableEq

inductive TargetChat where
  | current
  | chosen (allowUserChats allowBotChats allowGroupChats allowChannelChats : Bool)
deriving DecidableEq

-- The name a login button was parsed from is ghost data: TDLib receives and shows the
-- identifier only.
inductive InlineKeyboardButtonType (Name : Type) where
  | url (url : String)
  | loginUrl (url : String) (id : UserId) (forwardText : String) (botUsername : Name)
  | callback (data : String)
  | callbackWithPassword (data : String)
  | callbackGame
  | switchInline (query : String) (targetChat : TargetChat)
  | buy
  | user (userId : UserId)
  | webApp (url : String)
  | copyText (text : String)
deriving DecidableEq

structure InlineKeyboardButton (Name : Type) where
  text : String
  iconCustomEmojiId : Int64
  style : ButtonStyle
  type : InlineKeyboardButtonType Name
deriving DecidableEq

abbrev InlineKeyboard (Name : Type) := List (List (InlineKeyboardButton Name))

section Naming

variable {Name Other : Type} (rename : Name → Other)

def InlineKeyboardButtonType.map : InlineKeyboardButtonType Name → InlineKeyboardButtonType Other
  | .url link => .url link
  | .loginUrl link id forwardText botUsername => .loginUrl link id forwardText (rename botUsername)
  | .callback data => .callback data
  | .callbackWithPassword data => .callbackWithPassword data
  | .callbackGame => .callbackGame
  | .switchInline query targetChat => .switchInline query targetChat
  | .buy => .buy
  | .user userId => .user userId
  | .webApp link => .webApp link
  | .copyText text => .copyText text

def InlineKeyboardButton.map (button : InlineKeyboardButton Name) : InlineKeyboardButton Other :=
  ⟨button.text, button.iconCustomEmojiId, button.style, button.type.map rename⟩

end Naming

-- Readers that never see the bot identifiers. Their bodies are long and only
-- their success and value matter to the callers below.
structure Readers (KeyboardButton : Type) where
  jsonDecode : String → Option JsonValue
  getOptionalLongField : JsonObject → String → Result Int64
  getKeyboardButton : JsonValue → Result KeyboardButton
  -- the fields of an inline query result before and after its reply_markup
  readResultHead : JsonObject → Result Unit
  readResultTail : JsonObject → Result Unit

structure LoginUrl where
  url : String
  botUsername : Username
  requestWriteAccess : Bool
  forwardText : String

def invalidBotUsername : Status := ⟨400, "LoginUrl bot username is invalid"⟩

def isUsernameCharacter (c : Char) : Bool := c = '_' || c.isAlphanum

-- The empty name means that the button logs in to the bot itself.
def readBotUsername (name : String) : Result Username :=
  match name.toList with
  | [] => .ok ""
  | first :: rest =>
      let characters := if first = '@' then rest else first :: rest
      if characters = [] then .error invalidBotUsername
      else if characters.all isUsernameCharacter then .ok (String.ofList characters)
      else .error invalidBotUsername

def readLoginUrl (object : JsonObject) : Result LoginUrl := do
  let loginUrl ← extractRequiredObject object "login_url"
  let url ← getRequiredStringField loginUrl "url"
  let botUsername ← getOptionalStringField loginUrl "bot_username"
  let requestWriteAccess ← getOptionalBoolField loginUrl "request_write_access"
  let forwardText ← getOptionalStringField loginUrl "forward_text"
  let botUsername ← readBotUsername botUsername
  return ⟨url, botUsername, requestWriteAccess, forwardText⟩

def readSwitchInlineChosen (object : JsonObject) : Result (InlineKeyboardButtonType Username) := do
  let chosen ← extractRequiredObject object "switch_inline_query_chosen_chat"
  let query ← getOptionalStringField chosen "query"
  let allowUserChats ← getOptionalBoolField chosen "allow_user_chats"
  let allowBotChats ← getOptionalBoolField chosen "allow_bot_chats"
  let allowGroupChats ← getOptionalBoolField chosen "allow_group_chats"
  let allowChannelChats ← getOptionalBoolField chosen "allow_channel_chats"
  return .switchInline query (.chosen allowUserChats allowBotChats allowGroupChats allowChannelChats)

-- The field tests of get_inline_keyboard_button_type in their order. A login
-- button is handed back unfinished, since its identifier needs the shared ids.
def readButtonType (object : JsonObject) : Result (InlineKeyboardButtonType Username ⊕ LoginUrl) := do
  let url ← getOptionalStringField object "url"
  if url ≠ "" then return .inl (.url url)
  let callbackData ← getOptionalStringField object "callback_data"
  if callbackData ≠ "" then return .inl (.callback callbackData)
  if hasField object "callback_game" then return .inl .callbackGame
  if hasField object "pay" then return .inl .buy
  if hasField object "switch_inline_query" then
    let query ← getRequiredStringField object "switch_inline_query"
    return .inl (.switchInline query (.chosen true true true true))
  if hasField object "switch_inline_query_chosen_chat" then
    let type ← readSwitchInlineChosen object
    return .inl type
  if hasField object "switch_inline_query_current_chat" then
    let query ← getRequiredStringField object "switch_inline_query_current_chat"
    return .inl (.switchInline query .current)
  if hasField object "login_url" then
    let login ← readLoginUrl object
    return .inr login
  if hasField object "web_app" then
    let webApp ← extractRequiredObject object "web_app"
    let url ← getRequiredStringField webApp "url"
    return .inl (.webApp url)
  if hasField object "copy_text" then
    let copyText ← extractRequiredObject object "copy_text"
    let text ← getRequiredStringField copyText "text"
    return .inl (.copyText text)
  throw ⟨400, "Text buttons are unallowed in the inline keyboard"⟩

-- An unknown name gets a fresh temporary identifier; a temporary identifier
-- marks the name as unresolved.
def botUserId (username : Username) (ids : BotUserIds) : UserId × BotUserIds :=
  let known := if ids.botUserIds username = 0 then
      { ids with botUserIds := Function.update ids.botUserIds username (ids.curTempBotUserId * 1000)
                 curTempBotUserId := ids.curTempBotUserId + 1 }
    else ids
  let userId := known.botUserIds username
  if userId % 1000 = 0 then
    (userId, { known with unresolvedBotUsernames := known.unresolvedBotUsernames.insert username })
  else (userId, known)

def loginButtonType (login : LoginUrl) (ids : BotUserIds) : InlineKeyboardButtonType Username × BotUserIds :=
  let (userId, after) := if login.botUsername = "" then (ids.defaultBotUserId, ids) else botUserId login.botUsername ids
  (.loginUrl login.url (if login.requestWriteAccess then userId else -userId) login.forwardText login.botUsername, after)

def getInlineKeyboardButtonType (object : JsonObject) (ids : BotUserIds) :
    Result (InlineKeyboardButtonType Username) × BotUserIds :=
  match readButtonType object with
  | .error status => (.error status, ids)
  | .ok (.inl type) => (.ok type, ids)
  | .ok (.inr login) => (.ok (loginButtonType login ids).1, (loginButtonType login ids).2)

def getButtonStyle (style : String) : Result ButtonStyle :=
  let style := toLower style
  if style = "" || style = "default" then .ok .default
  else if style = "primary" then .ok .primary
  else if style = "danger" then .ok .danger
  else if style = "success" then .ok .success
  else .error ⟨0, "invalid button style specified"⟩

section Parsing

variable {KeyboardButton : Type} (readers : Readers KeyboardButton)

def readButtonFields (object : JsonObject) : Result (String × Int64 × ButtonStyle) := do
  let text ← getRequiredStringField object "text"
  let icon ← readers.getOptionalLongField object "icon_custom_emoji_id"
  let style ← getOptionalStringField object "style"
  let style ← getButtonStyle style
  return (text, icon, style)

def getInlineKeyboardButton (button : JsonValue) (ids : BotUserIds) : Result (InlineKeyboardButton Username) × BotUserIds :=
  match button with
  | .object object =>
      match readButtonFields readers object with
      | .error status => (.error status, ids)
      | .ok (text, icon, style) =>
          match getInlineKeyboardButtonType object ids with
          | (.error status, after) => (.error status, after)
          | (.ok type, after) => (.ok ⟨text, icon, style, type⟩, after)
  | _ => (.error ⟨400, "InlineKeyboardButton must be an Object"⟩, ids)

-- A loop that stops at the first error and keeps what earlier items did.
def parseAll {α β : Type} (parse : α → BotUserIds → Result β × BotUserIds) :
    List α → BotUserIds → Result (List β) × BotUserIds
  | [], ids => (.ok [], ids)
  | item :: rest, ids =>
      match parse item ids with
      | (.error status, after) => (.error status, after)
      | (.ok value, after) =>
          match parseAll parse rest after with
          | (.error status, last) => (.error status, last)
          | (.ok values, last) => (.ok (value :: values), last)

def getArrayGeneric {α : Type} (className : String) (func : JsonValue → BotUserIds → Result α × BotUserIds)
    (values : JsonValue) (ids : BotUserIds) : Result (List α) × BotUserIds :=
  match values with
  | .array items =>
      match parseAll func items ids with
      | (.error status, after) => (.error ⟨400, "Can't parse " ++ className ++ ": " ++ status.message⟩, after)
      | (.ok parsed, after) => (.ok parsed, after)
  | .null => (.ok [], ids)
  | _ => (.error ⟨400, "Expected an Array of " ++ className⟩, ids)

inductive ReplyMarkup (KeyboardButton : Type) where
  | showKeyboard (rows : List (List KeyboardButton)) (isPersistent resizeKeyboard oneTime isPersonal : Bool)
      (inputFieldPlaceholder : String)
  | inlineKeyboard (rows : InlineKeyboard Username)
  | removeKeyboard (isPersonal : Bool)
  | forceReply (isPersonal : Bool) (inputFieldPlaceholder : String)

def isInlineKeyboard : Option (ReplyMarkup KeyboardButton) → Bool
  | some (.inlineKeyboard _) => true
  | _ => false

def getKeyboardRow (row : JsonValue) : Result (List KeyboardButton) :=
  match row with
  | .array items => items.mapM fun item =>
      (readers.getKeyboardButton item).mapError fun status => ⟨400, "Can't parse KeyboardButton: " ++ status.message⟩
  | .null => .ok []
  | _ => .error ⟨400, "Expected an Array of KeyboardButton"⟩

def getKeyboardRows (object : JsonObject) : Result (List (List KeyboardButton)) := do
  match ← extractOptionalField object "keyboard" .array with
  | .array rows => rows.mapM (getKeyboardRow readers)
  | _ => return []

def getInlineRows (object : JsonObject) (ids : BotUserIds) : Result (InlineKeyboard Username) × BotUserIds :=
  match extractOptionalField object "inline_keyboard" .array with
  | .error status => (.error status, ids)
  | .ok (.array rows) =>
      parseAll (getArrayGeneric "InlineKeyboardButton" (getInlineKeyboardButton readers)) rows ids
  | .ok _ => (.ok [], ids)

def chooseReplyMarkup (object : JsonObject) (rows : List (List KeyboardButton)) (inlineRows : InlineKeyboard Username) :
    Result (Option (ReplyMarkup KeyboardButton)) := do
  let hideKeyboard ← getOptionalBoolField object "hide_keyboard"
  let removeKeyboard ← getOptionalBoolField object "remove_keyboard"
  let personalKeyboard ← getOptionalBoolField object "personal_keyboard"
  let selective ← getOptionalBoolField object "selective"
  let forceReplyKeyboard ← getOptionalBoolField object "force_reply_keyboard"
  let forceReply ← getOptionalBoolField object "force_reply"
  let inputFieldPlaceholder ← getOptionalStringField object "input_field_placeholder"
  let isPersonal := personalKeyboard || selective
  if rows ≠ [] then
    let resizeKeyboard ← getOptionalBoolField object "resize_keyboard"
    let oneTimeKeyboard ← getOptionalBoolField object "one_time_keyboard"
    let isPersistent ← getOptionalBoolField object "is_persistent"
    return some (.showKeyboard rows isPersistent resizeKeyboard oneTimeKeyboard isPersonal inputFieldPlaceholder)
  else if inlineRows ≠ [] then return some (.inlineKeyboard inlineRows)
  else if hideKeyboard || removeKeyboard then return some (.removeKeyboard isPersonal)
  else if forceReply || forceReplyKeyboard then return some (.forceReply isPersonal inputFieldPlaceholder)
  else return none

def getReplyMarkupValue (value : JsonValue) (ids : BotUserIds) :
    Result (Option (ReplyMarkup KeyboardButton)) × BotUserIds :=
  match value with
  | .object object =>
      match getKeyboardRows readers object with
      | .error status => (.error status, ids)
      | .ok rows =>
          match getInlineRows readers object ids with
          | (.error status, after) => (.error status, after)
          | (.ok inlineRows, after) =>
              match chooseReplyMarkup object rows inlineRows with
              | .error status => (.error status, after)
              | .ok markup => (.ok markup, if isInlineKeyboard markup then after else after.clearUnresolved)
  | _ => (.error ⟨400, "Object expected as reply markup"⟩, ids)

-- A request without reply_markup returns before the set is looked at.
def getReplyMarkup (argument : String) (ids : BotUserIds) : Result (Option (ReplyMarkup KeyboardButton)) × BotUserIds :=
  if argument = "" then (.ok none, ids)
  else
    match readers.jsonDecode argument with
    | none => (.error ⟨400, "Can't parse reply keyboard markup JSON object"⟩, ids)
    | some value => getReplyMarkupValue readers value ids

structure InputInlineQueryResult (KeyboardButton : Type) where
  source : JsonObject
  replyMarkup : Option (ReplyMarkup KeyboardButton)

def getInlineQueryResultMarkup (object : JsonObject) (ids : BotUserIds) :
    Result (Option (ReplyMarkup KeyboardButton)) × BotUserIds :=
  match extractOptionalField object "reply_markup" .object with
  | .error status => (.error status, ids)
  | .ok .null => (.ok none, ids)
  | .ok markup => getReplyMarkupValue readers markup ids

def getInlineQueryResultValue (value : JsonValue) (ids : BotUserIds) :
    Result (InputInlineQueryResult KeyboardButton) × BotUserIds :=
  match value with
  | .object object =>
      match readers.readResultHead object with
      | .error status => (.error status, ids)
      | .ok () =>
          match getInlineQueryResultMarkup readers object ids with
          | (.error status, after) => (.error status, after)
          | (.ok markup, after) =>
              match readers.readResultTail object with
              | .error status => (.error status, after)
              | .ok () => (.ok ⟨object, markup⟩, after)
  | _ => (.error ⟨400, "Inline query result must be an object"⟩, ids)

def getInlineQueryResult (argument : String) (ids : BotUserIds) :
    Result (List (InputInlineQueryResult KeyboardButton)) × BotUserIds :=
  if argument = "" then (.error ⟨400, "Result isn't specified"⟩, ids)
  else
    match readers.jsonDecode argument with
    | none => (.error ⟨400, "Can't parse JSON encoded web view query results"⟩, ids)
    | some value =>
        match getInlineQueryResultValue readers value ids with
        | (.error status, after) => (.error status, after)
        | (.ok result, after) => (.ok [result], after)

def getInlineQueryResults (argument : String) (ids : BotUserIds) :
    Result (List (InputInlineQueryResult KeyboardButton)) × BotUserIds :=
  if argument = "" then (.ok [], ids)
  else
    match readers.jsonDecode argument with
    | none => (.error ⟨400, "Can't parse JSON encoded inline query results"⟩, ids)
    | some values => getArrayGeneric "InlineQueryResult" (getInlineQueryResultValue readers) values ids

end Parsing

end TelegramBotApi.BotUsernames
