import TelegramBotApi.Json

set_option autoImplicit false

-- A printed text is represented by the value that the parser of td makes of it.
namespace TelegramBotApi.RichTexts

open JsonObject

inductive DateTimePartPrecision where
  | none
  | short
  | long
deriving DecidableEq

-- A precision can be a null pointer.
inductive DateTimeFormattingType where
  | relative
  | absolute (timePrecision datePrecision : Option DateTimePartPrecision) (showDayOfWeek : Bool)
deriving DecidableEq

inductive RichText where
  | missing   -- a null pointer
  | plain (text : String)
  | icon
  | diff
  | texts (texts : List RichText)
  | bold (text : RichText)
  | italic (text : RichText)
  | underline (text : RichText)
  | strikethrough (text : RichText)
  | spoiler (text : RichText)
  | dateTime (text : RichText) (unixTime : Int32) (formattingType : Option DateTimeFormattingType)
  | mention (text : RichText) (username : String)
  | hashtag (text : RichText) (hashtag : String)
  | cashtag (text : RichText) (cashtag : String)
  | botCommand (text : RichText) (botCommand : String)
  | fixed (text : RichText)
  | mentionName (text : RichText) (userId : Int64)
  | url (text : RichText) (url : String) (isCached : Bool)
  | emailAddress (text : RichText) (emailAddress : String)
  | bankCardNumber (text : RichText) (bankCardNumber : String)
  | subscript (text : RichText)
  | superscript (text : RichText)
  | marked (text : RichText)
  | phoneNumber (text : RichText) (phoneNumber : String)
  | customEmoji (customEmojiId : Int64) (alternativeText : String)
  | mathematicalExpression (expression : String)
  | reference (name : String) (text : RichText)
  | referenceLink (text : RichText) (referenceName url : String)
  | anchor (name : String)
  | anchorLink (text : RichText) (anchorName url : String)

structure UserInfo where
  isBot : Bool
  firstName : String
  lastName : String
  activeUsernames : List String
  languageCode : String
  isPremium : Bool
  addedToAttachmentMenu : Bool

def optionalString (name value : String) : JsonObject := if value = "" then [] else [(name, .string value)]

def optionalTrue (name : String) (value : Bool) : JsonObject := if value then [(name, .boolean true)] else []

def jsonUserInfo : Option UserInfo → JsonObject
  | none => [("is_bot", .boolean false), ("first_name", .string "")]
  | some userInfo =>
      [("is_bot", .boolean userInfo.isBot), ("first_name", .string userInfo.firstName)] ++
        optionalString "last_name" userInfo.lastName ++
        (userInfo.activeUsernames.head?.map (fun username => ("username", JsonValue.string username))).toList ++
        optionalString "language_code" userInfo.languageCode ++ optionalTrue "is_premium" userInfo.isPremium ++
        optionalTrue "added_to_attachment_menu" userInfo.addedToAttachmentMenu

def jsonUser (getUserInfo : Int64 → Option UserInfo) (userId : Int64) : JsonValue :=
  .object (("id", .number (toString userId.toInt)) :: jsonUserInfo (getUserInfo userId))

-- Nothing is shown when a null pointer is read.
def dateLetter : Option DateTimePartPrecision → Option String
  | none => none
  | some .none => some ""
  | some .short => some "d"
  | some .long => some "D"

def timeLetter : Option DateTimePartPrecision → Option String
  | none => none
  | some .none => some ""
  | some .short => some "t"
  | some .long => some "T"

def getDateTimeFormat : Option DateTimeFormattingType → Option String
  | none => some ""
  | some .relative => some "r"
  | some (.absolute timePrecision datePrecision showDayOfWeek) => do
      let date ← dateLetter datePrecision
      let time ← timeLetter timePrecision
      return (if showDayOfWeek then "w" else "") ++ date ++ time

def formatLetter (result : Option DateTimePartPrecision × Option DateTimePartPrecision × Bool) (letter : Char) :
    Result (Option DateTimePartPrecision × Option DateTimePartPrecision × Bool) :=
  if letter = 't' then .ok (some .short, result.2)
  else if letter = 'T' then .ok (some .long, result.2)
  else if letter = 'd' then .ok (result.1, some .short, result.2.2)
  else if letter = 'D' then .ok (result.1, some .long, result.2.2)
  else if letter = 'w' ∨ letter = 'W' then .ok (result.1, result.2.1, true)
  else .error ⟨400, "Invalid date-time format specified"⟩

def getDateTimeFormattingType (format : String) : Result (Option DateTimeFormattingType) :=
  if format = "" then .ok none
  else if format = "r" ∨ format = "R" then .ok (some .relative)
  else do
    let (timePrecision, datePrecision, showDayOfWeek) ← format.toList.foldlM formatLetter (none, none, false)
    return some (.absolute timePrecision datePrecision showDayOfWeek)

section Printer

variable (getUserInfo : Int64 → Option UserInfo)

def printed (type : String) (text : Option JsonValue) (fields : JsonObject) : Option JsonValue :=
  text.map (fun value => .object (("type", .string type) :: ("text", value) :: fields))

mutual
-- none when a null pointer is read
def jsonRichText : RichText → Option JsonValue
  | .missing => none
  | .plain text => some (.string text)
  | .icon => some (.string "")
  | .diff => some (.string "")
  | .texts texts => (jsonRichTexts texts).map .array
  | .bold text => printed "bold" (jsonRichText text) []
  | .italic text => printed "italic" (jsonRichText text) []
  | .underline text => printed "underline" (jsonRichText text) []
  | .strikethrough text => printed "strikethrough" (jsonRichText text) []
  | .spoiler text => printed "spoiler" (jsonRichText text) []
  | .dateTime text unixTime formattingType =>
      (getDateTimeFormat formattingType).bind (fun format => printed "date_time" (jsonRichText text)
        [("unix_time", .number (toString unixTime.toInt)), ("date_time_format", .string format)])
  | .mention text username => printed "mention" (jsonRichText text) [("username", .string username)]
  | .hashtag text hashtag => printed "hashtag" (jsonRichText text) [("hashtag", .string hashtag)]
  | .cashtag text cashtag => printed "cashtag" (jsonRichText text) [("cashtag", .string cashtag)]
  | .botCommand text botCommand => printed "bot_command" (jsonRichText text) [("bot_command", .string botCommand)]
  | .fixed text => printed "code" (jsonRichText text) []
  | .mentionName text userId => printed "text_mention" (jsonRichText text) [("user", jsonUser getUserInfo userId)]
  | .url text url _ => printed "url" (jsonRichText text) [("url", .string url)]
  | .emailAddress text emailAddress => printed "email_address" (jsonRichText text) [("email_address", .string emailAddress)]
  | .bankCardNumber text bankCardNumber =>
      printed "bank_card_number" (jsonRichText text) [("bank_card_number", .string bankCardNumber)]
  | .subscript text => printed "subscript" (jsonRichText text) []
  | .superscript text => printed "superscript" (jsonRichText text) []
  | .marked text => printed "marked" (jsonRichText text) []
  | .phoneNumber text phoneNumber => printed "phone_number" (jsonRichText text) [("phone_number", .string phoneNumber)]
  | .customEmoji customEmojiId alternativeText => some (.object [("type", .string "custom_emoji"),
      ("custom_emoji_id", .string (toString customEmojiId.toInt)), ("alternative_text", .string alternativeText)])
  | .mathematicalExpression expression =>
      some (.object [("type", .string "mathematical_expression"), ("expression", .string expression)])
  | .reference name text => printed "reference" (jsonRichText text) [("name", .string name)]
  | .referenceLink text referenceName _ =>
      printed "reference_link" (jsonRichText text) [("reference_name", .string referenceName)]
  | .anchor name => some (.object [("type", .string "anchor"), ("name", .string name)])
  | .anchorLink text anchorName _ => printed "anchor_link" (jsonRichText text) [("anchor_name", .string anchorName)]
def jsonRichTexts : List RichText → Option (List JsonValue)
  | [] => some []
  | text :: texts => (jsonRichText text).bind (fun value => (jsonRichTexts texts).map (value :: ·))
end

end Printer

-- td::to_integer_safe<int32> and td::to_integer_safe<int64>
structure Numbers where
  toInt32 : String → Option Int32
  toInt64 : String → Option Int64

section Reader

variable (numbers : Numbers)

def invalidNumber (name : String) : Status := ⟨400, "Field \"" ++ name ++ "\" must be a valid Number"⟩

-- A number is also taken from a string.
def getRequiredNumber {Value : Type} (parse : String → Option Value) (object : JsonObject) (name : String) : Result Value :=
  match getField object name with
  | none => .error (missing name)
  | some (.number text) => (parse text).elim (.error (invalidNumber name)) .ok
  | some (.string text) => (parse text).elim (.error (invalidNumber name)) .ok
  | some _ => .error (wrongType name .number)

def getRequiredIntField (object : JsonObject) (name : String) : Result Int32 := getRequiredNumber numbers.toInt32 object name

def getRequiredLongField (object : JsonObject) (name : String) : Result Int64 := getRequiredNumber numbers.toInt64 object name

-- The branches of get_rich_text for objects; text is what it makes of the field with this name.
def getRichTextObject (object : JsonObject) (text : Result RichText) : Result RichText := do
  let type ← getRequiredStringField object "type"
  match type with
  | "bold" => return .bold (← text)
  | "italic" => return .italic (← text)
  | "underline" => return .underline (← text)
  | "strikethrough" => return .strikethrough (← text)
  | "spoiler" => return .spoiler (← text)
  | "date_time" =>
      let text ← text
      let unixTime ← getRequiredIntField numbers object "unix_time"
      let format ← getOptionalStringField object "date_time_format"
      let formattingType ← getDateTimeFormattingType format
      return .dateTime text unixTime formattingType
  | "mention" => return .mention (← text) ""
  | "hashtag" => return .hashtag (← text) ""
  | "cashtag" => return .cashtag (← text) ""
  | "bot_command" => return .botCommand (← text) ""
  | "code" => return .fixed (← text)
  | "text_mention" =>
      let text ← text
      let userObject ← extractRequiredObject object "user"
      let userId ← getRequiredLongField numbers userObject "id"
      return .mentionName text userId
  | "url" =>
      let text ← text
      let url ← getRequiredStringField object "url"
      return .url text url false
  | "email_address" =>
      let text ← text
      let emailAddress ← getRequiredStringField object "email_address"
      return .emailAddress text emailAddress
  | "bank_card_number" => return .bankCardNumber (← text) ""
  | "subscript" => return .subscript (← text)
  | "superscript" => return .superscript (← text)
  | "marked" => return .marked (← text)
  | "phone_number" =>
      let text ← text
      let phoneNumber ← getRequiredStringField object "phone_number"
      return .phoneNumber text phoneNumber
  | "custom_emoji" =>
      let customEmojiId ← getRequiredLongField numbers object "custom_emoji_id"
      let alternativeText ← getRequiredStringField object "alternative_text"
      return .customEmoji customEmojiId alternativeText
  | "mathematical_expression" =>
      let expression ← getRequiredStringField object "expression"
      return .mathematicalExpression expression
  | "reference" =>
      let text ← text
      let name ← getRequiredStringField object "name"
      return .reference name text
  | "reference_link" =>
      let text ← text
      let referenceName ← getRequiredStringField object "reference_name"
      return .referenceLink text referenceName ""
  | "anchor" =>
      let name ← getRequiredStringField object "name"
      return .anchor name
  | "anchor_link" =>
      let text ← text
      let anchorName ← getRequiredStringField object "anchor_name"
      return .anchorLink text anchorName ""
  | _ => .error ⟨400, "Unsupported rich text type"⟩

mutual
def getRichText : JsonValue → Result RichText
  | .null => .ok .missing
  | .string text => .ok (.plain text)
  | .array values => (getRichTexts values).map .texts
  | .object fields => getRichTextObject numbers fields (getRichTextField fields)
  | .number _ => .error ⟨400, "Invalid rich text specified"⟩
  | .boolean _ => .error ⟨400, "Invalid rich text specified"⟩
def getRichTexts : List JsonValue → Result (List RichText)
  | [] => .ok []
  | value :: values => do
      let text ← getRichText value
      let texts ← getRichTexts values
      return text :: texts
-- get_rich_text(object.extract_field("text"))
def getRichTextField : List (String × JsonValue) → Result RichText
  | [] => .ok .missing
  | (name, value) :: fields => if name = "text" then getRichText value else getRichTextField fields
end

end Reader

mutual
def rewrite (change : RichText → RichText) : RichText → RichText
  | .texts texts => change (.texts (rewriteAll change texts))
  | .bold text => change (.bold (rewrite change text))
  | .italic text => change (.italic (rewrite change text))
  | .underline text => change (.underline (rewrite change text))
  | .strikethrough text => change (.strikethrough (rewrite change text))
  | .spoiler text => change (.spoiler (rewrite change text))
  | .dateTime text unixTime formattingType => change (.dateTime (rewrite change text) unixTime formattingType)
  | .mention text username => change (.mention (rewrite change text) username)
  | .hashtag text hashtag => change (.hashtag (rewrite change text) hashtag)
  | .cashtag text cashtag => change (.cashtag (rewrite change text) cashtag)
  | .botCommand text botCommand => change (.botCommand (rewrite change text) botCommand)
  | .fixed text => change (.fixed (rewrite change text))
  | .mentionName text userId => change (.mentionName (rewrite change text) userId)
  | .url text url isCached => change (.url (rewrite change text) url isCached)
  | .emailAddress text emailAddress => change (.emailAddress (rewrite change text) emailAddress)
  | .bankCardNumber text bankCardNumber => change (.bankCardNumber (rewrite change text) bankCardNumber)
  | .subscript text => change (.subscript (rewrite change text))
  | .superscript text => change (.superscript (rewrite change text))
  | .marked text => change (.marked (rewrite change text))
  | .phoneNumber text phoneNumber => change (.phoneNumber (rewrite change text) phoneNumber)
  | .reference name text => change (.reference name (rewrite change text))
  | .referenceLink text referenceName url => change (.referenceLink (rewrite change text) referenceName url)
  | .anchorLink text anchorName url => change (.anchorLink (rewrite change text) anchorName url)
  | .missing => change .missing
  | .plain text => change (.plain text)
  | .icon => change .icon
  | .diff => change .diff
  | .customEmoji customEmojiId alternativeText => change (.customEmoji customEmojiId alternativeText)
  | .mathematicalExpression expression => change (.mathematicalExpression expression)
  | .anchor name => change (.anchor name)
def rewriteAll (change : RichText → RichText) : List RichText → List RichText
  | [] => []
  | text :: texts => rewrite change text :: rewriteAll change texts
end

mutual
def every (holds : RichText → Bool) : RichText → Bool
  | .texts texts => holds (.texts texts) && everyAll holds texts
  | .bold text => holds (.bold text) && every holds text
  | .italic text => holds (.italic text) && every holds text
  | .underline text => holds (.underline text) && every holds text
  | .strikethrough text => holds (.strikethrough text) && every holds text
  | .spoiler text => holds (.spoiler text) && every holds text
  | .dateTime text unixTime formattingType => holds (.dateTime text unixTime formattingType) && every holds text
  | .mention text username => holds (.mention text username) && every holds text
  | .hashtag text hashtag => holds (.hashtag text hashtag) && every holds text
  | .cashtag text cashtag => holds (.cashtag text cashtag) && every holds text
  | .botCommand text botCommand => holds (.botCommand text botCommand) && every holds text
  | .fixed text => holds (.fixed text) && every holds text
  | .mentionName text userId => holds (.mentionName text userId) && every holds text
  | .url text url isCached => holds (.url text url isCached) && every holds text
  | .emailAddress text emailAddress => holds (.emailAddress text emailAddress) && every holds text
  | .bankCardNumber text bankCardNumber => holds (.bankCardNumber text bankCardNumber) && every holds text
  | .subscript text => holds (.subscript text) && every holds text
  | .superscript text => holds (.superscript text) && every holds text
  | .marked text => holds (.marked text) && every holds text
  | .phoneNumber text phoneNumber => holds (.phoneNumber text phoneNumber) && every holds text
  | .reference name text => holds (.reference name text) && every holds text
  | .referenceLink text referenceName url => holds (.referenceLink text referenceName url) && every holds text
  | .anchorLink text anchorName url => holds (.anchorLink text anchorName url) && every holds text
  | .missing => holds .missing
  | .plain text => holds (.plain text)
  | .icon => holds .icon
  | .diff => holds .diff
  | .customEmoji customEmojiId alternativeText => holds (.customEmoji customEmojiId alternativeText)
  | .mathematicalExpression expression => holds (.mathematicalExpression expression)
  | .anchor name => holds (.anchor name)
def everyAll (holds : RichText → Bool) : List RichText → Bool
  | [] => true
  | text :: texts => every holds text && everyAll holds texts
end

def readAbsentFormat : Option DateTimeFormattingType → Option DateTimeFormattingType
  | some (.absolute timePrecision datePrecision showDayOfWeek) =>
      some (.absolute (some (timePrecision.getD .none)) (some (datePrecision.getD .none)) showDayOfWeek)
  | formattingType => formattingType

def resetFormat : Option DateTimeFormattingType → Option DateTimeFormattingType
  | some (.absolute timePrecision datePrecision showDayOfWeek) =>
      if timePrecision.getD .none = .none ∧ datePrecision.getD .none = .none ∧ showDayOfWeek = false then none
      else some (.absolute timePrecision datePrecision showDayOfWeek)
  | formattingType => formattingType

def readAbsentNode : RichText → RichText
  | .dateTime text unixTime formattingType => .dateTime text unixTime (readAbsentFormat formattingType)
  | text => text

-- What the Bot API does not transport.
def resetNode : RichText → RichText
  | .dateTime text unixTime formattingType => .dateTime text unixTime (resetFormat formattingType)
  | .mention text _ => .mention text ""
  | .hashtag text _ => .hashtag text ""
  | .cashtag text _ => .cashtag text ""
  | .botCommand text _ => .botCommand text ""
  | .bankCardNumber text _ => .bankCardNumber text ""
  | .url text url _ => .url text url false
  | .referenceLink text referenceName _ => .referenceLink text referenceName ""
  | .anchorLink text anchorName _ => .anchorLink text anchorName ""
  | text => text

def readAbsent (text : RichText) : RichText := rewrite readAbsentNode text

def normalise (text : RichText) : RichText := rewrite resetNode text

def presentFormat : Option DateTimeFormattingType → Bool
  | some (.absolute timePrecision datePrecision _) => timePrecision.isSome && datePrecision.isSome
  | _ => true

-- No null pointers, and no nodes that the Bot API does not know.
def transportedNode : RichText → Bool
  | .missing => false
  | .icon => false
  | .diff => false
  | .dateTime _ _ formattingType => presentFormat formattingType
  | _ => true

def presentNode : RichText → Bool
  | .missing => false
  | _ => true

def Transported (text : RichText) : Prop := every transportedNode text = true

def Complete (text : RichText) : Prop := every presentNode text = true

end TelegramBotApi.RichTexts
