import TelegramBotApi.Client
import TelegramBotApi.JsonFields
import TelegramBotApi.RichTextRoundTrip

set_option autoImplicit false

-- The text of a message as the bot sees it, and what becomes of it when the bot sends it back.
namespace TelegramBotApi.MessageTexts

open JsonObject RichTexts
open Client (toBool)
open Texts (toLower)

inductive TextEntityType where
  | mention
  | hashtag
  | cashtag
  | botCommand
  | url
  | emailAddress
  | phoneNumber
  | bankCardNumber
  | bold
  | italic
  | underline
  | strikethrough
  | spoiler
  | code
  | pre
  | preCode (language : String)
  | textUrl (url : String)
  | mentionName (userId : Int64)
  | customEmoji (customEmojiId : Int64)
  | mediaTimestamp (mediaTimestamp : Int32)
  | blockQuote
  | expandableBlockQuote
  | dateTime (unixTime : Int32) (formattingType : Option DateTimeFormattingType)
deriving DecidableEq

structure TextEntity where
  offset : Int32
  length : Int32
  type : TextEntityType
deriving DecidableEq

structure FormattedText where
  text : String
  entities : List TextEntity
deriving DecidableEq

structure LinkPreviewOptions where
  isDisabled : Bool
  url : String
  forceSmallMedia : Bool
  forceLargeMedia : Bool
  showAboveText : Bool
deriving DecidableEq

structure MessageText where
  text : FormattedText
  linkPreviewOptions : Option LinkPreviewOptions
deriving DecidableEq

section Printer

variable (getUserInfo : Int64 → Option UserInfo)

-- none when a null pointer is read; a media timestamp is never printed
def jsonTextEntityType : TextEntityType → Option JsonObject
  | .mention => some [("type", .string "mention")]
  | .hashtag => some [("type", .string "hashtag")]
  | .cashtag => some [("type", .string "cashtag")]
  | .botCommand => some [("type", .string "bot_command")]
  | .url => some [("type", .string "url")]
  | .emailAddress => some [("type", .string "email")]
  | .phoneNumber => some [("type", .string "phone_number")]
  | .bankCardNumber => some [("type", .string "bank_card_number")]
  | .bold => some [("type", .string "bold")]
  | .italic => some [("type", .string "italic")]
  | .underline => some [("type", .string "underline")]
  | .strikethrough => some [("type", .string "strikethrough")]
  | .spoiler => some [("type", .string "spoiler")]
  | .code => some [("type", .string "code")]
  | .pre => some [("type", .string "pre")]
  | .preCode language => some [("type", .string "pre"), ("language", .string language)]
  | .textUrl url => some [("type", .string "text_link"), ("url", .string url)]
  | .mentionName userId => some [("type", .string "text_mention"), ("user", jsonUser getUserInfo userId)]
  | .customEmoji customEmojiId =>
      some [("type", .string "custom_emoji"), ("custom_emoji_id", .string (toString customEmojiId.toInt))]
  | .mediaTimestamp _ => none
  | .blockQuote => some [("type", .string "blockquote")]
  | .expandableBlockQuote => some [("type", .string "expandable_blockquote")]
  | .dateTime unixTime formattingType => (getDateTimeFormat formattingType).map (fun format =>
      [("type", .string "date_time"), ("unix_time", .number (toString unixTime.toInt)), ("date_time_format", .string format)])

def jsonEntity (entity : TextEntity) : Option JsonValue :=
  (jsonTextEntityType getUserInfo entity.type).map (fun type => .object
    (("offset", .number (toString entity.offset.toInt)) :: ("length", .number (toString entity.length.toInt)) :: type))

def isShown (entity : TextEntity) : Bool :=
  match entity.type with
  | .bankCardNumber => false
  | .mediaTimestamp _ => false
  | _ => true

def jsonVectorEntities (entities : List TextEntity) : Option (List JsonValue) :=
  (entities.filter isShown).mapM (jsonEntity getUserInfo)

def jsonLinkPreviewOptions (linkPreviewOptions : LinkPreviewOptions) : JsonObject :=
  optionalTrue "is_disabled" linkPreviewOptions.isDisabled ++ optionalString "url" linkPreviewOptions.url ++
    optionalTrue "prefer_small_media" linkPreviewOptions.forceSmallMedia ++
    optionalTrue "prefer_large_media" linkPreviewOptions.forceLargeMedia ++
    optionalTrue "show_above_text" linkPreviewOptions.showAboveText

def jsonMessageText (message : MessageText) : Option JsonObject := do
  let entities ← if message.text.entities = [] then some []
    else (jsonVectorEntities getUserInfo message.text.entities).map (fun values => [("entities", JsonValue.array values)])
  return ("text", .string message.text.text) :: entities ++
    (message.linkPreviewOptions.map (fun options =>
      ("link_preview_options", JsonValue.object (jsonLinkPreviewOptions options)))).toList

end Printer

inductive TextParseMode where
  | markdown (version : Nat)
  | html
deriving DecidableEq

structure Arguments where
  text : String
  parseMode : String := ""
  entities : String := ""
  linkPreviewOptions : String := ""
  disableWebPagePreview : String := ""

structure InputMessageText where
  text : FormattedText
  linkPreviewOptions : Option LinkPreviewOptions
  clearDraft : Bool
deriving DecidableEq

-- Parts of the library: how numbers and JSON are read, and the request parseTextEntities.
structure Library where
  numbers : Numbers
  jsonDecode : String → Option JsonValue
  parseTextEntities : String → TextParseMode → Result FormattedText

section Reader

variable (library : Library)

def getTextEntityType (object : JsonObject) : Result (Option TextEntityType) := do
  let type ← getRequiredStringField object "type"
  match type with
  | "" => .error ⟨0, "Type is not specified"⟩
  | "bold" => return some .bold
  | "italic" => return some .italic
  | "underline" => return some .underline
  | "strikethrough" => return some .strikethrough
  | "spoiler" => return some .spoiler
  | "code" => return some .code
  | "pre" =>
      let language ← getOptionalStringField object "language"
      return some (if language = "" then .pre else .preCode language)
  | "text_link" =>
      let url ← getRequiredStringField object "url"
      return some (.textUrl url)
  | "text_mention" =>
      let userObject ← extractRequiredObject object "user"
      let userId ← getRequiredLongField library.numbers userObject "id"
      return some (.mentionName userId)
  | "custom_emoji" =>
      let customEmojiId ← getRequiredLongField library.numbers object "custom_emoji_id"
      return some (.customEmoji customEmojiId)
  | "blockquote" => return some .blockQuote
  | "expandable_blockquote" => return some .expandableBlockQuote
  | "date_time" =>
      let unixTime ← getRequiredIntField library.numbers object "unix_time"
      let format ← getOptionalStringField object "date_time_format"
      let formattingType ← getDateTimeFormattingType format
      return some (.dateTime unixTime formattingType)
  | "mention" | "hashtag" | "cashtag" | "bot_command" | "url" | "email" | "phone_number" | "bank_card_number" => return none
  | _ => .error ⟨0, "Unsupported type specified"⟩

-- none for an entity that the server finds itself
def getTextEntity (value : JsonValue) : Result (Option TextEntity) :=
  match value with
  | .object object => do
      let offset ← getRequiredIntField library.numbers object "offset"
      let length ← getRequiredIntField library.numbers object "length"
      let type ← getTextEntityType library object
      return type.map (⟨offset, length, ·⟩)
  | _ => .error ⟨400, "expected an Object"⟩

def getTextEntities : List JsonValue → Result (List TextEntity)
  | [] => .ok []
  | value :: values =>
      match getTextEntity library value with
      | .error status => .error ⟨400, "Can't parse MessageEntity: " ++ status.message⟩
      | .ok none => getTextEntities values
      | .ok (some entity) => (getTextEntities values).map (entity :: ·)

def getParseMode (parseMode : String) : Result TextParseMode :=
  match parseMode with
  | "markdown" => .ok (.markdown 1)
  | "markdownv2" => .ok (.markdown 2)
  | "html" => .ok .html
  | _ => .error ⟨400, "Unsupported parse_mode"⟩

def maxTextSize : Nat := 2 ^ 15

def getFormattedText (text parseMode : String) (inputEntities : JsonValue) : Result FormattedText :=
  if text.utf8ByteSize > maxTextSize then .error ⟨400, "Text is too long"⟩
  else
    let parseMode := toLower parseMode
    if text ≠ "" ∧ parseMode ≠ "" ∧ parseMode ≠ "none" then
      getParseMode parseMode >>= library.parseTextEntities text
    else
      match inputEntities with
      | .array values => (getTextEntities library values).map (⟨text, ·⟩)
      | _ => .ok ⟨text, []⟩

def getInputEntities (entities : String) : JsonValue :=
  if entities = "" then .null else (library.jsonDecode entities).getD .null

def getLinkPreviewOptionsValue (value : JsonValue) : Result LinkPreviewOptions :=
  match value with
  | .object object => do
      let isDisabled ← getOptionalBoolField object "is_disabled"
      let url ← getOptionalStringField object "url"
      let preferSmallMedia ← getOptionalBoolField object "prefer_small_media"
      let preferLargeMedia ← getOptionalBoolField object "prefer_large_media"
      let showAboveText ← getOptionalBoolField object "show_above_text"
      return ⟨isDisabled, url, preferSmallMedia, preferLargeMedia, showAboveText⟩
  | _ => .error ⟨400, "Object expected as link preview options"⟩

def getLinkPreviewOptions (arguments : Arguments) : Result (Option LinkPreviewOptions) :=
  if arguments.linkPreviewOptions = "" then
    .ok (if toBool arguments.disableWebPagePreview then some ⟨true, "", false, false, false⟩ else none)
  else
    match library.jsonDecode arguments.linkPreviewOptions with
    | none => .error ⟨400, "Can't parse link preview options JSON object"⟩
    | some value => (getLinkPreviewOptionsValue value).map some

def getInputMessageText (arguments : Arguments) : Result InputMessageText := do
  let linkPreviewOptions ← getLinkPreviewOptions library arguments
  if arguments.text = "" then .error ⟨400, "Message text is empty"⟩
  else
    let formattedText ← getFormattedText library arguments.text arguments.parseMode (getInputEntities library arguments.entities)
    return ⟨formattedText, linkPreviewOptions, false⟩

end Reader

-- What the Bot API transports of an entity: none of the kinds that the server finds itself, and
-- no format or language that shows nothing.
def sentPrecision : Option DateTimePartPrecision → Option DateTimePartPrecision
  | some .none => none
  | precision => precision

def sentFormat : Option DateTimeFormattingType → Option DateTimeFormattingType
  | some (.absolute timePrecision datePrecision showDayOfWeek) =>
      if sentPrecision timePrecision = none ∧ sentPrecision datePrecision = none ∧ showDayOfWeek = false then none
      else some (.absolute (sentPrecision timePrecision) (sentPrecision datePrecision) showDayOfWeek)
  | formattingType => formattingType

def sentType : TextEntityType → Option TextEntityType
  | .mention | .hashtag | .cashtag | .botCommand | .url | .emailAddress | .phoneNumber | .bankCardNumber => none
  | .mediaTimestamp _ => none
  | .preCode language => some (if language = "" then .pre else .preCode language)
  | .dateTime unixTime formattingType => some (.dateTime unixTime (sentFormat formattingType))
  | type => some type

def sentEntity (entity : TextEntity) : Option TextEntity := (sentType entity.type).map (⟨entity.offset, entity.length, ·⟩)

def sentEntities (entities : List TextEntity) : List TextEntity := entities.filterMap sentEntity

-- The entity that the library shows for one it was sent: the precisions are no null pointers.
def receivedType : TextEntityType → TextEntityType
  | .dateTime unixTime formattingType => .dateTime unixTime (readAbsentFormat formattingType)
  | type => type

def receivedEntity (entity : TextEntity) : TextEntity := { entity with type := receivedType entity.type }

def presentType : TextEntityType → Bool
  | .dateTime _ formattingType => presentFormat formattingType
  | _ => true

def Present (entities : List TextEntity) : Prop := ∀ entity ∈ entities, presentType entity.type = true

instance (entities : List TextEntity) : Decidable (Present entities) :=
  inferInstanceAs (Decidable (∀ entity ∈ entities, presentType entity.type = true))

def sentBack (encode : JsonValue → String) (fields : JsonObject) : Arguments where
  text := match getField fields "text" with
    | some (.string text) => text
    | _ => ""
  entities := ((getField fields "entities").map encode).getD ""
  linkPreviewOptions := ((getField fields "link_preview_options").map encode).getD ""

def ReadsBack (library : Library) (encode : JsonValue → String) (fields : JsonObject) : Prop :=
  ∀ name value, getField fields name = some value → encode value ≠ "" ∧ library.jsonDecode (encode value) = some value

section Survival

variable (library : Library) (getUserInfo : Int64 → Option UserInfo)

theorem format_sent (formattingType : Option DateTimeFormattingType) (present : presentFormat formattingType = true) :
    ∃ format, getDateTimeFormat formattingType = some format ∧
      getDateTimeFormattingType format = .ok (sentFormat formattingType) := by
  cases formattingType with
  | none => exact ⟨"", rfl, rfl⟩
  | some type =>
      cases type with
      | relative => exact ⟨"r", rfl, rfl⟩
      | absolute timePrecision datePrecision showDayOfWeek =>
          simp only [presentFormat, Bool.and_eq_true, Option.isSome_iff_exists] at present
          obtain ⟨⟨time, rfl⟩, ⟨date, rfl⟩⟩ := present
          cases time <;> cases date <;> cases showDayOfWeek <;> exact ⟨_, rfl, rfl⟩

theorem entity_read (lawful : library.numbers.Lawful) (entity : TextEntity) (type : String) (fields : JsonObject)
    (print : jsonTextEntityType getUserInfo entity.type = some (("type", .string type) :: fields))
    (read : ∀ offset length, getTextEntityType library
      (("offset", offset) :: ("length", length) :: ("type", .string type) :: fields) = .ok (sentType entity.type)) :
    ∃ value, jsonEntity getUserInfo entity = some value ∧ getTextEntity library value = .ok (sentEntity entity) := by
  refine ⟨_, by rw [jsonEntity, print, Option.map_some], ?_⟩
  have offset : getRequiredIntField library.numbers (("offset", JsonValue.number (toString entity.offset.toInt)) ::
      ("length", JsonValue.number (toString entity.length.toInt)) :: ("type", .string type) :: fields) "offset" =
      .ok entity.offset := read_number _ _ _ _ _ (.inl rfl) (lawful.toInt32 entity.offset)
  have length : getRequiredIntField library.numbers (("offset", JsonValue.number (toString entity.offset.toInt)) ::
      ("length", JsonValue.number (toString entity.length.toInt)) :: ("type", .string type) :: fields) "length" =
      .ok entity.length := read_number _ _ _ _ _ (.inl rfl) (lawful.toInt32 entity.length)
  rw [getTextEntity, offset, Checked.ok_bind, length, Checked.ok_bind, read, Checked.ok_bind]
  rfl

theorem entity_survives (lawful : library.numbers.Lawful) (entity : TextEntity) (shown : isShown entity = true)
    (present : presentType entity.type = true) :
    ∃ value, jsonEntity getUserInfo entity = some value ∧ getTextEntity library value = .ok (sentEntity entity) := by
  obtain ⟨offset, length, type⟩ := entity
  cases type with
  | bankCardNumber => cases shown
  | mediaTimestamp _ => cases shown
  | mentionName userId =>
      apply entity_read library getUserInfo lawful _ "text_mention" _ rfl
      intro offset length
      have read : getRequiredLongField library.numbers
        (("id", .number (toString userId.toInt)) :: jsonUserInfo (getUserInfo userId)) "id" =
          .ok userId := read_number _ _ "id" (toString userId.toInt) userId (.inl rfl) (lawful.toInt64 userId)
      change (getRequiredLongField library.numbers
        (("id", .number (toString userId.toInt)) :: jsonUserInfo (getUserInfo userId)) "id" >>=
        fun userId => .ok (some (TextEntityType.mentionName userId))) = _
      rw [read]
      rfl
  | customEmoji customEmojiId =>
      apply entity_read library getUserInfo lawful _ "custom_emoji" _ rfl
      intro offset length
      have read : getRequiredLongField library.numbers [("offset", offset), ("length", length), ("type", .string "custom_emoji"),
          ("custom_emoji_id", .string (toString customEmojiId.toInt))] "custom_emoji_id" = .ok customEmojiId :=
        read_number _ _ _ (toString customEmojiId.toInt) customEmojiId (.inr rfl) (lawful.toInt64 customEmojiId)
      change (getRequiredLongField library.numbers [("offset", offset), ("length", length), ("type", .string "custom_emoji"),
          ("custom_emoji_id", .string (toString customEmojiId.toInt))] "custom_emoji_id" >>=
        fun customEmojiId => .ok (some (TextEntityType.customEmoji customEmojiId))) = _
      rw [read]
      rfl
  | dateTime unixTime formattingType =>
      obtain ⟨format, printed, read⟩ := format_sent formattingType present
      apply entity_read library getUserInfo lawful _ "date_time" [("unix_time", .number (toString unixTime.toInt)),
        ("date_time_format", .string format)]
      · rw [jsonTextEntityType, printed, Option.map_some]
      · intro offset length
        have time : getRequiredIntField library.numbers [("offset", offset), ("length", length), ("type", .string "date_time"),
            ("unix_time", .number (toString unixTime.toInt)), ("date_time_format", .string format)] "unix_time" = .ok unixTime :=
          read_number _ _ _ (toString unixTime.toInt) unixTime (.inl rfl) (lawful.toInt32 unixTime)
        change (getRequiredIntField library.numbers [("offset", offset), ("length", length), ("type", .string "date_time"),
            ("unix_time", .number (toString unixTime.toInt)), ("date_time_format", .string format)] "unix_time" >>=
            fun unixTime =>
          getDateTimeFormattingType format >>= fun formattingType =>
          .ok (some (TextEntityType.dateTime unixTime formattingType))) = _
        rw [time, Checked.ok_bind, read]
        rfl
  | preCode language =>
      apply entity_read library getUserInfo lawful _ "pre" _ rfl
      intro offset length
      rfl
  | _ => exact entity_read library getUserInfo lawful _ _ _ rfl (fun _ _ => rfl)

theorem hidden_not_sent (entity : TextEntity) (hidden : isShown entity = false) : sentEntity entity = none := by
  obtain ⟨offset, length, type⟩ := entity
  cases type <;> first | rfl | cases hidden

theorem entities_survive (lawful : library.numbers.Lawful) (entities : List TextEntity) (present : Present entities) :
    ∃ values, jsonVectorEntities getUserInfo entities = some values ∧
      getTextEntities library values = .ok (sentEntities entities) := by
  induction entities with
  | nil => exact ⟨[], rfl, rfl⟩
  | cons entity entities ih =>
      obtain ⟨values, printed, read⟩ := ih (fun other member => present other (List.mem_cons_of_mem entity member))
      cases shown : isShown entity with
      | false =>
          refine ⟨values, ?_, ?_⟩
          · rw [jsonVectorEntities, List.filter_cons_of_neg (by simp [shown])]
            exact printed
          · rw [read, sentEntities, sentEntities, List.filterMap_cons, hidden_not_sent entity shown]
      | true =>
          obtain ⟨value, printedFirst, readFirst⟩ := entity_survives library getUserInfo lawful entity shown
            (present entity (List.mem_cons_self))
          refine ⟨value :: values, ?_, ?_⟩
          · rw [jsonVectorEntities, List.filter_cons_of_pos shown, List.mapM_cons, printedFirst]
            rw [jsonVectorEntities] at printed
            rw [printed]
            rfl
          · rw [getTextEntities, readFirst, sentEntities, List.filterMap_cons]
            cases sentEntity entity with
            | none => exact read
            | some sent =>
                simp only [read]
                rfl

theorem options_survive (options : LinkPreviewOptions) :
    getLinkPreviewOptionsValue (.object (jsonLinkPreviewOptions options)) = .ok options := by
  obtain ⟨isDisabled, url, small, large, above⟩ := options
  have disabled := read_optional_true (jsonLinkPreviewOptions ⟨isDisabled, url, small, large, above⟩) "is_disabled" isDisabled
    (by simp [jsonLinkPreviewOptions])
  have link := read_optional_string (jsonLinkPreviewOptions ⟨isDisabled, url, small, large, above⟩) "url" url
    (by simp [jsonLinkPreviewOptions])
  have preferSmall := read_optional_true
    (jsonLinkPreviewOptions ⟨isDisabled, url, small, large, above⟩) "prefer_small_media" small
    (by simp [jsonLinkPreviewOptions])
  have preferLarge := read_optional_true
    (jsonLinkPreviewOptions ⟨isDisabled, url, small, large, above⟩) "prefer_large_media" large
    (by simp [jsonLinkPreviewOptions])
  have showAbove := read_optional_true (jsonLinkPreviewOptions ⟨isDisabled, url, small, large, above⟩) "show_above_text" above
    (by simp [jsonLinkPreviewOptions])
  rw [getLinkPreviewOptionsValue, disabled, Checked.ok_bind, link, Checked.ok_bind, preferSmall, Checked.ok_bind, preferLarge,
    Checked.ok_bind, showAbove, Checked.ok_bind]
  rfl

theorem precision_settles (precision : Option DateTimePartPrecision) :
    sentPrecision (some ((sentPrecision precision).getD .none)) = sentPrecision precision := by
  cases precision with
  | none => rfl
  | some precision => cases precision <;> rfl

theorem format_settles (formattingType : Option DateTimeFormattingType) :
    sentFormat (readAbsentFormat (sentFormat formattingType)) = sentFormat formattingType := by
  cases formattingType with
  | none => rfl
  | some type =>
      cases type with
      | relative => rfl
      | absolute timePrecision datePrecision showDayOfWeek =>
          by_cases nothing : sentPrecision timePrecision = none ∧ sentPrecision datePrecision = none ∧ showDayOfWeek = false
          · simp [sentFormat, nothing, readAbsentFormat]
          · simp [sentFormat, nothing, readAbsentFormat, precision_settles]

theorem entity_settles (entity sent : TextEntity) (transported : sentEntity entity = some sent) :
    sentEntity (receivedEntity sent) = some sent := by
  obtain ⟨offset, length, type⟩ := entity
  cases type with
  | dateTime unixTime formattingType =>
      cases transported
      simp only [receivedEntity, receivedType, sentEntity, sentType, format_settles]
      rfl
  | preCode language =>
      cases transported
      by_cases empty : language = "" <;> simp [receivedEntity, receivedType, sentEntity, sentType, empty]
  | _ =>
      cases transported
      try rfl

theorem entities_settle (entities : List TextEntity) :
    sentEntities ((sentEntities entities).map receivedEntity) = sentEntities entities := by
  induction entities with
  | nil => rfl
  | cons entity entities ih =>
      cases transported : sentEntity entity with
      | none =>
          simp only [sentEntities, List.filterMap_cons, transported] at ih ⊢
          exact ih
      | some sent =>
          simp only [sentEntities, List.filterMap_cons, transported, List.map_cons,
            entity_settles entity sent transported] at ih ⊢
          rw [ih]

theorem fields_printed (lawful : library.numbers.Lawful) (message : MessageText) (present : Present message.text.entities) :
    ∃ fields, jsonMessageText getUserInfo message = some fields ∧ getField fields "text" = some (.string message.text.text) ∧
      (getField fields "link_preview_options" =
        message.linkPreviewOptions.map (fun options => .object (jsonLinkPreviewOptions options))) ∧
      ∃ values, getTextEntities library values = .ok (sentEntities message.text.entities) ∧
        (getField fields "entities" = some (.array values) ∨ getField fields "entities" = none ∧ values = []) := by
  obtain ⟨⟨text, entities⟩, options⟩ := message
  obtain ⟨values, printed, read⟩ := entities_survive library getUserInfo lawful entities present
  by_cases none : entities = []
  · subst none
    refine ⟨_, rfl, rfl, ?_, [], rfl, .inr ⟨?_, rfl⟩⟩ <;> cases options <;> rfl
  · refine ⟨("text", .string text) :: [("entities", JsonValue.array values)] ++
      (options.map (fun options => ("link_preview_options", JsonValue.object (jsonLinkPreviewOptions options)))).toList,
      ?_, rfl, ?_, values, read, .inl rfl⟩
    · simp only [jsonMessageText, if_neg none, printed]
      rfl
    · cases options <;> rfl

theorem message_text_survives (lawful : library.numbers.Lawful) (encode : JsonValue → String) (message : MessageText)
    (present : Present message.text.entities) (nonempty : message.text.text ≠ "")
    (readsBack : ∀ fields, jsonMessageText getUserInfo message = some fields → ReadsBack library encode fields) :
    (∃ fields, jsonMessageText getUserInfo message = some fields ∧
      getInputMessageText library (sentBack encode fields) =
        if message.text.text.utf8ByteSize > maxTextSize then .error ⟨400, "Text is too long"⟩
        else .ok ⟨⟨message.text.text, sentEntities message.text.entities⟩, message.linkPreviewOptions, false⟩) ∧
    sentEntities ((sentEntities message.text.entities).map receivedEntity) = sentEntities message.text.entities := by
  refine ⟨?_, entities_settle message.text.entities⟩
  obtain ⟨fields, printed, text, preview, values, read, entities⟩ := fields_printed library getUserInfo lawful message present
  have decodes := readsBack fields printed
  refine ⟨fields, printed, ?_⟩
  have sentText : (sentBack encode fields).text = message.text.text := by
    simp only [sentBack, text]
  have sentPreview : getLinkPreviewOptions library (sentBack encode fields) = .ok message.linkPreviewOptions := by
    cases options : message.linkPreviewOptions with
    | none =>
        rw [options] at preview
        simp only [getLinkPreviewOptions, sentBack, preview]
        rfl
    | some options =>
        rw [options] at preview
        obtain ⟨filled, decoded⟩ := decodes _ _ preview
        simp only [getLinkPreviewOptions, sentBack, preview, Option.map_some, Option.getD_some, if_neg filled, decoded,
          options_survive]
        rfl
  have formatted : getFormattedText library message.text.text "" (getInputEntities library (sentBack encode fields).entities) =
      if message.text.text.utf8ByteSize > maxTextSize then .error ⟨400, "Text is too long"⟩
      else .ok ⟨message.text.text, sentEntities message.text.entities⟩ := by
    unfold getFormattedText
    split
    · rfl
    · rw [if_neg (fun parsed => parsed.2.1 rfl)]
      rcases entities with found | ⟨found, rfl⟩
      · obtain ⟨filled, decoded⟩ := decodes _ _ found
        simp only [sentBack, found, Option.map_some, Option.getD_some, getInputEntities, if_neg filled, decoded, read]
        rfl
      · simp only [sentBack, found, Option.map_none, Option.getD_none, getInputEntities, if_true, ← Except.ok.inj read]
  rw [getInputMessageText, sentPreview, Checked.ok_bind, sentText, if_neg nonempty]
  change (getFormattedText library message.text.text "" (getInputEntities library (sentBack encode fields).entities) >>= _) = _
  rw [formatted]
  split <;> rfl

end Survival

section Example

def greeting : MessageText where
  text := ⟨"hello @bot, see 10:00", [⟨0, 5, .bold⟩, ⟨6, 4, .mention⟩, ⟨0, 5, .preCode ""⟩, ⟨16, 5, .mediaTimestamp 600⟩,
    ⟨16, 5, .dateTime 1700000000 (some (.absolute (some .short) (some .none) false))⟩]⟩
  linkPreviewOptions := some ⟨false, "https://example.org/", false, true, false⟩

def greetingEncode : JsonValue → String
  | .array _ => "entities"
  | .object _ => "options"
  | _ => "text"

def greetingEntities : List JsonValue := (jsonVectorEntities (fun _ => none) greeting.text.entities).getD []

def greetingLibrary : Library where
  numbers := safeNumbers
  jsonDecode text :=
    if text = "entities" then some (.array greetingEntities)
    else if text = "options" then some (.object (jsonLinkPreviewOptions ⟨false, "https://example.org/", false, true, false⟩))
    else if text = "text" then some (.string greeting.text.text)
    else none
  parseTextEntities text _ := .ok ⟨text, []⟩

theorem greeting_printed : jsonMessageText (fun _ => none) greeting = some [("text", .string greeting.text.text),
    ("entities", .array greetingEntities), ("link_preview_options", .object
      (jsonLinkPreviewOptions ⟨false, "https://example.org/", false, true, false⟩))] := rfl

theorem greeting_reads_back (fields : JsonObject) (printed : jsonMessageText (fun _ => none) greeting = some fields) :
    ReadsBack greetingLibrary greetingEncode fields := by
  cases greeting_printed.symm.trans printed
  intro name value found
  rw [get_field_cons, get_field_cons, get_field_cons, get_field_nil] at found
  split at found
  · cases found
    exact ⟨by decide, rfl⟩
  split at found
  · cases found
    exact ⟨by decide, rfl⟩
  split at found
  · cases found
    exact ⟨by decide, rfl⟩
  · cases found

theorem greeting_survives :
    (∃ fields, jsonMessageText (fun _ => none) greeting = some fields ∧
      getInputMessageText greetingLibrary (sentBack greetingEncode fields) =
        if greeting.text.text.utf8ByteSize > maxTextSize then .error ⟨400, "Text is too long"⟩
        else .ok ⟨⟨greeting.text.text, sentEntities greeting.text.entities⟩, greeting.linkPreviewOptions, false⟩) ∧
    sentEntities ((sentEntities greeting.text.entities).map receivedEntity) = sentEntities greeting.text.entities := by
  apply message_text_survives greetingLibrary (fun _ => none) safe_numbers_lawful greetingEncode greeting
  · decide
  · decide
  · exact greeting_reads_back

example : sentEntities greeting.text.entities =
    [⟨0, 5, .bold⟩, ⟨0, 5, .pre⟩, ⟨16, 5, .dateTime 1700000000 (some (.absolute (some .short) none false))⟩] := by decide

end Example

end TelegramBotApi.MessageTexts
