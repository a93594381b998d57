import TelegramBotApi.RichTexts

set_option autoImplicit false

-- The blocks of a rich message: as TDLib gives them and the server prints them, and as a
-- request has them.
namespace TelegramBotApi.RichBlocks

open JsonObject RichTexts

def int32Value (value : Int32) : JsonValue := .number (toString value.toInt)

structure File where
  id : Int32
  remoteId : String
  uniqueId : String
  size : Int64

def jsonStoreFile (file : File) : JsonObject :=
  if file.id = 0 then []
  else [("file_id", JsonValue.string file.remoteId), ("file_unique_id", JsonValue.string file.uniqueId)] ++
    if file.size = 0 then [] else [("file_size", .number (toString file.size.toInt))]

structure Thumbnail where
  isMpeg4 : Bool
  file : File
  width : Int32
  height : Int32

def jsonThumbnail (thumbnail : Thumbnail) : JsonValue :=
  .object (jsonStoreFile thumbnail.file ++ [("width", int32Value thumbnail.width), ("height", int32Value thumbnail.height)])

-- none when the assertion about the file fails
def jsonStoreThumbnail : Option Thumbnail → Option JsonObject
  | none => some []
  | some thumbnail =>
      if thumbnail.isMpeg4 then some []
      else if 0 < thumbnail.file.id then
        some [("thumbnail", jsonThumbnail thumbnail), ("thumb", jsonThumbnail thumbnail)]
      else none

structure Animation where
  duration : Int32
  width : Int32
  height : Int32
  fileName : String
  mimeType : String
  thumbnail : Option Thumbnail
  animation : File

structure Audio where
  duration : Int32
  title : String
  performer : String
  fileName : String
  mimeType : String
  albumCoverThumbnail : Option Thumbnail
  audio : File

structure PhotoSize where
  type : String
  photo : File
  width : Int32
  height : Int32

structure Video where
  duration : Int32
  width : Int32
  height : Int32
  fileName : String
  mimeType : String
  thumbnail : Option Thumbnail
  video : File

structure VoiceNote where
  duration : Int32
  mimeType : String
  voice : File

def jsonAnimation (animation : Animation) : Option JsonObject :=
  (jsonStoreThumbnail animation.thumbnail).map (fun thumbnail =>
    optionalString "file_name" animation.fileName ++ optionalString "mime_type" animation.mimeType ++
      [("duration", int32Value animation.duration), ("width", int32Value animation.width),
        ("height", int32Value animation.height)] ++ thumbnail ++ jsonStoreFile animation.animation)

def jsonAudio (audio : Audio) : Option JsonObject :=
  (jsonStoreThumbnail audio.albumCoverThumbnail).map (fun thumbnail =>
    [("duration", int32Value audio.duration)] ++ optionalString "file_name" audio.fileName ++
      optionalString "mime_type" audio.mimeType ++ optionalString "title" audio.title ++
      optionalString "performer" audio.performer ++ thumbnail ++ jsonStoreFile audio.audio)

def jsonPhotoSize (size : PhotoSize) : JsonValue :=
  .object (jsonStoreFile size.photo ++ [("width", int32Value size.width), ("height", int32Value size.height)])

def jsonPhoto (sizes : List PhotoSize) : JsonValue :=
  .array ((sizes.filter (fun size => size.type ≠ "i" ∧ size.type ≠ "t" ∧ size.photo.remoteId ≠ "")).map jsonPhotoSize)

-- cover, start timestamp and qualities are not passed for a block
def jsonVideo (video : Video) : Option JsonObject :=
  (jsonStoreThumbnail video.thumbnail).map (fun thumbnail =>
    [("duration", int32Value video.duration), ("width", int32Value video.width), ("height", int32Value video.height)] ++
      optionalString "file_name" video.fileName ++ optionalString "mime_type" video.mimeType ++ thumbnail ++
      jsonStoreFile video.video)

def jsonVoiceNote (voiceNote : VoiceNote) : JsonObject :=
  [("duration", int32Value voiceNote.duration)] ++ optionalString "mime_type" voiceNote.mimeType ++
    jsonStoreFile voiceNote.voice

inductive HorizontalAlignment where
  | left | center | right
deriving DecidableEq

inductive VerticalAlignment where
  | top | middle | bottom
deriving DecidableEq

structure TableCell where
  text : RichText
  isHeader : Bool
  colspan : Int32
  rowspan : Int32
  align : HorizontalAlignment
  valign : VerticalAlignment

structure Caption where
  text : RichText
  credit : RichText

-- What td prints for a double, what it reads, and which doubles are positive.
structure Doubles (Double : Type) where
  zero : Double
  positive : Double → Bool
  print : Double → String
  toDouble : String → Double

structure Location (Double : Type) where
  latitude : Double
  longitude : Double
  horizontalAccuracy : Double

mutual
inductive PageBlock (Double : Type) where
  | sectionHeading (text : RichText) (size : Int32)
  | paragraph (text : RichText)
  | preformatted (text : RichText) (language : String)
  | footer (footer : RichText)
  | divider
  | mathematicalExpression (expression : String)
  | anchor (name : String)
  | list (items : List (PageBlockListItem Double))
  | blockQuote (blocks : List (PageBlock Double)) (credit : RichText)
  | pullQuote (text credit : RichText)
  | collage (blocks : List (PageBlock Double)) (caption : Option Caption)
  | slideshow (blocks : List (PageBlock Double)) (caption : Option Caption)
  | table (caption : RichText) (cells : List (List TableCell)) (isBordered isStriped : Bool)
  | details (header : RichText) (blocks : List (PageBlock Double)) (isOpen : Bool)
  | map (location : Location Double) (zoom width height : Int32) (caption : Option Caption)
  | animation (animation : Option Animation) (caption : Option Caption) (needAutoplay hasSpoiler : Bool)
  | audio (audio : Option Audio) (caption : Option Caption)
  | photo (sizes : Option (List PhotoSize)) (caption : Option Caption) (hasSpoiler : Bool)
  | video (video : Option Video) (caption : Option Caption) (needAutoplay isLooped hasSpoiler : Bool)
  | voiceNote (voiceNote : Option VoiceNote) (caption : Option Caption)
  | other   -- the blocks that the Bot API does not know
inductive PageBlockListItem (Double : Type) where
  | item (label : String) (blocks : List (PageBlock Double)) (hasCheckbox isChecked : Bool) (value : Int32) (type : String)
end

structure RichMessage (Double : Type) where
  blocks : List (PageBlock Double)
  isRtl : Bool

mutual
inductive InputPageBlock (Double Media : Type) where
  | sectionHeading (text : RichText) (size : Int32)
  | paragraph (text : RichText)
  | preformatted (text : RichText) (language : String)
  | footer (footer : RichText)
  | thinking (text : RichText)
  | divider
  | mathematicalExpression (expression : String)
  | anchor (name : String)
  | list (items : List (InputPageBlockListItem Double Media))
  | blockQuote (blocks : List (InputPageBlock Double Media)) (credit : RichText)
  | pullQuote (text credit : RichText)
  | collage (blocks : List (InputPageBlock Double Media)) (caption : Option Caption)
  | slideshow (blocks : List (InputPageBlock Double Media)) (caption : Option Caption)
  | table (caption : RichText) (cells : List (List TableCell)) (isBordered isStriped : Bool)
  | details (header : RichText) (blocks : List (InputPageBlock Double Media)) (isOpen : Bool)
  | map (location : Location Double) (zoom width height : Int32) (caption : Option Caption)
  | animation (animation : Media) (caption : Option Caption) (hasSpoiler : Bool)
  | audio (audio : Media) (caption : Option Caption)
  | photo (photo : Media) (caption : Option Caption) (hasSpoiler : Bool)
  | video (video : Media) (caption : Option Caption) (hasSpoiler : Bool)
  | voiceNote (voiceNote : Media) (caption : Option Caption)
inductive InputPageBlockListItem (Double Media : Type) where
  | item (blocks : List (InputPageBlock Double Media)) (hasCheckbox isChecked : Bool) (value : Int32) (type : String)
end

section Printer

variable {Double : Type} (doubles : Doubles Double) (getUserInfo : Int64 → Option UserInfo)

def optionalText (name : String) : RichText → Option JsonObject
  | .missing => some []
  | text => (jsonRichText getUserInfo text).map (fun value => [(name, value)])

def alignmentName : HorizontalAlignment → String
  | .left => "left"
  | .center => "center"
  | .right => "right"

def verticalAlignmentName : VerticalAlignment → String
  | .top => "top"
  | .middle => "middle"
  | .bottom => "bottom"

def optionalSpan (name : String) (span : Int32) : JsonObject := if 1 < span then [(name, int32Value span)] else []

def jsonTableCell (cell : TableCell) : Option JsonValue := do
  let text ← optionalText getUserInfo "text" cell.text
  return .object (text ++ optionalTrue "is_header" cell.isHeader ++ optionalSpan "colspan" cell.colspan ++
    optionalSpan "rowspan" cell.rowspan ++
    [("align", JsonValue.string (alignmentName cell.align)), ("valign", JsonValue.string (verticalAlignmentName cell.valign))])

def jsonTableRow (cells : List TableCell) : Option JsonValue := (cells.mapM (jsonTableCell getUserInfo)).map .array

def jsonCaption (caption : Caption) : Option JsonValue := do
  let text ← jsonRichText getUserInfo caption.text
  let credit ← optionalText getUserInfo "credit" caption.credit
  return .object (("text", text) :: credit)

def optionalCaption : Option Caption → Option JsonObject
  | none => some []
  | some caption => (jsonCaption getUserInfo caption).map (fun value => [("caption", value)])

def jsonLocation (location : Location Double) : JsonValue :=
  .object ([("latitude", .number (doubles.print location.latitude)), ("longitude", .number (doubles.print location.longitude))] ++
    if doubles.positive location.horizontalAccuracy then
      [("horizontal_accuracy", .number (doubles.print location.horizontalAccuracy))]
    else [])

def unknownBlock : JsonValue := .object [("type", .string "unknown")]

mutual
-- none when a null pointer is read
def jsonRichBlock : PageBlock Double → Option JsonValue
  | .sectionHeading text size => do
      let text ← jsonRichText getUserInfo text
      return .object [("type", .string "heading"), ("text", text), ("size", int32Value size)]
  | .paragraph text => do
      let text ← jsonRichText getUserInfo text
      return .object [("type", .string "paragraph"), ("text", text)]
  | .preformatted text language => do
      let text ← jsonRichText getUserInfo text
      return .object ([("type", JsonValue.string "pre"), ("text", text)] ++ optionalString "language" language)
  | .footer footer => do
      let text ← jsonRichText getUserInfo footer
      return .object [("type", .string "footer"), ("text", text)]
  | .divider => some (.object [("type", .string "divider")])
  | .mathematicalExpression expression =>
      some (.object [("type", .string "mathematical_expression"), ("expression", .string expression)])
  | .anchor name => some (.object [("type", .string "anchor"), ("name", .string name)])
  | .list items => do
      let items ← jsonListItems items
      return .object [("type", .string "list"), ("items", .array items)]
  | .blockQuote blocks credit => do
      let blocks ← jsonRichBlocks blocks
      let credit ← optionalText getUserInfo "credit" credit
      return .object ([("type", JsonValue.string "blockquote"), ("blocks", JsonValue.array blocks)] ++ credit)
  | .pullQuote text credit => do
      let text ← jsonRichText getUserInfo text
      let credit ← optionalText getUserInfo "credit" credit
      return .object ([("type", JsonValue.string "pullquote"), ("text", text)] ++ credit)
  | .collage blocks caption => do
      let blocks ← jsonRichBlocks blocks
      let caption ← optionalCaption getUserInfo caption
      return .object ([("type", JsonValue.string "collage"), ("blocks", JsonValue.array blocks)] ++ caption)
  | .slideshow blocks caption => do
      let blocks ← jsonRichBlocks blocks
      let caption ← optionalCaption getUserInfo caption
      return .object ([("type", JsonValue.string "slideshow"), ("blocks", JsonValue.array blocks)] ++ caption)
  | .table caption cells isBordered isStriped => do
      let cells ← cells.mapM (jsonTableRow getUserInfo)
      let caption ← optionalText getUserInfo "caption" caption
      return .object ([("type", JsonValue.string "table"), ("cells", JsonValue.array cells)] ++ caption ++
        optionalTrue "is_bordered" isBordered ++ optionalTrue "is_striped" isStriped)
  | .details header blocks isOpen => do
      let summary ← jsonRichText getUserInfo header
      let blocks ← jsonRichBlocks blocks
      return .object ([("type", JsonValue.string "details"), ("summary", summary), ("blocks", JsonValue.array blocks)] ++
        optionalTrue "is_open" isOpen)
  | .map location zoom width height caption => do
      let caption ← optionalCaption getUserInfo caption
      return .object ([("type", JsonValue.string "map"), ("location", jsonLocation doubles location), ("zoom", int32Value zoom),
        ("width", int32Value width), ("height", int32Value height)] ++ caption)
  | .animation none _ _ _ => some unknownBlock
  | .animation (some animation) caption needAutoplay hasSpoiler => do
      let media ← jsonAnimation animation
      let caption ← optionalCaption getUserInfo caption
      return .object ([("type", JsonValue.string "animation"), ("animation", JsonValue.object media)] ++ caption ++
        optionalTrue "need_autoplay" needAutoplay ++ optionalTrue "has_spoiler" hasSpoiler)
  | .audio none _ => some unknownBlock
  | .audio (some audio) caption => do
      let media ← jsonAudio audio
      let caption ← optionalCaption getUserInfo caption
      return .object ([("type", JsonValue.string "audio"), ("audio", JsonValue.object media)] ++ caption)
  | .photo none _ _ => some unknownBlock
  | .photo (some sizes) caption hasSpoiler => do
      let caption ← optionalCaption getUserInfo caption
      return .object ([("type", JsonValue.string "photo"), ("photo", jsonPhoto sizes)] ++ caption ++
        optionalTrue "has_spoiler" hasSpoiler)
  | .video none _ _ _ _ => some unknownBlock
  | .video (some video) caption needAutoplay isLooped hasSpoiler => do
      let media ← jsonVideo video
      let caption ← optionalCaption getUserInfo caption
      return .object ([("type", JsonValue.string "video"), ("video", JsonValue.object media)] ++ caption ++
        optionalTrue "need_autoplay" needAutoplay ++ optionalTrue "is_looped" isLooped ++
        optionalTrue "has_spoiler" hasSpoiler)
  | .voiceNote none _ => some unknownBlock
  | .voiceNote (some voiceNote) caption => do
      let caption ← optionalCaption getUserInfo caption
      return .object ([("type", JsonValue.string "voice_note"),
        ("voice_note", JsonValue.object (jsonVoiceNote voiceNote))] ++ caption)
  | .other => some unknownBlock
def jsonRichBlocks : List (PageBlock Double) → Option (List JsonValue)
  | [] => some []
  | block :: blocks => do
      let value ← jsonRichBlock block
      let values ← jsonRichBlocks blocks
      return value :: values
def jsonListItem : PageBlockListItem Double → Option JsonValue
  | .item label blocks hasCheckbox isChecked value type => do
      let blocks ← jsonRichBlocks blocks
      return .object ([("label", JsonValue.string label), ("blocks", JsonValue.array blocks)] ++
        optionalTrue "has_checkbox" hasCheckbox ++
        optionalTrue "is_checked" (hasCheckbox && isChecked) ++
        (if type = "" then [] else [("type", JsonValue.string type), ("value", int32Value value)]))
def jsonListItems : List (PageBlockListItem Double) → Option (List JsonValue)
  | [] => some []
  | item :: items => do
      let value ← jsonListItem item
      let values ← jsonListItems items
      return value :: values
end

theorem json_of_unknown : jsonRichBlock doubles getUserInfo .other = some unknownBlock := by rw [jsonRichBlock]

def jsonRichMessage (message : RichMessage Double) : Option JsonValue := do
  let blocks ← jsonRichBlocks doubles getUserInfo message.blocks
  return .object (("blocks", .array blocks) :: optionalTrue "is_rtl" message.isRtl)

end Printer

-- The readers that a block rests on: numbers of td, doubles, and get_input_media for a rich
-- message, given the object and the type.
structure Readers (Double Media : Type) extends Numbers where
  doubles : Doubles Double
  getInputMedia : JsonObject → String → Result Media

section Reader

variable {Double Media : Type} (readers : Readers Double Media)

def getOptionalIntField (object : JsonObject) (name : String) : Result Int32 :=
  match getField object name with
  | none => .ok 0
  | some _ => getRequiredIntField readers.toNumbers object name

def getRequiredDoubleField (object : JsonObject) (name : String) : Result Double :=
  match getField object name with
  | none => .error (missing name)
  | some (.number text) => .ok (readers.doubles.toDouble text)
  | some (.string text) => .ok (readers.doubles.toDouble text)
  | some _ => .error (wrongType name .number)

def getOptionalDoubleField (object : JsonObject) (name : String) : Result Double :=
  match getField object name with
  | none => .ok readers.doubles.zero
  | some _ => getRequiredDoubleField readers object name

-- extract_field: a field that is not there is null.
def extractField (object : JsonObject) (name : String) : JsonValue := (getField object name).getD .null

def extractRequiredArray (object : JsonObject) (name : String) : Result (List JsonValue) :=
  match getField object name with
  | none => .error (missing name)
  | some (.array values) => .ok values
  | some _ => .error (wrongType name .array)

def getTextField (object : JsonObject) (name : String) : Result RichText :=
  getRichText readers.toNumbers (extractField object name)

def cantParse (className : String) (status : Status) : Status := ⟨400, "Can't parse " ++ className ++ ": " ++ status.message⟩

def expectedArray (className : String) : Status := ⟨400, "Expected an Array of " ++ className⟩

def getArray {Item : Type} (className : String) (read : JsonValue → Result Item) : JsonValue → Result (List Item)
  | .array values => values.mapM (fun value => (read value).mapError (cantParse className))
  | .null => .ok []
  | _ => .error (expectedArray className)

def getPageBlockCaption : JsonValue → Result (Option Caption)
  | .null => .ok none
  | .object object => do
      let text ← getTextField readers object "text"
      let credit ← getTextField readers object "credit"
      return some ⟨text, credit⟩
  | _ => .error ⟨400, "RichBlockCaption must be an object"⟩

def getAlignment (name : String) (isHeader : Bool) : Result HorizontalAlignment :=
  if name = "left" ∨ name = "" ∧ isHeader = false then .ok .left
  else if name = "center" ∨ name = "" ∧ isHeader = true then .ok .center
  else if name = "right" then .ok .right
  else .error ⟨400, "Invalid horizontal alignment specified"⟩

def getVerticalAlignment (name : String) : Result VerticalAlignment :=
  if name = "top" then .ok .top
  else if name = "middle" ∨ name = "" then .ok .middle
  else if name = "bottom" then .ok .bottom
  else .error ⟨400, "Invalid vertical alignment specified"⟩

def getPageBlockTableCell : JsonValue → Result TableCell
  | .object object => do
      let text ← getTextField readers object "text"
      let isHeader ← getOptionalBoolField object "is_header"
      let colspan ← getOptionalIntField readers object "colspan"
      let rowspan ← getOptionalIntField readers object "rowspan"
      let alignName ← getOptionalStringField object "align"
      let align ← getAlignment alignName isHeader
      let valignName ← getOptionalStringField object "valign"
      let valign ← getVerticalAlignment valignName
      return ⟨text, isHeader, colspan, rowspan, align, valign⟩
  | _ => .error ⟨400, "RichBlockTableCell must be an object"⟩

def getLocation (object : JsonObject) : Result (Location Double) := do
  let latitude ← getRequiredDoubleField readers object "latitude"
  let longitude ← getRequiredDoubleField readers object "longitude"
  let horizontalAccuracy ← getOptionalDoubleField readers object "horizontal_accuracy"
  return ⟨latitude, longitude, horizontalAccuracy⟩

inductive MediaType where
  | animation | audio | photo | video | voiceNote
deriving DecidableEq

def MediaType.named : String → Option MediaType
  | "animation" => some .animation
  | "audio" => some .audio
  | "photo" => some .photo
  | "video" => some .video
  | "voice_note" => some .voiceNote
  | _ => none

def MediaType.block (media : Media) (caption : Option Caption) (hasSpoiler : Bool) : MediaType → InputPageBlock Double Media
  | .animation => .animation media caption hasSpoiler
  | .audio => .audio media caption
  | .photo => .photo media caption hasSpoiler
  | .video => .video media caption hasSpoiler
  | .voiceNote => .voiceNote media caption

def getMediaBlock (object : JsonObject) (type : String) : Result (InputPageBlock Double Media) :=
  match MediaType.named type with
  | none => .error ⟨400, "type \"" ++ type ++ "\" is unsupported"⟩
  | some mediaType => do
      let mediaObject ← extractRequiredObject object type
      let namedType ← getRequiredStringField mediaObject "type"
      if namedType ≠ type then
        throw ⟨400, "Unexpected media type \"" ++ namedType ++ "\" for block \"" ++ type ++ "\""⟩
      let media ← readers.getInputMedia mediaObject type
      let caption ← getPageBlockCaption readers (extractField object "caption")
      let hasSpoiler ← getOptionalBoolField mediaObject "has_spoiler"
      return mediaType.block media caption hasSpoiler

-- The branches of get_input_page_block; blocks and items are what the two readers of lists
-- make of the fields with these names.
def getBlockObject (object : JsonObject) (blocks : Result (List (InputPageBlock Double Media)))
    (items : Result (List (InputPageBlockListItem Double Media))) : Result (InputPageBlock Double Media) := do
  let type ← getRequiredStringField object "type"
  match type with
  | "heading" =>
      let text ← getTextField readers object "text"
      let size ← getRequiredIntField readers.toNumbers object "size"
      return .sectionHeading text size
  | "paragraph" => return .paragraph (← getTextField readers object "text")
  | "pre" =>
      let text ← getTextField readers object "text"
      let language ← getOptionalStringField object "language"
      return .preformatted text language
  | "footer" => return .footer (← getTextField readers object "text")
  | "thinking" => return .thinking (← getTextField readers object "text")
  | "divider" => return .divider
  | "mathematical_expression" =>
      let expression ← getRequiredStringField object "expression"
      return .mathematicalExpression expression
  | "anchor" =>
      let name ← getRequiredStringField object "name"
      return .anchor name
  | "list" => return .list (← items)
  | "blockquote" =>
      let blocks ← blocks
      let credit ← getTextField readers object "credit"
      return .blockQuote blocks credit
  | "pullquote" =>
      let text ← getTextField readers object "text"
      let credit ← getTextField readers object "credit"
      return .pullQuote text credit
  | "collage" =>
      let blocks ← blocks
      let caption ← getPageBlockCaption readers (extractField object "caption")
      return .collage blocks caption
  | "slideshow" =>
      let blocks ← blocks
      let caption ← getPageBlockCaption readers (extractField object "caption")
      return .slideshow blocks caption
  | "table" =>
      let rows ← extractRequiredArray object "cells"
      let cells ← rows.mapM (getArray "PageBlockTableCell" (getPageBlockTableCell readers))
      let caption ← getTextField readers object "caption"
      let isBordered ← getOptionalBoolField object "is_bordered"
      let isStriped ← getOptionalBoolField object "is_striped"
      return .table caption cells isBordered isStriped
  | "details" =>
      let summary ← getTextField readers object "summary"
      let blocks ← blocks
      let isOpen ← getOptionalBoolField object "is_open"
      return .details summary blocks isOpen
  | "map" =>
      let locationObject ← extractRequiredObject object "location"
      let location ← getLocation readers locationObject
      let zoom ← getOptionalIntField readers object "zoom"
      let width ← getOptionalIntField readers object "width"
      let height ← getOptionalIntField readers object "height"
      let caption ← getPageBlockCaption readers (extractField object "caption")
      return .map location zoom width height caption
  | type => getMediaBlock readers object type

theorem get_media_typed (object : JsonObject) (type : String) (blocks : Result (List (InputPageBlock Double Media)))
    (items : Result (List (InputPageBlockListItem Double Media))) (typed : getRequiredStringField object "type" = .ok type)
    (media : (MediaType.named type).isSome = true) :
    getBlockObject readers object blocks items = getMediaBlock readers object type := by
  rw [getBlockObject, typed]
  unfold MediaType.named at media
  split at media <;> first | rfl | cases media

def getListItemObject (object : JsonObject) (blocks : Result (List (InputPageBlock Double Media))) :
    Result (InputPageBlockListItem Double Media) := do
  let blocks ← blocks
  let hasCheckbox ← getOptionalBoolField object "has_checkbox"
  let isChecked ← getOptionalBoolField object "is_checked"
  let value ← getOptionalIntField readers object "value"
  let type ← getOptionalStringField object "type"
  return .item blocks hasCheckbox isChecked value type

mutual
def getInputPageBlock : JsonValue → Result (InputPageBlock Double Media)
  | .object fields => getBlockObject readers fields (getBlocksField fields) (getItemsField fields)
  | _ => .error ⟨400, "Object expected as InputRichMessageBlock"⟩
def getInputPageBlocks : JsonValue → Result (List (InputPageBlock Double Media))
  | .array values => getBlockValues values
  | .null => .ok []
  | _ => .error (expectedArray "InputRichBlock")
def getBlockValues : List JsonValue → Result (List (InputPageBlock Double Media))
  | [] => .ok []
  | value :: values => do
      let block ← (getInputPageBlock value).mapError (cantParse "InputRichBlock")
      let blocks ← getBlockValues values
      return block :: blocks
def getListItem : JsonValue → Result (InputPageBlockListItem Double Media)
  | .object fields => getListItemObject readers fields (getBlocksField fields)
  | _ => .error ⟨400, "Object expected as InputRichBlockListItem"⟩
def getListItems : JsonValue → Result (List (InputPageBlockListItem Double Media))
  | .array values => getItemValues values
  | .null => .ok []
  | _ => .error (expectedArray "InputRichBlockListItem")
def getItemValues : List JsonValue → Result (List (InputPageBlockListItem Double Media))
  | [] => .ok []
  | value :: values => do
      let item ← (getListItem value).mapError (cantParse "InputRichBlockListItem")
      let items ← getItemValues values
      return item :: items
-- get_input_page_blocks(object.extract_field("blocks")), and the same for the items
def getBlocksField : List (String × JsonValue) → Result (List (InputPageBlock Double Media))
  | [] => .ok []
  | (name, value) :: fields => if name = "blocks" then getInputPageBlocks value else getBlocksField fields
def getItemsField : List (String × JsonValue) → Result (List (InputPageBlockListItem Double Media))
  | [] => .ok []
  | (name, value) :: fields => if name = "items" then getListItems value else getItemsField fields
end

structure InputRichMessageMedia (Media : Type) where
  id : String
  media : Media

def getInputRichMessageMedia : JsonValue → Result (InputRichMessageMedia Media)
  | .object object => do
      let id ← getRequiredStringField object "id"
      let mediaObject ← extractRequiredObject object "media"
      let type ← getRequiredStringField mediaObject "type"
      let media ← readers.getInputMedia mediaObject type
      return ⟨id, media⟩
  | _ => .error ⟨0, "expected an Object"⟩

inductive RichMessageSource (Double Media : Type) where
  | blocks (blocks : List (InputPageBlock Double Media))
  | markdown (text : String) (media : List (InputRichMessageMedia Media))
  | html (text : String) (media : List (InputRichMessageMedia Media))

structure InputRichMessage (Double Media : Type) where
  source : RichMessageSource Double Media
  isRtl : Bool
  detectEntities : Bool

def getInputRichMessage : JsonValue → Result (InputRichMessage Double Media)
  | .object object => do
      let isRtl ← getOptionalBoolField object "is_rtl"
      let skipEntityDetection ← getOptionalBoolField object "skip_entity_detection"
      if hasField object "blocks" then
        let blocks ← getInputPageBlocks readers (extractField object "blocks")
        return ⟨.blocks blocks, isRtl, !skipEntityDetection⟩
      if hasField object "markdown" then
        let text ← getRequiredStringField object "markdown"
        let media ← getArray "InputRichMessageMedia" (getInputRichMessageMedia readers) (extractField object "media")
        return ⟨.markdown text media, isRtl, !skipEntityDetection⟩
      if hasField object "html" then
        let text ← getRequiredStringField object "html"
        let media ← getArray "InputRichMessageMedia" (getInputRichMessageMedia readers) (extractField object "media")
        return ⟨.html text media, isRtl, !skipEntityDetection⟩
      throw ⟨400, "Rich message must be non-empty"⟩
  | _ => .error ⟨400, "Object expected as rich message"⟩

end Reader

end TelegramBotApi.RichBlocks
