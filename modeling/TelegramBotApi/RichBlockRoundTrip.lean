import TelegramBotApi.JsonFields
import TelegramBotApi.RichBlocks
import TelegramBotApi.RichTextRoundTrip

set_option autoImplicit false

namespace TelegramBotApi.RichBlocks

open Checked JsonObject RichTexts

def mapCaption (change : RichText → RichText) (caption : Option Caption) : Option Caption :=
  caption.map (fun caption => ⟨change caption.text, change caption.credit⟩)

def mapCell (change : RichText → RichText) (cell : TableCell) : TableCell := { cell with text := change cell.text }

section MapTexts

variable {Double Media : Type} (change : RichText → RichText)

mutual
def mapBlock : InputPageBlock Double Media → InputPageBlock Double Media
  | .sectionHeading text size => .sectionHeading (change text) size
  | .paragraph text => .paragraph (change text)
  | .preformatted text language => .preformatted (change text) language
  | .footer footer => .footer (change footer)
  | .thinking text => .thinking (change text)
  | .divider => .divider
  | .mathematicalExpression expression => .mathematicalExpression expression
  | .anchor name => .anchor name
  | .list items => .list (mapItems items)
  | .blockQuote blocks credit => .blockQuote (mapBlocks blocks) (change credit)
  | .pullQuote text credit => .pullQuote (change text) (change credit)
  | .collage blocks caption => .collage (mapBlocks blocks) (mapCaption change caption)
  | .slideshow blocks caption => .slideshow (mapBlocks blocks) (mapCaption change caption)
  | .table caption cells isBordered isStriped =>
      .table (change caption) (cells.map (·.map (mapCell change))) isBordered isStriped
  | .details header blocks isOpen => .details (change header) (mapBlocks blocks) isOpen
  | .map location zoom width height caption => .map location zoom width height (mapCaption change caption)
  | .animation animation caption hasSpoiler => .animation animation (mapCaption change caption) hasSpoiler
  | .audio audio caption => .audio audio (mapCaption change caption)
  | .photo photo caption hasSpoiler => .photo photo (mapCaption change caption) hasSpoiler
  | .video video caption hasSpoiler => .video video (mapCaption change caption) hasSpoiler
  | .voiceNote voiceNote caption => .voiceNote voiceNote (mapCaption change caption)
def mapBlocks : List (InputPageBlock Double Media) → List (InputPageBlock Double Media)
  | [] => []
  | block :: blocks => mapBlock block :: mapBlocks blocks
def mapItem : InputPageBlockListItem Double Media → InputPageBlockListItem Double Media
  | .item blocks hasCheckbox isChecked value type => .item (mapBlocks blocks) hasCheckbox isChecked value type
def mapItems : List (InputPageBlockListItem Double Media) → List (InputPageBlockListItem Double Media)
  | [] => []
  | item :: items => mapItem item :: mapItems items
end

end MapTexts

-- A printed block as a request has it, if it can be sent at all: blocks with media and
-- blocks that the Bot API does not know cannot.
section AsInput

variable {Double : Type} (doubles : Doubles Double)

def asInputCell (cell : TableCell) : TableCell :=
  { cell with
    colspan := if 1 < cell.colspan then cell.colspan else 0
    rowspan := if 1 < cell.rowspan then cell.rowspan else 0 }

def printedDouble (value : Double) : Double := doubles.toDouble (doubles.print value)

def asInputLocation (location : Location Double) : Location Double where
  latitude := printedDouble doubles location.latitude
  longitude := printedDouble doubles location.longitude
  horizontalAccuracy :=
    if doubles.positive location.horizontalAccuracy then printedDouble doubles location.horizontalAccuracy else doubles.zero

variable (Media : Type)

mutual
def asInput : PageBlock Double → Option (InputPageBlock Double Media)
  | .sectionHeading text size => some (.sectionHeading text size)
  | .paragraph text => some (.paragraph text)
  | .preformatted text language => some (.preformatted text language)
  | .footer footer => some (.footer footer)
  | .divider => some .divider
  | .mathematicalExpression expression => some (.mathematicalExpression expression)
  | .anchor name => some (.anchor name)
  | .list items => (asInputItems items).map .list
  | .blockQuote blocks credit => (asInputBlocks blocks).map (.blockQuote · credit)
  | .pullQuote text credit => some (.pullQuote text credit)
  | .collage blocks caption => (asInputBlocks blocks).map (.collage · caption)
  | .slideshow blocks caption => (asInputBlocks blocks).map (.slideshow · caption)
  | .table caption cells isBordered isStriped => some (.table caption (cells.map (·.map asInputCell)) isBordered isStriped)
  | .details header blocks isOpen => (asInputBlocks blocks).map (.details header · isOpen)
  | .map location zoom width height caption => some (.map (asInputLocation doubles location) zoom width height caption)
  | .animation .. => none
  | .audio .. => none
  | .photo .. => none
  | .video .. => none
  | .voiceNote .. => none
  | .other => none
def asInputBlocks : List (PageBlock Double) → Option (List (InputPageBlock Double Media))
  | [] => some []
  | block :: blocks => (asInput block).bind (fun input => (asInputBlocks blocks).map (input :: ·))
def asInputItem : PageBlockListItem Double → Option (InputPageBlockListItem Double Media)
  | .item _ blocks hasCheckbox isChecked value type =>
      (asInputBlocks blocks).map (.item · hasCheckbox (hasCheckbox && isChecked) (if type = "" then 0 else value) type)
def asInputItems : List (PageBlockListItem Double) → Option (List (InputPageBlockListItem Double Media))
  | [] => some []
  | item :: items => (asInputItem item).bind (fun input => (asInputItems items).map (input :: ·))
end

end AsInput

def optionalTransported : RichText → Bool
  | .missing => true
  | text => every transportedNode text

def captionTransported : Option Caption → Bool
  | none => true
  | some caption => every transportedNode caption.text && optionalTransported caption.credit

section Transported

variable {Double : Type}

mutual
def transportedBlock : PageBlock Double → Bool
  | .sectionHeading text _ => every transportedNode text
  | .paragraph text => every transportedNode text
  | .preformatted text _ => every transportedNode text
  | .footer footer => every transportedNode footer
  | .list items => transportedItems items
  | .blockQuote blocks credit => transportedBlocks blocks && optionalTransported credit
  | .pullQuote text credit => every transportedNode text && optionalTransported credit
  | .collage blocks caption => transportedBlocks blocks && captionTransported caption
  | .slideshow blocks caption => transportedBlocks blocks && captionTransported caption
  | .table caption cells _ _ => optionalTransported caption && cells.all (·.all (fun cell => optionalTransported cell.text))
  | .details header blocks _ => every transportedNode header && transportedBlocks blocks
  | .map _ _ _ _ caption => captionTransported caption
  | .animation (some animation) caption _ _ => (jsonStoreThumbnail animation.thumbnail).isSome && captionTransported caption
  | .audio (some audio) caption => (jsonStoreThumbnail audio.albumCoverThumbnail).isSome && captionTransported caption
  | .photo (some _) caption _ => captionTransported caption
  | .video (some video) caption _ _ _ => (jsonStoreThumbnail video.thumbnail).isSome && captionTransported caption
  | .voiceNote (some _) caption => captionTransported caption
  | _ => true
def transportedBlocks : List (PageBlock Double) → Bool
  | [] => true
  | block :: blocks => transportedBlock block && transportedBlocks blocks
def transportedItem : PageBlockListItem Double → Bool
  | .item _ blocks _ _ _ _ => transportedBlocks blocks
def transportedItems : List (PageBlockListItem Double) → Bool
  | [] => true
  | item :: items => transportedItem item && transportedItems items
end

mutual
def sendable : PageBlock Double → Bool
  | .list items => sendableItems items
  | .blockQuote blocks _ => sendableBlocks blocks
  | .collage blocks _ => sendableBlocks blocks
  | .slideshow blocks _ => sendableBlocks blocks
  | .details _ blocks _ => sendableBlocks blocks
  | .animation .. => false
  | .audio .. => false
  | .photo .. => false
  | .video .. => false
  | .voiceNote .. => false
  | .other => false
  | _ => true
def sendableBlocks : List (PageBlock Double) → Bool
  | [] => true
  | block :: blocks => sendable block && sendableBlocks blocks
def sendableItems : List (PageBlockListItem Double) → Bool
  | [] => true
  | .item _ blocks _ _ _ _ :: items => sendableBlocks blocks && sendableItems items
end

variable (doubles : Doubles Double) (Media : Type)

mutual
theorem as_input_is_some (block : PageBlock Double) : (asInput doubles Media block).isSome = sendable block := by
  cases block with
  | list items => simp [asInput, sendable, as_input_items_is_some items]
  | blockQuote blocks | collage blocks | slideshow blocks | details _ blocks =>
      simp [asInput, sendable, as_input_blocks_is_some blocks]
  | _ => rfl
theorem as_input_blocks_is_some (blocks : List (PageBlock Double)) :
    (asInputBlocks doubles Media blocks).isSome = sendableBlocks blocks := by
  cases blocks with
  | nil => rfl
  | cons block blocks =>
      have first := as_input_is_some block
      have rest := as_input_blocks_is_some blocks
      rw [asInputBlocks, sendableBlocks, ← first, ← rest]
      cases asInput doubles Media block <;> simp
theorem as_input_items_is_some (items : List (PageBlockListItem Double)) :
    (asInputItems doubles Media items).isSome = sendableItems items := by
  cases items with
  | nil => rfl
  | cons item items =>
      obtain ⟨label, blocks, hasCheckbox, isChecked, value, type⟩ := item
      have first := as_input_blocks_is_some blocks
      have rest := as_input_items_is_some items
      rw [asInputItems, asInputItem, sendableItems, ← first, ← rest]
      cases asInputBlocks doubles Media blocks <;> simp
end

end Transported

-- What a reader makes of something printed: what is expected, up to absent precisions and
-- what is not transported, or a refusal if nothing is expected.
def Answers {Value : Type} (map : (RichText → RichText) → Value → Value) (expected : Option Value)
    (result : Result Value) : Prop :=
  match expected with
  | some value => ∃ decoded, result = .ok decoded ∧ map readAbsent decoded = map normalise value
  | none => ∃ status, result = .error status ∧ status.code = 400

section Answers

variable {Part Whole : Type} (mapPart : (RichText → RichText) → Part → Part) (mapWhole : (RichText → RichText) → Whole → Whole)

theorem answers_build (expected : Option Part) (result : Result Part) (build expectedBuild : Part → Whole)
    (same : ∀ decoded value, mapPart readAbsent decoded = mapPart normalise value →
      mapWhole readAbsent (build decoded) = mapWhole normalise (expectedBuild value))
    (answers : Answers mapPart expected result) :
    Answers mapWhole (expected.map expectedBuild) (result >>= fun decoded => .ok (build decoded)) := by
  cases expected with
  | some value =>
      obtain ⟨decoded, rfl, equal⟩ := answers
      exact ⟨build decoded, rfl, same decoded value equal⟩
  | none =>
      obtain ⟨status, rfl, code⟩ := answers
      exact ⟨status, rfl, code⟩

theorem answers_cons {Item : Type} (mapItem : (RichText → RichText) → Item → Item)
    (mapItems : (RichText → RichText) → List Item → List Item)
    (cons : ∀ change item items, mapItems change (item :: items) = mapItem change item :: mapItems change items)
    (className : String) (expected : Option Item) (expecteds : Option (List Item)) (result : Result Item)
    (results : Result (List Item)) (first : Answers mapItem expected result) (rest : Answers mapItems expecteds results) :
    Answers mapItems (expected.bind (fun item => expecteds.map (item :: ·)))
      ((result.mapError (cantParse className)) >>= fun item => results >>= fun items => .ok (item :: items)) := by
  cases expected with
  | none =>
      obtain ⟨status, rfl, -⟩ := first
      exact ⟨cantParse className status, rfl, rfl⟩
  | some item =>
      obtain ⟨decoded, rfl, same⟩ := first
      apply answers_build mapItems mapItems expecteds results (decoded :: ·) (item :: ·) _ rest
      intro decodeds items sames
      rw [cons, cons, same, sames]

end Answers

section Survival

variable {Double Media : Type} (readers : Readers Double Media) (getUserInfo : Int64 → Option UserInfo)

theorem optional_text_survives (lawful : readers.toNumbers.Lawful) (name : String) (text : RichText)
    (ok : optionalTransported text = true) :
    ∃ fields decoded, optionalText getUserInfo name text = some fields ∧
      (∀ other, other ≠ name → getField fields other = none) ∧
      getRichText readers.toNumbers ((getField fields name).getD .null) = .ok decoded ∧ readAbsent decoded = normalise text := by
  by_cases absent : text = .missing
  · subst absent
    exact ⟨[], .missing, rfl, fun _ _ => rfl, rfl, rfl⟩
  · have transported : every transportedNode text = true := by
      cases text <;> first | exact absurd rfl absent | exact ok
    obtain ⟨value, decoded, shown, read, same⟩ := text_survives readers.toNumbers getUserInfo lawful text transported
    refine ⟨[(name, value)], decoded, ?_, ?_, ?_, same⟩
    · cases text <;> first | exact absurd rfl absent | simp only [optionalText, shown, Option.map_some]
    · intro other different
      simp [Ne.symm different]
    · simpa using read

theorem caption_survives (lawful : readers.toNumbers.Lawful) (caption : Option Caption) (ok : captionTransported caption = true) :
    ∃ fields decoded, optionalCaption getUserInfo caption = some fields ∧
      (∀ other, other ≠ "caption" → getField fields other = none) ∧
      getPageBlockCaption readers ((getField fields "caption").getD .null) = .ok decoded ∧
      mapCaption readAbsent decoded = mapCaption normalise caption := by
  cases caption with
  | none => exact ⟨[], none, rfl, fun _ _ => rfl, rfl, rfl⟩
  | some caption =>
      simp only [captionTransported, Bool.and_eq_true] at ok
      obtain ⟨text, decodedText, shown, read, same⟩ := text_survives readers.toNumbers getUserInfo lawful caption.text ok.1
      obtain ⟨credit, decodedCredit, shownCredit, -, readCredit, sameCredit⟩ :=
        optional_text_survives readers getUserInfo lawful "credit" caption.credit ok.2
      refine ⟨[("caption", .object (("text", text) :: credit))], some ⟨decodedText, decodedCredit⟩, ?_, ?_, ?_, ?_⟩
      · simp [optionalCaption, jsonCaption, shown, shownCredit]
      · intro other different
        simp [Ne.symm different]
      · simp [getPageBlockCaption, getTextField, extractField, read, readCredit]
      · simp [mapCaption, same, sameCredit]

theorem read_int (lawful : readers.toNumbers.Lawful) (object : JsonObject) (name : String) (value : Int32)
    (found : getField object name = some (int32Value value)) :
    getRequiredIntField readers.toNumbers object name = .ok value ∧ getOptionalIntField readers object name = .ok value := by
  have required : getRequiredIntField readers.toNumbers object name = .ok value :=
    read_number _ _ name (toString value.toInt) value (.inl found) (lawful.toInt32 value)
  exact ⟨required, by simp only [getOptionalIntField, found, required]⟩

theorem read_span (lawful : readers.toNumbers.Lawful) (object : JsonObject) (name : String) (span : Int32)
    (found : getField object name = if 1 < span then some (int32Value span) else none) :
    getOptionalIntField readers object name = .ok (if 1 < span then span else 0) := by
  by_cases wide : 1 < span
  · rw [if_pos wide] at found ⊢
    exact (read_int readers lawful object name span found).2
  · rw [if_neg wide] at found ⊢
    simp only [getOptionalIntField, found]

@[simp] theorem get_field_optional_span (field name : String) (span : Int32) :
    getField (optionalSpan field span) name = if field = name ∧ 1 < span then some (int32Value span) else none := by
  by_cases wide : 1 < span <;> simp [optionalSpan, wide]

theorem alignment_survives (align : HorizontalAlignment) (isHeader : Bool) :
    getAlignment (alignmentName align) isHeader = .ok align := by
  cases align <;> rfl

theorem vertical_alignment_survives (valign : VerticalAlignment) :
    getVerticalAlignment (verticalAlignmentName valign) = .ok valign := by
  cases valign <;> rfl

theorem cell_survives (lawful : readers.toNumbers.Lawful) (cell : TableCell) (ok : optionalTransported cell.text = true) :
    ∃ value decoded, jsonTableCell getUserInfo cell = some value ∧ getPageBlockTableCell readers value = .ok decoded ∧
      mapCell readAbsent decoded = mapCell normalise (asInputCell cell) := by
  obtain ⟨text, decodedText, shown, only, read, same⟩ := optional_text_survives readers getUserInfo lawful "text" cell.text ok
  let fields : JsonObject := text ++ optionalTrue "is_header" cell.isHeader ++ optionalSpan "colspan" cell.colspan ++
    optionalSpan "rowspan" cell.rowspan ++
    [("align", JsonValue.string (alignmentName cell.align)), ("valign", JsonValue.string (verticalAlignmentName cell.valign))]
  have textField : getTextField readers fields "text" = .ok decodedText := by
    simpa [getTextField, extractField, fields] using read
  have header : getOptionalBoolField fields "is_header" = .ok cell.isHeader :=
    read_optional_true fields _ _ (by simp [fields, only])
  have colspan : getOptionalIntField readers fields "colspan" = .ok (if 1 < cell.colspan then cell.colspan else 0) :=
    read_span readers lawful fields _ _ (by simp [fields, only])
  have rowspan : getOptionalIntField readers fields "rowspan" = .ok (if 1 < cell.rowspan then cell.rowspan else 0) :=
    read_span readers lawful fields _ _ (by simp [fields, only])
  have align : getOptionalStringField fields "align" = .ok (alignmentName cell.align) := by
    simp [getOptionalStringField, fields, only]
  have valign : getOptionalStringField fields "valign" = .ok (verticalAlignmentName cell.valign) := by
    simp [getOptionalStringField, fields, only]
  refine ⟨.object fields, ⟨decodedText, cell.isHeader, if 1 < cell.colspan then cell.colspan else 0,
    if 1 < cell.rowspan then cell.rowspan else 0, cell.align, cell.valign⟩, ?_, ?_, ?_⟩
  · simp [jsonTableCell, shown, fields]
  · simp [getPageBlockTableCell, textField, header, colspan, rowspan, align, valign, alignment_survives,
      vertical_alignment_survives]
  · simp [mapCell, asInputCell, same]

theorem print_all {Item Value : Type} (print : Item → Option Value) (holds : Item → Value → Prop) (items : List Item)
    (one : ∀ item ∈ items, ∃ value, print item = some value ∧ holds item value) :
    ∃ values, items.mapM print = some values ∧ List.Forall₂ holds items values := by
  induction items with
  | nil => exact ⟨[], rfl, .nil⟩
  | cons item rest ih =>
      obtain ⟨value, shown, held⟩ := one item List.mem_cons_self
      obtain ⟨values, shownRest, heldRest⟩ := ih (fun item member => one item (List.mem_cons_of_mem _ member))
      exact ⟨value :: values, by simp [shown, shownRest], .cons held heldRest⟩

theorem map_of_related {Source Item Value : Type} (before : Source → Value) (after : Item → Value) (sources : List Source)
    (items : List Item) (related : List.Forall₂ (fun source item => after item = before source) sources items) :
    items.map after = sources.map before := by
  induction related with
  | nil => rfl
  | cons same _ ih => rw [List.map_cons, List.map_cons, same, ih]

theorem row_survives (lawful : readers.toNumbers.Lawful) (row : List TableCell)
    (ok : row.all (fun cell => optionalTransported cell.text) = true) :
    ∃ value decoded, jsonTableRow getUserInfo row = some value ∧
      getArray "PageBlockTableCell" (getPageBlockTableCell readers) value = .ok decoded ∧
      decoded.map (mapCell readAbsent) = (row.map asInputCell).map (mapCell normalise) := by
  obtain ⟨values, shown, related⟩ := print_all (jsonTableCell getUserInfo)
    (fun cell value => ∃ decoded, getPageBlockTableCell readers value = .ok decoded ∧
      mapCell readAbsent decoded = mapCell normalise (asInputCell cell)) row (by
    intro cell member
    obtain ⟨value, decoded, shown, read, same⟩ :=
      cell_survives readers getUserInfo lawful cell (List.all_eq_true.1 ok cell member)
    exact ⟨value, shown, decoded, read, same⟩)
  obtain ⟨decoded, read, same⟩ := mapM_related _
    (fun cell decoded => mapCell readAbsent decoded = mapCell normalise (asInputCell cell))
    (fun value => (getPageBlockTableCell readers value).mapError (cantParse "PageBlockTableCell")) row values related (by
    rintro cell value - ⟨decoded, read, same⟩
    exact ⟨decoded, by rw [read]; rfl, same⟩)
  refine ⟨.array values, decoded, ?_, read, ?_⟩
  · simp [jsonTableRow, shown]
  · rw [List.map_map]
    exact map_of_related _ _ row decoded same

theorem table_survives (lawful : readers.toNumbers.Lawful) (caption : RichText) (cells : List (List TableCell))
    (isBordered isStriped : Bool) (ok : transportedBlock (.table caption cells isBordered isStriped : PageBlock Double) = true) :
    ∃ value, jsonRichBlock readers.doubles getUserInfo (.table caption cells isBordered isStriped) = some value ∧
      Answers mapBlock (asInput readers.doubles Media (.table caption cells isBordered isStriped))
      (getInputPageBlock readers value) := by
  simp only [transportedBlock, Bool.and_eq_true] at ok
  obtain ⟨rows, shown, related⟩ := print_all (jsonTableRow getUserInfo)
    (fun row value => ∃ decoded, getArray "PageBlockTableCell" (getPageBlockTableCell readers) value = .ok decoded ∧
      decoded.map (mapCell readAbsent) = (row.map asInputCell).map (mapCell normalise)) cells (by
    intro row member
    obtain ⟨value, decoded, shown, read, same⟩ := row_survives readers getUserInfo lawful row (List.all_eq_true.1 ok.2 row member)
    exact ⟨value, shown, decoded, read, same⟩)
  obtain ⟨decodedCells, read, same⟩ := mapM_related _
    (fun row decoded => decoded.map (mapCell readAbsent) = (row.map asInputCell).map (mapCell normalise))
    (getArray "PageBlockTableCell" (getPageBlockTableCell readers)) cells rows related (by
    rintro row value - ⟨decoded, read, same⟩
    exact ⟨decoded, read, same⟩)
  obtain ⟨captionFields, decodedCaption, shownCaption, only, readCaption, sameCaption⟩ :=
    optional_text_survives readers getUserInfo lawful "caption" caption ok.1
  let fields : JsonObject := [("type", JsonValue.string "table"), ("cells", JsonValue.array rows)] ++ captionFields ++
    optionalTrue "is_bordered" isBordered ++ optionalTrue "is_striped" isStriped
  have bordered : getOptionalBoolField fields "is_bordered" = .ok isBordered :=
    read_optional_true fields _ _ (by simp [fields, only])
  have striped : getOptionalBoolField fields "is_striped" = .ok isStriped :=
    read_optional_true fields _ _ (by simp [fields, only])
  refine ⟨.object fields, ?_, .table decodedCaption decodedCells isBordered isStriped, ?_, ?_⟩
  · rw [jsonRichBlock, shown, shownCaption]
    rfl
  · have captionField : getTextField readers fields "caption" = .ok decodedCaption := by
      simpa [getTextField, extractField, fields, only] using readCaption
    change (rows.mapM (getArray "PageBlockTableCell" (getPageBlockTableCell readers)) >>= fun cells =>
      getTextField readers fields "caption" >>= fun caption => getOptionalBoolField fields "is_bordered" >>= fun isBordered =>
      getOptionalBoolField fields "is_striped" >>= fun isStriped =>
      .ok (InputPageBlock.table caption cells isBordered isStriped)) = _
    rw [read, captionField, bordered, striped]
    rfl
  · simp only [mapBlock, sameCaption]
    rw [List.map_map]
    exact congrArg (InputPageBlock.table _ · isBordered isStriped) (map_of_related _ _ cells decodedCells same)

def Survives (block : PageBlock Double) : Prop :=
  ∃ value, jsonRichBlock readers.doubles getUserInfo block = some value ∧
    Answers mapBlock (asInput readers.doubles Media block) (getInputPageBlock readers value)

def AllSurvive (blocks : List (PageBlock Double)) : Prop :=
  ∃ values, jsonRichBlocks readers.doubles getUserInfo blocks = some values ∧
    Answers mapBlocks (asInputBlocks readers.doubles Media blocks) (getBlockValues readers values)

theorem heading_survives (lawful : readers.toNumbers.Lawful) (text : RichText) (size : Int32)
    (ok : every transportedNode text = true) : Survives readers getUserInfo (.sectionHeading text size) := by
  obtain ⟨value, decoded, shown, read, same⟩ := text_survives readers.toNumbers getUserInfo lawful text ok
  let fields : JsonObject := [("type", .string "heading"), ("text", value), ("size", int32Value size)]
  have sizeField : getRequiredIntField readers.toNumbers fields "size" = .ok size :=
    (read_int readers lawful fields "size" size rfl).1
  refine ⟨.object fields, ?_, .sectionHeading decoded size, ?_, ?_⟩
  · rw [jsonRichBlock, shown]
    rfl
  · change (getRichText readers.toNumbers value >>= fun text =>
      getRequiredIntField readers.toNumbers fields "size" >>= fun size =>
      .ok (InputPageBlock.sectionHeading text size)) = _
    rw [read, sizeField]
    rfl
  · rw [mapBlock, mapBlock, same]

theorem text_block_survives (lawful : readers.toNumbers.Lawful) (type : String) (text : RichText) (block : PageBlock Double)
    (input : RichText → InputPageBlock Double Media)
    (print : ∀ value, jsonRichText getUserInfo text = some value →
      jsonRichBlock readers.doubles getUserInfo block = some (.object [("type", .string type), ("text", value)]))
    (read : ∀ value, getInputPageBlock readers (.object [("type", .string type), ("text", value)]) =
      getRichText readers.toNumbers value >>= fun text => .ok (input text))
    (expected : asInput readers.doubles Media block = some (input text))
    (mapped : ∀ change text, mapBlock change (input text) = input (change text)) (ok : every transportedNode text = true) :
    Survives readers getUserInfo block := by
  obtain ⟨value, decoded, shown, readText, same⟩ := text_survives readers.toNumbers getUserInfo lawful text ok
  refine ⟨_, print value shown, ?_⟩
  rw [expected, read, readText]
  exact ⟨input decoded, rfl, by rw [mapped, mapped, same]⟩

theorem paragraph_survives (lawful : readers.toNumbers.Lawful) (text : RichText) (ok : every transportedNode text = true) :
    Survives readers getUserInfo (.paragraph text) := by
  apply text_block_survives readers getUserInfo lawful "paragraph" text _ .paragraph _ (fun _ => rfl) rfl (fun _ _ => rfl) ok
  intro value shown
  rw [jsonRichBlock, shown]
  rfl

theorem footer_survives (lawful : readers.toNumbers.Lawful) (text : RichText) (ok : every transportedNode text = true) :
    Survives readers getUserInfo (.footer text) := by
  apply text_block_survives readers getUserInfo lawful "footer" text _ .footer _ (fun _ => rfl) rfl (fun _ _ => rfl) ok
  intro value shown
  rw [jsonRichBlock, shown]
  rfl

theorem preformatted_survives (lawful : readers.toNumbers.Lawful) (text : RichText) (language : String)
    (ok : every transportedNode text = true) : Survives readers getUserInfo (.preformatted text language) := by
  obtain ⟨value, decoded, shown, read, same⟩ := text_survives readers.toNumbers getUserInfo lawful text ok
  let fields : JsonObject := [("type", JsonValue.string "pre"), ("text", value)] ++ optionalString "language" language
  have languageField : getOptionalStringField fields "language" = .ok language :=
    read_optional_string fields _ _ (by simp [fields])
  refine ⟨.object fields, ?_, .preformatted decoded language, ?_, ?_⟩
  · rw [jsonRichBlock, shown]
    rfl
  · change (getRichText readers.toNumbers value >>= fun text => getOptionalStringField fields "language" >>= fun language =>
      .ok (InputPageBlock.preformatted text language)) = _
    rw [read, languageField]
    rfl
  · rw [mapBlock, mapBlock, same]

theorem pull_quote_survives (lawful : readers.toNumbers.Lawful) (text credit : RichText)
    (ok : every transportedNode text = true) (okCredit : optionalTransported credit = true) :
    Survives readers getUserInfo (.pullQuote text credit) := by
  obtain ⟨value, decoded, shown, read, same⟩ := text_survives readers.toNumbers getUserInfo lawful text ok
  obtain ⟨fields, decodedCredit, shownCredit, -, readCredit, sameCredit⟩ :=
    optional_text_survives readers getUserInfo lawful "credit" credit okCredit
  refine ⟨.object ([("type", JsonValue.string "pullquote"), ("text", value)] ++ fields), ?_,
    .pullQuote decoded decodedCredit, ?_, ?_⟩
  · rw [jsonRichBlock, shown, shownCredit]
    rfl
  · change (getRichText readers.toNumbers value >>= fun text =>
      getRichText readers.toNumbers ((getField fields "credit").getD .null) >>= fun credit =>
      .ok (InputPageBlock.pullQuote text credit)) = _
    rw [read, readCredit]
    rfl
  · rw [mapBlock, mapBlock, same, sameCredit]

theorem location_survives (location : Location Double) :
    ∃ object, jsonLocation readers.doubles location = .object object ∧
      getLocation readers object = .ok (asInputLocation readers.doubles location) := by
  by_cases accurate : readers.doubles.positive location.horizontalAccuracy = true
  · refine ⟨_, rfl, ?_⟩
    rw [if_pos accurate, asInputLocation, if_pos accurate]
    rfl
  · refine ⟨_, rfl, ?_⟩
    rw [if_neg accurate, asInputLocation, if_neg accurate]
    rfl

theorem map_survives (lawful : readers.toNumbers.Lawful) (location : Location Double) (zoom width height : Int32)
    (caption : Option Caption) (ok : captionTransported caption = true) :
    Survives readers getUserInfo (.map location zoom width height caption) := by
  obtain ⟨captionFields, decoded, shown, -, read, same⟩ := caption_survives readers getUserInfo lawful caption ok
  obtain ⟨object, shownLocation, readLocation⟩ := location_survives readers location
  let fields : JsonObject := [("type", JsonValue.string "map"), ("location", JsonValue.object object), ("zoom", int32Value zoom),
    ("width", int32Value width), ("height", int32Value height)] ++ captionFields
  have zoomField : getOptionalIntField readers fields "zoom" = .ok zoom := (read_int readers lawful fields "zoom" zoom rfl).2
  have widthField : getOptionalIntField readers fields "width" = .ok width := (read_int readers lawful fields "width" width rfl).2
  have heightField : getOptionalIntField readers fields "height" = .ok height :=
    (read_int readers lawful fields "height" height rfl).2
  refine ⟨.object fields, ?_, .map (asInputLocation readers.doubles location) zoom width height decoded, ?_, ?_⟩
  · rw [jsonRichBlock, shown, shownLocation]
    rfl
  · change (getLocation readers object >>= fun location => getOptionalIntField readers fields "zoom" >>= fun zoom =>
      getOptionalIntField readers fields "width" >>= fun width => getOptionalIntField readers fields "height" >>= fun height =>
      getPageBlockCaption readers ((getField captionFields "caption").getD .null) >>= fun caption =>
      .ok (InputPageBlock.map location zoom width height caption)) = _
    rw [readLocation, zoomField, widthField, heightField, read]
    rfl
  · rw [mapBlock, mapBlock, same]

theorem nested_survives (blocks : List (PageBlock Double)) (block : PageBlock Double) (fields : List JsonValue → JsonObject)
    (build expectedBuild : List (InputPageBlock Double Media) → InputPageBlock Double Media)
    (print : ∀ values, jsonRichBlocks readers.doubles getUserInfo blocks = some values →
      jsonRichBlock readers.doubles getUserInfo block = some (.object (fields values)))
    (read : ∀ values, getInputPageBlock readers (.object (fields values)) =
      getBlockValues readers values >>= fun blocks => .ok (build blocks))
    (expected : asInput readers.doubles Media block = (asInputBlocks readers.doubles Media blocks).map expectedBuild)
    (same : ∀ decoded input, mapBlocks readAbsent decoded = mapBlocks normalise input →
      mapBlock readAbsent (build decoded) = mapBlock normalise (expectedBuild input))
    (inner : AllSurvive readers getUserInfo blocks) : Survives readers getUserInfo block := by
  obtain ⟨values, shown, answers⟩ := inner
  refine ⟨.object (fields values), print values shown, ?_⟩
  rw [expected, read]
  exact answers_build mapBlocks mapBlock _ _ build expectedBuild same answers

theorem block_quote_survives (lawful : readers.toNumbers.Lawful) (blocks : List (PageBlock Double)) (credit : RichText)
    (ok : optionalTransported credit = true) (inner : AllSurvive readers getUserInfo blocks) :
    Survives readers getUserInfo (.blockQuote blocks credit) := by
  obtain ⟨fields, decoded, shown, -, read, same⟩ := optional_text_survives readers getUserInfo lawful "credit" credit ok
  apply nested_survives readers getUserInfo blocks _
    (fun values => [("type", JsonValue.string "blockquote"), ("blocks", JsonValue.array values)] ++ fields)
    (.blockQuote · decoded) (.blockQuote · credit) _ _ rfl _ inner
  · intro values shownBlocks
    rw [jsonRichBlock, shownBlocks, shown]
    rfl
  · intro values
    change (getBlockValues readers values >>= fun blocks =>
      getRichText readers.toNumbers ((getField fields "credit").getD .null) >>= fun credit =>
      .ok (InputPageBlock.blockQuote blocks credit)) = _
    rw [read]
    rfl
  · intro _ _ equal
    rw [mapBlock, mapBlock, equal, same]

theorem captioned_survives (lawful : readers.toNumbers.Lawful) (type : String) (blocks : List (PageBlock Double))
    (caption : Option Caption) (block : PageBlock Double)
    (build : List (InputPageBlock Double Media) → Option Caption → InputPageBlock Double Media)
    (print : ∀ values fields, jsonRichBlocks readers.doubles getUserInfo blocks = some values →
      optionalCaption getUserInfo caption = some fields → jsonRichBlock readers.doubles getUserInfo block =
        some (.object ([("type", JsonValue.string type), ("blocks", JsonValue.array values)] ++ fields)))
    (read : ∀ values fields, getInputPageBlock readers
      (.object ([("type", JsonValue.string type), ("blocks", JsonValue.array values)] ++ fields)) =
      getBlockValues readers values >>= fun blocks =>
        getPageBlockCaption readers ((getField fields "caption").getD .null) >>= fun caption => .ok (build blocks caption))
    (expected : asInput readers.doubles Media block = (asInputBlocks readers.doubles Media blocks).map (build · caption))
    (mapped : ∀ change blocks caption, mapBlock change (build blocks caption) = build (mapBlocks change blocks)
      (mapCaption change caption))
    (ok : captionTransported caption = true) (inner : AllSurvive readers getUserInfo blocks) :
    Survives readers getUserInfo block := by
  obtain ⟨fields, decoded, shown, -, readCaption, same⟩ := caption_survives readers getUserInfo lawful caption ok
  apply nested_survives readers getUserInfo blocks _
    (fun values => [("type", JsonValue.string type), ("blocks", JsonValue.array values)] ++ fields)
    (build · decoded) (build · caption) (fun values shownBlocks => print values fields shownBlocks shown) _ expected _ inner
  · intro values
    rw [read, readCaption]
    rfl
  · intro _ _ equal
    rw [mapped, mapped, equal, same]

theorem collage_survives (lawful : readers.toNumbers.Lawful) (blocks : List (PageBlock Double)) (caption : Option Caption)
    (ok : captionTransported caption = true) (inner : AllSurvive readers getUserInfo blocks) :
    Survives readers getUserInfo (.collage blocks caption) := by
  apply captioned_survives readers getUserInfo lawful "collage" blocks caption _ .collage _ (fun _ _ => rfl) rfl
    (fun _ _ _ => rfl) ok inner
  intro values fields shownBlocks shown
  rw [jsonRichBlock, shownBlocks, shown]
  rfl

theorem slideshow_survives (lawful : readers.toNumbers.Lawful) (blocks : List (PageBlock Double)) (caption : Option Caption)
    (ok : captionTransported caption = true) (inner : AllSurvive readers getUserInfo blocks) :
    Survives readers getUserInfo (.slideshow blocks caption) := by
  apply captioned_survives readers getUserInfo lawful "slideshow" blocks caption _ .slideshow _ (fun _ _ => rfl) rfl
    (fun _ _ _ => rfl) ok inner
  intro values fields shownBlocks shown
  rw [jsonRichBlock, shownBlocks, shown]
  rfl

theorem details_survives (lawful : readers.toNumbers.Lawful) (header : RichText) (blocks : List (PageBlock Double))
    (isOpen : Bool)
    (ok : every transportedNode header = true) (inner : AllSurvive readers getUserInfo blocks) :
    Survives readers getUserInfo (.details header blocks isOpen) := by
  obtain ⟨summary, decoded, shown, read, same⟩ := text_survives readers.toNumbers getUserInfo lawful header ok
  apply nested_survives readers getUserInfo blocks _
    (fun values => [("type", JsonValue.string "details"), ("summary", summary), ("blocks", JsonValue.array values)] ++
      optionalTrue "is_open" isOpen)
    (.details decoded · isOpen) (.details header · isOpen) _ _ rfl _ inner
  · intro values shownBlocks
    rw [jsonRichBlock, shown, shownBlocks]
    rfl
  · intro values
    change (getRichText readers.toNumbers summary >>= fun summary => getBlockValues readers values >>= fun blocks =>
      getOptionalBoolField (optionalTrue "is_open" isOpen) "is_open" >>= fun isOpen =>
      .ok (InputPageBlock.details summary blocks isOpen)) = _
    rw [read, read_optional_true _ "is_open" isOpen (by simp)]
    rfl
  · intro _ _ equal
    rw [mapBlock, mapBlock, equal, same]

theorem item_survives (lawful : readers.toNumbers.Lawful) (label : String) (blocks : List (PageBlock Double))
    (hasCheckbox isChecked : Bool) (value : Int32) (type : String) (inner : AllSurvive readers getUserInfo blocks) :
    ∃ shown, jsonListItem readers.doubles getUserInfo (.item label blocks hasCheckbox isChecked value type) = some shown ∧
      Answers mapItem (asInputItem readers.doubles Media (.item label blocks hasCheckbox isChecked value type))
        (getListItem readers shown) := by
  obtain ⟨values, shown, answers⟩ := inner
  let typed : JsonObject := if type = "" then [] else [("type", .string type), ("value", int32Value value)]
  let fields : JsonObject := [("label", JsonValue.string label), ("blocks", JsonValue.array values)] ++
    optionalTrue "has_checkbox" hasCheckbox ++
    optionalTrue "is_checked" (hasCheckbox && isChecked) ++ typed
  have found (name : String) : getField typed name = if type = "" then none else
      if "type" = name then some (.string type) else if "value" = name then some (int32Value value) else none := by
    by_cases empty : type = "" <;> simp [typed, empty]
  have box : getOptionalBoolField fields "has_checkbox" = .ok hasCheckbox :=
    read_optional_true fields _ _ (by simp [fields, found])
  have checked : getOptionalBoolField fields "is_checked" = .ok (hasCheckbox && isChecked) :=
    read_optional_true fields _ _ (by simp [fields, found])
  have typeField : getOptionalStringField fields "type" = .ok type :=
    read_optional_string fields _ _ (by simp [fields, found])
  have number : getOptionalIntField readers fields "value" = .ok (if type = "" then 0 else value) := by
    by_cases empty : type = ""
    · simp [getOptionalIntField, fields, found, empty]
    · rw [if_neg empty]
      exact (read_int readers lawful fields "value" value (by simp [fields, found, empty])).2
  refine ⟨.object fields, ?_, ?_⟩
  · rw [jsonListItem, shown]
    rfl
  · have reads : getListItem readers (.object fields) = getBlockValues readers values >>= fun blocks =>
        .ok (.item blocks hasCheckbox (hasCheckbox && isChecked) (if type = "" then 0 else value) type) := by
      change (getBlockValues readers values >>= fun blocks => getOptionalBoolField fields "has_checkbox" >>= fun hasCheckbox =>
        getOptionalBoolField fields "is_checked" >>= fun isChecked => getOptionalIntField readers fields "value" >>= fun value =>
        getOptionalStringField fields "type" >>= fun type =>
        .ok (InputPageBlockListItem.item blocks hasCheckbox isChecked value type)) = _
      rw [box, checked, number, typeField]
      rfl
    rw [reads]
    exact answers_build mapBlocks mapItem _ _ _
      (.item · hasCheckbox (hasCheckbox && isChecked) (if type = "" then 0 else value) type)
      (fun _ _ equal => by rw [mapItem, mapItem, equal]) answers

theorem list_survives (items : List (PageBlockListItem Double)) (values : List JsonValue)
    (shown : jsonListItems readers.doubles getUserInfo items = some values)
    (answers : Answers mapItems (asInputItems readers.doubles Media items) (getItemValues readers values)) :
    Survives readers getUserInfo (.list items) := by
  refine ⟨.object [("type", .string "list"), ("items", .array values)], ?_, ?_⟩
  · rw [jsonRichBlock, shown]
    rfl
  · have reads : getInputPageBlock readers (.object [("type", .string "list"), ("items", .array values)]) =
        getItemValues readers values >>= fun items => .ok (.list items) := rfl
    rw [reads]
    exact answers_build mapItems mapBlock _ _ _ .list (fun _ _ equal => by rw [mapBlock, mapBlock, equal]) answers

-- A block with media: what is printed is not what get_input_media reads, since no type is
-- printed with it and the sizes of a photo are an array.
theorem media_refused (type : String) (kind : MediaType) (named : MediaType.named type = some kind) (fields : JsonObject)
    (typed : getField fields "type" = some (.string type))
    (media : (∃ values, getField fields type = some (.array values)) ∨
      ∃ object, getField fields type = some (.object object) ∧ getField object "type" = none) :
    Answers mapBlock none (getInputPageBlock readers (.object fields)) := by
  have typeField : getRequiredStringField fields "type" = .ok type := by simp [getRequiredStringField, typed]
  have refused : ∃ status, getMediaBlock readers fields type = .error status ∧ status.code = 400 := by
    rcases media with ⟨values, found⟩ | ⟨object, found, untyped⟩
    · refine ⟨wrongType type .object, ?_, rfl⟩
      simp only [getMediaBlock, named, extractRequiredObject, found]
      rfl
    · refine ⟨missing "type", ?_, rfl⟩
      simp only [getMediaBlock, named, extractRequiredObject, found, ok_bind, getRequiredStringField, untyped]
      rfl
  have reads : getInputPageBlock readers (.object fields) = getMediaBlock readers fields type := by
    rw [getInputPageBlock, get_media_typed readers fields type _ _ typeField (by rw [named]; rfl)]
  rw [reads]
  exact refused

theorem unknown_refused : Answers mapBlock none (getInputPageBlock readers unknownBlock) :=
  ⟨⟨400, "type \"unknown\" is unsupported"⟩, by
    rfl, rfl⟩

@[simp] theorem get_type_of_file (file : File) : getField (jsonStoreFile file) "type" = none := by
  unfold jsonStoreFile
  split_ifs <;> simp

theorem get_type_of_thumbnail (thumbnail : Option Thumbnail) (fields : JsonObject)
    (shown : jsonStoreThumbnail thumbnail = some fields) : getField fields "type" = none := by
  unfold jsonStoreThumbnail at shown
  split at shown
  · cases shown
    rfl
  · split_ifs at shown <;> cases shown <;> simp

theorem animation_survives (lawful : readers.toNumbers.Lawful) (animation : Animation) (caption : Option Caption)
    (needAutoplay hasSpoiler : Bool) (okThumbnail : (jsonStoreThumbnail animation.thumbnail).isSome = true)
    (ok : captionTransported caption = true) :
    Survives readers getUserInfo (.animation (some animation) caption needAutoplay hasSpoiler) := by
  obtain ⟨captionFields, -, shown, only, -⟩ := caption_survives readers getUserInfo lawful caption ok
  obtain ⟨thumbnail, shownThumbnail⟩ := Option.isSome_iff_exists.1 okThumbnail
  refine ⟨_, by rw [jsonRichBlock, jsonAnimation, shownThumbnail, shown]; rfl, ?_⟩
  apply media_refused readers "animation" .animation rfl _ rfl
  exact .inr ⟨_, rfl, by simp [get_type_of_thumbnail _ _ shownThumbnail]⟩

theorem audio_survives (lawful : readers.toNumbers.Lawful) (audio : Audio) (caption : Option Caption)
    (okThumbnail : (jsonStoreThumbnail audio.albumCoverThumbnail).isSome = true) (ok : captionTransported caption = true) :
    Survives readers getUserInfo (.audio (some audio) caption) := by
  obtain ⟨captionFields, -, shown, only, -⟩ := caption_survives readers getUserInfo lawful caption ok
  obtain ⟨thumbnail, shownThumbnail⟩ := Option.isSome_iff_exists.1 okThumbnail
  refine ⟨_, by rw [jsonRichBlock, jsonAudio, shownThumbnail, shown]; rfl, ?_⟩
  apply media_refused readers "audio" .audio rfl _ rfl
  exact .inr ⟨_, rfl, by simp [get_type_of_thumbnail _ _ shownThumbnail]⟩

theorem photo_survives (lawful : readers.toNumbers.Lawful) (sizes : List PhotoSize) (caption : Option Caption)
    (hasSpoiler : Bool) (ok : captionTransported caption = true) :
    Survives readers getUserInfo (.photo (some sizes) caption hasSpoiler) := by
  obtain ⟨captionFields, -, shown, only, -⟩ := caption_survives readers getUserInfo lawful caption ok
  refine ⟨_, by rw [jsonRichBlock, shown]; rfl, ?_⟩
  apply media_refused readers "photo" .photo rfl _ rfl
  exact .inl ⟨_, rfl⟩

theorem video_survives (lawful : readers.toNumbers.Lawful) (video : Video) (caption : Option Caption)
    (needAutoplay isLooped hasSpoiler : Bool) (okThumbnail : (jsonStoreThumbnail video.thumbnail).isSome = true)
    (ok : captionTransported caption = true) :
    Survives readers getUserInfo (.video (some video) caption needAutoplay isLooped hasSpoiler) := by
  obtain ⟨captionFields, -, shown, only, -⟩ := caption_survives readers getUserInfo lawful caption ok
  obtain ⟨thumbnail, shownThumbnail⟩ := Option.isSome_iff_exists.1 okThumbnail
  refine ⟨_, by rw [jsonRichBlock, jsonVideo, shownThumbnail, shown]; rfl, ?_⟩
  apply media_refused readers "video" .video rfl _ rfl
  exact .inr ⟨_, rfl, by simp [get_type_of_thumbnail _ _ shownThumbnail]⟩

theorem voice_note_survives (lawful : readers.toNumbers.Lawful) (voiceNote : VoiceNote) (caption : Option Caption)
    (ok : captionTransported caption = true) : Survives readers getUserInfo (.voiceNote (some voiceNote) caption) := by
  obtain ⟨captionFields, -, shown, only, -⟩ := caption_survives readers getUserInfo lawful caption ok
  refine ⟨_, by rw [jsonRichBlock, shown]; rfl, ?_⟩
  apply media_refused readers "voice_note" .voiceNote rfl _ rfl
  exact .inr ⟨_, rfl, by simp [jsonVoiceNote]⟩

theorem simple_survives (block : PageBlock Double) (fields : JsonObject) (input : InputPageBlock Double Media)
    (print : jsonRichBlock readers.doubles getUserInfo block = some (.object fields))
    (read : getInputPageBlock readers (.object fields) = .ok input) (expected : asInput readers.doubles Media block = some input)
    (same : mapBlock readAbsent input = mapBlock normalise input) : Survives readers getUserInfo block := by
  refine ⟨.object fields, print, ?_⟩
  rw [expected]
  exact ⟨input, read, same⟩

mutual
theorem block_survives (lawful : readers.toNumbers.Lawful) : ∀ block : PageBlock Double, transportedBlock block = true →
    Survives readers getUserInfo block
  | .sectionHeading text size, ok => heading_survives readers getUserInfo lawful text size ok
  | .paragraph text, ok => paragraph_survives readers getUserInfo lawful text ok
  | .preformatted text language, ok => preformatted_survives readers getUserInfo lawful text language ok
  | .footer footer, ok => footer_survives readers getUserInfo lawful footer ok
  | .divider, _ => simple_survives readers getUserInfo _ _ .divider rfl rfl rfl rfl
  | .mathematicalExpression expression, _ =>
      simple_survives readers getUserInfo _ _ (.mathematicalExpression expression) rfl rfl rfl rfl
  | .anchor name, _ => simple_survives readers getUserInfo _ _ (.anchor name) rfl rfl rfl rfl
  | .list items, ok => by
      obtain ⟨values, shown, answers⟩ := items_survive lawful items ok
      exact list_survives readers getUserInfo items values shown answers
  | .blockQuote blocks credit, ok => by
      simp only [transportedBlock, Bool.and_eq_true] at ok
      exact block_quote_survives readers getUserInfo lawful blocks credit ok.2 (blocks_survive lawful blocks ok.1)
  | .pullQuote text credit, ok => by
      simp only [transportedBlock, Bool.and_eq_true] at ok
      exact pull_quote_survives readers getUserInfo lawful text credit ok.1 ok.2
  | .collage blocks caption, ok => by
      simp only [transportedBlock, Bool.and_eq_true] at ok
      exact collage_survives readers getUserInfo lawful blocks caption ok.2 (blocks_survive lawful blocks ok.1)
  | .slideshow blocks caption, ok => by
      simp only [transportedBlock, Bool.and_eq_true] at ok
      exact slideshow_survives readers getUserInfo lawful blocks caption ok.2 (blocks_survive lawful blocks ok.1)
  | .table caption cells isBordered isStriped, ok =>
      table_survives readers getUserInfo lawful caption cells isBordered isStriped ok
  | .details header blocks isOpen, ok => by
      simp only [transportedBlock, Bool.and_eq_true] at ok
      exact details_survives readers getUserInfo lawful header blocks isOpen ok.1 (blocks_survive lawful blocks ok.2)
  | .map location zoom width height caption, ok =>
      map_survives readers getUserInfo lawful location zoom width height caption ok
  | .animation none _ _ _, _ => ⟨unknownBlock, rfl, unknown_refused readers⟩
  | .animation (some animation) caption needAutoplay hasSpoiler, ok => by
      simp only [transportedBlock, Bool.and_eq_true] at ok
      exact animation_survives readers getUserInfo lawful animation caption needAutoplay hasSpoiler ok.1 ok.2
  | .audio none _, _ => ⟨unknownBlock, rfl, unknown_refused readers⟩
  | .audio (some audio) caption, ok => by
      simp only [transportedBlock, Bool.and_eq_true] at ok
      exact audio_survives readers getUserInfo lawful audio caption ok.1 ok.2
  | .photo none _ _, _ => ⟨unknownBlock, rfl, unknown_refused readers⟩
  | .photo (some sizes) caption hasSpoiler, ok => photo_survives readers getUserInfo lawful sizes caption hasSpoiler ok
  | .video none _ _ _ _, _ => ⟨unknownBlock, rfl, unknown_refused readers⟩
  | .video (some video) caption needAutoplay isLooped hasSpoiler, ok => by
      simp only [transportedBlock, Bool.and_eq_true] at ok
      exact video_survives readers getUserInfo lawful video caption needAutoplay isLooped hasSpoiler ok.1 ok.2
  | .voiceNote none _, _ => ⟨unknownBlock, rfl, unknown_refused readers⟩
  | .voiceNote (some voiceNote) caption, ok => voice_note_survives readers getUserInfo lawful voiceNote caption ok
  | .other, _ => ⟨unknownBlock, json_of_unknown readers.doubles getUserInfo, unknown_refused readers⟩
theorem blocks_survive (lawful : readers.toNumbers.Lawful) : ∀ blocks : List (PageBlock Double), transportedBlocks blocks = true →
    AllSurvive readers getUserInfo blocks
  | [], _ => ⟨[], rfl, [], rfl, rfl⟩
  | block :: blocks, ok => by
      simp only [transportedBlocks, Bool.and_eq_true] at ok
      obtain ⟨value, shown, answers⟩ := block_survives lawful block ok.1
      obtain ⟨values, shownAll, answersAll⟩ := blocks_survive lawful blocks ok.2
      refine ⟨value :: values, by simp [jsonRichBlocks, shown, shownAll], ?_⟩
      exact answers_cons mapBlock mapBlocks (fun _ _ _ => rfl) "InputRichBlock" _ _ _ _ answers answersAll
theorem items_survive (lawful : readers.toNumbers.Lawful) : ∀ items : List (PageBlockListItem Double),
    transportedItems items = true →
    ∃ values, jsonListItems readers.doubles getUserInfo items = some values ∧
      Answers mapItems (asInputItems readers.doubles Media items) (getItemValues readers values)
  | [], _ => ⟨[], rfl, [], rfl, rfl⟩
  | .item label blocks hasCheckbox isChecked number type :: items, ok => by
      simp only [transportedItems, transportedItem, Bool.and_eq_true] at ok
      obtain ⟨value, shown, answers⟩ := item_survives readers getUserInfo lawful label blocks hasCheckbox isChecked number type
        (blocks_survive lawful blocks ok.1)
      obtain ⟨values, shownAll, answersAll⟩ := items_survive lawful items ok.2
      refine ⟨value :: values, by simp [jsonListItems, shown, shownAll], ?_⟩
      exact answers_cons mapItem mapItems (fun _ _ _ => rfl) "InputRichBlockListItem" _ _ _ _ answers answersAll
end

end Survival

theorem rich_message_survives {Double Media : Type} (readers : Readers Double Media) (getUserInfo : Int64 → Option UserInfo)
    (lawful : readers.toNumbers.Lawful) (message : RichMessage Double) (transported : transportedBlocks message.blocks = true) :
    ∃ value, jsonRichMessage readers.doubles getUserInfo message = some value ∧
      ((∃ sent, getInputRichMessage readers value = .ok sent) ↔ sendableBlocks message.blocks = true) ∧
      (∀ sent, getInputRichMessage readers value = .ok sent → ∃ blocks decoded,
        asInputBlocks readers.doubles Media message.blocks = some blocks ∧ sent = ⟨.blocks decoded, message.isRtl, true⟩ ∧
        mapBlocks readAbsent decoded = mapBlocks normalise blocks) ∧
      ∀ status, getInputRichMessage readers value = .error status → status.code = 400 := by
  obtain ⟨values, shown, answers⟩ := blocks_survive readers getUserInfo lawful message.blocks transported
  let fields : JsonObject := ("blocks", .array values) :: optionalTrue "is_rtl" message.isRtl
  have rtl : getOptionalBoolField fields "is_rtl" = .ok message.isRtl :=
    read_optional_true fields _ _ (by simp [fields])
  have skip : getOptionalBoolField fields "skip_entity_detection" = .ok false :=
    read_optional_true fields _ _ (by simp [fields])
  have reads : getInputRichMessage readers (.object fields) = getBlockValues readers values >>= fun blocks =>
      .ok ⟨.blocks blocks, message.isRtl, true⟩ := by
    rw [getInputRichMessage, rtl, ok_bind, skip, ok_bind]
    rfl
  have some := as_input_blocks_is_some readers.doubles Media message.blocks
  refine ⟨.object fields, ?_, ?_⟩
  · rw [jsonRichMessage, shown]
    rfl
  · rw [reads]
    cases expected : asInputBlocks readers.doubles Media message.blocks with
    | some blocks =>
        rw [expected] at answers some
        obtain ⟨decoded, read, same⟩ := answers
        rw [read, ← some]
        refine ⟨⟨fun _ => rfl, fun _ => ⟨_, rfl⟩⟩, ?_, ?_⟩
        · rintro sent ⟨⟩
          exact ⟨blocks, decoded, rfl, rfl, same⟩
        · rintro status ⟨⟩
    | none =>
        rw [expected] at answers some
        obtain ⟨status, read, code⟩ := answers
        rw [read, ← some]
        refine ⟨⟨?_, ?_⟩, ?_, ?_⟩
        · rintro ⟨sent, ⟨⟩⟩
        · rintro ⟨⟩
        · rintro sent ⟨⟩
        · rintro other ⟨⟩
          exact code

section Example

def wholeDoubles : Doubles Int where
  zero := 0
  positive value := 0 < value
  print := toString
  toDouble text := (readInteger text).getD 0

def noMedia : Readers Int Unit where
  toNumbers := safeNumbers
  doubles := wholeDoubles
  getInputMedia _ _ := .error ⟨400, "media not found"⟩

def invitation : RichMessage Int where
  blocks := [.sectionHeading (.plain "Party") 1,
    .list [.item "1." [.paragraph (.bold (.plain "bring")), .divider] true true 3 "a", .item "2." [] false true 4 ""],
    .table .missing [[⟨.plain "when", true, 2, 1, .center, .middle⟩, ⟨.missing, false, 0, 1, .left, .top⟩]] true false,
    .details (.plain "where") [.map ⟨10, -20, 0⟩ 3 100 200 (some ⟨.plain "here", .missing⟩)] true]
  isRtl := true

theorem invitation_survives : ∃ value, jsonRichMessage noMedia.doubles (fun _ => none) invitation = some value ∧
    ((∃ sent, getInputRichMessage noMedia value = .ok sent) ↔ sendableBlocks invitation.blocks = true) ∧
    (∀ sent, getInputRichMessage noMedia value = .ok sent → ∃ blocks decoded,
      asInputBlocks noMedia.doubles Unit invitation.blocks = some blocks ∧ sent = ⟨.blocks decoded, invitation.isRtl, true⟩ ∧
      mapBlocks readAbsent decoded = mapBlocks normalise blocks) ∧
    ∀ status, getInputRichMessage noMedia value = .error status → status.code = 400 :=
  rich_message_survives noMedia (fun _ => none) safe_numbers_lawful invitation rfl

example : sendableBlocks invitation.blocks = true := rfl

end Example

end TelegramBotApi.RichBlocks
