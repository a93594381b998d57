import TelegramBotApi.Lib.Checked
import TelegramBotApi.RichTexts

set_option autoImplicit false

namespace TelegramBotApi.RichTexts

open Checked JsonObject

theorem format_survives (formattingType : Option DateTimeFormattingType) (present : presentFormat formattingType = true) :
    ∃ format decoded, getDateTimeFormat formattingType = some format ∧ getDateTimeFormattingType format = .ok decoded ∧
      readAbsentFormat decoded = resetFormat formattingType := by
  cases formattingType with
  | none => exact ⟨"", none, rfl, rfl, rfl⟩
  | some type =>
      cases type with
      | relative => exact ⟨"r", some .relative, rfl, rfl, rfl⟩
      | absolute timePrecision datePrecision showDayOfWeek =>
          simp only [presentFormat, Bool.and_eq_true, Option.isSome_iff_exists] at present
          obtain ⟨⟨time, rfl⟩, ⟨date, rfl⟩⟩ := present
          cases time <;> cases date <;> cases showDayOfWeek <;> exact ⟨_, _, rfl, rfl, rfl⟩

-- What td does with a text that it printed for a number.
structure Numbers.Lawful (numbers : Numbers) : Prop where
  toInt32 : ∀ value : Int32, numbers.toInt32 (toString value.toInt) = some value
  toInt64 : ∀ value : Int64, numbers.toInt64 (toString value.toInt) = some value

section RoundTrip

variable (numbers : Numbers) (getUserInfo : Int64 → Option UserInfo)

def Survives (text : RichText) : Prop :=
  ∃ value decoded, jsonRichText getUserInfo text = some value ∧ getRichText numbers value = .ok decoded ∧
    readAbsent decoded = normalise text

-- A node with a text: how it is printed, what its branch of the reader builds, and which
-- of its fields are reset.
theorem printed_survives (type : String) (fields : JsonObject) (text node : RichText) (build : RichText → RichText)
    (print : jsonRichText getUserInfo node = printed type (jsonRichText getUserInfo text) fields)
    (read : ∀ value decoded, getRichTextObject numbers (("type", .string type) :: ("text", value) :: fields) (.ok decoded) =
      .ok (build decoded))
    (reset : ∀ decoded, readAbsent decoded = normalise text → readAbsent (build decoded) = normalise node)
    (survives : Survives numbers getUserInfo text) : Survives numbers getUserInfo node := by
  obtain ⟨value, decoded, printedText, readText, same⟩ := survives
  refine ⟨.object (("type", .string type) :: ("text", value) :: fields), build decoded, ?_, ?_, reset decoded same⟩
  · rw [print, printedText]
    rfl
  · simp only [getRichText, getRichTextField]
    rw [if_neg (by decide), if_pos trivial, readText]
    exact read value decoded

theorem read_number {Value : Type} (parse : String → Option Value) (object : JsonObject) (name text : String) (value : Value)
    (found : getField object name = some (.number text) ∨ getField object name = some (.string text))
    (parsed : parse text = some value) : getRequiredNumber parse object name = .ok value := by
  rcases found with found | found <;> simp [getRequiredNumber, found, parsed]

theorem mention_name_survives (lawful : numbers.Lawful) (text : RichText) (userId : Int64)
    (survives : Survives numbers getUserInfo text) : Survives numbers getUserInfo (.mentionName text userId) := by
  apply printed_survives numbers getUserInfo "text_mention" [("user", jsonUser getUserInfo userId)] text _
    (.mentionName · userId) rfl _ _ survives
  · intro value decoded
    have read : getRequiredLongField numbers (("id", .number (toString userId.toInt)) :: jsonUserInfo (getUserInfo userId)) "id" =
        .ok userId := read_number _ _ "id" (toString userId.toInt) userId (.inl rfl) (lawful.toInt64 userId)
    change (getRequiredLongField numbers (("id", .number (toString userId.toInt)) :: jsonUserInfo (getUserInfo userId)) "id" >>=
      fun userId => .ok (RichText.mentionName decoded userId)) = .ok (RichText.mentionName decoded userId)
    rw [read]
    rfl
  · intro decoded same
    simpa [readAbsent, normalise, rewrite, readAbsentNode, resetNode] using same

theorem date_time_survives (lawful : numbers.Lawful) (text : RichText) (unixTime : Int32)
    (formattingType : Option DateTimeFormattingType) (present : presentFormat formattingType = true)
    (survives : Survives numbers getUserInfo text) : Survives numbers getUserInfo (.dateTime text unixTime formattingType) := by
  obtain ⟨format, decodedType, shown, read, same⟩ := format_survives formattingType present
  apply printed_survives numbers getUserInfo "date_time" [("unix_time", .number (toString unixTime.toInt)),
    ("date_time_format", .string format)] text _ (.dateTime · unixTime decodedType) _ _ _ survives
  · simp only [jsonRichText, shown, Option.bind_some]
  · intro value decoded
    have time : getRequiredIntField numbers [("type", .string "date_time"), ("text", value),
        ("unix_time", .number (toString unixTime.toInt)), ("date_time_format", .string format)] "unix_time" = .ok unixTime :=
      read_number _ _ "unix_time" (toString unixTime.toInt) unixTime (.inl rfl) (lawful.toInt32 unixTime)
    change (getRequiredIntField numbers [("type", .string "date_time"), ("text", value),
        ("unix_time", .number (toString unixTime.toInt)), ("date_time_format", .string format)] "unix_time" >>= fun unixTime =>
      getDateTimeFormattingType format >>= fun formattingType => .ok (RichText.dateTime decoded unixTime formattingType)) = _
    rw [time, read]
    rfl
  · intro decoded sameText
    simp only [readAbsent, normalise, rewrite, readAbsentNode, resetNode, same] at sameText ⊢
    rw [sameText]

theorem custom_emoji_survives (lawful : numbers.Lawful) (customEmojiId : Int64) (alternativeText : String) :
    Survives numbers getUserInfo (.customEmoji customEmojiId alternativeText) := by
  refine ⟨_, .customEmoji customEmojiId alternativeText, rfl, ?_, rfl⟩
  have read : getRequiredLongField numbers [("type", .string "custom_emoji"),
      ("custom_emoji_id", .string (toString customEmojiId.toInt)),
      ("alternative_text", .string alternativeText)] "custom_emoji_id" =
      .ok customEmojiId :=
    read_number _ _ "custom_emoji_id" (toString customEmojiId.toInt) customEmojiId (.inr rfl) (lawful.toInt64 customEmojiId)
  simp only [getRichText]
  change (getRequiredLongField numbers [("type", .string "custom_emoji"),
      ("custom_emoji_id", .string (toString customEmojiId.toInt)),
      ("alternative_text", .string alternativeText)] "custom_emoji_id" >>=
    fun customEmojiId => .ok (RichText.customEmoji customEmojiId alternativeText)) = _
  rw [read]
  rfl

theorem plain_survives (type : String) (fields : JsonObject) (text node : RichText) (build : RichText → RichText)
    (print : jsonRichText getUserInfo node = printed type (jsonRichText getUserInfo text) fields)
    (read : ∀ value decoded, getRichTextObject numbers (("type", .string type) :: ("text", value) :: fields) (.ok decoded) =
      .ok (build decoded))
    (present : ∀ decoded, readAbsent (build decoded) = build (readAbsent decoded))
    (reset : normalise node = build (normalise text))
    (survives : Survives numbers getUserInfo text) : Survives numbers getUserInfo node := by
  apply printed_survives numbers getUserInfo type fields text node build print read _ survives
  intro decoded same
  rw [present, reset, same]

mutual
theorem text_survives (lawful : numbers.Lawful) : ∀ text : RichText, every transportedNode text = true →
    Survives numbers getUserInfo text
  | .bold text, ok =>
      plain_survives numbers getUserInfo "bold" [] text _ .bold rfl (fun _ _ => rfl)
        (fun _ => rfl) rfl (text_survives lawful text ok)
  | .italic text, ok =>
      plain_survives numbers getUserInfo "italic" [] text _ .italic rfl (fun _ _ => rfl)
        (fun _ => rfl) rfl (text_survives lawful text ok)
  | .underline text, ok =>
      plain_survives numbers getUserInfo "underline" [] text _ .underline rfl (fun _ _ => rfl)
        (fun _ => rfl) rfl (text_survives lawful text ok)
  | .strikethrough text, ok =>
      plain_survives numbers getUserInfo "strikethrough" [] text _ .strikethrough rfl (fun _ _ => rfl)
        (fun _ => rfl) rfl (text_survives lawful text ok)
  | .spoiler text, ok =>
      plain_survives numbers getUserInfo "spoiler" [] text _ .spoiler rfl (fun _ _ => rfl)
        (fun _ => rfl) rfl (text_survives lawful text ok)
  | .dateTime text unixTime formattingType, ok => by
      simp only [every, transportedNode, Bool.and_eq_true] at ok
      exact date_time_survives numbers getUserInfo lawful text unixTime formattingType ok.1 (text_survives lawful text ok.2)
  | .mention text _, ok =>
      plain_survives numbers getUserInfo "mention" _ text _ (.mention · "") rfl (fun _ _ => rfl)
        (fun _ => rfl) rfl (text_survives lawful text ok)
  | .hashtag text _, ok =>
      plain_survives numbers getUserInfo "hashtag" _ text _ (.hashtag · "") rfl (fun _ _ => rfl)
        (fun _ => rfl) rfl (text_survives lawful text ok)
  | .cashtag text _, ok =>
      plain_survives numbers getUserInfo "cashtag" _ text _ (.cashtag · "") rfl (fun _ _ => rfl)
        (fun _ => rfl) rfl (text_survives lawful text ok)
  | .botCommand text _, ok =>
      plain_survives numbers getUserInfo "bot_command" _ text _ (.botCommand · "") rfl (fun _ _ => rfl)
        (fun _ => rfl) rfl (text_survives lawful text ok)
  | .fixed text, ok =>
      plain_survives numbers getUserInfo "code" [] text _ .fixed rfl (fun _ _ => rfl)
        (fun _ => rfl) rfl (text_survives lawful text ok)
  | .mentionName text userId, ok => mention_name_survives numbers getUserInfo lawful text userId (text_survives lawful text ok)
  | .url text url _, ok =>
      plain_survives numbers getUserInfo "url" _ text _ (.url · url false) rfl (fun _ _ => rfl)
        (fun _ => rfl) rfl (text_survives lawful text ok)
  | .emailAddress text emailAddress, ok =>
      plain_survives numbers getUserInfo "email_address" _ text _ (.emailAddress · emailAddress) rfl (fun _ _ => rfl)
        (fun _ => rfl) rfl (text_survives lawful text ok)
  | .bankCardNumber text _, ok =>
      plain_survives numbers getUserInfo "bank_card_number" _ text _ (.bankCardNumber · "") rfl (fun _ _ => rfl)
        (fun _ => rfl) rfl (text_survives lawful text ok)
  | .subscript text, ok =>
      plain_survives numbers getUserInfo "subscript" [] text _ .subscript rfl (fun _ _ => rfl)
        (fun _ => rfl) rfl (text_survives lawful text ok)
  | .superscript text, ok =>
      plain_survives numbers getUserInfo "superscript" [] text _ .superscript rfl (fun _ _ => rfl)
        (fun _ => rfl) rfl (text_survives lawful text ok)
  | .marked text, ok =>
      plain_survives numbers getUserInfo "marked" [] text _ .marked rfl (fun _ _ => rfl)
        (fun _ => rfl) rfl (text_survives lawful text ok)
  | .phoneNumber text phoneNumber, ok =>
      plain_survives numbers getUserInfo "phone_number" _ text _ (.phoneNumber · phoneNumber) rfl (fun _ _ => rfl)
        (fun _ => rfl) rfl (text_survives lawful text ok)
  | .customEmoji customEmojiId alternativeText, _ =>
      custom_emoji_survives numbers getUserInfo lawful customEmojiId alternativeText
  | .mathematicalExpression expression, _ => ⟨_, .mathematicalExpression expression, rfl, rfl, rfl⟩
  | .reference name text, ok =>
      plain_survives numbers getUserInfo "reference" _ text _ (.reference name) rfl (fun _ _ => rfl)
        (fun _ => rfl) rfl (text_survives lawful text ok)
  | .referenceLink text referenceName _, ok =>
      plain_survives numbers getUserInfo "reference_link" _ text _ (.referenceLink · referenceName "") rfl (fun _ _ => rfl)
        (fun _ => rfl) rfl (text_survives lawful text ok)
  | .anchor name, _ => ⟨_, .anchor name, rfl, rfl, rfl⟩
  | .anchorLink text anchorName _, ok =>
      plain_survives numbers getUserInfo "anchor_link" _ text _ (.anchorLink · anchorName "") rfl (fun _ _ => rfl)
        (fun _ => rfl) rfl (text_survives lawful text ok)
  | .plain text, _ => ⟨.string text, .plain text, rfl, rfl, rfl⟩
  | .texts texts, ok => by
      obtain ⟨values, decoded, printedTexts, read, same⟩ := texts_survive lawful texts ok
      refine ⟨.array values, .texts decoded, ?_, ?_, ?_⟩
      · simp only [jsonRichText, printedTexts, Option.map_some]
      · simp only [getRichText, read]
        rfl
      · simp only [readAbsent, normalise, rewrite, readAbsentNode, resetNode, same]
theorem texts_survive (lawful : numbers.Lawful) : ∀ texts : List RichText, everyAll transportedNode texts = true →
    ∃ values decoded, jsonRichTexts getUserInfo texts = some values ∧ getRichTexts numbers values = .ok decoded ∧
      rewriteAll readAbsentNode decoded = rewriteAll resetNode texts
  | [], _ => ⟨[], [], rfl, rfl, rfl⟩
  | text :: texts, ok => by
      simp only [everyAll, Bool.and_eq_true] at ok
      obtain ⟨value, decoded, printedText, read, same⟩ := text_survives lawful text ok.1
      obtain ⟨values, others, printedTexts, readOthers, sameOthers⟩ := texts_survive lawful texts ok.2
      refine ⟨value :: values, decoded :: others, ?_, ?_, ?_⟩
      · simp only [jsonRichTexts, printedText, printedTexts, Option.bind_some, Option.map_some]
      · simp only [getRichTexts, read, readOthers]
        rfl
      · simp only [readAbsent, normalise] at same
        simp only [rewriteAll, same, sameOthers]
end

end RoundTrip

def producedNode : RichText → Bool
  | .icon => false
  | .diff => false
  | .dateTime _ _ formattingType => resetFormat (readAbsentFormat formattingType) = readAbsentFormat formattingType
  | .mention _ username => username = ""
  | .hashtag _ hashtag => hashtag = ""
  | .cashtag _ cashtag => cashtag = ""
  | .botCommand _ botCommand => botCommand = ""
  | .bankCardNumber _ bankCardNumber => bankCardNumber = ""
  | .url _ _ isCached => !isCached
  | .referenceLink _ _ url => url = ""
  | .anchorLink _ _ url => url = ""
  | _ => true

abbrev Produced (text : RichText) : Prop := every producedNode text = true

section Produced

variable (numbers : Numbers)

theorem format_letter_shows (result : Option DateTimePartPrecision × Option DateTimePartPrecision × Bool) (letter : Char) :
    Meets (fun _ => True) (fun after => ¬ (after.1.getD .none = .none ∧ after.2.1.getD .none = .none ∧ after.2.2 = false))
      (formatLetter result letter) := by
  unfold formatLetter
  split_ifs <;> simp

theorem formatting_type_produced (format : String) :
    Meets (fun _ => True) (fun formattingType => resetFormat (readAbsentFormat formattingType) = readAbsentFormat formattingType)
      (getDateTimeFormattingType format) := by
  unfold getDateTimeFormattingType
  split_ifs with empty relative
  · rfl
  · rfl
  · cases letters : format.toList with
    | nil => exact absurd (String.toList_injective (by simpa using letters)) empty
    | cons first rest =>
        have shows : Meets (fun _ => True) (fun (after : Option DateTimePartPrecision × Option DateTimePartPrecision × Bool) =>
            ¬ (after.1.getD .none = .none ∧ after.2.1.getD .none = .none ∧ after.2.2 = false))
            ((first :: rest).foldlM formatLetter (none, none, false)) := by
          rw [List.foldlM_cons]
          apply meets_bind _ _ _ _ _ (format_letter_shows (none, none, false) first)
          intro after showing
          exact meets_foldlM _ _ _ rest after showing (fun state letter _ _ => format_letter_shows state letter)
        apply meets_bind _ _ _ _ _ shows
        rintro ⟨timePrecision, datePrecision, showDayOfWeek⟩ showing
        simp only [meets_pure, readAbsentFormat, resetFormat, Option.getD_some]
        exact if_neg showing

theorem object_produced (object : JsonObject) (text : Result RichText) (held : Meets (fun _ => True) Produced text) :
    Meets (fun _ => True) Produced (getRichTextObject numbers object text) := by
  have withText (build : RichText → RichText) (keeps : ∀ decoded, Produced decoded → Produced (build decoded)) :
      Meets (fun _ => True) Produced (text >>= fun decoded => pure (build decoded)) :=
    meets_bind _ _ _ _ _ held keeps
  have withString (name : String) (build : RichText → String → RichText)
      (keeps : ∀ decoded value, Produced decoded → Produced (build decoded value)) :
      Meets (fun _ => True) Produced (text >>= fun decoded =>
        getRequiredStringField object name >>= fun value => pure (build decoded value)) := by
    apply meets_bind _ _ _ _ _ held
    intro decoded produced
    exact meets_read _ _ _ (fun value => keeps decoded value produced)
  unfold getRichTextObject
  apply meets_read
  intro type
  split
  · exact withText .bold (fun _ produced => produced)
  · exact withText .italic (fun _ produced => produced)
  · exact withText .underline (fun _ produced => produced)
  · exact withText .strikethrough (fun _ produced => produced)
  · exact withText .spoiler (fun _ produced => produced)
  · apply meets_bind _ _ _ _ _ held
    intro decoded produced
    apply meets_read
    intro unixTime
    apply meets_read
    intro format
    apply meets_bind _ _ _ _ _ (formatting_type_produced format)
    intro formattingType shows
    simp [Produced, every, producedNode, shows, produced]
  · exact withText (.mention · "") (fun _ produced => produced)
  · exact withText (.hashtag · "") (fun _ produced => produced)
  · exact withText (.cashtag · "") (fun _ produced => produced)
  · exact withText (.botCommand · "") (fun _ produced => produced)
  · exact withText .fixed (fun _ produced => produced)
  · apply meets_bind _ _ _ _ _ held
    intro decoded produced
    apply meets_read
    intro userObject
    apply meets_read
    intro userId
    exact produced
  · exact withString "url" (.url · · false) (fun _ _ produced => produced)
  · exact withString "email_address" .emailAddress (fun _ _ produced => produced)
  · exact withText (.bankCardNumber · "") (fun _ produced => produced)
  · exact withText .subscript (fun _ produced => produced)
  · exact withText .superscript (fun _ produced => produced)
  · exact withText .marked (fun _ produced => produced)
  · exact withString "phone_number" .phoneNumber (fun _ _ produced => produced)
  · apply meets_read
    intro customEmojiId
    apply meets_read
    intro alternativeText
    rfl
  · apply meets_read
    intro expression
    rfl
  · exact withString "name" (fun decoded name => .reference name decoded) (fun _ _ produced => produced)
  · exact withString "reference_name" (.referenceLink · · "") (fun _ _ produced => produced)
  · apply meets_read
    intro name
    rfl
  · exact withString "anchor_name" (.anchorLink · · "") (fun _ _ produced => produced)
  · trivial

mutual
theorem rich_text_produced : ∀ value : JsonValue, Meets (fun _ => True) Produced (getRichText numbers value)
  | .null => by simp [getRichText, Produced, every, producedNode]
  | .string text => by simp [getRichText, Produced, every, producedNode]
  | .array values => by
      have all := rich_texts_produced values
      simp only [getRichText]
      cases read : getRichTexts numbers values with
      | error status => trivial
      | ok texts =>
          rw [read] at all
          exact all
  | .object fields => by
      simp only [getRichText]
      exact object_produced numbers fields _ (rich_text_field_produced fields)
  | .number _ => trivial
  | .boolean _ => trivial
theorem rich_texts_produced : ∀ values : List JsonValue,
    Meets (fun _ => True) (fun texts => everyAll producedNode texts = true) (getRichTexts numbers values)
  | [] => rfl
  | value :: values => by
      simp only [getRichTexts]
      apply meets_bind _ _ _ _ _ (rich_text_produced value)
      intro text produced
      apply meets_bind _ _ _ _ _ (rich_texts_produced values)
      intro texts all
      simp only [meets_pure, everyAll, Bool.and_eq_true]
      exact ⟨produced, all⟩
theorem rich_text_field_produced : ∀ fields : List (String × JsonValue),
    Meets (fun _ => True) Produced (getRichTextField numbers fields)
  | [] => rfl
  | (name, value) :: fields => by
      simp only [getRichTextField]
      split
      · exact rich_text_produced value
      · exact rich_text_field_produced fields
end

end Produced

mutual
theorem produced_normal (text : RichText) (produced : Produced text) :
    rewrite resetNode (rewrite readAbsentNode text) = rewrite readAbsentNode text := by
  cases text with
  | missing | plain | customEmoji | mathematicalExpression | anchor => rfl
  | icon | diff => cases produced
  | texts texts => simp [rewrite, readAbsentNode, resetNode, produced_all_normal texts produced]
  | bold text | italic text | underline text | strikethrough text | spoiler text | fixed text | subscript text
  | superscript text | marked text | mentionName text | emailAddress text | phoneNumber text | reference _ text =>
      simp [rewrite, readAbsentNode, resetNode, produced_normal text produced]
  | mention text reset | hashtag text reset | cashtag text reset | botCommand text reset | bankCardNumber text reset
  | url text _ reset | referenceLink text _ reset | anchorLink text _ reset =>
      simp only [Produced, every, producedNode, Bool.and_eq_true, decide_eq_true_eq, Bool.not_eq_true'] at produced
      simp [rewrite, readAbsentNode, resetNode, produced_normal text produced.2, produced.1]
  | dateTime text unixTime formattingType =>
      simp only [Produced, every, producedNode, Bool.and_eq_true, decide_eq_true_eq] at produced
      simp [rewrite, readAbsentNode, resetNode, produced_normal text produced.2, produced.1]
theorem produced_all_normal (texts : List RichText) (produced : everyAll producedNode texts = true) :
    rewriteAll resetNode (rewriteAll readAbsentNode texts) = rewriteAll readAbsentNode texts := by
  cases texts with
  | nil => rfl
  | cons text texts =>
      simp only [everyAll, Bool.and_eq_true] at produced
      simp [rewriteAll, produced_normal text produced.1, produced_all_normal texts produced.2]
end

mutual
theorem produced_transported (text : RichText) (produced : Produced text) (complete : every presentNode text = true) :
    every transportedNode (rewrite readAbsentNode text) = true := by
  cases text with
  | missing => cases complete
  | icon | diff => cases produced
  | plain | customEmoji | mathematicalExpression | anchor => rfl
  | texts texts => exact produced_all_transported texts produced complete
  | bold text | italic text | underline text | strikethrough text | spoiler text | fixed text | subscript text
  | superscript text | marked text | mentionName text | emailAddress text | phoneNumber text | reference _ text =>
      exact produced_transported text produced complete
  | mention text | hashtag text | cashtag text | botCommand text | bankCardNumber text
  | url text | referenceLink text | anchorLink text =>
      simp only [Produced, every, Bool.and_eq_true] at produced
      exact produced_transported text produced.2 complete
  | dateTime text unixTime formattingType =>
      simp only [Produced, every, Bool.and_eq_true] at produced
      have present : presentFormat (readAbsentFormat formattingType) = true := by
        rcases formattingType with _ | _ | _ <;> rfl
      simp only [rewrite, readAbsentNode, every, transportedNode, present, Bool.true_and]
      exact produced_transported text produced.2 complete
theorem produced_all_transported (texts : List RichText) (produced : everyAll producedNode texts = true)
    (complete : everyAll presentNode texts = true) : everyAll transportedNode (rewriteAll readAbsentNode texts) = true := by
  cases texts with
  | nil => rfl
  | cons text texts =>
      simp only [everyAll, Bool.and_eq_true] at produced complete
      simp only [rewriteAll, everyAll, Bool.and_eq_true]
      exact ⟨produced_transported text produced.1 complete.1, produced_all_transported texts produced.2 complete.2⟩
end

theorem rich_text_survives (numbers : Numbers) (lawful : numbers.Lawful) (getUserInfo : Int64 → Option UserInfo) :
    (∀ text, Transported text → ∃ value decoded, jsonRichText getUserInfo text = some value ∧
      getRichText numbers value = .ok decoded ∧ readAbsent decoded = normalise text) ∧
    (∀ sent text, getRichText numbers sent = .ok text → Complete text →
      ∃ value decoded, jsonRichText getUserInfo (readAbsent text) = some value ∧
        getRichText numbers value = .ok decoded ∧ readAbsent decoded = readAbsent text) := by
  constructor
  · exact text_survives numbers getUserInfo lawful
  · intro sent text read complete
    have produced : Produced text := meets_returns _ _ _ _ (rich_text_produced numbers sent) read
    obtain ⟨value, decoded, shown, again, same⟩ :=
      text_survives numbers getUserInfo lawful (readAbsent text) (produced_transported text produced complete)
    exact ⟨value, decoded, shown, again, same.trans (produced_normal text produced)⟩

section Example

def signed : List Char → Int
  | '-' :: digits => -(Nat.ofDigitChars 10 digits 0 : Int)
  | digits => Nat.ofDigitChars 10 digits 0

theorem signed_to_string (value : Int) : signed (toString value).toList = value := by
  cases value with
  | ofNat number =>
      have digits : (toString (Int.ofNat number)).toList = Nat.toDigits 10 number := Nat.toList_repr
      rw [digits]
      have none : '-' ∉ Nat.toDigits 10 number := fun member =>
        absurd (Nat.isDigit_of_mem_toDigits (by decide) (by decide) member) (by decide)
      unfold signed
      split
      · rename_i same
        rw [same] at none
        exact absurd List.mem_cons_self none
      · simp
  | negSucc number =>
      have digits : (toString (Int.negSucc number)).toList = '-' :: Nat.toDigits 10 (number + 1) := by
        change ("-" ++ Nat.repr (number + 1)).toList = _
        rw [String.toList_append, Nat.toList_repr]
        rfl
      rw [digits, signed, Nat.ofDigitChars_ten_toDigits]
      rfl

-- td::to_integer_safe accepts the texts that it would print.
def readInteger (text : String) : Option Int := (some (signed text.toList)).filter (fun value => decide (toString value = text))

theorem read_integer (value : Int) : readInteger (toString value) = some value := by
  rw [readInteger, signed_to_string]
  simp

def safeNumbers : Numbers where
  toInt32 text := (readInteger text).bind
    (fun value => if (Int32.ofInt value).toInt = value then some (Int32.ofInt value) else none)
  toInt64 text := (readInteger text).bind
    (fun value => if (Int64.ofInt value).toInt = value then some (Int64.ofInt value) else none)

theorem safe_numbers_lawful : safeNumbers.Lawful where
  toInt32 value := by simp only [safeNumbers, read_integer, Option.bind_some, Int32.ofInt_toInt, if_true]
  toInt64 value := by simp only [safeNumbers, read_integer, Option.bind_some, Int64.ofInt_toInt, if_true]

def announcement : RichText :=
  .texts [.bold (.url (.plain "Party") "https://example.org/" true),
    .dateTime (.texts [.plain "on ", .mention (.plain "@host") "host"]) 1700000000
    (some (.absolute (some .short) (some .long) true)),
    .dateTime (.plain "later") (-5) (some (.absolute (some .none) (some .none) false)),
    .mentionName (.customEmoji 5368324170671202286 "x") 42]

theorem announcement_survives : ∃ value decoded, jsonRichText (fun _ => none) announcement = some value ∧
    getRichText safeNumbers value = .ok decoded ∧ readAbsent decoded = normalise announcement :=
  (rich_text_survives safeNumbers safe_numbers_lawful (fun _ => none)).1 announcement rfl

end Example

end TelegramBotApi.RichTexts
