import TelegramBotApi.E2eeChannel
import TelegramBotApi.Json
import TelegramBotApi.Lib.Texts

set_option autoImplicit false

namespace TelegramBotApi.E2ee

open Checked

-- JSON.stringify and JSON.parse. A number is given as String shows it; there is no
-- text for what is no JavaScript value, and parsing fails with a SyntaxError.
structure JavaScriptJson where
  stringify : JsonValue → Option String
  parse : String → Except String JsonValue

-- What ECMA-262 says of the two.
structure JavaScriptJson.Lawful (js : JavaScriptJson) : Prop where
  roundTrip : ∀ value text, js.stringify value = some text → js.parse text = .ok value
  object : ∀ fields text, js.stringify (.object fields) = some text →
    text.toList.head? = some '\x7b' ∧ text.toList.getLast? = some '\x7d'

def utf8 (text : String) : Bytes := text.toUTF8.data.toList

def utf8Text (bytes : Bytes) : Option String := String.fromUTF8? ⟨bytes.toArray⟩

def JavaScriptJson.buffer (js : JavaScriptJson) : JsonText JsonValue where
  stringify value := (js.stringify value).map utf8
  parse bytes := (utf8Text bytes).bind (fun text => (js.parse text).toOption)

-- A property of a value that JSON.parse returned.
def property (value : JsonValue) (name : String) : Option JsonValue :=
  match value with
  | .object fields => JsonObject.getField fields name
  | _ => none

def isWhitespace (char : Char) : Bool :=
  char.toNat ∈ [9, 10, 11, 12, 13, 32, 0xA0, 0x1680, 0x2028, 0x2029, 0x202F, 0x205F, 0x3000, 0xFEFF] ||
    0x2000 ≤ char.toNat && char.toNat ≤ 0x200A

def trim (text : String) : String :=
  String.ofList (Texts.strip isWhitespace text.toList)

def EncryptedEnvelope.toJson (envelope : EncryptedEnvelope) : JsonValue :=
  .object [("v", .number envelope.v.shown), ("senderPublicKey", .string envelope.senderPublicKey),
    ("nonce", .string envelope.nonce), ("ciphertext", .string envelope.ciphertext)]

def isEncryptedEnvelope (value : JsonValue) : Option EncryptedEnvelope :=
  match property value "v", property value "senderPublicKey", property value "nonce", property value "ciphertext" with
  | some (.number version), some (.string senderPublicKey), some (.string nonce), some (.string ciphertext) =>
      if version = "1" then some ⟨.one, senderPublicKey, nonce, ciphertext⟩ else none
  | _, _, _, _ => none

-- The messages of JSON-RPC 2.0, as the type JSONRPCMessage of the SDK has them.
inductive JSONRPCMessage where
  | request (id : JsonValue) (method : String) (params : Option JsonValue)
  | notification (method : String) (params : Option JsonValue)
  | response (id result : JsonValue)
  | error (id details : JsonValue)

def paramsField (params : Option JsonValue) : JsonObject := (params.map (fun value => ("params", value))).toList

def JSONRPCMessage.fields : JSONRPCMessage → JsonObject
  | .request id method params =>
      [("jsonrpc", .string "2.0"), ("id", id), ("method", .string method)] ++ paramsField params
  | .notification method params => [("jsonrpc", .string "2.0"), ("method", .string method)] ++ paramsField params
  | .response id result => [("jsonrpc", .string "2.0"), ("id", id), ("result", result)]
  | .error id details => [("jsonrpc", .string "2.0"), ("id", id), ("error", details)]

def JSONRPCMessage.toJson (message : JSONRPCMessage) : JsonValue := .object message.fields

def textOf (js : JavaScriptJson) (value : JsonValue) : Except String String :=
  match js.stringify value with
  | some text => .ok text
  | none => .error "The \"string\" argument must be of type string"

def telegramBoardE2eePrefix : String := "RAOS-E2EE/1:"

def telegramMaxTextBytes : Nat := 4096

def defaultMaxFrameBytes : Int := 1024 * 1024

def boardPayload (body : String) : JsonValue :=
  .object [("kind", .string "telegram-board-message"), ("body", .string body)]

def invalidMessageShape : String := "Decrypted Telegram board payload has an invalid message shape"

def bodyOf (payload : JsonValue) : Except String String :=
  match property payload "kind", property payload "body" with
  | some (.string kind), some (.string body) =>
      if kind = "telegram-board-message" then .ok body else .error invalidMessageShape
  | _, _ => .error invalidMessageShape

-- How the payload and the envelope of a board message are written and read. The bodies
-- are strings; parse is none where JSON.parse throws.
structure BoardJson (Value Body : Type) where
  buffer : JsonText Value
  payload : Body → Value
  text : EncryptedEnvelope → Except String String
  parse : String → Option Value
  envelope : Value → Option EncryptedEnvelope
  body : Value → Except String Body

def JavaScriptJson.board (js : JavaScriptJson) : BoardJson JsonValue String where
  buffer := js.buffer
  payload := boardPayload
  text envelope := textOf js envelope.toJson
  parse text := (js.parse text).toOption
  envelope := isEncryptedEnvelope
  body := bodyOf

section Board

variable {Value Body : Type} (nacl : NaclBox) (json : BoardJson Value Body)

def boardTextTooLong : String :=
  "Encrypted Telegram board message exceeds " ++ toString telegramMaxTextBytes ++ " byte text limit"

def encodeTelegramBoardMessage (session : E2eeSession) (nonce : Bytes) (body : Body) : Except String String := do
  let envelope ← session.seal nacl json.buffer nonce (json.payload body)
  let text ← json.text envelope
  let encoded := telegramBoardE2eePrefix ++ text
  require boardTextTooLong (encoded.utf8ByteSize ≤ telegramMaxTextBytes)
  return encoded

-- The part of decodeTelegramBoardMessage before the envelope is opened.
def readBoardText (text : String) : Except String EncryptedEnvelope :=
  if telegramBoardE2eePrefix.toList.isPrefixOf text.toList then
    match json.parse (String.ofList (text.toList.drop telegramBoardE2eePrefix.toList.length)) with
    | none => .error "Encrypted Telegram board payload is not valid JSON"
    | some value =>
        match json.envelope value with
        | none => .error "Encrypted Telegram board payload has an invalid envelope shape"
        | some envelope => .ok envelope
  else .error "Telegram board message is not an RAOS-E2EE/1 encrypted payload"

def decodeTelegramBoardMessage (session : E2eeSession) (text : String) : Except String Body × E2eeSession :=
  match readBoardText json text with
  | .error error => (.error error, session)
  | .ok envelope =>
      let (payload, opened) := session.open nacl json.buffer envelope
      (payload >>= json.body, opened)

theorem read_board_text (text : String) (value : Value) (envelope : EncryptedEnvelope) (parsed : json.parse text = some value)
    (shaped : json.envelope value = some envelope) : readBoardText json (telegramBoardE2eePrefix ++ text) = .ok envelope := by
  rw [readBoardText, String.toList_append, if_pos (List.isPrefixOf_iff_prefix.2 (List.prefix_append _ _)), List.drop_left,
    String.ofList_toList, parsed]
  dsimp only
  rw [shaped]

theorem encode_board_text (session : E2eeSession) (nonce : Bytes) (body : Body) (envelope : EncryptedEnvelope) (text : String)
    (made : session.seal nacl json.buffer nonce (json.payload body) = .ok envelope) (written : json.text envelope = .ok text) :
    encodeTelegramBoardMessage nacl json session nonce body =
      if (telegramBoardE2eePrefix ++ text).utf8ByteSize ≤ telegramMaxTextBytes then .ok (telegramBoardE2eePrefix ++ text)
      else .error boardTextTooLong := by
  rw [encodeTelegramBoardMessage, made, ok_bind, written, ok_bind]
  dsimp only
  unfold require
  split <;> rfl

theorem encoded_board_text (session : E2eeSession) (nonce : Bytes) (body : Body) (encoded : String)
    (posted : encodeTelegramBoardMessage nacl json session nonce body = .ok encoded) : ∃ envelope text,
      session.seal nacl json.buffer nonce (json.payload body) = .ok envelope ∧ json.text envelope = .ok text ∧
      encoded = telegramBoardE2eePrefix ++ text := by
  cases made : session.seal nacl json.buffer nonce (json.payload body) with
  | error error =>
      rw [encodeTelegramBoardMessage, made] at posted
      cases posted
  | ok envelope =>
      cases written : json.text envelope with
      | error error =>
          rw [encodeTelegramBoardMessage, made, ok_bind, written] at posted
          cases posted
      | ok text =>
          rw [encode_board_text nacl json session nonce body envelope text made written] at posted
          split at posted
          · exact ⟨envelope, text, rfl, written, (Except.ok.inj posted).symm⟩
          · cases posted

theorem decode_board_text (session : E2eeSession) (text : String) (envelope : EncryptedEnvelope)
    (read : readBoardText json text = .ok envelope) : decodeTelegramBoardMessage nacl json session text =
      ((session.open nacl json.buffer envelope).1 >>= json.body, (session.open nacl json.buffer envelope).2) := by
  rw [decodeTelegramBoardMessage, read]

end Board

section Transport

variable (nacl : NaclBox) (js : JavaScriptJson)

def frameTooLong (maxFrameBytes : Int) : String := "Encrypted MCP frame exceeds " ++ toString maxFrameBytes ++ " byte limit"

-- send of a transport that is started and not closed. The line is written with a line
-- feed after it.
def transportSend (maxFrameBytes : Int) (session : E2eeSession) (nonce : Bytes) (message : JSONRPCMessage) :
    Except String String := do
  let envelope ← session.seal nacl js.buffer nonce message.toJson
  let line ← textOf js envelope.toJson
  require (frameTooLong maxFrameBytes) (line.utf8ByteSize ≤ maxFrameBytes)
  return line

-- The part of handleLine before the envelope is opened.
def readLine (maxFrameBytes : Int) (line : String) : Except String EncryptedEnvelope := do
  require (frameTooLong maxFrameBytes) ((trim line).utf8ByteSize ≤ maxFrameBytes)
  let parsed ← js.parse (trim line)
  match isEncryptedEnvelope parsed with
  | none => .error ("Received a plaintext/malformed frame on an end-to-end encrypted transport; " ++
      "refusing to process it")
  | some envelope => return envelope

inductive Handled where
  | ignored
  | onerror (message : String)
  | onmessage (message : JsonValue)

def handleLine (maxFrameBytes : Int) (session : E2eeSession) (line : String) : Handled × E2eeSession :=
  if trim line = "" then (.ignored, session)
  else
    match readLine js maxFrameBytes line with
    | .error error => (.onerror error, session)
    | .ok envelope =>
        match session.open nacl js.buffer envelope with
        | (.error error, opened) => (.onerror error, opened)
        | (.ok message, opened) => (.onmessage message, opened)

theorem transport_send_line (maxFrameBytes : Int) (session : E2eeSession) (nonce : Bytes) (message : JSONRPCMessage)
    (envelope : EncryptedEnvelope) (line : String) (made : session.seal nacl js.buffer nonce message.toJson = .ok envelope)
    (written : textOf js envelope.toJson = .ok line) : transportSend nacl js maxFrameBytes session nonce message =
      if (line.utf8ByteSize : Int) ≤ maxFrameBytes then .ok line else .error (frameTooLong maxFrameBytes) := by
  rw [transportSend, made, ok_bind, written, ok_bind]
  unfold require
  split <;> rfl

theorem transport_sent_line (maxFrameBytes : Int) (session : E2eeSession) (nonce : Bytes) (message : JSONRPCMessage)
    (line : String) (sent : transportSend nacl js maxFrameBytes session nonce message = .ok line) : ∃ envelope,
      session.seal nacl js.buffer nonce message.toJson = .ok envelope ∧ textOf js envelope.toJson = .ok line ∧
      (line.utf8ByteSize : Int) ≤ maxFrameBytes := by
  cases made : session.seal nacl js.buffer nonce message.toJson with
  | error error =>
      rw [transportSend, made] at sent
      cases sent
  | ok envelope =>
      cases written : textOf js envelope.toJson with
      | error error =>
          rw [transportSend, made, ok_bind, written] at sent
          cases sent
      | ok text =>
          rw [transport_send_line nacl js maxFrameBytes session nonce message envelope text made written] at sent
          split at sent
          · rename_i short
            cases sent
            exact ⟨envelope, rfl, written, short⟩
          · cases sent

end Transport

theorem utf8_text_utf8 (text : String) : utf8Text (utf8 text) = some text := by
  simp only [utf8Text, utf8, String.fromUTF8?, Array.toArray_toList]
  exact dif_pos text.isValidUTF8

@[simp] theorem is_encrypted_envelope_json (envelope : EncryptedEnvelope) (one : envelope.v = .one) :
    isEncryptedEnvelope envelope.toJson = some envelope := by
  obtain ⟨v, senderPublicKey, nonce, ciphertext⟩ := envelope
  cases one
  rfl

@[simp] theorem body_of_board_payload (body : String) : bodyOf (boardPayload body) = .ok body := rfl

theorem message_no_kind (message : JSONRPCMessage) : property message.toJson "kind" = none := by
  cases message with
  | request id method params => cases params <;> rfl
  | notification method params => cases params <;> rfl
  | response id result => rfl
  | error id details => rfl

theorem body_of_message (message : JSONRPCMessage) (body : String) : bodyOf message.toJson ≠ .ok body := by
  simp [bodyOf, message_no_kind]

theorem message_not_board (message : JSONRPCMessage) (body : String) : message.toJson ≠ boardPayload body := by
  intro same
  exact body_of_message message body (same ▸ body_of_board_payload body)

theorem js_buffer_round_trip (js : JavaScriptJson) (lawful : js.Lawful) (value : JsonValue) (bytes : Bytes)
    (stringified : js.buffer.stringify value = some bytes) : js.buffer.parse bytes = some value := by
  obtain ⟨text, written, rfl⟩ := Option.map_eq_some_iff.1 stringified
  change (utf8Text (utf8 text)).bind _ = _
  rw [utf8_text_utf8, Option.bind_some, lawful.roundTrip value text written]
  rfl

theorem head_of_append (first last : String) (char : Char) (begins : first.toList.head? = some char) :
    (first ++ last).toList.head? = some char := by
  rw [String.toList_append, List.head?_append, begins, Option.some_or]

theorem last_of_append (first last : String) (char : Char) (ends : last.toList.getLast? = some char) :
    (first ++ last).toList.getLast? = some char := by
  rw [String.toList_append, List.getLast?_append, ends, Option.some_or]

theorem trim_object (text : String) (first : text.toList.head? = some '\x7b') (last : text.toList.getLast? = some '\x7d') :
    trim text = text := by
  obtain ⟨rest, begins⟩ := List.head?_eq_some_iff.1 first
  obtain ⟨start, ends⟩ := List.getLast?_eq_some_iff.1 last
  have kept : text.toList.dropWhile isWhitespace = text.toList := by
    rw [begins]
    exact List.dropWhile_cons_of_neg (by decide)
  have keptBack : text.toList.reverse.dropWhile isWhitespace = text.toList.reverse := by
    rw [ends, List.reverse_append]
    exact List.dropWhile_cons_of_neg (by decide)
  rw [trim, Texts.strip, kept, keptBack, List.reverse_reverse, String.ofList_toList]

end TelegramBotApi.E2ee
