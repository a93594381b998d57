import TelegramBotApi.ChannelSeparation
import TelegramBotApi.Lib.EcmaJson

set_option autoImplicit false

-- The board messages once more, with the strings of JavaScript as they are: the schema
-- counts UTF-16 code units, the limit counts bytes.
namespace TelegramBotApi.BoardMessages

open Checked E2ee EcmaJson
open Utf16 (Units Piece pieces ofString)

-- A string that is no text has a replacement character for each of its lone surrogates;
-- base64 has neither.
def toText (units : Units) : String :=
  String.ofList ((pieces units).map (fun piece => match piece with
    | .point char => char
    | .lone _ => '\uFFFD'))

def jsonBuffer : JsonText Value where
  stringify value := some (utf8 (String.ofList (stringify value)))
  parse bytes := (utf8Text bytes).bind (fun text => parse text.toList)

def boardPayload (body : Units) : Value :=
  .object [(ofString "kind", .string (ofString "telegram-board-message")), (ofString "body", .string body)]

def envelopeValue (envelope : EncryptedEnvelope) : Value :=
  .object [(ofString "v", .number envelope.v.shown.toList),
    (ofString "senderPublicKey", .string (ofString envelope.senderPublicKey)),
    (ofString "nonce", .string (ofString envelope.nonce)),
    (ofString "ciphertext", .string (ofString envelope.ciphertext))]

def isEncryptedEnvelope (value : Value) : Option EncryptedEnvelope :=
  match property value (ofString "v"), property value (ofString "senderPublicKey"), property value (ofString "nonce"),
      property value (ofString "ciphertext") with
  | some (.number version), some (.string senderPublicKey), some (.string nonce), some (.string ciphertext) =>
      if roundsToOne version then some ⟨.one, toText senderPublicKey, toText nonce, toText ciphertext⟩ else none
  | _, _, _, _ => none

def admitted (text : Units) : Prop := 1 ≤ text.length ∧ text.length ≤ 2500

def bodyOf (payload : Value) : Except String Units :=
  match property payload (ofString "kind"), property payload (ofString "body") with
  | some (.string kind), some (.string body) =>
      if kind = ofString "telegram-board-message" then .ok body else .error invalidMessageShape
  | _, _ => .error invalidMessageShape

def board : BoardJson Value Units where
  buffer := jsonBuffer
  payload := boardPayload
  text envelope := .ok (String.ofList (stringify (envelopeValue envelope)))
  parse text := parse text.toList
  envelope := isEncryptedEnvelope
  body := bodyOf

theorem to_text_of_string (text : String) : toText (ofString text) = text := by
  rw [toText, ofString, Utf16.pieces_of_string, List.map_map]
  change String.ofList (text.toList.map id) = text
  rw [List.map_id, String.ofList_toList]

theorem board_payload_well_formed (body : Units) : (boardPayload body).WellFormed := ⟨trivial, trivial, trivial⟩

theorem json_buffer_round_trip (value : Value) (valid : value.WellFormed) (bytes : Bytes)
    (stringified : jsonBuffer.stringify value = some bytes) : jsonBuffer.parse bytes = some value := by
  cases stringified
  change (utf8Text (utf8 _)).bind _ = _
  rw [utf8_text_utf8, Option.bind_some, String.toList_ofList]
  exact parse_stringify value valid

theorem body_of_board_payload (body : Units) : bodyOf (boardPayload body) = .ok body := rfl

theorem is_encrypted_envelope_value (envelope : EncryptedEnvelope) (one : envelope.v = .one) :
    isEncryptedEnvelope (envelopeValue envelope) = some envelope := by
  obtain ⟨v, senderPublicKey, nonce, ciphertext⟩ := envelope
  cases one
  have version : roundsToOne "1".toList = true := by decide +kernel
  change (if roundsToOne "1".toList = true then some _ else none) = _
  rw [if_pos version, to_text_of_string, to_text_of_string, to_text_of_string]

theorem envelope_value_well_formed (envelope : EncryptedEnvelope) (one : envelope.v = .one) :
    (envelopeValue envelope).WellFormed := by
  refine ⟨?_, trivial, trivial, trivial, trivial⟩
  rw [one]
  change isNumber "1".toList = true
  rfl

theorem read_board_text_of_envelope (envelope : EncryptedEnvelope) (one : envelope.v = .one) :
    readBoardText board (telegramBoardE2eePrefix ++ String.ofList (stringify (envelopeValue envelope))) = .ok envelope := by
  refine read_board_text board _ (envelopeValue envelope) envelope ?_ (is_encrypted_envelope_value envelope one)
  change parse (String.ofList _).toList = _
  rw [String.toList_ofList]
  exact parse_stringify (envelopeValue envelope) (envelope_value_well_formed envelope one)

theorem base64_char_plain (bytes : Bytes) (char : Char) (member : char ∈ Base64.encode bytes) :
    escapedSize (.point char) = 1 := by
  have digits : ∀ value < 64, escapedSize (.point (Base64.digitChar value)) = 1 := by decide
  rcases Base64.encode_chars bytes char member with rfl | ⟨value, small, rfl⟩
  · decide
  · exact digits value small

theorem base64_text_size (bytes : Bytes) :
    escapedTextSize (ofString (encodeBase64 bytes)) = (bytes.length + 2) / 3 * 4 := by
  have ones (chars : List Char) (plain : ∀ char ∈ chars, escapedSize (.point char) = 1) :
      (chars.map (fun char => escapedSize (.point char))).sum = chars.length := by
    induction chars with
    | nil => rfl
    | cons char chars ih =>
        rw [List.map_cons, List.sum_cons, plain char List.mem_cons_self,
          ih (fun other member => plain other (List.mem_cons_of_mem char member)), List.length_cons, Nat.add_comm]
  rw [ofString, encodeBase64, String.toList_ofList, escaped_text_size_of_chars, ones _ (base64_char_plain bytes),
    Base64.encode_size]

theorem utf8_length (chars : List Char) : (utf8 (String.ofList chars)).length = String.utf8Len chars := by
  rw [← String.utf8ByteSize_ofList]
  rfl

theorem payload_size (body : Units) :
    (utf8 (String.ofList (stringify (boardPayload body)))).length = 43 + escapedTextSize body := by
  have kind : escapedTextSize (ofString "kind") = 4 := rfl
  have named : escapedTextSize (ofString "body") = 4 := rfl
  have board : escapedTextSize (ofString "telegram-board-message") = 22 := rfl
  have ascii : '\x7b'.utf8Size = 1 ∧ '\x7d'.utf8Size = 1 ∧ ':'.utf8Size = 1 ∧ ','.utf8Size = 1 := by decide
  rw [utf8_length]
  simp only [boardPayload, stringify, stringifyFields, String.utf8Len_append, String.utf8Len_cons, String.utf8Len_nil,
    quote_size, kind, named, board, ascii]
  omega

theorem envelope_size (envelope : EncryptedEnvelope) (one : envelope.v = .one) (sender nonce ciphertext : Bytes)
    (sent : envelope.senderPublicKey = encodeBase64 sender) (numbered : envelope.nonce = encodeBase64 nonce)
    (encrypted : envelope.ciphertext = encodeBase64 ciphertext) (sized : sender.length = publicKeyLength)
    (fits : nonce.length = nonceLength) :
    (telegramBoardE2eePrefix ++ String.ofList (stringify (envelopeValue envelope))).utf8ByteSize =
      143 + (ciphertext.length + 2) / 3 * 4 := by
  have v : escapedTextSize (ofString "v") = 1 := rfl
  have senderName : escapedTextSize (ofString "senderPublicKey") = 15 := rfl
  have nonceName : escapedTextSize (ofString "nonce") = 5 := rfl
  have ciphertextName : escapedTextSize (ofString "ciphertext") = 10 := rfl
  have ascii : '\x7b'.utf8Size = 1 ∧ '\x7d'.utf8Size = 1 ∧ ':'.utf8Size = 1 ∧ ','.utf8Size = 1 := by decide
  have start : telegramBoardE2eePrefix.utf8ByteSize = 12 := rfl
  have version : String.utf8Len Version.one.shown.toList = 1 := rfl
  rw [String.utf8ByteSize_append, start, String.utf8ByteSize_ofList]
  simp only [envelopeValue, stringify, stringifyFields, String.utf8Len_append, String.utf8Len_cons, String.utf8Len_nil,
    quote_size, v, senderName, nonceName, ciphertextName, one, version, sent, numbered, encrypted, base64_text_size,
    sized, fits, ascii, publicKeyLength, nonceLength]
  omega

section Channels

variable (crypto : Crypto) (peers : Peers crypto)

structure Kept (channel : Channel Value) : Prop where
  keys : ∀ peer, (channel.session peer).sharedKey = peers.sharedKey crypto
  wired : ∀ peer, Wired crypto peers peer (channel.session peer)
  boxed : ∀ peer nonceId, nonceId ∈ (channel.session peer).seenNonces →
    ∃ box ∈ channel.boxes, box.key = peers.sharedKey crypto ∧ nonceId = encodeBase64 box.nonce

theorem seal_payload (channel : Channel Value) (peer : Peer) (nonce : Bytes) (payload : Value) :
    (channel.seal crypto jsonBuffer peer nonce payload).session = channel.session ∧
      (channel.seal crypto jsonBuffer peer nonce payload).boxes = channel.boxes ++
        [⟨(channel.session peer).sharedKey, nonce, utf8 (String.ofList (stringify payload))⟩] := ⟨rfl, rfl⟩

theorem deliver_session (channel : Channel Value) (peer : Peer) (envelope : EncryptedEnvelope) :
    (channel.deliver crypto jsonBuffer peer envelope).session = Function.update channel.session peer
        ((channel.session peer).open (naclAfter crypto channel.boxes) jsonBuffer envelope).2 ∧
      (channel.deliver crypto jsonBuffer peer envelope).boxes = channel.boxes := by
  unfold Channel.deliver
  generalize (channel.session peer).open (naclAfter crypto channel.boxes) jsonBuffer envelope = outcome
  obtain ⟨result, session⟩ := outcome
  cases result <;> exact ⟨rfl, rfl⟩

theorem deliver_cases (channel : Channel Value) (peer : Peer) (envelope : EncryptedEnvelope) :
    (channel.deliver crypto jsonBuffer peer envelope).session = channel.session ∨
      ∃ plaintext, Authenticated (naclAfter crypto channel.boxes) (channel.session peer) envelope plaintext ∧
        (channel.deliver crypto jsonBuffer peer envelope).session =
          Function.update channel.session peer ((channel.session peer).rememberNonce envelope.nonce) := by
  have opened := open_session (naclAfter crypto channel.boxes) jsonBuffer (channel.session peer) envelope
  have meets := authenticate_meets (naclAfter crypto channel.boxes) (channel.session peer) envelope
  rw [(deliver_session crypto channel peer envelope).1]
  cases authentic : (channel.session peer).authenticate (naclAfter crypto channel.boxes) envelope with
  | error error =>
      rw [authentic] at opened
      rw [opened, Function.update_eq_self]
      exact .inl rfl
  | ok plaintext =>
      rw [authentic] at opened meets
      rw [opened]
      exact .inr ⟨plaintext, meets, rfl⟩

theorem authenticated_boxed (channel : Channel Value) (session : E2eeSession) (envelope : EncryptedEnvelope) (plaintext : Bytes)
    (known : session.sharedKey = peers.sharedKey crypto)
    (authenticated : Authenticated (naclAfter crypto channel.boxes) session envelope plaintext) :
    ∃ box ∈ channel.boxes, box.key = peers.sharedKey crypto ∧ envelope.nonce = encodeBase64 box.nonce := by
  obtain ⟨nonce, ciphertext, numbered, _, _, _, opened⟩ := authenticated.box
  obtain ⟨logged, _⟩ := (IdealBox.open_after_iff crypto.box channel.boxes ciphertext nonce _ plaintext).1 opened
  exact ⟨_, logged, known, numbered⟩

theorem seal_kept (channel : Channel Value) (peer : Peer) (nonce : Bytes) (payload : Value) (kept : Kept crypto peers channel) :
    Kept crypto peers (channel.seal crypto jsonBuffer peer nonce payload) := by
  refine ⟨kept.keys, kept.wired, fun owner nonceId seen => ?_⟩
  obtain ⟨box, member, known, same⟩ := kept.boxed owner nonceId seen
  exact ⟨box, List.mem_append_left _ member, known, same⟩

theorem deliver_kept (channel : Channel Value) (peer : Peer) (envelope : EncryptedEnvelope) (kept : Kept crypto peers channel) :
    Kept crypto peers (channel.deliver crypto jsonBuffer peer envelope) := by
  have boxes := (deliver_session crypto channel peer envelope).2
  rcases deliver_cases crypto channel peer envelope with same | ⟨plaintext, authenticated, changed⟩
  · exact ⟨same ▸ kept.keys, same ▸ kept.wired, fun owner => by rw [same, boxes]; exact kept.boxed owner⟩
  · have others (owner : Peer) (other : owner ≠ peer) :
        (channel.deliver crypto jsonBuffer peer envelope).session owner = channel.session owner := by
      rw [changed, Function.update_of_ne other]
    have own : (channel.deliver crypto jsonBuffer peer envelope).session peer =
        (channel.session peer).rememberNonce envelope.nonce := by
      rw [changed, Function.update_self]
    refine ⟨fun owner => ?_, fun owner => ?_, fun owner nonceId seen => ?_⟩
    · by_cases here : owner = peer
      · rw [here, own]
        exact kept.keys peer
      · rw [others owner here]
        exact kept.keys owner
    · by_cases here : owner = peer
      · rw [here, own]
        exact remember_wired crypto peers peer _ envelope.nonce authenticated.unseen (kept.wired peer)
      · rw [others owner here]
        exact kept.wired owner
    · rw [boxes]
      by_cases here : owner = peer
      · rw [here, own] at seen
        rcases seen_of_remembered _ _ nonceId seen with rfl | before
        · exact authenticated_boxed crypto peers channel _ envelope plaintext (kept.keys peer) authenticated
        · exact kept.boxed peer nonceId before
      · rw [others owner here] at seen
        exact kept.boxed owner nonceId seen

theorem step_kept (channel after : Channel Value) (event : Event Value) (kept : Kept crypto peers channel)
    (done : channelStep crypto jsonBuffer channel event = .ok after) : Kept crypto peers after := by
  cases event with
  | send peer nonce payload =>
      cases done
      exact seal_kept crypto peers channel peer nonce payload kept
  | deliver peer envelope =>
      cases done
      exact deliver_kept crypto peers channel peer envelope kept
  | foreignBox box =>
      cases done
      refine ⟨kept.keys, kept.wired, fun owner nonceId seen => ?_⟩
      obtain ⟨made, member, known, same⟩ := kept.boxed owner nonceId seen
      exact ⟨made, List.mem_append_left _ member, known, same⟩

theorem start_kept (channel : Channel Value) (start : channelStart crypto peers channel) : Kept crypto peers channel := by
  have inv := (channel_start_inv crypto jsonBuffer peers channel start).1
  obtain ⟨session, rfl, created⟩ := start
  have made (peer : Peer) : Wired crypto peers peer (session peer) ∧ (session peer).seenNonces = [] := by
    obtain ⟨replayWindow, done⟩ := created peer
    obtain ⟨_, _, same⟩ := created_session _ _ _ _ _ done
    exact ⟨created_wired crypto peers _ peer replayWindow _ done, by rw [same]⟩
  refine ⟨inv.keys, fun peer => (made peer).1, fun peer nonceId seen => ?_⟩
  change nonceId ∈ (session peer).seenNonces at seen
  rw [(made peer).2] at seen
  cases seen

theorem reached_kept (meets : Transition.Condition (Channel Value) (Event Value)) (channel : Channel Value)
    (reached : Transition.Reach (channelMachine crypto jsonBuffer peers) meets channel) : Kept crypto peers channel :=
  Transition.reach_invariant _ meets (Kept crypto peers) (start_kept crypto peers)
    (fun before after event kept _ _ done => step_kept crypto peers before after event kept done) channel reached

def Fresh (channel : Channel Value) (nonce : Bytes) : Prop :=
  ∀ box ∈ channel.boxes, box.key = peers.sharedKey crypto → box.nonce ≠ nonce

def unread (receiver : Peer) (nonce : Bytes) : Transition.Condition (Channel Value) (Event Value) := fun _ event =>
  match event with
  | .deliver peer envelope => peer = receiver → envelope.nonce ≠ encodeBase64 nonce
  | _ => True

structure Awaiting (receiver : Peer) (nonce bytes : Bytes) (channel : Channel Value) : Prop where
  kept : Kept crypto peers channel
  boxed : ⟨peers.sharedKey crypto, nonce, bytes⟩ ∈ channel.boxes
  unseen : encodeBase64 nonce ∉ (channel.session receiver).seenNonces

theorem awaiting_sealed (channel : Channel Value) (peer receiver : Peer) (nonce : Bytes) (payload : Value)
    (kept : Kept crypto peers channel) (fresh : Fresh crypto peers channel nonce) :
    Awaiting crypto peers receiver nonce (utf8 (String.ofList (stringify payload)))
      (channel.seal crypto jsonBuffer peer nonce payload) := by
  refine ⟨seal_kept crypto peers channel peer nonce payload kept, ?_, fun seen => ?_⟩
  · rw [(seal_payload crypto channel peer nonce payload).2, kept.keys peer]
    exact List.mem_append_right _ (List.mem_singleton.2 rfl)
  · obtain ⟨box, member, known, same⟩ := kept.boxed receiver _ seen
    exact fresh box member known (encode_base64_injective _ _ same).symm

theorem step_awaiting (receiver : Peer) (nonce bytes : Bytes) (channel after : Channel Value) (event : Event Value)
    (awaiting : Awaiting crypto peers receiver nonce bytes channel) (condition : unread receiver nonce channel event)
    (done : channelStep crypto jsonBuffer channel event = .ok after) : Awaiting crypto peers receiver nonce bytes after := by
  have kept := step_kept crypto peers channel after event awaiting.kept done
  cases event with
  | send peer other payload =>
      cases done
      exact ⟨kept, List.mem_append_left _ awaiting.boxed, awaiting.unseen⟩
  | deliver peer envelope =>
      cases done
      refine ⟨kept, ?_, fun seen => ?_⟩
      · rw [(deliver_session crypto channel peer envelope).2]
        exact awaiting.boxed
      · rcases deliver_cases crypto channel peer envelope with same | ⟨_, _, changed⟩
        · exact awaiting.unseen (same ▸ seen)
        · rw [changed] at seen
          by_cases here : receiver = peer
          · rw [here, Function.update_self] at seen
            rcases seen_of_remembered _ _ _ seen with same | before
            · exact condition here.symm same.symm
            · exact awaiting.unseen (here ▸ before)
          · rw [Function.update_of_ne here] at seen
            exact awaiting.unseen seen
  | foreignBox box =>
      cases done
      exact ⟨kept, List.mem_append_left _ awaiting.boxed, awaiting.unseen⟩

theorem later_awaiting (receiver : Peer) (nonce bytes : Bytes) (sealed later : Channel Value)
    (awaiting : Awaiting crypto peers receiver nonce bytes sealed)
    (reached : Transition.Reach ((channelMachine crypto jsonBuffer peers).startingFrom sealed) (unread receiver nonce) later) :
    Awaiting crypto peers receiver nonce bytes later := by
  apply Transition.reach_invariant _ (unread receiver nonce) (Awaiting crypto peers receiver nonce bytes) _ _ later reached
  · rintro first rfl
    exact awaiting
  · exact fun before after event held _ condition done =>
      step_awaiting crypto peers receiver nonce bytes before after event held condition done

def messageBytes (body : Units) : Bytes := utf8 (String.ofList (stringify (boardPayload body)))

def sealedEnvelope (session : E2eeSession) (nonce : Bytes) (body : Units) : EncryptedEnvelope where
  v := .one
  senderPublicKey := encodeBase64 session.localKeyPair.publicKey
  nonce := encodeBase64 nonce
  ciphertext := encodeBase64 (crypto.box.after (messageBytes body) nonce session.sharedKey)

def sealedText (session : E2eeSession) (nonce : Bytes) (body : Units) : String :=
  telegramBoardE2eePrefix ++ String.ofList (stringify (envelopeValue (sealedEnvelope crypto session nonce body)))

-- 143 bytes of envelope and the base64 of 43 bytes of payload, 16 of the box and the body.
theorem sealed_text_size (overhead : ∀ text nonce key, (crypto.box.after text nonce key).length = text.length + overheadLength)
    (session : E2eeSession) (sized : session.localKeyPair.publicKey.length = publicKeyLength) (nonce : Bytes)
    (fits : nonce.length = nonceLength) (body : Units) :
    (sealedText crypto session nonce body).utf8ByteSize = 143 + (escapedTextSize body + 61) / 3 * 4 := by
  rw [sealedText, envelope_size (sealedEnvelope crypto session nonce body) rfl _ nonce _ rfl rfl rfl sized fits, overhead,
    messageBytes, payload_size]
  congr 3
  change 43 + escapedTextSize body + 16 + 2 = _
  omega

theorem encode_board_message (boxes : List (IdealBox.Box Bytes Bytes Bytes)) (session : E2eeSession) (nonce : Bytes)
    (body : Units) : encodeTelegramBoardMessage (naclAfter crypto boxes) board session nonce body =
      if (sealedText crypto session nonce body).utf8ByteSize ≤ telegramMaxTextBytes then
        .ok (sealedText crypto session nonce body)
      else .error boardTextTooLong := by
  have made : session.seal (naclAfter crypto boxes) jsonBuffer nonce (boardPayload body) =
      .ok (sealedEnvelope crypto session nonce body) := seal_ok jsonBuffer _ session nonce (messageBytes body) _ rfl
  exact encode_board_text _ board session nonce body _ _ made rfl

theorem decode_sealed_text (receiver : E2eeSession) (boxes : List (IdealBox.Box Bytes Bytes Bytes)) (session : E2eeSession)
    (nonce : Bytes) (body : Units)
    (overhead : ∀ text nonce key, (crypto.box.after text nonce key).length = text.length + overheadLength)
    (fits : nonce.length = nonceLength) (pinned : receiver.remotePublicKey = session.localKeyPair.publicKey)
    (sized : receiver.remotePublicKey.length = publicKeyLength) (shared : receiver.sharedKey = session.sharedKey)
    (boxed : ⟨session.sharedKey, nonce, messageBytes body⟩ ∈ boxes) (unseen : encodeBase64 nonce ∉ receiver.seenNonces) :
    (decodeTelegramBoardMessage (naclAfter crypto boxes) board receiver (sealedText crypto session nonce body)).1 = .ok body := by
  have opened := (IdealBox.open_after_iff crypto.box boxes _ nonce session.sharedKey (messageBytes body)).2 ⟨boxed, rfl⟩
  have long : overheadLength ≤ (crypto.box.after (messageBytes body) nonce session.sharedKey).length := by
    rw [overhead]
    omega
  have authenticated := (authenticate_iff (naclAfter crypto boxes) receiver (sealedEnvelope crypto session nonce body)
    (messageBytes body) sized).2
    ⟨rfl, congrArg encodeBase64 pinned.symm, unseen, nonce, _, rfl, rfl, fits, long, shared ▸ opened⟩
  have parsed := json_buffer_round_trip (boardPayload body) (board_payload_well_formed body) (messageBytes body) rfl
  have read := read_board_text_of_envelope (sealedEnvelope crypto session nonce body) rfl
  rw [sealedText, decode_board_text _ board receiver _ _ read]
  change (receiver.open (naclAfter crypto boxes) jsonBuffer (sealedEnvelope crypto session nonce body)).1 >>= bodyOf = _
  rw [E2eeSession.open, authenticated]
  dsimp only
  rw [parsed]
  exact body_of_board_payload body

theorem board_message_sent_and_read
    (overhead : ∀ text nonce key, (crypto.box.after text nonce key).length = text.length + overheadLength)
    (channel : Channel Value)
    (reached : Transition.Reach (channelMachine crypto jsonBuffer peers) Transition.unrestricted channel) (peer : Peer)
    (nonce : Bytes) (fits : nonce.length = nonceLength) (fresh : Fresh crypto peers channel nonce) (body : Units) :
    if escapedTextSize body ≤ 2905 then
      ∃ text, encodeTelegramBoardMessage (naclAfter crypto channel.boxes) board (channel.session peer) nonce body = .ok text ∧
        text.utf8ByteSize ≤ telegramMaxTextBytes ∧
        ∀ later, Transition.Reach ((channelMachine crypto jsonBuffer peers).startingFrom
            (channel.seal crypto jsonBuffer peer nonce (boardPayload body))) (unread peer.other nonce) later →
          (decodeTelegramBoardMessage (naclAfter crypto later.boxes) board (later.session peer.other) text).1 = .ok body
    else encodeTelegramBoardMessage (naclAfter crypto channel.boxes) board
    (channel.session peer) nonce body = .error boardTextTooLong := by
  have kept := reached_kept crypto peers _ channel reached
  have twice : peer.other.other = peer := by cases peer <;> rfl
  have remote (later : Channel Value) (lasting : Kept crypto peers later) :
      (later.session peer.other).remotePublicKey = (channel.session peer).localKeyPair.publicKey := by
    rw [(lasting.wired peer.other).remote, (kept.wired peer).publicKey, twice]
  have sized : (channel.session peer).localKeyPair.publicKey.length = publicKeyLength :=
    remote channel kept ▸ (kept.wired peer.other).sized
  have size := sealed_text_size crypto overhead (channel.session peer) sized nonce fits body
  rw [encode_board_message, size]
  unfold telegramMaxTextBytes
  split
  · rename_i short
    rw [if_pos (by omega)]
    refine ⟨_, rfl, by rw [size]; omega, fun later continued => ?_⟩
    have awaiting := later_awaiting crypto peers peer.other nonce _ _ later
      (awaiting_sealed crypto peers channel peer peer.other nonce (boardPayload body) kept fresh) continued
    refine decode_sealed_text crypto _ later.boxes _ nonce body overhead fits (remote later awaiting.kept)
      (awaiting.kept.wired peer.other).sized ?_ ?_ awaiting.unseen
    · rw [awaiting.kept.keys, kept.keys]
    · rw [kept.keys]
      exact awaiting.boxed
  · rw [if_neg (by omega)]

end Channels

section Messages

def plainChannel : Channel Value := { session := plainSession }

theorem plain_reached :
    Transition.Reach (channelMachine plainCrypto jsonBuffer plainPeers) Transition.unrestricted plainChannel := by
  refine .start _ ⟨plainSession, rfl, fun peer => ⟨4096, ?_⟩⟩
  cases peer <;> rfl

theorem plain_overhead (text nonce key : Bytes) :
    (plainCrypto.box.after text nonce key).length = text.length + overheadLength := by
  change (List.replicate overheadLength 0 ++ text).length = _
  rw [List.length_append, List.length_replicate, Nat.add_comm]

def plainBody : Units := [0x44F, 10, 0xD800]

def plainSealed : Channel Value := plainChannel.seal plainCrypto jsonBuffer .a plainNonce (boardPayload plainBody)

theorem plain_message_read : ∃ text,
    encodeTelegramBoardMessage (naclAfter plainCrypto []) board (plainSession .a) plainNonce plainBody = .ok text ∧
      text.utf8ByteSize ≤ telegramMaxTextBytes ∧
      (decodeTelegramBoardMessage (naclAfter plainCrypto plainSealed.boxes) board
        (plainSealed.session .b) text).1 = .ok plainBody := by
  have read := board_message_sent_and_read plainCrypto plainPeers plain_overhead plainChannel plain_reached .a plainNonce rfl
    (by rintro box ⟨⟩) plainBody
  rw [if_pos (by decide +kernel)] at read
  obtain ⟨text, sent, short, decodes⟩ := read
  exact ⟨text, sent, short, decodes plainSealed (.start _ rfl)⟩

theorem long_message_refused : ∃ (channel : Channel Value) (nonce : Bytes) (body : Units),
    Transition.Reach (channelMachine plainCrypto jsonBuffer plainPeers) Transition.unrestricted channel ∧
      nonce.length = nonceLength ∧ Fresh plainCrypto plainPeers channel nonce ∧ admitted body ∧
      encodeTelegramBoardMessage (naclAfter plainCrypto channel.boxes) board
      (channel.session .a) nonce body = .error boardTextTooLong := by
  refine ⟨plainChannel, plainNonce, (List.replicate 2500 'я').flatMap Utf16.unitsOf, plain_reached, rfl, by rintro box ⟨⟩, ?_, ?_⟩
  · have length : ((List.replicate 2500 'я').flatMap Utf16.unitsOf).length = 2500 := by
      rw [List.length_flatMap, List.map_replicate, List.sum_replicate]
      decide
    rw [admitted, length]
    decide
  · have escaped : escapedTextSize ((List.replicate 2500 'я').flatMap Utf16.unitsOf) = 5000 := by
      rw [escaped_text_size_of_chars, List.map_replicate, List.sum_replicate]
      decide
    rw [encode_board_message, sealed_text_size plainCrypto plain_overhead _ rfl plainNonce rfl, escaped]
    exact if_neg (by decide)

end Messages

end TelegramBotApi.BoardMessages
