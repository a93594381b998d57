import TelegramBotApi.ReplayWindow
import TelegramBotApi.TelegramBoardE2ee

set_option autoImplicit false

namespace TelegramBotApi.E2ee

open Checked

inductive Medium where
  | stdio
  | board
deriving DecidableEq

structure Frame where
  peer : Peer
  medium : Medium
  payload : JsonValue
  envelope : EncryptedEnvelope
  text : String

-- The two peers; the session of each serves its transport and its board tools.
structure Endpoints where
  channel : Channel JsonValue
  frames : List Frame := []

inductive Traffic where
  | send (peer : Peer) (nonce : Bytes) (message : JSONRPCMessage)
  | post (peer : Peer) (nonce : Bytes) (body : String)
  -- a line of the stdio stream, or a text of the Telegram chat
  | present (peer : Peer) (medium : Medium) (text : String)
  | foreignBox (box : IdealBox.Box Bytes Bytes Bytes)

section Receivers

variable (nacl : NaclBox) (js : JavaScriptJson)

def readFrame (medium : Medium) (text : String) : Except String EncryptedEnvelope :=
  match medium with
  | .stdio => if trim text = "" then .error "" else readLine js defaultMaxFrameBytes text
  | .board => readBoardText js.board text

-- What is handed to onmessage, or returned to the caller of the board tool.
def receive (medium : Medium) (session : E2eeSession) (text : String) : Option JsonValue × E2eeSession :=
  match medium with
  | .stdio =>
      match handleLine nacl js defaultMaxFrameBytes session text with
      | (.onmessage message, opened) => (some message, opened)
      | (_, opened) => (none, opened)
  | .board =>
      match decodeTelegramBoardMessage nacl js.board session text with
      | (.ok body, opened) => (some (.string body), opened)
      | (.error _, opened) => (none, opened)

def usable (medium : Medium) (payload : JsonValue) : Option JsonValue :=
  match medium with
  | .stdio => some payload
  | .board => (bodyOf payload).toOption.map .string

theorem receive_unread (medium : Medium) (session : E2eeSession) (text error : String)
    (unread : readFrame js medium text = .error error) : receive nacl js medium session text = (none, session) := by
  cases medium with
  | stdio =>
      by_cases empty : trim text = ""
      · simp [receive, handleLine, empty]
      · rw [readFrame, if_neg empty] at unread
        simp [receive, handleLine, empty, unread]
  | board =>
      rw [readFrame] at unread
      simp [receive, decodeTelegramBoardMessage, unread]

theorem receive_read (medium : Medium) (session : E2eeSession) (text : String) (envelope : EncryptedEnvelope)
    (read : readFrame js medium text = .ok envelope) : receive nacl js medium session text =
      ((session.open nacl js.buffer envelope).1.toOption.bind (usable medium), (session.open nacl js.buffer envelope).2) := by
  cases medium with
  | stdio =>
      by_cases empty : trim text = ""
      · rw [readFrame, if_pos empty] at read
        cases read
      · rw [readFrame, if_neg empty] at read
        simp only [receive, handleLine, if_neg empty, read]
        obtain ⟨result, opened⟩ := session.open nacl js.buffer envelope
        cases result <;> rfl
  | board =>
      rw [readFrame] at read
      rw [receive, decode_board_text nacl js.board session text envelope read]
      change (match ((session.open nacl js.buffer envelope).1 >>= bodyOf, (session.open nacl js.buffer envelope).2) with
        | (.ok body, opened) => (some (JsonValue.string body), opened)
        | (.error _, opened) => (none, opened)) = _
      obtain ⟨result, opened⟩ := session.open nacl js.buffer envelope
      cases result with
      | error error => rfl
      | ok payload =>
          simp only [ok_bind, usable, Except.toOption, Option.bind_some]
          cases bodyOf payload <;> rfl

end Receivers

section Separation

variable (crypto : Crypto) (js : JavaScriptJson) (peers : Peers crypto)

namespace Endpoints

def nacl (state : Endpoints) : NaclBox := naclAfter crypto state.channel.boxes

def emit (state : Endpoints) (peer : Peer) (medium : Medium) (nonce : Bytes) (payload : JsonValue)
    (text : Except String String) : Endpoints :=
  let sealed := { state with channel := state.channel.seal crypto js.buffer peer nonce payload }
  match (state.channel.session peer).seal (state.nacl crypto) js.buffer nonce payload, text with
  | .ok envelope, .ok text => { sealed with frames := state.frames ++ [⟨peer, medium, payload, envelope, text⟩] }
  | _, _ => sealed

def present (state : Endpoints) (peer : Peer) (medium : Medium) (text : String) : Endpoints :=
  let session := (receive (state.nacl crypto) js medium (state.channel.session peer) text).2
  { state with channel := { state.channel with session := Function.update state.channel.session peer session } }

def next (state : Endpoints) : Traffic → Endpoints
  | .send peer nonce message =>
      state.emit crypto js peer .stdio nonce message.toJson
        (transportSend (state.nacl crypto) js defaultMaxFrameBytes (state.channel.session peer) nonce message)
  | .post peer nonce body =>
      state.emit crypto js peer .board nonce (boardPayload body)
        (encodeTelegramBoardMessage (state.nacl crypto) js.board (state.channel.session peer) nonce body)
  | .present peer medium text => state.present crypto js peer medium text
  | .foreignBox box => { state with channel := { state.channel with boxes := state.channel.boxes ++ [box] } }

def accepted (state : Endpoints) (peer : Peer) (medium : Medium) (text : String) : Option JsonValue :=
  (receive (state.nacl crypto) js medium (state.channel.session peer) text).1

end Endpoints

def trafficStep (state : Endpoints) (event : Traffic) : Except Empty Endpoints := .ok (state.next crypto js event)

-- The texts that are presented are written by anybody, but without the key of the two
-- peers: an envelope with a box of theirs is the copy of one that left them.
def trafficEnabled (state : Endpoints) : Traffic → Prop
  | .send _ nonce _ | .post _ nonce _ => nonce.length = nonceLength
  | .present _ medium text => ∀ envelope, readFrame js medium text = .ok envelope → ∀ made ∈ state.channel.sealed,
      made.envelope.nonce = envelope.nonce → made.envelope.ciphertext = envelope.ciphertext →
      ∃ frame ∈ state.frames, frame.envelope = envelope
  | .foreignBox box => box.key ≠ peers.sharedKey crypto

def trafficStart (state : Endpoints) : Prop := channelStart crypto peers state.channel ∧ state.frames = []

def acceptances : Endpoints → List Traffic → List (Peer × Medium × String)
  | _, [] => []
  | state, .present peer medium text :: later =>
      (if (state.accepted crypto js peer medium text).isSome then [(peer, medium, text)] else []) ++
        acceptances (state.next crypto js (.present peer medium text)) later
  | state, event :: later => acceptances (state.next crypto js event) later

def Crossing (state : Endpoints) (peer : Peer) (medium : Medium) (text : String) (envelope : EncryptedEnvelope) : Prop :=
  readFrame js medium text = .ok envelope ∧
    envelope.senderPublicKey = encodeBase64 (peers.keyPair peer.other).publicKey ∧
    ∃ frame ∈ state.frames, frame.envelope = envelope ∧ frame.medium ≠ medium

structure Separates (state : Endpoints) (peer : Peer) (medium : Medium) (text : String) : Prop where
  messages : medium = .stdio → ∀ message, state.accepted crypto js peer medium text = some message →
    ∀ frame ∈ state.frames, frame.medium = .board → frame.payload ≠ message
  bodies : medium = .board → ∀ body, state.accepted crypto js peer medium text = some body →
    ∀ frame ∈ state.frames, frame.medium = .stdio → readFrame js medium text ≠ .ok frame.envelope
  unaffected : ∀ envelope, Crossing crypto js peers state peer medium text envelope →
    ∀ later, Along (trafficEnabled crypto js peers) (trafficStep crypto js) state later →
      acceptances crypto js (state.present crypto js peer medium text) later = acceptances crypto js state later

def Separated (state : Endpoints) : Traffic → Prop
  | .present peer medium text => Separates crypto js peers state peer medium text
  | _ => True

-- A frame of the other medium comes when its nonce is remembered, so after its own
-- receiver accepted it.
def Remembered (state : Endpoints) : Traffic → Prop
  | .present peer medium text => ∀ envelope, Crossing crypto js peers state peer medium text envelope →
      envelope.nonce ∈ (state.channel.session peer).seenNonces
  | _ => True

structure Wired (peer : Peer) (session : E2eeSession) : Prop where
  publicKey : session.localKeyPair.publicKey = (peers.keyPair peer).publicKey
  remote : session.remotePublicKey = (peers.keyPair peer.other).publicKey
  sized : session.remotePublicKey.length = publicKeyLength
  inStep : InStep session

structure Framed (boxes : List (IdealBox.Box Bytes Bytes Bytes)) (frame : Frame) : Prop where
  version : frame.envelope.v = .one
  sender : frame.envelope.senderPublicKey = encodeBase64 (peers.keyPair frame.peer).publicKey
  box : ∃ nonce bytes, nonce.length = nonceLength ∧ js.buffer.stringify frame.payload = some bytes ∧
    frame.envelope.nonce = encodeBase64 nonce ∧
    frame.envelope.ciphertext = encodeBase64 (crypto.box.after bytes nonce (peers.sharedKey crypto)) ∧
    ⟨peers.sharedKey crypto, nonce, bytes⟩ ∈ boxes
  origin : match frame.medium with
    | .stdio => ∃ message : JSONRPCMessage, frame.payload = message.toJson
    | .board => ∃ body, frame.payload = boardPayload body
  reads : readFrame js frame.medium frame.text = .ok frame.envelope

structure Linked (state : Endpoints) : Prop where
  inv : Inv crypto js.buffer peers state.channel
  wired : ∀ peer, Wired crypto peers peer (state.channel.session peer)
  framed : ∀ frame ∈ state.frames, Framed crypto js peers state.channel.boxes frame

theorem remember_wired (peer : Peer) (session : E2eeSession) (nonceId : String) (unseen : nonceId ∉ session.seenNonces)
    (wired : Wired crypto peers peer session) : Wired crypto peers peer (session.rememberNonce nonceId) where
  publicKey := wired.publicKey
  remote := wired.remote
  sized := wired.sized
  inStep := remember_in_step session nonceId wired.inStep unseen

theorem remember_nonce_seen (peer : Peer) (session : E2eeSession) (nonceId : String) (unseen : nonceId ∉ session.seenNonces)
    (wired : Wired crypto peers peer session) : nonceId ∈ (session.rememberNonce nonceId).seenNonces :=
  recent_seen _ nonceId 0 (remember_in_step session nonceId wired.inStep unseen)
    (just_remembered session nonceId wired.inStep.window)

theorem open_cases (nacl : NaclBox) (session : E2eeSession) (envelope : EncryptedEnvelope) :
    (∃ error, session.open nacl js.buffer envelope = (.error error, session)) ∨
      ∃ plaintext, Authenticated nacl session envelope plaintext ∧
        (session.open nacl js.buffer envelope).2 = session.rememberNonce envelope.nonce ∧
        (session.open nacl js.buffer envelope).1.toOption = js.buffer.parse plaintext := by
  have meets := authenticate_meets nacl session envelope
  unfold E2eeSession.open
  cases authenticated : session.authenticate nacl envelope with
  | error error => exact .inl ⟨error, rfl⟩
  | ok plaintext =>
      rw [authenticated] at meets
      refine .inr ⟨plaintext, meets, ?_⟩
      cases parsed : js.buffer.parse plaintext with
      | none => simp [parsed, Except.toOption]
      | some payload => simp [parsed, Except.toOption]

theorem open_wired (nacl : NaclBox) (peer : Peer) (session : E2eeSession) (envelope : EncryptedEnvelope)
    (wired : Wired crypto peers peer session) : Wired crypto peers peer (session.open nacl js.buffer envelope).2 := by
  rcases open_cases js nacl session envelope with ⟨error, same⟩ | ⟨plaintext, authenticated, remembers, _⟩
  · rw [same]
    exact wired
  · rw [remembers]
    exact remember_wired crypto peers peer session envelope.nonce authenticated.unseen wired

theorem receive_wired (nacl : NaclBox) (peer : Peer) (medium : Medium) (session : E2eeSession) (text : String)
    (wired : Wired crypto peers peer session) : Wired crypto peers peer (receive nacl js medium session text).2 := by
  cases read : readFrame js medium text with
  | error error =>
      rw [receive_unread nacl js medium session text error read]
      exact wired
  | ok envelope =>
      rw [receive_read nacl js medium session text envelope read]
      exact open_wired crypto js peers nacl peer session envelope wired

theorem receive_keeps_key (nacl : NaclBox) (medium : Medium) (session : E2eeSession) (text : String) :
    (receive nacl js medium session text).2.sharedKey = session.sharedKey := by
  cases read : readFrame js medium text with
  | error error => rw [receive_unread nacl js medium session text error read]
  | ok envelope =>
      rw [receive_read nacl js medium session text envelope read]
      exact open_keeps_key js.buffer nacl session envelope

theorem seal_version (nacl : NaclBox) (session : E2eeSession) (nonce : Bytes) (payload : JsonValue)
    (envelope : EncryptedEnvelope) (made : session.seal nacl js.buffer nonce payload = .ok envelope) :
    ∃ bytes, js.buffer.stringify payload = some bytes ∧ envelope =
      { v := .one
        senderPublicKey := encodeBase64 session.localKeyPair.publicKey
        nonce := encodeBase64 nonce
        ciphertext := encodeBase64 (nacl.after bytes nonce session.sharedKey) } := by
  cases stringified : messageOf js.buffer payload with
  | error error =>
      rw [E2eeSession.seal, stringified] at made
      cases made
  | ok bytes =>
      rw [seal_ok js.buffer nacl session nonce bytes payload stringified] at made
      exact ⟨bytes, message_of_ok js.buffer payload bytes stringified, (Except.ok.inj made).symm⟩

theorem text_of_reads (lawful : js.Lawful) (envelope : EncryptedEnvelope) (text : String)
    (written : textOf js envelope.toJson = .ok text) :
    js.parse text = .ok envelope.toJson ∧ trim text = text ∧ text ≠ "" := by
  unfold textOf at written
  cases stringified : js.stringify envelope.toJson with
  | none =>
      rw [stringified] at written
      cases written
  | some line =>
      rw [stringified] at written
      cases written
      obtain ⟨first, last⟩ := lawful.object _ text stringified
      refine ⟨lawful.roundTrip _ text stringified, trim_object text first last, ?_⟩
      rintro rfl
      cases first

theorem line_reads (lawful : js.Lawful) (envelope : EncryptedEnvelope) (one : envelope.v = .one) (line : String)
    (maxFrameBytes : Int) (written : textOf js envelope.toJson = .ok line) (short : line.utf8ByteSize ≤ maxFrameBytes) :
    trim line ≠ "" ∧ readLine js maxFrameBytes line = .ok envelope := by
  obtain ⟨parsed, trimmed, present⟩ := text_of_reads js lawful envelope line written
  refine ⟨by rwa [trimmed], ?_⟩
  rw [readLine, trimmed, require_true _ _ short, ok_bind, parsed, ok_bind, is_encrypted_envelope_json envelope one]
  rfl

theorem stdio_frame_reads (lawful : js.Lawful) (envelope : EncryptedEnvelope) (one : envelope.v = .one) (line : String)
    (written : textOf js envelope.toJson = .ok line) (short : line.utf8ByteSize ≤ defaultMaxFrameBytes) :
    readFrame js .stdio line = .ok envelope := by
  obtain ⟨present, read⟩ := line_reads js lawful envelope one line defaultMaxFrameBytes written short
  rw [readFrame, if_neg present, read]

theorem board_text_reads (lawful : js.Lawful) (envelope : EncryptedEnvelope) (one : envelope.v = .one) (text : String)
    (written : textOf js envelope.toJson = .ok text) :
    readFrame js .board (telegramBoardE2eePrefix ++ text) = .ok envelope := by
  obtain ⟨parsed, _, _⟩ := text_of_reads js lawful envelope text written
  exact read_board_text js.board text _ envelope (congrArg Except.toOption parsed) (is_encrypted_envelope_json envelope one)

theorem transport_send_reads (lawful : js.Lawful) (nacl : NaclBox) (session : E2eeSession) (nonce : Bytes)
    (message : JSONRPCMessage) (envelope : EncryptedEnvelope) (line : String)
    (made : session.seal nacl js.buffer nonce message.toJson = .ok envelope)
    (sent : transportSend nacl js defaultMaxFrameBytes session nonce message = .ok line) :
    readFrame js .stdio line = .ok envelope := by
  obtain ⟨_, _, shape⟩ := seal_version js nacl session nonce _ envelope made
  have one : envelope.v = .one := by rw [shape]
  obtain ⟨sealed, again, written, short⟩ := transport_sent_line nacl js defaultMaxFrameBytes session nonce message line sent
  cases made.symm.trans again
  exact stdio_frame_reads js lawful envelope one line written short

theorem encode_board_reads (lawful : js.Lawful) (nacl : NaclBox) (session : E2eeSession) (nonce : Bytes)
    (body : String) (envelope : EncryptedEnvelope) (encoded : String)
    (made : session.seal nacl js.buffer nonce (boardPayload body) = .ok envelope)
    (posted : encodeTelegramBoardMessage nacl js.board session nonce body = .ok encoded) :
    readFrame js .board encoded = .ok envelope := by
  obtain ⟨_, _, shape⟩ := seal_version js nacl session nonce _ envelope made
  have one : envelope.v = .one := by rw [shape]
  obtain ⟨sealed, text, again, written, rfl⟩ := encoded_board_text nacl js.board session nonce body encoded posted
  cases made.symm.trans again
  exact board_text_reads js lawful envelope one text written

theorem framed_more (boxes added : List (IdealBox.Box Bytes Bytes Bytes)) (frame : Frame)
    (framed : Framed crypto js peers boxes frame) : Framed crypto js peers (boxes ++ added) frame := by
  obtain ⟨version, sender, ⟨nonce, bytes, sized, written, numbered, encrypted, logged⟩, origin, reads⟩ := framed
  exact ⟨version, sender, ⟨nonce, bytes, sized, written, numbered, encrypted, List.mem_append_left added logged⟩, origin, reads⟩

theorem seal_channel (channel : Channel JsonValue) (peer : Peer) (nonce : Bytes) (payload : JsonValue) :
    (channel.seal crypto js.buffer peer nonce payload).session = channel.session ∧
      ∃ added, (channel.seal crypto js.buffer peer nonce payload).boxes = channel.boxes ++ added := by
  unfold Channel.seal
  dsimp only
  split
  · exact ⟨rfl, _, rfl⟩
  · exact ⟨rfl, [], (List.append_nil _).symm⟩

theorem emit_linked (state : Endpoints) (peer : Peer) (medium : Medium) (nonce : Bytes) (payload : JsonValue)
    (text : Except String String) (linked : Linked crypto js peers state) (sized : nonce.length = nonceLength)
    (origin : match medium with
      | .stdio => ∃ message : JSONRPCMessage, payload = message.toJson
      | .board => ∃ body, payload = boardPayload body)
    (reads : ∀ envelope line, (state.channel.session peer).seal (state.nacl crypto) js.buffer nonce payload = .ok envelope →
      text = .ok line → readFrame js medium line = .ok envelope) :
    Linked crypto js peers (state.emit crypto js peer medium nonce payload text) := by
  obtain ⟨sameSession, added, grown⟩ := seal_channel crypto js state.channel peer nonce payload
  have inv := seal_inv crypto js.buffer peers state.channel peer nonce payload linked.inv
  have wired : ∀ owner, Wired crypto peers owner ((state.channel.seal crypto js.buffer peer nonce payload).session owner) := by
    rw [sameSession]
    exact linked.wired
  have older : ∀ frame ∈ state.frames,
      Framed crypto js peers (state.channel.seal crypto js.buffer peer nonce payload).boxes frame := by
    intro frame member
    rw [grown]
    exact framed_more crypto js peers _ added frame (linked.framed frame member)
  unfold Endpoints.emit
  cases made : (state.channel.session peer).seal (state.nacl crypto) js.buffer nonce payload with
  | error error => exact ⟨inv, wired, older⟩
  | ok envelope =>
      cases text with
      | error error => exact ⟨inv, wired, older⟩
      | ok line =>
          obtain ⟨bytes, stringified, shape⟩ := seal_version js _ _ nonce payload envelope made
          refine ⟨inv, wired, fun frame member => ?_⟩
          rcases List.mem_append.1 member with old | new
          · exact older frame old
          · rw [List.mem_singleton.1 new]
            have key := linked.inv.keys peer
            have logged : ⟨peers.sharedKey crypto, nonce, bytes⟩ ∈
                (state.channel.seal crypto js.buffer peer nonce payload).boxes := by
              have message : messageOf js.buffer payload = .ok bytes := by rw [messageOf, stringified]
              rw [Channel.seal, message, seal_ok js.buffer _ _ nonce bytes payload message, key]
              exact List.mem_append_right _ (List.mem_singleton.2 rfl)
            refine ⟨?_, ?_, ⟨nonce, bytes, sized, stringified, ?_, ?_, logged⟩, origin, reads envelope line made rfl⟩
            · rw [shape]
            · rw [shape, (linked.wired peer).publicKey]
            · rw [shape]
            · rw [shape, key]
              rfl

theorem present_linked (state : Endpoints) (peer : Peer) (medium : Medium) (text : String)
    (linked : Linked crypto js peers state) : Linked crypto js peers (state.present crypto js peer medium text) := by
  have key := receive_keeps_key js (state.nacl crypto) medium (state.channel.session peer) text
  have wired := receive_wired crypto js peers (state.nacl crypto) peer medium _ text (linked.wired peer)
  refine ⟨⟨fun owner => ?_, linked.inv.made⟩, fun owner => ?_, linked.framed⟩
  · by_cases same : owner = peer
    · subst same
      simpa [Endpoints.present] using key.trans (linked.inv.keys owner)
    · simpa [Endpoints.present, Function.update_of_ne same] using linked.inv.keys owner
  · by_cases same : owner = peer
    · subst same
      simpa [Endpoints.present] using wired
    · simpa [Endpoints.present, Function.update_of_ne same] using linked.wired owner

theorem next_linked (lawful : js.Lawful) (state : Endpoints) (event : Traffic) (linked : Linked crypto js peers state)
    (enabled : trafficEnabled crypto js peers state event) : Linked crypto js peers (state.next crypto js event) := by
  cases event with
  | send peer nonce message =>
      exact emit_linked crypto js peers state peer .stdio nonce _ _ linked enabled ⟨message, rfl⟩
        (fun envelope line => transport_send_reads js lawful _ _ nonce message envelope line)
  | post peer nonce body =>
      exact emit_linked crypto js peers state peer .board nonce _ _ linked enabled ⟨body, rfl⟩
        (fun envelope line => encode_board_reads js lawful _ _ nonce body envelope line)
  | present peer medium text => exact present_linked crypto js peers state peer medium text linked
  | foreignBox box =>
      refine ⟨⟨linked.inv.keys, fun other member known => ?_⟩, linked.wired, fun frame member => ?_⟩
      · rcases List.mem_append.1 member with old | new
        · exact linked.inv.made other old known
        · rw [List.mem_singleton.1 new] at known
          exact absurd known enabled
      · exact framed_more crypto js peers _ [box] frame (linked.framed frame member)

theorem accepted_frame (lawful : js.Lawful) (state : Endpoints) (peer : Peer) (medium : Medium) (text : String)
    (value : JsonValue) (linked : Linked crypto js peers state)
    (enabled : trafficEnabled crypto js peers state (.present peer medium text))
    (accepted : state.accepted crypto js peer medium text = some value) :
    ∃ envelope, readFrame js medium text = .ok envelope ∧
      envelope.nonce ∉ (state.channel.session peer).seenNonces ∧
      envelope.senderPublicKey = encodeBase64 (peers.keyPair peer.other).publicKey ∧
      (∃ frame ∈ state.frames, frame.envelope = envelope) ∧
      ∀ frame ∈ state.frames, frame.envelope = envelope → usable medium frame.payload = some value := by
  cases read : readFrame js medium text with
  | error error =>
      rw [Endpoints.accepted, receive_unread _ js medium _ text error read] at accepted
      cases accepted
  | ok envelope =>
      rw [Endpoints.accepted, receive_read _ js medium _ text envelope read] at accepted
      rcases open_cases js (state.nacl crypto) (state.channel.session peer) envelope with
        ⟨error, same⟩ | ⟨plaintext, authenticated, _, payload⟩
      · rw [same] at accepted
        cases accepted
      · dsimp only at accepted
        rw [payload] at accepted
        obtain ⟨nonce, ciphertext, numbered, encrypted, _, _, opened⟩ := authenticated.box
        obtain ⟨logged, produced⟩ := (IdealBox.open_after_iff crypto.box _ ciphertext nonce _ plaintext).1 opened
        rw [linked.inv.keys peer] at logged produced
        obtain ⟨made, present, sameNonce, sameCiphertext, _⟩ := linked.inv.made _ logged rfl
        have copied := enabled envelope read made present (sameNonce.trans numbered.symm)
          (by rw [sameCiphertext, encrypted, produced])
        refine ⟨envelope, rfl, authenticated.unseen, ?_, copied, fun frame member carried => ?_⟩
        · rw [authenticated.sender, (linked.wired peer).remote]
        · obtain ⟨frameNonce, bytes, _, stringified, frameNumbered, frameEncrypted, _⟩ := (linked.framed frame member).box
          have nonceSame : frameNonce = nonce :=
            encode_base64_injective _ _ (frameNumbered.symm.trans (carried ▸ numbered))
          have cipherSame : crypto.box.after bytes frameNonce (peers.sharedKey crypto) = ciphertext :=
            encode_base64_injective _ _ (frameEncrypted.symm.trans (carried ▸ encrypted))
          have bytesSame : bytes = plaintext :=
            crypto.box.injective bytes plaintext nonce _ (by rw [produced, ← cipherSame, nonceSame])
          have parsed := js_buffer_round_trip js lawful frame.payload bytes stringified
          rw [bytesSame] at parsed
          rw [parsed] at accepted
          exact accepted

theorem present_remembered (state : Endpoints) (peer : Peer) (medium : Medium) (text : String)
    (envelope : EncryptedEnvelope) (read : readFrame js medium text = .ok envelope)
    (remembered : envelope.nonce ∈ (state.channel.session peer).seenNonces) :
    state.accepted crypto js peer medium text = none ∧ state.present crypto js peer medium text = state := by
  have refused : receive (state.nacl crypto) js medium (state.channel.session peer) text =
      (none, state.channel.session peer) := by
    rw [receive_read _ js medium _ text envelope read]
    rcases open_cases js (state.nacl crypto) (state.channel.session peer) envelope with
      ⟨error, same⟩ | ⟨plaintext, authenticated, _⟩
    · rw [same]
      rfl
    · exact absurd remembered authenticated.unseen
  constructor
  · rw [Endpoints.accepted, refused]
  · rw [Endpoints.present, refused]
    dsimp only
    rw [Function.update_eq_self]

theorem copy_opens (lawful : js.Lawful)
    (overhead : ∀ text nonce key, overheadLength ≤ (crypto.box.after text nonce key).length) (state : Endpoints)
    (peer : Peer) (frame : Frame) (linked : Linked crypto js peers state) (member : frame ∈ state.frames)
    (sent : frame.envelope.senderPublicKey = encodeBase64 (peers.keyPair peer.other).publicKey)
    (unseen : frame.envelope.nonce ∉ (state.channel.session peer).seenNonces) :
    (state.channel.session peer).open (state.nacl crypto) js.buffer frame.envelope =
      (.ok frame.payload, (state.channel.session peer).rememberNonce frame.envelope.nonce) := by
  have framed := linked.framed frame member
  obtain ⟨nonce, bytes, sized, stringified, numbered, encrypted, logged⟩ := framed.box
  have key := linked.inv.keys peer
  have opened : (state.nacl crypto).openAfter (crypto.box.after bytes nonce (peers.sharedKey crypto)) nonce
      (state.channel.session peer).sharedKey = some bytes := by
    rw [key]
    exact (IdealBox.open_after_iff crypto.box _ _ nonce _ bytes).2 ⟨logged, rfl⟩
  have authenticated := (authenticate_iff (state.nacl crypto) (state.channel.session peer) frame.envelope bytes
    (linked.wired peer).sized).2 ⟨framed.version, by rw [sent, (linked.wired peer).remote], unseen, nonce, _, numbered,
      encrypted, sized, overhead _ _ _, opened⟩
  rw [E2eeSession.open, authenticated]
  dsimp only
  rw [js_buffer_round_trip js lawful frame.payload bytes stringified]

theorem own_payload_usable (boxes : List (IdealBox.Box Bytes Bytes Bytes)) (frame : Frame)
    (framed : Framed crypto js peers boxes frame) : (usable frame.medium frame.payload).isSome = true := by
  have origin := framed.origin
  cases medium : frame.medium with
  | stdio => rfl
  | board =>
      rw [medium] at origin
      obtain ⟨body, carried⟩ := origin
      rw [carried]
      rfl

theorem separates_of_remembered (lawful : js.Lawful) (state : Endpoints) (peer : Peer) (medium : Medium) (text : String)
    (linked : Linked crypto js peers state) (enabled : trafficEnabled crypto js peers state (.present peer medium text))
    (remembered : Remembered crypto js peers state (.present peer medium text)) :
    Separates crypto js peers state peer medium text := by
  refine ⟨?_, ?_, ?_⟩
  · rintro rfl message accepted frame member board same
    obtain ⟨envelope, read, unseen, sender, ⟨carrier, present, carried⟩, payloads⟩ :=
      accepted_frame crypto js peers lawful state peer .stdio text message linked enabled accepted
    have own : carrier.medium = .stdio := by
      by_contra other
      exact unseen (remembered envelope ⟨read, sender, carrier, present, carried, other⟩)
    have sent := (linked.framed carrier present).origin
    have posted := (linked.framed frame member).origin
    rw [own] at sent
    rw [board] at posted
    obtain ⟨sentMessage, sentPayload⟩ := sent
    obtain ⟨body, postedPayload⟩ := posted
    have handed : carrier.payload = message := Option.some.inj (payloads carrier present carried)
    exact message_not_board sentMessage body (by rw [← sentPayload, handed, ← same, postedPayload])
  · rintro rfl body accepted frame member stdio read
    obtain ⟨envelope, readToo, _, _, _, payloads⟩ :=
      accepted_frame crypto js peers lawful state peer .board text body linked enabled accepted
    have carried : frame.envelope = envelope := Except.ok.inj (read.symm.trans readToo)
    have sent := (linked.framed frame member).origin
    rw [stdio] at sent
    obtain ⟨message, payload⟩ := sent
    have returned := payloads frame member carried
    rw [payload, usable] at returned
    cases refused : bodyOf message.toJson with
    | error error =>
        rw [refused] at returned
        cases returned
    | ok text => exact body_of_message message text refused
  · intro envelope crossing later _
    rw [(present_remembered crypto js state peer medium text envelope crossing.1 (remembered envelope crossing)).2]

theorem remembered_of_unaffected (lawful : js.Lawful)
    (overhead : ∀ text nonce key, overheadLength ≤ (crypto.box.after text nonce key).length) (state : Endpoints)
    (peer : Peer) (medium : Medium) (text : String) (linked : Linked crypto js peers state)
    (separates : Separates crypto js peers state peer medium text) :
    Remembered crypto js peers state (.present peer medium text) := by
  rintro envelope ⟨read, sender, frame, member, rfl, other⟩
  by_contra unseen
  have framed := linked.framed frame member
  have opens := copy_opens crypto js peers lawful overhead state peer frame linked member sender unseen
  have later : Along (trafficEnabled crypto js peers) (trafficStep crypto js) state
      [.present peer frame.medium frame.text] := by
    refine ⟨fun envelope reads _ _ _ _ => ⟨frame, member, ?_⟩, fun _ _ => trivial⟩
    exact Except.ok.inj (framed.reads.symm.trans reads)
  have same := separates.unaffected frame.envelope ⟨read, sender, frame, member, rfl, other⟩ _ later
  have acceptedFirst : (state.accepted crypto js peer frame.medium frame.text).isSome = true := by
    rw [Endpoints.accepted, receive_read _ js _ _ _ _ framed.reads, opens]
    exact own_payload_usable crypto js peers _ frame framed
  have session : (state.present crypto js peer medium text).channel.session peer =
      (state.channel.session peer).rememberNonce frame.envelope.nonce := by
    rw [Endpoints.present, receive_read _ js medium _ text _ read, opens]
    exact Function.update_self _ _ _
  have refusedThen : (state.present crypto js peer medium text).accepted crypto js peer frame.medium frame.text = none := by
    refine (present_remembered crypto js _ peer _ _ frame.envelope framed.reads ?_).1
    rw [session]
    exact remember_nonce_seen crypto peers peer _ _ unseen (linked.wired peer)
  simp [acceptances, acceptedFirst, refusedThen] at same

theorem separated_iff (lawful : js.Lawful)
    (overhead : ∀ text nonce key, overheadLength ≤ (crypto.box.after text nonce key).length) (state : Endpoints)
    (event : Traffic) (linked : Linked crypto js peers state) (enabled : trafficEnabled crypto js peers state event) :
    Separated crypto js peers state event ↔ Remembered crypto js peers state event := by
  cases event with
  | send peer nonce message => exact Iff.rfl
  | post peer nonce body => exact Iff.rfl
  | present peer medium text =>
      exact ⟨remembered_of_unaffected crypto js peers lawful overhead state peer medium text linked,
        separates_of_remembered crypto js peers lawful state peer medium text linked enabled⟩
  | foreignBox box => exact Iff.rfl

theorem created_wired (nacl : NaclBox) (peer : Peer) (replayWindow : Int) (session : E2eeSession)
    (created : E2eeSession.create nacl (peers.keyPair peer) (peers.keyPair peer.other).publicKey replayWindow = .ok session) :
    Wired crypto peers peer session := by
  have inStep := created_in_step nacl _ _ _ session created
  obtain ⟨sized, _, rfl⟩ := created_session nacl _ _ _ session created
  exact ⟨rfl, rfl, sized, inStep⟩

theorem start_linked (first : Endpoints) (start : trafficStart crypto peers first) : Linked crypto js peers first := by
  obtain ⟨⟨session, begun, created⟩, none⟩ := start
  refine ⟨(channel_start_inv crypto js.buffer peers first.channel ⟨session, begun, created⟩).1, fun peer => ?_, ?_⟩
  · obtain ⟨replayWindow, made⟩ := created peer
    rw [begun]
    exact created_wired crypto peers _ peer replayWindow _ made
  · rw [none]
    exact fun frame member => (by cases member)

theorem channels_separated_iff (lawful : js.Lawful)
    (overhead : ∀ text nonce key, overheadLength ≤ (crypto.box.after text nonce key).length) (first : Endpoints)
    (start : trafficStart crypto peers first) (events : List Traffic)
    (offered : Along (trafficEnabled crypto js peers) (trafficStep crypto js) first events) :
    Along (Separated crypto js peers) (trafficStep crypto js) first events ↔
      Along (Remembered crypto js peers) (trafficStep crypto js) first events :=
  along_iff _ _ _ (Linked crypto js peers) (trafficStep crypto js) events first (start_linked crypto js peers first start)
    offered (fun state event linked enabled => separated_iff crypto js peers lawful overhead state event linked enabled)
    (fun state event linked enabled => next_linked crypto js peers lawful state event linked enabled)

theorem along_next (condition : Endpoints → Traffic → Prop) (state : Endpoints) (event : Traffic) (later : List Traffic) :
    Along condition (trafficStep crypto js) state (event :: later) ↔
      condition state event ∧ Along condition (trafficStep crypto js) (state.next crypto js event) later := by
  constructor
  · rintro ⟨holds, rest⟩
    exact ⟨holds, rest _ rfl⟩
  · rintro ⟨holds, rest⟩
    refine ⟨holds, fun after done => ?_⟩
    rw [← Except.ok.inj done]
    exact rest

end Separation

section Crossed

def hiText : String := "\x7b\"kind\":\"telegram-board-message\",\"body\":\"hi\"\x7d"

def hiEnvelope : EncryptedEnvelope where
  v := .one
  senderPublicKey := encodeBase64 (plainKeyPair .b).publicKey
  nonce := encodeBase64 plainNonce
  ciphertext := encodeBase64 (List.replicate overheadLength 0 ++ utf8 hiText)

def hiLine : String :=
  "\x7b\"v\":1,\"senderPublicKey\":\"" ++ hiEnvelope.senderPublicKey ++ "\",\"nonce\":\"" ++ hiEnvelope.nonce ++
    "\",\"ciphertext\":\"" ++ hiEnvelope.ciphertext ++ "\"\x7d"

def hiJson : JavaScriptJson where
  stringify
    | .object [("kind", .string "telegram-board-message"), ("body", .string "hi")] => some hiText
    | .object [("v", .number "1"), ("senderPublicKey", .string senderPublicKey), ("nonce", .string nonce),
        ("ciphertext", .string ciphertext)] =>
        if senderPublicKey = hiEnvelope.senderPublicKey ∧ nonce = hiEnvelope.nonce ∧ ciphertext = hiEnvelope.ciphertext then
          some hiLine
        else none
    | _ => none
  parse text :=
    if text = hiText then .ok (boardPayload "hi")
    else if text = hiLine then .ok hiEnvelope.toJson
    else .error "Unexpected token"

theorem hi_texts_differ : hiLine ≠ hiText := by decide

theorem hi_json_parse (text : String) : hiJson.parse text =
    if text = hiText then .ok (boardPayload "hi")
    else if text = hiLine then .ok hiEnvelope.toJson
    else .error "Unexpected token" := rfl

theorem hi_parse_text : hiJson.parse hiText = .ok (boardPayload "hi") := by
  rw [hi_json_parse, if_pos rfl]

theorem hi_parse_line : hiJson.parse hiLine = .ok hiEnvelope.toJson := by
  rw [hi_json_parse, if_neg hi_texts_differ, if_pos rfl]

theorem hi_json_lawful : hiJson.Lawful where
  roundTrip value text written := by
    simp only [hiJson] at written
    split at written
    · rw [← Option.some.inj written]
      exact hi_parse_text
    · split at written
      · rename_i same
        rw [← Option.some.inj written, same.1, same.2.1, same.2.2]
        exact hi_parse_line
      · cases written
    · cases written
  object fields text written := by
    have braces (line : String) (known : line = hiText ∨ line = hiLine) :
        line.toList.head? = some '\x7b' ∧ line.toList.getLast? = some '\x7d' := by
      rcases known with rfl | rfl
      · exact ⟨rfl, rfl⟩
      · unfold hiLine
        refine ⟨?_, last_of_append _ _ _ (by decide)⟩
        iterate 6 apply head_of_append
        decide
    apply braces
    simp only [hiJson] at written
    split at written
    · exact .inl (Option.some.inj written).symm
    · split at written
      · exact .inr (Option.some.inj written).symm
      · cases written
    · cases written

def hiStart : Endpoints where
  channel := { session := plainSession }

theorem hi_started : trafficStart plainCrypto plainPeers hiStart := by
  refine ⟨⟨plainSession, rfl, fun peer => ⟨4096, ?_⟩⟩, rfl⟩
  cases peer <;> rfl

def hiPosted : Endpoints := hiStart.next plainCrypto hiJson (.post .b plainNonce "hi")

theorem hi_linked : Linked plainCrypto hiJson plainPeers hiPosted :=
  next_linked plainCrypto hiJson plainPeers hi_json_lawful hiStart (.post .b plainNonce "hi")
    (start_linked plainCrypto hiJson plainPeers hiStart hi_started) rfl

theorem hi_overhead (text nonce key : Bytes) : overheadLength ≤ (plainCrypto.box.after text nonce key).length := by
  simp [plainCrypto]

theorem hi_written : textOf hiJson hiEnvelope.toJson = .ok hiLine := rfl

theorem hi_line_read : readFrame hiJson .stdio hiLine = .ok hiEnvelope :=
  stdio_frame_reads hiJson hi_json_lawful hiEnvelope rfl hiLine hi_written (by decide +kernel)

theorem hi_board_read : readFrame hiJson .board (telegramBoardE2eePrefix ++ hiLine) = .ok hiEnvelope :=
  board_text_reads hiJson hi_json_lawful hiEnvelope rfl hiLine hi_written

theorem hi_frames : hiPosted.frames.map (fun frame => (frame.envelope, frame.medium)) = [(hiEnvelope, .board)] := by
  decide +kernel

theorem hi_frame : ∃ frame ∈ hiPosted.frames, frame.envelope = hiEnvelope := by
  have member : (hiEnvelope, Medium.board) ∈ hiPosted.frames.map (fun frame => (frame.envelope, frame.medium)) :=
    hi_frames ▸ List.mem_singleton_self _
  obtain ⟨frame, present, carried⟩ := List.mem_map.1 member
  exact ⟨frame, present, (Prod.mk.inj carried).1⟩

theorem hi_boards (frame : Frame) (member : frame ∈ hiPosted.frames) : frame.medium = .board := by
  have carried := List.mem_map_of_mem (f := fun frame => (frame.envelope, frame.medium)) member
  rw [hi_frames, List.mem_singleton] at carried
  exact (Prod.mk.inj carried).2

theorem hi_unseen (peer : Peer) : (hiPosted.channel.session peer).seenNonces = [] := by
  cases peer <;> decide +kernel

theorem hi_opens (frame : Frame) (member : frame ∈ hiPosted.frames) (carried : frame.envelope = hiEnvelope) :
    (hiPosted.channel.session .a).open (hiPosted.nacl plainCrypto) hiJson.buffer hiEnvelope =
      (.ok frame.payload, (hiPosted.channel.session .a).rememberNonce hiEnvelope.nonce) := by
  rw [← carried]
  exact copy_opens plainCrypto hiJson plainPeers hi_json_lawful hi_overhead hiPosted .a frame hi_linked member
    (by rw [carried]; rfl) (by rw [hi_unseen]; exact List.not_mem_nil)

theorem hi_copied (state : Endpoints) (same : state.frames = hiPosted.frames) (peer : Peer) (medium : Medium) (text : String)
    (read : readFrame hiJson medium text = .ok hiEnvelope) :
    trafficEnabled plainCrypto hiJson plainPeers state (.present peer medium text) := by
  intro envelope reads _ _ _ _
  rw [same, ← Except.ok.inj (read.symm.trans reads)]
  exact hi_frame

-- Without its prefix the message is handed to the MCP server.
theorem board_message_handed : ∃ (first : Endpoints) (events : List Traffic), trafficStart plainCrypto plainPeers first ∧
    Along (trafficEnabled plainCrypto hiJson plainPeers) (trafficStep plainCrypto hiJson) first events ∧
    ¬ Along (Separated plainCrypto hiJson plainPeers) (trafficStep plainCrypto hiJson) first events := by
  have offered := hi_copied hiPosted rfl .a .stdio hiLine hi_line_read
  refine ⟨hiStart, [.post .b plainNonce "hi", .present .a .stdio hiLine], hi_started, ?_, ?_⟩
  · rw [along_next, along_next]
    exact ⟨rfl, offered, trivial⟩
  · rw [along_next, along_next]
    rintro ⟨_, separates, _⟩
    obtain ⟨frame, member, carried⟩ := hi_frame
    have accepted : hiPosted.accepted plainCrypto hiJson .a .stdio hiLine = some frame.payload := by
      rw [Endpoints.accepted, receive_read _ hiJson .stdio _ hiLine hiEnvelope hi_line_read, hi_opens frame member carried]
      rfl
    exact separates.messages rfl frame.payload accepted frame member (hi_boards frame member) rfl

def hiReceived : Endpoints :=
  hiPosted.next plainCrypto hiJson (.present .a .board (telegramBoardE2eePrefix ++ hiLine))

theorem hi_received_frames : hiReceived.frames = hiPosted.frames := by
  rw [hiReceived, Endpoints.next, Endpoints.present]

theorem hi_received_seen : hiEnvelope.nonce ∈ (hiReceived.channel.session .a).seenNonces := by
  obtain ⟨frame, member, carried⟩ := hi_frame
  have session : hiReceived.channel.session .a = (hiPosted.channel.session .a).rememberNonce hiEnvelope.nonce := by
    rw [hiReceived, Endpoints.next, Endpoints.present, receive_read _ hiJson .board _ _ hiEnvelope hi_board_read,
      hi_opens frame member carried]
    dsimp only
    rw [Function.update_self]
  rw [session]
  exact remember_nonce_seen plainCrypto plainPeers .a _ _ (by rw [hi_unseen]; exact List.not_mem_nil) (hi_linked.wired .a)

def hiTraffic : List Traffic :=
  [.post .b plainNonce "hi", .present .a .board (telegramBoardE2eePrefix ++ hiLine), .present .a .stdio hiLine]

theorem replayed_board_message_separated :
    Along (Separated plainCrypto hiJson plainPeers) (trafficStep plainCrypto hiJson) hiStart hiTraffic := by
  have offered : Along (trafficEnabled plainCrypto hiJson plainPeers) (trafficStep plainCrypto hiJson) hiStart hiTraffic := by
    rw [hiTraffic, along_next, along_next, along_next, ← hiPosted, ← hiReceived]
    exact ⟨rfl, hi_copied hiPosted rfl .a .board _ hi_board_read,
      hi_copied hiReceived hi_received_frames .a .stdio _ hi_line_read, trivial⟩
  apply (channels_separated_iff plainCrypto hiJson plainPeers hi_json_lawful hi_overhead hiStart hi_started hiTraffic
    offered).2
  rw [hiTraffic, along_next, along_next, along_next, ← hiPosted, ← hiReceived]
  refine ⟨trivial, ?_, ?_, trivial⟩
  · rintro envelope ⟨_, _, frame, member, _, other⟩
    exact absurd (hi_boards frame member) other
  · rintro envelope ⟨read, _⟩
    have same : hiEnvelope = envelope := Except.ok.inj (hi_line_read.symm.trans read)
    rw [← same]
    exact hi_received_seen

end Crossed

end TelegramBotApi.E2ee
