import TelegramBotApi.ChannelSeparation

set_option autoImplicit false

namespace TelegramBotApi.E2ee

open Checked

-- How JSON.stringify writes printable ASCII: with printable ASCII.
def printable (text : String) : Prop := ∀ char ∈ text.toList, 32 ≤ char.toNat ∧ char.toNat ≤ 126

def printableValue : JsonValue → Prop
  | .number text | .string text => printable text
  | _ => False

def JavaScriptJson.Printing (js : JavaScriptJson) : Prop :=
  ∀ fields text, js.stringify (.object fields) = some text →
    (∀ field ∈ fields, printable field.1 ∧ printableValue field.2) → printable text

-- What ends a line for node:readline.
def isLineSeparator (char : Char) : Bool := char = '\n' || char = '\r' || char.toNat = 0x2028 || char.toNat = 0x2029

structure EncryptedStdioTransport where
  session : E2eeSession
  maxFrameBytes : Int
  started : Bool := false
  closed : Bool := false

namespace EncryptedStdioTransport

variable (nacl : NaclBox) (js : JavaScriptJson)

def create (session : E2eeSession) (maxFrameBytes : Int) : Except String EncryptedStdioTransport := do
  require "maxFrameBytes must be a safe integer of at least 1024 bytes"
    (maxFrameBytes ≤ maxSafeInteger ∧ 1024 ≤ maxFrameBytes)
  return { session, maxFrameBytes }

def start (transport : EncryptedStdioTransport) : Except String EncryptedStdioTransport := do
  require "EncryptedStdioTransport already started" (transport.started = false)
  require "EncryptedStdioTransport is closed" (transport.closed = false)
  return { transport with started := true }

-- close, and the end of the input.
def close (transport : EncryptedStdioTransport) : EncryptedStdioTransport := { transport with closed := true }

def isOpen (transport : EncryptedStdioTransport) : Bool := transport.started && !transport.closed

def send (transport : EncryptedStdioTransport) (nonce : Bytes) (message : JSONRPCMessage) : Except String String := do
  require "EncryptedStdioTransport is not open" (transport.isOpen = true)
  let line ← transportSend nacl js transport.maxFrameBytes transport.session nonce message
  return line ++ "\n"

def readLine (transport : EncryptedStdioTransport) (line : String) : Except String EncryptedEnvelope :=
  E2ee.readLine js transport.maxFrameBytes line

def handleLine (transport : EncryptedStdioTransport) (line : String) : Handled × EncryptedStdioTransport :=
  let (handled, session) := E2ee.handleLine nacl js transport.maxFrameBytes transport.session line
  (handled, { transport with session })

end EncryptedStdioTransport

structure WrittenLine where
  peer : Peer
  message : JSONRPCMessage
  envelope : EncryptedEnvelope
  line : String

structure Stream where
  transport : Peer → EncryptedStdioTransport
  boxes : List (IdealBox.Box Bytes Bytes Bytes) := []
  sealed : List (Sealed JsonValue) := []
  lines : List WrittenLine := []

inductive StreamEvent where
  | start (peer : Peer)
  | close (peer : Peer)
  | send (peer : Peer) (nonce : Bytes) (message : JSONRPCMessage)
  | line (peer : Peer) (text : String)
  | foreignBox (box : IdealBox.Box Bytes Bytes Bytes)

section Stream

variable (crypto : Crypto) (js : JavaScriptJson) (peers : Peers crypto) (maxFrameBytes : Int)

namespace Stream

def nacl (stream : Stream) : NaclBox := naclAfter crypto stream.boxes

def channel (stream : Stream) : Channel JsonValue where
  session peer := (stream.transport peer).session
  boxes := stream.boxes
  sealed := stream.sealed

def change (stream : Stream) (peer : Peer) (transport : EncryptedStdioTransport) : Stream :=
  { stream with transport := Function.update stream.transport peer transport }

def written (stream : Stream) (peer : Peer) (nonce : Bytes) (message : JSONRPCMessage) : List WrittenLine :=
  let transport := stream.transport peer
  match transport.send (stream.nacl crypto) js nonce message,
      transport.session.seal (stream.nacl crypto) js.buffer nonce message.toJson with
  | .ok text, .ok envelope => [⟨peer, message, envelope, String.ofList text.toList.dropLast⟩]
  | _, _ => []

-- An open transport seals the message even if the frame turns out to be too long.
def send (stream : Stream) (peer : Peer) (nonce : Bytes) (message : JSONRPCMessage) : Stream :=
  if (stream.transport peer).isOpen then
    let channel := stream.channel.seal crypto js.buffer peer nonce message.toJson
    { stream with
      boxes := channel.boxes
      sealed := channel.sealed
      lines := stream.lines ++ stream.written crypto js peer nonce message }
  else stream

def next (stream : Stream) : StreamEvent → Stream
  | .start peer =>
      match (stream.transport peer).start with
      | .ok started => stream.change peer started
      | .error _ => stream
  | .close peer => stream.change peer (stream.transport peer).close
  | .send peer nonce message => stream.send crypto js peer nonce message
  | .line peer text => stream.change peer ((stream.transport peer).handleLine (stream.nacl crypto) js text).2
  | .foreignBox box => { stream with boxes := stream.boxes ++ [box] }

end Stream

def streamEnabled (stream : Stream) : StreamEvent → Prop
  | .send _ nonce _ => nonce.length = nonceLength ∧
      ∀ box ∈ stream.boxes, box.key = peers.sharedKey crypto → box.nonce ≠ nonce
  | .foreignBox box => box.key ≠ peers.sharedKey crypto
  | _ => True

-- Both ends are configured with the same limit.
def streamStart (stream : Stream) : Prop :=
  ∃ transport, stream = { transport } ∧ ∀ peer, ∃ replayWindow session,
    E2eeSession.create (naclAfter crypto []) (peers.keyPair peer) (peers.keyPair peer.other).publicKey replayWindow =
      .ok session ∧ EncryptedStdioTransport.create session maxFrameBytes = .ok (transport peer)

def streamMachine : Transition.Machine Stream StreamEvent Empty where
  start := streamStart crypto peers maxFrameBytes
  enabled := streamEnabled crypto peers
  step stream event := .ok (stream.next crypto js event)

structure EndToEnd (stream : Stream) : Prop where
  writes : ∀ peer nonce message text, streamEnabled crypto peers stream (.send peer nonce message) →
    (stream.transport peer).send (stream.nacl crypto) js nonce message = .ok text →
    ∃ written, (stream.send crypto js peer nonce message).lines = stream.lines ++ [written] ∧ text = written.line ++ "\n" ∧
      (∀ char ∈ written.line.toList, isLineSeparator char = false) ∧ (written.line.utf8ByteSize : Int) ≤ maxFrameBytes ∧
      (((stream.send crypto js peer nonce message).transport peer.other).handleLine
        ((stream.send crypto js peer nonce message).nacl crypto) js written.line).1 = .onmessage message.toJson
  -- until its nonce is in the cache of the receiver
  delivers : ∀ written ∈ stream.lines,
    written.envelope.nonce ∉ (stream.transport written.peer.other).session.seenNonces →
    ((stream.transport written.peer.other).handleLine (stream.nacl crypto) js written.line).1 =
      .onmessage written.message.toJson
  refuses : ∀ peer nonce message error, (stream.transport peer).send (stream.nacl crypto) js nonce message = .error error →
    (stream.send crypto js peer nonce message).lines = stream.lines
  tooLong : ∀ peer nonce message envelope line,
    (stream.transport peer).session.seal (stream.nacl crypto) js.buffer nonce message.toJson = .ok envelope →
    textOf js envelope.toJson = .ok line → maxFrameBytes < line.utf8ByteSize →
    ∃ error, (stream.transport peer).send (stream.nacl crypto) js nonce message = .error error
  others : ∀ peer text message, (∀ envelope, (stream.transport peer).readLine js text = .ok envelope →
      ¬ Reflected stream.sealed peer (stream.transport peer).session envelope) →
    ((stream.transport peer).handleLine (stream.nacl crypto) js text).1 = .onmessage message →
    ∃ envelope, (stream.transport peer).readLine js text = .ok envelope ∧
      envelope.nonce ∉ (stream.transport peer).session.seenNonces ∧ ∃ made ∈ stream.sealed, made.peer = peer.other ∧
        made.envelope.nonce = envelope.nonce ∧ made.envelope.ciphertext = envelope.ciphertext ∧ made.plaintext = message
  once : ∀ peer text message again,
    ((stream.transport peer).handleLine (stream.nacl crypto) js text).1 = .onmessage message →
    (((stream.transport peer).handleLine (stream.nacl crypto) js text).2.handleLine (stream.nacl crypto) js text).1 ≠
      .onmessage again
  undisturbed : ∀ peer text,
    (∀ message, ((stream.transport peer).handleLine (stream.nacl crypto) js text).1 ≠ .onmessage message) →
    ((stream.transport peer).handleLine (stream.nacl crypto) js text).2 = stream.transport peer

structure Wrote (boxes : List (IdealBox.Box Bytes Bytes Bytes)) (written : WrittenLine) : Prop where
  version : written.envelope.v = .one
  sender : written.envelope.senderPublicKey = encodeBase64 (peers.keyPair written.peer).publicKey
  box : ∃ nonce bytes, nonce.length = nonceLength ∧ js.buffer.stringify written.message.toJson = some bytes ∧
    written.envelope.nonce = encodeBase64 nonce ∧
    written.envelope.ciphertext = encodeBase64 (crypto.box.after bytes nonce (peers.sharedKey crypto)) ∧
    ⟨peers.sharedKey crypto, nonce, bytes⟩ ∈ boxes
  text : textOf js written.envelope.toJson = .ok written.line
  short : (written.line.utf8ByteSize : Int) ≤ maxFrameBytes

structure Streamed (stream : Stream) : Prop where
  inv : Inv crypto js.buffer peers stream.channel
  wired : ∀ peer, Wired crypto peers peer (stream.transport peer).session
  limit : ∀ peer, (stream.transport peer).maxFrameBytes = maxFrameBytes
  lines : ∀ written ∈ stream.lines, Wrote crypto js peers maxFrameBytes stream.boxes written
  seen : ∀ peer, ∀ nonceId ∈ (stream.transport peer).session.seenNonces, ∃ box ∈ stream.boxes,
    box.key = peers.sharedKey crypto ∧ encodeBase64 box.nonce = nonceId

theorem wrote_more (boxes added : List (IdealBox.Box Bytes Bytes Bytes)) (written : WrittenLine)
    (wrote : Wrote crypto js peers maxFrameBytes boxes written) :
    Wrote crypto js peers maxFrameBytes (boxes ++ added) written := by
  obtain ⟨version, sender, ⟨nonce, bytes, sized, stringified, numbered, encrypted, logged⟩, text, short⟩ := wrote
  exact ⟨version, sender, ⟨nonce, bytes, sized, stringified, numbered, encrypted, List.mem_append_left added logged⟩, text, short⟩

theorem handle_line_cases (nacl : NaclBox) (transport : EncryptedStdioTransport) (line : String) :
    (transport.handleLine nacl js line).2 = transport ∧ (∀ message, (transport.handleLine nacl js line).1 ≠ .onmessage message) ∨
      ∃ envelope, trim line ≠ "" ∧ transport.readLine js line = .ok envelope := by
  unfold EncryptedStdioTransport.handleLine EncryptedStdioTransport.readLine E2ee.handleLine
  by_cases blank : trim line = ""
  · rw [if_pos blank]
    exact .inl ⟨rfl, fun message same => by cases same⟩
  · rw [if_neg blank]
    cases read : E2ee.readLine js transport.maxFrameBytes line with
    | error error => exact .inl ⟨rfl, fun message same => by cases same⟩
    | ok envelope => exact .inr ⟨envelope, blank, rfl⟩

theorem handle_line_read (nacl : NaclBox) (transport : EncryptedStdioTransport) (line : String) (envelope : EncryptedEnvelope)
    (present : trim line ≠ "") (read : transport.readLine js line = .ok envelope) :
    (transport.handleLine nacl js line).2 = { transport with session := (transport.session.open nacl js.buffer envelope).2 } ∧
      ∀ message, (transport.handleLine nacl js line).1 = .onmessage message ↔
        (transport.session.open nacl js.buffer envelope).1 = .ok message := by
  rw [EncryptedStdioTransport.readLine] at read
  unfold EncryptedStdioTransport.handleLine E2ee.handleLine
  rw [if_neg present, read]
  dsimp only
  obtain ⟨result, opened⟩ := transport.session.open nacl js.buffer envelope
  cases result with
  | error error => simp
  | ok value => simp

theorem read_written (lawful : js.Lawful) (boxes : List (IdealBox.Box Bytes Bytes Bytes)) (written : WrittenLine)
    (wrote : Wrote crypto js peers maxFrameBytes boxes written) (transport : EncryptedStdioTransport)
    (limit : transport.maxFrameBytes = maxFrameBytes) :
    trim written.line ≠ "" ∧ transport.readLine js written.line = .ok written.envelope :=
  line_reads js lawful written.envelope wrote.version written.line transport.maxFrameBytes wrote.text (limit ▸ wrote.short)

theorem written_opens (lawful : js.Lawful)
    (overhead : ∀ text nonce key, overheadLength ≤ (crypto.box.after text nonce key).length) (stream : Stream)
    (streamed : Streamed crypto js peers maxFrameBytes stream) (written : WrittenLine) (member : written ∈ stream.lines)
    (unseen : written.envelope.nonce ∉ (stream.transport written.peer.other).session.seenNonces) :
    ((stream.transport written.peer.other).handleLine (stream.nacl crypto) js written.line).1 =
      .onmessage written.message.toJson := by
  have wrote := streamed.lines written member
  obtain ⟨nonce, bytes, sized, stringified, numbered, encrypted, logged⟩ := wrote.box
  obtain ⟨present, read⟩ := read_written crypto js peers maxFrameBytes lawful stream.boxes written wrote _
    (streamed.limit written.peer.other)
  refine ((handle_line_read js _ _ _ _ present read).2 _).2 ?_
  have key : (stream.transport written.peer.other).session.sharedKey = peers.sharedKey crypto :=
    streamed.inv.keys written.peer.other
  have wired := streamed.wired written.peer.other
  have opened : (stream.nacl crypto).openAfter (crypto.box.after bytes nonce (peers.sharedKey crypto)) nonce
      (stream.transport written.peer.other).session.sharedKey = some bytes := by
    rw [key]
    exact (IdealBox.open_after_iff crypto.box _ _ nonce _ bytes).2 ⟨logged, rfl⟩
  have other : written.peer.other.other = written.peer := by cases written.peer <;> rfl
  have sender : written.envelope.senderPublicKey =
      encodeBase64 (stream.transport written.peer.other).session.remotePublicKey := by
    rw [wired.remote, other, wrote.sender]
  have authentic := (authenticate_iff (stream.nacl crypto) (stream.transport written.peer.other).session written.envelope bytes
    wired.sized).2 ⟨wrote.version, sender, unseen, nonce, _, numbered, encrypted, sized, overhead _ _ _, opened⟩
  rw [E2eeSession.open, authentic]
  dsimp only
  rw [js_buffer_round_trip js lawful written.message.toJson bytes stringified]

theorem authenticated_made (lawful : js.Lawful) (stream : Stream) (streamed : Streamed crypto js peers maxFrameBytes stream)
    (peer : Peer) (envelope : EncryptedEnvelope) (plaintext : Bytes)
    (authenticated : Authenticated (stream.nacl crypto) (stream.transport peer).session envelope plaintext) :
    (∃ box ∈ stream.boxes, box.key = peers.sharedKey crypto ∧ encodeBase64 box.nonce = envelope.nonce) ∧
      ∃ made ∈ stream.sealed, made.envelope.nonce = envelope.nonce ∧ made.envelope.ciphertext = envelope.ciphertext ∧
        js.buffer.parse plaintext = some made.plaintext := by
  obtain ⟨nonce, ciphertext, numbered, encrypted, _, _, opened⟩ := authenticated.box
  obtain ⟨logged, produced⟩ := (IdealBox.open_after_iff crypto.box stream.boxes ciphertext nonce _ plaintext).1 opened
  have key : (stream.transport peer).session.sharedKey = peers.sharedKey crypto := streamed.inv.keys peer
  obtain ⟨made, present, sameNonce, sameCiphertext, stringified⟩ := streamed.inv.made _ logged key
  refine ⟨⟨_, logged, key, numbered.symm⟩, made, present, sameNonce.trans numbered.symm, ?_, ?_⟩
  · rw [sameCiphertext, encrypted]
    exact congrArg encodeBase64 produced
  · exact js_buffer_round_trip js lawful made.plaintext plaintext stringified

theorem digit_printable (value : Nat) (small : value < 64) :
    32 ≤ (Base64.digitChar value).toNat ∧ (Base64.digitChar value).toNat ≤ 126 := by
  revert value
  decide

theorem base64_printable (bytes : Bytes) : printable (encodeBase64 bytes) := by
  intro char member
  rw [encodeBase64, String.toList_ofList, Base64.encode, List.mem_append] at member
  rcases member with digit | padding
  · obtain ⟨value, present, rfl⟩ := List.mem_map.1 digit
    exact digit_printable value (Base64.sextet_small bytes value present)
  · have equals : char = '=' := by
      rcases Base64.padding_cases bytes.length with ⟨_, same⟩ | ⟨_, same⟩ | ⟨_, same⟩ <;> rw [same] at padding
      · simp at padding
      · simpa only [List.mem_cons, List.not_mem_nil, or_false, or_self] using padding
      · exact List.mem_singleton.1 padding
    rw [equals]
    decide

theorem separator_not_printable (text : String) (printed : printable text) (char : Char) (member : char ∈ text.toList) :
    isLineSeparator char = false := by
  obtain ⟨low, high⟩ := printed char member
  rw [Bool.eq_false_iff]
  intro separates
  simp only [isLineSeparator, Bool.or_eq_true, decide_eq_true_eq] at separates
  rcases separates with ((rfl | rfl) | wide) | wide
  · exact absurd low (by decide)
  · exact absurd low (by decide)
  · omega
  · omega

theorem sealed_printable (printing : js.Printing) (envelope : EncryptedEnvelope) (line : String)
    (one : envelope.v = .one) (sender : printable envelope.senderPublicKey) (nonce : printable envelope.nonce)
    (ciphertext : printable envelope.ciphertext) (written : textOf js envelope.toJson = .ok line) : printable line := by
  unfold textOf at written
  cases stringified : js.stringify envelope.toJson with
  | none =>
      rw [stringified] at written
      cases written
  | some text =>
      rw [stringified] at written
      cases written
      refine printing _ _ stringified (fun field member => ?_)
      simp only [List.mem_cons, List.not_mem_nil, or_false] at member
      rcases member with rfl | rfl | rfl | rfl
      · simp [printable, printableValue, one, Version.shown]
      · exact ⟨by simp [printable], sender⟩
      · exact ⟨by simp [printable], nonce⟩
      · exact ⟨by simp [printable], ciphertext⟩

theorem send_meets (nacl : NaclBox) (transport : EncryptedStdioTransport) (nonce : Bytes) (message : JSONRPCMessage) :
    Meets (fun _ => True) (fun text => transport.isOpen = true ∧ ∃ envelope line,
      transport.session.seal nacl js.buffer nonce message.toJson = .ok envelope ∧ textOf js envelope.toJson = .ok line ∧
      (line.utf8ByteSize : Int) ≤ transport.maxFrameBytes ∧ text = line ++ "\n") (transport.send nacl js nonce message) := by
  apply meets_require _ _ _ _ _ (fun _ => trivial)
  intro opened
  cases sent : transportSend nacl js transport.maxFrameBytes transport.session nonce message with
  | error error => exact trivial
  | ok line =>
      obtain ⟨envelope, made, written, short⟩ := transport_sent_line nacl js _ _ nonce message line sent
      exact ⟨opened, envelope, line, made, written, short, rfl⟩

theorem drop_line_feed (line : String) : String.ofList (line ++ "\n").toList.dropLast = line := by
  rw [String.toList_append]
  change String.ofList (line.toList ++ ['\n']).dropLast = line
  rw [List.dropLast_concat, String.ofList_toList]

theorem send_boxes (stream : Stream) (peer : Peer) (nonce : Bytes) (message : JSONRPCMessage)
    (opened : (stream.transport peer).isOpen = true) : ∃ added,
      (stream.send crypto js peer nonce message).boxes = stream.boxes ++ added := by
  obtain ⟨_, added, grown⟩ := seal_channel crypto js stream.channel peer nonce message.toJson
  refine ⟨added, ?_⟩
  rw [Stream.send, if_pos opened]
  exact grown

theorem send_transport (stream : Stream) (peer : Peer) (nonce : Bytes) (message : JSONRPCMessage) :
    (stream.send crypto js peer nonce message).transport = stream.transport := by
  unfold Stream.send
  split <;> rfl

theorem written_line (stream : Stream) (peer : Peer) (nonce : Bytes) (message : JSONRPCMessage) (text : String)
    (sent : (stream.transport peer).send (stream.nacl crypto) js nonce message = .ok text) :
    ∃ envelope line, (stream.transport peer).isOpen = true ∧
      (stream.transport peer).session.seal (stream.nacl crypto) js.buffer nonce message.toJson = .ok envelope ∧
      textOf js envelope.toJson = .ok line ∧ (line.utf8ByteSize : Int) ≤ (stream.transport peer).maxFrameBytes ∧
      text = line ++ "\n" ∧ stream.written crypto js peer nonce message = [⟨peer, message, envelope, line⟩] := by
  obtain ⟨opened, envelope, line, made, written, short, rfl⟩ := meets_returns _ _ _ text (send_meets js _ _ nonce message) sent
  refine ⟨envelope, line, opened, made, written, short, rfl, ?_⟩
  simp only [Stream.written, sent, made, drop_line_feed]

theorem written_none (stream : Stream) (peer : Peer) (nonce : Bytes) (message : JSONRPCMessage) (error : String)
    (refused : (stream.transport peer).send (stream.nacl crypto) js nonce message = .error error) :
    stream.written crypto js peer nonce message = [] := by
  simp only [Stream.written, refused]

theorem sent_wrote (stream : Stream) (peer : Peer) (nonce : Bytes) (message : JSONRPCMessage) (envelope : EncryptedEnvelope)
    (line : String) (streamed : Streamed crypto js peers maxFrameBytes stream) (sized : nonce.length = nonceLength)
    (opened : (stream.transport peer).isOpen = true)
    (made : (stream.transport peer).session.seal (stream.nacl crypto) js.buffer nonce message.toJson = .ok envelope)
    (text : textOf js envelope.toJson = .ok line) (short : (line.utf8ByteSize : Int) ≤ (stream.transport peer).maxFrameBytes) :
    Wrote crypto js peers maxFrameBytes (stream.send crypto js peer nonce message).boxes ⟨peer, message, envelope, line⟩ ∧
      envelope.nonce = encodeBase64 nonce := by
  obtain ⟨bytes, stringified, shape⟩ := seal_version js _ _ nonce message.toJson envelope made
  have key : (stream.transport peer).session.sharedKey = peers.sharedKey crypto := streamed.inv.keys peer
  have logged : ⟨peers.sharedKey crypto, nonce, bytes⟩ ∈ (stream.send crypto js peer nonce message).boxes := by
    have payload : messageOf js.buffer message.toJson = .ok bytes := by rw [messageOf, stringified]
    rw [Stream.send, if_pos opened]
    change _ ∈ (stream.channel.seal crypto js.buffer peer nonce message.toJson).boxes
    rw [Channel.seal, payload, seal_ok js.buffer _ _ nonce bytes message.toJson payload]
    exact List.mem_append_right _ (List.mem_singleton.2 (by rw [← key]; rfl))
  refine ⟨⟨?_, ?_, ⟨nonce, bytes, sized, stringified, ?_, ?_, logged⟩, text, streamed.limit peer ▸ short⟩, ?_⟩
  · rw [shape]
  · rw [shape, (streamed.wired peer).publicKey]
  · rw [shape]
  · rw [shape, key]
    rfl
  · rw [shape]

theorem send_streamed (stream : Stream) (peer : Peer) (nonce : Bytes) (message : JSONRPCMessage)
    (streamed : Streamed crypto js peers maxFrameBytes stream) (sized : nonce.length = nonceLength) :
    Streamed crypto js peers maxFrameBytes (stream.send crypto js peer nonce message) := by
  by_cases opened : (stream.transport peer).isOpen = true
  · have inv := seal_inv crypto js.buffer peers stream.channel peer nonce message.toJson streamed.inv
    obtain ⟨sameSession, _, _⟩ := seal_channel crypto js stream.channel peer nonce message.toJson
    obtain ⟨added, grown⟩ := send_boxes crypto js stream peer nonce message opened
    have same := send_transport crypto js stream peer nonce message
    have lines : (stream.send crypto js peer nonce message).lines =
        stream.lines ++ stream.written crypto js peer nonce message := by rw [Stream.send, if_pos opened]
    refine ⟨⟨fun owner => ?_, ?_⟩, by rw [same]; exact streamed.wired, by rw [same]; exact streamed.limit, ?_, ?_⟩
    · change ((stream.send crypto js peer nonce message).transport owner).session.sharedKey = _
      rw [same]
      exact streamed.inv.keys owner
    · have made := inv.made
      rw [Stream.send, if_pos opened]
      exact made
    · intro written member
      rw [lines] at member
      rcases List.mem_append.1 member with old | new
      · rw [grown]
        exact wrote_more crypto js peers maxFrameBytes _ added written (streamed.lines written old)
      · cases sent : (stream.transport peer).send (stream.nacl crypto) js nonce message with
        | error error =>
            rw [written_none crypto js stream peer nonce message error sent] at new
            cases new
        | ok text =>
            obtain ⟨envelope, line, _, made, text, short, _, single⟩ := written_line crypto js stream peer nonce message text sent
            rw [single] at new
            rw [List.mem_singleton.1 new]
            exact (sent_wrote crypto js peers maxFrameBytes stream peer nonce message envelope line streamed sized opened made
              text short).1
    · intro owner nonceId seen
      rw [same] at seen
      obtain ⟨box, logged, known⟩ := streamed.seen owner nonceId seen
      exact ⟨box, grown ▸ List.mem_append_left added logged, known⟩
  · rw [Stream.send, if_neg opened]
    exact streamed

theorem change_streamed (stream : Stream) (peer : Peer) (transport : EncryptedStdioTransport)
    (streamed : Streamed crypto js peers maxFrameBytes stream) (key : transport.session.sharedKey = peers.sharedKey crypto)
    (wired : Wired crypto peers peer transport.session) (limit : transport.maxFrameBytes = maxFrameBytes)
    (seen : ∀ nonceId ∈ transport.session.seenNonces, ∃ box ∈ stream.boxes,
      box.key = peers.sharedKey crypto ∧ encodeBase64 box.nonce = nonceId) :
    Streamed crypto js peers maxFrameBytes (stream.change peer transport) := by
  refine ⟨⟨?_, streamed.inv.made⟩, ?_, ?_, streamed.lines, ?_⟩
  · exact (Function.forall_update_iff _
      (fun _ (changed : EncryptedStdioTransport) => changed.session.sharedKey = peers.sharedKey crypto)).2
      ⟨key, fun owner _ => streamed.inv.keys owner⟩
  · exact (Function.forall_update_iff _
      (fun owner (changed : EncryptedStdioTransport) => Wired crypto peers owner changed.session)).2
      ⟨wired, fun owner _ => streamed.wired owner⟩
  · exact (Function.forall_update_iff _ (fun _ (changed : EncryptedStdioTransport) => changed.maxFrameBytes = maxFrameBytes)).2
      ⟨limit, fun owner _ => streamed.limit owner⟩
  · exact (Function.forall_update_iff _
      (fun _ (changed : EncryptedStdioTransport) => ∀ nonceId ∈ changed.session.seenNonces, ∃ box ∈ stream.boxes,
      box.key = peers.sharedKey crypto ∧ encodeBase64 box.nonce = nonceId)).2 ⟨seen, fun owner _ => streamed.seen owner⟩

theorem kept_streamed (stream : Stream) (peer : Peer) (transport : EncryptedStdioTransport)
    (streamed : Streamed crypto js peers maxFrameBytes stream) (session : transport.session = (stream.transport peer).session)
    (limit : transport.maxFrameBytes = (stream.transport peer).maxFrameBytes) :
    Streamed crypto js peers maxFrameBytes (stream.change peer transport) := by
  apply change_streamed crypto js peers maxFrameBytes stream peer transport streamed
  · exact session ▸ streamed.inv.keys peer
  · exact session ▸ streamed.wired peer
  · exact limit.trans (streamed.limit peer)
  · exact session ▸ streamed.seen peer

theorem line_streamed (lawful : js.Lawful) (stream : Stream) (peer : Peer) (text : String)
    (streamed : Streamed crypto js peers maxFrameBytes stream) :
    Streamed crypto js peers maxFrameBytes
      (stream.change peer ((stream.transport peer).handleLine (stream.nacl crypto) js text).2) := by
  rcases handle_line_cases js (stream.nacl crypto) (stream.transport peer) text with ⟨same, _⟩ | ⟨envelope, present, read⟩
  · rw [same]
    exact kept_streamed crypto js peers maxFrameBytes stream peer _ streamed rfl rfl
  · rw [(handle_line_read js _ _ text envelope present read).1]
    rcases open_cases js (stream.nacl crypto) (stream.transport peer).session envelope with
      ⟨error, same⟩ | ⟨plaintext, authenticated, remembers, _⟩
    · rw [same]
      exact kept_streamed crypto js peers maxFrameBytes stream peer _ streamed rfl rfl
    · obtain ⟨known, _⟩ := authenticated_made crypto js peers maxFrameBytes lawful stream streamed peer envelope plaintext
        authenticated
      rw [remembers]
      apply change_streamed crypto js peers maxFrameBytes stream peer _ streamed
      · exact (streamed.inv.keys peer)
      · exact remember_wired crypto peers peer _ _ authenticated.unseen (streamed.wired peer)
      · exact streamed.limit peer
      · intro nonceId seen
        rcases seen_of_remembered _ _ _ seen with rfl | old
        · exact known
        · exact streamed.seen peer nonceId old

theorem next_streamed (lawful : js.Lawful) (stream : Stream) (event : StreamEvent)
    (streamed : Streamed crypto js peers maxFrameBytes stream) (enabled : streamEnabled crypto peers stream event) :
    Streamed crypto js peers maxFrameBytes (stream.next crypto js event) := by
  cases event with
  | start peer =>
      have meets : Meets (fun _ => True) (fun started : EncryptedStdioTransport =>
          started.session = (stream.transport peer).session ∧ started.maxFrameBytes = (stream.transport peer).maxFrameBytes)
          (stream.transport peer).start := by
        apply meets_require _ _ _ _ _ (fun _ => trivial)
        intro _
        apply meets_require _ _ _ _ _ (fun _ => trivial)
        intro _
        exact ⟨rfl, rfl⟩
      unfold Stream.next
      dsimp only
      cases begun : (stream.transport peer).start with
      | error error => exact streamed
      | ok started =>
          obtain ⟨session, limit⟩ := meets_returns _ _ _ started meets begun
          exact kept_streamed crypto js peers maxFrameBytes stream peer started streamed session limit
  | close peer => exact kept_streamed crypto js peers maxFrameBytes stream peer _ streamed rfl rfl
  | send peer nonce message => exact send_streamed crypto js peers maxFrameBytes stream peer nonce message streamed enabled.1
  | line peer text => exact line_streamed crypto js peers maxFrameBytes lawful stream peer text streamed
  | foreignBox box =>
      refine ⟨⟨streamed.inv.keys, fun other member known => ?_⟩, streamed.wired, streamed.limit, ?_, ?_⟩
      · rcases List.mem_append.1 member with old | new
        · exact streamed.inv.made other old known
        · rw [List.mem_singleton.1 new] at known
          exact absurd known enabled
      · exact fun written member => wrote_more crypto js peers maxFrameBytes _ _ written (streamed.lines written member)
      · intro peer nonceId seen
        obtain ⟨known, logged, numbered⟩ := streamed.seen peer nonceId seen
        exact ⟨known, List.mem_append_left _ logged, numbered⟩

theorem start_streamed (first : Stream) (start : streamStart crypto peers maxFrameBytes first) :
    Streamed crypto js peers maxFrameBytes first := by
  obtain ⟨transport, rfl, created⟩ := start
  have limits (peer : Peer) (session : E2eeSession)
      (made : EncryptedStdioTransport.create session maxFrameBytes = .ok (transport peer)) :
      (transport peer).session = session ∧ (transport peer).maxFrameBytes = maxFrameBytes := by
    refine meets_returns (fun _ => True) (fun transport => transport.session = session ∧ transport.maxFrameBytes = maxFrameBytes)
      _ _ ?_ made
    apply meets_require _ _ _ _ _ (fun _ => trivial)
    intro _
    exact ⟨rfl, rfl⟩
  refine ⟨⟨fun peer => ?_, fun box member => (by cases member)⟩, fun peer => ?_, fun peer => ?_,
    fun written member => (by cases member),
    fun peer nonceId seen => ?_⟩
  all_goals
    obtain ⟨replayWindow, session, made, configured⟩ := created peer
    obtain ⟨same, limit⟩ := limits peer session configured
  · change (transport peer).session.sharedKey = _
    rw [same]
    obtain ⟨_, _, begun⟩ := created_session _ _ _ _ _ made
    rw [begun]
    exact peers.agree peer
  · change Wired crypto peers peer (transport peer).session
    rw [same]
    exact created_wired crypto peers _ peer replayWindow _ made
  · exact limit
  · change nonceId ∈ (transport peer).session.seenNonces at seen
    obtain ⟨_, _, begun⟩ := created_session _ _ _ _ _ made
    rw [same, begun] at seen
    cases seen

theorem send_short (stream : Stream) (peer : Peer) (nonce : Bytes) (message : JSONRPCMessage) (envelope : EncryptedEnvelope)
    (line : String)
    (made : (stream.transport peer).session.seal (stream.nacl crypto) js.buffer nonce message.toJson = .ok envelope)
    (written : textOf js envelope.toJson = .ok line) (long : (stream.transport peer).maxFrameBytes < line.utf8ByteSize) :
    ∃ error, (stream.transport peer).send (stream.nacl crypto) js nonce message = .error error := by
  cases sent : (stream.transport peer).send (stream.nacl crypto) js nonce message with
  | error error => exact ⟨error, rfl⟩
  | ok text =>
      obtain ⟨_, sealed, output, same, shown, short, _⟩ := meets_returns _ _ _ text (send_meets js _ _ nonce message) sent
      rw [made] at same
      cases same
      rw [written] at shown
      cases shown
      omega

theorem send_lines (stream : Stream) (peer : Peer) (nonce : Bytes) (message : JSONRPCMessage) :
    (stream.send crypto js peer nonce message).lines = stream.lines ++ stream.written crypto js peer nonce message := by
  unfold Stream.send
  split
  · rfl
  · rename_i shut
    cases sent : (stream.transport peer).send (stream.nacl crypto) js nonce message with
    | error error => rw [written_none crypto js stream peer nonce message error sent, List.append_nil]
    | ok text => exact absurd (meets_returns _ _ _ text (send_meets js _ _ nonce message) sent).1 shut

theorem sent_message (stream : Stream) (peer : Peer) (nonce : Bytes) (message : JSONRPCMessage) (written : WrittenLine)
    (member : written ∈ (stream.send crypto js peer nonce message).lines) :
    written ∈ stream.lines ∨ written.message = message := by
  rw [send_lines] at member
  rcases List.mem_append.1 member with old | new
  · exact .inl old
  · unfold Stream.written at new
    dsimp only at new
    split at new
    · rw [List.mem_singleton.1 new]
      exact .inr rfl
    · cases new

theorem line_lines (stream : Stream) (peer : Peer) (text : String) :
    (stream.next crypto js (.line peer text)).lines = stream.lines := rfl

theorem line_transport (stream : Stream) (peer : Peer) (text : String) :
    (stream.next crypto js (.line peer text)).transport peer =
      ((stream.transport peer).handleLine (stream.nacl crypto) js text).2 :=
  Function.update_self peer _ stream.transport

theorem fresh_unseen (stream : Stream) (peer : Peer) (nonce : Bytes) (streamed : Streamed crypto js peers maxFrameBytes stream)
    (fresh : ∀ box ∈ stream.boxes, box.key = peers.sharedKey crypto → box.nonce ≠ nonce) :
    encodeBase64 nonce ∉ (stream.transport peer).session.seenNonces := by
  intro seen
  obtain ⟨box, logged, key, same⟩ := streamed.seen peer _ seen
  exact fresh box logged key (encode_base64_injective _ _ same)

theorem send_delivers (lawful : js.Lawful) (printing : js.Printing)
    (overhead : ∀ text nonce key, overheadLength ≤ (crypto.box.after text nonce key).length) (stream : Stream)
    (streamed : Streamed crypto js peers maxFrameBytes stream) (peer : Peer) (nonce : Bytes) (message : JSONRPCMessage)
    (text : String) (enabled : streamEnabled crypto peers stream (.send peer nonce message))
    (sent : (stream.transport peer).send (stream.nacl crypto) js nonce message = .ok text) :
    ∃ written, (stream.send crypto js peer nonce message).lines = stream.lines ++ [written] ∧ text = written.line ++ "\n" ∧
      (∀ char ∈ written.line.toList, isLineSeparator char = false) ∧ (written.line.utf8ByteSize : Int) ≤ maxFrameBytes ∧
      (((stream.send crypto js peer nonce message).transport peer.other).handleLine
        ((stream.send crypto js peer nonce message).nacl crypto) js written.line).1 = .onmessage message.toJson := by
  obtain ⟨envelope, line, opened, made, shown, short, ended, single⟩ := written_line crypto js stream peer nonce message text sent
  have after := send_streamed crypto js peers maxFrameBytes stream peer nonce message streamed enabled.1
  obtain ⟨wrote, numbered⟩ := sent_wrote crypto js peers maxFrameBytes stream peer nonce message envelope line streamed
    enabled.1 opened made shown short
  have lines := send_lines crypto js stream peer nonce message
  rw [single] at lines
  refine ⟨⟨peer, message, envelope, line⟩, lines, ended, ?_, wrote.short, ?_⟩
  · apply separator_not_printable
    obtain ⟨bytes, _, shape⟩ := seal_version js _ _ nonce message.toJson envelope made
    apply sealed_printable js printing envelope line wrote.version _ _ _ shown
    all_goals
      rw [shape]
      exact base64_printable _
  · have member : (⟨peer, message, envelope, line⟩ : WrittenLine) ∈ (stream.send crypto js peer nonce message).lines := by
      rw [lines]
      exact List.mem_append_right _ (List.mem_singleton.2 rfl)
    apply written_opens crypto js peers maxFrameBytes lawful overhead _ after _ member
    rw [send_transport]
    change envelope.nonce ∉ _
    rw [numbered]
    exact fresh_unseen crypto js peers maxFrameBytes stream peer.other nonce streamed enabled.2

theorem handled_frame (lawful : js.Lawful) (stream : Stream) (streamed : Streamed crypto js peers maxFrameBytes stream)
    (peer : Peer) (text : String) (message : JsonValue)
    (handled : ((stream.transport peer).handleLine (stream.nacl crypto) js text).1 = .onmessage message) :
    ∃ envelope, (trim text ≠ "" ∧ (stream.transport peer).readLine js text = .ok envelope) ∧
      (∃ plaintext, Authenticated (stream.nacl crypto) (stream.transport peer).session envelope plaintext) ∧
      ((stream.transport peer).handleLine (stream.nacl crypto) js text).2.session =
        (stream.transport peer).session.rememberNonce envelope.nonce ∧
      ∃ made ∈ stream.sealed, made.envelope.nonce = envelope.nonce ∧ made.envelope.ciphertext = envelope.ciphertext ∧
        made.plaintext = message := by
  rcases handle_line_cases js (stream.nacl crypto) (stream.transport peer) text with ⟨_, never⟩ | ⟨envelope, present, read⟩
  · exact absurd handled (never message)
  · obtain ⟨opened, iff⟩ := handle_line_read js (stream.nacl crypto) _ text envelope present read
    obtain ⟨plaintext, authenticated, parsed⟩ := open_accepted js.buffer _ _ envelope message ((iff message).1 handled)
    obtain ⟨_, made, member, nonce, ciphertext, known⟩ := authenticated_made crypto js peers maxFrameBytes lawful stream streamed
      peer envelope plaintext authenticated
    refine ⟨envelope, ⟨present, read⟩, ⟨plaintext, authenticated⟩, ?_, made, member, nonce, ciphertext, ?_⟩
    · rw [opened]
      change ((stream.transport peer).session.open (stream.nacl crypto) js.buffer envelope).2 = _
      rw [open_session, (authenticate_iff _ _ _ plaintext (streamed.wired peer).sized).2 authenticated]
    · exact Option.some.inj (known.symm.trans parsed)

theorem streamed_end_to_end (lawful : js.Lawful) (printing : js.Printing)
    (overhead : ∀ text nonce key, overheadLength ≤ (crypto.box.after text nonce key).length) (stream : Stream)
    (streamed : Streamed crypto js peers maxFrameBytes stream) : EndToEnd crypto js peers maxFrameBytes stream where
  writes := send_delivers crypto js peers maxFrameBytes lawful printing overhead stream streamed
  delivers := written_opens crypto js peers maxFrameBytes lawful overhead stream streamed
  refuses peer nonce message error refused := by
    rw [send_lines, written_none crypto js stream peer nonce message error refused, List.append_nil]
  tooLong peer nonce message envelope line made written long :=
    send_short crypto js stream peer nonce message envelope line made written (streamed.limit peer ▸ long)
  others peer text message elsewhere handled := by
    obtain ⟨envelope, ⟨_, read⟩, ⟨plaintext, authenticated⟩, _, made, present, nonce, ciphertext, same⟩ :=
      handled_frame crypto js peers maxFrameBytes lawful stream streamed peer text message handled
    have others := made_by_other _ stream.sealed peer (stream.transport peer).session envelope plaintext authenticated
      (elsewhere envelope read) made present nonce ciphertext
    exact ⟨envelope, read, authenticated.unseen, made, present, others, nonce, ciphertext, same⟩
  once peer text message again handled := by
    obtain ⟨envelope, ⟨present, read⟩, ⟨_, first⟩, remembered, _⟩ := handled_frame crypto js peers maxFrameBytes lawful stream
      streamed peer text message handled
    intro repeated
    have opened := (handle_line_read js (stream.nacl crypto) _ text envelope present read).1
    rw [opened] at repeated remembered
    dsimp only at remembered
    have later := handle_line_read js (stream.nacl crypto) { stream.transport peer with
      session := ((stream.transport peer).session.open (stream.nacl crypto) js.buffer envelope).2 } text envelope present read
    have accepted := (later.2 again).1 repeated
    obtain ⟨plaintext, authenticated, _⟩ := open_accepted js.buffer _ _ envelope again accepted
    apply authenticated.unseen
    change envelope.nonce ∈ ((stream.transport peer).session.open (stream.nacl crypto) js.buffer envelope).2.seenNonces
    rw [remembered]
    exact remember_nonce_seen crypto peers peer _ _ first.unseen (streamed.wired peer)
  undisturbed peer text never := by
    rcases handle_line_cases js (stream.nacl crypto) (stream.transport peer) text with ⟨same, _⟩ | ⟨envelope, present, read⟩
    · exact same
    · obtain ⟨opened, iff⟩ := handle_line_read js (stream.nacl crypto) _ text envelope present read
      rw [opened]
      rcases open_cases js (stream.nacl crypto) (stream.transport peer).session envelope with
        ⟨error, same⟩ | ⟨plaintext, authenticated, _, result⟩
      · rw [same]
      · obtain ⟨_, made, _, _, _, parsed⟩ := authenticated_made crypto js peers maxFrameBytes lawful stream streamed peer envelope
          plaintext authenticated
        rw [parsed] at result
        cases accepted : ((stream.transport peer).session.open (stream.nacl crypto) js.buffer envelope).1 with
        | error error =>
            rw [accepted] at result
            cases result
        | ok value => exact absurd ((iff value).2 accepted) (never value)

theorem reached_streamed (lawful : js.Lawful) (stream : Stream)
    (reached : Transition.Reach (streamMachine crypto js peers maxFrameBytes) Transition.unrestricted stream) :
    Streamed crypto js peers maxFrameBytes stream := by
  apply Transition.reach_invariant (streamMachine crypto js peers maxFrameBytes) Transition.unrestricted
    (Streamed crypto js peers maxFrameBytes) _ _ stream reached
  · exact fun first start => start_streamed crypto js peers maxFrameBytes first start
  · intro before after event held enabled _ done
    cases done
    exact next_streamed crypto js peers maxFrameBytes lawful before event held enabled

theorem end_to_end (lawful : js.Lawful) (printing : js.Printing)
    (overhead : ∀ text nonce key, overheadLength ≤ (crypto.box.after text nonce key).length) (stream : Stream)
    (reached : Transition.Reach (streamMachine crypto js peers maxFrameBytes) Transition.unrestricted stream) :
    EndToEnd crypto js peers maxFrameBytes stream :=
  streamed_end_to_end crypto js peers maxFrameBytes lawful printing overhead stream
    (reached_streamed crypto js peers maxFrameBytes lawful stream reached)

end Stream

-- The peer b writes one message twice, and the cache of the peer a has room for one nonce.
section Evicted

def pingMessage : JSONRPCMessage := .notification "ping" none

def pingText : String := "\x7b\"jsonrpc\":\"2.0\",\"method\":\"ping\"\x7d"

def pingNonce (number : UInt8) : Bytes := List.replicate 24 number

def pingEnvelope (number : UInt8) : EncryptedEnvelope where
  v := .one
  senderPublicKey := encodeBase64 (plainKeyPair .b).publicKey
  nonce := encodeBase64 (pingNonce number)
  ciphertext := encodeBase64 (List.replicate overheadLength 0 ++ utf8 pingText)

def pingLine (number : UInt8) : String :=
  "\x7b\"v\":1,\"senderPublicKey\":\"" ++ (pingEnvelope number).senderPublicKey ++ "\",\"nonce\":\"" ++
    (pingEnvelope number).nonce ++ "\",\"ciphertext\":\"" ++ (pingEnvelope number).ciphertext ++ "\"\x7d"

def pingNumber (senderPublicKey nonce ciphertext : String) : Option UInt8 :=
  [0, 1].find? (fun number => senderPublicKey = (pingEnvelope number).senderPublicKey ∧
    nonce = (pingEnvelope number).nonce ∧ ciphertext = (pingEnvelope number).ciphertext)

def pingJson : JavaScriptJson where
  stringify
    | .object [("jsonrpc", .string "2.0"), ("method", .string "ping")] => some pingText
    | .object [("v", .number "1"), ("senderPublicKey", .string senderPublicKey), ("nonce", .string nonce),
        ("ciphertext", .string ciphertext)] => (pingNumber senderPublicKey nonce ciphertext).map pingLine
    | _ => none
  parse text :=
    if text = pingText then .ok pingMessage.toJson
    else if text = pingLine 0 then .ok (pingEnvelope 0).toJson
    else if text = pingLine 1 then .ok (pingEnvelope 1).toJson
    else .error "Unexpected token"

theorem ping_lines_differ : pingLine 0 ≠ pingText ∧ pingLine 1 ≠ pingText ∧ pingLine 1 ≠ pingLine 0 := by
  decide

theorem ping_json_parse (text : String) : pingJson.parse text =
    if text = pingText then .ok pingMessage.toJson
    else if text = pingLine 0 then .ok (pingEnvelope 0).toJson
    else if text = pingLine 1 then .ok (pingEnvelope 1).toJson
    else .error "Unexpected token" := rfl

theorem ping_number_cases (senderPublicKey nonce ciphertext : String) (number : UInt8)
    (found : pingNumber senderPublicKey nonce ciphertext = some number) : (number = 0 ∨ number = 1) ∧
      senderPublicKey = (pingEnvelope number).senderPublicKey ∧ nonce = (pingEnvelope number).nonce ∧
      ciphertext = (pingEnvelope number).ciphertext := by
  constructor
  · simpa only [List.mem_cons, List.not_mem_nil, or_false] using List.mem_of_find?_eq_some found
  · have shown := List.find?_some found
    exact of_decide_eq_true shown

theorem ping_json_cases (value : JsonValue) (text : String) (written : pingJson.stringify value = some text) :
    value = pingMessage.toJson ∧ text = pingText ∨
      ∃ number, (number = 0 ∨ number = 1) ∧ value = (pingEnvelope number).toJson ∧ text = pingLine number := by
  simp only [pingJson] at written
  split at written
  · exact .inl ⟨rfl, (Option.some.inj written).symm⟩
  · rename_i senderPublicKey nonce ciphertext
    obtain ⟨number, found, shown⟩ := Option.map_eq_some_iff.1 written
    obtain ⟨known, rfl, rfl, rfl⟩ := ping_number_cases _ _ _ number found
    exact .inr ⟨number, known, rfl, shown.symm⟩
  · cases written

theorem ping_parse_line (number : UInt8) (known : number = 0 ∨ number = 1) :
    pingJson.parse (pingLine number) = .ok (pingEnvelope number).toJson := by
  obtain ⟨first, second, last⟩ := ping_lines_differ
  rcases known with rfl | rfl
  · rw [ping_json_parse, if_neg first, if_pos rfl]
  · rw [ping_json_parse, if_neg second, if_neg last, if_pos rfl]

theorem ping_json_lawful : pingJson.Lawful where
  roundTrip value text written := by
    rcases ping_json_cases value text written with ⟨rfl, rfl⟩ | ⟨number, known, rfl, rfl⟩
    · rw [ping_json_parse, if_pos rfl]
    · exact ping_parse_line number known
  object fields text written := by
    rcases ping_json_cases _ text written with ⟨_, rfl⟩ | ⟨number, _, _, rfl⟩
    · exact ⟨rfl, rfl⟩
    · unfold pingLine
      refine ⟨?_, last_of_append _ _ _ (by decide)⟩
      iterate 6 apply head_of_append
      decide

theorem printable_append (first last : String) (one : printable first) (two : printable last) : printable (first ++ last) := by
  intro char member
  rw [String.toList_append] at member
  rcases List.mem_append.1 member with left | right
  · exact one char left
  · exact two char right

theorem ping_line_printable (number : UInt8) : printable (pingLine number) := by
  have version : printable "\x7b\"v\":1,\"senderPublicKey\":\"" := by simp [printable]
  have nonce : printable "\",\"nonce\":\"" := by simp [printable]
  have ciphertext : printable "\",\"ciphertext\":\"" := by simp [printable]
  have last : printable "\"\x7d" := by simp [printable]
  have key := printable_append _ _ version (base64_printable (plainKeyPair .b).publicKey)
  have numbered := printable_append _ _ (printable_append _ _ key nonce) (base64_printable (pingNonce number))
  have box := printable_append _ _ (printable_append _ _ numbered ciphertext)
    (base64_printable (List.replicate overheadLength 0 ++ utf8 pingText))
  exact printable_append _ _ box last

theorem ping_json_printing : pingJson.Printing := by
  intro fields text written _
  rcases ping_json_cases _ text written with ⟨_, rfl⟩ | ⟨number, _, _, rfl⟩
  · simp [printable, pingText]
  · exact ping_line_printable number

def pingTransport (peer : Peer) : EncryptedStdioTransport where
  session := { plainSession peer with replayWindow := 1 }
  maxFrameBytes := 1024

def pingStart : Stream := { transport := pingTransport }

theorem ping_started : streamStart plainCrypto plainPeers 1024 pingStart := by
  refine ⟨pingTransport, rfl, fun peer => ⟨1, { plainSession peer with replayWindow := 1 }, ?_, ?_⟩⟩
  · cases peer <;> rfl
  · rfl

def pingOpened : Stream := pingStart.next plainCrypto pingJson (.start .b)

def pingFirst : Stream := pingOpened.send plainCrypto pingJson .b (pingNonce 0) pingMessage

def pingWritten : Stream := pingFirst.send plainCrypto pingJson .b (pingNonce 1) pingMessage

def pingDelivered : Stream :=
  (pingWritten.next plainCrypto pingJson (.line .a (pingLine 0))).next plainCrypto pingJson (.line .a (pingLine 1))

theorem ping_text_of (number : UInt8) (known : number = 0 ∨ number = 1) :
    textOf pingJson (pingEnvelope number).toJson = .ok (pingLine number) ∧ (pingLine number).utf8ByteSize ≤ 1024 := by
  rcases known with rfl | rfl <;> decide +kernel

theorem ping_sends (stream : Stream) (same : stream.transport .b = pingOpened.transport .b) (number : UInt8)
    (known : number = 0 ∨ number = 1) :
    stream.written plainCrypto pingJson .b (pingNonce number) pingMessage =
      [⟨.b, pingMessage, pingEnvelope number, pingLine number⟩] := by
  obtain ⟨text, short⟩ := ping_text_of number known
  have made : (stream.transport .b).session.seal (stream.nacl plainCrypto) pingJson.buffer (pingNonce number) pingMessage.toJson =
      .ok (pingEnvelope number) := by
    rw [same]
    exact seal_ok pingJson.buffer _ _ (pingNonce number) (utf8 pingText) _ rfl
  have sent : (stream.transport .b).send (stream.nacl plainCrypto) pingJson (pingNonce number) pingMessage =
      .ok (pingLine number ++ "\n") := by
    have fits : ((pingLine number).utf8ByteSize : Int) ≤ (stream.transport .b).maxFrameBytes := by
      rw [same]
      exact Int.ofNat_le.2 short
    rw [EncryptedStdioTransport.send, require_true _ _ (by rw [same]; rfl), ok_bind,
      transport_send_line _ _ _ _ _ _ _ _ made text, if_pos fits]
    rfl
  simp only [Stream.written, sent, made, drop_line_feed]

theorem ping_written : pingWritten.lines.map (fun written => (written.peer, written.envelope, written.line)) =
    [(.b, pingEnvelope 0, pingLine 0), (.b, pingEnvelope 1, pingLine 1)] := by
  have first : pingFirst.transport .b = pingOpened.transport .b :=
    congrFun (send_transport plainCrypto pingJson pingOpened .b _ _) .b
  rw [pingWritten, send_lines, ping_sends pingFirst first 1 (.inr rfl), pingFirst, send_lines,
    ping_sends pingOpened rfl 0 (.inl rfl)]
  rfl

abbrev pingMachine : Transition.Machine Stream StreamEvent Empty := streamMachine plainCrypto pingJson plainPeers 1024

theorem ping_next (stream : Stream) (event : StreamEvent) (reached : Transition.Reach pingMachine Transition.unrestricted stream)
    (enabled : streamEnabled plainCrypto plainPeers stream event) :
    Transition.Reach pingMachine Transition.unrestricted (stream.next plainCrypto pingJson event) :=
  .next stream _ event reached enabled trivial rfl

theorem ping_reached : Transition.Reach pingMachine Transition.unrestricted pingWritten := by
  have opened : Transition.Reach pingMachine Transition.unrestricted pingOpened :=
    ping_next pingStart (.start .b) (.start pingStart ping_started) trivial
  have first : Transition.Reach pingMachine Transition.unrestricted pingFirst :=
    ping_next pingOpened (.send .b (pingNonce 0) pingMessage) opened ⟨rfl, by decide +kernel⟩
  exact ping_next pingFirst (.send .b (pingNonce 1) pingMessage) first ⟨rfl, by decide +kernel⟩

theorem ping_end_to_end : pingWritten.lines.map WrittenLine.line = [pingLine 0, pingLine 1] ∧
    EndToEnd plainCrypto pingJson plainPeers 1024 pingWritten := by
  refine ⟨?_, end_to_end plainCrypto pingJson plainPeers 1024 ping_json_lawful ping_json_printing hi_overhead pingWritten
    ping_reached⟩
  have lines := congrArg (List.map (fun written : Peer × EncryptedEnvelope × String => written.2.2)) ping_written
  rwa [List.map_map] at lines

theorem ping_messages (written : WrittenLine) (member : written ∈ pingWritten.lines) : written.message = pingMessage := by
  rw [pingWritten] at member
  rcases sent_message plainCrypto pingJson pingFirst .b (pingNonce 1) pingMessage written member with old | same
  · rw [pingFirst] at old
    rcases sent_message plainCrypto pingJson pingOpened .b (pingNonce 0) pingMessage written old with older | same
    · rw [pingOpened] at older
      cases older
    · exact same
  · exact same

theorem ping_line_of (stream : Stream) (same : stream.lines = pingWritten.lines) (number : UInt8)
    (known : number = 0 ∨ number = 1) : ∃ written ∈ stream.lines, written.peer = .b ∧ written.message = pingMessage ∧
      written.envelope = pingEnvelope number ∧ written.line = pingLine number := by
  have member : (.b, pingEnvelope number, pingLine number) ∈
      pingWritten.lines.map (fun written => (written.peer, written.envelope, written.line)) := by
    rw [ping_written]
    rcases known with rfl | rfl
    · exact List.mem_cons_self
    · exact List.mem_cons_of_mem _ List.mem_cons_self
  obtain ⟨written, present, shape⟩ := List.mem_map.1 member
  obtain ⟨peer, envelope, line⟩ : written.peer = .b ∧ written.envelope = pingEnvelope number ∧
    written.line = pingLine number := by
    simpa only [Prod.mk.injEq] using shape
  refine ⟨written, ?_, peer, ping_messages written present, envelope, line⟩
  rw [same]
  exact present

theorem ping_opens (stream : Stream) (reached : Transition.Reach pingMachine Transition.unrestricted stream)
    (same : stream.lines = pingWritten.lines) (number : UInt8) (known : number = 0 ∨ number = 1)
    (unseen : (pingEnvelope number).nonce ∉ (stream.transport .a).session.seenNonces) :
    ((stream.transport .a).handleLine (stream.nacl plainCrypto) pingJson (pingLine number)).1 =
      .onmessage pingMessage.toJson := by
  obtain ⟨written, present, peer, message, envelope, line⟩ := ping_line_of stream same number known
  have opens := written_opens plainCrypto pingJson plainPeers 1024 ping_json_lawful hi_overhead stream
    (reached_streamed plainCrypto pingJson plainPeers 1024 ping_json_lawful stream reached) written present
  rw [peer, message, envelope, line] at opens
  exact opens unseen

theorem ping_remembered (stream : Stream) (reached : Transition.Reach pingMachine Transition.unrestricted stream)
    (same : stream.lines = pingWritten.lines) (number : UInt8) (known : number = 0 ∨ number = 1)
    (unseen : (pingEnvelope number).nonce ∉ (stream.transport .a).session.seenNonces) :
    ((stream.next plainCrypto pingJson (.line .a (pingLine number))).transport .a).session =
      (stream.transport .a).session.rememberNonce (pingEnvelope number).nonce := by
  have streamed := reached_streamed plainCrypto pingJson plainPeers 1024 ping_json_lawful stream reached
  obtain ⟨written, present, _, _, envelope, line⟩ := ping_line_of stream same number known
  obtain ⟨shown, read⟩ := read_written plainCrypto pingJson plainPeers 1024 ping_json_lawful stream.boxes written
    (streamed.lines written present) (stream.transport .a) (streamed.limit .a)
  rw [line] at shown read
  rw [envelope] at read
  obtain ⟨moved, accepts⟩ := handle_line_read pingJson (stream.nacl plainCrypto) (stream.transport .a) (pingLine number)
    (pingEnvelope number) shown read
  obtain ⟨plaintext, authenticated, _⟩ := open_accepted pingJson.buffer _ _ _ _
    ((accepts _).1 (ping_opens stream reached same number known unseen))
  have authentic := (authenticate_iff (stream.nacl plainCrypto) (stream.transport .a).session (pingEnvelope number) plaintext
    (streamed.wired .a).sized).2 authenticated
  rw [line_transport, moved, open_session, authentic]

theorem evicted_frame_replayed : ∃ (stream : Stream) (first second : String) (message : JsonValue),
    Transition.Reach pingMachine Transition.unrestricted stream ∧
      ((stream.transport .a).handleLine (stream.nacl plainCrypto) pingJson first).1 = .onmessage message ∧
      ((((stream.next plainCrypto pingJson (.line .a first)).next plainCrypto pingJson (.line .a second)).transport
        .a).handleLine (((stream.next plainCrypto pingJson (.line .a first)).next plainCrypto pingJson
          (.line .a second)).nacl plainCrypto) pingJson first).1 = .onmessage message := by
  have unseen : (pingWritten.transport .a).session.seenNonces = [] := by
    rw [pingWritten, send_transport, pingFirst, send_transport]
    rfl
  refine ⟨pingWritten, pingLine 0, pingLine 1, pingMessage.toJson, ping_reached, ?_, ?_⟩
  · exact ping_opens pingWritten ping_reached rfl 0 (.inl rfl) (by rw [unseen]; exact List.not_mem_nil)
  · have once := ping_next pingWritten (.line .a (pingLine 0)) ping_reached trivial
    have delivered : Transition.Reach pingMachine Transition.unrestricted pingDelivered :=
      ping_next _ (.line .a (pingLine 1)) once trivial
    have lines : pingDelivered.lines = pingWritten.lines := by rw [pingDelivered, line_lines, line_lines]
    have first := ping_remembered pingWritten ping_reached rfl 0 (.inl rfl) (by rw [unseen]; exact List.not_mem_nil)
    have second := ping_remembered _ once (line_lines plainCrypto pingJson pingWritten .a _) 1 (.inr rfl)
      (by rw [first, pingWritten, send_transport, pingFirst, send_transport]; decide +kernel)
    have evicted : (pingEnvelope 0).nonce ∉ (pingDelivered.transport .a).session.seenNonces := by
      rw [pingDelivered, second, first, pingWritten, send_transport, pingFirst, send_transport]
      decide +kernel
    have opens := ping_opens pingDelivered delivered lines 0 (.inl rfl) evicted
    rwa [pingDelivered] at opens

end Evicted

end TelegramBotApi.E2ee
