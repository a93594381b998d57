import TelegramBotApi.E2ee
import TelegramBotApi.Lib.IdealBox
import TelegramBotApi.Lib.Transition

set_option autoImplicit false

namespace TelegramBotApi.E2ee

open Checked

-- nacl.box with ideal authenticated encryption.
structure Crypto where
  before : Bytes → Bytes → Bytes
  box : IdealBox.Scheme Bytes Bytes Bytes Bytes

inductive Peer where
  | a
  | b
deriving DecidableEq

def Peer.other : Peer → Peer
  | .a => .b
  | .b => .a

structure Peers (crypto : Crypto) where
  keyPair : Peer → KeyPair
  agree : ∀ peer, crypto.before (keyPair peer.other).publicKey (keyPair peer).secretKey =
    crypto.before (keyPair .b).publicKey (keyPair .a).secretKey

-- History of what the sessions sealed and of what they accepted.
structure Sealed (Value : Type) where
  peer : Peer
  plaintext : Value
  envelope : EncryptedEnvelope

structure Receipt (Value : Type) where
  peer : Peer
  envelope : EncryptedEnvelope
  payload : Value

structure Channel (Value : Type) where
  session : Peer → E2eeSession
  boxes : List (IdealBox.Box Bytes Bytes Bytes) := []
  sealed : List (Sealed Value) := []
  receipts : List (Receipt Value) := []

inductive Event (Value : Type) where
  | send (peer : Peer) (nonce : Bytes) (plaintext : Value)
  | deliver (peer : Peer) (envelope : EncryptedEnvelope)
  -- boxes made by anyone who does not hold the key of the two peers
  | foreignBox (box : IdealBox.Box Bytes Bytes Bytes)

section Channel

variable {Value : Type} (crypto : Crypto) (json : JsonText Value) (peers : Peers crypto)

def naclAfter (boxes : List (IdealBox.Box Bytes Bytes Bytes)) : NaclBox where
  before := crypto.before
  after := crypto.box.after
  openAfter := crypto.box.openAfter boxes

def Peers.sharedKey : Bytes := crypto.before (peers.keyPair .b).publicKey (peers.keyPair .a).secretKey

def Channel.seal (channel : Channel Value) (peer : Peer) (nonce : Bytes) (plaintext : Value) : Channel Value :=
  let session := channel.session peer
  match messageOf json plaintext, session.seal (naclAfter crypto channel.boxes) json nonce plaintext with
  | .ok message, .ok envelope => { channel with
      boxes := channel.boxes ++ [⟨session.sharedKey, nonce, message⟩]
      sealed := channel.sealed ++ [⟨peer, plaintext, envelope⟩] }
  | _, _ => channel

def Channel.deliver (channel : Channel Value) (peer : Peer) (envelope : EncryptedEnvelope) : Channel Value :=
  let (result, session) := (channel.session peer).open (naclAfter crypto channel.boxes) json envelope
  let opened := { channel with session := Function.update channel.session peer session }
  match result with
  | .ok payload => { opened with receipts := channel.receipts ++ [⟨peer, envelope, payload⟩] }
  | .error _ => opened

def channelStep (channel : Channel Value) : Event Value → Except Empty (Channel Value)
  | .send peer nonce plaintext => .ok (channel.seal crypto json peer nonce plaintext)
  | .deliver peer envelope => .ok (channel.deliver crypto json peer envelope)
  | .foreignBox box => .ok { channel with boxes := channel.boxes ++ [box] }

def channelEnabled (_ : Channel Value) : Event Value → Prop
  | .send _ nonce _ => nonce.length = nonceLength
  | .deliver _ _ => True
  | .foreignBox box => box.key ≠ peers.sharedKey crypto

def channelStart (channel : Channel Value) : Prop :=
  ∃ session, channel = { session } ∧ ∀ peer, ∃ replayWindow, E2eeSession.create (naclAfter crypto []) (peers.keyPair peer)
    (peers.keyPair peer.other).publicKey replayWindow = .ok (session peer)

def channelMachine : Transition.Machine (Channel Value) (Event Value) Empty where
  start := channelStart crypto peers
  enabled := channelEnabled crypto peers
  step := channelStep crypto json

-- The frame is one the other peer's session made, up to the sender it names,
-- and it carries the plaintext that was sealed into it.
def Authentic (sealed : List (Sealed Value)) (receipt : Receipt Value) : Prop :=
  ∃ made ∈ sealed, made.peer = receipt.peer.other ∧ made.envelope.nonce = receipt.envelope.nonce ∧
    made.envelope.ciphertext = receipt.envelope.ciphertext ∧
    ∃ message, json.stringify made.plaintext = some message ∧ json.parse message = some receipt.payload

-- A frame of the session itself that names the peer as its sender and whose nonce
-- the session has not accepted.
structure Reflected (sealed : List (Sealed Value)) (peer : Peer) (session : E2eeSession)
    (envelope : EncryptedEnvelope) : Prop where
  version : envelope.v = .one
  sender : envelope.senderPublicKey = encodeBase64 session.remotePublicKey
  unseen : envelope.nonce ∉ session.seenNonces
  own : ∃ made ∈ sealed, made.peer = peer ∧ made.envelope.nonce = envelope.nonce ∧
    made.envelope.ciphertext = envelope.ciphertext

def unreflected : Transition.Condition (Channel Value) (Event Value) := fun channel event =>
  match event with
  | .deliver peer envelope => ¬ Reflected channel.sealed peer (channel.session peer) envelope
  | _ => True

structure Inv (channel : Channel Value) : Prop where
  keys : ∀ peer, (channel.session peer).sharedKey = peers.sharedKey crypto
  made : ∀ box ∈ channel.boxes, box.key = peers.sharedKey crypto → ∃ made ∈ channel.sealed,
    made.envelope.nonce = encodeBase64 box.nonce ∧
    made.envelope.ciphertext = encodeBase64 (crypto.box.after box.text box.nonce box.key) ∧
    json.stringify made.plaintext = some box.text

theorem message_of_ok (plaintext : Value) (message : Bytes) (done : messageOf json plaintext = .ok message) :
    json.stringify plaintext = some message := by
  unfold messageOf at done
  split at done
  · rename_i text stringified
    cases done
    exact stringified
  · cases done

theorem seal_ok (nacl : NaclBox) (session : E2eeSession) (nonce message : Bytes) (plaintext : Value)
    (stringified : messageOf json plaintext = .ok message) :
    session.seal nacl json nonce plaintext = .ok
      { v := .one
        senderPublicKey := encodeBase64 session.localKeyPair.publicKey
        nonce := encodeBase64 nonce
        ciphertext := encodeBase64 (nacl.after message nonce session.sharedKey) } := by
  rw [E2eeSession.seal, stringified]
  rfl

theorem seal_inv (channel : Channel Value) (peer : Peer) (nonce : Bytes) (plaintext : Value)
    (inv : Inv crypto json peers channel) : Inv crypto json peers (channel.seal crypto json peer nonce plaintext) := by
  unfold Channel.seal
  cases stringified : messageOf json plaintext with
  | error error => exact inv
  | ok message =>
      dsimp only
      rw [seal_ok json _ (channel.session peer) nonce message plaintext stringified]
      refine ⟨inv.keys, fun box member known => ?_⟩
      rcases List.mem_append.1 member with old | new
      · obtain ⟨made, present, rest⟩ := inv.made box old known
        exact ⟨made, List.mem_append_left _ present, rest⟩
      · have same := List.mem_singleton.1 new
        subst same
        exact ⟨_, List.mem_append_right _ (List.mem_singleton.2 rfl), rfl, rfl, message_of_ok json plaintext message stringified⟩

theorem open_keeps_key (nacl : NaclBox) (session : E2eeSession) (envelope : EncryptedEnvelope) :
    (session.open nacl json envelope).2.sharedKey = session.sharedKey := by
  unfold E2eeSession.open
  split
  · rfl
  · split <;> rfl

theorem open_accepted (nacl : NaclBox) (session : E2eeSession) (envelope : EncryptedEnvelope) (payload : Value)
    (accepted : (session.open nacl json envelope).1 = .ok payload) :
    ∃ plaintext, Authenticated nacl session envelope plaintext ∧ json.parse plaintext = some payload := by
  have authenticates := authenticate_meets nacl session envelope
  unfold E2eeSession.open at accepted
  cases authenticated : session.authenticate nacl envelope with
  | error error =>
      rw [authenticated] at accepted
      cases accepted
  | ok plaintext =>
      rw [authenticated] at accepted authenticates
      cases parsed : json.parse plaintext with
      | none =>
          simp only [parsed] at accepted
          cases accepted
      | some value =>
          simp only [parsed] at accepted
          cases accepted
          exact ⟨plaintext, authenticates, parsed⟩

theorem deliver_inv (channel : Channel Value) (peer : Peer) (envelope : EncryptedEnvelope)
    (inv : Inv crypto json peers channel) : Inv crypto json peers (channel.deliver crypto json peer envelope) := by
  have kept := open_keeps_key json (naclAfter crypto channel.boxes) (channel.session peer) envelope
  unfold Channel.deliver
  generalize (channel.session peer).open (naclAfter crypto channel.boxes) json envelope = outcome at kept
  obtain ⟨result, session⟩ := outcome
  have keys (owner : Peer) : (Function.update channel.session peer session owner).sharedKey = peers.sharedKey crypto := by
    by_cases same : owner = peer
    · subst same
      rw [Function.update_self]
      exact kept.trans (inv.keys owner)
    · rw [Function.update_of_ne same]
      exact inv.keys owner
  cases result with
  | error error => exact ⟨keys, inv.made⟩
  | ok payload => exact ⟨keys, inv.made⟩

theorem made_by_other (nacl : NaclBox) (sealed : List (Sealed Value)) (peer : Peer) (session : E2eeSession)
    (envelope : EncryptedEnvelope) (plaintext : Bytes) (authenticated : Authenticated nacl session envelope plaintext)
    (elsewhere : ¬ Reflected sealed peer session envelope) (made : Sealed Value) (present : made ∈ sealed)
    (nonce : made.envelope.nonce = envelope.nonce) (ciphertext : made.envelope.ciphertext = envelope.ciphertext) :
    made.peer = peer.other := by
  have notOwn : made.peer ≠ peer := fun own =>
    elsewhere ⟨authenticated.version, authenticated.sender, authenticated.unseen, made, present, own, nonce, ciphertext⟩
  revert notOwn
  generalize made.peer = sealer
  cases peer <;> cases sealer <;> simp [Peer.other]

theorem accepted_authentic (channel : Channel Value) (peer : Peer) (envelope : EncryptedEnvelope) (payload : Value)
    (inv : Inv crypto json peers channel) (elsewhere : unreflected channel (.deliver peer envelope))
    (accepted : ((channel.session peer).open (naclAfter crypto channel.boxes) json envelope).1 = .ok payload) :
    Authentic json channel.sealed ⟨peer, envelope, payload⟩ := by
  obtain ⟨plaintext, authenticated, parsed⟩ := open_accepted json _ _ envelope payload accepted
  obtain ⟨nonce, ciphertext, numbered, encrypted, _, _, opened⟩ := authenticated.box
  obtain ⟨logged, produced⟩ := (IdealBox.open_after_iff crypto.box channel.boxes ciphertext nonce _ plaintext).1 opened
  obtain ⟨made, present, sameNonce, sameCiphertext, stringified⟩ := inv.made _ logged (inv.keys peer)
  have nonceText := sameNonce.trans numbered.symm
  have ciphertextText : made.envelope.ciphertext = envelope.ciphertext := by
    rw [sameCiphertext, encrypted]
    exact congrArg encodeBase64 produced
  have others := made_by_other _ channel.sealed peer (channel.session peer) envelope plaintext authenticated elsewhere made
    present nonceText ciphertextText
  exact ⟨made, present, others, nonceText, ciphertextText, plaintext, stringified, parsed⟩

theorem authentic_append (sealed added : List (Sealed Value)) (receipt : Receipt Value)
    (authentic : Authentic json sealed receipt) : Authentic json (sealed ++ added) receipt := by
  obtain ⟨made, present, rest⟩ := authentic
  exact ⟨made, List.mem_append_left added present, rest⟩

theorem seal_receipts (channel : Channel Value) (peer : Peer) (nonce : Bytes) (plaintext : Value) :
    (channel.seal crypto json peer nonce plaintext).receipts = channel.receipts ∧
      ∃ added, (channel.seal crypto json peer nonce plaintext).sealed = channel.sealed ++ added := by
  unfold Channel.seal
  dsimp only
  split
  · exact ⟨rfl, _, rfl⟩
  · exact ⟨rfl, [], (List.append_nil _).symm⟩

theorem deliver_receipts (channel : Channel Value) (peer : Peer) (envelope : EncryptedEnvelope) (receipt : Receipt Value)
    (member : receipt ∈ (channel.deliver crypto json peer envelope).receipts) :
    receipt ∈ channel.receipts ∨ ∃ payload, receipt = ⟨peer, envelope, payload⟩ ∧
      ((channel.session peer).open (naclAfter crypto channel.boxes) json envelope).1 = .ok payload := by
  unfold Channel.deliver at member
  generalize (channel.session peer).open (naclAfter crypto channel.boxes) json envelope = outcome at member
  obtain ⟨result, session⟩ := outcome
  cases result with
  | error error => exact .inl member
  | ok payload =>
      rcases List.mem_append.1 member with old | new
      · exact .inl old
      · exact .inr ⟨payload, List.mem_singleton.1 new, rfl⟩

theorem deliver_accepted (channel : Channel Value) (peer : Peer) (envelope : EncryptedEnvelope) (payload : Value)
    (accepted : ((channel.session peer).open (naclAfter crypto channel.boxes) json envelope).1 = .ok payload) :
    (channel.deliver crypto json peer envelope).receipts = channel.receipts ++ [⟨peer, envelope, payload⟩] := by
  unfold Channel.deliver
  generalize (channel.session peer).open (naclAfter crypto channel.boxes) json envelope = outcome at accepted
  obtain ⟨result, session⟩ := outcome
  dsimp only at accepted ⊢
  rw [accepted]

theorem deliver_sealed (channel : Channel Value) (peer : Peer) (envelope : EncryptedEnvelope) :
    (channel.deliver crypto json peer envelope).sealed = channel.sealed := by
  unfold Channel.deliver
  generalize (channel.session peer).open (naclAfter crypto channel.boxes) json envelope = outcome
  obtain ⟨result, session⟩ := outcome
  cases result <;> rfl

def AllAuthentic (channel : Channel Value) : Prop :=
  ∀ receipt, receipt ∈ channel.receipts → Authentic json channel.sealed receipt

theorem channel_step_authentic (channel after : Channel Value) (event : Event Value) (inv : Inv crypto json peers channel)
    (authentic : AllAuthentic json channel) (enables : channelEnabled crypto peers channel event)
    (elsewhere : unreflected channel event) (done : channelStep crypto json channel event = .ok after) :
    Inv crypto json peers after ∧ AllAuthentic json after := by
  cases event with
  | send peer nonce plaintext =>
      cases done
      obtain ⟨sameReceipts, added, sameSealed⟩ := seal_receipts crypto json channel peer nonce plaintext
      refine ⟨seal_inv crypto json peers channel peer nonce plaintext inv, fun receipt member => ?_⟩
      rw [sameReceipts] at member
      rw [sameSealed]
      exact authentic_append json _ added receipt (authentic receipt member)
  | deliver peer envelope =>
      cases done
      refine ⟨deliver_inv crypto json peers channel peer envelope inv, fun receipt member => ?_⟩
      rw [deliver_sealed]
      rcases deliver_receipts crypto json channel peer envelope receipt member with old | ⟨payload, rfl, accepted⟩
      · exact authentic receipt old
      · exact accepted_authentic crypto json peers channel peer envelope payload inv elsewhere accepted
  | foreignBox box =>
      cases done
      refine ⟨⟨inv.keys, fun other member known => ?_⟩, authentic⟩
      rcases List.mem_append.1 member with old | new
      · exact inv.made other old known
      · rw [List.mem_singleton.1 new] at known
        exact absurd known enables

theorem created_session (nacl : NaclBox) (localKeyPair : KeyPair) (remotePublicKey : Bytes) (replayWindow : Int)
    (session : E2eeSession) (created : E2eeSession.create nacl localKeyPair remotePublicKey replayWindow = .ok session) :
    remotePublicKey.length = publicKeyLength ∧ 1 ≤ replayWindow ∧ session =
      { localKeyPair, remotePublicKey, replayWindow
        sharedKey := nacl.before remotePublicKey localKeyPair.secretKey } := by
  refine meets_returns (fun _ => True) (fun session => remotePublicKey.length = publicKeyLength ∧ 1 ≤ replayWindow ∧
    session = E2eeSession.mk localKeyPair remotePublicKey replayWindow (nacl.before remotePublicKey localKeyPair.secretKey) [] [])
    _ session ?_ created
  apply meets_require _ _ _ _ _ (fun _ => trivial)
  intro _
  apply meets_require _ _ _ _ _ (fun _ => trivial)
  intro _
  apply meets_require _ _ _ _ _ (fun _ => trivial)
  intro sized
  apply meets_require _ _ _ _ _ (fun _ => trivial)
  rintro ⟨_, window⟩
  exact ⟨sized, window, rfl⟩

theorem channel_start_inv (channel : Channel Value) (start : channelStart crypto peers channel) :
    Inv crypto json peers channel ∧ AllAuthentic json channel := by
  obtain ⟨session, rfl, created⟩ := start
  refine ⟨⟨fun peer => ?_, fun box member => (by cases member)⟩, fun receipt member => (by cases member)⟩
  obtain ⟨replayWindow, made⟩ := created peer
  obtain ⟨_, _, same⟩ := created_session _ _ _ _ _ made
  change (session peer).sharedKey = _
  rw [same]
  exact peers.agree peer

theorem accepted_frames_authentic_unless_reflected (channel : Channel Value)
    (reached : Transition.Reach (channelMachine crypto json peers) unreflected channel) (receipt : Receipt Value)
    (member : receipt ∈ channel.receipts) : Authentic json channel.sealed receipt := by
  have both : Inv crypto json peers channel ∧ AllAuthentic json channel := by
    apply Transition.reach_invariant (channelMachine crypto json peers) unreflected _ _ _ channel reached
    · exact fun first start => channel_start_inv crypto json peers first start
    · exact fun before after event held enables elsewhere done =>
        channel_step_authentic crypto json peers before after event held.1 held.2 enables elsewhere done
  exact both.2 receipt member

-- A session opens its own frame once the sender in it is overwritten: the box
-- does not say which end made it.
theorem reflected_frame_opens (boxes : List (IdealBox.Box Bytes Bytes Bytes)) (session : E2eeSession)
    (nonce message : Bytes) (plaintext : Value) (envelope : EncryptedEnvelope)
    (sized : session.remotePublicKey.length = publicKeyLength) (fits : nonce.length = nonceLength)
    (overhead : overheadLength ≤ (crypto.box.after message nonce session.sharedKey).length)
    (stringified : messageOf json plaintext = .ok message) (logged : ⟨session.sharedKey, nonce, message⟩ ∈ boxes)
    (made : session.seal (naclAfter crypto boxes) json nonce plaintext = .ok envelope)
    (unseen : envelope.nonce ∉ session.seenNonces) (parsed : json.parse message = some plaintext) :
    (session.open (naclAfter crypto boxes) json
      { envelope with senderPublicKey := encodeBase64 session.remotePublicKey }).1 = .ok plaintext := by
  have same := (seal_ok json (naclAfter crypto boxes) session nonce message plaintext stringified).symm.trans made
  rw [Except.ok.injEq] at same
  subst same
  have opened := (IdealBox.open_after_iff crypto.box boxes _ nonce session.sharedKey message).2 ⟨logged, rfl⟩
  have authenticated := (authenticate_iff (naclAfter crypto boxes) session
    { v := .one
      senderPublicKey := encodeBase64 session.remotePublicKey
      nonce := encodeBase64 nonce
      ciphertext := encodeBase64 (crypto.box.after message nonce session.sharedKey) } message sized).2
    ⟨rfl, rfl, unseen, nonce, _, rfl, rfl, fits, overhead, opened⟩
  unfold E2eeSession.open
  dsimp only [naclAfter] at authenticated ⊢
  rw [authenticated]
  dsimp only
  rw [parsed]

end Channel

section Reflection

def jsonBool : JsonText Bool where
  stringify value := some (if value then [116, 114, 117, 101] else [102, 97, 108, 115, 101])
  parse bytes :=
    if bytes = [116, 114, 117, 101] then some true else if bytes = [102, 97, 108, 115, 101] then some false else none

def plainCrypto : Crypto where
  before publicKey secretKey := publicKey.zipWith (· + ·) secretKey
  box := { after := fun text _ _ => List.replicate overheadLength 0 ++ text
           injective := fun _ _ _ _ same => List.append_cancel_left same }

def plainKeyPair : Peer → KeyPair
  | .a => ⟨List.replicate 32 1, List.replicate 32 1⟩
  | .b => ⟨List.replicate 32 2, List.replicate 32 2⟩

def plainPeers : Peers plainCrypto where
  keyPair := plainKeyPair
  agree peer := by cases peer <;> decide

def plainSession (peer : Peer) : E2eeSession where
  localKeyPair := plainKeyPair peer
  remotePublicKey := (plainKeyPair peer.other).publicKey
  replayWindow := 4096
  sharedKey := List.replicate 32 3

def plainNonce : Bytes := List.replicate 24 0

def plainFrame (peer : Peer) : EncryptedEnvelope where
  v := .one
  senderPublicKey := encodeBase64 (plainKeyPair peer).publicKey
  nonce := encodeBase64 plainNonce
  ciphertext := encodeBase64 (List.replicate overheadLength 0 ++ [116, 114, 117, 101])

def sealedChannel (peer : Peer) : Channel Bool where
  session := plainSession
  boxes := [⟨List.replicate 32 3, plainNonce, [116, 114, 117, 101]⟩]
  sealed := [⟨peer, true, plainFrame peer⟩]

theorem plain_start : channelStart plainCrypto plainPeers ({ session := plainSession } : Channel Bool) := by
  refine ⟨plainSession, rfl, fun peer => ⟨4096, ?_⟩⟩
  cases peer <;> rfl

def openedChannel (sealer : Peer) : Channel Bool :=
  (sealedChannel sealer).deliver plainCrypto jsonBool .a (plainFrame .b)

theorem sealed_reached (meets : Transition.Condition (Channel Bool) (Event Bool)) (sealer : Peer)
    (met : meets { session := plainSession } (.send sealer plainNonce true)) :
    Transition.Reach (channelMachine plainCrypto jsonBool plainPeers) meets (sealedChannel sealer) := by
  have begun : Transition.Reach (channelMachine plainCrypto jsonBool plainPeers) meets { session := plainSession } :=
    .start _ plain_start
  refine .next _ _ (.send sealer plainNonce true) begun rfl met ?_
  cases sealer <;> rfl

theorem opened_reached (meets : Transition.Condition (Channel Bool) (Event Bool)) (sealer : Peer)
    (first : meets { session := plainSession } (.send sealer plainNonce true))
    (last : meets (sealedChannel sealer) (.deliver .a (plainFrame .b))) :
    Transition.Reach (channelMachine plainCrypto jsonBool plainPeers) meets (openedChannel sealer) :=
  .next (sealedChannel sealer) _ (.deliver .a (plainFrame .b)) (sealed_reached meets sealer first) trivial last rfl

theorem opened_receipts (sealer : Peer) : (openedChannel sealer).receipts = [⟨.a, plainFrame .b, true⟩] := by
  have accepted : ((plainSession .a).open (naclAfter plainCrypto (sealedChannel sealer).boxes) jsonBool
      (plainFrame .b)).1 = .ok true :=
    reflected_frame_opens plainCrypto jsonBool _ (plainSession .a) plainNonce [116, 114, 117, 101] true (plainFrame .a)
      rfl rfl (by decide) rfl (List.mem_singleton.2 rfl) rfl List.not_mem_nil rfl
  exact deliver_accepted plainCrypto jsonBool (sealedChannel sealer) .a (plainFrame .b) true accepted

theorem reflected_frame_not_authentic : ∃ channel : Channel Bool,
    Transition.Reach (channelMachine plainCrypto jsonBool plainPeers) Transition.unrestricted channel ∧
      ∃ receipt ∈ channel.receipts, ¬ Authentic jsonBool channel.sealed receipt := by
  refine ⟨openedChannel .a, opened_reached _ .a trivial trivial, ⟨.a, plainFrame .b, true⟩, ?_, ?_⟩
  · rw [opened_receipts]
    exact List.mem_singleton.2 rfl
  · rintro ⟨made, member, others, _⟩
    rw [openedChannel, deliver_sealed] at member
    rw [List.mem_singleton.1 member] at others
    cases others

theorem peer_frame_authentic : ∃ receipt ∈ (openedChannel .b).receipts,
    Authentic jsonBool (openedChannel .b).sealed receipt := by
  have member : ⟨.a, plainFrame .b, true⟩ ∈ (openedChannel .b).receipts := by
    rw [opened_receipts]
    exact List.mem_singleton.2 rfl
  refine ⟨_, member, accepted_frames_authentic_unless_reflected plainCrypto jsonBool plainPeers (openedChannel .b)
    (opened_reached unreflected .b trivial ?_) _ member⟩
  rintro ⟨_, _, _, made, present, own, _⟩
  rw [List.mem_singleton.1 present] at own
  cases own

end Reflection

end TelegramBotApi.E2ee
