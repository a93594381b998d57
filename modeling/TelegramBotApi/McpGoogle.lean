import TelegramBotApi.ReplayWindow

set_option autoImplicit false

-- The copy of the session in mcp-google.
namespace TelegramBotApi.McpGoogle

open Checked
open E2ee (Bytes NaclBox JsonText KeyPair EncryptedEnvelope encodeBase64 constantTimeEqual)

-- Buffer.from of a text in base64, which is lenient in ways of its own.
structure Buffer where
  fromBase64 : String → Bytes

structure Lawful (nacl : NaclBox) (buffer : Buffer) : Prop where
  decodes : ∀ bytes, buffer.fromBase64 (encodeBase64 bytes) = bytes
  short : ∀ ciphertext nonce key, ciphertext.length < E2ee.overheadLength → nacl.openAfter ciphertext nonce key = none

structure E2eeSession where
  localKeyPair : KeyPair
  remotePublicKey : Bytes
  sharedKey : Bytes

section Session

variable {Value : Type} (nacl : NaclBox) (json : JsonText Value) (buffer : Buffer)

-- nacl.box.before throws for a secret key of the wrong size.
def E2eeSession.create (localKeyPair : KeyPair) (remotePublicKey : Bytes) : Except String E2eeSession := do
  require "Invalid remote public key length" (remotePublicKey.length = E2ee.publicKeyLength)
  require "bad secret key size" (localKeyPair.secretKey.length = E2ee.secretKeyLength)
  return { localKeyPair, remotePublicKey, sharedKey := nacl.before remotePublicKey localKeyPair.secretKey }

def decodeBase64 (b64 : String) : Bytes := buffer.fromBase64 b64

-- nacl.box.open.after throws for a nonce of the wrong size.
def boxOpenAfter (ciphertext nonce sharedKey : Bytes) : Except String (Option Bytes) := do
  require "bad nonce size" (nonce.length = E2ee.nonceLength)
  return nacl.openAfter ciphertext nonce sharedKey

def parsePayload (plaintext : Bytes) : Except String Value :=
  match json.parse plaintext with
  | some payload => .ok payload
  | none => .error "SyntaxError"

def E2eeSession.open (session : E2eeSession) (envelope : EncryptedEnvelope) : Except String Value := do
  require ("Unsupported envelope version: " ++ envelope.v.shown) (envelope.v = .one)
  let senderPublicKey := decodeBase64 buffer envelope.senderPublicKey
  require "Envelope sender public key does not match the configured peer; refusing to decrypt"
    (constantTimeEqual senderPublicKey session.remotePublicKey = true)
  let nonce := decodeBase64 buffer envelope.nonce
  let ciphertext := decodeBase64 buffer envelope.ciphertext
  match ← boxOpenAfter nacl ciphertext nonce session.sharedKey with
  | some plaintext => parsePayload json plaintext
  | none => .error ("Failed to authenticate/decrypt message: " ++
      "it was tampered with, corrupted, or sealed by the wrong key")

def E2eeSession.payloads (session : E2eeSession) (envelopes : List EncryptedEnvelope) : List (Option Value) :=
  envelopes.map (fun envelope => (session.open nacl json buffer envelope).toOption)

def serverPayloads (session : E2ee.E2eeSession) : List EncryptedEnvelope → List (Option Value)
  | [] => []
  | envelope :: later => (session.open nacl json envelope).1.toOption ::
      serverPayloads (session.open nacl json envelope).2 later

-- The box of the envelope is authentic and holds the payload, its fields read leniently.
structure Opens (session : E2eeSession) (envelope : EncryptedEnvelope) (payload : Value) : Prop where
  version : envelope.v = .one
  sender : buffer.fromBase64 envelope.senderPublicKey = session.remotePublicKey
  sized : (buffer.fromBase64 envelope.nonce).length = E2ee.nonceLength
  box : ∃ plaintext, nacl.openAfter (buffer.fromBase64 envelope.ciphertext) (buffer.fromBase64 envelope.nonce)
    session.sharedKey = some plaintext ∧ json.parse plaintext = some payload

def Canonical (b64 : String) : Prop := ∃ bytes, E2ee.decodeBase64 b64 = .ok bytes

structure Strict (session : E2ee.E2eeSession) (envelope : EncryptedEnvelope) : Prop where
  sender : Canonical envelope.senderPublicKey
  nonce : Canonical envelope.nonce
  ciphertext : Canonical envelope.ciphertext
  unseen : envelope.nonce ∉ session.seenNonces

theorem canonical_iff (lawful : Lawful nacl buffer) (b64 : String) :
    Canonical b64 ↔ b64 = encodeBase64 (buffer.fromBase64 b64) := by
  constructor
  · rintro ⟨bytes, decoded⟩
    have text := E2ee.encode_decoded_base64 b64 bytes decoded
    rw [text, lawful.decodes]
  · intro same
    refine ⟨buffer.fromBase64 b64, ?_⟩
    rw [same, lawful.decodes]
    exact E2ee.decode_encode_base64 _

theorem open_meets (session : E2eeSession) (envelope : EncryptedEnvelope) :
    Meets (fun _ => True) (Opens nacl json buffer session envelope) (session.open nacl json buffer envelope) := by
  apply meets_require _ _ _ _ _ (fun _ => trivial)
  intro version
  apply meets_require _ _ _ _ _ (fun _ => trivial)
  intro equal
  have sender := (E2ee.constant_time_equal_iff _ _).1 equal
  apply meets_bind _ (fun opened => (buffer.fromBase64 envelope.nonce).length = E2ee.nonceLength ∧
    nacl.openAfter (buffer.fromBase64 envelope.ciphertext) (buffer.fromBase64 envelope.nonce) session.sharedKey = opened)
  · apply meets_require _ _ _ _ _ (fun _ => trivial)
    intro sized
    exact ⟨sized, rfl⟩
  · rintro opened ⟨sized, box⟩
    cases opened with
    | none => exact trivial
    | some plaintext =>
        change Meets _ _ (parsePayload json plaintext)
        unfold parsePayload
        cases parsed : json.parse plaintext with
        | none => exact trivial
        | some payload => exact ⟨version, sender, sized, plaintext, box, parsed⟩

theorem open_iff (session : E2eeSession) (envelope : EncryptedEnvelope) (payload : Value) :
    (session.open nacl json buffer envelope).toOption = some payload ↔ Opens nacl json buffer session envelope payload := by
  constructor
  · intro accepted
    have meets := open_meets nacl json buffer session envelope
    cases returned : session.open nacl json buffer envelope with
    | error error =>
        rw [returned] at accepted
        cases accepted
    | ok value =>
        rw [returned] at accepted meets
        cases accepted
        exact meets
  · rintro ⟨version, sender, sized, plaintext, box, parsed⟩
    have equal := (E2ee.constant_time_equal_iff _ _).2 sender
    simp only [E2eeSession.open, boxOpenAfter, decodeBase64, require, version, equal, sized, box, parsePayload, parsed, if_true,
      bind, Except.bind, pure, Except.pure, Except.toOption]

theorem server_open_iff (session : E2ee.E2eeSession) (envelope : EncryptedEnvelope) (payload : Value)
    (sized : session.remotePublicKey.length = E2ee.publicKeyLength) :
    (session.open nacl json envelope).1.toOption = some payload ↔
      ∃ plaintext, E2ee.Authenticated nacl session envelope plaintext ∧ json.parse plaintext = some payload := by
  constructor
  · intro accepted
    cases returned : (session.open nacl json envelope).1 with
    | error error =>
        rw [returned] at accepted
        cases accepted
    | ok value =>
        rw [returned] at accepted
        cases accepted
        exact E2ee.open_accepted json nacl session envelope _ returned
  · rintro ⟨plaintext, authenticated, parsed⟩
    have authentic := (E2ee.authenticate_iff nacl session envelope plaintext sized).2 authenticated
    simp only [E2ee.E2eeSession.open, authentic, parsed, Except.toOption]

structure Copies (server : E2ee.E2eeSession) (session : E2eeSession) : Prop where
  remote : server.remotePublicKey = session.remotePublicKey
  key : server.sharedKey = session.sharedKey
  sized : server.remotePublicKey.length = E2ee.publicKeyLength

theorem authenticated_iff (lawful : Lawful nacl buffer) (server : E2ee.E2eeSession) (session : E2eeSession)
    (copies : Copies server session) (envelope : EncryptedEnvelope) (payload : Value) :
    (∃ plaintext, E2ee.Authenticated nacl server envelope plaintext ∧ json.parse plaintext = some payload) ↔
      Opens nacl json buffer session envelope payload ∧ Strict server envelope := by
  constructor
  · rintro ⟨plaintext, ⟨version, sender, unseen, nonce, ciphertext, numbered, encrypted, sized, _, opened⟩, parsed⟩
    have canonical (b64 : String) (bytes : Bytes) (text : b64 = encodeBase64 bytes) : Canonical b64 :=
      ⟨bytes, text ▸ E2ee.decode_encode_base64 bytes⟩
    refine ⟨⟨version, ?_, ?_, plaintext, ?_, parsed⟩, canonical _ _ sender, canonical _ _ numbered,
      canonical _ _ encrypted, unseen⟩
    · rw [sender, lawful.decodes, copies.remote]
    · rw [numbered, lawful.decodes]
      exact sized
    · rw [numbered, encrypted, lawful.decodes, lawful.decodes, ← copies.key]
      exact opened
  · rintro ⟨⟨version, sender, sized, plaintext, opened, parsed⟩, canonicalSender, canonicalNonce, canonicalText, unseen⟩
    refine ⟨plaintext, ⟨version, ?_, unseen, buffer.fromBase64 envelope.nonce, buffer.fromBase64 envelope.ciphertext, ?_, ?_,
      sized, ?_, copies.key ▸ opened⟩, parsed⟩
    · rw [copies.remote, ← sender]
      exact (canonical_iff nacl buffer lawful _).1 canonicalSender
    · exact (canonical_iff nacl buffer lawful _).1 canonicalNonce
    · exact (canonical_iff nacl buffer lawful _).1 canonicalText
    · by_contra short
      rw [lawful.short _ _ _ (not_le.1 short)] at opened
      cases opened

theorem same_payload_iff (lawful : Lawful nacl buffer) (server : E2ee.E2eeSession) (session : E2eeSession)
    (copies : Copies server session) (envelope : EncryptedEnvelope) :
    (server.open nacl json envelope).1.toOption = (session.open nacl json buffer envelope).toOption ↔
      ∀ payload, Opens nacl json buffer session envelope payload → Strict server envelope := by
  have both (payload : Value) : (server.open nacl json envelope).1.toOption = some payload ↔
      (session.open nacl json buffer envelope).toOption = some payload ∧ Strict server envelope := by
    rw [server_open_iff nacl json server envelope payload copies.sized, open_iff,
      authenticated_iff nacl json buffer lawful server session copies]
  constructor
  · intro same payload opens
    rw [← open_iff, ← same] at opens
    exact ((both payload).1 opens).2
  · intro strict
    apply Option.ext
    intro payload
    rw [both]
    exact ⟨fun accepted => accepted.1, fun accepted => ⟨accepted, strict payload ((open_iff nacl json buffer _ _ _).1 accepted)⟩⟩

theorem open_copies (server : E2ee.E2eeSession) (session : E2eeSession) (copies : Copies server session)
    (envelope : EncryptedEnvelope) : Copies (server.open nacl json envelope).2 session := by
  rw [E2ee.open_session]
  cases server.authenticate nacl envelope with
  | error error => exact copies
  | ok plaintext => exact ⟨copies.remote, copies.key, copies.sized⟩

theorem created_copies (localKeyPair : KeyPair) (remotePublicKey : Bytes) (replayWindow : Int) (server : E2ee.E2eeSession)
    (session : E2eeSession)
    (createdServer : E2ee.E2eeSession.create nacl localKeyPair remotePublicKey replayWindow = .ok server)
    (created : E2eeSession.create nacl localKeyPair remotePublicKey = .ok session) : Copies server session := by
  have sessionMeets : Meets (fun _ => True) (fun session : E2eeSession => session.remotePublicKey = remotePublicKey ∧
      session.sharedKey = nacl.before remotePublicKey localKeyPair.secretKey)
      (E2eeSession.create nacl localKeyPair remotePublicKey) := by
    apply meets_require _ _ _ _ _ (fun _ => trivial)
    intro _
    apply meets_require _ _ _ _ _ (fun _ => trivial)
    intro _
    exact ⟨rfl, rfl⟩
  obtain ⟨sized, _, rfl⟩ := E2ee.created_session nacl localKeyPair remotePublicKey replayWindow server createdServer
  obtain ⟨remote, key⟩ := meets_returns _ _ _ session sessionMeets created
  exact ⟨remote.symm, key.symm, sized⟩

def serverRound (session : E2ee.E2eeSession) (envelope : EncryptedEnvelope) : Except Empty E2ee.E2eeSession :=
  .ok (session.open nacl json envelope).2

theorem payloads_agree_iff (lawful : Lawful nacl buffer) (server : E2ee.E2eeSession) (session : E2eeSession)
    (copies : Copies server session) (envelopes : List EncryptedEnvelope) :
    serverPayloads nacl json server envelopes = session.payloads nacl json buffer envelopes ↔
      Along (fun server envelope => ∀ payload, Opens nacl json buffer session envelope payload → Strict server envelope)
        (serverRound nacl json) server envelopes := by
  induction envelopes generalizing server with
  | nil => exact iff_of_true rfl trivial
  | cons envelope later ih =>
      have rest := ih _ (open_copies nacl json server session copies envelope)
      rw [serverPayloads, E2eeSession.payloads, List.map_cons, List.cons.injEq,
        same_payload_iff nacl json buffer lawful server session copies]
      refine and_congr Iff.rfl (rest.trans ?_)
      constructor
      · rintro along after done
        cases done
        exact along
      · intro along
        exact along _ rfl

def defaultReplayWindow : Int := 4096

theorem copies_agree_iff (lawful : Lawful nacl buffer) (localKeyPair : KeyPair) (remotePublicKey : Bytes)
    (server : E2ee.E2eeSession) (session : E2eeSession)
    (createdServer : E2ee.E2eeSession.create nacl localKeyPair remotePublicKey defaultReplayWindow = .ok server)
    (created : E2eeSession.create nacl localKeyPair remotePublicKey = .ok session) (envelopes : List EncryptedEnvelope) :
    serverPayloads nacl json server envelopes = session.payloads nacl json buffer envelopes ↔
      Along (fun server envelope => ∀ payload, Opens nacl json buffer session envelope payload → Strict server envelope)
        (serverRound nacl json) server envelopes :=
  payloads_agree_iff nacl json buffer lawful server session
    (created_copies nacl localKeyPair remotePublicKey defaultReplayWindow server session createdServer created) envelopes

end Session

section Replayed

open E2ee (plainCrypto plainBoxes plainKeyPair plainSession plainFrame jsonBool naclAfter)

def plainNacl : NaclBox := naclAfter plainCrypto plainBoxes

def plainBuffer : Buffer where
  fromBase64 text := Base64.decode text.toList

def plainCopy : E2eeSession where
  localKeyPair := plainKeyPair .a
  remotePublicKey := (plainKeyPair .b).publicKey
  sharedKey := List.replicate 32 3

theorem plain_lawful : Lawful plainNacl plainBuffer where
  decodes bytes := by
    change Base64.decode (encodeBase64 bytes).toList = bytes
    rw [encodeBase64, String.toList_ofList, Base64.decode_encode]
  short ciphertext nonce key short := by
    rw [Option.eq_none_iff_forall_not_mem]
    intro text opened
    obtain ⟨_, produced⟩ := (IdealBox.open_after_iff plainCrypto.box plainBoxes ciphertext nonce key text).1 opened
    rw [← produced] at short
    change (List.replicate E2ee.overheadLength (0 : UInt8) ++ text).length < E2ee.overheadLength at short
    rw [List.length_append, List.length_replicate] at short
    omega

theorem plain_copies : Copies (plainSession .a) plainCopy := ⟨rfl, rfl, rfl⟩

theorem plain_opens : Opens plainNacl jsonBool plainBuffer plainCopy (plainFrame .b) true ∧
    Strict (plainSession .a) (plainFrame .b) := by
  apply (authenticated_iff plainNacl jsonBool plainBuffer plain_lawful (plainSession .a) plainCopy plain_copies _ _).1
  apply E2ee.open_accepted jsonBool plainNacl
  exact E2ee.reflected_frame_opens plainCrypto jsonBool plainBoxes (plainSession .a) E2ee.plainNonce [116, 114, 117, 101] true
    (plainFrame .a) rfl rfl (by decide) rfl (List.mem_singleton.2 rfl) rfl List.not_mem_nil rfl

theorem plain_remembered :
    (plainFrame .b).nonce ∈ ((plainSession .a).open plainNacl jsonBool (plainFrame .b)).2.seenNonces := by
  obtain ⟨plaintext, authenticated, _⟩ := (authenticated_iff plainNacl jsonBool plainBuffer plain_lawful (plainSession .a)
    plainCopy plain_copies (plainFrame .b) true).2 plain_opens
  have authentic := (E2ee.authenticate_iff plainNacl (plainSession .a) (plainFrame .b) plaintext rfl).2 authenticated
  have fresh : E2ee.InStep (plainSession .a) := ⟨fun _ => Iff.rfl, List.nodup_nil, List.nodup_nil, by decide, by decide⟩
  have kept := E2ee.open_in_step plainNacl jsonBool (plainSession .a) (plainFrame .b) fresh
  have opened := E2ee.open_session plainNacl jsonBool (plainSession .a) (plainFrame .b)
  rw [authentic] at opened
  rw [opened] at kept ⊢
  exact E2ee.recent_seen _ _ 0 kept (E2ee.just_remembered _ _ (by decide))

-- The second copy of a frame is refused by one session only.
theorem replayed_frame_accepted :
    E2ee.E2eeSession.create plainNacl (plainKeyPair .a) (plainKeyPair .b).publicKey defaultReplayWindow = .ok (plainSession .a) ∧
      E2eeSession.create plainNacl (plainKeyPair .a) (plainKeyPair .b).publicKey = .ok plainCopy ∧
      serverPayloads plainNacl jsonBool (plainSession .a) [plainFrame .b, plainFrame .b] ≠
        plainCopy.payloads plainNacl jsonBool plainBuffer [plainFrame .b, plainFrame .b] := by
  refine ⟨rfl, rfl, fun same => ?_⟩
  have along := (payloads_agree_iff plainNacl jsonBool plainBuffer plain_lawful _ _ plain_copies _).1 same
  have strict := (along.2 _ rfl).1 true plain_opens.1
  exact strict.unseen plain_remembered

theorem single_frame_agreed : serverPayloads plainNacl jsonBool (plainSession .a) [plainFrame .b] =
    plainCopy.payloads plainNacl jsonBool plainBuffer [plainFrame .b] :=
  (copies_agree_iff plainNacl jsonBool plainBuffer plain_lawful (plainKeyPair .a) (plainKeyPair .b).publicKey (plainSession .a)
    plainCopy rfl rfl [plainFrame .b]).2 ⟨fun _ _ => plain_opens.2, fun _ _ => trivial⟩

end Replayed

end TelegramBotApi.McpGoogle
