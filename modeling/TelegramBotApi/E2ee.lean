import TelegramBotApi.Lib.Base64
import TelegramBotApi.Lib.Checked

set_option autoImplicit false

namespace TelegramBotApi.E2ee

open Checked

abbrev Bytes := List UInt8

-- tweetnacl is not part of the repository.
structure NaclBox where
  before : Bytes → Bytes → Bytes
  after : Bytes → Bytes → Bytes → Bytes
  openAfter : Bytes → Bytes → Bytes → Option Bytes

-- Buffer.from(JSON.stringify(value), "utf8") and JSON.parse of the text in a
-- buffer; there is no text for a value such as undefined.
structure JsonText (Value : Type) where
  stringify : Value → Option Bytes
  parse : Bytes → Option Value

def publicKeyLength : Nat := 32
def secretKeyLength : Nat := 32
def nonceLength : Nat := 24
def overheadLength : Nat := 16
def maxSafeInteger : Int := 2 ^ 53 - 1

structure KeyPair where
  publicKey : Bytes
  secretKey : Bytes

-- The version field of an envelope: the number 1 or what String shows.
inductive Version where
  | one
  | other (shown : String)
deriving DecidableEq

def Version.shown : Version → String
  | .one => "1"
  | .other shown => shown

structure EncryptedEnvelope where
  v : Version
  senderPublicKey : String
  nonce : String
  ciphertext : String
deriving DecidableEq

def encodeBase64 (bytes : Bytes) : String := String.ofList (Base64.encode bytes)

def decodeBase64 (b64 : String) : Except String Bytes :=
  if ¬ Base64.WellFormed b64.toList ∨ b64.toList.length % 4 ≠ 0 then .error "Invalid base64 encoding"
  else if encodeBase64 (Base64.decode b64.toList) ≠ b64 then .error "Non-canonical base64 encoding"
  else .ok (Base64.decode b64.toList)

def constantTimeEqual (a b : Bytes) : Bool :=
  if a.length ≠ b.length then false
  else (a.zip b).foldl (fun diff pair => diff ||| (pair.1 ^^^ pair.2)) 0 = 0

structure E2eeSession where
  localKeyPair : KeyPair
  remotePublicKey : Bytes
  replayWindow : Int
  sharedKey : Bytes
  seenNonces : List String := []
  nonceOrder : List String := []

section Session

variable {Value : Type} (nacl : NaclBox) (json : JsonText Value)

def E2eeSession.create (localKeyPair : KeyPair) (remotePublicKey : Bytes) (replayWindow : Int) :
    Except String E2eeSession := do
  require "Invalid local public key length" (localKeyPair.publicKey.length = publicKeyLength)
  require "Invalid local secret key length" (localKeyPair.secretKey.length = secretKeyLength)
  require "Invalid remote public key length" (remotePublicKey.length = publicKeyLength)
  require "Replay window must be a positive safe integer" (replayWindow ≤ maxSafeInteger ∧ 1 ≤ replayWindow)
  return { localKeyPair, remotePublicKey, replayWindow
           sharedKey := nacl.before remotePublicKey localKeyPair.secretKey }

def messageOf (plaintext : Value) : Except String Bytes :=
  match json.stringify plaintext with
  | some message => .ok message
  | none => .error "The first argument must be of type string"

def E2eeSession.seal (session : E2eeSession) (nonce : Bytes) (plaintext : Value) : Except String EncryptedEnvelope := do
  let message ← messageOf json plaintext
  return { v := .one
           senderPublicKey := encodeBase64 session.localKeyPair.publicKey
           nonce := encodeBase64 nonce
           ciphertext := encodeBase64 (nacl.after message nonce session.sharedKey) }

-- The first part of open, up to the point where the frame is authenticated.
def E2eeSession.authenticate (session : E2eeSession) (envelope : EncryptedEnvelope) : Except String Bytes := do
  require ("Unsupported envelope version: " ++ envelope.v.shown) (envelope.v = .one)
  let senderPublicKey ← decodeBase64 envelope.senderPublicKey
  require "Envelope sender public key does not match the configured peer; refusing to decrypt"
    (senderPublicKey.length = publicKeyLength ∧ constantTimeEqual senderPublicKey session.remotePublicKey = true)
  let nonce ← decodeBase64 envelope.nonce
  require ("Invalid nonce length: expected " ++ toString nonceLength ++ " bytes, got " ++ toString nonce.length)
    (nonce.length = nonceLength)
  require "Replay detected: nonce has already been accepted in this session" (envelope.nonce ∉ session.seenNonces)
  let ciphertext ← decodeBase64 envelope.ciphertext
  require "Ciphertext is too short to contain an authenticated NaCl box" (overheadLength ≤ ciphertext.length)
  match nacl.openAfter ciphertext nonce session.sharedKey with
  | some plaintext => return plaintext
  | none => .error ("Failed to authenticate/decrypt message: " ++
      "it was tampered with, corrupted, or sealed by the wrong key")

def trimNonces (replayWindow : Int) : List String → List String → List String × List String
  | seenNonces, [] => (seenNonces, [])
  | seenNonces, oldest :: rest =>
      if replayWindow < (oldest :: rest).length then trimNonces replayWindow (seenNonces.erase oldest) rest
      else (seenNonces, oldest :: rest)

def E2eeSession.rememberNonce (session : E2eeSession) (nonceId : String) : E2eeSession :=
  let (seenNonces, nonceOrder) :=
    trimNonces session.replayWindow (session.seenNonces.insert nonceId) (session.nonceOrder ++ [nonceId])
  { session with seenNonces, nonceOrder }

-- The nonce is remembered even if the payload turns out not to be JSON.
def E2eeSession.open (session : E2eeSession) (envelope : EncryptedEnvelope) : Except String Value × E2eeSession :=
  match session.authenticate nacl envelope with
  | .error error => (.error error, session)
  | .ok plaintext =>
      match json.parse plaintext with
      | some payload => (.ok payload, session.rememberNonce envelope.nonce)
      | none => (.error "Decrypted payload is not valid JSON", session.rememberNonce envelope.nonce)

end Session

theorem encode_base64_injective (first last : Bytes) (same : encodeBase64 first = encodeBase64 last) : first = last := by
  have chars : Base64.encode first = Base64.encode last := String.ofList_injective same
  rw [← Base64.decode_encode first, chars, Base64.decode_encode]

theorem decode_encode_base64 (bytes : Bytes) : decodeBase64 (encodeBase64 bytes) = .ok bytes := by
  have chars : (encodeBase64 bytes).toList = Base64.encode bytes := String.toList_ofList
  have accepted : ¬ (¬ Base64.WellFormed (Base64.encode bytes) ∨ (Base64.encode bytes).length % 4 ≠ 0) := by
    simp [Base64.encode_well_formed, Base64.encode_length]
  rw [decodeBase64, chars, if_neg accepted, Base64.decode_encode, if_neg (fun changed => changed rfl)]

theorem encode_decoded_base64 (b64 : String) (bytes : Bytes) (decoded : decodeBase64 b64 = .ok bytes) :
    b64 = encodeBase64 bytes := by
  unfold decodeBase64 at decoded
  split at decoded
  · cases decoded
  · split at decoded
    · cases decoded
    · rename_i canonical
      cases decoded
      exact (not_not.1 canonical).symm

theorem diff_zero_iff (pairs : List (UInt8 × UInt8)) (diff : UInt8) :
    pairs.foldl (fun diff pair => diff ||| (pair.1 ^^^ pair.2)) diff = 0 ↔
      diff = 0 ∧ ∀ pair, pair ∈ pairs → pair.1 = pair.2 := by
  induction pairs generalizing diff with
  | nil => simp
  | cons pair pairs ih =>
      rw [List.foldl_cons, ih, UInt8.or_eq_zero_iff, UInt8.xor_eq_zero_iff, List.forall_mem_cons, and_assoc]

theorem constant_time_equal_iff (a b : Bytes) : constantTimeEqual a b = true ↔ a = b := by
  unfold constantTimeEqual
  by_cases different : a.length = b.length
  · rw [if_neg (not_not.2 different), decide_eq_true_eq, diff_zero_iff]
    constructor
    · rintro ⟨_, agree⟩
      apply List.ext_getElem different
      intro index first last
      have inside : index < (a.zip b).length := by
        rw [List.length_zip]
        omega
      have member : (a[index], b[index]) ∈ a.zip b := by
        rw [← List.getElem_zip (h := inside)]
        exact List.getElem_mem inside
      exact agree _ member
    · rintro rfl
      refine ⟨rfl, fun pair member => ?_⟩
      rw [List.zip_eq_zipWith, List.zipWith_self] at member
      obtain ⟨byte, _, rfl⟩ := List.mem_map.1 member
      rfl
  · rw [if_pos different]
    constructor
    · intro equal
      cases equal
    · rintro rfl
      exact absurd rfl different

section Authentication

variable {Value : Type} (nacl : NaclBox) (json : JsonText Value)

structure Authenticated (session : E2eeSession) (envelope : EncryptedEnvelope) (plaintext : Bytes) : Prop where
  version : envelope.v = .one
  sender : envelope.senderPublicKey = encodeBase64 session.remotePublicKey
  unseen : envelope.nonce ∉ session.seenNonces
  box : ∃ nonce ciphertext, envelope.nonce = encodeBase64 nonce ∧ envelope.ciphertext = encodeBase64 ciphertext ∧
    nonce.length = nonceLength ∧ overheadLength ≤ ciphertext.length ∧
    nacl.openAfter ciphertext nonce session.sharedKey = some plaintext

theorem decode_base64_meets (b64 : String) :
    Meets (fun _ => True) (fun bytes => b64 = encodeBase64 bytes) (decodeBase64 b64) := by
  cases decoded : decodeBase64 b64 with
  | error error => exact trivial
  | ok bytes => exact encode_decoded_base64 b64 bytes decoded

theorem authenticate_meets (session : E2eeSession) (envelope : EncryptedEnvelope) :
    Meets (fun _ => True) (Authenticated nacl session envelope) (session.authenticate nacl envelope) := by
  apply meets_require _ _ _ _ _ (fun _ => trivial)
  intro version
  apply meets_bind _ _ _ _ _ (decode_base64_meets envelope.senderPublicKey)
  intro senderPublicKey sent
  apply meets_require _ _ _ _ _ (fun _ => trivial)
  rintro ⟨_, equal⟩
  have pinned := (constant_time_equal_iff senderPublicKey session.remotePublicKey).1 equal
  apply meets_bind _ _ _ _ _ (decode_base64_meets envelope.nonce)
  intro nonce numbered
  apply meets_require _ _ _ _ _ (fun _ => trivial)
  intro nonceFits
  apply meets_require _ _ _ _ _ (fun _ => trivial)
  intro unseen
  apply meets_bind _ _ _ _ _ (decode_base64_meets envelope.ciphertext)
  intro ciphertext encrypted
  apply meets_require _ _ _ _ _ (fun _ => trivial)
  intro longEnough
  split
  · rename_i plaintext opened
    exact ⟨version, pinned ▸ sent, unseen, nonce, ciphertext, numbered, encrypted, nonceFits, longEnough, opened⟩
  · exact trivial

theorem authenticate_iff (session : E2eeSession) (envelope : EncryptedEnvelope) (plaintext : Bytes)
    (sized : session.remotePublicKey.length = publicKeyLength) :
    session.authenticate nacl envelope = .ok plaintext ↔ Authenticated nacl session envelope plaintext := by
  constructor
  · exact meets_returns _ _ _ plaintext (authenticate_meets nacl session envelope)
  · rintro ⟨version, sender, unseen, nonce, ciphertext, numbered, encrypted, nonceFits, longEnough, opened⟩
    have equal := (constant_time_equal_iff session.remotePublicKey session.remotePublicKey).2 rfl
    rw [numbered] at unseen
    simp only [E2eeSession.authenticate, require, version, sender, numbered, encrypted, decode_encode_base64, sized,
      equal, nonceFits, longEnough, unseen, opened, and_self, not_false_eq_true, if_true, bind, Except.bind, pure,
      Except.pure]

end Authentication

end TelegramBotApi.E2ee
