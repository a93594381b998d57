import TelegramBotApi.E2eeChannel

set_option autoImplicit false

namespace TelegramBotApi.E2ee

open Checked

section Window

variable {Value : Type} (nacl : NaclBox) (json : JsonText Value)

def E2eeSession.openAll (session : E2eeSession) (envelopes : List EncryptedEnvelope) : E2eeSession :=
  envelopes.foldl (fun session envelope => (session.open nacl json envelope).2) session

def E2eeSession.authenticated (session : E2eeSession) : List EncryptedEnvelope → List EncryptedEnvelope
  | [] => []
  | envelope :: later =>
      let rest := E2eeSession.authenticated (session.open nacl json envelope).2 later
      match session.authenticate nacl envelope with
      | .ok _ => envelope :: rest
      | .error _ => rest

structure InStep (session : E2eeSession) : Prop where
  same : ∀ nonceId, nonceId ∈ session.seenNonces ↔ nonceId ∈ session.nonceOrder
  seen : session.seenNonces.Nodup
  order : session.nonceOrder.Nodup
  bounded : (session.nonceOrder.length : Int) ≤ session.replayWindow
  window : 1 ≤ session.replayWindow

theorem trim_nonces_order (replayWindow : Int) (positive : 0 ≤ replayWindow) (order seen : List String) :
    (trimNonces replayWindow seen order).2 = order.drop (order.length - replayWindow.toNat) := by
  induction order generalizing seen with
  | nil => simp [trimNonces]
  | cons oldest rest ih =>
      rw [trimNonces]
      split
      · rename_i long
        have one : (oldest :: rest).length - replayWindow.toNat = rest.length - replayWindow.toNat + 1 := by
          simp only [List.length_cons] at long ⊢
          omega
        rw [ih, one, List.drop_succ_cons]
      · rename_i short
        have none : (oldest :: rest).length - replayWindow.toNat = 0 := by omega
        rw [none, List.drop_zero]

theorem trim_nonces_same (replayWindow : Int) (order seen : List String) (distinct : order.Nodup) (unique : seen.Nodup)
    (same : ∀ nonceId, nonceId ∈ seen ↔ nonceId ∈ order) :
    (trimNonces replayWindow seen order).1.Nodup ∧ ∀ nonceId, nonceId ∈ (trimNonces replayWindow seen order).1 ↔
      nonceId ∈ (trimNonces replayWindow seen order).2 := by
  induction order generalizing seen with
  | nil => exact ⟨unique, same⟩
  | cons oldest rest ih =>
      rw [trimNonces]
      split
      · obtain ⟨absent, restDistinct⟩ := List.nodup_cons.1 distinct
        refine ih (seen.erase oldest) restDistinct (unique.erase oldest) (fun nonceId => ?_)
        rw [unique.mem_erase_iff, same, List.mem_cons]
        constructor
        · rintro ⟨other, here | later⟩
          · exact absurd here other
          · exact later
        · intro later
          exact ⟨fun here => absent (here ▸ later), .inr later⟩
      · exact ⟨unique, same⟩

theorem trim_nonces_subset (replayWindow : Int) (order seen : List String) :
    (trimNonces replayWindow seen order).1 ⊆ seen := by
  induction order generalizing seen with
  | nil => exact List.Subset.refl _
  | cons oldest rest ih =>
      rw [trimNonces]
      split
      · exact List.Subset.trans (ih (seen.erase oldest)) (List.erase_subset)
      · exact List.Subset.refl _

theorem seen_of_remembered (session : E2eeSession) (nonceId other : String)
    (seen : other ∈ (session.rememberNonce nonceId).seenNonces) : other = nonceId ∨ other ∈ session.seenNonces :=
  List.mem_insert_iff.1 (trim_nonces_subset session.replayWindow _ _ seen)

theorem nonce_order_remembered (session : E2eeSession) (nonceId : String) (window : 1 ≤ session.replayWindow) :
    (session.rememberNonce nonceId).nonceOrder =
      (session.nonceOrder ++ [nonceId]).drop (session.nonceOrder.length + 1 - session.replayWindow.toNat) := by
  have trimmed := trim_nonces_order session.replayWindow (by omega) (session.nonceOrder ++ [nonceId])
    (session.seenNonces.insert nonceId)
  rw [List.length_append, List.length_singleton] at trimmed
  exact trimmed

theorem remember_in_step (session : E2eeSession) (nonceId : String) (inStep : InStep session)
    (unseen : nonceId ∉ session.seenNonces) : InStep (session.rememberNonce nonceId) := by
  have distinct : (session.nonceOrder ++ [nonceId]).Nodup := by
    rw [← List.concat_eq_append]
    exact inStep.order.concat (fun member => unseen ((inStep.same nonceId).2 member))
  have both : ∀ other, other ∈ session.seenNonces.insert nonceId ↔ other ∈ session.nonceOrder ++ [nonceId] := by
    intro other
    simp [inStep.same, or_comm]
  obtain ⟨unique, same⟩ := trim_nonces_same session.replayWindow _ _ distinct (inStep.seen.insert) both
  have order := nonce_order_remembered session nonceId inStep.window
  refine ⟨same, unique, ?_, ?_, inStep.window⟩
  · rw [order]
    exact distinct.sublist (List.drop_sublist _ _)
  · rw [order, List.length_drop, List.length_append, List.length_singleton]
    have window := inStep.window
    change _ ≤ session.replayWindow
    omega

theorem open_session (session : E2eeSession) (envelope : EncryptedEnvelope) :
    (session.open nacl json envelope).2 = match session.authenticate nacl envelope with
      | .ok _ => session.rememberNonce envelope.nonce
      | .error _ => session := by
  unfold E2eeSession.open
  cases session.authenticate nacl envelope with
  | error error => rfl
  | ok plaintext => cases parsed : json.parse plaintext <;> simp [parsed]

theorem unseen_of_authentic (session : E2eeSession) (envelope : EncryptedEnvelope) (plaintext : Bytes)
    (authentic : session.authenticate nacl envelope = .ok plaintext) : envelope.nonce ∉ session.seenNonces :=
  (meets_returns _ _ _ plaintext (authenticate_meets nacl session envelope) authentic).unseen

theorem open_in_step (session : E2eeSession) (envelope : EncryptedEnvelope) (inStep : InStep session) :
    InStep (session.open nacl json envelope).2 := by
  rw [open_session]
  cases authentic : session.authenticate nacl envelope with
  | error error => exact inStep
  | ok plaintext =>
      exact remember_in_step session envelope.nonce inStep (unseen_of_authentic nacl session envelope plaintext authentic)

theorem open_all_in_step (session : E2eeSession) (envelopes : List EncryptedEnvelope) (inStep : InStep session) :
    InStep (session.openAll nacl json envelopes) := by
  induction envelopes generalizing session with
  | nil => exact inStep
  | cons envelope later ih => exact ih _ (open_in_step nacl json session envelope inStep)

def Recent (nonceId : String) (newer : Nat) (session : E2eeSession) : Prop :=
  ∃ older recent, session.nonceOrder = older ++ nonceId :: recent ∧ recent.length ≤ newer

theorem recent_seen (session : E2eeSession) (nonceId : String) (newer : Nat) (inStep : InStep session)
    (recent : Recent nonceId newer session) : nonceId ∈ session.seenNonces := by
  obtain ⟨older, newest, order, _⟩ := recent
  rw [inStep.same, order]
  simp

theorem recent_remembered (session : E2eeSession) (nonceId other : String) (newer : Nat) (window : 1 ≤ session.replayWindow)
    (recent : Recent nonceId newer session) (room : (newer : Int) + 1 < session.replayWindow) :
    Recent nonceId (newer + 1) (session.rememberNonce other) := by
  obtain ⟨older, newest, order, short⟩ := recent
  refine ⟨older.drop (session.nonceOrder.length + 1 - session.replayWindow.toNat), newest ++ [other], ?_, ?_⟩
  · rw [nonce_order_remembered session other window, order, List.append_assoc, List.cons_append,
      List.drop_append_of_le_length]
    simp only [List.length_append, List.length_cons]
    omega
  · simp only [List.length_append, List.length_singleton]
    omega

theorem just_remembered (session : E2eeSession) (nonceId : String) (window : 1 ≤ session.replayWindow) :
    Recent nonceId 0 (session.rememberNonce nonceId) := by
  refine ⟨session.nonceOrder.drop (session.nonceOrder.length + 1 - session.replayWindow.toNat), [], ?_, Nat.le_refl 0⟩
  rw [nonce_order_remembered session nonceId window, List.drop_append_of_le_length]
  omega

def hasNonce (nonce : Bytes) (envelope : EncryptedEnvelope) : Bool :=
  match decodeBase64 envelope.nonce with
  | .ok decoded => decoded = nonce
  | .error _ => false

theorem has_nonce_iff (nonce : Bytes) (envelope : EncryptedEnvelope) :
    hasNonce nonce envelope = true ↔ envelope.nonce = encodeBase64 nonce := by
  unfold hasNonce
  cases decoded : decodeBase64 envelope.nonce with
  | error error =>
      simp only [Bool.false_eq_true, false_iff]
      intro same
      rw [same, decode_encode_base64] at decoded
      cases decoded
  | ok bytes =>
      have text := encode_decoded_base64 _ bytes decoded
      rw [decide_eq_true_eq, text]
      exact ⟨fun same => congrArg encodeBase64 same, encode_base64_injective bytes nonce⟩

def others (nonce : Bytes) (envelopes : List EncryptedEnvelope) : Nat :=
  (envelopes.filter (fun envelope => !hasNonce nonce envelope)).length

theorem recent_after (session : E2eeSession) (nonce : Bytes) (newer : Nat) (later : List EncryptedEnvelope)
    (inStep : InStep session) (recent : Recent (encodeBase64 nonce) newer session)
    (room : (newer + others nonce (session.authenticated nacl json later) : Int) < session.replayWindow) :
    Recent (encodeBase64 nonce) (newer + others nonce (session.authenticated nacl json later))
      (session.openAll nacl json later) := by
  induction later generalizing session newer with
  | nil => exact recent
  | cons envelope later ih =>
      have opened := open_session nacl json session envelope
      have kept := open_in_step nacl json session envelope inStep
      change Recent _ _ ((session.open nacl json envelope).2.openAll nacl json later)
      rw [E2eeSession.authenticated] at room ⊢
      cases authentic : session.authenticate nacl envelope with
      | error error =>
          rw [authentic] at opened room
          rw [opened] at room kept ⊢
          exact ih session newer inStep recent room
      | ok plaintext =>
          rw [authentic] at opened room
          rw [opened] at room kept ⊢
          have other : hasNonce nonce envelope = false := by
            rw [Bool.eq_false_iff]
            intro same
            apply unseen_of_authentic nacl session envelope plaintext authentic
            rw [(has_nonce_iff nonce envelope).1 same]
            exact recent_seen session _ newer inStep recent
          have one : others nonce (envelope :: (session.rememberNonce envelope.nonce).authenticated nacl json later) =
              others nonce ((session.rememberNonce envelope.nonce).authenticated nacl json later) + 1 := by
            simp [others, other]
          dsimp only at room ⊢
          rw [one] at room ⊢
          have next := recent_remembered session (encodeBase64 nonce) envelope.nonce newer inStep.window recent
            (by push_cast at room; omega)
          rw [Nat.add_comm _ 1, ← Nat.add_assoc]
          exact ih _ (newer + 1) kept next (by push_cast at room ⊢; change _ < session.replayWindow; omega)

theorem created_in_step (localKeyPair : KeyPair) (remotePublicKey : Bytes) (replayWindow : Int) (session : E2eeSession)
    (created : E2eeSession.create nacl localKeyPair remotePublicKey replayWindow = .ok session) : InStep session := by
  obtain ⟨_, window, rfl⟩ := created_session nacl localKeyPair remotePublicKey replayWindow session created
  refine ⟨fun _ => Iff.rfl, List.nodup_nil, List.nodup_nil, ?_, window⟩
  change ((0 : Nat) : Int) ≤ replayWindow
  omega

theorem open_all_window (session : E2eeSession) (envelopes : List EncryptedEnvelope) :
    (session.openAll nacl json envelopes).replayWindow = session.replayWindow := by
  induction envelopes generalizing session with
  | nil => rfl
  | cons envelope later ih =>
      refine (ih _).trans ?_
      change (session.open nacl json envelope).2.replayWindow = session.replayWindow
      rw [open_session]
      cases session.authenticate nacl envelope <;> rfl

structure ReplayProtected (replayWindow : Int) (session : E2eeSession) : Prop where
  same : ∀ nonceId, nonceId ∈ session.seenNonces ↔ nonceId ∈ session.nonceOrder
  distinct : session.nonceOrder.Nodup
  bounded : (session.nonceOrder.length : Int) ≤ replayWindow
  failed : ∀ envelope error, session.authenticate nacl envelope = .error error →
    (session.open nacl json envelope).2.seenNonces = session.seenNonces ∧
      (session.open nacl json envelope).2.nonceOrder = session.nonceOrder
  refused : ∀ envelope plaintext nonce later replayed, session.authenticate nacl envelope = .ok plaintext →
    hasNonce nonce envelope = true → hasNonce nonce replayed = true →
    (others nonce ((session.open nacl json envelope).2.authenticated nacl json later) : Int) < replayWindow →
    ∃ error, (((session.open nacl json envelope).2.openAll nacl json later).open nacl json replayed).1 = .error error

theorem refused_of_seen (session : E2eeSession) (envelope : EncryptedEnvelope) (seen : envelope.nonce ∈ session.seenNonces) :
    ∃ error, (session.open nacl json envelope).1 = .error error := by
  unfold E2eeSession.open
  cases authentic : session.authenticate nacl envelope with
  | error error => exact ⟨error, rfl⟩
  | ok plaintext => exact absurd seen (unseen_of_authentic nacl session envelope plaintext authentic)

theorem replay_window_protects (localKeyPair : KeyPair) (remotePublicKey : Bytes) (replayWindow : Int) (session : E2eeSession)
    (created : E2eeSession.create nacl localKeyPair remotePublicKey replayWindow = .ok session)
    (envelopes : List EncryptedEnvelope) : ReplayProtected nacl json replayWindow (session.openAll nacl json envelopes) := by
  have fresh := created_in_step nacl localKeyPair remotePublicKey replayWindow session created
  obtain ⟨_, _, begun⟩ := created_session nacl localKeyPair remotePublicKey replayWindow session created
  have inStep := open_all_in_step nacl json session envelopes fresh
  have window : (session.openAll nacl json envelopes).replayWindow = replayWindow := by
    rw [open_all_window, begun]
  refine ⟨inStep.same, inStep.order, window ▸ inStep.bounded, ?_, ?_⟩
  · intro envelope error failed
    rw [open_session, failed]
    exact ⟨rfl, rfl⟩
  · intro envelope plaintext nonce later replayed authentic named again few
    have kept := open_in_step nacl json _ envelope inStep
    have opened : ((session.openAll nacl json envelopes).open nacl json envelope).2 =
        (session.openAll nacl json envelopes).rememberNonce (encodeBase64 nonce) := by
      rw [open_session, authentic, (has_nonce_iff nonce envelope).1 named]
    have recent := just_remembered (session.openAll nacl json envelopes) (encodeBase64 nonce) inStep.window
    rw [← opened] at recent
    have room : ((0 : Nat) + others nonce (((session.openAll nacl json envelopes).open nacl json envelope).2.authenticated
        nacl json later) : Int) < ((session.openAll nacl json envelopes).open nacl json envelope).2.replayWindow := by
      rw [opened]
      change _ < (session.openAll nacl json envelopes).replayWindow
      rw [window, ← opened]
      simpa using few
    have still := recent_after nacl json _ nonce 0 later kept recent room
    apply refused_of_seen
    rw [(has_nonce_iff nonce replayed).1 again]
    exact recent_seen _ _ _ (open_all_in_step nacl json _ later kept) still

end Window

def plainBoxes : List (IdealBox.Box Bytes Bytes Bytes) := [⟨List.replicate 32 3, plainNonce, [116, 114, 117, 101]⟩]

theorem plain_session_protected :
    ((plainSession .a).open (naclAfter plainCrypto plainBoxes) jsonBool (plainFrame .b)).1 = .ok true ∧
      ReplayProtected (naclAfter plainCrypto plainBoxes) jsonBool 4096
        ((plainSession .a).openAll (naclAfter plainCrypto plainBoxes) jsonBool [plainFrame .b]) := by
  refine ⟨?_, replay_window_protects (naclAfter plainCrypto plainBoxes) jsonBool (plainKeyPair .a) (plainKeyPair .b).publicKey
    4096 (plainSession .a) rfl [plainFrame .b]⟩
  exact reflected_frame_opens plainCrypto jsonBool _ (plainSession .a) plainNonce [116, 114, 117, 101] true (plainFrame .a)
    rfl rfl (by decide) rfl (List.mem_singleton.2 rfl) rfl List.not_mem_nil rfl

end TelegramBotApi.E2ee
