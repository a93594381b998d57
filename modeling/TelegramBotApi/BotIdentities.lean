import TelegramBotApi.ClientManagerSafety
import TelegramBotApi.WebhookRoundTrip

set_option autoImplicit false

namespace TelegramBotApi.BotIdentities

open ClientManager

abbrev Identity := TelegramBotApi.Client.Identity

def managerKey (identity : Identity) : String := Client.key identity.token identity.isTestDc

-- What WebhookActor::handle makes of a TQueue id for a request in a response of the webhook.
def responseUserId (tqueueId : Int) : Int := Int.land tqueueId (2 ^ 54 - 1)

def responseIsTestDc (tqueueId : Int) : Bool := decide (2 ^ 54 ≤ tqueueId)

def replaceColon (char : Char) : Char := if char = ':' then '~' else char

def dir (workingDirectory : String) (slash : Char) (allowColonInFilenames : Bool) (identity : Identity) : String :=
  let suff := identity.withDc.toList ++ [slash]
  workingDirectory ++ String.ofList (if allowColonInFilenames then suff else suff.map replaceColon)

-- What td does: to_integer_safe accepts the text that it would print, to_integer reads
-- the digits that a text begins with, and base64url_decode rejects foreign characters.
structure Decoding (env : Environment) (toUint64 : String → Nat) : Prop where
  toInt64 : ∀ text value, env.toInt64 text = some value → toString value = text
  toUint64 : ∀ value rest, value < 2 ^ 64 → (∀ next ∈ rest.toList.head?, next.isDigit = false) →
    toUint64 (toString value ++ rest) = value
  base64url : ∀ text, env.base64urlDecodes text = true →
    ∀ char ∈ text.toList, char.isAlphanum = true ∨ char = '-' ∨ char = '_' ∨ char = '='

def keepsWebhook (tokenRange : Int → Bool) (toUint64 : String → Nat) (key : String) : Bool := tokenRange (toUint64 key)

structure Separate (toUint64 : String → Nat) (first last : Identity) (userId : Int) : Prop where
  webhookKeys : first.withDc = last.withDc ↔ first = last
  directories : ∀ workingDirectory slash allowColonInFilenames, dir workingDirectory slash allowColonInFilenames first =
    dir workingDirectory slash allowColonInFilenames last ↔ first = last
  restored : ∀ webhookInfo, (TelegramBotApi.Client.getWebhookRestoreQuery first.withDc webhookInfo).1 = first
  ranges : ∀ tokenRange : Int → Bool, keepsWebhook tokenRange toUint64 first.withDc = tokenRange userId

structure Identified (env : Environment) (toUint64 : String → Nat) (first last : Identity) (firstId lastId : Int) : Prop where
  keys : managerKey first = managerKey last ↔ first = last
  tqueueIds : getTqueueId firstId first.isTestDc = getTqueueId lastId last.isTestDc ↔
    firstId = lastId ∧ first.isTestDc = last.isTestDc
  responseUserId : responseUserId (getTqueueId firstId first.isTestDc) = firstId
  responseIsTestDc : responseIsTestDc (getTqueueId firstId first.isTestDc) = first.isTestDc
  started : TelegramBotApi.Client.acceptsToken env.base64urlDecodes first.token = true →
    TelegramBotApi.Client.acceptsToken env.base64urlDecodes last.token = true → Separate toUint64 first last firstId

theorem tqueue_id_inj (first last : Int) (test dev : Bool) (firstPositive : 0 < first) (lastPositive : 0 < last)
    (firstSmall : first < 2 ^ 54) (lastSmall : last < 2 ^ 54) :
    getTqueueId first test = getTqueueId last dev ↔ first = last ∧ test = dev := by
  cases test <;> cases dev <;> simp [getTqueueId] <;> omega

theorem response_of_tqueue_id (userId : Int) (isTestDc : Bool) (positive : 0 < userId) (small : userId < 2 ^ 54) :
    responseUserId (getTqueueId userId isTestDc) = userId ∧ responseIsTestDc (getTqueueId userId isTestDc) = isTestDc := by
  obtain ⟨number, rfl⟩ := Int.eq_ofNat_of_zero_le (Int.le_of_lt positive)
  have bound : number < 2 ^ 54 := by exact_mod_cast small
  constructor
  · cases isTestDc with
    | false =>
        change ((number &&& (2 ^ 54 - 1) : Nat) : Int) = number
        rw [Nat.and_two_pow_sub_one_eq_mod, Nat.mod_eq_of_lt bound]
    | true =>
        change ((number + 2 ^ 54 &&& (2 ^ 54 - 1) : Nat) : Int) = number
        rw [Nat.and_two_pow_sub_one_eq_mod, Nat.add_mod_right, Nat.mod_eq_of_lt bound]
  · cases isTestDc with
    | false =>
        refine decide_eq_false ?_
        change ¬ 2 ^ 54 ≤ (number : Int) + 0
        omega
    | true =>
        refine decide_eq_true ?_
        change 2 ^ 54 ≤ (number : Int) + 2 ^ 54
        omega

theorem allowed_token (env : Environment) (toUint64 : String → Nat) (decoding : Decoding env toUint64) (token : String)
    (userId : Int) (allowed : allowedUserId env token = some userId) :
    '/' ∉ token.toList ∧ 0 < userId ∧ userId < 2 ^ 54 ∧
      token.toList = (toString userId).toList ++ ':' :: (token.toList.dropWhile (· ≠ ':')).drop 1 := by
  unfold allowedUserId at allowed
  split at allowed
  · cases allowed
  · rename_i wellFormed
    cases parsed : env.toInt64 (String.ofList (token.toList.takeWhile (· ≠ ':'))) with
    | none =>
        rw [parsed] at allowed
        cases allowed
    | some number =>
        simp only [parsed] at allowed
        split at allowed
        · cases allowed
        · rename_i inRange
          cases allowed
          simp only [Bool.or_eq_true, decide_eq_true_eq, Bool.not_eq_true', decide_eq_false_iff_not, not_or,
            not_not] at wellFormed inRange
          refine ⟨wellFormed.1.2, by omega, by omega, ?_⟩
          rw [decoding.toInt64 _ _ parsed, String.toList_ofList]
          have colon : token.toList.dropWhile (· ≠ ':') = ':' :: (token.toList.dropWhile (· ≠ ':')).drop 1 := by
            have present : token.toList.dropWhile (· ≠ ':') ≠ [] := by
              intro none
              have all := List.dropWhile_eq_nil_iff.1 none ':' wellFormed.2
              simp at all
            obtain ⟨head, rest, same⟩ := List.exists_cons_of_ne_nil present
            have stops := List.head_dropWhile_not (fun char => decide (char ≠ ':')) present
            simp only [same, List.head_cons, decide_eq_false_iff_not, not_not] at stops
            rw [same, stops, List.drop_one, List.tail_cons]
          rw [← colon, List.takeWhile_append_dropWhile]

theorem digits_of_number (number : Nat) (char : Char)
    (member : char ∈ (toString (number : Int)).toList) : char.isDigit = true := by
  have digits : (toString (number : Int)).toList = Nat.toDigits 10 number := String.toList_ofList
  rw [digits] at member
  exact Nat.isDigit_of_mem_toDigits (by decide) (by decide) member

theorem no_tilde (env : Environment) (toUint64 : String → Nat) (decoding : Decoding env toUint64) (identity : Identity)
    (userId : Int) (allowed : allowedUserId env identity.token = some userId)
    (accepted : TelegramBotApi.Client.acceptsToken env.base64urlDecodes identity.token = true) :
    '~' ∉ identity.withDc.toList := by
  obtain ⟨_, positive, _, split⟩ := allowed_token env toUint64 decoding identity.token userId allowed
  obtain ⟨number, rfl⟩ := Int.eq_ofNat_of_zero_le (Int.le_of_lt positive)
  have decoded : env.base64urlDecodes (String.ofList ((identity.token.toList.dropWhile (· ≠ ':')).drop 1)) = true := by
    simp only [TelegramBotApi.Client.acceptsToken, Bool.and_eq_true] at accepted
    exact accepted.2.1
  have inToken : '~' ∉ identity.token.toList := by
    rw [split]
    intro member
    rcases List.mem_append.1 member with number | rest
    · exact absurd (digits_of_number _ _ number) (by decide)
    · rcases List.mem_cons.1 rest with colon | second
      · exact absurd colon (by decide)
      · exact absurd (decoding.base64url _ decoded '~' (by simpa using second)) (by decide)
  cases dc : identity.isTestDc <;> simp [TelegramBotApi.Client.Identity.withDc, dc, inToken]

theorem map_replace_colon_inj (first last : List Char) (plain : '~' ∉ first) (other : '~' ∉ last)
    (same : first.map replaceColon = last.map replaceColon) : first = last := by
  have back (chars : List Char) (absent : '~' ∉ chars) :
      (chars.map replaceColon).map (fun char => if char = '~' then ':' else char) = chars := by
    rw [List.map_map]
    refine (List.map_congr_left (fun char member => ?_)).trans (List.map_id chars)
    have known : char ≠ '~' := fun tilde => absent (tilde ▸ member)
    by_cases colon : char = ':' <;> simp [replaceColon, colon, known]
  rw [← back first plain, same, back last other]

theorem decodes_base64url (env : Environment) (toUint64 : String → Nat) (decoding : Decoding env toUint64) :
    TelegramBotApi.Client.DecodesBase64url env.base64urlDecodes where
  colon text decoded member := absurd (decoding.base64url text decoded ':' member) (by decide)

theorem with_dc_inj (env : Environment) (toUint64 : String → Nat) (decoding : Decoding env toUint64) (first last : Identity)
    (accepted : TelegramBotApi.Client.acceptsToken env.base64urlDecodes first.token = true)
    (other : TelegramBotApi.Client.acceptsToken env.base64urlDecodes last.token = true) (same : first.withDc = last.withDc) :
    first = last := by
  have decodes := decodes_base64url env toUint64 decoding
  rw [← TelegramBotApi.Client.read_identity_with_dc _ decodes first accepted, same,
    TelegramBotApi.Client.read_identity_with_dc _ decodes last other]

theorem dir_inj (workingDirectory : String) (slash : Char) (allowColonInFilenames : Bool) (first last : Identity)
    (plain : '~' ∉ first.withDc.toList) (other : '~' ∉ last.withDc.toList)
    (same : dir workingDirectory slash allowColonInFilenames first = dir workingDirectory slash allowColonInFilenames last) :
    first.withDc = last.withDc := by
  apply String.toList_injective
  have suffixes := congrArg String.toList same
  simp only [dir, String.toList_append, String.toList_ofList, List.append_cancel_left_eq] at suffixes
  cases allowColonInFilenames with
  | true => simpa using suffixes
  | false =>
      simp only [Bool.false_eq_true, if_false, List.map_append, List.append_cancel_right_eq] at suffixes
      exact map_replace_colon_inj _ _ plain other suffixes

theorem stored_user_id (env : Environment) (toUint64 : String → Nat) (decoding : Decoding env toUint64) (identity : Identity)
    (userId : Int) (allowed : allowedUserId env identity.token = some userId) : (toUint64 identity.withDc : Int) = userId := by
  obtain ⟨_, positive, small, split⟩ := allowed_token env toUint64 decoding identity.token userId allowed
  obtain ⟨number, rfl⟩ := Int.eq_ofNat_of_zero_le (Int.le_of_lt positive)
  generalize (identity.token.toList.dropWhile (· ≠ ':')).drop 1 = second at split
  have key : identity.withDc = toString number ++
    String.ofList (':' :: second ++ (if identity.isTestDc then ":T" else "").toList) := by
    apply String.toList_injective
    rw [TelegramBotApi.Client.Identity.withDc, String.toList_append, split, String.toList_append, String.toList_ofList,
      List.append_assoc]
    rfl
  have bound : number < 2 ^ 64 := by
    have less : (number : Int) < 2 ^ 54 := small
    omega
  rw [key, decoding.toUint64 number _ bound]
  simp

theorem bots_separate (env : Environment) (toUint64 : String → Nat) (decoding : Decoding env toUint64) (first last : Identity)
    (firstId lastId : Int) (firstAllowed : allowedUserId env first.token = some firstId)
    (lastAllowed : allowedUserId env last.token = some lastId)
    (accepted : TelegramBotApi.Client.acceptsToken env.base64urlDecodes first.token = true)
    (other : TelegramBotApi.Client.acceptsToken env.base64urlDecodes last.token = true) :
    Separate toUint64 first last firstId where
  webhookKeys := ⟨with_dc_inj env toUint64 decoding first last accepted other, fun same => same ▸ rfl⟩
  directories := by
    intro workingDirectory slash allowColonInFilenames
    refine ⟨fun same => ?_, fun same => same ▸ rfl⟩
    apply with_dc_inj env toUint64 decoding first last accepted other
    exact dir_inj workingDirectory slash allowColonInFilenames first last
      (no_tilde env toUint64 decoding first firstId firstAllowed accepted)
      (no_tilde env toUint64 decoding last lastId lastAllowed other) same
  restored webhookInfo :=
    TelegramBotApi.Client.read_identity_with_dc _ (decodes_base64url env toUint64 decoding) first accepted
  ranges tokenRange := by rw [keepsWebhook, stored_user_id env toUint64 decoding first firstId firstAllowed]

theorem bots_identified (env : Environment) (toUint64 : String → Nat) (decoding : Decoding env toUint64) (first last : Identity)
    (firstId lastId : Int) (firstAllowed : allowedUserId env first.token = some firstId)
    (lastAllowed : allowedUserId env last.token = some lastId) :
    Identified env toUint64 first last firstId lastId := by
  obtain ⟨firstPlain, firstPositive, firstSmall, _⟩ := allowed_token env toUint64 decoding first.token firstId firstAllowed
  obtain ⟨lastPlain, lastPositive, lastSmall, _⟩ := allowed_token env toUint64 decoding last.token lastId lastAllowed
  obtain ⟨userId, isTestDc⟩ := response_of_tqueue_id firstId first.isTestDc firstPositive firstSmall
  constructor
  · refine ⟨fun same => ?_, fun same => same ▸ rfl⟩
    obtain ⟨token, dc⟩ := Client.key_inj first.token last.token first.isTestDc last.isTestDc firstPlain lastPlain same
    cases first
    cases last
    cases token
    cases dc
    rfl
  · exact tqueue_id_inj firstId lastId first.isTestDc last.isTestDc firstPositive lastPositive firstSmall lastSmall
  · exact userId
  · exact isTestDc
  · exact bots_separate env toUint64 decoding first last firstId lastId firstAllowed lastAllowed

section Example

def leadingNumber (text : String) : Nat := Nat.ofDigitChars 10 (text.toList.takeWhile Char.isDigit) 0 % 2 ^ 64

def oddBots : Environment where
  toInt64 text := (some (leadingNumber text : Int)).filter (fun value => decide (toString value = text ∧ value < 2 ^ 63))
  tokenRange userId := userId % 2 = 1
  base64urlDecodes text := text.toList.all (fun char => char.isAlphanum || char = '-' || char = '_' || char = '=')

theorem odd_bots_decoding : Decoding oddBots leadingNumber where
  toInt64 text value accepted := by
    simp only [oddBots] at accepted
    exact (of_decide_eq_true (Option.filter_eq_some_iff.1 accepted).2).1
  toUint64 := by
    intro value rest small stops
    have digits : (toString value ++ rest).toList.takeWhile Char.isDigit = Nat.toDigits 10 value := by
      rw [String.toList_append, show (toString value).toList = Nat.toDigits 10 value from Nat.toList_repr,
        List.takeWhile_append_of_pos (fun char member => Nat.isDigit_of_mem_toDigits (by decide) (by decide) member)]
      cases chars : rest.toList with
      | nil => simp
      | cons next tail =>
          have other : next.isDigit = false := stops next (by simp [chars])
          simp [List.takeWhile, other]
    rw [leadingNumber, digits, Nat.ofDigitChars_ten_toDigits, Nat.mod_eq_of_lt small]
  base64url text decoded char member := by
    have known := List.all_eq_true.1 decoded char member
    simpa [or_assoc] using known

def oddToken : String := "17:AAECAwQFBgcICQoLDA0ODw-_"

theorem odd_bots_identified : allowedUserId oddBots oddToken = some 17 ∧
    TelegramBotApi.Client.acceptsToken oddBots.base64urlDecodes oddToken = true ∧
    Identified oddBots leadingNumber ⟨oddToken, false⟩ ⟨oddToken, true⟩ 17 17 := by
  have allowed : allowedUserId oddBots oddToken = some 17 := by decide +kernel
  exact ⟨allowed, by decide +kernel, bots_identified oddBots leadingNumber odd_bots_decoding ⟨oddToken, false⟩ ⟨oddToken, true⟩
    17 17 allowed allowed⟩

end Example

end TelegramBotApi.BotIdentities
