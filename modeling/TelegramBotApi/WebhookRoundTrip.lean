import TelegramBotApi.SetWebhookSafety
import TelegramBotApi.WebhookRestore

set_option autoImplicit false

namespace TelegramBotApi.Client

open Checked

def storedField (tag : String) (stored : Bool) (value : List Char) : List Char :=
  if stored then tag.toList ++ (value ++ ['/']) else []

def storedArg (name : String) (stored : Bool) (value : String) : List (String × String) :=
  if stored then [(name, value)] else []

theorem is_prefix_of_append (tag rest : List Char) : tag.isPrefixOf (tag ++ rest) = true := by
  induction tag with
  | nil => rfl
  | cons char tag ih => simp [ih]

theorem try_skip_append (tag : String) (rest : List Char) : trySkip tag (tag.toList ++ rest) = some rest := by
  simp [trySkip, is_prefix_of_append]

theorem read_till_slash_append (value rest : List Char) (plain : '/' ∉ value) :
    readTillSlash (value ++ '/' :: rest) = (value, '/' :: rest) := by
  have ends : '/' ∈ value ++ '/' :: rest := by simp
  have stops : ∀ char ∈ value, decide (char ≠ '/') = true := by
    intro char member
    rw [decide_eq_true_eq]
    rintro rfl
    exact plain member
  rw [readTillSlash, if_pos ends, List.takeWhile_append_of_pos stops, List.dropWhile_append_of_pos stops]
  simp

theorem read_field_stored (tag name : String) (stored : Bool) (value : String) (args : List (String × String))
    (rest : List Char) (plain : '/' ∉ value.toList) (absent : trySkip tag rest = none) :
    readField tag name ⟨args, storedField tag stored value.toList ++ rest⟩ = ⟨args ++ storedArg name stored value, rest⟩ := by
  cases stored with
  | true =>
      simp [storedField, storedArg, readField, try_skip_append, read_till_slash_append _ _ plain, skipSlash]
  | false => simp [storedField, storedArg, readField, absent]

theorem read_flag_stored (tag name : String) (stored : Bool) (args : List (String × String)) (rest : List Char)
    (absent : trySkip tag rest = none) :
    readFlag tag name ⟨args, storedField tag stored [] ++ rest⟩ = ⟨args ++ storedArg name stored "1", rest⟩ := by
  cases stored with
  | true => simp [storedField, storedArg, readFlag, try_skip_append, skipSlash]
  | false => simp [storedField, storedArg, readFlag, absent]

theorem read_certificate_stored (stored : Bool) (rest : List Char) (absent : trySkip "cert/" rest = none) :
    readCertificate ⟨[], (if stored then "cert/".toList else []) ++ rest⟩ =
      ⟨storedArg "certificate" stored "previous", rest⟩ := by
  cases stored with
  | true =>
      rw [if_pos rfl, readCertificate]
      dsimp only
      rw [try_skip_append]
      rfl
  | false => simp [storedArg, readCertificate, absent]

structure Stored where
  hasCertificate : Bool
  maxConnections : Int
  ipAddress : String
  fixIpAddress : Bool
  secretToken : String
  allowedUpdateTypes : Nat
  url : String
deriving DecidableEq

namespace Stored

def allows (stored : Stored) : List Char :=
  storedField "#allow" (stored.allowedUpdateTypes ≠ defaultAllowedUpdateTypes) (toString stored.allowedUpdateTypes).toList ++
    stored.url.toList

def secret (stored : Stored) : List Char :=
  storedField "#secret" (stored.secretToken ≠ "") stored.secretToken.toList ++ stored.allows

def fixIp (stored : Stored) : List Char := storedField "#fix_ip" stored.fixIpAddress [] ++ stored.secret

def ip (stored : Stored) : List Char :=
  storedField "#ip" (stored.ipAddress ≠ "") stored.ipAddress.toList ++ stored.fixIp

def text (stored : Stored) : List Char :=
  (if stored.hasCertificate then "cert/".toList else []) ++
    (storedField "#maxc" true (toString stored.maxConnections).toList ++ stored.ip)

def args (stored : Stored) : List (String × String) :=
  storedArg "certificate" stored.hasCertificate "previous" ++
    storedArg "max_connections" true (toString stored.maxConnections) ++
    storedArg "ip_address" (stored.ipAddress ≠ "") stored.ipAddress ++
    storedArg "fix_ip_address" stored.fixIpAddress "1" ++
    storedArg "secret_token" (stored.secretToken ≠ "") stored.secretToken ++
    storedArg "allowed_updates" (stored.allowedUpdateTypes ≠ defaultAllowedUpdateTypes)
      (toString stored.allowedUpdateTypes)

end Stored

-- No field is taken for another one, and the address is not taken for a field.
theorem try_skip_url (tag : String) (url : List Char) (tagged : tag.toList.head? = some '#') (plain : url.head? ≠ some '#') :
    trySkip tag url = none := by
  rw [trySkip, if_neg]
  cases letters : tag.toList with
  | nil => simp [letters] at tagged
  | cons first rest =>
      cases url with
      | nil => simp [List.isPrefixOf]
      | cons char url =>
          have hash : first = '#' := by simpa [letters] using tagged
          have other : char ≠ '#' := by simpa using plain
          simp [List.isPrefixOf, hash, Ne.symm other]

theorem try_skip_field (tag other : String) (stored : Bool) (value rest : List Char)
    (differs : ∀ text, trySkip tag (other.toList ++ text) = none) (absent : trySkip tag rest = none) :
    trySkip tag (storedField other stored value ++ rest) = none := by
  cases stored with
  | true => simpa [storedField] using differs _
  | false => simpa [storedField] using absent

theorem try_skip_allows (tag : String) (stored : Stored) (tagged : tag.toList.head? = some '#')
    (plain : stored.url.toList.head? ≠ some '#') (differs : ∀ text, trySkip tag ("#allow".toList ++ text) = none) :
    trySkip tag stored.allows = none :=
  try_skip_field tag "#allow" _ _ _ differs (try_skip_url tag _ tagged plain)

theorem parse_webhook_info_text (stored : Stored) (plain : stored.url.toList.head? ≠ some '#')
    (ipPlain : '/' ∉ stored.ipAddress.toList) (secretPlain : '/' ∉ stored.secretToken.toList)
    (maxPlain : '/' ∉ (toString stored.maxConnections).toList) (allowPlain : '/' ∉ (toString stored.allowedUpdateTypes).toList) :
    parseWebhookInfo stored.text = ⟨stored.args, stored.url.toList⟩ := by
  have allows := try_skip_allows
  have afterAllow : trySkip "#allow" stored.url.toList = none := try_skip_url _ _ rfl plain
  have afterSecret : trySkip "#secret" stored.allows = none := allows _ stored rfl plain (fun _ => rfl)
  have afterFix : trySkip "#fix_ip" stored.secret = none :=
    try_skip_field _ "#secret" _ _ _ (fun _ => rfl) (allows _ stored rfl plain (fun _ => rfl))
  have afterIp : trySkip "#ip" stored.fixIp = none :=
    try_skip_field _ "#fix_ip" _ _ _ (fun _ => rfl)
      (try_skip_field _ "#secret" _ _ _ (fun _ => rfl) (allows _ stored rfl plain (fun _ => rfl)))
  have afterMax : trySkip "#maxc" stored.ip = none :=
    try_skip_field _ "#ip" _ _ _ (fun _ => rfl) (try_skip_field _ "#fix_ip" _ _ _ (fun _ => rfl)
      (try_skip_field _ "#secret" _ _ _ (fun _ => rfl) (allows _ stored rfl plain (fun _ => rfl))))
  unfold parseWebhookInfo
  rw [Stored.text, read_certificate_stored _ _ rfl]
  dsimp only
  rw [read_field_stored _ _ _ _ _ _ maxPlain afterMax, Stored.ip, read_field_stored _ _ _ _ _ _ ipPlain afterIp,
    Stored.fixIp, read_flag_stored _ _ _ _ _ afterFix, Stored.secret, read_field_stored _ _ _ _ _ _ secretPlain afterSecret,
    Stored.allows, read_field_stored _ _ _ _ _ _ allowPlain afterAllow]
  rfl

theorem nat_text_plain (value : Nat) : '/' ∉ (toString value).toList := by
  intro member
  have digit : Char.isDigit '/' = true :=
    Nat.isDigit_of_mem_toDigits (by decide : 0 < 10) (by decide) (by simpa using member)
  exact absurd digit (by decide)

theorem int_text_plain (value : Int) : '/' ∉ (toString value).toList := by
  cases value with
  | ofNat value => exact nat_text_plain value
  | negSucc value =>
      change '/' ∉ ("-" ++ toString (value + 1)).toList
      rw [String.toList_append, List.mem_append, not_or]
      exact ⟨by decide, nat_text_plain (value + 1)⟩

theorem int_text_not_empty (value : Int) : toString value ≠ "" := by
  cases value with
  | ofNat value =>
      change toString value ≠ ""
      simp
  | negSucc value =>
      intro empty
      have long := congrArg String.toList (show "-" ++ toString (value + 1) = "" from empty)
      rw [String.toList_append] at long
      cases long

theorem base64url_plain (token : String) (allowed : isBase64urlCharacters token = true) : '/' ∉ token.toList := by
  intro member
  have slash := List.all_eq_true.1 allowed '/' member
  exact absurd slash (by decide)

section RoundTrip

variable {Queue : Type} (env : Environment Queue)

def State.stored (state : State Queue) : Stored where
  hasCertificate := state.hasWebhookCertificate
  maxConnections := state.webhookMaxConnections
  ipAddress := state.webhookIpAddress
  fixIpAddress := state.webhookFixIpAddress
  secretToken := state.webhookSecretToken
  allowedUpdateTypes := state.allowedUpdateTypes
  url := state.webhookUrl

theorem field_text (tag : String) (stored : Prop) [Decidable stored] (value : String) :
    (if stored then tag ++ value ++ "/" else "").toList = storedField tag (decide stored) value.toList := by
  by_cases present : stored
  · rw [if_pos present, decide_eq_true present, String.toList_append, String.toList_append, List.append_assoc]
    rfl
  · rw [if_neg present, decide_eq_false present]
    rfl

theorem fix_ip_text (fixIpAddress : Bool) :
    (if fixIpAddress then "#fix_ip/" else "").toList = storedField "#fix_ip" fixIpAddress [] := by
  cases fixIpAddress <;> rfl

theorem certificate_text (hasCertificate : Bool) :
    (if hasCertificate then "cert/" else "").toList = if hasCertificate then "cert/".toList else [] := by
  cases hasCertificate <;> rfl

theorem webhook_info_text (state : State Queue) : (webhookInfo state).toList = state.stored.text := by
  have maxConnections := field_text "#maxc" True (toString state.webhookMaxConnections)
  rw [if_pos trivial] at maxConnections
  unfold webhookInfo webhookInfoOf
  rw [String.toList_append, String.toList_append, String.toList_append, String.toList_append, String.toList_append,
    field_text, field_text, field_text, fix_ip_text, String.append_assoc, String.append_assoc, String.toList_append,
    certificate_text, ← String.append_assoc, maxConnections]
  simp only [List.append_assoc]
  rfl

def Stored.query (stored : Stored) : Query where
  id := 0
  method := "setwebhook"
  args := stored.args ++ [("url", stored.url)]
  isInternal := true

@[simp] theorem find_other (name key : String) (stored : Bool) (value : String) (differs : name ≠ key) :
    (storedArg name stored value).find? (fun arg => decide (arg.1 = key)) = none := by
  cases stored <;> simp [storedArg, differs]

@[simp] theorem find_same (key : String) (stored : Bool) (value : String) :
    (storedArg key stored value).find? (fun arg => decide (arg.1 = key)) = if stored then some (key, value) else none := by
  cases stored <;> simp [storedArg]

namespace Stored

variable (stored : Stored)

theorem query_certificate : stored.query.arg "certificate" = if stored.hasCertificate then "previous" else "" := by
  cases certificate : stored.hasCertificate <;> simp [query, args, Query.arg, certificate]

theorem query_max_connections : stored.query.arg "max_connections" = toString stored.maxConnections := by
  simp [query, args, Query.arg]

theorem query_ip_address : stored.query.arg "ip_address" = stored.ipAddress := by
  by_cases empty : stored.ipAddress = "" <;> simp [query, args, Query.arg, empty]

theorem query_secret_token : stored.query.arg "secret_token" = stored.secretToken := by
  by_cases empty : stored.secretToken = "" <;> simp [query, args, Query.arg, empty]

theorem query_allowed_updates : stored.query.arg "allowed_updates" =
    if stored.allowedUpdateTypes = defaultAllowedUpdateTypes then "" else toString stored.allowedUpdateTypes := by
  by_cases isDefault : stored.allowedUpdateTypes = defaultAllowedUpdateTypes <;>
    simp [query, args, Query.arg, isDefault]

theorem query_fix_ip_address : stored.query.hasArg "fix_ip_address" = stored.fixIpAddress := by
  cases fix : stored.fixIpAddress <;> simp [query, args, Query.hasArg, fix]

theorem query_url : stored.query.arg "url" = stored.url := by
  simp [query, args, Query.arg]

theorem query_drop : dropPendingUpdates stored.query = false := by
  have missing : stored.query.arg "drop_pending_updates" = "" := by simp [query, args, Query.arg]
  rw [dropPendingUpdates, missing]
  rfl

end Stored

-- What is relied on when td reads numbers back.
structure ReadsDecimals (library : Library) : Prop where
  int32 : ∀ value : Int, -2 ^ 31 ≤ value → value < 2 ^ 31 → library.toInt32 (toString value) = value
  number : ∀ value : Nat, library.jsonDecode (toString value) = some (.number (toString value))
  uint64 : ∀ value : Nat, value < 2 ^ 64 → library.toUint64 (toString value) = some value

def maxWebhookConnections : Int := if env.parameters.localMode then 100000 else 100

-- The webhooks that can have been verified. An address that td::IPAddress prints has
-- no slash.
structure Storable (stored : Stored) : Prop where
  maxConnections : 1 ≤ stored.maxConnections ∧ stored.maxConnections ≤ maxWebhookConnections env
  ipAddress : '/' ∉ stored.ipAddress.toList
  secretToken : stored.secretToken.utf8ByteSize ≤ 256 ∧ isBase64urlCharacters stored.secretToken = true
  allowedUpdateTypes : 0 < stored.allowedUpdateTypes ∧ stored.allowedUpdateTypes < 2 ^ 64
  url : stored.url ≠ "" ∧ env.library.parseUrl stored.url = true
  plain : ∀ char ∈ ['#', '/', '?'], stored.url.toList.head? ≠ some char

structure Vacant (state : State Queue) : Prop where
  online : state.tdClient = true
  isOpen : (state.loggingOut || state.closing) = false
  url : state.webhookUrl = ""
  setQuery : state.webhookSetQuery = none
  active : state.activeWebhookSetQuery = none
  allowedUpdateTypes : state.allowedUpdateTypes = defaultAllowedUpdateTypes

structure Fresh (state : State Queue) : Prop extends Vacant state where
  certificate : state.hasWebhookCertificate = false

theorem fresh_of_core (state after : State Queue) (same : after.core = state.core) (fresh : Fresh state) : Fresh after where
  online := (congrArg (fun core => core.tdClient) same).trans fresh.online
  isOpen := (congrArg (fun core => core.loggingOut || core.closing) same).trans fresh.isOpen
  url := (congrArg (fun core => core.url) same).trans fresh.url
  setQuery := (congrArg (fun core => core.setQuery) same).trans fresh.setQuery
  active := (congrArg (fun core => core.active) same).trans fresh.active
  allowedUpdateTypes := (congrArg (fun core => core.allowedUpdateTypes) same).trans fresh.allowedUpdateTypes
  certificate := (congrArg (fun core => core.hasCertificate) same).trans fresh.certificate

theorem restore_query_stored (old : State Queue) (storable : Storable env old.stored) :
    restoreQuery (webhookInfo old) = old.stored.query := by
  unfold restoreQuery
  rw [webhook_info_text, parse_webhook_info_text old.stored (storable.plain '#' (by decide)) storable.ipAddress
    (base64url_plain _ storable.secretToken.2) (int_text_plain _) (nat_text_plain _)]
  simp [Stored.query]

theorem restored_max_connections (stored : Stored) (reads : ReadsDecimals env.library) (storable : Storable env stored) :
    getWebhookMaxConnections env stored.query = stored.maxConnections := by
  obtain ⟨least, most⟩ := storable.maxConnections
  have small : maxWebhookConnections env ≤ 100000 := by
    unfold maxWebhookConnections
    split <;> omega
  have read := reads.int32 stored.maxConnections (by omega) (by omega)
  rw [maxWebhookConnections] at most
  rw [getWebhookMaxConnections, getIntegerArg, stored.query_max_connections, if_neg (int_text_not_empty _), read,
    min_eq_left most, max_eq_right least]

theorem restored_types (stored : Stored) (reads : ReadsDecimals env.library) (storable : Storable env stored) :
    getAllowedUpdateTypes env (stored.query.arg "allowed_updates") stored.query.isInternal =
      if stored.allowedUpdateTypes = defaultAllowedUpdateTypes then 0 else stored.allowedUpdateTypes := by
  have internal : stored.query.isInternal = true := rfl
  rw [stored.query_allowed_updates, internal]
  by_cases isDefault : stored.allowedUpdateTypes = defaultAllowedUpdateTypes
  · simp [isDefault, getAllowedUpdateTypes]
  · have number := reads.number stored.allowedUpdateTypes
    have read := reads.uint64 stored.allowedUpdateTypes storable.allowedUpdateTypes.2
    rw [if_neg isDefault, if_neg isDefault, getAllowedUpdateTypes, if_neg (by simp), number]
    change (env.library.toUint64 (toString stored.allowedUpdateTypes)).getD 0 = stored.allowedUpdateTypes
    rw [read]
    rfl

theorem update_restored_types (stored : Stored) (reads : ReadsDecimals env.library) (storable : Storable env stored)
    (state : State Queue) (online : state.tdClient = true) (isOpen : (state.loggingOut || state.closing) = false)
    (isDefault : state.allowedUpdateTypes = defaultAllowedUpdateTypes) :
    Passes (fun result => result.2.stored = { state.stored with allowedUpdateTypes := stored.allowedUpdateTypes } ∧
        result.2.activeWebhookSetQuery = state.activeWebhookSetQuery)
      (updateAllowedUpdateTypes env stored.query state) := by
  have opened : ¬ (state.closing || state.loggingOut) = true := by
    rw [Bool.or_comm, isOpen]
    exact Bool.false_ne_true
  unfold updateAllowedUpdateTypes
  rw [restored_types env stored reads storable]
  by_cases same : stored.allowedUpdateTypes = defaultAllowedUpdateTypes
  · rw [if_pos same]
    simp [State.ask, same, ← isDefault, State.stored]
  · have positive := storable.allowedUpdateTypes.1
    have asked : state.ask stored.allowedUpdateTypes = { state with asked := state.asked ++
        [⟨stored.allowedUpdateTypes, state.allowedUpdateTypes, (sentTypes state.requests).getLast?⟩] } :=
      if_neg (Nat.ne_of_gt positive)
    rw [if_neg same, if_pos ⟨Nat.ne_of_gt positive, isDefault ▸ same⟩, asked]
    dsimp only
    rw [sendRequest]
    dsimp only
    rw [if_neg opened, doSendRequest]
    simp [require, online, State.stored]

section Restoring

variable (draws : Draws) (stored : Stored) (reads : ReadsDecimals env.library) (storable : Storable env stored)

theorem restored_url : newUrl stored.query = stored.url :=
  (if_pos (show stored.query.method = "setwebhook" from rfl)).trans stored.query_url

theorem restored_fix_ip_address : getWebhookFixIpAddress stored.query = stored.fixIpAddress :=
  (if_pos (show stored.query.isInternal = true from rfl)).trans stored.query_fix_ip_address

include storable

theorem restored_valid : invalidWebhook env stored.query = none := by
  have short : ¬ 256 < stored.secretToken.utf8ByteSize := Nat.not_lt.2 storable.secretToken.1
  simp [invalidWebhook, restored_url, stored.query_secret_token, storable.url.2, storable.secretToken.2, short]

include reads

theorem finish_restored (state : State Queue) (vacant : Vacant state)
    (certificate : state.hasWebhookCertificate = stored.hasCertificate) :
    Passes (fun after => after.stored = stored) (finishSetWebhook env draws stored.query state) := by
  apply meets_require _ _ _ _ _ (fun busy => busy vacant.active)
  intro _
  apply meets_require _ _ _ _ _ (fun busy => busy vacant.setQuery)
  intro _
  apply meets_require _ _ _ _ _ (fun busy => busy vacant.url)
  intro _
  rw [if_neg (by simp [vacant.isOpen]), stored.query_url, stored.query_secret_token, stored.query_ip_address,
    restored_max_connections env stored reads storable, restored_fix_ip_address]
  apply meets_require _ _ _ _ _ (fun empty => empty storable.url.1)
  intro _
  refine meets_bind _ _ _ _ _ (update_restored_types env stored reads storable _ ?_ ?_ ?_) ?_
  · exact vacant.online
  · exact vacant.isOpen
  · exact vacant.allowedUpdateTypes
  rintro ⟨changed, updated⟩ ⟨same, active⟩
  apply meets_require _ _ _ _ _ (fun invalid => invalid storable.url.2)
  intro _
  apply meets_require _ _ _ _ _ (fun busy => busy (active.trans vacant.active))
  intro _
  have configured : updated.stored = stored := by
    rw [same, State.stored, certificate]
  exact configured

theorem set_new_restored (state : State Queue) (fresh : Fresh state) :
    Passes (fun after => after.stored = stored) (setNewWebhook env draws stored.query state) := by
  unfold setNewWebhook
  rw [restored_valid env stored storable]
  dsimp only
  rw [fresh.active, Option.isSome_none, if_neg Bool.false_ne_true]
  apply meets_require _ _ _ _ _ (fun present => present fresh.certificate)
  intro _
  rw [setCertificate, if_pos (show stored.query.isInternal = true from rfl), stored.query_certificate]
  apply finish_restored env draws stored reads storable
  · exact ⟨fresh.online, fresh.isOpen, fresh.url, fresh.setQuery, fresh.active, fresh.allowedUpdateTypes⟩
  · cases stored.hasCertificate <;> simp

theorem do_set_restored (state : State Queue) (fresh : Fresh state) :
    Passes (fun after => after.stored = stored) (doSetWebhook env draws stored.query false state) := by
  apply meets_require _ _ _ _ _ (fun busy => busy fresh.url)
  intro _
  rw [if_neg (by simp [fresh.isOpen]), clearPendingUpdates, stored.query_drop, if_neg Bool.false_ne_true, ok_bind,
    if_pos (by rw [restored_url]; exact storable.url.1)]
  exact set_new_restored env draws stored reads storable state fresh

theorem start_restored (state : State Queue) (fresh : Fresh state) :
    Passes (fun after => after.stored = stored) (startSetWebhook env draws stored.query state) := by
  have given : newUrl stored.query ≠ "" := restored_url stored ▸ storable.url.1
  have modified : isNotModified env stored.query state = false := by
    simp [isNotModified, fresh.url, Ne.symm given]
  have aborted : Fresh (abortLongPoll draws true state) := fresh_of_core _ _ (abort_long_poll_core draws true state) fresh
  unfold startSetWebhook
  rw [fresh.setQuery]
  dsimp only
  rw [fresh.active, Option.isSome_none, if_neg Bool.false_ne_true, modified, if_neg Bool.false_ne_true, replaceWebhook,
    if_pos given]
  dsimp only
  rw [if_neg (not_not.2 aborted.url)]
  exact do_set_restored env draws stored reads storable _ (fresh_of_core (abortLongPoll draws true state) _ rfl aborted)

theorem process_restored (state : State Queue) (fresh : Fresh state) :
    Passes (fun after => after.stored = stored) (processSetWebhookQuery env draws stored.query state) := by
  have unlimited : isRateLimited stored.query = false := by
    rw [isRateLimited, Bool.and_eq_false_iff]
    exact .inr rfl
  unfold processSetWebhookQuery
  rw [unlimited, if_neg (by simp)]
  exact start_restored env draws stored reads storable _ (fresh_of_core state _ rfl fresh)

end Restoring

-- What is relied on when td decodes the second part of a token.
structure DecodesBase64url (base64urlDecodes : String → Bool) : Prop where
  colon : ∀ text, base64urlDecodes text = true → ':' ∉ text.toList

theorem accepted_no_suffix (base64urlDecodes : String → Bool) (decodes : DecodesBase64url base64urlDecodes) (token : String)
    (accepted : acceptsToken base64urlDecodes token = true) : ¬ [':', 'T'] <:+ token.toList := by
  obtain ⟨colon, decoded, long⟩ : ':' ∈ token.toList ∧
      base64urlDecodes (String.ofList ((token.toList.dropWhile (· ≠ ':')).drop 1)) = true ∧
      24 ≤ ((token.toList.dropWhile (· ≠ ':')).drop 1).length := by
    simpa [acceptsToken] using accepted
  have absent := decodes.colon _ decoded
  rw [String.toList_ofList] at absent
  intro suffix
  have kept : (token.toList.dropWhile (· ≠ ':')).drop 1 <:+ token.toList :=
    (List.drop_suffix 1 _).trans (List.dropWhile_suffix _)
  have short : [':', 'T'].length ≤ ((token.toList.dropWhile (· ≠ ':')).drop 1).length := Nat.le_trans (by decide) long
  exact absent ((List.suffix_of_suffix_length_le suffix kept short).subset List.mem_cons_self)

theorem read_identity_with_dc (base64urlDecodes : String → Bool) (decodes : DecodesBase64url base64urlDecodes)
    (identity : Identity) (accepted : acceptsToken base64urlDecodes identity.token = true) :
    readIdentity identity.withDc = identity := by
  obtain ⟨token, isTestDc⟩ := identity
  cases isTestDc with
  | true =>
      have suffix : ":T".toList.isSuffixOf (token ++ ":T").toList = true :=
        List.isSuffixOf_iff_suffix.2 ⟨token.toList, String.toList_append.symm⟩
      rw [Identity.withDc, if_pos rfl, readIdentity, if_pos suffix]
      simp
  | false =>
      have other : ¬ ":T".toList.isSuffixOf token.toList = true :=
        fun suffix => accepted_no_suffix base64urlDecodes decodes token accepted (List.isSuffixOf_iff_suffix.1 suffix)
      rw [Identity.withDc, if_neg Bool.false_ne_true, String.append_empty, readIdentity, if_neg other]

theorem webhook_restored (base64urlDecodes : String → Bool) (decodes : DecodesBase64url base64urlDecodes)
    (reads : ReadsDecimals env.library) (draws : Draws) (identity : Identity)
    (accepted : acceptsToken base64urlDecodes identity.token = true) (old fresh : State Queue)
    (storable : Storable env old.stored) (isFresh : Fresh fresh) :
    (saveWebhook old).webhookDb = some (webhookInfo old) ∧
      (getWebhookRestoreQuery identity.withDc (webhookInfo old)).1 = identity ∧
      ∃ after, processSetWebhookQuery env draws (getWebhookRestoreQuery identity.withDc (webhookInfo old)).2 fresh = .ok after ∧
        after.stored = old.stored := by
  refine ⟨rfl, read_identity_with_dc base64urlDecodes decodes identity accepted, ?_⟩
  have restored : (getWebhookRestoreQuery identity.withDc (webhookInfo old)).2 = old.stored.query :=
    restore_query_stored env old storable
  rw [restored]
  exact passes_returns _ _ (process_restored env draws old.stored reads storable fresh isFresh)

end RoundTrip

section Restored

def digitsToInt : List Char → Int
  | '-' :: digits => -(Nat.ofDigitChars 10 digits 0 : Int)
  | digits => (Nat.ofDigitChars 10 digits 0 : Int)

def decimalLibrary : Library := { plainLibrary with
  jsonDecode := fun text => if text ≠ "" ∧ text.toList.all Char.isDigit then some (.number text) else none
  toInt32 := fun text => digitsToInt text.toList
  toUint64 := fun text => some (Nat.ofDigitChars 10 text.toList 0) }

def decimalServer : Environment ListQueue := { plainServer with library := decimalLibrary }

theorem digits_to_int_text (value : Int) : digitsToInt (toString value).toList = value := by
  cases value with
  | ofNat value =>
      have digits : (toString (Int.ofNat value)).toList = Nat.toDigits 10 value := by
        change (toString value).toList = _
        simp
      have unsigned : ∀ rest, Nat.toDigits 10 value ≠ '-' :: rest := by
        intro rest same
        have digit : Char.isDigit '-' = true :=
          Nat.isDigit_of_mem_toDigits (by decide : 0 < 10) (by decide) (same ▸ List.mem_cons_self)
        exact absurd digit (by decide)
      rw [digits, digitsToInt.eq_2 _ unsigned, Nat.ofDigitChars_ten_toDigits]
      rfl
  | negSucc value =>
      have digits : (toString (Int.negSucc value)).toList = '-' :: Nat.toDigits 10 (value + 1) := by
        change ("-" ++ toString (value + 1)).toList = _
        simp
      rw [digits, digitsToInt, Nat.ofDigitChars_ten_toDigits]
      rfl

theorem decimal_library_reads : ReadsDecimals decimalLibrary where
  int32 value _ _ := digits_to_int_text value
  number value := by
    have digits : (toString value).toList.all Char.isDigit = true := by
      rw [List.all_eq_true]
      intro char member
      exact Nat.isDigit_of_mem_toDigits (by decide : 0 < 10) (by decide) (by simpa using member)
    exact if_pos ⟨by simp, digits⟩
  uint64 value _ := by
    change some (Nat.ofDigitChars 10 (toString value).toList 0) = some value
    simp

def base64urlDecodes (text : String) : Bool := text.toList.all (fun char => char.isAlphanum || char = '-' || char = '_')

theorem base64url_decodes : DecodesBase64url base64urlDecodes where
  colon text decoded member := absurd (List.all_eq_true.1 decoded ':' member) (by decide)

def testDcBot : Identity := ⟨"110201543:AAHdqTcvCH1vGWJxfSeofSAs0K5PALDsaw", true⟩

-- An address that looks like the fields before it.
def slashedClient : State ListQueue := { startedClient with
  tdClient := true
  hasWebhookCertificate := true
  webhookMaxConnections := 40
  webhookIpAddress := "2001:db8::1"
  webhookFixIpAddress := true
  webhookSecretToken := "s-1_t"
  allowedUpdateTypes := 5
  webhookUrl := "cert/#maxc7/#allow9/" }

def authorizedClient : State ListQueue := { startedClient with wasAuthorized := true }

theorem slashed_webhook_storable : Storable decimalServer slashedClient.stored where
  maxConnections := by decide
  ipAddress := by simp [State.stored, slashedClient]
  secretToken := by decide +kernel
  allowedUpdateTypes := by decide
  url := by decide +kernel
  plain := by simp [State.stored, slashedClient]

theorem slashed_webhook_restored : ∃ after,
    processSetWebhookQuery decimalServer {} (getWebhookRestoreQuery testDcBot.withDc (webhookInfo slashedClient)).2
      authorizedClient = .ok after ∧ after.stored = slashedClient.stored :=
  (webhook_restored decimalServer base64urlDecodes base64url_decodes decimal_library_reads {} testDcBot (by decide +kernel)
    slashedClient authorizedClient slashed_webhook_storable ⟨⟨rfl, rfl, rfl, rfl, rfl, rfl⟩, rfl⟩).2.2

end Restored

end TelegramBotApi.Client
