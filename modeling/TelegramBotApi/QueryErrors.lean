import TelegramBotApi.Lib.Checked
import TelegramBotApi.Lib.Texts

set_option autoImplicit false

-- A character of a text is a byte of the source's slices.
namespace TelegramBotApi.QueryErrors

open Checked Texts

inductive Check where
  | stateIsQuery   -- set_error
deriving DecidableEq

inductive QueryState where
  | query
  | ok
  | error
deriving DecidableEq

structure JsonQueryError where
  errorCode : Int
  description : String
  retryAfter : Option Int := none
deriving DecidableEq

structure Query where
  method : String
  state : QueryState := .query
  answer : Option JsonQueryError := none
  httpStatusCode : Int := 0
  retryAfter : Int := 0
deriving DecidableEq

namespace Query

def setError (query : Query) (httpStatusCode : Int) (result : JsonQueryError) : Except Check Query := do
  require .stateIsQuery (query.state = .query)
  return { query with answer := some result, state := .error, httpStatusCode }

def setRetryAfterError (query : Query) (retryAfter : Int) : Except Check Query :=
  { query with retryAfter }.setError 429
    { errorCode := 429, description := "Too Many Requests: retry after " ++ toString retryAfter, retryAfter := some retryAfter }

-- PromiseDeleter: what the promise of the query is set to.
def release (query : Query) : Except Check Query := if query.state = .query then query.setRetryAfterError 5 else .ok query

end Query

def failQuery (httpStatusCode : Int) (description : String) (query : Query) : Except Check Query := do
  let failed ← query.setError httpStatusCode { errorCode := httpStatusCode, description }
  failed.release

-- A code that the server gives for a reason; the empty message counts as one.
def isServerError (errorMessage : String) : Bool :=
  errorMessage.toList.all (fun char => char = '_' || char.isUpper || char.isDigit)

def remapErrorCode (errorCode : Int) (errorMessage : String) : Int :=
  if errorCode < 400 ∨ errorCode = 404 then 400
  else if errorCode = 403 ∧ isServerError errorMessage = true then 400
  else errorCode

-- The messages that the chain of comparisons knows, in its order.
def knownMessages : List (String × Int × String) :=
  [("MESSAGE_NOT_MODIFIED", 400,
      "message is not modified: specified new message content and reply markup are exactly the same as a " ++
      "current content and reply markup of the message"),
   ("WC_CONVERT_URL_INVALID", 400, "Wrong HTTP URL specified"),
   ("EXTERNAL_URL_INVALID", 400, "Wrong HTTP URL specified"),
   ("WEBPAGE_CURL_FAILED", 400, "Failed to get HTTP URL content"),
   ("WEBPAGE_MEDIA_EMPTY", 400, "Wrong type of the web page content"),
   ("MEDIA_GROUPED_INVALID", 400, "Can't use the media of the specified type in the album"),
   ("REPLY_MARKUP_TOO_LONG", 400, "reply markup is too long"),
   ("INPUT_USER_DEACTIVATED", 403, "Forbidden: user is deactivated"),
   ("USER_IS_BLOCKED", 403, "bot was blocked by the user"),
   ("USER_ADMIN_INVALID", 400, "user is an administrator of the chat"),
   ("File generation failed", 400, "can't upload file by URL"),
   ("CHAT_ABOUT_NOT_MODIFIED", 400, "chat description is not modified"),
   ("PACK_SHORT_NAME_INVALID", 400, "invalid sticker set name is specified"),
   ("PACK_SHORT_NAME_OCCUPIED", 400, "sticker set name is already occupied"),
   ("STICKER_EMOJI_INVALID", 400, "invalid sticker emojis"),
   ("QUERY_ID_INVALID", 400, "query is too old and response timeout expired or query ID is invalid"),
   ("MESSAGE_DELETE_FORBIDDEN", 400, "message can't be deleted")]

def rankMessages : List String := ["RANK_CHANGE_FORBIDDEN", "RANK_EMOJI_NOT_ALLOWED", "RANK_INVALID"]

def rewriteBadRequest (method errorMessage : String) : Int × String :=
  match knownMessages.lookup errorMessage with
  | some known => known
  | none =>
      if errorMessage ∈ rankMessages then
        (400, (if method = "setchatmembertag" then "TAG" else "CUSTOM_TITLE") ++ substr errorMessage 4)
      else (400, errorMessage)

-- fail_query_with_error from the change of the code up to the choice of the prefix.
def rewriteError (method : String) (errorCode : Int) (errorMessage defaultMessage : String) : Int × String :=
  let errorCode := remapErrorCode errorCode errorMessage
  if errorCode = 400 then rewriteBadRequest method (if defaultMessage = "" then errorMessage else defaultMessage)
  else (errorCode, errorMessage)

def prefixOf (errorCode : Int) : Option String :=
  if errorCode = 400 then some "Bad Request"
  else if errorCode = 401 then some "Unauthorized"
  else if errorCode = 403 then some "Forbidden"
  else if errorCode = 500 then some "Internal Server Error"
  else none

def lowerFirst (errorMessage : String) : String :=
  match errorMessage.toList with
  | [] => ""
  | [first] => String.ofList [first.toLower]
  | first :: second :: rest =>
      if second = '_' || second.isUpper then errorMessage else String.ofList (first.toLower :: second :: rest)

def addPrefix (phrase errorMessage : String) : String :=
  if beginsWith errorMessage phrase then errorMessage
  else if errorMessage = "" then phrase
  else phrase ++ ": " ++ lowerFirst errorMessage

section Errors

-- td::to_integer_safe<int>
variable (toIntegerSafe : String → Option Int)

def retryAfterPrefix : String := "Too Many Requests: retry after "

def getRetryAfterTime (errorMessage : String) : Int :=
  if beginsWith errorMessage retryAfterPrefix then
    match toIntegerSafe (substr errorMessage retryAfterPrefix.toList.length) with
    | some retryAfter => if 0 < retryAfter then retryAfter else 0
    | none => 0
  else 0

def failQueryWithError (query : Query) (errorCode : Int) (errorMessage defaultMessage : String) : Except Check Query :=
  if errorCode = 429 then
    if 0 < getRetryAfterTime toIntegerSafe errorMessage then do
      let failed ← query.setRetryAfterError (getRetryAfterTime toIntegerSafe errorMessage)
      failed.release
    else failQuery 500 errorMessage query
  else
    let error := rewriteError query.method errorCode errorMessage defaultMessage
    match prefixOf error.1 with
    | some phrase => failQuery error.1 (addPrefix phrase error.2) query
    | none => failQuery 400 ("Bad Request: " ++ error.2) query

end Errors

def phraseOf (status : Int) : String := if status = 429 then "Too Many Requests" else (prefixOf status).getD ""

def statuses : List Int := [400, 401, 403, 429, 500]

theorem phrase_of_prefix (errorCode : Int) (phrase : String) (known : prefixOf errorCode = some phrase) :
    errorCode ∈ statuses ∧ errorCode ≠ 429 ∧ phraseOf errorCode = phrase := by
  unfold prefixOf at known
  split_ifs at known with bad unauthorized forbidden internal <;> cases known <;> subst errorCode <;> decide

def isSupported (errorCode : Int) : Bool := errorCode < 400 || errorCode ∈ [400, 401, 403, 404, 500]

theorem known_codes (errorMessage : String) (error : Int × String) (known : knownMessages.lookup errorMessage = some error) :
    (prefixOf error.1).isSome = true := by
  have codes : ∀ message ∈ knownMessages, (prefixOf message.2.1).isSome = true := by decide
  obtain ⟨_, member⟩ : ∃ message, (message, error) ∈ knownMessages := by
    rw [List.lookup_eq_some_iff] at known
    obtain ⟨before, after, same, _⟩ := known
    exact ⟨errorMessage, by simp [same]⟩
  exact codes _ member

theorem rewritten_bad_request (method errorMessage : String) :
    (prefixOf (rewriteBadRequest method errorMessage).1).isSome = true := by
  unfold rewriteBadRequest
  cases known : knownMessages.lookup errorMessage with
  | some error => exact known_codes errorMessage error known
  | none =>
      dsimp only
      split <;> rfl

theorem rewrite_supported (method : String) (errorCode : Int) (errorMessage defaultMessage : String)
    (supported : isSupported errorCode = true) :
    (prefixOf (rewriteError method errorCode errorMessage defaultMessage).1).isSome = true := by
  unfold rewriteError
  by_cases bad : remapErrorCode errorCode errorMessage = 400
  · simpa only [if_pos bad] using rewritten_bad_request method _
  · simp only [if_neg bad]
    simp only [isSupported, Bool.or_eq_true, decide_eq_true_eq, List.mem_cons, List.not_mem_nil, or_false] at supported
    unfold remapErrorCode at bad ⊢
    split_ifs at bad ⊢ with small server
    · exact absurd rfl bad
    · exact absurd rfl bad
    · rcases supported with less | rfl | rfl | rfl | rfl | rfl
      · exact absurd (.inl less) small
      · rfl
      · rfl
      · rfl
      · exact absurd (.inr rfl) small
      · rfl

theorem rewrite_unsupported (method : String) (errorCode : Int) (errorMessage defaultMessage : String)
    (unsupported : isSupported errorCode = false) :
    rewriteError method errorCode errorMessage defaultMessage = (errorCode, errorMessage) ∧ prefixOf errorCode = none := by
  simp only [isSupported, Bool.or_eq_false_iff, decide_eq_false_iff_not, List.mem_cons, List.not_mem_nil, or_false,
    not_or] at unsupported
  obtain ⟨large, bad, unauthorized, forbidden, missing, internal⟩ := unsupported
  have same : remapErrorCode errorCode errorMessage = errorCode := by
    simp [remapErrorCode, large, missing, forbidden]
  simp [rewriteError, same, bad, prefixOf, unauthorized, forbidden, internal]

@[simp] theorem add_prefix_begins (phrase errorMessage : String) : beginsWith (addPrefix phrase errorMessage) phrase = true := by
  unfold addPrefix
  split_ifs with same empty
  · exact same
  · simp
  · rw [String.append_assoc]
    simp

theorem add_prefix_once (phrase errorMessage : String) (begins : beginsWith errorMessage phrase = true) :
    addPrefix phrase errorMessage = errorMessage := by
  rw [addPrefix, if_pos begins]

section Uniform

variable (toIntegerSafe : String → Option Int)

-- td::to_integer_safe accepts the texts that it would print itself.
def Canonical : Prop := ∀ text value, toIntegerSafe text = some value → toString value = text

def finalMessage (query : Query) (errorCode : Int) (errorMessage defaultMessage : String) : String :=
  if errorCode = 429 then errorMessage else (rewriteError query.method errorCode errorMessage defaultMessage).2

-- One answer: set_error checks that there was none before.
structure Uniform (message : String) (answered : Query) (answer : JsonQueryError) : Prop where
  state : answered.state = .error
  body : answered.answer = some answer
  status : answered.httpStatusCode ∈ statuses
  errorCode : answer.errorCode = answered.httpStatusCode
  phrase : beginsWith answer.description (phraseOf answered.httpStatusCode) = true
  once : beginsWith message (phraseOf answered.httpStatusCode) = true → answer.description = message

def AnsweredUniformly (query : Query) (errorCode : Int) (errorMessage defaultMessage : String) : Prop :=
  ∃ answered answer, failQueryWithError toIntegerSafe query errorCode errorMessage defaultMessage = .ok answered ∧
    Uniform (finalMessage query errorCode errorMessage defaultMessage) answered answer

-- A malformed 429 is answered as it came, and an unknown code gets a prefix in any case.
def Regular (errorCode : Int) (errorMessage : String) : Prop :=
  (errorCode = 429 → 0 < getRetryAfterTime toIntegerSafe errorMessage ∨ beginsWith errorMessage "Internal Server Error" = true) ∧
    (errorCode ≠ 429 → isSupported errorCode = false → beginsWith errorMessage "Bad Request" = false)

theorem fail_query_ok (status : Int) (description : String) (query : Query) (fresh : query.state = .query) :
    failQuery status description query = .ok { query with
      answer := some { errorCode := status, description }, state := .error, httpStatusCode := status } := by
  obtain ⟨method, state, answer, httpStatusCode, retryAfter⟩ := query
  cases fresh
  rfl

theorem fail_query_uniform (status : Int) (description message : String) (query : Query) (fresh : query.state = .query)
    (known : status ∈ statuses) :
    (∃ answered answer, failQuery status description query = .ok answered ∧ Uniform message answered answer) ↔
      beginsWith description (phraseOf status) = true ∧
      (beginsWith message (phraseOf status) = true → description = message) := by
  rw [fail_query_ok status description query fresh]
  constructor
  · rintro ⟨answered, answer, done, uniform⟩
    cases done
    have same := Option.some.inj uniform.body
    subst same
    exact ⟨uniform.phrase, uniform.once⟩
  · rintro ⟨begins, once⟩
    exact ⟨_, _, rfl, rfl, rfl, known, rfl, begins, once⟩

theorem retry_after_message (canonical : Canonical toIntegerSafe) (errorMessage : String)
    (positive : 0 < getRetryAfterTime toIntegerSafe errorMessage) :
    errorMessage = retryAfterPrefix ++ toString (getRetryAfterTime toIntegerSafe errorMessage) := by
  by_cases begins : beginsWith errorMessage retryAfterPrefix = true
  · obtain ⟨rest, rfl⟩ := (begins_with_iff _ _).1 begins
    rw [getRetryAfterTime, if_pos begins, substr_append] at positive ⊢
    cases parsed : toIntegerSafe rest with
    | none => simp [parsed] at positive
    | some retryAfter =>
        simp only [parsed] at positive ⊢
        split_ifs at positive ⊢ with large
        · rw [canonical rest retryAfter parsed]
        · omega
  · rw [getRetryAfterTime, if_neg begins] at positive
    omega

theorem retry_after_uniform (canonical : Canonical toIntegerSafe) (query : Query) (fresh : query.state = .query)
    (errorMessage defaultMessage : String) (positive : 0 < getRetryAfterTime toIntegerSafe errorMessage) :
    AnsweredUniformly toIntegerSafe query 429 errorMessage defaultMessage := by
  have message := retry_after_message toIntegerSafe canonical errorMessage positive
  unfold AnsweredUniformly
  rw [failQueryWithError, if_pos rfl, if_pos positive, finalMessage, if_pos rfl]
  obtain ⟨method, state, answer, httpStatusCode, retryAfter⟩ := query
  cases fresh
  refine ⟨_, _, rfl, rfl, rfl, show (429 : Int) ∈ statuses by decide, rfl, ?_, fun _ => message.symm⟩
  exact (begins_with_iff _ _).2 ⟨": retry after " ++ toString (getRetryAfterTime toIntegerSafe errorMessage), rfl⟩

theorem malformed_retry_uniform (query : Query) (fresh : query.state = .query) (errorMessage defaultMessage : String)
    (malformed : ¬ 0 < getRetryAfterTime toIntegerSafe errorMessage) :
    AnsweredUniformly toIntegerSafe query 429 errorMessage defaultMessage ↔
    beginsWith errorMessage "Internal Server Error" = true := by
  unfold AnsweredUniformly
  rw [failQueryWithError, if_pos rfl, if_neg malformed, finalMessage, if_pos rfl,
    fail_query_uniform 500 errorMessage errorMessage query fresh (by decide)]
  exact and_iff_left (fun _ => rfl)

theorem supported_uniform (query : Query) (fresh : query.state = .query) (errorCode : Int) (errorMessage defaultMessage : String)
    (other : errorCode ≠ 429) (supported : isSupported errorCode = true) :
    AnsweredUniformly toIntegerSafe query errorCode errorMessage defaultMessage := by
  obtain ⟨phrase, known⟩ := Option.isSome_iff_exists.1
    (rewrite_supported query.method errorCode errorMessage defaultMessage supported)
  obtain ⟨status, _, same⟩ := phrase_of_prefix _ phrase known
  unfold AnsweredUniformly
  rw [failQueryWithError, if_neg other, finalMessage, if_neg other]
  dsimp only
  rw [known]
  dsimp only
  rw [fail_query_uniform _ _ _ query fresh status, same]
  exact ⟨add_prefix_begins phrase _, add_prefix_once phrase _⟩

theorem unsupported_uniform (query : Query) (fresh : query.state = .query) (errorCode : Int)
    (errorMessage defaultMessage : String)
    (other : errorCode ≠ 429) (unsupported : isSupported errorCode = false) :
    AnsweredUniformly toIntegerSafe query errorCode errorMessage defaultMessage ↔
    beginsWith errorMessage "Bad Request" = false := by
  obtain ⟨same, none⟩ := rewrite_unsupported query.method errorCode errorMessage defaultMessage unsupported
  unfold AnsweredUniformly
  rw [failQueryWithError, if_neg other, finalMessage, if_neg other, same]
  dsimp only
  rw [none]
  dsimp only
  rw [fail_query_uniform 400 _ _ query fresh (by decide)]
  have begins : beginsWith ("Bad Request: " ++ errorMessage) (phraseOf 400) = true :=
    (begins_with_iff _ _).2 ⟨": " ++ errorMessage, by rw [← String.append_assoc]; rfl⟩
  have changed : "Bad Request: " ++ errorMessage ≠ errorMessage := append_ne_self _ _ (by decide)
  rw [and_iff_right begins]
  change (beginsWith errorMessage "Bad Request" = true → _) ↔ _
  simp [changed]

end Uniform

def digitsValue (digits : List Char) : Int := digits.foldl (fun value digit => 10 * value + (digit.toNat - 48)) 0

-- td::to_integer_safe<int> on the texts without a sign
def safeInt32 (text : String) : Option Int :=
  (some (digitsValue text.toList)).filter (fun value => decide (toString value = text ∧ value < 2 ^ 31))

theorem safe_int32_canonical : Canonical safeInt32 := by
  intro text value accepted
  obtain ⟨_, kept⟩ := Option.filter_eq_some_iff.1 accepted
  exact (of_decide_eq_true kept).1

end TelegramBotApi.QueryErrors
