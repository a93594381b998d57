import TelegramBotApi.GetUpdates

set_option autoImplicit false

namespace TelegramBotApi.Client

open Checked

section SetWebhook

variable {Queue : Type} (env : Environment Queue)

def attachedFile (query : Query) : Option HttpFile :=
  let attachName := query.arg "certificate"
  if "attach://".toList.isPrefixOf attachName.toList then query.file (String.ofList (attachName.toList.drop 9)) else none

def getWebhookCertificate (query : Query) : Option HttpFile := (query.file "certificate").or (attachedFile query)

def getWebhookMaxConnections (query : Query) : Int :=
  getIntegerArg env query "max_connections" env.parameters.defaultMaxWebhookConnections 1
    (if env.parameters.localMode then 100000 else 100)

def getWebhookFixIpAddress (query : Query) : Bool :=
  if query.isInternal then query.hasArg "fix_ip_address" else query.arg "ip_address" ≠ ""

def newUrl (query : Query) : String := if query.method = "setwebhook" then query.arg "url" else ""

def newHasCertificate (query : Query) : Bool :=
  newUrl query ≠ "" &&
    ((getWebhookCertificate query).isSome || query.isInternal && query.arg "certificate" = "previous")

def newMaxConnections (query : Query) : Int := if newUrl query = "" then 0 else getWebhookMaxConnections env query

def newIpAddress (query : Query) : String := if newUrl query = "" then "" else query.arg "ip_address"

def newFixIpAddress (query : Query) : Bool := newUrl query ≠ "" && getWebhookFixIpAddress query

def newSecretToken (query : Query) : String := if newUrl query = "" then "" else query.arg "secret_token"

def dropPendingUpdates (query : Query) : Bool := toBool (query.arg "drop_pending_updates")

def webhookInfoOf (hasCertificate : Bool) (maxConnections : Int) (ipAddress : String) (fixIpAddress : Bool)
    (secretToken : String) (allowedUpdateTypes : Nat) (url : String) : String :=
  (if hasCertificate then "cert/" else "") ++ "#maxc" ++ toString maxConnections ++ "/" ++
  (if ipAddress ≠ "" then "#ip" ++ ipAddress ++ "/" else "") ++
  (if fixIpAddress then "#fix_ip/" else "") ++
  (if secretToken ≠ "" then "#secret" ++ secretToken ++ "/" else "") ++
  (if allowedUpdateTypes ≠ defaultAllowedUpdateTypes then "#allow" ++ toString allowedUpdateTypes ++ "/"
    else "") ++ url

-- The value of the bot's key in webhook_db_.
def webhookInfo (state : State Queue) : String :=
  webhookInfoOf state.hasWebhookCertificate state.webhookMaxConnections state.webhookIpAddress state.webhookFixIpAddress
    state.webhookSecretToken state.allowedUpdateTypes state.webhookUrl

def saveWebhook (state : State Queue) : State Queue := { state with webhookDb := some (webhookInfo state) }

def finishSetWebhook (draws : Draws) (query : Query) (state : State Queue) : Except Check (State Queue) := do
  require .activeQueryEmpty (state.activeWebhookSetQuery = none)
  require .setQueryEmpty (state.webhookSetQuery = none)
  require .webhookUrlEmpty (state.webhookUrl = "")
  if state.loggingOut || state.closing then failQueryClosing draws query state
  else
    let url := query.arg "url"
    require .newUrlNotEmpty (url ≠ "")
    let (_, updated) ← updateAllowedUpdateTypes env query
      { state with
        webhookUrl := url
        webhookMaxConnections := getWebhookMaxConnections env query
        webhookSecretToken := query.arg "secret_token"
        webhookIpAddress := query.arg "ip_address"
        webhookFixIpAddress := getWebhookFixIpAddress query }
    require .newUrlParses (env.library.parseUrl url = true)
    let created := { updated with
      webhookId := some updated.webhookGeneration
      webhookActors := updated.webhookActors ++ [updated.webhookGeneration]
      webhookQueryType := .verify }
    require .activeQueryEmpty (created.activeWebhookSetQuery = none)
    return { created with webhookSetQuery := some query }

def isBase64urlCharacters (token : String) : Bool :=
  token.toList.all (fun char => char.isAlphanum || char = '-' || char = '_')

def invalidWebhook (query : Query) : Option String :=
  let secretToken := query.arg "secret_token"
  if !env.library.parseUrl (newUrl query) then some "Bad Request: invalid webhook URL specified"
  else if 256 < secretToken.utf8ByteSize then some "Bad Request: secret token is too long"
  else if !isBase64urlCharacters secretToken then some "Bad Request: secret token contains unallowed characters"
  else none

def certificateTooBig (size : Int) : String :=
  "Bad Request: certificate size is too big (" ++ toString size ++ " bytes)"

def setCertificate (draws : Draws) (query : Query) (state : State Queue) : Except Check (State Queue) :=
  if query.isInternal then
    finishSetWebhook env draws query { state with hasWebhookCertificate := query.arg "certificate" = "previous" }
  else
    match getWebhookCertificate query with
    | none => finishSetWebhook env draws query state
    | some file =>
        if maxCertificateFileSize < file.size then .ok (state.answer query (.error 400 (certificateTooBig file.size)))
        else do
          require .setQueryEmpty (state.webhookSetQuery = none)
          return { state with activeWebhookSetQuery := some query, certificateCopies := state.certificateCopies + 1 }

def setNewWebhook (draws : Draws) (query : Query) (state : State Queue) : Except Check (State Queue) :=
  match invalidWebhook env query with
  | some message => .ok (state.answer query (.error 400 message))
  | none =>
      if state.activeWebhookSetQuery.isSome then .ok (state.answer query (.retryAfter 1))
      else do
        require .certificateEmpty (state.hasWebhookCertificate = false)
        setCertificate env draws query state

def clearPendingUpdates (query : Query) (state : State Queue) : Except Check (State Queue) :=
  if dropPendingUpdates query then clearTqueue env state else .ok state

def doSetWebhook (draws : Draws) (query : Query) (wasDeleted : Bool) (state : State Queue) :
    Except Check (State Queue) := do
  require .webhookUrlEmpty (state.webhookUrl = "")
  if state.loggingOut || state.closing then failQueryClosing draws query state
  else
    let cleared ← clearPendingUpdates env query state
    if newUrl query ≠ "" then setNewWebhook env draws query cleared
    else return cleared.answer query (.ok (if wasDeleted then "Webhook was deleted" else "Webhook is already deleted"))

def onWebhookCertificateCopied (draws : Draws) (copied : Bool) (state : State Queue) : Except Check (State Queue) :=
  match state.activeWebhookSetQuery with
  | none => .error .activeQueryNotEmpty
  | some query =>
      let taken := { state with activeWebhookSetQuery := none }
      if copied then finishSetWebhook env draws query { taken with hasWebhookCertificate := true }
      else .ok (taken.answer query (.error 500 "Internal Server Error: failed to save certificate"))

def isNotModified (query : Query) (state : State Queue) : Bool :=
  state.webhookUrl = newUrl query && !state.hasWebhookCertificate && !newHasCertificate query &&
    newMaxConnections env query = state.webhookMaxConnections && newFixIpAddress query = state.webhookFixIpAddress &&
    newSecretToken query = state.webhookSecretToken &&
    (!newFixIpAddress query || newIpAddress query = state.webhookIpAddress) && !dropPendingUpdates query

def keepWebhook (query : Query) (state : State Queue) : Except Check (State Queue) := do
  let (changed, updated) ← updateAllowedUpdateTypes env query state
  let saved := if changed then saveWebhook updated else updated
  return saved.answer query
    (.ok (if newUrl query = "" then "Webhook is already deleted" else "Webhook is already set"))

-- The old webhook is closed first; its actor calls webhook_closed.
def replaceWebhook (draws : Draws) (query : Query) (state : State Queue) : Except Check (State Queue) :=
  let aborted := if newUrl query ≠ "" then abortLongPoll draws true state else state
  let next := { aborted with webhookGeneration := aborted.webhookGeneration + 1 }
  if next.webhookUrl ≠ "" then do
    require .activeQueryEmpty (next.activeWebhookSetQuery = none)
    return { next with webhookId := none, webhookQueryType := .cancel, webhookSetQuery := some query }
  else doSetWebhook env draws query false next

def startSetWebhook (draws : Draws) (query : Query) (state : State Queue) : Except Check (State Queue) :=
  match state.webhookSetQuery with
  | some previous =>
      replaceWebhook env draws query
        (failQueryConflict draws "Conflict: terminated by other setWebhook" previous { state with webhookSetQuery := none })
  | none =>
      if state.activeWebhookSetQuery.isSome then .ok (state.answer query (.retryAfter 1))
      else if isNotModified env query state then keepWebhook env query state
      else replaceWebhook env draws query state

def isRateLimited (query : Query) : Bool := newUrl query ≠ "" && !query.isInternal

def processSetWebhookQuery (draws : Draws) (query : Query) (state : State Queue) : Except Check (State Queue) :=
  if isRateLimited query ∧ draws.now < state.nextAllowedSetWebhookTime then .ok (state.answer query (.retryAfter 1))
  else
    startSetWebhook env draws query
      { state with
        nextAllowedSetWebhookTime := if isRateLimited query then draws.now + second else state.nextAllowedSetWebhookTime
        nextBotUpdatesWarningTime :=
          max state.nextBotUpdatesWarningTime (draws.now + botUpdatesWarningDelay * second) }

-- The callbacks of the webhook actor with the given link token.
def webhookVerified (token : Nat) (cachedIpAddress : String) (state : State Queue) : State Queue :=
  if token ≠ state.webhookGeneration then state
  else
    let needSave := state.webhookSetQuery.isSome || cachedIpAddress ≠ state.webhookIpAddress
    let verified := { state with webhookIpAddress := cachedIpAddress, webhookSetQuery := none }
    let answered :=
      match state.webhookSetQuery with
      | none => verified
      | some query => verified.answer query (.ok "Webhook was set")
    if needSave then saveWebhook answered else answered

def onWebhookClosed (draws : Draws) (status : String) (state : State Queue) : Except Check (State Queue) :=
  let forgotten := { state with
    webhookId := none
    webhookUrl := ""
    hasWebhookCertificate := false
    webhookMaxConnections := 0
    webhookIpAddress := ""
    webhookFixIpAddress := false
    webhookSecretToken := ""
    webhookDb := none }
  match state.webhookSetQuery with
  | none => .ok forgotten
  | some query =>
      let taken := { forgotten with webhookSetQuery := none }
      match state.webhookQueryType with
      | .verify => .ok (taken.answer query (.error 400 ("Bad Request: bad webhook: " ++ status)))
      | .cancel => doSetWebhook env draws query true taken

def webhookClosed (draws : Draws) (status : String) (state : State Queue) : Except Check (State Queue) :=
  if state.hasWebhookCertificate then .ok { state with certificateUnlinks := state.certificateUnlinks ++ [status] }
  else onWebhookClosed env draws status state

def clientHangupShared (draws : Draws) (state : State Queue) : Except Check (State Queue) :=
  webhookClosed env draws "Unknown" state

end SetWebhook

end TelegramBotApi.Client
