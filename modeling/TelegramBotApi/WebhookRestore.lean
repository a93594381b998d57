import TelegramBotApi.Client

set_option autoImplicit false

namespace TelegramBotApi.Client

-- td::ConstParser over the rest of the text; after an error nothing is left.
def trySkip (tag : String) (rest : List Char) : Option (List Char) :=
  if tag.toList.isPrefixOf rest then some (rest.drop tag.toList.length) else none

def skipSlash : List Char → List Char
  | '/' :: rest => rest
  | _ => []

def readTillSlash (rest : List Char) : List Char × List Char :=
  if '/' ∈ rest then (rest.takeWhile (· ≠ '/'), rest.dropWhile (· ≠ '/')) else ([], [])

structure Parsed where
  args : List (String × String)
  rest : List Char

def readCertificate (parsed : Parsed) : Parsed :=
  match trySkip "cert/" parsed.rest with
  | none => parsed
  | some rest => ⟨parsed.args ++ [("certificate", "previous")], rest⟩

def readFlag (tag name : String) (parsed : Parsed) : Parsed :=
  match trySkip tag parsed.rest with
  | none => parsed
  | some rest => ⟨parsed.args ++ [(name, "1")], skipSlash rest⟩

def readField (tag name : String) (parsed : Parsed) : Parsed :=
  match trySkip tag parsed.rest with
  | none => parsed
  | some rest => ⟨parsed.args ++ [(name, String.ofList (readTillSlash rest).1)], skipSlash (readTillSlash rest).2⟩

def parseWebhookInfo (webhookInfo : List Char) : Parsed :=
  let certificate := readCertificate ⟨[], webhookInfo⟩
  let maxConnections := readField "#maxc" "max_connections" certificate
  let ipAddress := readField "#ip" "ip_address" maxConnections
  let fixIpAddress := readFlag "#fix_ip" "fix_ip_address" ipAddress
  let secretToken := readField "#secret" "secret_token" fixIpAddress
  readField "#allow" "allowed_updates" secretToken

def restoreQuery (webhookInfo : String) : Query where
  id := 0
  method := "setwebhook"
  args := (parseWebhookInfo webhookInfo.toList).args ++
    [("url", String.ofList (parseWebhookInfo webhookInfo.toList).rest)]
  isInternal := true

-- A bot and the data centre it is on; its key in webhook_db_ is bot_token_with_dc_.
structure Identity where
  token : String
  isTestDc : Bool
deriving DecidableEq

def Identity.withDc (identity : Identity) : String := identity.token ++ (if identity.isTestDc then ":T" else "")

def readIdentity (token : String) : Identity :=
  if ":T".toList.isSuffixOf token.toList then ⟨String.ofList (token.toList.take (token.toList.length - 2)), true⟩
  else ⟨token, false⟩

def getWebhookRestoreQuery (token webhookInfo : String) : Identity × Query := (readIdentity token, restoreQuery webhookInfo)

-- Client::start_up accepts a token when the part after its first colon can be decoded
-- as base64url and has 24 characters.
def acceptsToken (base64urlDecodes : String → Bool) (token : String) : Bool :=
  ':' ∈ token.toList &&
    let base64BotToken := (token.toList.dropWhile (· ≠ ':')).drop 1
    base64urlDecodes (String.ofList base64BotToken) && 24 ≤ base64BotToken.length

end TelegramBotApi.Client
