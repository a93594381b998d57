import TelegramBotApi.Lib.Checked
import TelegramBotApi.Lib.Transition
import TelegramBotApi.Lib.Tables
import TelegramBotApi.Lib.KeyedDelivery
import TelegramBotApi.Lib.CursorLog
import TelegramBotApi.Lib.Base64
import TelegramBotApi.Lib.IdealBox
import TelegramBotApi.Json
import TelegramBotApi.ReplyMarkup
import TelegramBotApi.ReplyMarkupUsernames
import TelegramBotApi.BotUsernames
import TelegramBotApi.BotUsernamesIsolation
import TelegramBotApi.BotUsernamesResolution
import TelegramBotApi.TQueue
import TelegramBotApi.WebhookActor
import TelegramBotApi.WebhookDelivery
import TelegramBotApi.WebhookHandle
import TelegramBotApi.WebhookScheduling
import TelegramBotApi.WebhookOrder
import TelegramBotApi.WebhookPool
import TelegramBotApi.WebhookRetries
import TelegramBotApi.WebhookWakeup
import TelegramBotApi.WebhookStall
import TelegramBotApi.E2ee
import TelegramBotApi.E2eeChannel
import TelegramBotApi.ReplayWindow
import TelegramBotApi.McpGoogle
import TelegramBotApi.MessageMergeHistory
import TelegramBotApi.UnsentMessagesAccounting
import TelegramBotApi.EncryptedStdio
import TelegramBotApi.FileDownloadsSafety
import TelegramBotApi.LoginUrls
import TelegramBotApi.LoginUrlResolution
import TelegramBotApi.InlineResultUsernames
import TelegramBotApi.Client
import TelegramBotApi.GetUpdates
import TelegramBotApi.SetWebhook
import TelegramBotApi.ClientActor
import TelegramBotApi.WebhookProtocol
import TelegramBotApi.SetWebhookSafety
import TelegramBotApi.WebhookTracking
import TelegramBotApi.WebhookAbsence
import TelegramBotApi.BotLifetimes
import TelegramBotApi.WebhookRestore
import TelegramBotApi.GetUpdatesPoll
import TelegramBotApi.GetUpdatesDelivery
import TelegramBotApi.GetUpdatesLossless
import TelegramBotApi.DeletedWebhook
import TelegramBotApi.LoggedOutWebhook
import TelegramBotApi.AllowedUpdateTypes
import TelegramBotApi.WebhookDbAgreement
import TelegramBotApi.RequestLedger
import TelegramBotApi.PendingWarning
import TelegramBotApi.PollExclusion
import TelegramBotApi.RejectedWebhook
import TelegramBotApi.WebhookRoundTrip
import TelegramBotApi.ChannelSeparation
import TelegramBotApi.TelegramBoardE2ee
import TelegramBotApi.ClientManager
import TelegramBotApi.ClientManagerSafety
import TelegramBotApi.WebhookLimits
import TelegramBotApi.FileDownloads
import TelegramBotApi.Lib.TopSelection
import TelegramBotApi.TopClients
import TelegramBotApi.StdioLifecycle
import TelegramBotApi.Lib.Texts
import TelegramBotApi.QueryErrors
import TelegramBotApi.BotIdentities
import TelegramBotApi.RichTexts
import TelegramBotApi.RichTextRoundTrip
import TelegramBotApi.Lib.Utf16
import TelegramBotApi.Lib.EcmaJson
import TelegramBotApi.BoardMessages
import TelegramBotApi.Lib.StagedQueues
import TelegramBotApi.EventQueues
import TelegramBotApi.EventQueuesOrder
import TelegramBotApi.PostedStories
import TelegramBotApi.CommandQueue
import TelegramBotApi.ClosedClient
import TelegramBotApi.ClosedClientDrain
import TelegramBotApi.RichBlocks
import TelegramBotApi.JsonFields
import TelegramBotApi.RichBlockRoundTrip
import TelegramBotApi.Lib.OpenEntries
import TelegramBotApi.RequestStats
import TelegramBotApi.RequestConservation
import TelegramBotApi.InlineKeyboards
import TelegramBotApi.MessageTexts
import TelegramBotApi.WebhookFlights
import TelegramBotApi.EdgeWorker
import TelegramBotApi.Lib.Suspended
import TelegramBotApi.RequestChecks
import TelegramBotApi.RequestChecksAccess
import TelegramBotApi.RequestChecksSound
