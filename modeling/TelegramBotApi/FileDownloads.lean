import TelegramBotApi.Client
import TelegramBotApi.Lib.Tables

set_option autoImplicit false

namespace TelegramBotApi.FileDownloads

open Tables
open Client (Query ClosingError)

def maxDownloadFileSize : Int := 20 * 2 ^ 20

abbrev FileId := Int

-- What is used of td_api::file and its local file.
structure File where
  id : FileId
  expectedSize : Int := 0
  downloadedSize : Int := 0
  isDownloadingActive : Bool := false
  isDownloadingCompleted : Bool := false
deriving DecidableEq

structure Error where
  code : Int
  message : String
deriving DecidableEq

def fileIsTooBig : Error := ⟨400, "Bad Request: file is too big"⟩

def wrongFileId : Error := ⟨400, "Bad Request: wrong file_id or the file is temporarily unavailable"⟩

-- An error goes on to fail_query_with_error.
inductive Answer where
  | file (file : File)
  | error (error : Error)
  | retryAfter (seconds : Int)
deriving DecidableEq

def answerOf : Except Error File → Answer
  | .ok file => .file file
  | .error error => .error error

structure DownloadFileCallback where
  fileId : FileId
  query : Query

structure State where
  closing : Bool := false
  loggingOut : Bool := false
  tdClient : Bool := true
  fileDownloadListeners : Table FileId (List Query) := ∅
  downloadStartedFileIds : Finset FileId := ∅
  handlers : Table Nat DownloadFileCallback := ∅
  nextHandlerId : Nat := 0
  cancelledFileIds : List FileId := []
  answers : List (Query × Answer) := []
  -- history: the getFile requests, and those for which downloadFile returned a file
  requested : List Query := []
  returned : List Query := []

section Downloads

variable (localMode : Bool)

def isFileBeingDownloaded (fileId : FileId) (state : State) : Bool := (state.fileDownloadListeners.lookup fileId).isSome

def State.isClosing (state : State) : Bool := state.closing || state.loggingOut

def onFileDownload (fileId : FileId) (result : Except Error File) (state : State) : State :=
  match state.fileDownloadListeners.lookup fileId with
  | none => state
  | some queries => { state with
      fileDownloadListeners := state.fileDownloadListeners.erase fileId
      downloadStartedFileIds := state.downloadStartedFileIds.erase fileId
      answers := state.answers ++ queries.map (fun query => (query, answerOf result)) }

-- The error that the client found closing or logging out reports.
def closingStatus (error : ClosingError) : Error := ⟨error.code, error.message⟩

-- A request that is made too late gets the closing error at once.
def sendDownloadFile (callback : DownloadFileCallback) (error : ClosingError) (state : State) : State :=
  if state.isClosing then onFileDownload callback.fileId (.error (closingStatus error)) state
  else { state with
    handlers := state.handlers.insert state.nextHandlerId callback
    nextHandlerId := state.nextHandlerId + 1 }

def doGetFile (file : File) (query : Query) (error : ClosingError) (state : State) : State :=
  if !localMode && maxDownloadFileSize < max file.expectedSize file.downloadedSize then
    { state with answers := state.answers ++ [(query, .error fileIsTooBig)] }
  else
    let queries := (state.fileDownloadListeners.lookup file.id).getD []
    sendDownloadFile ⟨file.id, query⟩ error
      { state with fileDownloadListeners := state.fileDownloadListeners.insert file.id (queries ++ [query]) }

-- TdOnCancelDownloadFileCallback ignores the closing error.
def cancelDownloadFile (file : File) (state : State) : State :=
  if file.isDownloadingActive && !state.isClosing then
    { state with cancelledFileIds := state.cancelledFileIds ++ [file.id] }
  else state

def onUpdateFile (file : File) (error : ClosingError) (state : State) : State :=
  if !isFileBeingDownloaded file.id state then state
  else if !localMode && maxDownloadFileSize < file.downloadedSize then
    onFileDownload file.id (.error fileIsTooBig) (cancelDownloadFile file state)
  else if file.isDownloadingCompleted then onFileDownload file.id (.ok file) state
  else if !file.isDownloadingActive && file.id ∈ state.downloadStartedFileIds then
    if state.isClosing then onFileDownload file.id (.error (closingStatus error)) state
    else onFileDownload file.id (.error wrongFileId) state
  else state

def markStarted (fileId : FileId) (state : State) : State :=
  if isFileBeingDownloaded fileId state then
    { state with downloadStartedFileIds := insert fileId state.downloadStartedFileIds }
  else state

def onDownloadFileResult (callback : DownloadFileCallback) (result : Except Error File) (error : ClosingError)
    (state : State) : State :=
  match result with
  | .error failure => onFileDownload callback.fileId (.error failure) state
  | .ok file =>
      onUpdateFile localMode file error
        (markStarted callback.fileId { state with returned := state.returned ++ [callback.query] })

def onResult (handlerId : Nat) (result : Except Error File) (error : ClosingError) (state : State) : State :=
  match state.handlers.lookup handlerId with
  | none => state
  | some callback =>
      onDownloadFileResult localMode callback result error { state with handlers := state.handlers.erase handlerId }

def closingAnswer (error : ClosingError) : Answer :=
  if 0 < error.retryAfter then .retryAfter error.retryAfter else .error (closingStatus error)

-- on_closed; TDLib does not return anything afterwards.
def onClosed (error : ClosingError) (state : State) : State :=
  { state with
    tdClient := false
    handlers := ∅
    fileDownloadListeners := ∅
    downloadStartedFileIds := ∅
    answers := state.answers ++
      (state.fileDownloadListeners.entries.flatMap Sigma.snd).map (fun query => (query, closingAnswer error)) }

inductive Event where
  | getFile (file : File) (query : Query)
  | downloadFileResult (handlerId : Nat) (result : Except Error File)
  | updateFile (file : File)
  | authorizationClosing
  | authorizationLoggingOut
  | authorizationClosed

-- TDLib answers about the file that it was asked for, and closes after it said so.
def enabled (state : State) (event : Event) : Prop :=
  state.tdClient = true ∧
  match event with
  | .getFile _ query => ∀ other ∈ state.requested, other.id ≠ query.id
  | .downloadFileResult handlerId result => ∃ callback, state.handlers.lookup handlerId = some callback ∧
      ∀ file, result = .ok file → file.id = callback.fileId
  | .authorizationClosed => state.isClosing = true
  | .updateFile _ | .authorizationClosing | .authorizationLoggingOut => True

def step (state : State) (error : ClosingError) : Event → State
  | .getFile file query => doGetFile localMode file query error { state with requested := state.requested ++ [query] }
  | .downloadFileResult handlerId result => onResult localMode handlerId result error state
  | .updateFile file => onUpdateFile localMode file error state
  | .authorizationClosing => { state with closing := true }
  | .authorizationLoggingOut => { state with loggingOut := true }
  | .authorizationClosed => onClosed error state

def downloads : Transition.Machine State (Event × ClosingError) Empty where
  start state := state = {}
  enabled state event := enabled state event.1
  step state event := .ok (step localMode state event.2 event.1)

end Downloads

end TelegramBotApi.FileDownloads
