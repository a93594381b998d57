import TelegramBotApi.ClientActor

set_option autoImplicit false

namespace TelegramBotApi.Client

open Checked

structure Side where
  wasAuthorized : Bool
  retries : Bool
  closing : Bool
  loggingOut : Bool
  tdClient : Bool
  webhookDb : Option String
  hasCertificate : Bool
  queryType : WebhookQueryType
  id : Option Nat
  setQuery : Option Query
  active : Option Query
  url : String
  actors : List Nat
  copies : Nat
  unlinks : List String
  directoryRemoval : Bool

structure Frame extends Side where
  cmdQueue : List Query
  maxConnections : Int
  ipAddress : String
  fixIpAddress : Bool
  secretToken : String

structure Core extends Frame where
  allowedUpdateTypes : Nat
  sentTypes : List Nat
  asked : List Asked

def Tolerated (fault : Check) : Prop :=
  fault ∈ [.closing, .tdClientNotEmpty, .wasAuthorized, .updatesFetched, .totalSizeCoversUpdates, .longPollAnswered,
    .closedWhileActive]

instance (fault : Check) : Decidable (Tolerated fault) := inferInstanceAs (Decidable (fault ∈ _))

section Protocol

variable {Queue : Type} (env : Environment Queue)

def State.core (state : State Queue) : Core where
  wasAuthorized := state.wasAuthorized
  retries := decide (0 < state.nextAuthorizationTime)
  closing := state.closing
  loggingOut := state.loggingOut
  tdClient := state.tdClient
  webhookDb := state.webhookDb
  hasCertificate := state.hasWebhookCertificate
  queryType := state.webhookQueryType
  id := state.webhookId
  setQuery := state.webhookSetQuery
  active := state.activeWebhookSetQuery
  url := state.webhookUrl
  actors := state.webhookActors
  copies := state.certificateCopies
  unlinks := state.certificateUnlinks
  directoryRemoval := state.directoryRemoval
  cmdQueue := state.cmdQueue
  maxConnections := state.webhookMaxConnections
  ipAddress := state.webhookIpAddress
  fixIpAddress := state.webhookFixIpAddress
  secretToken := state.webhookSecretToken
  allowedUpdateTypes := state.allowedUpdateTypes
  sentTypes := sentTypes state.requests
  asked := state.asked

def State.frame (state : State Queue) : Frame := state.core.toFrame

def State.side (state : State Queue) : Side := state.frame.toSide

def Keeps (state : State Queue) (computation : Except Check (State Queue)) : Prop :=
  Meets Tolerated (fun after => after.core = state.core) computation

theorem side_of_frame (after state : State Queue) (same : after.frame = state.frame) : after.side = state.side :=
  congrArg Frame.toSide same

theorem side_of_core (after state : State Queue) (same : after.core = state.core) : after.side = state.side :=
  side_of_frame after state (congrArg Core.toFrame same)

def KeepsFrame (state : State Queue) (computation : Except Check (State Queue)) : Prop :=
  Meets Tolerated (fun after => after.frame = state.frame) computation

theorem keeps_frame (state : State Queue) (computation : Except Check (State Queue)) (keeps : Keeps state computation) :
    KeepsFrame state computation :=
  meets_weaken Tolerated _ _ _ (fun _ kept => congrArg Core.toFrame kept) keeps

theorem keeps_side (state : State Queue) (computation : Except Check (State Queue)) (keeps : Keeps state computation) :
    Meets Tolerated (fun after => after.side = state.side) computation :=
  meets_weaken Tolerated _ _ _ (fun after kept => side_of_core after state kept) keeps

theorem keeps_bind (state : State Queue) (first : Except Check (State Queue)) (next : State Queue → Except Check (State Queue))
    (begins : Keeps state first) (continues : ∀ after, Keeps after (next after)) : Keeps state (first >>= next) := by
  apply meets_bind Tolerated _ _ first next begins
  intro after same
  exact meets_weaken Tolerated _ _ _ (fun _ kept => kept.trans same) (continues after)

theorem keeps_from (first state : State Queue) (computation : Except Check (State Queue)) (same : first.core = state.core)
    (keeps : Keeps first computation) : Keeps state computation :=
  meets_weaken Tolerated _ _ _ (fun _ kept => kept.trans same) keeps

@[simp] theorem answer_core (query : Query) (answer : Answer) (state : State Queue) :
    (state.answer query answer).core = state.core := rfl

@[simp] theorem fail_query_conflict_core (draws : Draws) (message : String) (query : Query) (state : State Queue) :
    (failQueryConflict draws message query state).core = state.core := by
  unfold failQueryConflict
  split <;> rfl

theorem closing_error_meets (draws : Draws) (state : State Queue) :
    Meets Tolerated (fun _ => True) (getClosingError draws state) := by
  unfold getClosingError
  by_cases loggingOut : state.loggingOut = true
  · simp only [loggingOut, if_true]
    split
    · exact trivial
    · split
      · exact trivial
      · split <;> exact trivial
  · rw [if_neg loggingOut]
    apply meets_require Tolerated _ _ _ _ (fun _ => by decide)
    intro _
    exact trivial

theorem fail_query_closing_keeps (draws : Draws) (query : Query) (state : State Queue) :
    Keeps state (failQueryClosing draws query state) := by
  apply meets_bind Tolerated (fun _ => True) _ _ _ (closing_error_meets draws state)
  intro error _
  by_cases later : 0 < error.retryAfter
  · rw [if_pos later]
    exact answer_core query _ state
  · rw [if_neg later]
    exact answer_core query _ state

theorem fail_member_meets (draws : Draws) (query : Query) (emptied state : State Queue) (post : State Queue → Prop)
    (kept : post state) (failed : ∀ code message, post (emptied.answer query (.error code message))) :
    Meets Tolerated post (failMember draws query emptied state) := by
  apply meets_bind Tolerated (fun _ => True) _ _ _ (closing_error_meets draws state)
  intro error _
  by_cases later : 0 < error.retryAfter
  · rw [if_pos later]
    exact kept
  · rw [if_neg later]
    exact failed _ _

theorem sent_types_append (requests : List Request) (request : Request) :
    sentTypes (requests ++ [request]) = sentTypes requests ++ request.types.toList := by
  unfold sentTypes
  rw [List.filterMap_append]
  cases same : request.types <;> simp [same]

theorem do_send_request_keeps (request : Request) (state : State Queue) (untyped : request.types = none) :
    Keeps state (doSendRequest request state) := by
  apply meets_require Tolerated _ _ _ _ (fun _ => by decide)
  intro _
  have sent := sent_types_append state.requests request
  rw [untyped, Option.toList_none, List.append_nil] at sent
  exact congrArg (fun sent => { state.core with sentTypes := sent }) sent

theorem send_request_keeps (request : Request) (state : State Queue) (untyped : request.types = none) :
    Keeps state (sendRequest request state) := by
  unfold sendRequest
  split
  · exact rfl
  · exact do_send_request_keeps request state untyped

@[simp] theorem ask_frame (types : Nat) (state : State Queue) : (state.ask types).frame = state.frame := by
  unfold State.ask
  split <;> rfl

theorem send_request_frame (request : Request) (state : State Queue) :
    KeepsFrame state (sendRequest request state) := by
  unfold sendRequest
  split
  · exact rfl
  · apply meets_require Tolerated _ _ _ _ (fun _ => by decide)
    intro _
    exact rfl

theorem update_allowed_update_types_keeps (query : Query) (state : State Queue) :
    Meets Tolerated (fun result => result.2.frame = state.frame ∧
      (result.1 = true → getAllowedUpdateTypes env (query.arg "allowed_updates") query.isInternal ≠ 0 ∧
        getAllowedUpdateTypes env (query.arg "allowed_updates") query.isInternal ≠ state.allowedUpdateTypes))
      (updateAllowedUpdateTypes env query state) := by
  unfold updateAllowedUpdateTypes
  extract_lets types
  split
  · rename_i changes
    apply meets_bind Tolerated _ _ _ _ (send_request_frame _ _)
    intro sent kept
    refine ⟨kept.trans ?_, fun _ => changes⟩
    exact ask_frame types state
  · exact ⟨ask_frame types state, fun impossible => by cases impossible⟩

@[simp] theorem abort_long_poll_core (draws : Draws) (fromSetWebhook : Bool) (state : State Queue) :
    (abortLongPoll draws fromSetWebhook state).core = state.core := by
  unfold abortLongPoll
  split
  · rfl
  · rw [fail_query_conflict_core]
    rfl

theorem answer_get_updates_keeps (draws : Draws) (offset limit timeout : Int) (query : Query) (before : Queue)
    (totalSize : Nat) (updates : List TQueueEvent) (state : State Queue) :
    Keeps state (answerGetUpdates draws offset limit timeout query before totalSize updates state) := by
  apply meets_require Tolerated _ _ _ _ (fun _ => by decide)
  intro _
  split
  · exact abort_long_poll_core draws false state
  · apply meets_bind Tolerated (fun after => after.core = state.core)
    · unfold reportBotUpdatesStatus
      dsimp only
      split
      · apply meets_bind Tolerated _ _ _ _ (send_request_keeps _ _ rfl)
        intro sent kept
        exact kept
      · exact rfl
    · intro reported kept
      exact kept

theorem fetch_updates_meets (offset : Int) (limit : Nat) (unixTime : Int) (queue : Queue) :
    Meets Tolerated (fun _ => True) (fetchUpdates env offset limit unixTime queue) := by
  unfold fetchUpdates
  split
  · exact trivial
  · split
    · exact trivial
    · exact (by decide : Tolerated .updatesFetched)

theorem do_get_updates_keeps (draws : Draws) (offset limit timeout : Int) (query : Query) (state : State Queue) :
    Keeps state (doGetUpdates env draws offset limit timeout query state) := by
  unfold doGetUpdates
  extract_lets cleared first
  have same : cleared.core = state.core := by
    unfold cleared
    split <;> rfl
  by_cases missing : first ≤ 0
  · rw [if_pos missing]
    exact keeps_from _ _ _ same (answer_get_updates_keeps draws first limit timeout query _ 0 [] cleared)
  · rw [if_neg missing]
    apply meets_bind Tolerated (fun _ => True) _ _ _ (fetch_updates_meets env _ _ _ _)
    rintro ⟨totalSize, updates, after⟩ _
    exact keeps_from _ _ _ same (answer_get_updates_keeps draws first limit timeout query _ totalSize updates _)

theorem long_poll_wakeup_keeps (draws : Draws) (forceFlag : Bool) (state : State Queue) :
    Keeps state (longPollWakeup env draws forceFlag state) := by
  unfold longPollWakeup
  split
  · unfold warnPendingUpdates
    dsimp only
    split
    · apply meets_bind Tolerated _ _ _ _ (send_request_keeps _ _ rfl)
      intro sent kept
      exact kept
    · exact rfl
  · split
    · exact do_get_updates_keeps env draws _ _ _ _ _
    · exact rfl

theorem process_get_updates_frame (draws : Draws) (query : Query) (state : State Queue) :
    KeepsFrame state (processGetUpdatesQuery env draws query state) := by
  unfold processGetUpdatesQuery
  split
  · exact congrArg Core.toFrame (fail_query_conflict_core draws _ query state)
  · apply meets_bind Tolerated _ _ _ _ (update_allowed_update_types_keeps env query state)
    rintro ⟨changed, updated⟩ ⟨kept, _⟩
    apply meets_weaken Tolerated _ _ _ _ (keeps_frame _ _ (do_get_updates_keeps env draws _ _ _ query _))
    exact fun after same => same.trans kept

theorem process_close_keeps (draws : Draws) (query : Query) (state : State Queue) :
    Keeps state (processClose env draws query state) := by
  unfold processClose
  dsimp only
  split
  · exact rfl
  · exact do_send_request_keeps _ _ rfl

theorem add_update_keeps (draws : Draws) (updateType : UpdateType) (json : String) (timeout webhookQueueId : Int)
    (state : State Queue) : Keeps state (addUpdate env draws updateType json timeout webhookQueueId state) := by
  unfold addUpdate
  split
  · exact rfl
  · split
    · exact rfl
    · dsimp only
      split
      · exact long_poll_wakeup_keeps env draws false _
      · exact rfl

theorem close_keeps (draws : Draws) (state : State Queue) : Keeps state (close draws state) := by
  unfold close
  dsimp only
  split
  · exact rfl
  · split
    · exact do_send_request_keeps _ _ rfl
    · exact rfl

theorem log_out_keeps (draws : Draws) (code : Int) (message : String) (state : State Queue) :
    ∃ invalid time, (code = 401 → time = state.nextAuthorizationTime) ∧
      Keeps { state with isApiIdInvalid := invalid, nextAuthorizationTime := time } (logOut env draws code message state) := by
  unfold logOut
  extract_lets retryAfter noted
  obtain ⟨invalid, time, kept, same⟩ : ∃ invalid time, (code = 401 → time = state.nextAuthorizationTime) ∧
      noted = { state with isApiIdInvalid := invalid, nextAuthorizationTime := time } := by
    unfold noted
    split
    · exact ⟨true, _, fun _ => rfl, rfl⟩
    · split
      · rename_i limited
        have other : code ≠ 401 := by omega
        split
        · exact ⟨_, _, fun same => absurd same other, rfl⟩
        · exact ⟨_, _, fun _ => rfl, rfl⟩
      · split
        · exact ⟨_, _, fun same => absurd same (by omega), rfl⟩
        · exact ⟨_, _, fun _ => rfl, rfl⟩
  refine ⟨invalid, time, kept, ?_⟩
  rw [← same]
  split
  · exact do_send_request_keeps _ noted rfl
  · exact rfl

def Side.isClosing (side : Side) : Bool := side.loggingOut || side.closing

structure Idle (side : Side) : Prop where
  url : side.url = ""
  setQuery : side.setQuery = none
  active : side.active = none

structure Usable (query : Query) : Prop where
  given : query.arg "url" ≠ ""
  parses : env.library.parseUrl (query.arg "url") = true

def CertificateFits (query : Query) : Prop :=
  query.isInternal = true ∨ ∀ file, getWebhookCertificate query = some file → file.size ≤ maxCertificateFileSize

def Acceptable (query : Query) : Prop :=
  newUrl query ≠ "" ∧ invalidWebhook env query = none ∧ CertificateFits query

def Side.create (query : Query) (token : Nat) (certificate : Bool) (side : Side) : Side :=
  { side with
    url := query.arg "url", hasCertificate := certificate, id := some token, actors := side.actors ++ [token]
    queryType := .verify, setQuery := some query }

inductive SetOutcome (query : Query) (before : Side) : Side → Prop where
  | refused (why : before.isClosing = true ∨ ¬ Acceptable env query) : SetOutcome query before before
  | copying (isOpen : before.isClosing = false) (usable : Usable env query) :
      SetOutcome query before { before with active := some query, copies := before.copies + 1 }
  | created (token : Nat) (certificate : Bool) (isOpen : before.isClosing = false) (usable : Usable env query) :
      SetOutcome query before (before.create query token certificate)

theorem new_url_eq (query : Query) (given : newUrl query ≠ "") : newUrl query = query.arg "url" := by
  by_cases set : query.method = "setwebhook"
  · rw [newUrl, if_pos set]
  · rw [newUrl, if_neg set] at given
    exact absurd rfl given

theorem usable_of_valid (query : Query) (given : newUrl query ≠ "") (valid : invalidWebhook env query = none) :
    Usable env query := by
  have same := new_url_eq query given
  unfold invalidWebhook at valid
  dsimp only at valid
  by_cases parses : env.library.parseUrl (newUrl query) = true
  · rw [same] at given parses
    exact ⟨given, parses⟩
  · simp only [parses, Bool.not_false, if_true, reduceCtorEq] at valid

theorem clear_tqueue_keeps (state : State Queue) (noId : state.side.id = none) : Keeps state (clearTqueue env state) := by
  apply meets_require Tolerated _ _ _ _ (fun present => absurd noId present)
  intro _
  exact rfl

theorem finish_set_webhook_meets (draws : Draws) (query : Query) (state : State Queue) (usable : Usable env query)
    (idle : Idle state.side) :
    Meets Tolerated (fun after =>
      (state.side.isClosing = true → after.side = state.side) ∧
      (state.side.isClosing = false → ∃ token, after.side = state.side.create query token state.side.hasCertificate))
      (finishSetWebhook env draws query state) := by
  apply meets_require Tolerated _ _ _ _ (fun busy => absurd idle.active busy)
  intro _
  apply meets_require Tolerated _ _ _ _ (fun busy => absurd idle.setQuery busy)
  intro _
  apply meets_require Tolerated _ _ _ _ (fun busy => absurd idle.url busy)
  intro _
  by_cases closing : state.side.isClosing = true
  · rw [if_pos (show (state.loggingOut || state.closing) = true from closing)]
    apply meets_weaken Tolerated _ _ _ _ (keeps_side state _ (fail_query_closing_keeps draws query state))
    intro after kept
    exact ⟨fun _ => kept, fun isOpen => absurd closing (by rw [isOpen]; decide)⟩
  · rw [if_neg (show ¬ (state.loggingOut || state.closing) = true from closing)]
    apply meets_require Tolerated _ _ _ _ (fun missing => absurd usable.given missing)
    intro _
    apply meets_bind Tolerated _ _ _ _ (update_allowed_update_types_keeps env query _)
    rintro ⟨changed, updated⟩ ⟨same, _⟩
    have kept : updated.side = { state.side with url := query.arg "url" } := congrArg Frame.toSide same
    apply meets_require Tolerated _ _ _ _ (fun invalid => absurd usable.parses invalid)
    intro _
    have noActive : updated.activeWebhookSetQuery = none := (congrArg Side.active kept).trans idle.active
    apply meets_require Tolerated _ _ _ _ (fun busy => absurd noActive busy)
    intro _
    refine ⟨fun closed => absurd closed closing, fun _ => ⟨updated.webhookGeneration, ?_⟩⟩
    change ({ updated.side with
      id := some updated.webhookGeneration, actors := updated.side.actors ++ [updated.webhookGeneration],
      queryType := .verify, setQuery := some query } : Side) = _
    rw [kept]
    rfl

theorem set_certificate_meets (draws : Draws) (query : Query) (state : State Queue) (usable : Usable env query)
    (idle : Idle state.side) (isOpen : state.side.isClosing = false) :
    Meets Tolerated (fun after => SetOutcome env query state.side after.side) (setCertificate env draws query state) := by
  have finished (certificate : Bool) (start : State Queue)
      (same : start.side = { state.side with hasCertificate := certificate }) :
      Meets Tolerated (fun after => SetOutcome env query state.side after.side) (finishSetWebhook env draws query start) := by
    have startOpen : start.side.isClosing = false := by
      rw [same]
      exact isOpen
    apply meets_weaken Tolerated _ _ _ _ (finish_set_webhook_meets env draws query start usable (by
      rw [same]
      exact ⟨idle.url, idle.setQuery, idle.active⟩))
    intro after outcome
    obtain ⟨token, created⟩ := outcome.2 startOpen
    rw [created, same]
    exact .created token certificate isOpen usable
  unfold setCertificate
  by_cases internal : query.isInternal = true
  · rw [if_pos internal]
    exact finished _ _ rfl
  · rw [if_neg internal]
    cases uploaded : getWebhookCertificate query with
    | none => exact finished _ _ rfl
    | some file =>
        dsimp only
        by_cases big : maxCertificateFileSize < file.size
        · rw [if_pos big]
          have unfit : ¬ CertificateFits query := by
            rintro (isInternal | fits)
            · exact internal isInternal
            · exact absurd (fits file uploaded) (Int.not_le.2 big)
          exact .refused (.inr (fun accepted => unfit accepted.2.2))
        · rw [if_neg big]
          apply meets_require Tolerated _ _ _ _ (fun busy => absurd idle.setQuery busy)
          intro _
          exact .copying isOpen usable

theorem set_new_webhook_meets (draws : Draws) (query : Query) (state : State Queue) (given : newUrl query ≠ "")
    (idle : Idle state.side) (isOpen : state.side.isClosing = false) (noCertificate : state.side.hasCertificate = false) :
    Meets Tolerated (fun after => SetOutcome env query state.side after.side) (setNewWebhook env draws query state) := by
  unfold setNewWebhook
  cases invalid : invalidWebhook env query with
  | some message =>
      refine .refused (.inr (fun accepted => ?_))
      have valid := accepted.2.1
      rw [invalid] at valid
      cases valid
  | none =>
      dsimp only
      have noActive : state.activeWebhookSetQuery = none := idle.active
      rw [noActive, Option.isSome_none, if_neg Bool.false_ne_true]
      apply meets_require Tolerated _ _ _ _ (fun present => absurd noCertificate present)
      intro _
      exact set_certificate_meets env draws query state (usable_of_valid env query given invalid) idle isOpen

theorem do_set_webhook_meets (draws : Draws) (query : Query) (wasDeleted : Bool) (state : State Queue)
    (idle : Idle state.side) (noId : state.side.id = none)
    (noCertificate : state.side.isClosing = false → state.side.hasCertificate = false) :
    Meets Tolerated (fun after => SetOutcome env query state.side after.side)
      (doSetWebhook env draws query wasDeleted state) := by
  apply meets_require Tolerated _ _ _ _ (fun busy => absurd idle.url busy)
  intro _
  by_cases closing : state.side.isClosing = true
  · rw [if_pos (show (state.loggingOut || state.closing) = true from closing)]
    apply meets_weaken Tolerated _ _ _ _ (keeps_side state _ (fail_query_closing_keeps draws query state))
    intro after kept
    rw [kept]
    exact .refused (.inl closing)
  · rw [if_neg (show ¬ (state.loggingOut || state.closing) = true from closing)]
    have isOpen := Bool.eq_false_of_not_eq_true closing
    apply meets_bind Tolerated (fun cleared => cleared.side = state.side)
    · unfold clearPendingUpdates
      split
      · exact keeps_side state _ (clear_tqueue_keeps env state noId)
      · exact rfl
    · intro cleared same
      rw [← same] at idle isOpen noCertificate ⊢
      by_cases given : newUrl query ≠ ""
      · rw [if_pos given]
        exact set_new_webhook_meets env draws query cleared given idle isOpen (noCertificate isOpen)
      · rw [if_neg given]
        exact .refused (.inr (fun accepted => given accepted.1))

end Protocol

end TelegramBotApi.Client
