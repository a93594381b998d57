import TelegramBotApi.WebhookProtocol

set_option autoImplicit false

namespace TelegramBotApi.Client

open Checked

section Safety

variable {Queue : Type} (env : Environment Queue)

-- Between two events exactly one callback is awaited for the current webhook, of
-- its actor or of the removal of its certificate.
structure Consistent (side : Side) : Prop where
  authorized : side.setQuery ≠ none ∨ side.active ≠ none → side.wasAuthorized = true
  unretried : side.wasAuthorized = true → side.retries = false
  activeIdle : side.active ≠ none → side.url = ""
  setBusy : side.setQuery ≠ none → side.url ≠ ""
  idBusy : side.id ≠ none → side.url ≠ ""
  callbacks : side.actors.length + side.unlinks.length = if side.url = "" then 0 else 1
  copies : side.tdClient = true → side.copies = if side.active.isSome then 1 else 0
  certificate : side.hasCertificate = true → side.url ≠ "" ∨ side.isClosing = true
  usable : ∀ query, side.active = some query → Usable env query
  online : side.tdClient = false → side.isClosing = true
  offline : side.tdClient = false → side.id = none ∧ side.active = none
  removal : side.directoryRemoval = true → side.tdClient = false

theorem running_of_open (side : Side) (consistent : Consistent env side) (isOpen : side.isClosing = false) :
    side.tdClient = true := by
  cases running : side.tdClient with
  | true => rfl
  | false =>
      have closing := consistent.online running
      rw [isOpen] at closing
      cases closing

theorem idle_of_consistent (side : Side) (consistent : Consistent env side) (unset : side.url = "")
    (noActive : side.active = none) : Idle side := by
  refine ⟨unset, ?_, noActive⟩
  by_contra busy
  exact consistent.setBusy busy unset

theorem no_id_of_consistent (side : Side) (consistent : Consistent env side) (unset : side.url = "") : side.id = none := by
  by_contra present
  exact consistent.idBusy present unset

theorem no_certificate_of_consistent (side : Side) (consistent : Consistent env side) (unset : side.url = "")
    (isOpen : side.isClosing = false) : side.hasCertificate = false := by
  cases present : side.hasCertificate with
  | false => rfl
  | true =>
      rcases consistent.certificate present with busy | closing
      · exact absurd unset busy
      · rw [isOpen] at closing
        cases closing

theorem no_active_of_busy (side : Side) (consistent : Consistent env side) (busy : side.url ≠ "") : side.active = none := by
  by_contra active
  exact busy (consistent.activeIdle active)

theorem create_consistent (query : Query) (token : Nat) (certificate : Bool) (side : Side)
    (consistent : Consistent env side) (authorized : side.wasAuthorized = true) (idle : Idle side)
    (isOpen : side.isClosing = false) (usable : Usable env query) :
    Consistent env (side.create query token certificate) where
  authorized _ := authorized
  unretried := consistent.unretried
  activeIdle active := absurd idle.active active
  setBusy _ := usable.given
  idBusy _ := usable.given
  callbacks := by
    have noCallback := consistent.callbacks
    rw [if_pos idle.url] at noCallback
    change (side.actors ++ [token]).length + side.unlinks.length = if query.arg "url" = "" then 0 else 1
    rw [if_neg usable.given, List.length_append, List.length_singleton]
    omega
  copies := consistent.copies
  certificate _ := .inl usable.given
  usable := consistent.usable
  online := consistent.online
  offline stopped := by
    have running := running_of_open env side consistent isOpen
    rw [show side.tdClient = false from stopped] at running
    cases running
  removal := consistent.removal

theorem outcome_consistent (query : Query) (before after : Side) (consistent : Consistent env before)
    (authorized : before.wasAuthorized = true) (idle : Idle before) (outcome : SetOutcome env query before after) :
    Consistent env after := by
  cases outcome with
  | refused why => exact consistent
  | created token certificate isOpen usable =>
      exact create_consistent env query token certificate before consistent authorized idle isOpen usable
  | copying isOpen usable =>
      have noCopy := consistent.copies (running_of_open env before consistent isOpen)
      rw [idle.active] at noCopy
      exact {
        authorized := fun _ => authorized
        unretried := consistent.unretried
        activeIdle := fun _ => idle.url
        setBusy := consistent.setBusy
        idBusy := consistent.idBusy
        callbacks := consistent.callbacks
        copies := fun _ => by
          change before.copies + 1 = 1
          rw [noCopy]
          rfl
        certificate := consistent.certificate
        usable := by
          intro active same
          cases same
          exact usable
        online := consistent.online
        offline := fun stopped => by
          rw [show before.tdClient = true from running_of_open env before consistent isOpen] at stopped
          cases stopped
        removal := consistent.removal }

theorem outcome_keeps_db (query : Query) (before after : Side) (outcome : SetOutcome env query before after) :
    after.webhookDb = before.webhookDb := by
  cases outcome with
  | refused why => rfl
  | copying isOpen usable => rfl
  | created token certificate isOpen usable => rfl

theorem meets_consistent (state : State Queue) (computation : Except Check (State Queue))
    (keeps : Keeps state computation) (consistent : Consistent env state.side) :
    Meets Tolerated (fun after => Consistent env after.side) computation := by
  apply meets_weaken Tolerated _ _ _ _ (keeps_side state computation keeps)
  intro after same
  rw [same]
  exact consistent

theorem do_set_webhook_consistent (draws : Draws) (query : Query) (wasDeleted : Bool) (state : State Queue)
    (consistent : Consistent env state.side) (authorized : state.wasAuthorized = true) (idle : Idle state.side) :
    Meets Tolerated (fun after => SetOutcome env query state.side after.side ∧ Consistent env after.side)
      (doSetWebhook env draws query wasDeleted state) := by
  apply meets_weaken Tolerated _ _ _ _ (do_set_webhook_meets env draws query wasDeleted state idle
    (no_id_of_consistent env state.side consistent idle.url)
    (no_certificate_of_consistent env state.side consistent idle.url))
  intro after outcome
  exact ⟨outcome, outcome_consistent env query state.side after.side consistent authorized idle outcome⟩

def Limited (draws : Draws) (query : Query) (state : State Queue) : Prop :=
  isRateLimited query = true ∧ draws.now < state.nextAllowedSetWebhookTime

def ChangesOnlyTypes (query : Query) (state : State Queue) : Prop :=
  isNotModified env query state = true ∧
  getAllowedUpdateTypes env (query.arg "allowed_updates") query.isInternal ≠ 0 ∧
  getAllowedUpdateTypes env (query.arg "allowed_updates") query.isInternal ≠ state.allowedUpdateTypes

inductive Processed (query : Query) (limited changesOnlyTypes : Prop) (before : Side) : Side → Prop where
  | kept (why : before.url ≠ "" ∨ before.active.isSome = true ∨ ¬ Acceptable env query ∨ limited) :
      Processed query limited changesOnlyTypes before before
  | saved (value : String) (stored : value ≠ "") (why : changesOnlyTypes) :
      Processed query limited changesOnlyTypes before { before with webhookDb := some value }
  | waiting (authorized : before.wasAuthorized = true) (busy : before.url ≠ "") :
      Processed query limited changesOnlyTypes before
        { before with id := none, queryType := .cancel, setQuery := some query }
  | set (after : Side) (authorized : before.wasAuthorized = true) (idle : Idle before)
      (outcome : SetOutcome env query before after) :
      Processed query limited changesOnlyTypes before after

theorem processed_consistent (query : Query) (limited changesOnlyTypes : Prop) (before after : Side)
    (consistent : Consistent env before) (processed : Processed env query limited changesOnlyTypes before after) :
    Consistent env after := by
  cases processed with
  | kept why => exact consistent
  | saved value stored why =>
      exact ⟨consistent.authorized, consistent.unretried, consistent.activeIdle, consistent.setBusy, consistent.idBusy,
        consistent.callbacks, consistent.copies, consistent.certificate, consistent.usable, consistent.online,
        consistent.offline, consistent.removal⟩
  | waiting authorized busy =>
      exact ⟨fun _ => authorized, consistent.unretried, consistent.activeIdle, fun _ => busy, fun present => absurd rfl present,
        consistent.callbacks, consistent.copies, consistent.certificate, consistent.usable, consistent.online,
        fun stopped => ⟨rfl, (consistent.offline stopped).2⟩, consistent.removal⟩
  | set after authorized idle outcome =>
      exact outcome_consistent env query before after consistent authorized idle outcome

theorem replace_webhook_meets (draws : Draws) (query : Query) (limited changesOnlyTypes : Prop) (start : State Queue)
    (before : Side) (same : { start.side with setQuery := before.setQuery } = before)
    (idle : before.url = "" → start.side = before ∧ Idle before) (consistent : Consistent env before)
    (authorized : before.wasAuthorized = true) :
    Meets Tolerated (fun after => Processed env query limited changesOnlyTypes before after.side)
      (replaceWebhook env draws query start) := by
  unfold replaceWebhook
  extract_lets aborted next
  have nextSide : next.side = start.side := by
    change aborted.side = start.side
    unfold aborted
    split
    · exact side_of_core _ _ (abort_long_poll_core draws true start)
    · rfl
  have url : next.webhookUrl = before.url := by
    rw [← same]
    exact congrArg Side.url nextSide
  by_cases busy : before.url ≠ ""
  · rw [if_pos (show next.webhookUrl ≠ "" from url ▸ busy)]
    have noActive : next.activeWebhookSetQuery = none := by
      rw [← no_active_of_busy env before consistent busy, ← same]
      exact congrArg Side.active nextSide
    apply meets_require Tolerated _ _ _ _ (fun present => absurd noActive present)
    intro _
    have waiting : Processed env query limited changesOnlyTypes before
        { before with id := none, queryType := .cancel, setQuery := some query } := .waiting authorized busy
    suffices reached : ({ next.side with id := none, queryType := .cancel, setQuery := some query } : Side) =
        { before with id := none, queryType := .cancel, setQuery := some query } by
      rw [← reached] at waiting
      exact waiting
    rw [nextSide, ← same]
  · have unset : before.url = "" := not_not.1 busy
    obtain ⟨unchanged, isIdle⟩ := idle unset
    have nextBefore := nextSide.trans unchanged
    rw [if_neg (show ¬ next.webhookUrl ≠ "" from url ▸ busy)]
    apply meets_weaken Tolerated _ _ _ _ (do_set_webhook_consistent env draws query false next (nextBefore ▸ consistent)
      ((congrArg Side.wasAuthorized nextBefore).trans authorized) (nextBefore ▸ isIdle))
    intro after both
    rw [nextBefore] at both
    exact .set after.side authorized isIdle both.1

theorem webhook_info_not_empty (state : State Queue) : webhookInfo state ≠ "" := by
  intro empty
  have long := congrArg String.length empty
  simp only [webhookInfo, webhookInfoOf, String.length_append, String.length_empty, Nat.add_eq_zero_iff] at long
  exact absurd long.1.1.1.1.1.2 (by decide)

theorem keep_webhook_meets (query : Query) (limited : Prop) (state : State Queue)
    (notModified : isNotModified env query state = true) :
    Meets Tolerated (fun after => Processed env query limited (ChangesOnlyTypes env query state) state.side after.side)
      (keepWebhook env query state) := by
  apply meets_bind Tolerated _ _ _ _ (update_allowed_update_types_keeps env query state)
  rintro ⟨changed, updated⟩ ⟨kept, why⟩
  have same := side_of_frame updated state kept
  cases changed with
  | true =>
      change Processed env query limited _ state.side { updated.side with webhookDb := some (webhookInfo updated) }
      rw [same]
      exact .saved _ (webhook_info_not_empty updated) ⟨notModified, why rfl⟩
  | false =>
      change Processed env query limited _ state.side updated.side
      rw [same]
      by_cases unset : state.side.url = ""
      · have urls : state.webhookUrl = newUrl query := by
          simp only [isNotModified, Bool.and_eq_true, decide_eq_true_eq] at notModified
          exact notModified.1.1.1.1.1.1.1
        exact .kept (.inr (.inr (.inl (fun accepted => accepted.1 (urls.symm.trans unset)))))
      · exact .kept (.inl unset)

theorem start_set_webhook_meets (draws : Draws) (query : Query) (limited : Prop) (state : State Queue)
    (consistent : Consistent env state.side) (authorized : state.wasAuthorized = true) :
    Meets Tolerated (fun after => Processed env query limited (ChangesOnlyTypes env query state) state.side after.side)
      (startSetWebhook env draws query state) := by
  unfold startSetWebhook
  cases previous : state.webhookSetQuery with
  | some waiting =>
      have busy : state.side.url ≠ "" := by
        apply consistent.setBusy
        intro absent
        rw [show state.side.setQuery = some waiting from previous] at absent
        cases absent
      apply replace_webhook_meets env draws query _ _ _ state.side _ (fun unset => absurd unset busy) consistent authorized
      have same := side_of_core _ _ (fail_query_conflict_core draws "Conflict: terminated by other setWebhook" waiting
        { state with webhookSetQuery := none })
      rw [same]
      rfl
  | none =>
      dsimp only
      by_cases active : state.activeWebhookSetQuery.isSome = true
      · rw [if_pos active]
        exact .kept (.inr (.inl active))
      · rw [if_neg active]
        by_cases notModified : isNotModified env query state = true
        · rw [if_pos notModified]
          exact keep_webhook_meets env query limited state notModified
        · rw [if_neg notModified]
          apply replace_webhook_meets env draws query _ _ state state.side rfl _ consistent authorized
          intro unset
          exact ⟨rfl, idle_of_consistent env state.side consistent unset (Option.not_isSome_iff_eq_none.1 active)⟩

theorem process_set_webhook_meets (draws : Draws) (query : Query) (state : State Queue)
    (consistent : Consistent env state.side) (authorized : state.wasAuthorized = true) :
    Meets Tolerated
      (fun after => Processed env query (Limited draws query state) (ChangesOnlyTypes env query state) state.side after.side)
      (processSetWebhookQuery env draws query state) := by
  unfold processSetWebhookQuery
  by_cases limited : isRateLimited query = true ∧ draws.now < state.nextAllowedSetWebhookTime
  · rw [if_pos limited]
    exact .kept (.inr (.inr (.inr limited)))
  · rw [if_neg limited]
    exact start_set_webhook_meets env draws query _ _ consistent authorized

def IsWebhookQuery (query : Query) : Prop := query.method = "setwebhook" ∨ query.method = "deletewebhook"

instance (query : Query) : Decidable (IsWebhookQuery query) := inferInstanceAs (Decidable (_ ∨ _))

theorem on_cmd_meets (draws : Draws) (query : Query) (state : State Queue) (consistent : Consistent env state.side) :
    Meets Tolerated (fun after =>
      (¬ (IsWebhookQuery query ∧ state.side.isClosing = false) → after.frame = state.frame) ∧
      (IsWebhookQuery query → state.side.isClosing = false →
        Processed env query (Limited draws query state) (ChangesOnlyTypes env query state) state.side after.side))
      (onCmd env draws state query) := by
  have other (computation : Except Check (State Queue))
      (keeps : KeepsFrame state computation)
      (unrelated : ¬ (IsWebhookQuery query ∧ state.side.isClosing = false)) :
      Meets Tolerated (fun after =>
        (¬ (IsWebhookQuery query ∧ state.side.isClosing = false) → after.frame = state.frame) ∧
        (IsWebhookQuery query → state.side.isClosing = false →
          Processed env query (Limited draws query state) (ChangesOnlyTypes env query state) state.side after.side))
        computation := by
    apply meets_weaken Tolerated _ _ _ _ keeps
    intro after kept
    exact ⟨fun _ => kept, fun webhook isOpen => absurd ⟨webhook, isOpen⟩ unrelated⟩
  have notWebhook (name : String) (named : query.method = name) (set : name ≠ "setwebhook") (delete : name ≠ "deletewebhook") :
      ¬ (IsWebhookQuery query ∧ state.side.isClosing = false) := by
    rintro ⟨isSet | isDelete, _⟩
    · exact set (named.symm.trans isSet)
    · exact delete (named.symm.trans isDelete)
  unfold onCmd
  extract_lets online
  by_cases close : online = true ∧ query.method = "close"
  · rw [if_pos close]
    exact other _ (keeps_frame _ _ (process_close_keeps env draws query state)) (notWebhook _ close.2 (by decide) (by decide))
  · rw [if_neg close]
    by_cases logout : online = true ∧ query.method = "logout"
    · rw [if_pos logout]
      exact other _ (keeps_frame _ _ (do_send_request_keeps .logOut _ rfl)) (notWebhook _ logout.2 (by decide) (by decide))
    · rw [if_neg logout]
      by_cases closing : state.side.isClosing = true
      · rw [if_pos (show (state.loggingOut || state.closing) = true from closing)]
        exact other _ (keeps_frame _ _ (fail_query_closing_keeps draws query state))
          (fun both => by rw [closing] at both; cases both.2)
      · rw [if_neg (show ¬ (state.loggingOut || state.closing) = true from closing)]
        apply meets_require Tolerated _ _ _ _ (fun _ => by decide)
        intro authorized
        unfold processQuery
        by_cases updates : query.method = "getupdates"
        · rw [if_pos updates]
          exact other _ (process_get_updates_frame env draws query state) (notWebhook _ updates (by decide) (by decide))
        · rw [if_neg updates]
          by_cases webhook : IsWebhookQuery query
          · rw [if_pos (show query.method = "setwebhook" ∨ query.method = "deletewebhook" from webhook)]
            apply meets_weaken Tolerated _ _ _ _ (process_set_webhook_meets env draws query state consistent authorized)
            intro after processed
            exact ⟨fun unrelated => absurd ⟨webhook, Bool.eq_false_of_not_eq_true closing⟩ unrelated, fun _ _ => processed⟩
          · rw [if_neg (show ¬ (query.method = "setwebhook" ∨ query.method = "deletewebhook") from webhook)]
            exact other _ rfl (fun both => webhook both.1)

theorem on_cmd_consistent (draws : Draws) (query : Query) (state : State Queue) (consistent : Consistent env state.side) :
    Meets Tolerated (fun after => Consistent env after.side) (onCmd env draws state query) := by
  apply meets_weaken Tolerated _ _ _ _ (on_cmd_meets env draws query state consistent)
  rintro after ⟨kept, processed⟩
  by_cases handled : IsWebhookQuery query ∧ state.side.isClosing = false
  · exact processed_consistent env query _ _ state.side after.side consistent (processed handled.1 handled.2)
  · have same := side_of_frame after state (kept handled)
    rw [same]
    exact consistent

theorem loop_consistent (draws : Draws) (state : State Queue) (consistent : Consistent env state.side) :
    Meets Tolerated (fun after => Consistent env after.side) (loop env draws state) := by
  unfold loop
  split
  · refine meets_foldlM Tolerated (fun state : State Queue => Consistent env state.side) _ _ _ consistent ?_
    intro state query _ held
    exact on_cmd_consistent env draws query state held
  · exact consistent

theorem loop_closing (draws : Draws) (state : State Queue) (consistent : Consistent env state.side)
    (closing : state.side.isClosing = true) :
    Meets Tolerated (fun after => after.side = state.side ∧ after.wasAuthorized = state.wasAuthorized ∧ after.cmdQueue = [])
      (loop env draws state) := by
  have runs : (state.wasAuthorized || state.loggingOut || state.closing) = true := by
    rw [Bool.or_assoc, show (state.loggingOut || state.closing) = true from closing, Bool.or_true]
  unfold loop
  rw [if_pos runs]
  refine meets_foldlM Tolerated (fun after : State Queue =>
    after.side = state.side ∧ after.wasAuthorized = state.wasAuthorized ∧ after.cmdQueue = []) _ _ _ ⟨rfl, rfl, rfl⟩ ?_
  rintro before query _ ⟨side, authorized, queue⟩
  apply meets_weaken Tolerated _ _ _ _ (on_cmd_meets env draws query before (side ▸ consistent))
  intro after outcome
  have same : after.frame = before.frame := outcome.1 (fun both => by
    rw [side] at both
    cases closing.symm.trans both.2)
  have kept := side_of_frame after before same
  exact ⟨kept.trans side, (congrArg Side.wasAuthorized kept).trans authorized, (congrArg Frame.cmdQueue same).trans queue⟩

theorem closing_consistent (side : Side) (loggingOut closing : Bool) (consistent : Consistent env side)
    (isClosing : (loggingOut || closing) = true) :
    Consistent env { side with loggingOut := loggingOut, closing := closing } :=
  ⟨consistent.authorized, consistent.unretried, consistent.activeIdle, consistent.setBusy, consistent.idBusy,
    consistent.callbacks, consistent.copies, fun _ => .inr isClosing, consistent.usable, fun _ => isClosing,
    consistent.offline, consistent.removal⟩

theorem ready_consistent (side : Side) (consistent : Consistent env side) (noRetry : side.retries = false) :
    Consistent env { side with wasAuthorized := true } :=
  ⟨fun _ => rfl, fun _ => noRetry, consistent.activeIdle, consistent.setBusy, consistent.idBusy, consistent.callbacks,
    consistent.copies, consistent.certificate, consistent.usable, consistent.online, consistent.offline, consistent.removal⟩

theorem failed_consistent (side : Side) (retries : Bool) (consistent : Consistent env side)
    (noRetry : side.wasAuthorized = true → retries = false) : Consistent env { side with retries := retries } :=
  ⟨consistent.authorized, noRetry, consistent.activeIdle, consistent.setBusy, consistent.idBusy, consistent.callbacks,
    consistent.copies, consistent.certificate, consistent.usable, consistent.online, consistent.offline, consistent.removal⟩

def Side.calledBack (side : Side) : Side := { side with actors := [], unlinks := [] }

def Side.forget (side : Side) : Side :=
  { side with id := none, url := "", hasCertificate := false, webhookDb := none, setQuery := none }

theorem forget_consistent (side : Side) (consistent : Consistent env side) :
    Consistent env side.calledBack.forget where
  authorized present := consistent.authorized (.inr (present.resolve_left (fun busy => busy rfl)))
  unretried := consistent.unretried
  activeIdle _ := rfl
  setBusy present := absurd rfl present
  idBusy present := absurd rfl present
  callbacks := rfl
  copies := consistent.copies
  certificate present := by cases present
  usable := consistent.usable
  online := consistent.online
  offline stopped := ⟨rfl, (consistent.offline stopped).2⟩
  removal := consistent.removal

theorem forget_idle (side : Side) (consistent : Consistent env side) (busy : side.url ≠ "") : Idle side.calledBack.forget :=
  ⟨rfl, rfl, no_active_of_busy env side consistent busy⟩

theorem on_webhook_closed_meets (draws : Draws) (status : String) (before : Side) (state : State Queue)
    (consistent : Consistent env before) (busy : before.url ≠ "") (same : state.side = before.calledBack) :
    Meets Tolerated (fun after => Consistent env after.side ∧ after.side.webhookDb = none)
      (onWebhookClosed env draws status state) := by
  have forgotten := forget_consistent env before consistent
  have idle := forget_idle env before consistent busy
  rw [← same] at forgotten idle
  unfold onWebhookClosed
  dsimp only
  split
  · rename_i unset
    have same : state.side.forget = { state.side with
        id := none, url := "", hasCertificate := false, webhookDb := none } := by
      rw [Side.forget, ← show state.side.setQuery = none from unset]
    rw [same] at forgotten
    exact ⟨forgotten, rfl⟩
  · rename_i query waiting
    split
    · exact ⟨forgotten, rfl⟩
    · have authorized : state.side.wasAuthorized = true := by
        have busyQuery : before.setQuery = some query := (congrArg Side.setQuery same).symm.trans waiting
        rw [same]
        exact consistent.authorized (.inl (by rw [busyQuery]; exact Option.some_ne_none query))
      refine meets_weaken Tolerated _ _ _ ?_ (do_set_webhook_consistent env draws query true _ forgotten authorized idle)
      rintro after ⟨outcome, kept⟩
      exact ⟨kept, outcome_keeps_db env query _ after.side outcome⟩

theorem called_back_of_actor (side : Side) (consistent : Consistent env side) (token : Nat) (member : token ∈ side.actors) :
    side.url ≠ "" ∧ { side with actors := side.actors.erase token } = side.calledBack := by
  have callbacks := consistent.callbacks
  have positive := List.length_pos_of_mem member
  by_cases unset : side.url = ""
  · rw [if_pos unset] at callbacks
    omega
  · rw [if_neg unset] at callbacks
    have single : side.actors.length = 1 := by omega
    have noUnlink : side.unlinks = [] := List.length_eq_zero_iff.1 (by omega)
    have noActor : side.actors.erase token = [] :=
      List.length_eq_zero_iff.1 (by rw [List.length_erase_of_mem member, single])
    refine ⟨unset, ?_⟩
    rw [noActor, Side.calledBack, ← noUnlink]

theorem called_back_of_unlink (side : Side) (consistent : Consistent env side) (status : String)
    (member : status ∈ side.unlinks) :
    side.url ≠ "" ∧ { side with unlinks := side.unlinks.erase status } = side.calledBack := by
  have callbacks := consistent.callbacks
  have positive := List.length_pos_of_mem member
  by_cases unset : side.url = ""
  · rw [if_pos unset] at callbacks
    omega
  · rw [if_neg unset] at callbacks
    have single : side.unlinks.length = 1 := by omega
    have noActor : side.actors = [] := List.length_eq_zero_iff.1 (by omega)
    have noUnlink : side.unlinks.erase status = [] :=
      List.length_eq_zero_iff.1 (by rw [List.length_erase_of_mem member, single])
    refine ⟨unset, ?_⟩
    rw [noUnlink, Side.calledBack, ← noActor]

theorem webhook_closed_meets (draws : Draws) (status : String) (before : Side) (state : State Queue)
    (consistent : Consistent env before) (busy : before.url ≠ "") (same : state.side = before.calledBack) :
    Meets Tolerated (fun after => Consistent env after.side ∧
        (after.side.url ≠ "" ∧ after.side.webhookDb = state.side.webhookDb ∨ after.side.webhookDb = none))
      (webhookClosed env draws status state) := by
  unfold webhookClosed
  split
  · have url : state.side.url ≠ "" := by
      rw [same]
      exact busy
    have noCallback : state.side.actors.length + state.side.unlinks.length = 0 := by
      rw [same]
      rfl
    refine ⟨?_, .inl ⟨url, rfl⟩⟩
    have noActive : state.side.active = none := by
      rw [same]
      exact no_active_of_busy env before consistent busy
    exact {
      authorized := by
        change state.side.setQuery ≠ none ∨ state.side.active ≠ none → state.side.wasAuthorized = true
        rw [same]
        exact consistent.authorized
      unretried := by
        change state.side.wasAuthorized = true → state.side.retries = false
        rw [same]
        exact consistent.unretried
      activeIdle := fun active => absurd noActive active
      setBusy := fun _ => url
      idBusy := fun _ => url
      callbacks := by
        change state.side.actors.length + (state.side.unlinks ++ [status]).length = if state.side.url = "" then 0 else 1
        rw [if_neg url, List.length_append, List.length_singleton]
        omega
      copies := by
        change state.side.tdClient = true → state.side.copies = if state.side.active.isSome then 1 else 0
        rw [same]
        exact consistent.copies
      certificate := fun _ => .inl url
      usable := by
        change ∀ query, state.side.active = some query → Usable env query
        rw [noActive]
        exact fun query found => by cases found
      online := by
        change state.side.tdClient = false → state.side.isClosing = true
        rw [same]
        exact consistent.online
      offline := by
        change state.side.tdClient = false → state.side.id = none ∧ state.side.active = none
        rw [same]
        exact consistent.offline
      removal := by
        change state.side.directoryRemoval = true → state.side.tdClient = false
        rw [same]
        exact consistent.removal }
  · apply meets_weaken Tolerated _ _ _ _ (on_webhook_closed_meets env draws status before state consistent busy same)
    intro after both
    exact ⟨both.1, .inr both.2⟩

theorem webhook_verified_cases (token : Nat) (cachedIpAddress : String) (state : State Queue) :
    ((token ≠ state.webhookGeneration ∨ state.webhookSetQuery = none ∧ cachedIpAddress = state.webhookIpAddress) ∧
      webhookVerified token cachedIpAddress state = state) ∨
    token = state.webhookGeneration ∧ ∃ answers, webhookVerified token cachedIpAddress state =
      saveWebhook { state with webhookIpAddress := cachedIpAddress, webhookSetQuery := none, answers := answers } := by
  unfold webhookVerified
  by_cases current : token = state.webhookGeneration
  · rw [if_neg (not_not.2 current)]
    dsimp only
    cases waiting : state.webhookSetQuery with
    | none =>
        simp only [Option.isSome_none, Bool.false_or, decide_eq_true_eq]
        by_cases same : cachedIpAddress = state.webhookIpAddress
        · rw [if_neg (not_not.2 same)]
          refine .inl ⟨.inr ⟨trivial, same⟩, ?_⟩
          rw [same, ← waiting]
        · rw [if_pos same]
          exact .inr ⟨current, state.answers, rfl⟩
    | some query => exact .inr ⟨current, _, rfl⟩
  · rw [if_pos current]
    exact .inl ⟨.inl current, rfl⟩
theorem webhook_verified_consistent (token : Nat) (cachedIpAddress : String) (state : State Queue)
    (consistent : Consistent env state.side) : Consistent env (webhookVerified token cachedIpAddress state).side := by
  rcases webhook_verified_cases token cachedIpAddress state with ⟨_, kept⟩ | ⟨_, answers, saved⟩
  · rw [kept]
    exact consistent
  · rw [saved]
    exact ⟨fun present => consistent.authorized (.inr (present.resolve_left (fun busy => busy rfl))), consistent.unretried,
      consistent.activeIdle, fun present => absurd rfl present, consistent.idBusy, consistent.callbacks,
      consistent.copies, consistent.certificate, consistent.usable, consistent.online, consistent.offline,
      consistent.removal⟩

theorem on_webhook_certificate_copied_meets (draws : Draws) (copied : Bool) (state : State Queue)
    (consistent : Consistent env state.side) (running : state.side.tdClient = true) (copying : 0 < state.side.copies) :
    Meets Tolerated (fun after => Consistent env after.side ∧ after.side.webhookDb = state.side.webhookDb ∧
        (copied = true ∨ state.side.isClosing = true → after.side.isClosing = true ∨ after.side.url ≠ ""))
      (onWebhookCertificateCopied env draws copied { state with certificateCopies := state.certificateCopies - 1 }) := by
  have copies := consistent.copies running
  cases active : state.side.active with
  | none =>
      rw [active] at copies
      simp only [Option.isSome_none, Bool.false_eq_true, if_false] at copies
      omega
  | some query =>
      rw [active] at copies
      have noCopy : state.certificateCopies - 1 = 0 := by
        change state.side.copies - 1 = 0
        rw [copies]
        rfl
      have usable := consistent.usable query active
      have authorized := consistent.authorized (.inr (by rw [active]; exact Option.some_ne_none query))
      have isIdle : state.side.url = "" := consistent.activeIdle (by rw [active]; exact Option.some_ne_none query)
      have unset : state.side.setQuery = none := by
        by_contra busy
        exact consistent.setBusy busy isIdle
      -- the state without the request, with or without the certificate
      have taken (certificate : Bool) (allowed : certificate = true → state.side.isClosing = true) :
          Consistent env { state.side with active := none, copies := 0, hasCertificate := certificate } :=
        { authorized := fun _ => authorized
          unretried := consistent.unretried
          activeIdle := fun present => absurd rfl present
          setBusy := consistent.setBusy
          idBusy := consistent.idBusy
          callbacks := consistent.callbacks
          copies := fun _ => rfl
          certificate := fun present => .inr (allowed present)
          usable := fun query found => by cases found
          online := consistent.online
          offline := fun stopped => ⟨(consistent.offline stopped).1, rfl⟩
          removal := consistent.removal }
      unfold onWebhookCertificateCopied
      rw [show state.activeWebhookSetQuery = some query from active, noCopy]
      cases copied with
      | false =>
          have kept := taken state.side.hasCertificate (fun present => by
            rcases consistent.certificate present with busy | closing
            · exact absurd isIdle busy
            · exact closing)
          exact ⟨kept, rfl, fun done => .inl (done.resolve_left Bool.false_ne_true)⟩
      | true =>
          refine meets_weaken Tolerated _ _ _ ?_ (finish_set_webhook_meets env draws query _ usable ⟨isIdle, unset, rfl⟩)
          rintro after ⟨refused, created⟩
          by_cases closing : state.side.isClosing = true
          · rw [refused closing]
            exact ⟨taken true (fun _ => closing), rfl, fun _ => .inl closing⟩
          · have isOpen := Bool.eq_false_of_not_eq_true closing
            obtain ⟨token, reached⟩ := created isOpen
            have start := create_consistent env query token true _ (taken false (fun present => by cases present)) authorized
              ⟨isIdle, unset, rfl⟩ isOpen usable
            rw [reached]
            exact ⟨start, rfl, fun _ => .inr usable.given⟩

theorem closing_error_final (draws : Draws) (state : State Queue) (noRetry : state.side.retries = false) :
    Meets Tolerated (fun error => error.retryAfter = 0) (getClosingError draws state) := by
  have early : ¬ 0 < state.nextAuthorizationTime := of_decide_eq_false noRetry
  unfold getClosingError
  simp only [early, if_false]
  split
  · split
    · exact rfl
    · split <;> exact rfl
  · apply meets_require Tolerated _ _ _ _ (fun _ => by decide)
    intro _
    exact rfl

theorem fail_member_final (draws : Draws) (query : Query) (emptied state : State Queue) (noRetry : state.side.retries = false) :
    Meets Tolerated (fun after => after.side = emptied.side) (failMember draws query emptied state) := by
  apply meets_bind Tolerated _ _ _ _ (closing_error_final draws state noRetry)
  intro error final
  rw [final, if_neg (by decide)]
  exact rfl

theorem fail_set_query_meets (draws : Draws) (state : State Queue)
    (noRetry : state.side.setQuery ≠ none → state.side.retries = false) :
    Meets Tolerated (fun after => after.side = { state.side with setQuery := none }) (failSetQuery draws state) := by
  unfold failSetQuery
  split
  · rename_i unset
    have absent : state.side.setQuery = none := unset
    change state.side = _
    rw [← absent]
  · rename_i query present
    have busy : state.side.setQuery = some query := present
    exact fail_member_final draws query _ state (noRetry (by rw [busy]; exact Option.some_ne_none query))

theorem fail_active_set_query_meets (draws : Draws) (state : State Queue)
    (noRetry : state.side.active ≠ none → state.side.retries = false) :
    Meets Tolerated (fun after => after.side = { state.side with active := none }) (failActiveSetQuery draws state) := by
  unfold failActiveSetQuery
  split
  · rename_i unset
    have absent : state.side.active = none := unset
    change state.side = _
    rw [← absent]
  · rename_i query present
    have busy : state.side.active = some query := present
    exact fail_member_final draws query _ state (noRetry (by rw [busy]; exact Option.some_ne_none query))

theorem wake_long_poll_keeps (draws : Draws) (state : State Queue) : Keeps state (wakeLongPoll env draws state) := by
  unfold wakeLongPoll
  split
  · apply keeps_bind state _ _ (long_poll_wakeup_keeps env draws true state)
    intro woken
    apply meets_require Tolerated _ _ _ _ (fun _ => by decide)
    intro _
    exact rfl
  · exact rfl

theorem drain_keeps (draws : Draws) (queries : List Query) (state : State Queue) :
    Keeps state (queries.foldlM (fun state query => failQueryClosing draws query state) state) := by
  refine meets_foldlM Tolerated (fun after : State Queue => after.core = state.core) _ _ _ rfl ?_
  intro after query _ same
  exact keeps_from after state _ same (fail_query_closing_keeps draws query after)

@[simp] theorem stop_or_wait_core (draws : Draws) (state : State Queue) :
    (stopOrWait draws state).core = state.core := by
  unfold stopOrWait
  split <;> rfl

theorem finish_closing_keeps (draws : Draws) (state : State Queue) (noId : state.side.id = none) :
    Keeps state (finishClosing env draws state) := by
  apply meets_bind Tolerated (fun cleared => cleared.core = state.core)
  · unfold clearLoggedOut
    split
    · exact clear_tqueue_keeps env state noId
    · exact rfl
  · intro cleared same
    exact (stop_or_wait_core draws cleared).trans same

def Side.disconnect (side : Side) : Side := { side with tdClient := false, setQuery := none, active := none, id := none }

theorem disconnect_consistent (side : Side) (consistent : Consistent env side) (closing : side.isClosing = true) :
    Consistent env side.disconnect where
  authorized present := by rcases present with absent | absent <;> exact absurd rfl absent
  unretried := consistent.unretried
  activeIdle present := absurd rfl present
  setBusy present := absurd rfl present
  idBusy present := absurd rfl present
  callbacks := consistent.callbacks
  copies running := by cases running
  certificate _ := .inr closing
  usable query found := by cases found
  online _ := closing
  offline _ := ⟨rfl, rfl⟩
  removal _ := rfl

def Side.ended (webhookDb : Option String) (directoryRemoval : Bool) (side : Side) : Side :=
  { side.disconnect with webhookDb := webhookDb, directoryRemoval := directoryRemoval }

theorem on_closed_meets (draws : Draws) (state : State Queue) (consistent : Consistent env state.side)
    (closing : state.side.isClosing = true) :
    Meets Tolerated (fun after => (Consistent env after.side ∧ after.cmdQueue = []) ∧
      ∃ webhookDb removal,
        (webhookDb = none ∨ webhookDb = state.side.webhookDb ∧ state.side.loggingOut = false) ∧
        after.side = state.side.ended webhookDb removal) (onClosed env draws state) := by
  have disconnected := disconnect_consistent env state.side consistent closing
  apply meets_require Tolerated _ _ _ _ (fun isOpen => absurd closing isOpen)
  intro _
  apply meets_require Tolerated _ _ _ _ (fun _ => by decide)
  intro _
  apply meets_bind Tolerated _ _ _ _ (fail_set_query_meets draws { state with tdClient := false }
    (fun busy => consistent.unretried (consistent.authorized (.inl busy))))
  intro unset unsetSide
  apply meets_bind Tolerated _ _ _ _ (fail_active_set_query_meets draws unset (by
    rw [unsetSide]
    exact fun busy => consistent.unretried (consistent.authorized (.inr busy))))
  intro failed failedSide
  rw [unsetSide] at failedSide
  extract_lets reset
  have resetSide : reset.side = state.side.disconnect := by
    unfold reset
    by_cases busy : failed.webhookUrl ≠ ""
    · rw [if_pos busy]
      change { failed.side with id := none } = _
      rw [failedSide]
      rfl
    · rw [if_neg busy, failedSide]
      have url : state.side.url = "" := by
        have same := congrArg Side.url failedSide
        exact same.symm.trans (not_not.1 busy)
      have absent := no_id_of_consistent env state.side consistent url
      rw [Side.disconnect, ← absent]
      rfl
  apply meets_bind Tolerated _ _ _ _ (wake_long_poll_keeps env draws reset)
  intro woken wokenSide
  apply meets_bind Tolerated _ _ _ _ (drain_keeps draws woken.cmdQueue _)
  intro drained drainedSide
  have reached : drained.side = state.side.disconnect :=
    (side_of_core _ _ drainedSide).trans ((side_of_core _ _ wokenSide).trans resetSide)
  have emptied : drained.cmdQueue = [] := congrArg (fun core => core.cmdQueue) drainedSide
  by_cases loggedOut : drained.loggingOut = true
  · rw [if_pos loggedOut]
    have ended : ({ drained.side with webhookDb := none, directoryRemoval := true } : Side) = state.side.ended none true := by
      rw [reached]
      rfl
    change (Consistent env { drained.side with webhookDb := none, directoryRemoval := true } ∧ drained.cmdQueue = []) ∧
      ∃ webhookDb removal,
        (webhookDb = none ∨ webhookDb = state.side.webhookDb ∧ state.side.loggingOut = false) ∧
        { drained.side with webhookDb := none, directoryRemoval := true } = state.side.ended webhookDb removal
    rw [ended]
    refine ⟨⟨?_, emptied⟩, none, true, .inl rfl, rfl⟩
    exact ⟨disconnected.authorized, disconnected.unretried, disconnected.activeIdle, disconnected.setBusy, disconnected.idBusy,
      disconnected.callbacks, disconnected.copies,
      disconnected.certificate, disconnected.usable, disconnected.online, disconnected.offline, fun _ => rfl⟩
  · rw [if_neg loggedOut]
    apply meets_weaken Tolerated _ _ _ _ (finish_closing_keeps env draws drained (by
      rw [reached]
      rfl))
    intro after kept
    have same := side_of_core after drained kept
    have stays : state.side.loggingOut = false :=
      (congrArg Side.loggingOut reached).symm.trans (Bool.eq_false_of_not_eq_true loggedOut)
    rw [same, reached]
    exact ⟨⟨disconnected, (congrArg (fun core => core.cmdQueue) kept).trans emptied⟩,
      state.side.webhookDb, state.side.directoryRemoval, .inr ⟨rfl, stays⟩, rfl⟩

theorem not_retrying (state : State Queue) (early : state.nextAuthorizationTime ≤ 0) : state.side.retries = false :=
  decide_eq_false (Int.not_lt.2 early)

theorem noted_consistent (state : State Queue) (code : Int) (invalid : Bool) (time : Int)
    (consistent : Consistent env state.side) (final : state.wasAuthorized = true → code = 401)
    (kept : code = 401 → time = state.nextAuthorizationTime) :
    Consistent env (State.side { state with isApiIdInvalid := invalid, nextAuthorizationTime := time }) := by
  apply failed_consistent env state.side (decide (0 < time)) consistent
  intro authorized
  rw [kept (final authorized)]
  exact consistent.unretried authorized

theorem log_out_consistent (draws : Draws) (code : Int) (message : String) (state : State Queue)
    (consistent : Consistent env state.side) (final : state.wasAuthorized = true → code = 401) :
    Meets Tolerated (fun after => Consistent env after.side) (logOut env draws code message state) := by
  obtain ⟨invalid, time, kept, keeps⟩ := log_out_keeps env draws code message state
  exact meets_consistent env _ _ keeps (noted_consistent env state code invalid time consistent final kept)

def CopiedWhileConnected (state : State Queue) (event : Event × Draws) : Prop :=
  ∀ copied, event.1 = .certificateCopied copied → state.tdClient = true

theorem step_consistent (draws : Draws) (state : State Queue) (event : Event) (consistent : Consistent env state.side)
    (offered : enabled state event) (condition : CopiedWhileConnected state (event, draws)) :
    Meets Tolerated (fun after => Consistent env after.side) (step env draws state event) := by
  cases event with
  | send query => exact loop_consistent env draws _ consistent
  | close => exact meets_consistent env state _ (close_keeps draws state) consistent
  | authorizationReady =>
      exact loop_consistent env draws _ (ready_consistent env state.side consistent (not_retrying state offered.2.2.2.2))
  | authorizationLoggingOut =>
      exact loop_consistent env draws _ (closing_consistent env state.side true state.closing consistent rfl)
  | authorizationClosing =>
      exact loop_consistent env draws _
        (closing_consistent env state.side state.loggingOut true consistent (Bool.or_true state.loggingOut))
  | authorizationClosed =>
      apply meets_weaken Tolerated _ _ _ _ (on_closed_meets env draws state consistent offered.2.2)
      intro after both
      exact both.1.1
  | authorizationFailed code message =>
      exact log_out_consistent env draws code message state consistent offered.2.2.2.2
  | allowedUpdateTypesChanged types => exact consistent
  | authorizationDateChanged date => exact consistent
  | tdQueryAnswered query error =>
      cases error with
      | none => exact consistent
      | some status => exact consistent
  | addUpdate updateType json timeout webhookQueueId =>
      exact meets_consistent env state _ (add_update_keeps env draws updateType json timeout webhookQueueId state) consistent
  | longPollTimeout => exact meets_consistent env state _ (long_poll_wakeup_keeps env draws true state) consistent
  | certificateCopied copied =>
      apply meets_weaken Tolerated _ _ _ _ (on_webhook_certificate_copied_meets env draws copied state consistent
        (condition copied rfl) offered.2)
      intro after both
      exact both.1
  | certificateUnlinked status =>
      obtain ⟨busy, same⟩ := called_back_of_unlink env state.side consistent status offered.2
      apply meets_weaken Tolerated _ _ _ _ (on_webhook_closed_meets env draws status state.side _ consistent busy same)
      intro after both
      exact both.1
  | webhookVerified token cachedIpAddress =>
      exact webhook_verified_consistent env token cachedIpAddress state consistent
  | webhookClosed token status =>
      obtain ⟨busy, same⟩ := called_back_of_actor env state.side consistent token offered.2
      apply meets_weaken Tolerated _ _ _ _ (webhook_closed_meets env draws status state.side _ consistent busy same)
      intro after both
      exact both.1
  | webhookHungUp token =>
      obtain ⟨busy, same⟩ := called_back_of_actor env state.side consistent token offered.2
      apply meets_weaken Tolerated _ _ _ _ (webhook_closed_meets env draws "Unknown" state.side _ consistent busy same)
      intro after both
      exact both.1
  | directoryRemoved =>
      refine meets_consistent env { state with directoryRemoval := false } _ (finish_closing_keeps env draws _ ?_) ?_
      · exact (consistent.offline (consistent.removal offered.2)).1
      · exact ⟨consistent.authorized, consistent.unretried, consistent.activeIdle, consistent.setBusy, consistent.idBusy,
          consistent.callbacks, consistent.copies, consistent.certificate, consistent.usable, consistent.online,
          consistent.offline, fun removing => by cases removing⟩
  | timeoutExpired => exact consistent

theorem step_keeps_consistent (draws : Draws) (state : State Queue) (event : Event) (consistent : Consistent env state.side)
    (offered : enabled state event) :
    Meets (fun _ => True) (fun after => Consistent env after.side) (step env draws state event) := by
  by_cases condition : CopiedWhileConnected state (event, draws)
  · exact meets_allow Tolerated _ _ _ (fun _ _ => trivial) (step_consistent env draws state event consistent offered condition)
  · simp only [CopiedWhileConnected, not_forall, Bool.not_eq_true] at condition
    obtain ⟨copied, same, stopped⟩ := condition
    have noActive : state.activeWebhookSetQuery = none := (consistent.offline stopped).2
    subst same
    change Meets _ _ (onWebhookCertificateCopied env draws copied _)
    unfold onWebhookCertificateCopied
    rw [noActive]
    exact trivial

theorem fresh_consistent (side : Side) (noActive : side.active = none) (noQuery : side.setQuery = none)
    (noId : side.id = none) (noActor : side.actors = []) (noUnlink : side.unlinks = []) (noCopy : side.copies = 0)
    (noUrl : side.url = "") (noCertificate : side.hasCertificate = false) (noRetry : side.retries = false)
    (online : side.tdClient = false → side.isClosing = true) (noRemoval : side.directoryRemoval = false) :
    Consistent env side where
  authorized present := by
    rw [noActive, noQuery] at present
    exact absurd rfl (present.elim id id)
  unretried _ := noRetry
  activeIdle present := absurd noActive present
  setBusy present := absurd noQuery present
  idBusy present := absurd noId present
  callbacks := by
    rw [noActor, noUnlink, if_pos noUrl]
    rfl
  copies _ := by
    rw [noCopy, noActive]
    rfl
  certificate present := by
    rw [noCertificate] at present
    cases present
  usable query found := by
    rw [noActive] at found
    cases found
  online := online
  offline _ := ⟨noId, noActive⟩
  removal removing := by
    rw [noRemoval] at removing
    cases removing

theorem start_consistent (state : State Queue) (started : (client env).start state) : Consistent env state.side := by
  obtain ⟨draws, tqueue, webhookDb, running | failed⟩ := started
  · rw [running]
    exact fresh_consistent env _ rfl rfl rfl rfl rfl rfl rfl rfl rfl (fun stopped => by cases stopped) rfl
  · have kept := meets_returns Tolerated _ _ state (keeps_side _ _ (finish_closing_keeps env draws _ rfl)) failed
    rw [kept]
    exact fresh_consistent env _ rfl rfl rfl rfl rfl rfl rfl rfl rfl (fun _ => rfl) rfl

theorem reach_consistent (meets : Transition.Condition (State Queue) (Event × Draws)) (state : State Queue)
    (reached : Transition.Reach (client env) meets state) : Consistent env state.side := by
  apply Transition.reach_meets (client env) meets (fun _ => True) (fun state => Consistent env state.side)
    (start_consistent env) _ state reached
  intro before event held offered _
  exact step_keeps_consistent env event.2 before event.1 held offered

-- The assertions of process_set_webhook_query, do_set_webhook,
-- on_webhook_certificate_copied, finish_set_webhook and clear_tqueue.
def OfSetWebhook (fault : Check) : Prop :=
  fault ∈ [.activeQueryEmpty, .webhookUrlEmpty, .certificateEmpty, .setQueryEmpty, .activeQueryNotEmpty, .newUrlNotEmpty,
    .newUrlParses, .webhookIdEmpty]

instance (fault : Check) : Decidable (OfSetWebhook fault) := inferInstanceAs (Decidable (fault ∈ _))

theorem not_of_set_webhook (fault : Check) (tolerated : Tolerated fault) : ¬ OfSetWebhook fault := by
  revert tolerated
  cases fault <;> decide

structure SetWebhookSafe (meets : Transition.Condition (State Queue) (Event × Draws)) (state : State Queue) : Prop where
  single : state.webhookSetQuery = none ∨ state.activeWebhookSetQuery = none
  activeIdle : state.activeWebhookSetQuery ≠ none → state.webhookUrl = ""
  checked : ∀ event fault, (client env).enabled state event → meets state event →
    (client env).step state event = .error fault → ¬ OfSetWebhook fault

theorem set_webhook_safe_while_connected (state : State Queue)
    (reached : Transition.Reach (client env) CopiedWhileConnected state) :
    SetWebhookSafe env CopiedWhileConnected state := by
  have consistent := Transition.reach_meets (client env) CopiedWhileConnected Tolerated
    (fun state => Consistent env state.side) (start_consistent env)
    (fun state event held offered condition => step_consistent env event.2 state event.1 held offered condition)
    state reached
  refine ⟨?_, consistent.activeIdle, ?_⟩
  · by_cases active : state.activeWebhookSetQuery = none
    · exact .inr active
    · apply Or.inl
      by_contra busy
      exact consistent.setBusy busy (consistent.activeIdle active)
  · intro event fault offered condition failed
    exact not_of_set_webhook fault (meets_fails Tolerated _ _ fault
      (step_consistent env event.2 state event.1 consistent offered condition) failed)

end Safety

section LateCopy

def plainLibrary : Library where
  parseUrl _ := true
  jsonDecode _ := none
  toInt32 _ := 0
  toUint64 _ := none
  getRetryAfterTime _ := 0

def plainServer : Environment ListQueue where
  tqueue := listTQueue
  library := plainLibrary

def webhookQuery (id : Nat) (method : String) : Query where
  id := id
  method := method
  args := [("url", "https://example.org")]

def certificateQuery : Query where
  id := 1
  method := "setwebhook"
  args := [("url", "https://example.org")]
  files := [⟨"certificate", 1000, "upload.pem"⟩]

def startedClient : State ListQueue := startUp {} (ListQueue.empty 1) none

def runEvents (env : Environment ListQueue) (state : State ListQueue) (events : List (Event × Draws)) : State ListQueue :=
  match events.foldlM (fun state event => step env event.2 state event.1) state with
  | .ok state => state
  | .error _ => state

theorem started_client : (client plainServer).start startedClient := ⟨{}, ListQueue.empty 1, none, .inl rfl⟩

def copyingClient : State ListQueue :=
  runEvents plainServer startedClient [(.authorizationReady, {}), (.send certificateQuery, {})]

def closedClient : State ListQueue :=
  runEvents plainServer copyingClient [(.authorizationLoggingOut, {}), (.authorizationClosed, {})]

theorem copying_reached (meets : Transition.Condition (State ListQueue) (Event × Draws))
    (met : ∀ state event, (∀ copied, event.1 ≠ .certificateCopied copied) → meets state event) :
    Transition.Reach (client plainServer) meets copyingClient := by
  apply Transition.reach_follows _ _ [(.authorizationReady, {}), (.send certificateQuery, {})] startedClient _
    (.start _ started_client)
  exact ⟨⟨rfl, rfl, rfl, rfl, Int.le_refl 0⟩, met _ _ (fun _ impossible => by cases impossible), _, rfl,
    ⟨rfl, trivial⟩, met _ _ (fun _ impossible => by cases impossible), _, rfl, rfl⟩

-- The client outlives TDLib, whose end failed the request.
theorem late_copy_fails_check : ∃ state, Transition.Reach (client plainServer) Transition.unrestricted state ∧
    ¬ SetWebhookSafe plainServer Transition.unrestricted state := by
  have copying := copying_reached Transition.unrestricted (fun _ _ _ => trivial)
  refine ⟨closedClient, ?_, fun safe => ?_⟩
  · apply Transition.reach_follows _ _ [(.authorizationLoggingOut, {}), (.authorizationClosed, {})] copyingClient _ copying
    exact ⟨⟨rfl, rfl⟩, trivial, _, rfl, ⟨rfl, rfl, rfl⟩, trivial, _, rfl, rfl⟩
  · have failed : (client plainServer).step closedClient (.certificateCopied true, {}) = .error .activeQueryNotEmpty := rfl
    exact safe.checked _ _ ⟨rfl, Nat.one_pos⟩ trivial failed (by decide)

theorem copied_client_safe : SetWebhookSafe plainServer CopiedWhileConnected
    (runEvents plainServer copyingClient [(.certificateCopied true, {})]) := by
  apply set_webhook_safe_while_connected plainServer
  have copying := copying_reached CopiedWhileConnected (fun _ _ other copied same => absurd same (other copied))
  apply Transition.reach_follows _ _ [(.certificateCopied true, {})] copyingClient _ copying
  exact ⟨⟨rfl, Nat.one_pos⟩, fun _ _ => rfl, _, rfl, rfl⟩

end LateCopy

end TelegramBotApi.Client
