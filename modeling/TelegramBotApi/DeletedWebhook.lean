import TelegramBotApi.BotLifetimes
import TelegramBotApi.WebhookAbsence

set_option autoImplicit false

namespace TelegramBotApi.Lifetimes

open Checked Client

section Server

variable {Queue : Type} (env : Environment Queue) (tokenDecodes : Bool)

def HarmlessServerEvent (server : Server Queue) (event : Event × Draws) : Prop :=
  ∀ client, server.bot = .present client →
    match event.1 with
    | .send query _ => HarmlessEvent env client (.send query, event.2)
    | .restoreReceived _ =>
        ∀ query rest, server.restoreQueries = query :: rest → HarmlessEvent env client (.send query, event.2)
    | .client clientEvent => HarmlessEvent env client (clientEvent, event.2)
    | _ => True

def BotTracked : Bot Queue → Prop
  | .absent _ webhookDb => webhookDb ≠ some ""
  | .present client => Tracked env client

theorem stored_of_tracked (bot : Bot Queue) (tracked : BotTracked env bot) : bot.webhookDb ≠ some "" := by
  cases bot with
  | absent tqueue webhookDb => exact tracked
  | present client => exact tracked.stored

theorem deliver_tracked (draws : Draws) (query : Query) (client : State Queue) (tracked : Tracked env client)
    (harmless : HarmlessEvent env client (.send query, draws)) :
    Meets Tolerated (Tracked env) (deliver env draws query client) := by
  unfold deliver
  split
  · exact ⟨tracked.consistent, tracked.stored, tracked.accounted⟩
  · exact send_tracked env draws query client tracked harmless

structure New (client : State Queue) : Prop where
  consistent : Consistent env client.side
  stored : client.side.webhookDb ≠ some ""
  unauthorized : client.wasAuthorized = false
  waiting : client.cmdQueue = []
  running : client.stopped = true → client.side.isClosing = true

theorem create_client_new (draws : Draws) (tqueue : Queue) (webhookDb : Option String) (stored : webhookDb ≠ some "") :
    Meets Tolerated (New env) (createClient env tokenDecodes draws tqueue webhookDb) := by
  have running : Consistent env (startUp draws tqueue webhookDb).side :=
    start_consistent env _ ⟨draws, tqueue, webhookDb, .inl rfl⟩
  unfold createClient
  split
  · exact ⟨running, stored, rfl, rfl, fun stopped => by cases stopped⟩
  · cases created : finishClosing env draws { startUp draws tqueue webhookDb with loggingOut := true, tdClient := false } with
    | error fault => exact meets_fails Tolerated _ _ fault (finish_closing_keeps env draws _ rfl) created
    | ok client =>
        have same := meets_returns Tolerated _ _ client (keeps_frame _ _ (finish_closing_keeps env draws _ rfl)) created
        refine ⟨start_consistent env client ⟨draws, tqueue, webhookDb, .inr created⟩, ?_,
          congrArg (fun frame => frame.wasAuthorized) same, congrArg Frame.cmdQueue same, fun _ => ?_⟩
        · rw [show client.side.webhookDb = webhookDb from congrArg (fun frame => frame.webhookDb) same]
          exact stored
        · rw [side_of_frame client _ same]
          rfl

theorem unauthorized_harmless (draws : Draws) (query : Query) (client : State Queue)
    (unauthorized : client.wasAuthorized = false) : HarmlessEvent env client (.send query, draws) := by
  intro authorized
  rw [unauthorized] at authorized
  cases authorized

theorem deliver_unauthorized (draws : Draws) (query : Query) (client : State Queue)
    (consistent : Consistent env client.side) (unauthorized : client.wasAuthorized = false) :
    Meets Tolerated (fun after => after.wasAuthorized = false) (deliver env draws query client) := by
  unfold deliver
  split
  · exact unauthorized
  · exact loop_unauthorized env draws { client with cmdQueue := client.cmdQueue ++ [query] } consistent unauthorized

theorem deliver_first_tracked (draws : Draws) (query : Query) (client : State Queue) (new : New env client)
    (webhook : IsWebhookQuery query) : Meets Tolerated (Tracked env) (deliver env draws query client) := by
  have awaited : Awaited (client.cmdQueue ++ [query]) := ⟨query, [], by rw [new.waiting]; rfl, webhook⟩
  unfold deliver
  split
  · rename_i stopped
    exact tracked_of_closing env _ new.consistent new.stored (new.running stopped)
  · exact loop_tracked env draws { client with cmdQueue := client.cmdQueue ++ [query] } new.consistent new.stored
      (.inr awaited) (unauthorized_harmless env draws query client new.unauthorized)

theorem first_request_tracked (draws : Draws) (query : Query) (client : State Queue) (new : New env client) :
    Meets Tolerated (Tracked env) (restoreWebhook env draws query client >>= deliver env draws query) := by
  unfold restoreWebhook
  by_cases restores : query.method ≠ "deletewebhook" ∧ query.method ≠ "setwebhook" ∧ storedWebhook client ≠ ""
  · rw [if_pos restores]
    have restored := deliver_first_tracked env draws (restoreQuery (storedWebhook client)) client new (.inl rfl)
    have waits := deliver_unauthorized env draws (restoreQuery (storedWebhook client)) client new.consistent new.unauthorized
    apply meets_bind Tolerated _ _ _ _ (meets_and Tolerated _ _ _ restored waits)
    rintro after ⟨tracked, unauthorized⟩
    exact deliver_tracked env draws query after tracked (unauthorized_harmless env draws query after unauthorized)
  · rw [if_neg restores]
    by_cases webhook : IsWebhookQuery query
    · exact deliver_first_tracked env draws query client new webhook
    · have empty : storedWebhook client = "" := by
        by_contra entry
        exact restores ⟨fun delete => webhook (.inr delete), fun set => webhook (.inl set), entry⟩
      have absent : client.side.webhookDb = none := by
        have stored : client.webhookDb ≠ some "" := new.stored
        cases entry : client.webhookDb with
        | none => exact entry
        | some value =>
            rw [storedWebhook, entry] at empty
            rw [entry] at stored
            exact absurd (congrArg some empty) stored
      exact deliver_tracked env draws query client (removed_tracked env client new.consistent absent)
        (unauthorized_harmless env draws query client new.unauthorized)

theorem send_server_tracked (draws : Draws) (query : Query) (floodRetryAfter : Option Int) (server : Server Queue)
    (tracked : BotTracked env server.bot)
    (harmless : ∀ client, server.bot = .present client → HarmlessEvent env client (.send query, draws)) :
    Meets Tolerated (fun after => BotTracked env after.bot) (send env tokenDecodes draws query floodRetryAfter server) := by
  unfold send
  by_cases closed : server.closeFlag = true
  · rw [if_pos closed]
    exact tracked
  · rw [if_neg closed]
    split
    · rename_i client present
      rw [present] at tracked
      apply meets_bind Tolerated _ _ _ _ (deliver_tracked env draws query client tracked (harmless client present))
      exact fun after kept => kept
    · rename_i tqueue webhookDb absent
      rw [absent] at tracked
      split
      · rw [← absent] at tracked
        exact tracked
      · cases floodRetryAfter with
        | some seconds =>
            rw [← absent] at tracked
            exact tracked
        | none =>
            apply meets_bind Tolerated _ _ _ _ (create_client_new env tokenDecodes draws tqueue webhookDb tracked)
            intro created new
            have requested := first_request_tracked env draws query created new
            rw [← bind_assoc]
            apply meets_bind Tolerated _ _ _ _ requested
            exact fun after kept => kept

theorem server_step_tracked (draws : Draws) (server : Server Queue) (event : Event) (tracked : BotTracked env server.bot)
    (offered : enabled server event) (harmless : HarmlessServerEvent env server (event, draws)) :
    Meets (fun _ => True) (fun after => BotTracked env after.bot) (step env tokenDecodes draws server event) := by
  cases event with
  | send query floodRetryAfter =>
      exact meets_allow Tolerated _ _ _ (fun _ _ => trivial)
        (send_server_tracked env tokenDecodes draws query floodRetryAfter server tracked harmless)
  | restoreReceived floodRetryAfter =>
      change Meets _ _ (receive env tokenDecodes draws floodRetryAfter server)
      unfold receive
      split
      · exact tracked
      · rename_i query rest received
        exact meets_allow Tolerated _ _ _ (fun _ _ => trivial)
          (send_server_tracked env tokenDecodes draws query floodRetryAfter { server with restoreQueries := rest } tracked
            (fun client present => harmless client present query rest received))
  | client clientEvent =>
      have steps (client : State Queue) (present : server.bot = .present client)
        (clientOffered : Client.enabled client clientEvent) :
          Meets (fun _ => True) (fun after => BotTracked env after.bot)
            (step env tokenDecodes draws server (.client clientEvent)) := by
        rw [present] at tracked
        unfold step
        rw [present]
        apply meets_bind _ _ _ _ _ (step_tracked env draws client clientEvent tracked clientOffered (harmless client present))
        exact fun after kept => kept
      cases clientEvent with
      | send query => exact offered.elim
      | close => exact offered.elim
      | _ =>
          obtain ⟨client, present, clientOffered⟩ := offered
          exact steps client present clientOffered
  | clientHungUp => exact stored_of_tracked env server.bot tracked
  | close =>
      change Meets _ _ (close draws server)
      unfold close
      split
      · rename_i tqueue webhookDb absent
        rw [absent] at tracked
        rw [← absent] at tracked
        exact tracked
      · rename_i client present
        rw [present] at tracked
        apply meets_allow Tolerated _ _ _ (fun _ _ => trivial)
        apply meets_bind Tolerated _ _ _ _ (meets_tracked env client _ (close_keeps draws client) tracked)
        exact fun after kept => kept
  | restart => exact stored_of_tracked env server.bot tracked

theorem reach_tracked (server : Server Queue)
    (reached : Transition.Reach (machine env tokenDecodes) (HarmlessServerEvent env) server) : BotTracked env server.bot := by
  apply Transition.reach_meets (machine env tokenDecodes) (HarmlessServerEvent env) (fun _ => True)
    (fun server => BotTracked env server.bot) _ _ server reached
  · rintro _ ⟨tqueue, webhookDb, stored, rfl⟩
    exact stored
  · intro before event tracked offered harmless
    exact server_step_tracked env tokenDecodes event.2 before event.1 tracked offered harmless

structure Deleted (server : Server Queue) : Prop where
  webhookDb : server.bot.webhookDb = none
  restoreQueries : server.restoreQueries = []
  client : ∀ client, server.bot = .present client → client.frame.Bare

def SetsNoWebhook (event : Event × Draws) : Prop :=
  ∀ query floodRetryAfter, event.1 = .send query floodRetryAfter → query.method ≠ "setwebhook"

theorem deliver_bare (draws : Draws) (query : Query) (client : State Queue) (consistent : Consistent env client.side)
    (bare : client.frame.Bare) (other : query.method ≠ "setwebhook")
    (harmless : HarmlessEvent env client (.send query, draws)) :
    Meets Tolerated (fun after => after.frame.Bare) (deliver env draws query client) := by
  unfold deliver
  split
  · exact bare
  · exact send_bare env draws query client consistent bare other harmless

theorem create_client_bare (draws : Draws) (tqueue : Queue) :
    Meets Tolerated (fun created => created.frame.Bare) (createClient env tokenDecodes draws tqueue none) := by
  unfold createClient
  split
  · exact ⟨rfl, rfl, rfl, fun query member => by cases member⟩
  · exact meets_bare _ _ (finish_closing_keeps env draws _ rfl) ⟨rfl, rfl, rfl, fun query member => by cases member⟩

theorem send_server_deleted (draws : Draws) (query : Query) (floodRetryAfter : Option Int) (server : Server Queue)
    (tracked : BotTracked env server.bot) (deleted : Deleted server) (other : query.method ≠ "setwebhook")
    (harmless : ∀ client, server.bot = .present client → HarmlessEvent env client (.send query, draws)) :
    Meets Tolerated Deleted (send env tokenDecodes draws query floodRetryAfter server) := by
  have unchanged (answers : List (Query × Answer)) : Deleted { server with answers := answers } :=
    ⟨deleted.webhookDb, deleted.restoreQueries, deleted.client⟩
  have reached (after : State Queue) (bare : after.frame.Bare) : Deleted { server with bot := .present after } :=
    ⟨bare.webhookDb, deleted.restoreQueries, fun client same => by cases same; exact bare⟩
  unfold send
  by_cases closed : server.closeFlag = true
  · rw [if_pos closed]
    exact unchanged _
  · rw [if_neg closed]
    split
    · rename_i client present
      rw [present] at tracked
      apply meets_bind Tolerated _ _ _ _ (deliver_bare env draws query client tracked.consistent
        (deleted.client client present) other (harmless client present))
      exact reached
    · rename_i tqueue webhookDb absent
      have none : webhookDb = none := by
        have entry := deleted.webhookDb
        rw [absent] at entry
        exact entry
      split
      · exact unchanged _
      · cases floodRetryAfter with
        | some seconds => exact unchanged _
        | none =>
            subst none
            apply meets_bind Tolerated _ _ _ _ (meets_and Tolerated _ _ _
              (create_client_new env tokenDecodes draws tqueue .none (by decide))
              (create_client_bare env tokenDecodes draws tqueue))
            rintro created ⟨new, bare⟩
            have noEntry : storedWebhook created = "" := by
              rw [storedWebhook, show created.webhookDb = .none from bare.webhookDb]
              rfl
            unfold restoreWebhook
            rw [if_neg (fun restores => restores.2.2 noEntry)]
            apply meets_bind Tolerated _ _ _ _ (deliver_bare env draws query created new.consistent bare other
              (unauthorized_harmless env draws query created new.unauthorized))
            exact reached

theorem server_step_deleted (draws : Draws) (server : Server Queue) (event : Event) (tracked : BotTracked env server.bot)
    (deleted : Deleted server) (offered : enabled server event) (harmless : HarmlessServerEvent env server (event, draws))
    (others : SetsNoWebhook (event, draws)) :
    Meets (fun _ => True) Deleted (step env tokenDecodes draws server event) := by
  have absent (tqueue : Queue) (queries : List Query) (closeFlag : Bool) (answers : List (Query × Answer))
      (none : queries = []) : Deleted (Server.mk (.absent tqueue server.bot.webhookDb) closeFlag queries answers) :=
    ⟨deleted.webhookDb, none, fun client present => by cases present⟩
  cases event with
  | send query floodRetryAfter =>
      exact meets_allow Tolerated _ _ _ (fun _ _ => trivial)
        (send_server_deleted env tokenDecodes draws query floodRetryAfter server tracked deleted
          (others query floodRetryAfter rfl) harmless)
  | restoreReceived floodRetryAfter => exact absurd deleted.restoreQueries offered
  | client clientEvent =>
      have steps (client : State Queue) (present : server.bot = .present client)
          (clientOffered : Client.enabled client clientEvent) (notSet : ∀ query, clientEvent ≠ .send query) :
          Meets (fun _ => True) Deleted (step env tokenDecodes draws server (.client clientEvent)) := by
        rw [present] at tracked
        unfold step
        rw [present]
        apply meets_bind _ _ _ _ _ (step_bare env draws client clientEvent tracked.consistent (deleted.client client present)
          clientOffered (harmless client present) (fun query same => absurd same (notSet query)))
        exact fun after bare => ⟨bare.webhookDb, deleted.restoreQueries, fun client same => by cases same; exact bare⟩
      cases clientEvent with
      | send query => exact offered.elim
      | close => exact offered.elim
      | _ =>
          obtain ⟨client, present, clientOffered⟩ := offered
          exact steps client present clientOffered (fun query same => by cases same)
  | clientHungUp => exact absent _ _ _ _ deleted.restoreQueries
  | close =>
      change Meets _ _ (close draws server)
      unfold close
      split
      · exact ⟨deleted.webhookDb, deleted.restoreQueries, deleted.client⟩
      · rename_i client present
        apply meets_allow Tolerated _ _ _ (fun _ _ => trivial)
        apply meets_bind Tolerated _ _ _ _ (meets_bare client _ (close_keeps draws client) (deleted.client client present))
        exact fun after bare => ⟨bare.webhookDb, deleted.restoreQueries, fun client same => by cases same; exact bare⟩
  | restart =>
      apply absent
      rw [deleted.webhookDb]
      rfl

structure Settled (server : Server Queue) (client : State Queue) : Prop where
  present : server.bot = .present client
  authorized : client.wasAuthorized = true
  isOpen : client.closing = false ∧ client.loggingOut = false
  setQuery : client.webhookSetQuery = none
  active : client.activeWebhookSetQuery = none
  restoring : (∀ query ∈ client.cmdQueue, query.isInternal = false) ∧ server.restoreQueries = []
  url : client.webhookUrl = ""

theorem entry_deleted_of_settled (server : Server Queue) (client : State Queue) (tracked : BotTracked env server.bot)
    (settled : Settled server client) : server.bot.webhookDb = none := by
  rw [settled.present] at tracked ⊢
  by_contra entry
  rcases tracked.accounted with accounted | ⟨unauthorized, _⟩
  · rcases accounted entry with closing | busy | active
    · rw [Side.isClosing, show client.side.loggingOut = false from settled.isOpen.2,
        show client.side.closing = false from settled.isOpen.1] at closing
      cases closing
    · exact busy settled.url
    · exact active settled.active
  · cases unauthorized.symm.trans settled.authorized

theorem deleted_webhook_stays_deleted (server : Server Queue) (client : State Queue)
    (reached : Transition.Reach (machine env tokenDecodes) (HarmlessServerEvent env) server)
    (settled : Settled server client) :
    server.bot.webhookDb = none ∧
      ((∀ query ∈ client.cmdQueue, query.method ≠ "setwebhook") →
        ∀ later, Transition.Reach ((machine env tokenDecodes).startingFrom server)
          (fun server event => HarmlessServerEvent env server event ∧ SetsNoWebhook event) later → Deleted later) := by
  have tracked := reach_tracked env tokenDecodes server reached
  have entry := entry_deleted_of_settled env server client tracked settled
  refine ⟨entry, fun noneWaits later continued => ?_⟩
  have both : BotTracked env later.bot ∧ Deleted later := by
    apply Transition.reach_meets ((machine env tokenDecodes).startingFrom server) _ (fun _ => True)
      (fun later => BotTracked env later.bot ∧ Deleted later) _ _ later continued
    · rintro _ rfl
      refine ⟨tracked, entry, settled.restoring.2, fun other present => ?_⟩
      cases settled.present.symm.trans present
      rw [settled.present] at entry
      exact ⟨settled.url, settled.active, entry, noneWaits⟩
    · rintro before event ⟨beforeTracked, beforeDeleted⟩ offered ⟨harmless, others⟩
      exact meets_and _ _ _ _
        (server_step_tracked env tokenDecodes event.2 before event.1 beforeTracked offered harmless)
        (server_step_deleted env tokenDecodes event.2 before event.1 beforeTracked beforeDeleted offered harmless others)
  exact both.2

end Server

section Reopened

def request (id : Nat) (method : String) : Event × Draws := (.send (webhookQuery id method) none, {})

def fromClient (event : Client.Event) : Event × Draws := (.client event, {})

def runServer (server : Server ListQueue) (events : List (Event × Draws)) : Server ListQueue :=
  match events.foldlM (fun server event => step plainServer true event.2 server event.1) server with
  | .ok after => after
  | .error _ => server

def emptyServer : Server ListQueue where
  bot := .absent (ListQueue.empty 1) none

-- The webhook is set and verified, and the close method stops the client.
def setAndClosed : List (Event × Draws) :=
  [request 1 "setwebhook", fromClient .authorizationReady, fromClient (.webhookVerified 2 "10.0.0.1"), request 2 "close",
    fromClient .authorizationClosing, fromClient .authorizationClosed, (.clientHungUp, {})]

def closedServer : Server ListQueue := runServer emptyServer setAndClosed

def deletedServer : Server ListQueue :=
  runServer closedServer [request 3 "deletewebhook", fromClient .authorizationReady]

theorem closed_server_reached :
    Transition.Reach (machine plainServer true) Transition.unrestricted closedServer := by
  apply Transition.reach_follows (machine plainServer true) _ setAndClosed emptyServer _
    (.start _ ⟨ListQueue.empty 1, none, by decide, rfl⟩)
  exact ⟨trivial, trivial, _, rfl, ⟨_, rfl, rfl, rfl, rfl, rfl, Int.le_refl 0⟩, trivial, _, rfl,
    ⟨_, rfl, rfl, List.mem_singleton.2 rfl⟩, trivial, _, rfl, trivial, trivial,
    _, rfl, ⟨_, rfl, rfl, rfl⟩, trivial, _, rfl, ⟨_, rfl, rfl, rfl, rfl⟩, trivial, _, rfl, ⟨_, rfl, rfl⟩, trivial, _, rfl, rfl⟩

theorem reopened_client_keeps_entry : ∃ server client,
    Transition.Reach (machine plainServer true) Transition.unrestricted server ∧ Settled server client ∧
      server.bot.webhookDb ≠ none ∧ startedQueries server.bot.webhookDb ≠ [] := by
  refine ⟨deletedServer, _, ?_, ⟨rfl, rfl, ⟨rfl, rfl⟩, rfl, rfl, ⟨?_, rfl⟩, rfl⟩, ?_, ?_⟩
  · apply Transition.reach_follows (machine plainServer true) _
      [request 3 "deletewebhook", fromClient .authorizationReady] closedServer _ closed_server_reached
    exact ⟨trivial, trivial, _, rfl, ⟨_, rfl, rfl, rfl, rfl, rfl, Int.le_refl 0⟩, trivial, _, rfl, rfl⟩
  · intro query member
    cases member
  · exact Option.some_ne_none _
  · exact List.cons_ne_nil _ _

def setAndDeleted : List (Event × Draws) :=
  [request 1 "setwebhook", fromClient .authorizationReady, fromClient (.webhookVerified 2 "10.0.0.1"),
    request 2 "deletewebhook", fromClient (.webhookClosed 2 "Closed")]

theorem set_and_deleted_settled :
    (runServer emptyServer setAndDeleted).bot.webhookDb = none := by
  refine (deleted_webhook_stays_deleted plainServer true (runServer emptyServer setAndDeleted) _ ?_
    ⟨rfl, rfl, ⟨rfl, rfl⟩, rfl, rfl, ⟨fun query member => (by cases member), rfl⟩, rfl⟩).1
  apply Transition.reach_follows (machine plainServer true) _ setAndDeleted emptyServer _
    (.start _ ⟨ListQueue.empty 1, none, by decide, rfl⟩)
  refine ⟨trivial, fun client present => (by cases present), _, rfl, ⟨_, rfl, rfl, rfl, rfl, rfl, Int.le_refl 0⟩, ?_, _, rfl,
    ⟨_, rfl, rfl, List.mem_singleton.2 rfl⟩, fun client present => trivial, _, rfl, trivial, ?_, _, rfl,
    ⟨_, rfl, rfl, List.mem_singleton.2 rfl⟩, fun client present => trivial, _, rfl, rfl⟩
  · intro client present
    cases present
    refine ⟨fun _ _ => ⟨fun entry => absurd rfl entry, fun onlyTypes => ?_⟩, fun _ _ => trivial⟩
    exact absurd onlyTypes.1 (by decide)
  · intro client present
    cases present
    exact fun _ => ⟨fun _ unset => absurd unset.url (by decide), fun _ _ => trivial⟩

end Reopened

end TelegramBotApi.Lifetimes
