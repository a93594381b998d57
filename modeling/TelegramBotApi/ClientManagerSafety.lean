import TelegramBotApi.ClientManager

set_option autoImplicit false

namespace TelegramBotApi.ClientManager

open Checked Tables

namespace Client

def rawMails (client : Client) : List (List Mail) :=
  if client.isActive then [[], [.active]]
  else if client.wasAuthorized then [[], [.inactive], [.active, .inactive]]
  else [[]]

def lastMail (client : Client) : List Mail := if client.stopped then [.hangup] else []

structure Sound (client : Client) : Prop where
  ended : client.started && !client.tdClient || client.timeout || client.directoryRemoval || client.stopped →
    client.loggingOut || client.closing
  fresh : client.started = false → client.tdClient = false ∧ client.wasAuthorized = false
  mail : ∃ raw ∈ client.rawMails, client.parent = raw ++ client.lastMail

def isCounted (client : Client) : Bool :=
  match client.parent with
  | [] => client.isActive
  | mail :: _ => mail = .inactive

structure Keeps (client after : Client) : Prop where
  sound : Sound after
  counted : after.isCounted = client.isCounted
  token : after.token = client.token
  isTestDc : after.isTestDc = client.isTestDc
  tqueueId : after.tqueueId = client.tqueueId

theorem keeps_trans (first middle last : Client) (begins : Keeps first middle) (continues : Keeps middle last) :
    Keeps first last :=
  ⟨continues.sound, continues.counted.trans begins.counted, continues.token.trans begins.token,
    continues.isTestDc.trans begins.isTestDc, continues.tqueueId.trans begins.tqueueId⟩

theorem keeps_flags (client after : Client) (sound : Sound client)
    (ended : after.started && !after.tdClient || after.timeout || after.directoryRemoval || after.stopped →
      after.loggingOut || after.closing)
    (fresh : after.started = false → after.tdClient = false ∧ after.wasAuthorized = false)
    (wasAuthorized : after.wasAuthorized = client.wasAuthorized) (active : after.isActive = client.isActive)
    (stopped : after.stopped = client.stopped) (parent : after.parent = client.parent) (token : after.token = client.token)
    (isTestDc : after.isTestDc = client.isTestDc) (tqueueId : after.tqueueId = client.tqueueId) : Keeps client after := by
  refine ⟨⟨ended, fresh, ?_⟩, ?_, token, isTestDc, tqueueId⟩
  · rw [rawMails, lastMail, active, wasAuthorized, stopped, parent]
    exact sound.mail
  · rw [isCounted, isCounted, parent, active]

theorem inactive_of_ended (client : Client) (ended : client.loggingOut || client.closing) : client.isActive = false := by
  unfold isActive
  revert ended
  cases client.loggingOut <;> cases client.closing <;> simp

theorem keeps_stop (client : Client) (sound : Sound client) (running : client.stopped = false)
    (ended : client.loggingOut || client.closing) : Keeps client client.stop := by
  have inactive := inactive_of_ended client ended
  have inactiveAfter : client.stop.isActive = false := inactive
  obtain ⟨raw, member, parent⟩ := sound.mail
  have sent : client.parent = raw := by
    rw [parent, lastMail, running]
    simp
  have after : client.stop.parent = raw ++ [.hangup] := congrArg (· ++ [Mail.hangup]) sent
  refine ⟨⟨fun _ => ended, sound.fresh, raw, ?_, after⟩, ?_, rfl, rfl, rfl⟩
  · rw [rawMails, inactive] at member
    rw [rawMails, inactiveAfter]
    exact member
  · rw [isCounted, isCounted, after, sent]
    cases raw with
    | nil => simp [inactive]
    | cons mail raw => rfl

theorem keeps_finish_closing (client : Client) (sound : Sound client) (running : client.stopped = false)
    (ended : client.loggingOut || client.closing) : Keeps client client.finishClosing := by
  unfold finishClosing
  split
  · exact keeps_stop client sound running ended
  · exact keeps_flags client _ sound (fun _ => ended) sound.fresh rfl rfl rfl rfl rfl rfl rfl

theorem silent_of_unauthorized (client : Client) (sound : Sound client) (running : client.stopped = false)
    (unauthorized : client.wasAuthorized = false) : client.parent = [] := by
  obtain ⟨raw, member, parent⟩ := sound.mail
  rw [parent, lastMail, running]
  simpa [rawMails, isActive, unauthorized] using member

theorem keeps_start_up (env : Environment) (client : Client) (sound : Sound client) (running : client.stopped = false)
    (idle : client.started = false) : Keeps client (client.startUp env) := by
  obtain ⟨_, unauthorized⟩ := sound.fresh idle
  have inactive : client.isActive = false := by rw [isActive, unauthorized]; rfl
  unfold startUp
  split
  · refine keeps_flags client _ sound ?_ (fun impossible => by cases impossible) rfl rfl rfl rfl rfl rfl rfl
    have ended := sound.ended
    simp only [idle, Bool.false_and, Bool.false_or] at ended
    simpa using ended
  · have flagged : Keeps client { client with started := true, loggingOut := true } := by
      refine keeps_flags client _ sound (fun _ => rfl) (fun impossible => by cases impossible) rfl ?_ rfl rfl rfl rfl rfl
      rw [inactive]
      exact inactive_of_ended _ rfl
    exact keeps_trans _ _ _ flagged (keeps_finish_closing _ flagged.sound running rfl)

theorem keeps_leave (client out : Client) (sound : Sound client) (running : client.stopped = false)
    (ended : out.loggingOut || out.closing) (parent : out.parent = client.parent) (stopped : out.stopped = client.stopped)
    (authorized : out.wasAuthorized = client.wasAuthorized) (token : out.token = client.token)
    (fresh : out.started = false → out.tdClient = false ∧ out.wasAuthorized = false)
    (isTestDc : out.isTestDc = client.isTestDc) (tqueueId : out.tqueueId = client.tqueueId) :
    Keeps client (if client.isActive then out.sendEvent .inactive else out) := by
  have inactive := inactive_of_ended out ended
  obtain ⟨raw, member, sent⟩ := sound.mail
  rw [lastMail, running, if_neg Bool.false_ne_true, List.append_nil] at sent
  cases active : client.isActive with
  | true =>
      rw [if_pos rfl]
      have wasAuthorized : client.wasAuthorized = true := by
        unfold isActive at active
        revert active
        cases client.wasAuthorized <;> simp
      have inactiveAfter : (out.sendEvent .inactive).isActive = false := inactive
      have after : (out.sendEvent .inactive).parent = raw ++ [.inactive] := by
        rw [sendEvent, parent, sent]
      refine ⟨⟨fun _ => ended, fresh, raw ++ [.inactive], ?_, ?_⟩, ?_, token, isTestDc, tqueueId⟩
      · rw [rawMails, inactiveAfter, if_neg Bool.false_ne_true, sendEvent, authorized, wasAuthorized, if_pos rfl]
        rw [rawMails, active, if_pos rfl] at member
        revert member
        simp only [List.mem_cons, List.not_mem_nil, or_false]
        rintro (rfl | rfl) <;> simp
      · rw [after, lastMail, sendEvent, stopped, running]
        simp
      · rw [isCounted, isCounted, after, sent]
        cases raw with
        | nil => simp [active]
        | cons mail raw => rfl
  | false =>
      rw [if_neg Bool.false_ne_true]
      refine ⟨⟨fun _ => ended, fresh, raw, ?_, ?_⟩, ?_, token, isTestDc, tqueueId⟩
      · rw [rawMails, inactive, authorized]
        rw [rawMails, active] at member
        exact member
      · rw [parent, sent, lastMail, stopped, running]
        simp
      · rw [isCounted, isCounted, parent, sent, inactive, active]

theorem keeps_refl (client : Client) (sound : Sound client) : Keeps client client := ⟨sound, rfl, rfl, rfl, rfl⟩

theorem keeps_ready (client : Client) (sound : Sound client) (running : client.stopped = false)
    (started : client.started = true) (unauthorized : client.wasAuthorized = false) (notOut : client.loggingOut = false)
    (notClosing : client.closing = false) : Keeps client (sendEvent .active { client with wasAuthorized := true }) := by
  have silent := silent_of_unauthorized client sound running unauthorized
  have active : (sendEvent .active { client with wasAuthorized := true }).isActive = true := by
    simp [sendEvent, isActive, notOut, notClosing]
  have sent : (sendEvent .active { client with wasAuthorized := true }).parent = [.active] :=
    (congrArg (· ++ [Mail.active]) silent).trans (List.nil_append _)
  have inactive : client.isActive = false := by rw [isActive, unauthorized]; rfl
  refine ⟨⟨sound.ended, fun impossible => ?_, [.active], ?_, ?_⟩, ?_, rfl, rfl, rfl⟩
  · exact absurd (impossible.symm.trans started) Bool.false_ne_true
  · rw [rawMails, active]
    simp
  · rw [sent, lastMail, show (sendEvent .active { client with wasAuthorized := true }).stopped = client.stopped from rfl,
      running]
    simp
  · rw [isCounted, isCounted, sent, silent]
    exact inactive.symm

theorem keeps_on_closed (client : Client) (sound : Sound client) (running : client.stopped = false)
    (started : client.started = true) : Meets (fun fault => fault = .closedWhileActive) (Keeps client) client.onClosed := by
  refine meets_require (fun fault => fault = Check.closedWhileActive) _ _ _ _ (fun _ => rfl) ?_
  intro ended
  have flagged : Keeps client { client with tdClient := false } :=
    keeps_flags client _ sound (fun _ => ended)
      (fun impossible => absurd (impossible.symm.trans started) Bool.false_ne_true) rfl rfl rfl rfl rfl rfl rfl
  dsimp only
  split
  · exact keeps_flags client _ sound (fun _ => ended) flagged.sound.fresh rfl rfl rfl rfl rfl rfl rfl
  · exact keeps_trans _ _ _ flagged (keeps_finish_closing _ flagged.sound running ended)

theorem keeps_authorization_state (client : Client) (state : AuthorizationState) (sound : Sound client)
    (running : client.stopped = false) (online : client.tdClient = true)
    (once : ∀ knowsMe, state = .ready knowsMe → client.loggingOut = false ∧ client.closing = false) :
    Meets (fun fault => fault = .closedWhileActive) (Keeps client) (client.onUpdateAuthorizationState state) := by
  have started : client.started = true := by
    by_contra idle
    have offline := (sound.fresh (by simpa using idle)).1
    rw [online] at offline
    cases offline
  have fresh (impossible : client.started = false) : client.tdClient = false ∧ client.wasAuthorized = false :=
    absurd (impossible.symm.trans started) Bool.false_ne_true
  cases state with
  | ready knowsMe =>
      obtain ⟨notOut, notClosing⟩ := once knowsMe rfl
      by_cases first : (knowsMe && !client.wasAuthorized) = true
      · rw [onUpdateAuthorizationState, if_pos first]
        have unauthorized : client.wasAuthorized = false := by
          revert first
          cases client.wasAuthorized <;> simp
        exact keeps_ready client sound running started unauthorized notOut notClosing
      · rw [onUpdateAuthorizationState, if_neg first]
        exact keeps_refl client sound
  | loggingOut =>
      rw [onUpdateAuthorizationState]
      cases out : client.loggingOut with
      | true => exact keeps_refl client sound
      | false =>
          have leaves := keeps_leave client { client with loggingOut := true } sound running rfl rfl rfl rfl rfl
            fresh rfl rfl
          have active : client.isActive = (client.wasAuthorized && !client.closing) := by
            rw [isActive, out]
            simp
          rw [active] at leaves
          rw [if_neg Bool.false_ne_true]
          dsimp only
          split
          · rename_i announces
            rwa [if_pos announces] at leaves
          · rename_i silent
            rwa [if_neg silent] at leaves
  | closing =>
      rw [onUpdateAuthorizationState]
      cases out : client.closing with
      | true => exact keeps_refl client sound
      | false =>
          have leaves := keeps_leave client { client with closing := true } sound running (Bool.or_true _) rfl rfl rfl rfl
            fresh rfl rfl
          have active : client.isActive = (client.wasAuthorized && !client.loggingOut) := by
            rw [isActive, out]
            simp
          rw [active] at leaves
          rw [if_neg Bool.false_ne_true]
          dsimp only
          split
          · rename_i announces
            rwa [if_pos announces] at leaves
          · rename_i silent
            rwa [if_neg silent] at leaves
  | closed => exact keeps_on_closed client sound running started
  | other => exact keeps_refl client sound

theorem keeps_close (client : Client) (sound : Sound client) (started : client.started = true) :
    Keeps client { client.close with closeSent := false } := by
  have fresh (impossible : client.started = false) : client.tdClient = false ∧ client.wasAuthorized = false :=
    absurd (impossible.symm.trans started) Bool.false_ne_true
  unfold close
  split
  · exact keeps_flags client _ sound sound.ended fresh rfl rfl rfl rfl rfl rfl rfl
  · rename_i offline
    have ended := sound.ended (by simp [started, offline])
    exact keeps_flags client _ sound (fun _ => ended) fresh rfl rfl rfl rfl rfl rfl rfl

theorem last_mail_of_active (client : Client) (sound : Sound client) (active : client.isActive = true) :
    client.lastMail = [] := by
  by_contra last
  have stopped : client.stopped = true := by
    by_contra runs
    exact last (by simp [lastMail, runs])
  have inactive := inactive_of_ended client (sound.ended (by simp [stopped]))
  rw [active] at inactive
  cases inactive

theorem last_mail_uncounted (client : Client) (inactive : client.isActive = false) :
    ({ client with parent := client.lastMail } : Client).isCounted = false := by
  unfold isCounted lastMail
  cases client.stopped with
  | false => exact inactive
  | true => rfl

theorem next_mail (client : Client) (mail : Mail) (later : List Mail) (sound : Sound client)
    (waiting : client.parent = mail :: later) :
    match mail with
    | .active => client.isCounted = false ∧ ({ client with parent := later } : Client).isCounted = true ∧
        Sound { client with parent := later }
    | .inactive => client.isCounted = true ∧ ({ client with parent := later } : Client).isCounted = false ∧
        Sound { client with parent := later }
    | .hangup => client.isCounted = false ∧ later = [] := by
  obtain ⟨raw, member, sent⟩ := sound.mail
  have rest (raw : List Mail) (fits : raw ∈ client.rawMails) (left : later = raw ++ client.lastMail) :
      Sound { client with parent := later } := ⟨sound.ended, sound.fresh, raw, fits, left⟩
  have running := last_mail_of_active client sound
  rw [waiting] at sent
  unfold rawMails at member
  cases active : client.isActive with
  | true =>
      rw [active, if_pos rfl] at member
      rw [running active, List.append_nil] at sent
      simp only [List.mem_cons, List.not_mem_nil, or_false] at member
      rcases member with rfl | rfl
      · cases sent
      · cases sent
        refine ⟨by simp [isCounted, waiting], active, rest [] ?_ (by rw [running active]; rfl)⟩
        rw [rawMails, active]
        simp
  | false =>
      have onlyHangup : mail :: later = client.lastMail → mail = .hangup ∧ later = [] := by
        unfold lastMail
        split
        · intro same
          cases same
          exact ⟨rfl, rfl⟩
        · intro same
          cases same
      rw [active, if_neg Bool.false_ne_true] at member
      rcases Bool.eq_false_or_eq_true client.wasAuthorized with wasAuthorized | wasAuthorized
      · have options : client.rawMails = [[], [.inactive], [.active, .inactive]] := by
          rw [rawMails, active, wasAuthorized]
          rfl
        rw [wasAuthorized, if_pos rfl] at member
        simp only [List.mem_cons, List.not_mem_nil, or_false] at member
        rcases member with rfl | rfl | rfl
        · obtain ⟨rfl, rfl⟩ := onlyHangup sent
          exact ⟨by simp [isCounted, waiting], rfl⟩
        · obtain ⟨rfl, rfl⟩ := List.cons.inj sent
          exact ⟨by simp [isCounted, waiting], last_mail_uncounted client active, rest [] (by rw [options]; simp) rfl⟩
        · obtain ⟨rfl, left⟩ := List.cons.inj sent
          refine ⟨by simp [isCounted, waiting], ?_, rest [.inactive] (by rw [options]; simp) left⟩
          rw [isCounted, left]
          rfl
      · rw [wasAuthorized, if_neg Bool.false_ne_true, List.mem_singleton] at member
        subst member
        obtain ⟨rfl, rfl⟩ := onlyHangup sent
        exact ⟨by simp [isCounted, waiting], rfl⟩

theorem counted_of_delivered (client : Client) (sound : Sound client)
    (delivered : ∀ mail ∈ client.parent, mail = .hangup) : client.isCounted = client.isActive := by
  obtain ⟨raw, member, sent⟩ := sound.mail
  cases active : client.isActive with
  | true =>
      rw [rawMails, active, if_pos rfl] at member
      rw [last_mail_of_active client sound active, List.append_nil] at sent
      simp only [List.mem_cons, List.not_mem_nil, or_false] at member
      rcases member with rfl | rfl
      · rw [isCounted, sent, active]
      · cases delivered .active (by rw [sent]; exact List.mem_cons_self)
  | false =>
      cases queue : client.parent with
      | nil => rw [isCounted, queue, active]
      | cons mail later =>
          cases delivered mail (by rw [queue]; exact List.mem_cons_self)
          rw [isCounted, queue]
          rfl

theorem keeps_close_sent (client : Client) (sound : Sound client) : Keeps client { client with closeSent := true } :=
  keeps_flags client _ sound sound.ended sound.fresh rfl rfl rfl rfl rfl rfl rfl

theorem key_inj (first last : String) (test dev : Bool) (plain : '/' ∉ first.toList) (other : '/' ∉ last.toList)
    (same : key first test = key last dev) : first = last ∧ test = dev := by
  have suffixed (token : String) : '/' ∈ (token ++ "/test").toList := by
    rw [String.toList_append]
    exact List.mem_append_right _ (by decide)
  cases test with
  | false =>
      cases dev with
      | false => exact ⟨same, rfl⟩
      | true =>
          rw [show first = last ++ "/test" from same] at plain
          exact absurd (suffixed last) plain
  | true =>
      cases dev with
      | false =>
          rw [show last = first ++ "/test" from same.symm] at other
          exact absurd (suffixed first) other
      | true =>
          refine ⟨?_, rfl⟩
          have lists : first.toList ++ "/test".toList = last.toList ++ "/test".toList := by
            rw [← String.toList_append, ← String.toList_append]
            exact congrArg String.toList same
          exact String.toList_injective (List.append_cancel_right lists)

end Client

def countedAt (tqueueId : Int) (client : Client) : Bool := decide (client.tqueueId = tqueueId) && client.isCounted

structure Inv (server : Server) : Prop where
  sound : ∀ id client, server.actors.lookup id = some client → client.Sound
  infos : ∀ id, server.manager.clients.lookup id = (server.actors.lookup id).map Client.info
  issued : ∀ id client, server.actors.lookup id = some client → id < server.manager.nextId
  tokens : ∀ token id, server.manager.tokenToId.lookup token = some id ↔
    ∃ client, server.actors.lookup id = some client ∧ client.info.token = token
  plain : ∀ id client, server.actors.lookup id = some client → '/' ∉ client.token.toList
  tqueueId : ∀ id client, server.actors.lookup id = some client → client.tqueueId ≠ 0
  counts : ∀ tqueueId, (server.manager.activeClientCount.lookup tqueueId).getD 0 = count (countedAt tqueueId) server.actors
  positive : ∀ tqueueId, server.manager.activeClientCount.lookup tqueueId ≠ some 0
  closed : server.manager.closeFlag = true ↔ server.closes ≠ []
  databases : server.manager.databaseClosings =
    if server.manager.closeFlag = true ∧ server.manager.clients.entries = [] then 1 else 0
  promises : if server.manager.stopped then server.promisesSet = server.closes
    else server.promisesSet = [] ∧ server.manager.closePromises = server.closes

structure Client.Stays (client after : Client) : Prop where
  sound : Sound after
  token : after.token = client.token
  isTestDc : after.isTestDc = client.isTestDc
  tqueueId : after.tqueueId = client.tqueueId

theorem stays_of_keeps (client after : Client) (kept : Client.Keeps client after) : Client.Stays client after :=
  ⟨kept.sound, kept.token, kept.isTestDc, kept.tqueueId⟩

theorem stays_insert (server : Server) (id : Nat) (client after : Client) (inv : Inv server)
    (found : server.actors.lookup id = some client) (stays : Client.Stays client after) (other : Nat) :
    Option.Rel Client.Stays (server.actors.lookup other) ((server.actors.insert id after).lookup other) := by
  rw [lookup_insert]
  split
  · rename_i same
    subst same
    rw [found]
    exact .some stays
  · cases there : server.actors.lookup other with
    | none => exact .none
    | some client => exact .some (stays_of_keeps _ _ (Client.keeps_refl client (inv.sound other client there)))

theorem inv_actors (server : Server) (actors : Table Nat Client) (activeClientCount : Table Int Nat) (inv : Inv server)
    (clients : ∀ id, Option.Rel Client.Stays (server.actors.lookup id) (actors.lookup id))
    (counts : ∀ tqueueId, (activeClientCount.lookup tqueueId).getD 0 = count (countedAt tqueueId) actors)
    (positive : ∀ tqueueId, activeClientCount.lookup tqueueId ≠ some 0) :
    Inv { server with manager := { server.manager with activeClientCount }, actors } := by
  have before (id : Nat) (after : Client) (found : actors.lookup id = some after) :
      ∃ client, server.actors.lookup id = some client ∧ Client.Stays client after := by
    have kept := clients id
    rw [found] at kept
    cases earlier : server.actors.lookup id with
    | none =>
        rw [earlier] at kept
        cases kept
    | some client =>
        rw [earlier] at kept
        cases kept with
        | some kept => exact ⟨client, rfl, kept⟩
  have info (id : Nat) : (actors.lookup id).map Client.info = (server.actors.lookup id).map Client.info := by
    have kept := clients id
    cases earlier : server.actors.lookup id with
    | none =>
        rw [earlier] at kept
        cases later : actors.lookup id with
        | none => rfl
        | some after =>
            rw [later] at kept
            cases kept
    | some client =>
        rw [earlier] at kept
        cases later : actors.lookup id with
        | none =>
            rw [later] at kept
            cases kept
        | some after =>
            rw [later] at kept
            cases kept with
            | some kept =>
                rw [Option.map_some, Option.map_some, Client.info, Client.info, kept.token, kept.isTestDc, kept.tqueueId]
  refine ⟨?_, ?_, ?_, ?_, ?_, ?_, counts, positive, inv.closed, inv.databases, inv.promises⟩
  · intro id after found
    obtain ⟨client, _, kept⟩ := before id after found
    exact kept.sound
  · intro id
    exact (inv.infos id).trans (info id).symm
  · intro id after found
    obtain ⟨client, earlier, _⟩ := before id after found
    exact inv.issued id client earlier
  · intro token id
    have named (table : Table Nat Client) :
        (∃ client, table.lookup id = some client ∧ client.info.token = token) ↔
          ∃ info, (table.lookup id).map Client.info = some info ∧ info.token = token := by
      simp
    exact (inv.tokens token id).trans (by rw [named, named, info])
  · intro id after found
    obtain ⟨client, earlier, kept⟩ := before id after found
    rw [kept.token]
    exact inv.plain id client earlier
  · intro id after found
    obtain ⟨client, earlier, kept⟩ := before id after found
    rw [kept.tqueueId]
    exact inv.tqueueId id client earlier

theorem counted_at_keeps (client after : Client) (tqueueId : Int) (kept : Client.Keeps client after) :
    countedAt tqueueId after = countedAt tqueueId client := by
  rw [countedAt, countedAt, kept.tqueueId, kept.counted]

theorem inv_update (server : Server) (id : Nat) (client after : Client) (inv : Inv server)
    (found : server.actors.lookup id = some client) (kept : Client.Keeps client after) :
    Inv { server with actors := server.actors.insert id after } := by
  refine inv_actors server _ server.manager.activeClientCount inv
    (stays_insert server id client after inv found (stays_of_keeps client after kept)) (fun tqueueId => ?_) inv.positive
  have replaced := count_replace (countedAt tqueueId) server.actors id client after found
  rw [counted_at_keeps client after tqueueId kept] at replaced
  exact (inv.counts tqueueId).trans (Nat.add_right_cancel replaced).symm

theorem inv_send_closes (server : Server) (inv : Inv server) : Inv { server with actors := sendCloses server.actors } := by
  refine inv_actors server _ server.manager.activeClientCount inv (fun id => ?_) (fun tqueueId => ?_) inv.positive
  · rw [sendCloses, lookup_map_values]
    cases there : server.actors.lookup id with
    | none => exact .none
    | some client => exact .some (stays_of_keeps _ _ (Client.keeps_close_sent client (inv.sound id client there)))
  · have mapped := count_map_values (countedAt tqueueId) (fun client : Client => { client with closeSent := true }) server.actors
    exact (inv.counts tqueueId).trans mapped.symm

abbrev Tolerated (fault : Check) : Prop := fault = .closedWhileActive

theorem update_client_inv (server : Server) (id : Nat) (change : Client → Except Check Client) (condition : Client → Prop)
    (inv : Inv server) (offered : Holds server id condition)
    (keeps : ∀ client, client.Sound → client.stopped = false → condition client →
      Meets Tolerated (Client.Keeps client) (change client)) :
    Meets Tolerated Inv (updateClient id server change) := by
  obtain ⟨client, found, running, holds⟩ := offered
  rw [updateClient, found]
  refine meets_bind Tolerated (Client.Keeps client) _ _ _ (keeps client (inv.sound id client found) running holds) ?_
  intro after kept
  exact inv_update server id client after inv found kept

theorem finish_close_inv (server : Server) (inv : Inv server) (running : server.manager.stopped = false) :
    Inv (finishClose server) := by
  have promises := inv.promises
  rw [running, if_neg Bool.false_ne_true] at promises
  refine { inv with promises := ?_ }
  change server.promisesSet ++ server.manager.closePromises = server.closes
  rw [promises.1, promises.2, List.nil_append]

theorem close_inv (server : Server) (promise : Nat) (inv : Inv server) (running : server.manager.stopped = false) :
    Inv { server with manager := server.manager.close promise, closes := server.closes ++ [promise] } := by
  have promises := inv.promises
  rw [running, if_neg Bool.false_ne_true] at promises
  have added : server.manager.closePromises ++ [promise] = server.closes ++ [promise] :=
    congrArg (· ++ [promise]) promises.2
  have databases := inv.databases
  unfold Manager.close
  have nonempty : server.closes ++ [promise] ≠ [] := List.append_ne_nil_of_right_ne_nil _ (List.cons_ne_nil _ _)
  have set : if server.manager.stopped then server.promisesSet = server.closes ++ [promise]
      else server.promisesSet = [] ∧ server.manager.closePromises ++ [promise] = server.closes ++ [promise] := by
    rw [running, if_neg Bool.false_ne_true]
    exact ⟨promises.1, added⟩
  by_cases closed : server.manager.closeFlag = true
  · rw [if_pos closed]
    exact { inv with closed := iff_of_true closed nonempty, promises := set }
  · rw [if_neg closed]
    rw [if_neg (fun both => closed both.1)] at databases
    by_cases empty : server.manager.clients.entries = []
    · rw [if_pos empty]
      refine { inv with closed := iff_of_true rfl nonempty, databases := ?_, promises := set }
      change server.manager.databaseClosings + 1 = _
      rw [databases, if_pos ⟨rfl, empty⟩]
    · rw [if_neg empty]
      refine { inv with closed := iff_of_true rfl nonempty, databases := ?_, promises := set }
      change server.manager.databaseClosings = _
      rw [databases, if_neg (fun both => empty both.2)]

theorem counts_raw (server : Server) (id : Nat) (client after : Client) (value : Nat) (inv : Inv server)
    (found : server.actors.lookup id = some client) (same : after.tqueueId = client.tqueueId)
    (moved : value + (if client.isCounted then 1 else 0) =
      (server.manager.activeClientCount.lookup client.tqueueId).getD 0 + (if after.isCounted then 1 else 0))
    (tqueueId : Int) :
    (if tqueueId = client.tqueueId then value else (server.manager.activeClientCount.lookup tqueueId).getD 0) =
      count (countedAt tqueueId) (server.actors.insert id after) := by
  have replaced := count_replace (countedAt tqueueId) server.actors id client after found
  have counts := inv.counts tqueueId
  by_cases here : client.tqueueId = tqueueId
  · subst here
    rw [if_pos rfl]
    have before : countedAt client.tqueueId client = client.isCounted := by simp [countedAt]
    have later : countedAt client.tqueueId after = after.isCounted := by simp [countedAt, same]
    rw [before, later] at replaced
    omega
  · rw [if_neg (fun equal => here equal.symm)]
    have before : countedAt tqueueId client = false := by simp [countedAt, here]
    have later : countedAt tqueueId after = false := by simp [countedAt, same, here]
    rw [before, later] at replaced
    omega

theorem raw_event_inv (server : Server) (id : Nat) (active : Bool) (client after : Client) (inv : Inv server)
    (found : server.actors.lookup id = some client) (stays : Client.Stays client after)
    (counted : client.isCounted = !active) (noticed : after.isCounted = active) :
    Meets Tolerated (fun manager => Inv { server with manager, actors := server.actors.insert id after })
      (server.manager.rawEvent id active) := by
  have info : server.manager.clients.lookup id = some client.info := by
    rw [inv.infos, found]
    rfl
  have clients := stays_insert server id client after inv found stays
  unfold Manager.rawEvent
  rw [info]
  refine meets_require Tolerated _ _ _ _ (fun zero => absurd (inv.tqueueId id client found) zero) ?_
  intro _
  rw [show client.info.tqueueId = client.tqueueId from rfl]
  have counts (value : Nat) := counts_raw server id client after value inv found stays.tqueueId
  rw [counted, noticed] at counts
  cases active with
  | true =>
      refine inv_actors server _ _ inv clients (fun tqueueId => ?_) (fun tqueueId => ?_)
      · rw [lookup_insert, apply_ite (Option.getD · 0)]
        exact counts _ rfl tqueueId
      · rw [lookup_insert]
        split
        · exact fun zero => absurd (Option.some.inj zero) (Nat.succ_ne_zero _)
        · exact inv.positive tqueueId
  | false =>
      have here : countedAt client.tqueueId client = true := by simp [countedAt, counted]
      have value : 0 < (server.manager.activeClientCount.lookup client.tqueueId).getD 0 := by
        rw [inv.counts]
        exact count_pos _ _ id client found here
      refine meets_require Tolerated _ _ _ _ (fun none => absurd value none) ?_
      intro _
      rw [if_neg Bool.false_ne_true] at counts
      split
      · rename_i zero
        refine inv_actors server _ _ inv clients (fun tqueueId => ?_) (fun tqueueId => ?_)
        · rw [lookup_erase, apply_ite (Option.getD · 0)]
          exact counts 0 (by simp; omega) tqueueId
        · rw [lookup_erase]
          split
          · exact fun zero => nomatch zero
          · exact inv.positive tqueueId
      · rename_i some
        refine inv_actors server _ _ inv clients (fun tqueueId => ?_) (fun tqueueId => ?_)
        · rw [lookup_insert, apply_ite (Option.getD · 0)]
          exact counts _ (by simp; omega) tqueueId
        · rw [lookup_insert]
          split
          · exact fun zero => some (Option.some.inj zero)
          · exact inv.positive tqueueId

theorem left_inv (server : Server) (id : Nat) (client : Client) (databaseClosings : Nat) (inv : Inv server)
    (found : server.actors.lookup id = some client) (uncounted : client.isCounted = false)
    (databases : databaseClosings =
      if server.manager.closeFlag = true ∧ (server.manager.clients.erase id).entries = [] then 1 else 0) :
    Inv { server with
          manager := { server.manager with
            tokenToId := server.manager.tokenToId.erase client.info.token
            clients := server.manager.clients.erase id
            databaseClosings }
          actors := server.actors.erase id } := by
  have stays (other : Nat) (after : Client) (there : (server.actors.erase id).lookup other = some after) :
      other ≠ id ∧ server.actors.lookup other = some after := by
    rw [lookup_erase] at there
    split at there
    · cases there
    · rename_i different
      exact ⟨different, there⟩
  refine ⟨?_, ?_, ?_, ?_, ?_, ?_, ?_, inv.positive, inv.closed, databases, inv.promises⟩
  · intro other after there
    exact inv.sound other after (stays other after there).2
  · intro other
    rw [lookup_erase, lookup_erase, inv.infos]
    split <;> rfl
  · intro other after there
    exact inv.issued other after (stays other after there).2
  · intro token other
    rw [lookup_erase]
    constructor
    · split
      · intro none
        cases none
      · rename_i different
        intro mapped
        obtain ⟨after, there, named⟩ := (inv.tokens token other).1 mapped
        refine ⟨after, ?_, named⟩
        rw [lookup_erase, if_neg, there]
        rintro rfl
        cases found.symm.trans there
        exact different named.symm
    · rintro ⟨after, there, named⟩
      obtain ⟨remains, there⟩ := stays other after there
      have mapped := (inv.tokens token other).2 ⟨after, there, named⟩
      rw [if_neg, mapped]
      rintro rfl
      rw [(inv.tokens client.info.token id).2 ⟨client, found, rfl⟩] at mapped
      exact remains (Option.some.inj mapped).symm
  · intro other after there
    exact inv.plain other after (stays other after there).2
  · intro other after there
    exact inv.tqueueId other after (stays other after there).2
  · intro tqueueId
    have erased := count_erase (countedAt tqueueId) server.actors id client found
    rw [show countedAt tqueueId client = false by simp [countedAt, uncounted]] at erased
    exact (inv.counts tqueueId).trans erased.symm

theorem inactive_of_left (server : Server) (inv : Inv server) (none : server.manager.clients.entries = []) :
    server.manager.activeClientCount.entries = [] := by
  rw [entries_nil_iff]
  intro tqueueId
  have empty : count (countedAt tqueueId) server.actors = 0 := by
    rw [count_zero_iff]
    intro id client found
    have info := inv.infos id
    rw [found, (entries_nil_iff _).1 none id] at info
    cases info
  have counts := inv.counts tqueueId
  rw [empty] at counts
  cases value : server.manager.activeClientCount.lookup tqueueId with
  | none => rfl
  | some number =>
      rw [value, Option.getD_some] at counts
      rw [counts] at value
      exact absurd value (inv.positive tqueueId)

theorem hangup_inv (server : Server) (id : Nat) (client : Client) (inv : Inv server)
    (found : server.actors.lookup id = some client) (uncounted : client.isCounted = false) :
    Meets Tolerated (fun manager => Inv { server with manager, actors := server.actors.erase id })
      (server.manager.hangupShared id) := by
  have info : server.manager.clients.lookup id = some client.info := by
    rw [inv.infos, found]
    rfl
  have before : server.manager.databaseClosings = 0 := by
    have databases := inv.databases
    rwa [if_neg] at databases
    rintro ⟨_, none⟩
    rw [(entries_nil_iff _).1 none id] at info
    cases info
  unfold Manager.hangupShared
  rw [info]
  dsimp only
  split
  · rename_i last
    rw [Bool.and_eq_true, decide_eq_true_iff] at last
    have left := left_inv server id client 1 inv found uncounted (by rw [if_pos last])
    refine meets_require Tolerated _ _ _ _ (fun some => absurd (inactive_of_left _ left last.2) some) ?_
    intro _
    refine left_inv server id client (server.manager.databaseClosings + 1) inv found uncounted ?_
    rw [before, if_pos last]
  · rename_i more
    rw [Bool.and_eq_true, decide_eq_true_iff] at more
    refine left_inv server id client server.manager.databaseClosings inv found uncounted ?_
    rw [before, if_neg more]

theorem deliver_inv (server : Server) (id : Nat) (client : Client) (inv : Inv server)
    (found : server.actors.lookup id = some client) (waiting : client.parent ≠ []) :
    Meets Tolerated Inv (deliver id server) := by
  have sound := inv.sound id client found
  cases queue : client.parent with
  | nil => exact absurd queue waiting
  | cons mail later =>
      have next := Client.next_mail client mail later sound queue
      rw [deliver, found]
      dsimp only
      rw [queue]
      cases mail with
      | hangup => exact meets_bind Tolerated _ _ _ _ (hangup_inv server id client inv found next.1) (fun _ held => held)
      | active =>
          exact meets_bind Tolerated _ _ _ _ (raw_event_inv server id true client { client with parent := later } inv found
            ⟨next.2.2, rfl, rfl, rfl⟩ next.1 next.2.1) (fun _ held => held)
      | inactive =>
          exact meets_bind Tolerated _ _ _ _ (raw_event_inv server id false client { client with parent := later } inv found
            ⟨next.2.2, rfl, rfl, rfl⟩ next.1 next.2.1) (fun _ held => held)

theorem allowed_user_id (env : Environment) (token : String) (userId : Int)
    (allowed : allowedUserId env token = some userId) : '/' ∉ token.toList ∧ 0 < userId := by
  unfold allowedUserId at allowed
  split at allowed
  · cases allowed
  · rename_i wellFormed
    split at allowed
    · cases allowed
    · split at allowed
      · cases allowed
      · rename_i inRange
        cases allowed
        simp only [Bool.or_eq_true, decide_eq_true_iff, not_or] at wellFormed inRange
        exact ⟨wellFormed.1.2, not_le.1 inRange.1.2⟩

theorem new_client_inv (server : Server) (query : Query) (tqueueId : Int) (inv : Inv server)
    (plain : '/' ∉ query.token.toList) (nonzero : tqueueId ≠ 0) (opened : server.manager.closeFlag ≠ true)
    (unknown : server.manager.tokenToId.lookup (Client.key query.token query.isTestDc) = none) :
    Inv { server with
          manager := { server.manager with
            clients := server.manager.clients.insert server.manager.nextId
              ⟨Client.key query.token query.isTestDc, tqueueId⟩
            nextId := server.manager.nextId + 1
            tokenToId := server.manager.tokenToId.insert (Client.key query.token query.isTestDc) server.manager.nextId }
          actors := server.actors.insert server.manager.nextId
            { token := query.token, isTestDc := query.isTestDc, tqueueId } } := by
  have fresh : server.actors.lookup server.manager.nextId = none := by
    by_contra taken
    obtain ⟨client, found⟩ := Option.ne_none_iff_exists'.1 taken
    exact lt_irrefl _ (inv.issued _ client found)
  have created (property : Nat → Client → Prop)
      (new : property server.manager.nextId { token := query.token, isTestDc := query.isTestDc, tqueueId })
      (old : ∀ id client, server.actors.lookup id = some client → property id client) (id : Nat) (client : Client)
      (found : (server.actors.insert server.manager.nextId
        { token := query.token, isTestDc := query.isTestDc, tqueueId }).lookup id = some client) : property id client := by
    rw [lookup_insert] at found
    split at found
    · rename_i same
      cases found
      subst same
      exact new
    · exact old id client found
  refine ⟨?_, ?_, ?_, ?_, ?_, ?_, ?_, inv.positive, inv.closed, ?_, inv.promises⟩
  · refine created (fun _ client => client.Sound) ⟨?_, fun _ => ⟨rfl, rfl⟩, [], ?_, rfl⟩ inv.sound
    · intro ended
      cases ended
    · exact List.mem_singleton_self []
  · intro id
    rw [lookup_insert, lookup_insert, inv.infos]
    split <;> rfl
  · exact created (fun id _ => id < server.manager.nextId + 1) (Nat.lt_succ_self _)
      (fun id client found => Nat.lt_succ_of_lt (inv.issued id client found))
  · intro token id
    rw [lookup_insert, lookup_insert]
    by_cases new : id = server.manager.nextId
    · subst new
      rw [if_pos rfl]
      constructor
      · split
        · rename_i same
          exact fun _ => ⟨_, rfl, same.symm⟩
        · intro mapped
          obtain ⟨client, found, _⟩ := (inv.tokens token _).1 mapped
          rw [fresh] at found
          cases found
      · rintro ⟨client, same, named⟩
        cases same
        exact if_pos named.symm
    · rw [if_neg new]
      by_cases same : token = Client.key query.token query.isTestDc
      · rw [if_pos same]
        constructor
        · intro this
          exact absurd (Option.some.inj this).symm new
        · intro known
          have mapped := (inv.tokens token id).2 known
          rw [same, unknown] at mapped
          cases mapped
      · rw [if_neg same]
        exact inv.tokens token id
  · exact created (fun _ client => '/' ∉ client.token.toList) plain inv.plain
  · exact created (fun _ client => client.tqueueId ≠ 0) nonzero inv.tqueueId
  · intro other
    rw [count_insert_new _ _ _ _ fresh]
    rw [show countedAt other { token := query.token, isTestDc := query.isTestDc, tqueueId } = false from Bool.and_false _]
    exact inv.counts other
  · have databases := inv.databases
    rw [if_neg (fun both => opened both.1)] at databases
    exact databases.trans (if_neg (fun both => opened both.1)).symm

theorem send_inv (env : Environment) (query : Query) (flooded : Bool) (server : Server) (inv : Inv server) :
    Inv (send env query flooded server) := by
  unfold send
  split
  · exact inv
  · rename_i opened
    cases allowed : allowedUserId env query.token with
    | none => exact inv
    | some userId =>
        obtain ⟨plain, positive⟩ := allowed_user_id env query.token userId allowed
        dsimp only
        cases unknown : server.manager.tokenToId.lookup (Client.key query.token query.isTestDc) with
        | some id => exact inv
        | none =>
            dsimp only
            split
            · exact inv
            · refine new_client_inv server query _ inv plain ?_ opened unknown
              unfold getTqueueId
              split <;> omega

theorem step_inv (env : Environment) (server : Server) (event : Event) (inv : Inv server) (offered : enabled server event) :
    Meets Tolerated Inv (step env server event) := by
  cases event with
  | send query flooded => exact send_inv env query flooded server inv
  | close promise =>
      have closed := close_inv server promise inv offered
      rw [step, meets_ok]
      split
      · exact closed
      · exact inv_send_closes _ closed
  | finishClose => exact finish_close_inv server inv offered.1
  | deliver id =>
      obtain ⟨_, client, found, waiting⟩ := offered
      exact deliver_inv server id client inv found waiting
  | startUp id =>
      exact update_client_inv server id _ _ inv offered (fun client sound running idle =>
        Client.keeps_start_up env client sound running idle)
  | authorizationState id state =>
      exact update_client_inv server id _ _ inv offered (fun client sound running online =>
        Client.keeps_authorization_state client state sound running online.1 online.2)
  | closeQuery id =>
      exact update_client_inv server id _ _ inv offered (fun client sound _ _ =>
        Client.keeps_flags client _ sound sound.ended sound.fresh rfl rfl rfl rfl rfl rfl rfl)
  | clientClose id =>
      exact update_client_inv server id _ _ inv offered (fun client sound _ ready =>
        Client.keeps_close client sound ready.1)
  | directoryRemoved id =>
      refine update_client_inv server id _ _ inv offered (fun client sound running removal => ?_)
      have ended := sound.ended (by simp [removal])
      have flagged : Client.Keeps client { client with directoryRemoval := false } :=
        Client.keeps_flags client _ sound (fun _ => ended) sound.fresh rfl rfl rfl rfl rfl rfl rfl
      exact Client.keeps_trans _ _ _ flagged (Client.keeps_finish_closing _ flagged.sound running ended)
  | timeoutExpired id =>
      refine update_client_inv server id _ _ inv offered (fun client sound running timeout => ?_)
      exact Client.keeps_stop client sound running (sound.ended (by simp [timeout]))

theorem initial_inv : Inv {} where
  sound _ _ found := nomatch found
  infos _ := rfl
  issued _ _ found := nomatch found
  tokens _ _ := ⟨fun mapped => (nomatch mapped), fun ⟨_, found, _⟩ => nomatch found⟩
  plain _ _ found := nomatch found
  tqueueId _ _ found := nomatch found
  counts _ := rfl
  positive _ zero := nomatch zero
  closed := ⟨fun closed => (nomatch closed), fun closes => absurd rfl closes⟩
  databases := rfl
  promises := ⟨rfl, rfl⟩

theorem reach_inv (env : Environment) (server : Server)
    (reached : Transition.Reach (machine env) Transition.unrestricted server) : Inv server := by
  refine Transition.reach_meets (machine env) _ Tolerated Inv ?_ ?_ server reached
  · rintro state rfl
    exact initial_inv
  · intro before event inv offered _
    exact step_inv env before event inv offered

def delivered (server : Server) : Prop :=
  ∀ id client, server.actors.lookup id = some client → ∀ mail ∈ client.parent, mail = .hangup

structure Managed (env : Environment) (server : Server) : Prop where
  -- clients_ and token_to_id_ are inverse to each other
  inverse : ∀ token id, server.manager.tokenToId.lookup token = some id ↔
    ∃ info, server.manager.clients.lookup id = some info ∧ info.token = token
  live : ∀ id, server.manager.clients.lookup id = (server.actors.lookup id).map Client.info
  single : ∀ first second client other, server.actors.lookup first = some client →
    server.actors.lookup second = some other → client.token = other.token → client.isTestDc = other.isTestDc →
    first = second
  found : ∀ token isTestDc id, '/' ∉ token.toList →
    (server.manager.tokenToId.lookup (Client.key token isTestDc) = some id ↔
      ∃ client, server.actors.lookup id = some client ∧ client.token = token ∧ client.isTestDc = isTestDc)
  counts : delivered server → ∀ tqueueId, (server.manager.activeClientCount.lookup tqueueId).getD 0 =
    count (fun client => decide (client.tqueueId = tqueueId) && client.isActive) server.actors
  present : ∀ tqueueId, server.manager.activeClientCount.lookup tqueueId ≠ some 0
  closings : server.manager.databaseClosings =
    if server.closes ≠ [] ∧ server.manager.clients.entries = [] then 1 else 0
  promises : server.manager.stopped = true → server.promisesSet = server.closes
  passes : ∀ event fault, enabled server event → step env server event = .error fault → fault = .closedWhileActive

theorem managed_of_inv (env : Environment) (server : Server) (inv : Inv server) : Managed env server where
  inverse token id := by
    rw [inv.tokens, inv.infos]
    simp
  live := inv.infos
  single first second client other here there token isTestDc := by
    have mapped := (inv.tokens client.info.token first).2 ⟨client, here, rfl⟩
    have same : other.info.token = client.info.token := by
      rw [Client.info, Client.info, token, isTestDc]
    rw [(inv.tokens client.info.token second).2 ⟨other, there, same⟩] at mapped
    exact (Option.some.inj mapped).symm
  found token isTestDc id plain := by
    rw [inv.tokens]
    constructor
    · rintro ⟨client, here, named⟩
      exact ⟨client, here, Client.key_inj _ _ _ _ (inv.plain id client here) plain named⟩
    · rintro ⟨client, here, rfl, rfl⟩
      exact ⟨client, here, rfl⟩
  counts quiet tqueueId := by
    rw [inv.counts]
    apply count_congr
    intro id client here
    rw [countedAt, Client.counted_of_delivered client (inv.sound id client here) (quiet id client here)]
  present := inv.positive
  closings := by
    rw [inv.databases]
    exact if_congr (and_congr inv.closed Iff.rfl) rfl rfl
  promises stopped := by
    have promises := inv.promises
    rwa [stopped, if_pos rfl] at promises
  passes event fault offered failed := meets_fails Tolerated Inv _ fault (step_inv env server event inv offered) failed

theorem clients_managed (env : Environment) (server : Server)
    (reached : Transition.Reach (machine env) Transition.unrestricted server) : Managed env server :=
  managed_of_inv env server (reach_inv env server reached)

section Example

def exampleEnvironment : Environment where
  toInt64 text := if text = "1" then some 1 else none
  tokenRange _ := true
  base64urlDecodes _ := true

instance (server : Server) (id : Nat) (condition : Client → Prop) [DecidablePred condition] :
    Decidable (Holds server id condition) :=
  match found : server.actors.lookup id with
  | none => isFalse (fun holds => by
      obtain ⟨client, there, _⟩ := holds
      cases found.symm.trans there)
  | some client =>
      if holds : client.stopped = false ∧ condition client then isTrue ⟨client, found, holds⟩
      else isFalse (fun ⟨other, there, rest⟩ => by
        cases found.symm.trans there
        exact holds rest)

instance : ∀ (server : Server) (event : Event), Decidable (enabled server event)
  | server, .send _ _ => inferInstanceAs (Decidable (server.manager.stopped = false))
  | server, .close _ => inferInstanceAs (Decidable (server.manager.stopped = false))
  | server, .finishClose =>
      inferInstanceAs (Decidable (server.manager.stopped = false ∧ 0 < server.manager.databaseClosings))
  | server, .deliver id =>
      match found : server.actors.lookup id with
      | none => isFalse (fun ⟨_, _, there, _⟩ => by cases found.symm.trans there)
      | some client =>
          if holds : server.manager.stopped = false ∧ client.parent ≠ [] then isTrue ⟨holds.1, client, found, holds.2⟩
          else isFalse (fun ⟨running, other, there, waiting⟩ => by
            cases found.symm.trans there
            exact holds ⟨running, waiting⟩)
  | server, .startUp id => inferInstanceAs (Decidable (Holds server id (fun client => client.started = false)))
  | server, .authorizationState id state => inferInstanceAs (Decidable (Holds server id (fun client =>
      client.tdClient = true ∧ ∀ knowsMe, state = .ready knowsMe → client.loggingOut = false ∧ client.closing = false)))
  | server, .closeQuery id => inferInstanceAs (Decidable (Holds server id (fun client => client.started = true)))
  | server, .clientClose id =>
      inferInstanceAs (Decidable (Holds server id (fun client => client.started = true ∧ client.closeSent = true)))
  | server, .directoryRemoved id => inferInstanceAs (Decidable (Holds server id (fun client => client.directoryRemoval = true)))
  | server, .timeoutExpired id => inferInstanceAs (Decidable (Holds server id (fun client => client.timeout = true)))

instance (env : Environment) (server : Server) (event : Event) : Decidable ((machine env).enabled server event) :=
  inferInstanceAs (Decidable (enabled server event))

def exampleEvents : List Event :=
  let query : Query := ⟨"1:aaaaaaaaaaaaaaaaaaaaaaaa", false, "getme"⟩
  [.send query false, .startUp 1, .authorizationState 1 (.ready true), .deliver 1, .close 7, .send query false,
    .clientClose 1, .authorizationState 1 .closing, .close 8, .deliver 1, .authorizationState 1 .closed, .deliver 1, .finishClose]

theorem closed_clients_managed : ∃ server, Transition.Reach (machine exampleEnvironment) Transition.unrestricted server ∧
    server.manager.stopped = true ∧ server.promisesSet = [7, 8] ∧ server.manager.databaseClosings = 1 ∧
    Managed exampleEnvironment server := by
  obtain ⟨server, reached, ends⟩ := Transition.exists_reach (machine exampleEnvironment) Transition.unrestricted
    (fun server => server.manager.stopped = true ∧ server.promisesSet = [7, 8] ∧ server.manager.databaseClosings = 1) {} rfl
    exampleEvents (by decide +kernel)
  exact ⟨server, reached, ends.1, ends.2.1, ends.2.2, clients_managed exampleEnvironment server reached⟩

end Example

end TelegramBotApi.ClientManager
