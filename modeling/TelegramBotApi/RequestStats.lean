import TelegramBotApi.Lib.OpenEntries
import TelegramBotApi.Lib.Tables
import TelegramBotApi.Lib.Transition

set_option autoImplicit false

-- The statistics actors: one for each client, and the one of the manager, to which they pass on
-- every event. Each has a mailbox of its own, and the environment decides whose turn it is.
namespace TelegramBotApi.RequestStats

open Checked Transition Tables OpenEntries

structure Query where
  container : List Nat
  files : List Nat
  isInternal : Bool := false
deriving DecidableEq

def Query.querySize (query : Query) : Nat := query.container.foldl (· + ·) 0

def Query.fileCount (query : Query) : Nat := query.files.length

def Query.filesSize (query : Query) : Nat := query.files.foldl (· + ·) 0

def Query.filesMaxSize (query : Query) : Nat := query.files.foldl max 0

namespace ServerBotStat

structure Request where
  size : Nat
  fileCount : Nat
  filesSize : Nat
  filesMaxSize : Nat
deriving DecidableEq

structure Response where
  ok : Bool
  size : Nat
  fileCount : Nat
  filesSize : Nat
deriving DecidableEq

end ServerBotStat

inductive StatEvent where
  | update
  | request (request : ServerBotStat.Request)
  | response (response : ServerBotStat.Response)
deriving DecidableEq

structure Upload where
  fileCount : Nat
  filesSize : Nat
deriving DecidableEq

def Query.upload (query : Query) : Upload := ⟨query.fileCount, query.filesSize⟩

structure BotStatActor where
  lastActivityTimestamp : Int := -1000000000
  activeRequestCount : Int := 0
  activeFileUploadBytes : Int := 0
  activeFileUploadCount : Int := 0
  -- the closures sent to the actor, each with its time
  mailbox : List (StatEvent × Int) := []
  -- history: the requests counted whose responses are not
  counted : List Upload := []

inductive Check where
  | activeRequestCount
  | activeFileUploadBytes
deriving DecidableEq

namespace BotStatActor

def onRequest (actor : BotStatActor) (request : ServerBotStat.Request) : BotStatActor :=
  { actor with
    activeRequestCount := actor.activeRequestCount + 1
    activeFileUploadCount := actor.activeFileUploadCount + request.fileCount
    activeFileUploadBytes := actor.activeFileUploadBytes + request.filesSize
    counted := ⟨request.fileCount, request.filesSize⟩ :: actor.counted }

def onResponse (actor : BotStatActor) (response : ServerBotStat.Response) : BotStatActor :=
  { actor with
    activeRequestCount := actor.activeRequestCount - 1
    activeFileUploadCount := actor.activeFileUploadCount - response.fileCount
    activeFileUploadBytes := actor.activeFileUploadBytes - response.filesSize
    counted := actor.counted.erase ⟨response.fileCount, response.filesSize⟩ }

def onEvent (actor : BotStatActor) : StatEvent → Except Check BotStatActor
  | .update => .ok actor
  | .response response => do
      let after := actor.onResponse response
      require .activeRequestCount (0 ≤ after.activeRequestCount)
      require .activeFileUploadBytes (0 ≤ after.activeFileUploadBytes)
      return after
  | .request request => .ok (actor.onRequest request)

def addEvent (actor : BotStatActor) (event : StatEvent) (now : Int) : Except Check BotStatActor :=
  { actor with lastActivityTimestamp := now }.onEvent event

def post (actor : BotStatActor) (event : StatEvent) (now : Int) : BotStatActor :=
  { actor with mailbox := actor.mailbox ++ [(event, now)] }

end BotStatActor

-- A query the client holds; internal ones have no statistics.
structure Held where
  query : Query
  statActor : Option Nat

structure Server where
  stat : BotStatActor := {}
  clients : Table Nat BotStatActor := ∅
  nextActor : Nat := 0
  held : List Held := []
  -- history: the requests that actors since destroyed had counted and not seen answered
  lost : List Upload := []

-- A closure for an actor that is gone is dropped.
def Server.sendClosure (server : Server) (target : Option Nat) (event : StatEvent) (now : Int) : Server :=
  match target with
  | none => server
  | some id =>
      match server.clients.lookup id with
      | none => server
      | some actor => { server with clients := server.clients.insert id (actor.post event now) }

def Query.sendRequestStat (query : Query) (statActor : Option Nat) (now : Int) (server : Server) : Server :=
  server.sendClosure statActor (.request ⟨query.querySize, query.fileCount, query.filesSize, query.filesMaxSize⟩) now

def Query.sendResponseStat (query : Query) (statActor : Option Nat) (ok : Bool) (answerSize : Nat) (now : Int)
    (server : Server) : Server :=
  server.sendClosure statActor (.response ⟨ok, answerSize, query.fileCount, query.filesSize⟩) now

inductive Event where
  | createClient
  | send (client : Nat) (query : Query)                   -- Client::send
  | answer (index : Nat) (ok : Bool) (answerSize : Nat)   -- set_ok, set_error, or the deleter of a dropped query
  | addUpdate (client : Nat)
  | runClientStat (client : Nat)
  | runServerStat
  | hangup (client : Nat)
deriving DecidableEq

-- Client::send until the query is in the hands of the client
def send (server : Server) (client : Nat) (query : Query) (now : Int) : Server :=
  if query.isInternal then { server with held := server.held ++ [⟨query, none⟩] }
  else query.sendRequestStat (some client) now { server with held := server.held ++ [⟨query, some client⟩] }

def runClientStat (server : Server) (id : Nat) (actor : BotStatActor) : Except Check Server :=
  match actor.mailbox with
  | [] => .ok server
  | (event, now) :: rest => do
      let after ← { actor with mailbox := rest }.addEvent event now
      return { server with clients := server.clients.insert id after, stat := server.stat.post event now }

def runServerStat (server : Server) : Except Check Server :=
  match server.stat.mailbox with
  | [] => .ok server
  | (event, now) :: rest => do
      let after ← { server.stat with mailbox := rest }.addEvent event now
      return { server with stat := after }

def hangup (server : Server) (id : Nat) (actor : BotStatActor) : Server :=
  { server with clients := server.clients.erase id, lost := actor.counted ++ server.lost }

def enabled (server : Server) : Event → Prop
  | .send client _ => client ∈ server.clients
  | .answer index _ _ => index < server.held.length
  | _ => True

def step (server : Server) (now : Int) : Event → Except Check Server
  | .createClient => .ok { server with
      clients := server.clients.insert server.nextActor {}
      nextActor := server.nextActor + 1 }
  | .send client query => .ok (send server client query now)
  | .answer index ok answerSize =>
      match server.held[index]? with
      | none => .ok server
      | some ⟨query, statActor⟩ =>
          .ok (query.sendResponseStat statActor ok answerSize now { server with held := server.held.eraseIdx index })
  | .addUpdate client => .ok (server.sendClosure (some client) .update now)
  | .runClientStat client =>
      match server.clients.lookup client with
      | none => .ok server
      | some actor => runClientStat server client actor
  | .runServerStat => runServerStat server
  | .hangup client =>
      match server.clients.lookup client with
      | none => .ok server
      | some actor => .ok (hangup server client actor)

def machine : Machine Server (Event × Int) Check where
  start server := server = {}
  enabled server event := enabled server event.1
  step server event := step server event.2 event.1

def entry : StatEvent → Entry Upload
  | .update => .other
  | .request request => .opened ⟨request.fileCount, request.filesSize⟩
  | .response response => .closed ⟨response.fileCount, response.filesSize⟩

def entries (actor : BotStatActor) : List (Entry Upload) := actor.mailbox.map (fun closure => entry closure.1)

def openRequests (held : List Held) (client : Nat) : Multiset Upload :=
  ((held.filter (fun item => item.statActor = some client)).map (fun item => item.query.upload) : List Upload)

structure Tallies (actor : BotStatActor) (requests : Multiset Upload) : Prop where
  count : actor.activeRequestCount = (requests.map (fun _ => (1 : ℤ))).sum
  uploads : actor.activeFileUploadCount = (requests.map (fun upload => (upload.fileCount : ℤ))).sum
  bytes : actor.activeFileUploadBytes = (requests.map (fun upload => (upload.filesSize : ℤ))).sum

def allCounted (clients : Table Nat BotStatActor) : Multiset Upload :=
  ((values clients).map (fun actor => (actor.counted : Multiset Upload))).sum

structure Consistent (server : Server) : Prop where
  known : ∀ client ∈ server.clients, client < server.nextActor
  issued : ∀ item ∈ server.held, ∀ client, item.statActor = some client → client < server.nextActor
  tallies : ∀ client actor, server.clients.lookup client = some actor → Tallies actor actor.counted
  leads : ∀ client actor, server.clients.lookup client = some actor →
    replay actor.counted (entries actor) = some (openRequests server.held client)
  statTallies : Tallies server.stat server.stat.counted
  statLeads : replay server.stat.counted (entries server.stat) = some (allCounted server.clients + server.lost)

section Counting

theorem count_nonneg (requests : Multiset Upload) : 0 ≤ (requests.map (fun _ => (1 : ℤ))).sum :=
  measure_nonneg _ (fun _ => by decide) requests

theorem bytes_nonneg (requests : Multiset Upload) : 0 ≤ (requests.map (fun upload => (upload.filesSize : ℤ))).sum :=
  measure_nonneg _ (fun upload => Int.natCast_nonneg upload.filesSize) requests

theorem on_event_counts (actor : BotStatActor) (event : StatEvent) (next : Multiset Upload)
    (tallies : Tallies actor actor.counted) (applied : apply actor.counted (entry event) = some next) :
    ∃ after, actor.onEvent event = .ok after ∧ (after.counted : Multiset Upload) = next ∧ Tallies after next ∧
      after.mailbox = actor.mailbox := by
  have count := measure_apply (fun _ => 1) _ next _ applied
  have uploads := measure_apply (fun upload => upload.fileCount) _ next _ applied
  have bytes := measure_apply (fun upload => upload.filesSize) _ next _ applied
  rw [← tallies.count] at count
  rw [← tallies.uploads] at uploads
  rw [← tallies.bytes] at bytes
  cases event with
  | update =>
      cases applied
      exact ⟨actor, rfl, rfl, tallies, rfl⟩
  | request request =>
      cases applied
      exact ⟨_, rfl, rfl, ⟨count.symm, uploads.symm, bytes.symm⟩, rfl⟩
  | response response =>
      obtain ⟨-, same⟩ := apply_closed _ next _ applied
      have follows : Tallies (actor.onResponse response) next := ⟨count.symm, uploads.symm, bytes.symm⟩
      have known : 0 ≤ (actor.onResponse response).activeRequestCount := follows.count ▸ count_nonneg next
      have stored : 0 ≤ (actor.onResponse response).activeFileUploadBytes := follows.bytes ▸ bytes_nonneg next
      refine ⟨actor.onResponse response, ?_, ?_, follows, rfl⟩
      · simp only [BotStatActor.onEvent]
        rw [require_true _ _ known, ok_bind, require_true _ _ stored, ok_bind]
        rfl
      · rw [same]
        exact (Multiset.coe_erase actor.counted _).symm

theorem run_counts (actor : BotStatActor) (event : StatEvent) (now : Int) (rest : List (StatEvent × Int))
    (target : Multiset Upload) (first : actor.mailbox = (event, now) :: rest) (tallies : Tallies actor actor.counted)
    (leads : replay actor.counted (entries actor) = some target) :
    ∃ after next, { actor with mailbox := rest }.addEvent event now = .ok after ∧
      apply actor.counted (entry event) = some next ∧ (after.counted : Multiset Upload) = next ∧
      Tallies after after.counted ∧ replay after.counted (entries after) = some target := by
  rw [entries, first, List.map_cons] at leads
  obtain ⟨next, applied, leads⟩ := replay_cons _ target _ _ leads
  obtain ⟨after, ran, counted, tallied, mailbox⟩ :=
    on_event_counts { actor with mailbox := rest, lastActivityTimestamp := now } event next
      ⟨tallies.count, tallies.uploads, tallies.bytes⟩ applied
  refine ⟨after, next, ran, applied, counted, counted ▸ tallied, ?_⟩
  rw [entries, mailbox, counted]
  exact leads

theorem post_leads (actor : BotStatActor) (event : StatEvent) (now : Int) (target next : Multiset Upload)
    (leads : replay actor.counted (entries actor) = some target) (applied : apply target (entry event) = some next) :
    replay (actor.post event now).counted (entries (actor.post event now)) = some next := by
  simp only [entries, BotStatActor.post, List.map_append]
  exact replay_snoc _ target next _ _ leads applied

end Counting

section AllCounted

theorem all_counted_found (clients : Table Nat BotStatActor) (client : Nat) (actor : BotStatActor)
    (found : clients.lookup client = some actor) :
    allCounted clients = actor.counted + allCounted (clients.erase client) := by
  rw [allCounted, ← values_erase clients client actor found, Multiset.map_cons, Multiset.sum_cons]
  rfl

theorem all_counted_insert (clients : Table Nat BotStatActor) (client : Nat) (actor : BotStatActor) :
    allCounted (clients.insert client actor) = actor.counted + allCounted (clients.erase client) := by
  rw [allCounted, values_insert, Multiset.map_cons, Multiset.sum_cons]
  rfl

theorem all_counted_new (clients : Table Nat BotStatActor) (client : Nat) (actor : BotStatActor)
    (absent : clients.lookup client = none) (fresh : actor.counted = []) :
    allCounted (clients.insert client actor) = allCounted clients := by
  rw [allCounted, values_insert_new clients client actor absent, Multiset.map_cons, Multiset.sum_cons, fresh]
  exact zero_add _

theorem all_counted_replace (clients : Table Nat BotStatActor) (client : Nat) (old new : BotStatActor)
    (found : clients.lookup client = some old) (same : new.counted = old.counted) :
    allCounted (clients.insert client new) = allCounted clients := by
  rw [all_counted_insert, same, ← all_counted_found clients client old found]

end AllCounted

section Steps

theorem open_requests_perm (first last : List Held) (same : first.Perm last) (client : Nat) :
    openRequests first client = openRequests last client :=
  Multiset.coe_eq_coe.2 ((same.filter _).map _)

theorem open_requests_cons (item : Held) (held : List Held) (client : Nat) :
    openRequests (item :: held) client =
      if item.statActor = some client then item.query.upload ::ₘ openRequests held client else openRequests held client := by
  by_cases reported : item.statActor = some client <;> simp [openRequests, reported]

theorem send_closure_consistent (server : Server) (held : List Held) (target : Option Nat) (event : StatEvent) (now : Int)
    (consistent : Consistent server)
    (issued : ∀ item ∈ held, ∀ client, item.statActor = some client → client < server.nextActor)
    (reported : ∀ client, target = some client →
      apply (openRequests server.held client) (entry event) = some (openRequests held client))
    (others : ∀ client, target ≠ some client → openRequests held client = openRequests server.held client) :
    Consistent ({ server with held := held }.sendClosure target event now) := by
  obtain ⟨known, -, tallies, leads, statTallies, statLeads⟩ := consistent
  cases target with
  | none =>
      refine ⟨known, issued, tallies, ?_, statTallies, statLeads⟩
      intro client actor found
      exact (leads client actor found).trans (congrArg some (others client (by simp)).symm)
  | some id =>
      cases found : server.clients.lookup id with
      | none =>
          simp only [Server.sendClosure, found]
          refine ⟨known, issued, tallies, ?_, statTallies, statLeads⟩
          intro client actor present
          rw [leads client actor present, others client]
          rintro ⟨⟩
          rw [found] at present
          cases present
      | some actor =>
          simp only [Server.sendClosure, found]
          refine ⟨?_, issued, ?_, ?_, statTallies, ?_⟩
          · intro client member
            rcases (AList.mem_insert _).1 member with rfl | member
            · exact known client (mem_of_lookup _ client actor found)
            · exact known client member
          · intro client other present
            rw [lookup_insert] at present
            split at present
            next same =>
              cases present
              have counted := tallies id actor found
              exact ⟨counted.count, counted.uploads, counted.bytes⟩
            next => exact tallies client other present
          · intro client other present
            rw [lookup_insert] at present
            split at present
            next same =>
              cases present
              subst same
              exact post_leads actor event now _ _ (leads _ actor found) (reported _ rfl)
            next different =>
              rw [leads client other present, others client (fun same => different (Option.some.inj same).symm)]
          · rw [all_counted_replace server.clients id actor (actor.post event now) found rfl]
            exact statLeads

theorem send_consistent (server : Server) (client : Nat) (query : Query) (now : Int) (consistent : Consistent server)
    (present : client ∈ server.clients) : Consistent (send server client query now) := by
  have issued (statActor : Option Nat) (target : ∀ id, statActor = some id → id < server.nextActor) :
      ∀ item ∈ server.held ++ [⟨query, statActor⟩], ∀ id, item.statActor = some id → id < server.nextActor := by
    intro item member
    rcases List.mem_append.1 member with old | new
    · exact consistent.issued item old
    · cases List.mem_singleton.1 new
      exact target
  have added (statActor : Option Nat) (id : Nat) : openRequests (server.held ++ [⟨query, statActor⟩]) id =
      if statActor = some id then query.upload ::ₘ openRequests server.held id else openRequests server.held id := by
    rw [open_requests_perm _ _ (List.perm_append_singleton ⟨query, statActor⟩ server.held), open_requests_cons]
  unfold send
  split
  · change Consistent ({ server with held := server.held ++ [Held.mk query none] }.sendClosure none .update now)
    apply send_closure_consistent server _ none .update now consistent
    · exact issued none (by simp)
    · simp
    · intro id _
      rw [added, if_neg (by simp)]
  · apply send_closure_consistent server _ (some client) _ now consistent
    · exact issued (some client) (by
        rintro id ⟨⟩
        exact consistent.known client present)
    · rintro id ⟨⟩
      rw [added, if_pos rfl]
      rfl
    · intro id different
      rw [added, if_neg different]

theorem answer_consistent (server : Server) (index : Nat) (query : Query) (statActor : Option Nat) (ok : Bool) (answerSize : Nat)
    (now : Int) (consistent : Consistent server) (held : server.held[index]? = some ⟨query, statActor⟩) :
    Consistent (query.sendResponseStat statActor ok answerSize now { server with held := server.held.eraseIdx index }) := by
  obtain ⟨bound, same⟩ := List.getElem?_eq_some_iff.1 held
  have taken (id : Nat) : openRequests server.held id =
      if statActor = some id then query.upload ::ₘ openRequests (server.held.eraseIdx index) id
      else openRequests (server.held.eraseIdx index) id := by
    rw [← open_requests_perm _ _ (List.getElem_cons_eraseIdx_perm bound), open_requests_cons, same]
  apply send_closure_consistent server _ statActor _ now consistent
  · intro item member
    exact consistent.issued item (List.mem_of_mem_eraseIdx member)
  · rintro id ⟨⟩
    rw [taken, if_pos rfl]
    exact apply_closed_cons _ query.upload
  · intro id different
    rw [taken, if_neg different]

theorem create_client_consistent (server : Server) (consistent : Consistent server) :
    Consistent { server with clients := server.clients.insert server.nextActor {}, nextActor := server.nextActor + 1 } := by
  obtain ⟨known, issued, tallies, leads, statTallies, statLeads⟩ := consistent
  have absent : server.clients.lookup server.nextActor = none := by
    apply AList.lookup_eq_none.2
    intro member
    exact lt_irrefl _ (known _ member)
  refine ⟨?_, ?_, ?_, ?_, statTallies, ?_⟩
  · intro client member
    rcases (AList.mem_insert _).1 member with rfl | member
    · exact Nat.lt_succ_self _
    · exact Nat.lt_succ_of_lt (known client member)
  · intro item member client reports
    exact Nat.lt_succ_of_lt (issued item member client reports)
  · intro client actor present
    rw [lookup_insert] at present
    split at present
    next =>
      cases present
      exact ⟨rfl, rfl, rfl⟩
    next => exact tallies client actor present
  · intro client actor present
    rw [lookup_insert] at present
    split at present
    next same =>
      cases present
      -- no query held can name an actor that is only created now
      have none : server.held.filter (fun item => item.statActor = some client) = [] := by
        rw [List.filter_eq_nil_iff]
        intro item member reports
        exact lt_irrefl _ (same ▸ issued item member client (of_decide_eq_true reports))
      simp only [openRequests, none]
      rfl
    next => exact leads client actor present
  · rw [all_counted_new server.clients server.nextActor {} absent rfl]
    exact statLeads

theorem run_client_stat_consistent (server : Server) (id : Nat) (actor : BotStatActor) (consistent : Consistent server)
    (found : server.clients.lookup id = some actor) : Passes Consistent (runClientStat server id actor) := by
  obtain ⟨known, issued, tallies, leads, statTallies, statLeads⟩ := consistent
  unfold runClientStat
  split
  next => exact ⟨known, issued, tallies, leads, statTallies, statLeads⟩
  next event now rest first =>
    obtain ⟨after, next, ran, applied, counted, tallied, led⟩ :=
      run_counts actor event now rest _ first (tallies id actor found) (leads id actor found)
    rw [ran]
    refine ⟨?_, issued, ?_, ?_, ?_, ?_⟩
    · intro client member
      rcases (AList.mem_insert _).1 member with rfl | member
      · exact known client (mem_of_lookup _ client actor found)
      · exact known client member
    · intro client other present
      rw [lookup_insert] at present
      split at present
      next =>
        cases present
        exact tallied
      next => exact tallies client other present
    · intro client other present
      rw [lookup_insert] at present
      split at present
      next same =>
        cases present
        subst same
        exact led
      next => exact leads client other present
    · exact ⟨statTallies.count, statTallies.uploads, statTallies.bytes⟩
    · apply post_leads server.stat event now _ _ statLeads
      rw [all_counted_found server.clients id actor found, all_counted_insert, counted, add_assoc, add_assoc]
      exact apply_add _ next _ _ applied

theorem run_server_stat_consistent (server : Server) (consistent : Consistent server) :
    Passes Consistent (runServerStat server) := by
  obtain ⟨known, issued, tallies, leads, statTallies, statLeads⟩ := consistent
  unfold runServerStat
  split
  next => exact ⟨known, issued, tallies, leads, statTallies, statLeads⟩
  next event now rest first =>
    obtain ⟨after, -, ran, -, -, tallied, led⟩ := run_counts server.stat event now rest _ first statTallies statLeads
    rw [ran]
    exact ⟨known, issued, tallies, leads, tallied, led⟩

theorem hangup_consistent (server : Server) (id : Nat) (actor : BotStatActor) (consistent : Consistent server)
    (found : server.clients.lookup id = some actor) : Consistent (hangup server id actor) := by
  obtain ⟨known, issued, tallies, leads, statTallies, statLeads⟩ := consistent
  refine ⟨?_, issued, ?_, ?_, statTallies, ?_⟩
  · intro client member
    exact known client (AList.mem_erase.1 member).2
  · intro client other present
    rw [hangup, lookup_erase] at present
    split at present
    next => cases present
    next => exact tallies client other present
  · intro client other present
    rw [hangup, lookup_erase] at present
    split at present
    next => cases present
    next => exact leads client other present
  · -- what the actor had counted and not seen answered stays counted by the server
    rw [all_counted_found server.clients id actor found] at statLeads
    simp only [hangup, ← Multiset.coe_add]
    rw [statLeads, add_left_comm, add_assoc]

theorem step_consistent (server : Server) (event : Event × Int) (consistent : Consistent server)
    (offered : machine.enabled server event) : Passes Consistent (machine.step server event) := by
  obtain ⟨event, now⟩ := event
  cases event with
  | createClient => exact create_client_consistent server consistent
  | send client query => exact send_consistent server client query now consistent offered
  | answer index ok answerSize =>
      simp only [machine, step]
      split
      next => exact consistent
      next query statActor held => exact answer_consistent server index query statActor ok answerSize now consistent held
  | addUpdate client =>
      exact send_closure_consistent server server.held (some client) .update now consistent consistent.issued
        (fun _ _ => rfl) (fun _ _ => rfl)
  | runClientStat client =>
      simp only [machine, step]
      split
      next => exact consistent
      next actor found => exact run_client_stat_consistent server client actor consistent found
  | runServerStat => exact run_server_stat_consistent server consistent
  | hangup client =>
      simp only [machine, step]
      split
      next => exact consistent
      next actor found => exact hangup_consistent server client actor consistent found

theorem start_consistent : Consistent {} := by
  refine ⟨?_, ?_, ?_, ?_, ⟨rfl, rfl, rfl⟩, rfl⟩ <;> simp

end Steps

theorem reach_consistent (server : Server) (reached : Reach machine unrestricted server) : Consistent server := by
  apply reach_meets machine unrestricted (fun _ => False) Consistent _ _ server reached
  · rintro server rfl
    exact start_consistent
  · intro before event consistent offered _
    exact step_consistent before event consistent offered

theorem all_counted_open (server : Server) (consistent : Consistent server)
    (drained : ∀ client actor, server.clients.lookup client = some actor → actor.mailbox = []) :
    allCounted server.clients = (server.clients.keys.map (openRequests server.held)).sum := by
  rw [allCounted, values, Multiset.map_coe, Multiset.sum_coe, AList.keys, List.keys, List.map_map, List.map_map]
  congr 1
  apply List.map_congr_left
  rintro ⟨client, actor⟩ member
  have found := AList.mem_lookup_iff.2 member
  have leads := consistent.leads client actor found
  rw [entries, drained client actor found] at leads
  exact Option.some.inj leads

section Example

instance (server : Server) (event : Event × Int) : Decidable (machine.enabled server event) :=
  match event with
  | (.send client _, _) => inferInstanceAs (Decidable (client ∈ server.clients))
  | (.answer index _ _, _) => inferInstanceAs (Decidable (index < server.held.length))
  | (.createClient, _) | (.addUpdate _, _) | (.runClientStat _, _) | (.runServerStat, _) | (.hangup _, _) => isTrue trivial

-- Two clients; the second one is gone before its upload is answered.
def exampleEvents : List Event :=
  [.createClient, .createClient, .send 0 ⟨[100], [], false⟩, .send 1 ⟨[200], [5000, 7], false⟩, .send 0 ⟨[], [], true⟩,
    .send 0 ⟨[50], [9], false⟩, .runClientStat 1, .runClientStat 0, .answer 0 true 30, .runClientStat 0, .runClientStat 0,
    .hangup 1, .answer 0 false 12, .runServerStat, .runServerStat, .runServerStat, .runServerStat]

end Example

end TelegramBotApi.RequestStats
