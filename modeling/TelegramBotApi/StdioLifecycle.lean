import TelegramBotApi.EncryptedStdio

set_option autoImplicit false

namespace TelegramBotApi.StdioLifecycle

open Checked E2ee

-- What the transport does to the world outside. started and closed stand where the two flags are set.
inductive Observation where
  | started
  | startRejected (error : String)
  | sealed (nonce : Bytes) (message : JSONRPCMessage)
  | written (text : String)
  | sendRejected (error : String)
  | closed
  | onclose
  | onerror (message : String)
  | onmessage (message : JsonValue)

namespace Observation

def isStarted : Observation → Bool
  | started => true
  | _ => false

def isClosed : Observation → Bool
  | closed => true
  | _ => false

def isOnclose : Observation → Bool
  | onclose => true
  | _ => false

def isOnmessage : Observation → Bool
  | onmessage _ => true
  | _ => false

def isSend : Observation → Bool
  | sealed _ _ => true
  | written _ => true
  | _ => false

end Observation

-- Code outside the transport that runs now, and what the transport does when it returns.
inductive Frame where
  | closing      -- readline.close() of close, then onclose
  | delivering   -- onmessage in the try block of handleLine
  | notifying    -- onclose and onerror, nothing else
deriving DecidableEq

-- The calls that have not returned yet, the last one first. A handler that is not set is one that does nothing.
structure Host where
  transport : EncryptedStdioTransport
  stack : List Frame := []
  log : List Observation := []

-- Everything may happen while a handler runs: it can call the transport, and the streams can
-- emit. A handler that returns may throw.
inductive HostEvent where
  | start
  | send (nonce : Bytes) (message : JSONRPCMessage)
  | close
  | line (text : String)
  | readlineClose
  | resume (thrown : Option String)

namespace Host

variable (nacl : NaclBox) (js : JavaScriptJson)

def emit (host : Host) (observations : List Observation) : Host := { host with log := host.log ++ observations }

def call (host : Host) (frame : Frame) (observation : Observation) : Host :=
  { host with stack := frame :: host.stack, log := host.log ++ [observation] }

def start (host : Host) : Host :=
  match host.transport.start with
  | .ok started => { host with transport := started }.emit [.started]
  | .error error => host.emit [.startRejected error]

-- The two flags are read before the message is sealed.
def sealing (host : Host) (nonce : Bytes) (message : JSONRPCMessage) : List Observation :=
  if host.transport.isOpen then [.sealed nonce message] else []

def send (host : Host) (nonce : Bytes) (message : JSONRPCMessage) : Host :=
  match host.transport.send nacl js nonce message with
  | .ok text => host.emit (host.sealing nonce message ++ [.written text])
  | .error error => host.emit (host.sealing nonce message ++ [.sendRejected error])

def setClosed (host : Host) : Host := { host with transport := host.transport.close }.emit [.closed]

-- There is an interface to close once start has run.
def close (host : Host) : Host :=
  if host.transport.closed then host
  else if host.transport.started then { host.setClosed with stack := .closing :: host.stack }
  else host.setClosed.call .notifying .onclose

def readlineClose (host : Host) : Host :=
  if host.transport.closed then host else host.setClosed.call .notifying .onclose

def handled (host : Host) : Handled → Host
  | .ignored => host
  | .onerror message => host.call .notifying (.onerror message)
  | .onmessage message => host.call .delivering (.onmessage message)

def line (host : Host) (text : String) : Host :=
  { host with transport := (host.transport.handleLine nacl js text).2 }.handled (host.transport.handleLine nacl js text).1

def resume (host : Host) (thrown : Option String) : Host :=
  match host.stack, thrown with
  | [], _ => host
  | .closing :: rest, _ => { host with stack := rest }.call .notifying .onclose
  | .delivering :: rest, some error => { host with stack := rest }.call .notifying (.onerror error)
  | _ :: rest, _ => { host with stack := rest }

def next (host : Host) : HostEvent → Host
  | .start => host.start
  | .send nonce message => host.send nacl js nonce message
  | .close => host.close
  | .line text => host.line nacl js text
  | .readlineClose => host.readlineClose
  | .resume thrown => host.resume thrown

end Host

-- The interface emits nothing before start makes it, and only what was called returns.
def hostEnabled (host : Host) : HostEvent → Prop
  | .line _ => host.transport.started = true
  | .readlineClose => host.transport.started = true
  | .resume _ => host.stack ≠ []
  | _ => True

def hostStart (host : Host) : Prop :=
  ∃ session maxFrameBytes transport, EncryptedStdioTransport.create session maxFrameBytes = .ok transport ∧ host = { transport }

def hostMachine (nacl : NaclBox) (js : JavaScriptJson) : Transition.Machine Host HostEvent Empty where
  start := hostStart
  enabled := hostEnabled
  step host event := .ok (host.next nacl js event)

def authentic (nacl : NaclBox) (js : JavaScriptJson) (transport : EncryptedStdioTransport) (text : String) : Bool :=
  if trim text = "" then false
  else
    match transport.readLine js text with
    | .error _ => false
    | .ok envelope =>
        match transport.session.authenticate nacl envelope with
        | .error _ => false
        | .ok plaintext => (js.buffer.parse plaintext).isSome

def onTime (nacl : NaclBox) (js : JavaScriptJson) : Transition.Condition Host HostEvent
  | host, .line text => host.transport.closed = true → authentic nacl js host.transport text = false
  | _, _ => True

structure Follow (earlier later : Observation) : Prop where
  closedOnce : earlier.isClosed = true → later.isClosed = false
  noStart : earlier.isClosed = true → later.isStarted = false
  noSend : earlier.isClosed = true → later.isSend = false
  startedOnce : earlier.isStarted = true → later.isStarted = false
  sentAfterStart : earlier.isSend = true → later.isStarted = false
  calledAfterClosing : earlier.isOnclose = true → later.isClosed = false
  calledOnce : earlier.isOnclose = true → later.isOnclose = false

structure Guaranteed (nacl : NaclBox) (js : JavaScriptJson) (host : Host) : Prop where
  called : host.log.countP Observation.isOnclose + host.stack.count .closing = if host.transport.closed then 1 else 0
  calledAtRest : host.stack = [] → host.log.countP Observation.isOnclose = if host.transport.closed then 1 else 0
  closed : host.log.countP Observation.isClosed = if host.transport.closed then 1 else 0
  started : host.log.countP Observation.isStarted = if host.transport.started then 1 else 0
  sends : ∀ observation ∈ host.log, observation.isSend = true → host.transport.started = true
  ordered : host.log.Pairwise Follow
  startRefused : host.transport.started = true ∨ host.transport.closed = true →
    ∃ error, host.start = host.emit [.startRejected error]
  sendRefused : ∀ nonce message, host.transport.started = false ∨ host.transport.closed = true →
    host.send nacl js nonce message = host.emit [.sendRejected "EncryptedStdioTransport is not open"]

def Silent (log : List Observation) : Prop :=
  log.Pairwise (fun earlier later => earlier.isClosed = true → later.isOnmessage = false)

structure Account (isStarted isClosed : Bool) (pending : Nat) (log : List Observation) : Prop where
  called : log.countP Observation.isOnclose + pending = if isClosed then 1 else 0
  closed : log.countP Observation.isClosed = if isClosed then 1 else 0
  started : log.countP Observation.isStarted = if isStarted then 1 else 0
  sends : ∀ observation ∈ log, observation.isSend = true → isStarted = true
  ordered : log.Pairwise Follow

theorem not_in_log (property : Observation → Bool) (log : List Observation) (none : log.countP property = 0)
    (observation : Observation) (member : observation ∈ log) : property observation = false := by
  simpa using List.countP_eq_zero.1 none observation member

theorem pairwise_append_one {Item : Type} (relation : Item → Item → Prop) (items : List Item) (item : Item)
    (ordered : items.Pairwise relation) (last : ∀ earlier ∈ items, relation earlier item) :
    (items ++ [item]).Pairwise relation := by
  simpa [List.pairwise_append, ordered] using last

section Account

variable (started closed : Bool) (pending : Nat) (log : List Observation)

theorem account_quiet (account : Account started closed pending log) (observation : Observation)
    (noClosed : observation.isClosed = false) (noStarted : observation.isStarted = false)
    (noOnclose : observation.isOnclose = false) (noSend : observation.isSend = false) :
    Account started closed pending (log ++ [observation]) where
  called := by simpa [List.countP_append, noOnclose] using account.called
  closed := by simpa [List.countP_append, noClosed] using account.closed
  started := by simpa [List.countP_append, noStarted] using account.started
  sends := by
    intro sent member send
    rcases List.mem_append.1 member with old | new
    · exact account.sends sent old send
    · simp [List.mem_singleton.1 new, noSend] at send
  ordered := by
    apply pairwise_append_one Follow log observation account.ordered
    intro earlier _
    constructor <;> simp [noClosed, noStarted, noOnclose, noSend]

theorem account_start (account : Account false false pending log) : Account true false pending (log ++ [.started]) where
  called := by simpa [List.countP_append, Observation.isOnclose] using account.called
  closed := by simpa [List.countP_append, Observation.isClosed] using account.closed
  started := by simpa [List.countP_append, Observation.isStarted] using account.started
  sends := by simp
  ordered := by
    apply pairwise_append_one Follow log .started account.ordered
    intro earlier member
    have notClosed := not_in_log Observation.isClosed log account.closed earlier member
    have notStarted := not_in_log Observation.isStarted log account.started earlier member
    have notSend : earlier.isSend = false := by
      by_contra send
      exact Bool.noConfusion (account.sends earlier member (by simpa using send))
    constructor <;> intro kind <;> first | rfl | simp [notClosed, notStarted, notSend] at kind

theorem account_send (account : Account true false pending log) (observation : Observation) (send : observation.isSend = true) :
    Account true false pending (log ++ [observation]) := by
  have kinds : observation.isClosed = false ∧ observation.isStarted = false ∧ observation.isOnclose = false := by
    cases observation <;> simp_all [Observation.isSend, Observation.isClosed, Observation.isStarted, Observation.isOnclose]
  obtain ⟨noClosed, noStarted, noOnclose⟩ := kinds
  constructor
  · simpa [List.countP_append, noOnclose] using account.called
  · simpa [List.countP_append, noClosed] using account.closed
  · simpa [List.countP_append, noStarted] using account.started
  · simp
  · apply pairwise_append_one Follow log observation account.ordered
    intro earlier member
    have notClosed := not_in_log Observation.isClosed log account.closed earlier member
    constructor <;> simp [notClosed, noClosed, noStarted, noOnclose]

theorem account_close (account : Account started false 0 log) : Account started true 1 (log ++ [.closed]) where
  called := by simpa [List.countP_append, Observation.isOnclose] using account.called
  closed := by simpa [List.countP_append, Observation.isClosed] using account.closed
  started := by simpa [List.countP_append, Observation.isStarted] using account.started
  sends := by
    intro sent member send
    rcases List.mem_append.1 member with old | new
    · exact account.sends sent old send
    · simp [List.mem_singleton.1 new, Observation.isSend] at send
  ordered := by
    apply pairwise_append_one Follow log .closed account.ordered
    intro earlier member
    have notClosed := not_in_log Observation.isClosed log account.closed earlier member
    have notCalled := not_in_log Observation.isOnclose log account.called earlier member
    constructor <;> intro kind <;> first | rfl | simp [notClosed, notCalled] at kind

theorem account_call (account : Account started true (pending + 1) log) : Account started true pending (log ++ [.onclose]) := by
  have called := account.called
  rw [if_pos rfl] at called
  have none : log.countP Observation.isOnclose = 0 := by omega
  constructor
  · simp [List.countP_append, Observation.isOnclose, none]
    omega
  · simpa [List.countP_append, Observation.isClosed] using account.closed
  · simpa [List.countP_append, Observation.isStarted] using account.started
  · intro sent member send
    rcases List.mem_append.1 member with old | new
    · exact account.sends sent old send
    · simp [List.mem_singleton.1 new, Observation.isSend] at send
  · apply pairwise_append_one Follow log .onclose account.ordered
    intro earlier member
    have notCalled := not_in_log Observation.isOnclose log none earlier member
    constructor <;> intro kind <;> first | rfl | simp [notCalled] at kind

end Account

def Accounted (host : Host) : Prop :=
  Account host.transport.started host.transport.closed (host.stack.count .closing) host.log

section Host

variable (nacl : NaclBox) (js : JavaScriptJson)

theorem start_ok (transport : EncryptedStdioTransport) :
    transport.start = (if transport.started then .error "EncryptedStdioTransport already started"
      else if transport.closed then .error "EncryptedStdioTransport is closed" else .ok { transport with started := true }) := by
  obtain ⟨session, maxFrameBytes, started, closed⟩ := transport
  cases started <;> cases closed <;> rfl

theorem send_closed (transport : EncryptedStdioTransport) (nonce : Bytes) (message : JSONRPCMessage)
    (notOpen : transport.isOpen = false) :
    transport.send nacl js nonce message = .error "EncryptedStdioTransport is not open" := by
  simp only [EncryptedStdioTransport.send, notOpen]
  rfl

theorem handle_line_flags (transport : EncryptedStdioTransport) (text : String) :
    (transport.handleLine nacl js text).2.started = transport.started ∧
      (transport.handleLine nacl js text).2.closed = transport.closed := ⟨rfl, rfl⟩

theorem handle_line_message (transport : EncryptedStdioTransport) (text : String) :
    (∃ message, (transport.handleLine nacl js text).1 = .onmessage message) ↔ authentic nacl js transport text = true := by
  unfold authentic EncryptedStdioTransport.readLine EncryptedStdioTransport.handleLine E2ee.handleLine
  by_cases empty : trim text = ""
  · simp [empty]
  · cases read : E2ee.readLine js transport.maxFrameBytes text with
    | error error => simp [empty]
    | ok envelope =>
        cases opened : transport.session.authenticate nacl envelope with
        | error error => simp [empty, E2eeSession.open, opened]
        | ok plaintext =>
            cases parsed : js.buffer.parse plaintext with
            | none => simp [empty, E2eeSession.open, opened, parsed]
            | some message => simp [empty, E2eeSession.open, opened, parsed]

theorem call_accounted (host : Host) (frame : Frame) (observation : Observation) (accounted : Accounted host)
    (later : frame ≠ .closing) (noClosed : observation.isClosed = false) (noStarted : observation.isStarted = false)
    (noOnclose : observation.isOnclose = false) (noSend : observation.isSend = false) :
    Accounted (host.call frame observation) := by
  have same : (frame :: host.stack).count .closing = host.stack.count .closing := List.count_cons_of_ne later
  unfold Accounted
  simp only [Host.call, same]
  exact account_quiet _ _ _ _ accounted observation noClosed noStarted noOnclose noSend

theorem start_accounted (host : Host) (accounted : Accounted host) : Accounted host.start := by
  unfold Accounted at accounted
  cases started : host.transport.started with
  | true =>
      simp only [Host.start, start_ok, started, if_true]
      exact account_quiet _ _ _ _ accounted _ rfl rfl rfl rfl
  | false =>
      cases closed : host.transport.closed with
      | true =>
          simp only [Host.start, start_ok, started, closed, Bool.false_eq_true, if_false, if_true]
          exact account_quiet _ _ _ _ accounted _ rfl rfl rfl rfl
      | false =>
          rw [started, closed] at accounted
          simp only [Host.start, start_ok, started, closed, Bool.false_eq_true, if_false]
          exact account_start _ _ accounted

theorem send_accounted (host : Host) (nonce : Bytes) (message : JSONRPCMessage) (accounted : Accounted host) :
    Accounted (host.send nacl js nonce message) := by
  unfold Accounted at accounted
  cases isOpen : host.transport.isOpen with
  | false =>
      simp only [Host.send, send_closed nacl js host.transport nonce message isOpen, Host.sealing, isOpen,
        Bool.false_eq_true, if_false, List.nil_append]
      exact account_quiet _ _ _ _ accounted _ rfl rfl rfl rfl
  | true =>
      obtain ⟨started, closed⟩ : host.transport.started = true ∧ host.transport.closed = false := by
        simpa [EncryptedStdioTransport.isOpen] using isOpen
      rw [started, closed] at accounted
      have sealedOnce := account_send _ _ accounted (.sealed nonce message) rfl
      have result : Account true false (host.stack.count .closing) (host.send nacl js nonce message).log := by
        unfold Host.send
        cases host.transport.send nacl js nonce message with
        | ok text => simpa [Host.emit, Host.sealing, isOpen] using account_send _ _ sealedOnce (.written text) rfl
        | error error =>
            simpa [Host.emit, Host.sealing, isOpen] using account_quiet _ _ _ _ sealedOnce (.sendRejected error) rfl rfl rfl rfl
      have flags : (host.send nacl js nonce message).transport = host.transport ∧
          (host.send nacl js nonce message).stack = host.stack := by
        unfold Host.send
        cases host.transport.send nacl js nonce message <;> exact ⟨rfl, rfl⟩
      unfold Accounted
      rwa [flags.1, flags.2, started, closed]

theorem nothing_due (host : Host) (accounted : Accounted host) (notClosed : host.transport.closed = false) :
    host.stack.count .closing = 0 := by
  have called := accounted.called
  rw [notClosed] at called
  simp at called
  omega

theorem closed_account (host : Host) (accounted : Accounted host) (notClosed : host.transport.closed = false) :
    Account host.transport.started true 1 (host.log ++ [.closed]) := by
  have due := nothing_due host accounted notClosed
  unfold Accounted at accounted
  rw [due, notClosed] at accounted
  exact account_close _ _ accounted

theorem call_onclose_accounted (host : Host) (accounted : Accounted host) (notClosed : host.transport.closed = false) :
    Accounted (host.setClosed.call .notifying .onclose) := by
  have due := nothing_due host accounted notClosed
  have result := account_call _ _ _ (closed_account host accounted notClosed)
  unfold Accounted
  simp only [Host.call, Host.setClosed, Host.emit, EncryptedStdioTransport.close, List.count_cons_of_ne (a := Frame.closing)
    (b := Frame.notifying) (by decide), due]
  exact result

theorem close_accounted (host : Host) (accounted : Accounted host) : Accounted host.close := by
  unfold Host.close
  by_cases closed : host.transport.closed = true
  · rwa [if_pos closed]
  · rw [if_neg closed]
    have notClosed : host.transport.closed = false := by simpa using closed
    by_cases started : host.transport.started = true
    · rw [if_pos started]
      have due := nothing_due host accounted notClosed
      unfold Accounted
      simp only [Host.setClosed, Host.emit, EncryptedStdioTransport.close, List.count_cons_self, due]
      exact closed_account host accounted notClosed
    · rw [if_neg started]
      exact call_onclose_accounted host accounted notClosed

theorem readline_close_accounted (host : Host) (accounted : Accounted host) : Accounted host.readlineClose := by
  unfold Host.readlineClose
  by_cases closed : host.transport.closed = true
  · rwa [if_pos closed]
  · rw [if_neg closed]
    exact call_onclose_accounted host accounted (by simpa using closed)

theorem line_accounted (host : Host) (text : String) (accounted : Accounted host) : Accounted (host.line nacl js text) := by
  obtain ⟨started, closed⟩ := handle_line_flags nacl js host.transport text
  have read : Accounted { host with transport := (host.transport.handleLine nacl js text).2 } := by
    unfold Accounted
    simp only [started, closed]
    exact accounted
  unfold Host.line
  cases (host.transport.handleLine nacl js text).1 with
  | ignored => exact read
  | onerror message => exact call_accounted _ .notifying _ read (by decide) rfl rfl rfl rfl
  | onmessage message => exact call_accounted _ .delivering _ read (by decide) rfl rfl rfl rfl

theorem resume_accounted (host : Host) (thrown : Option String) (accounted : Accounted host) :
    Accounted (host.resume thrown) := by
  obtain ⟨transport, stack, log⟩ := host
  cases stack with
  | nil => exact accounted
  | cons frame rest =>
      cases frame with
      | closing =>
          have due := accounted.called
          have closed : transport.closed = true := by
            by_contra notClosed
            simp [notClosed] at due
          unfold Accounted at accounted
          simp only [closed, List.count_cons_self] at accounted
          unfold Accounted
          simp only [Host.resume, Host.call, closed, List.count_cons_of_ne (show Frame.notifying ≠ Frame.closing by decide)]
          exact account_call _ _ _ accounted
      | delivering =>
          have returned : Accounted ⟨transport, rest, log⟩ := by
            unfold Accounted at accounted
            rwa [List.count_cons_of_ne (by decide)] at accounted
          cases thrown with
          | none => exact returned
          | some error => exact call_accounted _ .notifying _ returned (by decide) rfl rfl rfl rfl
      | notifying =>
          unfold Accounted at accounted
          rwa [List.count_cons_of_ne (by decide)] at accounted

theorem next_accounted (host : Host) (event : HostEvent) (accounted : Accounted host) : Accounted (host.next nacl js event) := by
  cases event with
  | start => exact start_accounted host accounted
  | send nonce message => exact send_accounted nacl js host nonce message accounted
  | close => exact close_accounted host accounted
  | line text => exact line_accounted nacl js host text accounted
  | readlineClose => exact readline_close_accounted host accounted
  | resume thrown => exact resume_accounted host thrown accounted

theorem accounted_guaranteed (host : Host) (accounted : Accounted host) : Guaranteed nacl js host where
  called := accounted.called
  calledAtRest := by
    intro rest
    simpa [rest] using accounted.called
  closed := accounted.closed
  started := accounted.started
  sends := accounted.sends
  ordered := accounted.ordered
  startRefused := by
    rintro (started | closed)
    · exact ⟨_, by simp only [Host.start, start_ok, started, if_true]; rfl⟩
    · by_cases started : host.transport.started = true
      · exact ⟨_, by simp only [Host.start, start_ok, started, if_true]; rfl⟩
      · exact ⟨_, by simp only [Host.start, start_ok, started, closed, Bool.false_eq_true, if_false, if_true]; rfl⟩
  sendRefused := by
    intro nonce message refused
    have notOpen : host.transport.isOpen = false := by
      simpa [EncryptedStdioTransport.isOpen, imp_iff_not_or] using refused
    simp only [Host.send, send_closed nacl js host.transport nonce message notOpen, Host.sealing, notOpen,
      Bool.false_eq_true, if_false, List.nil_append]

theorem line_message (host : Host) (text : String) (accepted : authentic nacl js host.transport text = true) :
    ∃ message, (host.line nacl js text).log = host.log ++ [.onmessage message] := by
  obtain ⟨message, handled⟩ := (handle_line_message nacl js host.transport text).2 accepted
  exact ⟨message, by rw [Host.line, handled]; rfl⟩

theorem quiet_log (host : Host) (event : HostEvent)
    (quiet : ∀ text, event = .line text → authentic nacl js host.transport text = false) :
    ∃ added, (host.next nacl js event).log = host.log ++ added ∧ ∀ observation ∈ added, observation.isOnmessage = false := by
  cases event with
  | start =>
      simp only [Host.next, Host.start]
      cases host.transport.start with
      | ok started => exact ⟨[.started], rfl, by simp [Observation.isOnmessage]⟩
      | error error => exact ⟨[.startRejected error], rfl, by simp [Observation.isOnmessage]⟩
  | send nonce message =>
      have sealing : ∀ observation ∈ host.sealing nonce message, observation.isOnmessage = false := by
        unfold Host.sealing
        split <;> simp [Observation.isOnmessage]
      simp only [Host.next, Host.send]
      cases host.transport.send nacl js nonce message with
      | ok text =>
          refine ⟨_, rfl, fun observation member => ?_⟩
          rcases List.mem_append.1 member with before | last
          · exact sealing observation before
          · rw [List.mem_singleton.1 last]
            rfl
      | error error =>
          refine ⟨_, rfl, fun observation member => ?_⟩
          rcases List.mem_append.1 member with before | last
          · exact sealing observation before
          · rw [List.mem_singleton.1 last]
            rfl
  | close =>
      simp only [Host.next, Host.close]
      split_ifs
      · exact ⟨[], by simp, by simp⟩
      · exact ⟨[.closed], rfl, by simp [Observation.isOnmessage]⟩
      · exact ⟨[.closed, .onclose], by simp [Host.call, Host.setClosed, Host.emit], by simp [Observation.isOnmessage]⟩
  | readlineClose =>
      simp only [Host.next, Host.readlineClose]
      split_ifs
      · exact ⟨[], by simp, by simp⟩
      · exact ⟨[.closed, .onclose], by simp [Host.call, Host.setClosed, Host.emit], by simp [Observation.isOnmessage]⟩
  | line text =>
      have refused := mt (handle_line_message nacl js host.transport text).1 (by simp [quiet text rfl])
      simp only [Host.next, Host.line]
      cases handled : (host.transport.handleLine nacl js text).1 with
      | ignored => exact ⟨[], by simp [Host.handled], by simp⟩
      | onerror error => exact ⟨[.onerror error], rfl, by simp [Observation.isOnmessage]⟩
      | onmessage message => exact absurd ⟨message, handled⟩ refused
  | resume thrown =>
      obtain ⟨transport, stack, log⟩ := host
      cases stack with
      | nil => exact ⟨[], by simp [Host.next, Host.resume], by simp⟩
      | cons frame rest =>
          cases frame with
          | closing => exact ⟨[.onclose], rfl, by simp [Observation.isOnmessage]⟩
          | notifying => exact ⟨[], by simp [Host.next, Host.resume], by simp⟩
          | delivering =>
              cases thrown with
              | none => exact ⟨[], by simp [Host.next, Host.resume], by simp⟩
              | some error => exact ⟨[.onerror error], rfl, by simp [Observation.isOnmessage]⟩

theorem silent_append_quiet (log added : List Observation) (quiet : ∀ observation ∈ added, observation.isOnmessage = false) :
    Silent (log ++ added) ↔ Silent log := by
  have inside : Silent added := List.pairwise_of_forall_mem_list (fun _ _ later member _ => quiet later member)
  simp only [Silent, List.pairwise_append] at *
  constructor
  · exact fun silent => silent.1
  · exact fun silent => ⟨silent, inside, fun _ _ later member _ => quiet later member⟩

theorem silent_append_message (host : Host) (accounted : Accounted host) (message : JsonValue) :
    Silent (host.log ++ [.onmessage message]) ↔ Silent host.log ∧ host.transport.closed = false := by
  have marks := accounted.closed
  simp only [Silent, List.pairwise_append, List.pairwise_singleton, List.mem_singleton, true_and]
  constructor
  · rintro ⟨silent, ends⟩
    refine ⟨silent, ?_⟩
    by_contra closed
    rw [if_pos (by simpa using closed)] at marks
    obtain ⟨mark, member, isClosed⟩ := List.countP_pos_iff.1 (show 0 < host.log.countP Observation.isClosed by omega)
    exact Bool.noConfusion (ends mark member _ rfl isClosed)
  · rintro ⟨silent, notClosed⟩
    refine ⟨silent, fun earlier member later _ isClosed => ?_⟩
    rw [notClosed] at marks
    rw [not_in_log Observation.isClosed host.log marks earlier member] at isClosed
    cases isClosed

theorem next_silent (host : Host) (event : HostEvent) (accounted : Accounted host) :
    Silent (host.next nacl js event).log ↔ Silent host.log ∧ onTime nacl js host event := by
  by_cases quiet : ∀ text, event = .line text → authentic nacl js host.transport text = false
  · obtain ⟨added, log, quietLog⟩ := quiet_log nacl js host event quiet
    have timely : onTime nacl js host event := by
      cases event with
      | line text => exact fun _ => quiet text rfl
      | _ => trivial
    rw [log, silent_append_quiet _ _ quietLog]
    exact (and_iff_left timely).symm
  · push Not at quiet
    obtain ⟨text, rfl, accepted⟩ := quiet
    have isAuthentic : authentic nacl js host.transport text = true := by simpa using accepted
    obtain ⟨message, log⟩ := line_message nacl js host text isAuthentic
    rw [Host.next, log, silent_append_message host accounted message]
    simp [onTime, isAuthentic]

theorem follows_silent (events : List HostEvent) (first last : Host) (accounted : Accounted first)
    (follows : Transition.Follows (hostMachine nacl js) Transition.unrestricted first events last) :
    Accounted last ∧ (Silent last.log ↔
      Silent first.log ∧ Transition.Follows (hostMachine nacl js) (onTime nacl js) first events last) := by
  induction events generalizing first with
  | nil =>
      cases follows
      exact ⟨accounted, by simp [Transition.Follows]⟩
  | cons event events ih =>
      obtain ⟨offered, _, after, done, later⟩ := follows
      cases done
      obtain ⟨accountedLast, silent⟩ := ih _ (next_accounted nacl js first event accounted) later
      refine ⟨accountedLast, ?_⟩
      rw [silent, next_silent nacl js first event accounted]
      constructor
      · rintro ⟨⟨quiet, timely⟩, rest⟩
        exact ⟨quiet, offered, timely, _, rfl, rest⟩
      · rintro ⟨quiet, _, timely, next, done, rest⟩
        cases done
        exact ⟨⟨quiet, timely⟩, rest⟩

theorem start_account (first : Host) (initial : hostStart first) : Accounted first ∧ first.log = [] := by
  obtain ⟨session, maxFrameBytes, transport, created, rfl⟩ := initial
  have flags : transport.started = false ∧ transport.closed = false := by
    unfold EncryptedStdioTransport.create at created
    by_cases valid : maxFrameBytes ≤ maxSafeInteger ∧ 1024 ≤ maxFrameBytes
    · simp [require, valid, pure, Except.pure, bind, Except.bind] at created
      simp [← created]
    · simp [require, valid, bind, Except.bind] at created
  refine ⟨?_, rfl⟩
  unfold Accounted
  rw [flags.1, flags.2]
  constructor <;> simp

theorem stdio_lifecycle (first last : Host) (events : List HostEvent) (initial : hostStart first)
    (follows : Transition.Follows (hostMachine nacl js) Transition.unrestricted first events last) :
    Guaranteed nacl js last ∧ (Silent last.log ↔
      Transition.Follows (hostMachine nacl js) (onTime nacl js) first events last) := by
  obtain ⟨accounted, none⟩ := start_account first initial
  obtain ⟨accountedLast, silent⟩ := follows_silent nacl js events first last accounted follows
  refine ⟨accounted_guaranteed nacl js last accountedLast, silent.trans (and_iff_right ?_)⟩
  rw [none]
  exact List.Pairwise.nil

end Host

-- A frame that was on its way when the transport was closed.
def lateNacl : NaclBox := naclAfter plainCrypto [⟨List.replicate 32 3, pingNonce 0, utf8 pingText⟩]

def lateHost : Host := { transport := pingTransport .a }

theorem late_started : hostStart lateHost := ⟨(pingTransport .a).session, 1024, pingTransport .a, rfl, rfl⟩

abbrev lateMachine : Transition.Machine Host HostEvent Empty := hostMachine lateNacl pingJson

instance (host : Host) (event : HostEvent) : Decidable (lateMachine.enabled host event) := by
  cases event <;> simp only [hostMachine, hostEnabled] <;> infer_instance

instance (log : List Observation) : Decidable (Silent log) :=
  inferInstanceAs (Decidable (List.Pairwise
    (fun earlier later : Observation => earlier.isClosed = true → later.isOnmessage = false) log))

theorem late_line (host : Host) (same : host.transport.session = (pingTransport .a).session)
    (limit : host.transport.maxFrameBytes = 1024) : host.line lateNacl pingJson (pingLine 0) =
      { transport := { host.transport with session := (pingTransport .a).session.rememberNonce (pingEnvelope 0).nonce }
        stack := .delivering :: host.stack
        log := host.log ++ [.onmessage pingMessage.toJson] } := by
  obtain ⟨text, short⟩ := ping_text_of 0 (.inl rfl)
  have fits : ((pingLine 0).utf8ByteSize : Int) ≤ host.transport.maxFrameBytes := limit ▸ Int.ofNat_le.2 short
  obtain ⟨present, read⟩ := line_reads pingJson ping_json_lawful (pingEnvelope 0) rfl (pingLine 0) _ text fits
  have boxed := (IdealBox.open_after_iff plainCrypto.box [⟨List.replicate 32 3, pingNonce 0, utf8 pingText⟩] _ (pingNonce 0)
    (List.replicate 32 3) (utf8 pingText)).2 ⟨List.mem_singleton_self _, rfl⟩
  have authentic := (authenticate_iff lateNacl (pingTransport .a).session (pingEnvelope 0) (utf8 pingText) rfl).2
    ⟨rfl, rfl, List.not_mem_nil, pingNonce 0, _, rfl, rfl, rfl,
      hi_overhead (utf8 pingText) (pingNonce 0) (List.replicate 32 3), boxed⟩
  have payload := js_buffer_round_trip pingJson ping_json_lawful pingMessage.toJson (utf8 pingText) rfl
  have opened : (pingTransport .a).session.open lateNacl pingJson.buffer (pingEnvelope 0) =
      (.ok pingMessage.toJson, (pingTransport .a).session.rememberNonce (pingEnvelope 0).nonce) := by
    rw [E2eeSession.open, authentic]
    dsimp only
    rw [payload]
  have handled : host.transport.handleLine lateNacl pingJson (pingLine 0) = (.onmessage pingMessage.toJson,
      { host.transport with session := (pingTransport .a).session.rememberNonce (pingEnvelope 0).nonce }) := by
    rw [EncryptedStdioTransport.handleLine, E2ee.handleLine, if_neg present, read]
    dsimp only
    rw [same, opened]
  rw [Host.line, handled]
  rfl

def closedHost : Host :=
  ((((lateHost.next lateNacl pingJson .start).next lateNacl pingJson .close).next lateNacl pingJson .readlineClose).next
    lateNacl pingJson (.resume none)).next lateNacl pingJson (.resume none)

-- close is called, its two calls come back, and then the buffered line is emitted.
theorem late_frame_delivered : ∃ last, Transition.Follows lateMachine Transition.unrestricted lateHost
    [.start, .close, .readlineClose, .resume none, .resume none, .line (pingLine 0)] last ∧ ¬ Silent last.log := by
  refine ⟨closedHost.next lateNacl pingJson (.line (pingLine 0)), ⟨trivial, trivial, _, rfl, trivial, trivial, _, rfl, rfl,
    trivial, _, rfl, List.cons_ne_nil _ _, trivial, _, rfl, List.cons_ne_nil _ _, trivial, closedHost, rfl, rfl, trivial, _, rfl,
    rfl⟩, ?_⟩
  rw [Host.next, late_line closedHost rfl rfl]
  decide

def deliveringHost : Host where
  transport := { pingTransport .a with
    session := (pingTransport .a).session.rememberNonce (pingEnvelope 0).nonce
    started := true }
  stack := [.delivering]
  log := [.started, .onmessage pingMessage.toJson]

-- The handler of the message closes the transport, and that of onclose sends and starts.
theorem reentrant_calls_refused : ∃ last, Transition.Follows lateMachine Transition.unrestricted lateHost
    [.start, .line (pingLine 0), .close, .readlineClose, .resume none, .send (pingNonce 1) pingMessage, .start, .close,
      .resume none, .resume (some "thrown"), .resume none] last ∧
    Guaranteed lateNacl pingJson last ∧ Silent last.log ∧ last.log.length = 7 := by
  obtain ⟨last, later, silent, length⟩ := Transition.exists_follows lateMachine Transition.unrestricted
    (fun last => Silent last.log ∧ last.log.length = 7) deliveringHost
    [.close, .readlineClose, .resume none, .send (pingNonce 1) pingMessage, .start, .close,
      .resume none, .resume (some "thrown"), .resume none] (by decide +kernel)
  have delivered : (lateHost.next lateNacl pingJson .start).line lateNacl pingJson (pingLine 0) = deliveringHost :=
    late_line (lateHost.next lateNacl pingJson .start) rfl rfl
  have follows : Transition.Follows lateMachine Transition.unrestricted lateHost
      [.start, .line (pingLine 0), .close, .readlineClose, .resume none, .send (pingNonce 1) pingMessage, .start, .close,
        .resume none, .resume (some "thrown"), .resume none] last :=
    ⟨trivial, trivial, _, rfl, rfl, trivial, deliveringHost, congrArg Except.ok delivered, later⟩
  exact ⟨last, follows, (stdio_lifecycle lateNacl pingJson lateHost last _ late_started follows).1, silent, length⟩

end TelegramBotApi.StdioLifecycle
