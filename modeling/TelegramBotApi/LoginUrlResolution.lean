import TelegramBotApi.LoginUrls
import TelegramBotApi.BotUsernamesResolution

set_option autoImplicit false

namespace TelegramBotApi.BotUsernames

open Checked Tables

section LoginUrlResolution

variable {KeyboardButton : Type} (real : Username → UserId) (readers : Readers KeyboardButton)

-- The bot that a login button names, or the bot itself.
def botOf (myId : UserId) (username : Username) : UserId := if username = "" then myId else real username

def loginEnabled (state : State KeyboardButton) : Event → Prop
  | .usernameSearched username userId => username ∈ state.searching ∧ (userId = 0 ∨ userId = real username ∧ 0 < userId)
  | event => enabled state event

def loginClient : Transition.Machine (State KeyboardButton) Event Check where
  start state := ∃ myId, 0 < myId ∧ state = { ids := { defaultBotUserId := myId } }
  enabled := loginEnabled real
  step := step readers

def Continuation.logins : Continuation KeyboardButton → List (Username × UserId)
  | .replyMarkup (some (.inlineKeyboard rows)) => keyboardLogins rows
  | _ => []

def Query.ResolvesMarkup (query : Query) : Prop :=
  query.handlerArguments = .ok () ∧ (query.method.handler = .sendsMessage ∧ query.messageArguments = .ok () ∨
    query.method.handler = .editsMarkup ∨ query.method.handler = .editsMarkupAndReadsMore ∧ query.lateArguments = .ok ())

-- A keyboard with a button for the bot itself waits for usernames, and the id of
-- the bot is a multiple of 1000: then the id has to be found in the map, or one of
-- the usernames leads to it.
def OwnIdKept (tempToReal : AList (fun _ : UserId => UserId)) (ids : BotUserIds) (argument : String) : Prop :=
  ∀ rows after, getReplyMarkup readers argument ids = (.ok (some (.inlineKeyboard rows)), after) →
    "" ∈ (keyboardLogins rows).map Prod.fst → after.unresolvedBotUsernames ≠ [] → ids.defaultBotUserId % 1000 = 0 →
    tempToReal.lookup ids.defaultBotUserId = some ids.defaultBotUserId ∨
      ∃ username ∈ after.unresolvedBotUsernames, after.botUserIds username = ids.defaultBotUserId ∧
        real username = ids.defaultBotUserId

-- The id under which the answer is stored does not stand for another bot in a
-- waiting keyboard, unless that bot is still looked for under the id.
def NotOverwritten (state : State KeyboardButton) (username : Username) (userId : UserId) : Prop :=
  ∀ queryId pending, state.pendingQueries.lookup queryId = some pending → ∀ login ∈ pending.onSuccess.logins,
    |login.2| = state.ids.botUserIds username → botOf real state.ids.defaultBotUserId login.1 = userId ∨
      ∃ other, other ≠ username ∧ queryId ∈ state.waits other ∧ state.ids.botUserIds other = |login.2| ∧
        real other = botOf real state.ids.defaultBotUserId login.1

def idsKept : Transition.Condition (State KeyboardButton) Event
  | state, .command query => state.closing = false → query.ResolvesMarkup →
      OwnIdKept real readers state.tempToReal state.ids.clearUnresolved query.replyMarkup
  | state, .messageChecked query (.ok ()) => query.messageArguments = .ok () →
      OwnIdKept real readers state.tempToReal state.ids query.replyMarkup
  | state, .usernameSearched username userId => userId ≠ 0 → NotOverwritten real state username userId
  | _, _ => True

structure LoginUrlsResolved (state : State KeyboardButton) : Prop where
  handed : ∀ query rows, (query, .replyMarkup (some (.inlineKeyboard rows))) ∈ state.continued →
    AsksForKeyboard readers (botOf real state.ids.defaultBotUserId) query.replyMarkup rows
  -- the CHECKs of fix_reply_markup_bot_user_ids when the last username is found
  checked : ∀ username userId queryId pending markup, loginEnabled real state (.usernameSearched username userId) →
    idsKept real readers state (.usernameSearched username userId) → userId ≠ 0 → queryId ∈ state.waits username →
    state.pendingQueries.lookup queryId = some pending → pending.pendingResolveCount = 1 →
    pending.onSuccess = .replyMarkup markup →
    ∃ fixed, fixReplyMarkupBotUserIds (storeResolved username userId state).tempToReal markup = .ok fixed

def Kept (tempToReal : AList (fun _ : UserId => UserId)) (ids : Username → UserId) (awaited : Username → Prop)
    (bot key : UserId) : Prop :=
  0 < key ∧ if key % 1000 = 0 then tempToReal.lookup key = some bot ∧ bot ≠ 0 ∨
    ∃ username, awaited username ∧ ids username = key ∧ real username = bot else key = bot

def KeyboardKept (tempToReal : AList (fun _ : UserId => UserId)) (ids : Username → UserId) (awaited : Username → Prop)
    (myId : UserId) (argument : String) (rows : InlineKeyboard Username) : Prop :=
  ∃ keyOf, AsksForKeyboard readers keyOf argument rows ∧ ∀ login ∈ keyboardLogins rows,
    Kept real tempToReal ids awaited (botOf real myId login.1) (keyOf login.1)

-- Between the rounds of the loops a query is owed some answers, and it is promised
-- to be entered into the lists of some usernames. What a query is promised is kept
-- while it is live.
structure LoginInv (myId : UserId) (owed : Int → Nat) (promised : Int → Username → Prop) (live : Int → Prop)
    (state : State KeyboardButton) : Prop where
  ids : IdsSound real state.ids
  own : state.ids.defaultBotUserId = myId
  counted : ∀ queryId pending, state.pendingQueries.lookup queryId = some pending → pending.pendingResolveCount =
    countEntries (fun _ queryIds => queryId ∈ queryIds) state.awaitingQueries + owed queryId
  distinct : ∀ username, (state.waits username).Nodup
  issued : ∀ username, ∀ queryId ∈ state.waits username, queryId < state.currentQueryId
  unentered : ∀ queryId username, promised queryId username → queryId ∉ state.waits username
  granted : ∀ queryId username, promised queryId username → 0 < owed queryId ∧ queryId < state.currentQueryId
  keyboards : ∀ queryId pending rows, live queryId → state.pendingQueries.lookup queryId = some pending →
    pending.onSuccess = .replyMarkup (some (.inlineKeyboard rows)) →
    KeyboardKept real readers state.tempToReal state.ids.botUserIds
      (fun username => queryId ∈ state.waits username ∨ promised queryId username) myId pending.query.replyMarkup rows
  handed : ∀ query rows, (query, .replyMarkup (some (.inlineKeyboard rows))) ∈ state.continued →
    AsksForKeyboard readers (botOf real myId) query.replyMarkup rows

section Keys

variable (tempToReal : AList (fun _ : UserId => UserId)) (ids later : Username → UserId) (awaited after : Username → Prop)

theorem kept_weaken (bot key : UserId)
    (moves : ∀ username, awaited username → ids username ≠ 0 → after username ∧ later username = ids username)
    (kept : Kept real tempToReal ids awaited bot key) : Kept real tempToReal later after bot key := by
  obtain ⟨positive, found⟩ := kept
  refine ⟨positive, ?_⟩
  by_cases temporary : key % 1000 = 0
  · rw [if_pos temporary] at found ⊢
    rcases found with known | ⟨username, waits, same, bot⟩
    · exact .inl known
    · obtain ⟨still, equal⟩ := moves username waits (same ▸ Int.ne_of_gt positive)
      exact .inr ⟨username, still, equal.trans same, bot⟩
  · rwa [if_neg temporary] at found ⊢

theorem keyboard_kept_weaken (myId : UserId) (argument : String) (rows : InlineKeyboard Username)
    (moves : ∀ username, awaited username → ids username ≠ 0 → after username ∧ later username = ids username)
    (kept : KeyboardKept real readers tempToReal ids awaited myId argument rows) :
    KeyboardKept real readers tempToReal later after myId argument rows := by
  obtain ⟨keyOf, asks, entries⟩ := kept
  exact ⟨keyOf, asks, fun login member =>
    kept_weaken real tempToReal ids later awaited after _ _ moves (entries login member)⟩

theorem kept_stored (username : Username) (userId bot key : UserId) (found : userId ≠ 0) (answer : userId = real username)
    (shared : key = ids username → bot = userId ∨
      ∃ other, other ≠ username ∧ awaited other ∧ ids other = key ∧ real other = bot)
    (kept : Kept real tempToReal ids awaited bot key) :
    Kept real (tempToReal.insert (ids username) userId) (Function.update ids username userId)
      (fun other => awaited other ∧ other ≠ username) bot key := by
  obtain ⟨positive, entry⟩ := kept
  refine ⟨positive, ?_⟩
  by_cases temporary : key % 1000 = 0
  · rw [if_pos temporary] at entry ⊢
    rw [lookup_insert]
    have another (other : Username) (different : other ≠ username) (waits : awaited other) (same : ids other = key)
        (bots : real other = bot) : ∃ other, (awaited other ∧ other ≠ username) ∧
          Function.update ids username userId other = key ∧ real other = bot :=
      ⟨other, ⟨waits, different⟩, (Function.update_of_ne different _ _).trans same, bots⟩
    by_cases same : key = ids username
    · rw [if_pos same]
      rcases shared same with rfl | ⟨other, different, waits, equal, bots⟩
      · exact .inl ⟨rfl, found⟩
      · exact .inr (another other different waits equal bots)
    · rw [if_neg same]
      rcases entry with known | ⟨other, waits, equal, bots⟩
      · exact .inl known
      · exact .inr (another other (fun here => same (here ▸ equal.symm)) waits equal bots)
  · rwa [if_neg temporary] at entry ⊢

theorem keyboard_kept_fixes (myId : UserId) (argument : String) (rows : InlineKeyboard Username)
    (none : ∀ username, ¬ awaited username)
    (kept : KeyboardKept real readers tempToReal ids awaited myId argument rows) :
    ∃ fixed, rows.mapM (fun row => row.mapM (fixButton tempToReal)) = .ok fixed ∧
      AsksForKeyboard readers (botOf real myId) argument fixed := by
  obtain ⟨keyOf, asks, entries⟩ := kept
  have ready (login : Username × UserId) (member : login ∈ keyboardLogins rows) :
      Ready tempToReal (botOf real myId login.1) (keyOf login.1) := by
    obtain ⟨positive, entry⟩ := entries login member
    refine ⟨positive, ?_⟩
    by_cases temporary : keyOf login.1 % 1000 = 0
    · rw [if_pos temporary] at entry ⊢
      rcases entry with known | ⟨username, waits, _⟩
      · exact known
      · exact absurd waits (none username)
    · rwa [if_neg temporary] at entry ⊢
  unfold AsksForKeyboard at asks ⊢
  cases decoded : readers.jsonDecode argument with
  | none =>
      rw [decoded] at asks
      exact asks.elim
  | some value =>
      rw [decoded] at asks
      cases value with
      | object object => exact fix_rows_asks tempToReal keyOf (botOf real myId) object rows asks ready
      | _ => exact asks.elim

end Keys

section Waiting

variable (queryId : Int) (state : State KeyboardButton)

theorem count_waits_zero_iff : countEntries (fun _ queryIds => queryId ∈ queryIds) state.awaitingQueries = 0 ↔
    ∀ username, queryId ∉ state.waits username := by
  rw [countEntries, List.length_eq_zero_iff, List.filter_eq_nil_iff]
  constructor
  · intro none username listed
    cases found : state.awaitingQueries.lookup username with
    | none =>
        rw [State.waits, found] at listed
        cases listed
    | some queryIds =>
        rw [waits_of_lookup state username queryIds found] at listed
        exact none _ (AList.mem_lookup_iff.1 found) (decide_eq_true listed)
  · intro none entry member listed
    refine none entry.1 ?_
    rw [waits_of_lookup state entry.1 entry.2 (AList.mem_lookup_iff.2 member)]
    exact of_decide_eq_true listed

theorem count_entering (fresh : Int) (username : Username) (absent : fresh ∉ state.waits username) :
    countEntries (fun _ queryIds => queryId ∈ queryIds) (entering fresh state username).awaitingQueries =
      countEntries (fun _ queryIds => queryId ∈ queryIds) state.awaitingQueries + if queryId = fresh then 1 else 0 := by
  unfold entering
  dsimp only
  cases found : state.awaitingQueries.lookup username with
  | none =>
      have waits : state.waits username = [] := by rw [State.waits, found]; rfl
      rw [count_entries_insert_new _ _ _ _ found, waits]
      simp
  | some queryIds =>
      rw [waits_of_lookup state username queryIds found] at absent ⊢
      have erased := count_entries_erase (fun _ queryIds => queryId ∈ queryIds) state.awaitingQueries username queryIds found
      rw [count_entries_insert]
      by_cases same : queryId = fresh
      · subst same
        simp only [absent, decide_false, Bool.false_eq_true, if_false] at erased
        simpa using erased
      · simp only [same, List.mem_append, List.mem_singleton, or_false, if_false]
        omega

theorem waits_erase (username other : Username) :
    State.waits { state with awaitingQueries := state.awaitingQueries.erase username } other =
      if other = username then [] else state.waits other := by
  rw [State.waits, lookup_erase]
  split <;> rfl

end Waiting

section Answering

variable (myId : UserId) (owed : Int → Nat) (promised : Int → Username → Prop) (state : State KeyboardButton)
variable (username : Username) (userId : UserId)

theorem sound_update (ids : BotUserIds) (value : UserId) (positive : 0 ≤ value)
    (bot : value % 1000 ≠ 0 → value = real username) (sound : IdsSound real ids) :
    IdsSound real { ids with botUserIds := Function.update ids.botUserIds username value } := by
  refine ⟨sound.default, sound.counter, ?_, ?_, sound.distinct⟩
  · exact (Function.forall_update_iff _ (fun _ (id : UserId) => 0 ≤ id)).2 ⟨positive, fun other _ => sound.positive other⟩
  · exact (Function.forall_update_iff _ (fun other (id : UserId) => id % 1000 ≠ 0 → id = real other)).2
      ⟨bot, fun other _ => sound.real other⟩

theorem kept_key (tempToReal : AList (fun _ : UserId => UserId)) (ids : Username → UserId) (awaited : Username → Prop)
    (argument : String) (rows : InlineKeyboard Username) (keyOf : Username → UserId) (bot : UserId) (login : Username × UserId)
    (asks : AsksForKeyboard readers keyOf argument rows) (member : login ∈ keyboardLogins rows)
    (kept : Kept real tempToReal ids awaited bot (keyOf login.1)) : |login.2| = keyOf login.1 := by
  have signed : login.2 = keyOf login.1 ∨ login.2 = -keyOf login.1 := by
    unfold AsksForKeyboard at asks
    split at asks
    · exact asked_id keyOf _ rows asks login member
    · exact asks.elim
  rcases signed with same | same
  · rw [same, abs_of_pos kept.1]
  · rw [same, abs_neg, abs_of_pos kept.1]

theorem stored_inv (queryIds : List Int) (listed : state.awaitingQueries.lookup username = some queryIds)
    (answer : userId = 0 ∨ userId = real username ∧ 0 < userId) (kept : userId ≠ 0 → NotOverwritten real state username userId)
    (unpromised : ∀ queryId, ¬ promised queryId username) (inv : LoginInv real readers myId owed promised (fun _ => True) state) :
    LoginInv real readers myId (fun queryId => owed queryId + if queryId ∈ queryIds then 1 else 0) promised
      (fun queryId => userId ≠ 0 ∨ queryId ∉ queryIds)
      (storeResolved username userId { state with awaitingQueries := state.awaitingQueries.erase username }) := by
  have waiting := waits_of_lookup state username queryIds listed
  have counted (queryId : Int) (pending : PendingBotResolveQuery KeyboardButton)
      (found : state.pendingQueries.lookup queryId = some pending) : pending.pendingResolveCount =
        countEntries (fun _ queryIds => queryId ∈ queryIds) (state.awaitingQueries.erase username) +
          (owed queryId + if queryId ∈ queryIds then 1 else 0) := by
    have count := inv.counted queryId pending found
    have erased := count_entries_erase (fun _ queryIds => queryId ∈ queryIds) state.awaitingQueries username queryIds listed
    by_cases member : queryId ∈ queryIds
    · simp only [member, decide_true, if_true] at erased ⊢
      omega
    · simp only [member, decide_false, Bool.false_eq_true, if_false] at erased ⊢
      omega
  have distinct (other : Username) :
      (State.waits { state with awaitingQueries := state.awaitingQueries.erase username } other).Nodup := by
    rw [waits_erase]
    split
    · exact List.nodup_nil
    · exact inv.distinct other
  have older (other : Username) (queryId : Int)
      (member : queryId ∈ State.waits { state with awaitingQueries := state.awaitingQueries.erase username } other) :
      queryId ∈ state.waits other := by
    rw [waits_erase] at member
    split at member
    · cases member
    · exact member
  have granted (queryId : Int) (other : Username) (promise : promised queryId other) :
      0 < owed queryId + (if queryId ∈ queryIds then 1 else 0) ∧ queryId < state.currentQueryId :=
    ⟨Nat.lt_of_lt_of_le (inv.granted queryId other promise).1 (Nat.le_add_right _ _), (inv.granted queryId other promise).2⟩
  have still (queryId : Int) (other : Username) (awaited : queryId ∈ state.waits other ∨ promised queryId other)
      (different : other ≠ username) :
      queryId ∈ State.waits { state with awaitingQueries := state.awaitingQueries.erase username } other ∨
        promised queryId other := by
    rwa [waits_erase, if_neg different]
  by_cases zero : userId = 0
  · simp only [storeResolved, if_pos zero]
    refine ⟨sound_update real username state.ids 0 (Int.le_refl 0) (fun odd => absurd rfl odd) inv.ids, inv.own, counted,
      distinct, fun other queryId member => inv.issued other queryId (older other queryId member),
      fun queryId other promise member => inv.unentered queryId other promise (older other queryId member), granted, ?_,
        inv.handed⟩
    intro queryId pending rows live found keyboard
    have unlisted : queryId ∉ queryIds := live.resolve_left (fun nonzero => nonzero zero)
    refine keyboard_kept_weaken real readers _ _ _ _ _ myId _ rows (fun other awaited known => ?_)
      (inv.keyboards queryId pending rows trivial found keyboard)
    have different : other ≠ username := by
      rintro rfl
      exact awaited.elim (fun waits => unlisted (waiting ▸ waits)) (unpromised queryId)
    exact ⟨still queryId other awaited different, Function.update_of_ne different _ _⟩
  · obtain ⟨bot, positive⟩ := answer.resolve_left zero
    simp only [storeResolved, if_neg zero]
    refine ⟨sound_update real username state.ids userId (Int.le_of_lt positive) (fun _ => bot) inv.ids, inv.own, counted,
      distinct, fun other queryId member => inv.issued other queryId (older other queryId member),
      fun queryId other promise member => inv.unentered queryId other promise (older other queryId member), granted, ?_,
        inv.handed⟩
    intro queryId pending rows _ found keyboard
    obtain ⟨keyOf, asks, entries⟩ := inv.keyboards queryId pending rows trivial found keyboard
    refine ⟨keyOf, asks, fun login member => ?_⟩
    have entry := entries login member
    have key := kept_key real readers _ _ _ _ rows keyOf _ login asks member entry
    have moved := kept_stored real _ _ _ username userId _ _ zero bot (fun same => ?_) entry
    · refine kept_weaken real _ _ _ _ _ _ _ (fun other awaited _ => ?_) moved
      exact ⟨still queryId other awaited.1 awaited.2, rfl⟩
    · have shared := kept zero queryId pending found login (by rw [keyboard]; exact member) (key.trans same)
      rw [inv.own] at shared
      rcases shared with bots | ⟨other, different, waits, equal, bots⟩
      · exact .inl bots
      · exact .inr ⟨other, different, .inl waits, equal.trans key, bots⟩

theorem shrunk_inv (queryId : Int) (more less : Int → Nat) (lived lives : Int → Prop)
    (pendings : AList (fun _ : Int => PendingBotResolveQuery KeyboardButton)) (failed : List (Query × Status))
    (inv : LoginInv real readers myId more promised lived state)
    (kept : ∀ other pending, pendings.lookup other = some pending →
      other ≠ queryId ∧ state.pendingQueries.lookup other = some pending)
    (same : ∀ other, other ≠ queryId → less other = more other ∧ (lives other → lived other))
    (owes : ∀ other username, promised other username → 0 < less other) :
    LoginInv real readers myId less promised lives { state with pendingQueries := pendings, failed := failed } := by
  refine ⟨inv.ids, inv.own, fun other pending found => ?_, inv.distinct, inv.issued, inv.unentered,
    fun other username promise => ⟨owes other username promise, (inv.granted other username promise).2⟩,
    fun other pending rows live found keyboard => ?_, inv.handed⟩
  · obtain ⟨different, before⟩ := kept other pending found
    rw [(same other different).1]
    exact inv.counted other pending before
  · obtain ⟨different, before⟩ := kept other pending found
    exact inv.keyboards other pending rows ((same other different).2 live) before keyboard

theorem handed_inv (live : Int → Prop) (query : Query) (continuation : Continuation KeyboardButton)
    (inv : LoginInv real readers myId owed promised live state)
    (asks : ∀ rows, continuation = .replyMarkup (some (.inlineKeyboard rows)) →
      AsksForKeyboard readers (botOf real myId) query.replyMarkup rows) :
    LoginInv real readers myId owed promised live { state with continued := state.continued ++ [(query, continuation)] } := by
  refine ⟨inv.ids, inv.own, inv.counted, inv.distinct, inv.issued, inv.unentered, inv.granted, inv.keyboards, ?_⟩
  intro other rows member
  rcases List.mem_append.1 member with old | new
  · exact inv.handed other rows old
  · have same := List.mem_singleton.1 new
    cases same
    exact asks rows rfl

theorem fixed_continuation (tempToReal : AList (fun _ : UserId => UserId)) (query : Query)
    (continuation : Continuation KeyboardButton)
    (ready : ∀ rows, continuation = .replyMarkup (some (.inlineKeyboard rows)) →
      ∃ fixed, rows.mapM (fun row => row.mapM (fixButton tempToReal)) = .ok fixed ∧
        AsksForKeyboard readers (botOf real myId) query.replyMarkup fixed) :
    Meets (fun _ => True) (fun fixed => ∀ rows, fixed = .replyMarkup (some (.inlineKeyboard rows)) →
      AsksForKeyboard readers (botOf real myId) query.replyMarkup rows) (fixContinuation tempToReal continuation) := by
  cases continuation with
  | results results =>
      refine meets_bind _ (fun _ => True) _ _ _ ?_ (fun fixed _ => ?_)
      · cases results.mapM (fixInlineQueryResult tempToReal) <;> exact trivial
      · intro rows same
        cases same
  | replyMarkup markup =>
      cases markup with
      | none =>
          intro rows same
          cases same
      | some markup =>
          cases markup with
          | inlineKeyboard rows =>
              obtain ⟨fixed, done, asks⟩ := ready rows rfl
              rw [fixContinuation, fixReplyMarkupBotUserIds, done]
              intro shown same
              cases same
              exact asks
          | _ =>
              intro rows same
              cases same

theorem answer_round (queryId : Int) (rest : List Int) (absent : queryId ∉ rest)
    (owes : ∀ other username, promised other username → 0 < owed other)
    (inv : LoginInv real readers myId (fun other => owed other + if other ∈ queryId :: rest then 1 else 0) promised
      (fun other => userId ≠ 0 ∨ other ∉ queryId :: rest) state) :
    Meets (fun _ => True) (LoginInv real readers myId (fun other => owed other + if other ∈ rest then 1 else 0) promised
      (fun other => userId ≠ 0 ∨ other ∉ rest)) (resolveAwaiting username userId state queryId) := by
  have others (other : Int) (different : other ≠ queryId) :
      owed other + (if other ∈ rest then 1 else 0) = owed other + (if other ∈ queryId :: rest then 1 else 0) ∧
        (userId ≠ 0 ∨ other ∉ rest → userId ≠ 0 ∨ other ∉ queryId :: rest) := by
    simp [different]
  have promises (other : Int) (name : Username) (promise : promised other name) :
      0 < owed other + if other ∈ rest then 1 else 0 := Nat.lt_of_lt_of_le (owes other name promise) (Nat.le_add_right _ _)
  have erased (failed : List (Query × Status)) := shrunk_inv real readers myId promised state queryId _
    (fun other => owed other + if other ∈ rest then 1 else 0) _ (fun other => userId ≠ 0 ∨ other ∉ rest)
    (state.pendingQueries.erase queryId) failed inv (fun other pending found => by
      rw [lookup_erase] at found
      split at found
      · cases found
      · rename_i different
        exact ⟨different, found⟩) others promises
  unfold resolveAwaiting
  cases found : state.pendingQueries.lookup queryId with
  | none =>
      refine shrunk_inv real readers myId promised state queryId _ _ _ _ state.pendingQueries state.failed inv ?_ others promises
      intro other pending present
      refine ⟨?_, present⟩
      rintro rfl
      rw [found] at present
      cases present
  | some pending =>
      have count := inv.counted queryId pending found
      rw [if_pos List.mem_cons_self] at count
      dsimp only
      apply meets_require _ _ _ _ _ (fun _ => trivial)
      intro positive
      by_cases zero : userId = 0
      · rw [if_pos zero]
        exact erased _
      · rw [if_neg zero]
        by_cases last : pending.pendingResolveCount - 1 = 0
        · rw [if_pos last]
          refine meets_bind _ _ _ _ _ (fixed_continuation real readers myId state.tempToReal pending.query pending.onSuccess
            (fun rows keyboard => ?_)) (fun fixed asks => ?_)
          · have unlisted := (count_waits_zero_iff queryId state).1 (by omega)
            refine keyboard_kept_fixes real readers state.tempToReal _ _ myId _ rows ?_
              (inv.keyboards queryId pending rows (.inl zero) found keyboard)
            rintro name (waits | promise)
            · exact unlisted name waits
            · have owing := owes queryId name promise
              omega
          · exact handed_inv real readers myId _ promised _ _ pending.query fixed (erased state.failed) asks
        · rw [if_neg last]
          refine ⟨inv.ids, inv.own, fun other later present => ?_, inv.distinct, inv.issued, inv.unentered,
            fun other name promise => ⟨promises other name promise, (inv.granted other name promise).2⟩,
            fun other later rows live present keyboard => ?_, inv.handed⟩
          · rw [lookup_insert] at present
            by_cases same : other = queryId
            · rw [if_pos same] at present
              cases present
              rw [same, if_neg absent]
              dsimp only
              omega
            · rw [if_neg same] at present
              rw [(others other same).1]
              exact inv.counted other later present
          · rw [lookup_insert] at present
            by_cases same : other = queryId
            · rw [if_pos same] at present
              cases present
              subst same
              exact inv.keyboards other pending rows (.inl zero) found keyboard
            · rw [if_neg same] at present
              exact inv.keyboards other later rows ((others other same).2 live) present keyboard

theorem on_resolve_login (answer : userId = 0 ∨ userId = real username ∧ 0 < userId)
    (kept : userId ≠ 0 → NotOverwritten real state username userId) (unpromised : ∀ queryId, ¬ promised queryId username)
    (inv : LoginInv real readers myId owed promised (fun _ => True) state) :
    Meets (fun _ => True) (LoginInv real readers myId owed promised (fun _ => True))
      (onResolveBotUsername username userId state) := by
  unfold onResolveBotUsername
  cases listed : state.awaitingQueries.lookup username with
  | none => exact trivial
  | some queryIds =>
      have distinct := inv.distinct username
      rw [waits_of_lookup state username queryIds listed] at distinct
      apply meets_require _ _ _ _ _ (fun _ => trivial)
      intro _
      refine meets_weaken _ _ _ _ (fun after reached => ?_) (meets_foldlM_rest _ (fun rest middle =>
        LoginInv real readers myId (fun queryId => owed queryId + if queryId ∈ rest then 1 else 0) promised
          (fun queryId => userId ≠ 0 ∨ queryId ∉ rest) middle ∧ rest.Nodup) _ _ _
        ⟨stored_inv real readers myId owed promised state username userId queryIds listed answer kept unpromised inv,
          distinct⟩ ?_)
      · have final := reached.1
        simp only [List.not_mem_nil, if_false, Nat.add_zero, not_false_eq_true, or_true] at final
        exact final
      · rintro queryId rest middle ⟨held, fresh⟩
        obtain ⟨absent, restFresh⟩ := List.nodup_cons.1 fresh
        exact meets_weaken _ _ _ _ (fun after kept => ⟨kept, restFresh⟩) (answer_round real readers myId owed promised middle
          username userId queryId rest absent (fun other name promise => (inv.granted other name promise).1) held)

end Answering

section Waiting

variable (myId : UserId) (state : State KeyboardButton) (fresh : Int)

def owedFor (names : List Username) (queryId : Int) : Nat := if queryId = fresh then names.length else 0

def PromisedFor (names : List Username) (queryId : Int) (username : Username) : Prop := queryId = fresh ∧ username ∈ names

theorem entering_inv (username : Username) (rest : List Username) (absent : username ∉ rest)
    (inv : LoginInv real readers myId (owedFor fresh (username :: rest)) (PromisedFor fresh (username :: rest))
      (fun _ => True) state) :
    LoginInv real readers myId (owedFor fresh rest) (PromisedFor fresh rest) (fun _ => True) (entering fresh state username) := by
  have unlisted := inv.unentered fresh username ⟨rfl, List.mem_cons_self⟩
  have current := (inv.granted fresh username ⟨rfl, List.mem_cons_self⟩).2
  have listed (other : Username) (queryId : Int) : queryId ∈ (entering fresh state username).waits other ↔
      queryId ∈ state.waits other ∨ other = username ∧ queryId = fresh := by
    rw [entering_waits]
    by_cases here : other = username
    · simp [here]
    · simp [here]
  refine ⟨inv.ids, inv.own, fun queryId pending found => ?_, fun other => ?_, fun other queryId member => ?_,
    fun queryId other promise member => ?_, fun queryId other promise => ?_, fun queryId pending rows _ found keyboard => ?_,
      inv.handed⟩
  · have count := inv.counted queryId pending found
    have entered := count_entering queryId state fresh username unlisted
    unfold owedFor at count ⊢
    rw [List.length_cons] at count
    by_cases own : queryId = fresh
    · rw [if_pos own] at count entered ⊢
      omega
    · rw [if_neg own] at count entered ⊢
      omega
  · rw [entering_waits]
    split
    · refine List.nodup_append.2 ⟨inv.distinct username, List.nodup_singleton fresh, fun queryId old last new => ?_⟩
      rw [List.mem_singleton.1 new]
      rintro rfl
      exact unlisted old
    · exact inv.distinct other
  · rcases (listed other queryId).1 member with old | ⟨_, rfl⟩
    · exact inv.issued other queryId old
    · exact current
  · obtain ⟨rfl, inside⟩ := promise
    rcases (listed other queryId).1 member with old | ⟨rfl, _⟩
    · exact inv.unentered queryId other ⟨rfl, List.mem_cons_of_mem _ inside⟩ old
    · exact absent inside
  · obtain ⟨rfl, inside⟩ := promise
    refine ⟨?_, current⟩
    rw [owedFor, if_pos rfl]
    exact List.length_pos_of_mem inside
  · refine keyboard_kept_weaken real readers _ _ _ _ _ myId _ rows (fun other awaited _ => ⟨?_, rfl⟩)
      (inv.keyboards queryId pending rows trivial found keyboard)
    rcases awaited with waits | ⟨own, inside⟩
    · exact .inl ((listed other queryId).2 (.inl waits))
    · rcases List.mem_cons.1 inside with here | later
      · exact .inl ((listed other queryId).2 (.inr ⟨here, own⟩))
      · exact .inr ⟨own, later⟩

theorem await_login (username : Username) (rest : List Username) (absent : username ∉ rest)
    (inv : LoginInv real readers myId (owedFor fresh (username :: rest)) (PromisedFor fresh (username :: rest))
      (fun _ => True) state) :
    Meets (fun _ => True) (LoginInv real readers myId (owedFor fresh rest) (PromisedFor fresh rest) (fun _ => True))
      (awaitUsername fresh state username) := by
  have entered := entering_inv real readers myId state fresh username rest absent inv
  unfold awaitUsername
  dsimp only
  split
  · unfold searchPublicChat
    split
    · exact on_resolve_login real readers myId _ _ (entering fresh state username) username 0 (.inl rfl)
        (fun nonzero => absurd rfl nonzero) (fun queryId promise => absent promise.2) entered
    · exact ⟨entered.ids, entered.own, entered.counted, entered.distinct, entered.issued, entered.unentered, entered.granted,
        entered.keyboards, entered.handed⟩
  · exact entered

theorem registered_inv (query : Query) (onSuccess : Continuation KeyboardButton) (names : List Username)
    (kept : ∀ rows, onSuccess = .replyMarkup (some (.inlineKeyboard rows)) → KeyboardKept real readers state.tempToReal
      state.ids.botUserIds (· ∈ names) myId query.replyMarkup rows)
    (inv : LoginInv real readers myId (fun _ => 0) (fun _ _ => False) (fun _ => True) state) :
    LoginInv real readers myId (owedFor state.currentQueryId names) (PromisedFor state.currentQueryId names) (fun _ => True)
      { state with
        currentQueryId := state.currentQueryId + 1
        pendingQueries := state.pendingQueries.insert state.currentQueryId ⟨names.length, query, onSuccess⟩ } := by
  have unlisted (username : Username) : state.currentQueryId ∉ state.waits username := fun member =>
    Int.lt_irrefl _ (inv.issued username _ member)
  have none := (count_waits_zero_iff state.currentQueryId state).2 unlisted
  refine ⟨inv.ids, inv.own, fun queryId pending found => ?_, inv.distinct, fun username queryId member => ?_, ?_, ?_,
    fun queryId pending rows _ found keyboard => ?_, inv.handed⟩
  · rw [lookup_insert] at found
    unfold owedFor
    by_cases same : queryId = state.currentQueryId
    · rw [if_pos same] at found ⊢
      cases found
      rw [same]
      dsimp only
      omega
    · rw [if_neg same] at found ⊢
      exact inv.counted queryId pending found
  · exact Int.lt_trans (inv.issued username queryId member) (Int.lt_succ _)
  · rintro queryId username ⟨rfl, _⟩
    exact unlisted username
  · rintro queryId username ⟨rfl, inside⟩
    rw [owedFor, if_pos rfl]
    exact ⟨List.length_pos_of_mem inside, Int.lt_succ _⟩
  · rw [lookup_insert] at found
    by_cases same : queryId = state.currentQueryId
    · rw [if_pos same] at found
      cases found
      exact keyboard_kept_weaken real readers _ _ _ _ _ myId _ rows (fun username inside _ => ⟨.inr ⟨same, inside⟩, rfl⟩)
        (kept rows keyboard)
    · rw [if_neg same] at found
      refine keyboard_kept_weaken real readers _ _ _ _ _ myId _ rows (fun username awaited _ => ⟨?_, rfl⟩)
        (inv.keyboards queryId pending rows trivial found keyboard)
      exact .inl (awaited.resolve_right id)

abbrev LoginSound (state : State KeyboardButton) : Prop :=
  LoginInv real readers myId (fun _ => 0) (fun _ _ => False) (fun _ => True) state

theorem login_congr (after : State KeyboardButton) (inv : LoginSound real readers myId state) (ids : after.ids = state.ids)
    (map : after.tempToReal = state.tempToReal) (pending : after.pendingQueries = state.pendingQueries)
    (awaiting : after.awaitingQueries = state.awaitingQueries) (current : after.currentQueryId = state.currentQueryId)
    (continued : after.continued = state.continued) : LoginSound real readers myId after := by
  have waits : after.waits = state.waits := by
    funext username
    rw [State.waits, awaiting, State.waits]
  refine ⟨ids ▸ inv.ids, ids ▸ inv.own, ?_, waits ▸ inv.distinct, ?_, waits ▸ inv.unentered, fun _ _ promise => promise.elim,
    ?_, continued ▸ inv.handed⟩
  · rw [pending, awaiting]
    exact inv.counted
  · rw [waits, current]
    exact inv.issued
  · rw [pending, map, ids, waits]
    exact inv.keyboards

theorem resolve_login (query : Query) (onSuccess : Continuation KeyboardButton)
    (kept : ∀ rows, onSuccess = .replyMarkup (some (.inlineKeyboard rows)) → KeyboardKept real readers state.tempToReal
      state.ids.botUserIds (· ∈ state.ids.unresolvedBotUsernames) myId query.replyMarkup rows)
    (inv : LoginSound real readers myId state) :
    Meets (fun _ => True) (LoginSound real readers myId) (resolveBotUsernames query onSuccess state) := by
  unfold resolveBotUsernames
  apply meets_require _ _ _ _ _ (fun _ => trivial)
  intro _
  refine meets_bind _ (LoginInv real readers myId (owedFor state.currentQueryId []) (PromisedFor state.currentQueryId [])
    (fun _ => True)) _ _ _ ?_ (fun waited held => ?_)
  · refine meets_weaken _ _ _ _ (fun after reached => reached.1) (meets_foldlM_rest _ (fun rest middle =>
      LoginInv real readers myId (owedFor state.currentQueryId rest) (PromisedFor state.currentQueryId rest) (fun _ => True)
        middle ∧ rest.Nodup) _ _ _ ⟨registered_inv real readers myId state query onSuccess _ kept inv, inv.ids.distinct⟩ ?_)
    rintro username rest middle ⟨held, distinct⟩
    obtain ⟨absent, restDistinct⟩ := List.nodup_cons.1 distinct
    exact meets_weaken _ _ _ _ (fun after entered => ⟨entered, restDistinct⟩)
      (await_login real readers myId middle state.currentQueryId username rest absent held)
  · refine ⟨⟨held.ids.default, held.ids.counter, held.ids.positive, held.ids.real, List.nodup_nil⟩, held.own,
      fun queryId pending found => ?_, held.distinct, held.issued, fun _ _ promise => promise.elim,
      fun _ _ promise => promise.elim, fun queryId pending rows _ found keyboard => ?_, held.handed⟩
    · have count := held.counted queryId pending found
      unfold owedFor at count
      simpa using count
    · refine keyboard_kept_weaken real readers _ _ _ _ _ myId _ rows (fun username awaited _ => ⟨?_, rfl⟩)
        (held.keyboards queryId pending rows trivial found keyboard)
      exact .inl (awaited.resolve_right (fun promise => by cases promise.2))

theorem resolve_reply_markup_login (query : Query) (markup : Option (ReplyMarkup KeyboardButton))
    (waits : state.ids.unresolvedBotUsernames ≠ [] → ∀ rows, markup = some (.inlineKeyboard rows) → KeyboardKept real readers
      state.tempToReal state.ids.botUserIds (· ∈ state.ids.unresolvedBotUsernames) myId query.replyMarkup rows)
    (direct : state.ids.unresolvedBotUsernames = [] → ∀ rows, markup = some (.inlineKeyboard rows) →
      AsksForKeyboard readers (botOf real myId) query.replyMarkup rows)
    (inv : LoginSound real readers myId state) :
    Meets (fun _ => True) (LoginSound real readers myId) (resolveReplyMarkupBotUsernames query markup state) := by
  have logged : LoginSound real readers myId { state with entered := state.entered ++ [⟨query, markup, state.ids⟩] } :=
    login_congr real readers myId _ _ inv rfl rfl rfl rfl rfl rfl
  unfold resolveReplyMarkupBotUsernames
  dsimp only
  split
  · rename_i empty
    exact handed_inv real readers myId _ _ _ _ query _ logged (fun rows same => by
      cases same
      exact direct empty rows rfl)
  · rename_i named
    apply meets_require _ _ _ _ _ (fun _ => trivial)
    intro _
    apply meets_require _ _ _ _ _ (fun _ => trivial)
    intro _
    refine resolve_login real readers myId _ query _ (fun rows same => ?_) logged
    cases same
    exact waits named rows rfl

theorem resolve_results_login (query : Query) (results : List (InputInlineQueryResult KeyboardButton))
    (inv : LoginSound real readers myId state) :
    Meets (fun _ => True) (LoginSound real readers myId) (resolveInlineQueryResultsBotUsernames query results state) := by
  unfold resolveInlineQueryResultsBotUsernames
  split
  · exact handed_inv real readers myId _ _ _ _ query _ inv (fun rows same => by cases same)
  · exact resolve_login real readers myId state query _ (fun rows same => by cases same) inv

theorem grown_inv (ids : BotUserIds) (grows : Grows real state.ids ids) (inv : LoginSound real readers myId state) :
    LoginSound real readers myId { state with ids } := by
  refine ⟨grows.sound inv.ids, grows.default.trans inv.own, inv.counted, inv.distinct, inv.issued, inv.unentered, inv.granted,
    fun queryId pending rows _ found keyboard => ?_, inv.handed⟩
  exact keyboard_kept_weaken real readers _ _ _ _ _ myId _ rows
    (fun username awaited known => ⟨awaited, grows.kept username known⟩)
    (inv.keyboards queryId pending rows trivial found keyboard)

end Waiting

section Reading

variable (myId : UserId) (state : State KeyboardButton)

theorem parsed_keyboard (argument : String) (rows : InlineKeyboard Username) (before after : BotUserIds)
    (sound : IdsSound real before)
    (parsed : getReplyMarkup readers argument before = (.ok (some (.inlineKeyboard rows)), after)) :
    AsksForKeyboard readers after.idOf argument rows ∧ ∀ login ∈ keyboardLogins rows, login.1 ≠ "" →
      0 < after.botUserIds login.1 ∧ (after.Unresolved login.1 → login.1 ∈ after.unresolvedBotUsernames) ∧
        (¬ after.Unresolved login.1 → after.botUserIds login.1 = real login.1) := by
  obtain ⟨object, decoded, placed⟩ := reply_markup_placed real readers argument before after rows sound parsed
  obtain ⟨asks, names⟩ := placed_rows_asks after object rows placed
  have grown := reply_markup_grows real readers argument before
  rw [parsed] at grown
  have later := grown.sound sound
  have collected := inline_keyboard_collects readers argument before after rows parsed
  refine ⟨?_, fun login member named => ⟨?_, fun unresolved => ?_, later.real login.1⟩⟩
  · rw [AsksForKeyboard, decoded]
    exact asks
  · have known := (names login member).resolve_left named
    have positive := later.positive login.1
    exact lt_of_le_of_ne positive (Ne.symm known)
  · exact (collected.added login.1).2 (.inr ⟨login_username rows login member named, (collected.status login.1).1 unresolved⟩)

theorem read_login (late : Result Unit) (query : Query)
    (kept : late = .ok () → OwnIdKept real readers state.tempToReal state.ids query.replyMarkup)
    (inv : LoginSound real readers myId state) :
    Meets (fun _ => True) (LoginSound real readers myId) (readAndResolve readers late query state) := by
  have grown := grown_inv real readers myId state _ (reply_markup_grows real readers query.replyMarkup state.ids) inv
  unfold readAndResolve parseReplyMarkup
  rcases parsed : getReplyMarkup readers query.replyMarkup state.ids with ⟨status | markup, after⟩
  · rw [parsed] at grown
    exact login_congr real readers myId _ _ grown rfl rfl rfl rfl rfl rfl
  · rw [parsed] at grown
    dsimp only at grown ⊢
    cases late with
    | error status => exact login_congr real readers myId _ _ grown rfl rfl rfl rfl rfl rfl
    | ok =>
        refine resolve_reply_markup_login real readers myId _ query markup (fun named rows same => ?_)
          (fun empty rows same => ?_) grown
        · subst same
          obtain ⟨asks, names⟩ := parsed_keyboard real readers query.replyMarkup rows state.ids after inv.ids parsed
          refine ⟨after.idOf, asks, fun login member => ?_⟩
          have default : after.defaultBotUserId = myId := grown.own
          by_cases own : login.1 = ""
          · simp only [BotUserIds.idOf, botOf, if_pos own, default]
            refine ⟨default ▸ grown.ids.default, ?_⟩
            by_cases temporary : myId % 1000 = 0
            · rw [if_pos temporary]
              have found := kept rfl rows after parsed (List.mem_map.2 ⟨login, member, own⟩) named (inv.own ▸ temporary)
              rw [inv.own] at found
              exact found.imp (fun known => ⟨known, Int.ne_of_gt (default ▸ grown.ids.default)⟩) id
            · rw [if_neg temporary]
          · obtain ⟨positive, unresolved, resolved⟩ := names login member own
            simp only [BotUserIds.idOf, botOf, if_neg own]
            refine ⟨positive, ?_⟩
            by_cases temporary : after.botUserIds login.1 % 1000 = 0
            · rw [if_pos temporary]
              exact .inr ⟨login.1, unresolved temporary, rfl, rfl⟩
            · rw [if_neg temporary]
              exact resolved temporary
        · subst same
          obtain ⟨asks, names⟩ := parsed_keyboard real readers query.replyMarkup rows state.ids after inv.ids parsed
          change after.unresolvedBotUsernames = [] at empty
          have default : after.defaultBotUserId = myId := grown.own
          unfold AsksForKeyboard at asks ⊢
          split at asks
          · refine asks_rows_congr after.idOf (botOf real myId) _ rows (fun login member => ?_) asks
            unfold BotUserIds.idOf botOf
            by_cases own : login.1 = ""
            · rw [if_pos own, if_pos own, default]
            · obtain ⟨_, unresolved, resolved⟩ := names login member own
              rw [if_neg own, if_neg own]
              refine resolved (fun temporary => ?_)
              have listed := unresolved temporary
              rw [empty] at listed
              cases listed
          · exact asks.elim

theorem send_login (query : Query)
    (kept : query.messageArguments = .ok () → OwnIdKept real readers state.tempToReal state.ids query.replyMarkup)
    (inv : LoginSound real readers myId state) :
    Meets (fun _ => True) (LoginSound real readers myId) (doSendMessage readers query state) := by
  unfold doSendMessage
  split
  · exact login_congr real readers myId _ _ inv rfl rfl rfl rfl rfl rfl
  · rename_i read
    exact read_login real readers myId state (.ok ()) query (fun _ => kept read) inv

theorem answer_login (query : Query) (parsed : Result (List (InputInlineQueryResult KeyboardButton)) × BotUserIds)
    (grows : Grows real state.ids parsed.2) (inv : LoginSound real readers myId state) :
    Meets (fun _ => True) (LoginSound real readers myId) (answerResults query parsed state) := by
  have grown := grown_inv real readers myId state parsed.2 grows inv
  rcases parsed with ⟨status | results, after⟩
  · exact login_congr real readers myId _ _ grown rfl rfl rfl rfl rfl rfl
  · exact resolve_results_login real readers myId _ query results grown

theorem process_login (query : Query)
    (kept : query.ResolvesMarkup → OwnIdKept real readers state.tempToReal state.ids query.replyMarkup)
    (inv : LoginSound real readers myId state) :
    Meets (fun _ => True) (LoginSound real readers myId) (processQuery readers query state) := by
  unfold processQuery
  cases read : query.handlerArguments with
  | error status =>
      exact login_congr real readers myId _ _ inv rfl rfl rfl rfl rfl rfl
  | ok =>
      dsimp only
      cases handler : query.method.handler with
      | sendsMessage =>
          exact send_login real readers myId state query (fun message => kept ⟨read, .inl ⟨handler, message⟩⟩) inv
      | checksThenSendsMessage =>
          exact login_congr real readers myId _ _ inv rfl rfl rfl rfl rfl rfl
      | sendsWithoutMarkup =>
          refine resolve_reply_markup_login real readers myId state query none (fun _ rows same => ?_) (fun _ rows same => ?_) inv
          · cases same
          · cases same
      | editsMarkup =>
          exact read_login real readers myId state _ query (fun _ => kept ⟨read, .inr (.inl handler)⟩) inv
      | editsMarkupAndReadsMore =>
          exact read_login real readers myId state _ query (fun late => kept ⟨read, .inr (.inr ⟨handler, late⟩)⟩) inv
      | answersOneResult =>
          exact answer_login real readers myId state query _ (query_result_grows real readers query.results state.ids) inv
      | answersResults =>
          exact answer_login real readers myId state query _ (query_results_grows real readers query.results state.ids) inv
      | ignoresMarkup => exact inv

theorem step_login (event : Event) (enabled : loginEnabled real state event) (condition : idsKept real readers state event)
    (inv : LoginSound real readers myId state) :
    Meets (fun _ => True) (LoginSound real readers myId) (step readers state event) := by
  cases event with
  | command query =>
      refine on_cmd_meets readers (fun _ => True) (LoginSound real readers myId) query state inv
        (fun status => login_congr real readers myId _ _ inv rfl rfl rfl rfl rfl rfl) fun running => ?_
      refine process_login real readers myId _ query (condition running) ?_
      exact grown_inv real readers myId state _ (grows_set real state.ids [] (fun _ => List.nodup_nil)) inv
  | messageChecked query answer =>
      cases answer with
      | error status =>
          exact login_congr real readers myId _ _ inv rfl rfl rfl rfl rfl rfl
      | ok =>
          refine send_login real readers myId _ query condition ?_
          exact login_congr real readers myId _ _ inv rfl rfl rfl rfl rfl rfl
  | usernameSearched username userId =>
      refine on_resolve_login real readers myId _ _ _ username userId enabled.2 condition (fun _ promise => promise) ?_
      exact login_congr real readers myId _ _ inv rfl rfl rfl rfl rfl rfl
  | closing =>
      exact login_congr real readers myId _ _ inv rfl rfl rfl rfl rfl rfl

theorem login_start (first : State KeyboardButton) (start : (loginClient real readers).start first) :
    LoginSound real readers first.ids.defaultBotUserId first := by
  obtain ⟨myId, positive, rfl⟩ := start
  refine ⟨⟨positive, Int.one_pos, fun _ => Int.le_refl 0, fun _ odd => absurd rfl odd, List.nodup_nil⟩, rfl, ?_,
    fun _ => List.nodup_nil, ?_, fun _ _ promise => promise.elim, fun _ _ promise => promise.elim, ?_, ?_⟩
  · intro queryId pending found
    cases found
  · intro username queryId member
    cases member
  · intro queryId pending rows _ found
    cases found
  · intro query rows member
    cases member

theorem reached_login (state : State KeyboardButton)
    (reached : Transition.Reach (loginClient real readers) (idsKept real readers) state) :
    ∃ myId, LoginSound real readers myId state := by
  apply Transition.reach_meets (loginClient real readers) (idsKept real readers) (fun _ => True)
    (fun state => ∃ myId, LoginSound real readers myId state) _ _ state reached
  · exact fun first start => ⟨_, login_start real readers first start⟩
  · rintro before event ⟨myId, inv⟩ enabled condition
    exact meets_weaken _ _ _ _ (fun after held => ⟨myId, held⟩) (step_login real readers myId before event enabled condition inv)

theorem last_answer_fixes (username : Username) (userId : UserId) (queryId : Int)
    (pending : PendingBotResolveQuery KeyboardButton) (markup : Option (ReplyMarkup KeyboardButton))
    (answer : userId = 0 ∨ userId = real username ∧ 0 < userId) (kept : userId ≠ 0 → NotOverwritten real state username userId)
    (found : userId ≠ 0) (waits : queryId ∈ state.waits username) (present : state.pendingQueries.lookup queryId = some pending)
    (last : pending.pendingResolveCount = 1) (keyboard : pending.onSuccess = .replyMarkup markup)
    (inv : LoginSound real readers myId state) :
    ∃ fixed, fixReplyMarkupBotUserIds (storeResolved username userId state).tempToReal markup = .ok fixed := by
  cases listed : state.awaitingQueries.lookup username with
  | none =>
      rw [State.waits, listed] at waits
      cases waits
  | some queryIds =>
      have stored := stored_inv real readers myId _ _ state username userId queryIds listed answer kept
        (fun _ promise => promise) inv
      rw [waits_of_lookup state username queryIds listed] at waits
      have same : (storeResolved username userId
        { state with awaitingQueries := state.awaitingQueries.erase username }).tempToReal =
          (storeResolved username userId state).tempToReal := by
        simp only [storeResolved, if_neg found]
      have held : (storeResolved username userId { state with
          awaitingQueries := state.awaitingQueries.erase username }).pendingQueries.lookup queryId = some pending := by
        simpa only [storeResolved, if_neg found] using present
      have count := stored.counted queryId pending held
      rw [last, if_pos waits] at count
      have unlisted := (count_waits_zero_iff queryId (storeResolved username userId { state with
        awaitingQueries := state.awaitingQueries.erase username })).1 (by omega)
      rw [← same]
      cases markup with
      | none => exact ⟨_, rfl⟩
      | some markup =>
          cases markup with
          | inlineKeyboard rows =>
              obtain ⟨fixed, done, _⟩ := keyboard_kept_fixes real readers _ _ _ myId _ rows
                (fun name awaited => awaited.elim (unlisted name) id)
                (stored.keyboards queryId pending rows (.inl found) held keyboard)
              rw [fixReplyMarkupBotUserIds, done]
              exact ⟨_, rfl⟩
          | _ => exact ⟨_, rfl⟩

end Reading

end LoginUrlResolution

section Multiples

def loginKeyboardOf (botUsernames : List Username) : JsonValue :=
  .object [("inline_keyboard", .array [.array (botUsernames.map fun botUsername => .object [("text", .string "Log in"),
    ("login_url", .object [("url", .string "https://example.com"), ("bot_username", .string botUsername)])])])]

def fewKeyboards : Readers Unit where
  jsonDecode text :=
    if text = "own" then some (loginKeyboardOf ["", "friend_bot"])
    else if text = "cached" then some (loginKeyboardOf ["round_bot"])
    else if text = "waits" then some (loginKeyboardOf ["friend_bot", "late_bot"])
    else none
  getOptionalLongField _ _ := .ok 0
  getKeyboardButton _ := .ok ()
  readResultHead _ := .ok ()
  readResultTail _ := .ok ()

-- One bot has the id that is handed out as the second temporary one.
def fewBots (username : Username) : UserId := if username = "round_bot" then 2000 else 7777

def sends (id : Nat) (replyMarkup : String) : Event := .command { id, method := .sendMessage, replyMarkup }

deriving instance DecidableEq for Query

instance (state : State Unit) : (event : Event) → Decidable (loginEnabled fewBots state event)
  | .usernameSearched username userId =>
      inferInstanceAs (Decidable (username ∈ state.searching ∧ (userId = 0 ∨ userId = fewBots username ∧ 0 < userId)))
  | .messageChecked query _ => inferInstanceAs (Decidable (query ∈ state.checking))
  | .command _ => inferInstanceAs (Decidable True)
  | .closing => inferInstanceAs (Decidable True)

instance (state : State Unit) (event : Event) : Decidable ((loginClient fewBots fewKeyboards).enabled state event) :=
  inferInstanceAs (Decidable (loginEnabled fewBots state event))

def faultOf (result : Except Check (State Unit)) : Option Check :=
  match result with
  | .ok _ => none
  | .error fault => some fault

def roundEvents : List Event :=
  [sends 1 "cached", .usernameSearched "round_bot" 2000, sends 2 "waits", .usernameSearched "friend_bot" 7777,
    sends 3 "cached", .usernameSearched "round_bot" 2000, .usernameSearched "late_bot" 7777]

def roundStart : State Unit := { ids := { defaultBotUserId := 7 } }

def roundStep (event : Event) (state : State Unit) : State Unit :=
  match step fewKeyboards state event with
  | .ok after => after
  | .error _ => state

def roundWaiting : State Unit := roundStep (sends 1 "cached") roundStart

def roundFound : State Unit := roundStep (.usernameSearched "round_bot" 2000) roundWaiting

theorem round_waiting_only : ∀ entry ∈ roundWaiting.pendingQueries.entries, ∀ login ∈ entry.2.onSuccess.logins,
    botOf fewBots roundWaiting.ids.defaultBotUserId login.1 = 2000 := by
  decide +kernel

theorem round_reached : Transition.Reach (loginClient fewBots fewKeyboards) (idsKept fewBots fewKeyboards) roundFound := by
  have waiting : Transition.Reach (loginClient fewBots fewKeyboards) (idsKept fewBots fewKeyboards) roundWaiting := by
    refine .next roundStart _ (sends 1 "cached") (.start _ ⟨7, by decide, rfl⟩) trivial ?_ rfl
    intro _ _ rows after _ _ _ multiple
    exact absurd multiple (by decide)
  refine .next roundWaiting _ (.usernameSearched "round_bot" 2000) waiting (by decide +kernel) ?_ rfl
  intro _ queryId pending found login member _
  exact .inl (round_waiting_only ⟨queryId, pending⟩ (AList.mem_lookup_iff.1 found) login member)

end Multiples

end TelegramBotApi.BotUsernames
