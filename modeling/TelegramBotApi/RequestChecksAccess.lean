import TelegramBotApi.RequestChecks

set_option autoImplicit false

-- What TDLib promises about the caches, and the chats that requests are let into.
namespace TelegramBotApi.RequestChecks

open Checked Tables
open Suspended hiding step

def ServerTopic : Option MessageTopic → Prop
  | some (.thread messageThreadId) => asTdlibMessageId (asClientMessageId messageThreadId) = messageThreadId
  | _ => True

def TypeKnown (now : Caches) : ChatType → Prop
  | .privateChat userId => (now.users.lookup userId).isSome = true
  | .group groupId => (now.groups.lookup groupId).isSome = true
  | .supergroup supergroupId => (now.supergroups.lookup supergroupId).isSome = true
  | .unknown => False

def ChatKnown (now : Caches) (chatId : Int) : Prop := (now.chats.lookup chatId).isSome = true

structure Consistent (now : Caches) : Prop where
  chats : ∀ chatId chat, now.chats.lookup chatId = some chat → chatId ≠ 0 ∧ TypeKnown now chat.type
  topics : ∀ key message, now.messages.lookup key = some message → ServerTopic message.topicId
  connections : ∀ id connection, now.businessConnections.lookup id = some connection → connection.id = id

def KeepsKeys {Key Value : Type} [DecidableEq Key] (before after : Table Key Value) : Prop :=
  ∀ key, (before.lookup key).isSome = true → (after.lookup key).isSome = true

def KeepsChats (before after : Caches) : Prop := KeepsKeys before.chats after.chats

theorem keeps_chats_trans (first middle last : Caches) (begins : KeepsChats first middle) (ends : KeepsChats middle last) :
    KeepsChats first last :=
  fun chatId known => ends chatId (begins chatId known)

-- The updates TDLib sends: a chat comes after the user or the group it is with.
def allowed (now : Caches) : Update → Prop
  | .newChat chatId info => chatId ≠ 0 ∧ TypeKnown now info.type
  | .chatTitle chatId _ => ChatKnown now chatId
  | .message message => ServerTopic message.info.topicId
  | _ => True

theorem of_lookup_insert {Key Value : Type} [DecidableEq Key] (table : Table Key Value) (key other : Key) (value found : Value)
    (holds : Key → Value → Prop) (new : holds key value) (old : ∀ found, table.lookup other = some found → holds other found)
    (present : (table.insert key value).lookup other = some found) : holds other found := by
  rw [lookup_insert] at present
  split at present
  · rename_i same
    cases present
    rw [same]
    exact new
  · exact old found present

theorem keeps_keys_insert {Key Value : Type} [DecidableEq Key] (table : Table Key Value) (key : Key) (value : Value) :
    KeepsKeys table (table.insert key value) := by
  intro other present
  rw [lookup_insert]
  split
  · rfl
  · exact present

theorem consistent_grown (now : Caches) (users : Table Int UserInfo) (groups : Table Int GroupInfo)
    (supergroups : Table Int SupergroupInfo) (consistent : Consistent now) (moreUsers : KeepsKeys now.users users)
    (moreGroups : KeepsKeys now.groups groups) (moreSupergroups : KeepsKeys now.supergroups supergroups) :
    Consistent { now with users, groups, supergroups } := by
  refine { consistent with chats := fun chatId chat found => ?_ }
  obtain ⟨nonzero, known⟩ := consistent.chats chatId chat found
  refine ⟨nonzero, ?_⟩
  cases type : chat.type <;> rw [type] at known
  · exact moreUsers _ known
  · exact moreGroups _ known
  · exact moreSupergroups _ known
  · exact known

theorem consistent_chat (now : Caches) (chatId : Int) (chat : ChatInfo) (consistent : Consistent now) (nonzero : chatId ≠ 0)
    (known : TypeKnown now chat.type) : Consistent { now with chats := now.chats.insert chatId chat } :=
  { consistent with
    chats := fun other found => of_lookup_insert now.chats chatId other chat found
      (fun key value => key ≠ 0 ∧ TypeKnown now value.type) ⟨nonzero, known⟩ (consistent.chats other) }

theorem consistent_message (now : Caches) (message : Message) (consistent : Consistent now)
    (server : ServerTopic message.info.topicId) : Consistent (addMessage now message) :=
  { consistent with
    topics := fun key found => of_lookup_insert now.messages _ key message.info found
      (fun _ value => ServerTopic value.topicId) server (consistent.topics key) }

theorem lookup_delete_messages (chatId : Int) (messageIds : List Int) (messages : Table (Int × Int) MessageInfo)
    (key : Int × Int) (message : MessageInfo)
    (found : (deleteMessages messages chatId messageIds).lookup key = some message) : messages.lookup key = some message := by
  induction messageIds generalizing messages with
  | nil => exact found
  | cons messageId rest ih =>
      have kept := ih (messages.erase (chatId, messageId)) found
      rw [lookup_erase] at kept
      split at kept
      · cases kept
      · exact kept

theorem consistent_connection (now : Caches) (connection : BusinessConnection) (consistent : Consistent now) :
    Consistent { now with businessConnections := now.businessConnections.insert connection.id connection } :=
  { consistent with
    connections := fun id found => of_lookup_insert now.businessConnections connection.id id connection found
      (fun key value => value.id = key) rfl (consistent.connections id) }

theorem on_update_consistent (now : Caches) (update : Update) (consistent : Consistent now) (offered : allowed now update) :
    Consistent (onUpdate now update) := by
  have same {Key Value : Type} [DecidableEq Key] (table : Table Key Value) : KeepsKeys table table := fun _ => id
  cases update with
  | user userId info => exact consistent_grown now _ _ _ consistent (keeps_keys_insert _ _ _) (same _) (same _)
  | userFullInfo userId =>
      rw [onUpdate, addUserInfo]
      split
      · exact consistent
      · exact consistent_grown now _ _ _ consistent (keeps_keys_insert _ _ _) (same _) (same _)
  | basicGroup groupId info => exact consistent_grown now _ _ _ consistent (same _) (keeps_keys_insert _ _ _) (same _)
  | supergroup supergroupId info => exact consistent_grown now _ _ _ consistent (same _) (same _) (keeps_keys_insert _ _ _)
  | newChat chatId info => exact consistent_chat now chatId info consistent offered.1 offered.2
  | chatTitle chatId title =>
      obtain ⟨chat, found⟩ := Option.isSome_iff_exists.1 offered
      obtain ⟨nonzero, known⟩ := consistent.chats chatId chat found
      refine consistent_chat now chatId _ consistent nonzero ?_
      rw [found]
      exact known
  | message message => exact consistent_message now message consistent offered
  | deleteMessages chatId messageIds =>
      exact { consistent with
        topics := fun key message found =>
          consistent.topics key message (lookup_delete_messages chatId messageIds _ key message found) }
  | businessConnection connection => exact consistent_connection now connection consistent

theorem on_update_keeps_chats (now : Caches) (update : Update) : KeepsChats now (onUpdate now update) := by
  intro chatId known
  cases update with
  | newChat other info => exact keeps_keys_insert now.chats other info chatId known
  | chatTitle other title => exact keeps_keys_insert now.chats other _ chatId known
  | userFullInfo userId =>
      rw [onUpdate, addUserInfo]
      split <;> exact known
  | user | basicGroup | supergroup | message | deleteMessages | businessConnection => exact known

section Soundness

-- The chats a username has belonged to.
variable (resolves : String → Int → Prop)

def AnsweredWith (chatId messageId : Int) (message : Option Message) : Prop :=
  ∀ found ∈ message, found.chatId = chatId ∧ found.id = messageId ∧ ServerTopic found.info.topicId

-- The answers of TDLib: an error, or what was asked for, after the updates it
-- rests on.
def answers (now : Caches) : Request → Answer → Prop
  | _, .error _ _ => True
  | .searchPublicChat username, .chat chatId title =>
      resolves username chatId ∧ ∃ chat, now.chats.lookup chatId = some chat ∧ chat.title = title
  | .getChat chatId, .chat found title => found = chatId ∧ ∃ chat, now.chats.lookup chatId = some chat ∧ chat.title = title
  | .getUser userId, .user found => found = userId
  | .getMessage chatId messageId, .message message =>
      message.chatId = chatId ∧ message.id = messageId ∧ ServerTopic message.info.topicId
  | .getMessages chatId messageIds, .messages messages => List.Forall₂ (AnsweredWith chatId) messageIds messages
  | .getForumTopic chatId forumTopicId, .forumTopic inChat topic => inChat = chatId ∧ topic = forumTopicId
  | .getBusinessConnection connectionId, .businessConnection connection => connection.id = connectionId
  | _, _ => False

def tdlib : World Caches Update Request Answer where
  inv := Consistent
  changes := KeepsChats
  refl _ _ := id
  trans := keeps_chats_trans
  apply := onUpdate
  allowed := allowed
  applied now update consistent offered :=
    ⟨on_update_consistent now update consistent offered, on_update_keeps_chats now update⟩
  answers := answers resolves

def Judged {α : Type} (good : List Caches → Caches → α → Prop) (bad : List Caches → Caches → Refusal → Prop)
    (past : List Caches) (now : Caches) : Except Refusal α → Prop
  | .ok value => good past now value
  | .error refusal => bad past now refusal

theorem meets_on_success {α β : Type} (middle : List Caches → Caches → α → Prop) (good : List Caches → Caches → β → Prop)
    (bad : List Caches → Caches → Refusal → Prop) (next : Caches → α → Checks β) (past : List Caches) (now : Caches)
    (checks : Checks α) (timeline : Timeline (tdlib resolves) past now)
    (begins : Meets (tdlib resolves) (Judged middle bad) past now checks)
    (continues : ∀ more later value, Timeline (tdlib resolves) more later → (now :: past) <:+ (later :: more) →
      middle more later value → Meets (tdlib resolves) (Judged good bad) more later (next later value)) :
    Meets (tdlib resolves) (Judged good bad) past now (onSuccess next now checks) := by
  refine meets_and_then (tdlib resolves) _ _ _ past now checks timeline begins ?_
  intro more later result line longer held
  cases result with
  | ok value => exact continues more later value line longer held
  | error refusal => exact held

theorem meets_judged {α : Type} (strong weak : List Caches → Caches → α → Prop) (bad : List Caches → Caches → Refusal → Prop)
    (past : List Caches) (now : Caches) (checks : Checks α) (timeline : Timeline (tdlib resolves) past now)
    (meets : Meets (tdlib resolves) (Judged strong bad) past now checks)
    (implies : ∀ more later value, (now :: past) <:+ (later :: more) → strong more later value → weak more later value) :
    Meets (tdlib resolves) (Judged weak bad) past now checks := by
  refine meets_weaken (tdlib resolves) _ _ past now checks timeline meets ?_
  intro more later result _ longer held
  cases result with
  | ok value => exact implies more later value longer held
  | error refusal => exact held

theorem meets_found {α β : Type} (post : List Caches → Caches → Except Refusal β → Prop) (check : Check) (value : Option α)
    (next : α → Checks β) (past : List Caches) (now : Caches) (present : value.isSome = true)
    (continues : ∀ found, value = some found → Meets (tdlib resolves) post past now (next found)) :
    Meets (tdlib resolves) post past now (found check value next) := by
  obtain ⟨found, rfl⟩ := Option.isSome_iff_exists.1 present
  exact continues found rfl

theorem meets_require {β : Type} (post : List Caches → Caches → Except Refusal β → Prop) (check : Check) (holds : Bool)
    (next : Checks β) (past : List Caches) (now : Caches) (true : holds = true)
    (continues : Meets (tdlib resolves) post past now next) :
    Meets (tdlib resolves) post past now (RequestChecks.require check holds next) := by
  rw [RequestChecks.require, if_pos true]
  exact continues

def PrivateAllows (user : UserInfo) : AccessRights → Prop
  | .read | .readMembers => user.type ≠ .unknown
  | .edit | .write => user.type ≠ .unknown ∧ user.type ≠ .deleted

def GroupAllows (group : GroupInfo) : AccessRights → Prop
  | .read => True
  | .edit => group.isActive = true → group.kicked = false ∧ group.left = false
  | .readMembers | .write => group.isActive = true ∧ group.kicked = false ∧ group.left = false

def SupergroupAllows (supergroup : SupergroupInfo) : AccessRights → Prop
  | .read | .readMembers =>
      supergroup.status ≠ .banned ∧ (isChatMember supergroup.status = true ∨ supergroup.isPublic = true)
  | .edit | .write => isChatMember supergroup.status = true

def Allows (now : Caches) (rights : AccessRights) : ChatType → Prop
  | .privateChat userId => ∃ user, now.users.lookup userId = some user ∧ PrivateAllows user rights
  | .group groupId => ∃ group, now.groups.lookup groupId = some group ∧ GroupAllows group rights
  | .supergroup supergroupId => ∃ supergroup, now.supergroups.lookup supergroupId = some supergroup ∧
      SupergroupAllows supergroup rights
  | .unknown => False

def Allowed (rights : AccessRights) (chatId : Int) (now : Caches) : Prop :=
  ∃ chat, now.chats.lookup chatId = some chat ∧ Allows now rights chat.type

def Migrated (chatId migrateToChatId : Int) (now : Caches) : Prop :=
  ∃ chat groupId group, now.chats.lookup chatId = some chat ∧ chat.type = .group groupId ∧
    now.groups.lookup groupId = some group ∧ group.isActive = false ∧ group.upgradedToSupergroupId ≠ 0 ∧
    migrateToChatId = getSupergroupChatId group.upgradedToSupergroupId

structure Denied (rights : AccessRights) (migrateToChatId : Option Int) (chatId : Int) (now : Caches) : Prop where
  known : ChatKnown now chatId
  denied : ¬ Allowed rights chatId now
  migrated : ∀ target, migrateToChatId = some target → Migrated chatId target now

inductive Verdict (allows : Prop) (migrated : Int → Prop) (chatId : Int) : Checks Int → Prop where
  | granted (holds : allows) : Verdict allows migrated chatId (succeed chatId)
  | denied (code : Int) (description : String) (migrateToChatId : Option Int) (fails : ¬ allows)
      (blamed : ∀ target, migrateToChatId = some target → migrated target) :
      Verdict allows migrated chatId (.done (.error (.failQuery code description migrateToChatId)))

theorem verdict_of_failed (allows : Prop) (migrated : Int → Prop) (chatId code : Int) (description : String)
    (fails : ¬ allows) : Verdict allows migrated chatId (failQuery code description) :=
  .denied code description none fails (fun _ same => nomatch same)

theorem group_verdict (chatId : Int) (rights : AccessRights) (group : GroupInfo) :
    Verdict (GroupAllows group rights)
      (fun target => group.isActive = false ∧ group.upgradedToSupergroupId ≠ 0 ∧
        target = getSupergroupChatId group.upgradedToSupergroupId)
      chatId (checkGroupAccess chatId rights group) := by
  obtain ⟨left, kicked, isActive, upgraded⟩ := group
  cases isActive with
  | false =>
      cases rights
      case read => exact .granted trivial
      case edit => exact .granted (fun active => nomatch active)
      all_goals
        show Verdict _ _ chatId (failInactiveGroup _)
        unfold failInactiveGroup
        split
        · rename_i moved
          refine .denied _ _ _ (fun allows => nomatch allows.1) ?_
          rintro _ ⟨⟩
          exact ⟨rfl, moved, rfl⟩
        · exact verdict_of_failed _ _ _ _ _ (fun allows => nomatch allows.1)
  | true =>
      cases rights <;> cases kicked <;> cases left <;>
        first
          | exact .granted (by simp [GroupAllows])
          | exact verdict_of_failed _ _ _ _ _ (by simp [GroupAllows])

theorem supergroup_verdict (chatId : Int) (rights : AccessRights) (supergroup : SupergroupInfo) :
    Verdict (SupergroupAllows supergroup rights) (fun _ => False) chatId (checkSupergroupAccess chatId rights supergroup) := by
  unfold checkSupergroupAccess
  by_cases banned : supergroup.status = .banned
  · rw [if_pos banned]
    refine verdict_of_failed _ _ _ _ _ ?_
    cases rights <;> simp [SupergroupAllows, banned, isChatMember]
  · rw [if_neg banned]
    cases member : isChatMember supergroup.status with
    | true =>
        refine .granted ?_
        cases rights <;> simp [SupergroupAllows, banned, member]
    | false =>
        cases isPublic : supergroup.isPublic <;> cases rights <;>
          first
            | exact .granted (by simp [SupergroupAllows, banned, member, isPublic])
            | exact verdict_of_failed _ _ _ _ _ (by simp [SupergroupAllows, member, isPublic])

-- td::to_integer for int64
variable (toInteger : String → Int)

def Named (text : String) (chatId : Int) : Prop :=
  if text.toList.head? = some '@' then resolves text chatId else chatId = toInteger text

def Refused (asked : List (String × AccessRights)) (past : List Caches) (now : Caches) : Refusal → Prop
  | .failQueryWithError _ _ _ => True
  | .failQuery code _ migrateToChatId => code = 400 ∧ migrateToChatId = none ∨
      ∃ ask ∈ asked, ∃ chatId, Named resolves toInteger ask.1 chatId ∧
        Sometime (Denied ask.2 migrateToChatId chatId) past now

structure Granted (text : String) (rights : AccessRights) (unknownUser : Bool) (past : List Caches) (now : Caches)
    (chatId : Int) : Prop where
  named : Named resolves toInteger text chatId
  allowed : Sometime (Allowed rights chatId) past now ∨ unknownUser = true ∧ 0 < chatId ∧ chatId < 2 ^ 40

theorem granted_later (text : String) (rights : AccessRights) (unknownUser : Bool) (past more : List Caches)
    (now later : Caches) (chatId : Int) (longer : (now :: past) <:+ (later :: more))
    (granted : Granted resolves toInteger text rights unknownUser past now chatId) :
    Granted resolves toInteger text rights unknownUser more later chatId :=
  ⟨granted.named, granted.allowed.imp_left (sometime_later _ past more now later longer)⟩

theorem known_of_granted (text : String) (rights : AccessRights) (unknownUser : Bool) (past : List Caches) (now : Caches)
    (chatId : Int) (timeline : Timeline (tdlib resolves) past now)
    (granted : Granted resolves toInteger text rights unknownUser past now chatId) :
    ChatKnown now chatId ∨ unknownUser = true ∧ 0 < chatId := by
  rcases granted.allowed with ⟨moment, member, chat, found, _⟩ | ⟨unknown, positive, _⟩
  · exact .inl ((timeline_mem (tdlib resolves) past now timeline moment member).2 chatId (by rw [found]; rfl))
  · exact .inr ⟨unknown, positive⟩

variable (asked : List (String × AccessRights))

theorem refused_bad_request {α : Type} (good : List Caches → Caches → α → Prop) (past : List Caches) (now : Caches)
    (description : String) :
    Meets (tdlib resolves) (Judged good (Refused resolves toInteger asked)) past now (failQuery 400 description) :=
  .inl ⟨rfl, rfl⟩

structure Asked (text : String) (rights : AccessRights) (chatId : Int) (chat : ChatInfo) (now : Caches) : Prop where
  member : (text, rights) ∈ asked
  named : Named resolves toInteger text chatId
  found : now.chats.lookup chatId = some chat
  consistent : Consistent now

theorem meets_verdict (text : String) (rights : AccessRights) (unknownUser : Bool) (chatId : Int) (chat : ChatInfo)
    (past : List Caches) (now : Caches) (asks : Asked resolves toInteger asked text rights chatId chat now) (allows : Prop)
    (migrated : Int → Prop) (checks : Checks Int) (verdict : Verdict allows migrated chatId checks)
    (exact : Allows now rights chat.type ↔ allows) (blames : ∀ target, migrated target → Migrated chatId target now) :
    Meets (tdlib resolves) (Judged (Granted resolves toInteger text rights unknownUser) (Refused resolves toInteger asked))
      past now checks := by
  cases verdict with
  | granted holds => exact ⟨asks.named, .inl (sometime_now _ past now ⟨chat, asks.found, exact.2 holds⟩)⟩
  | denied code description migrateToChatId fails blamed =>
      refine .inr ⟨(text, rights), asks.member, chatId, asks.named, sometime_now _ past now ⟨?_, ?_, ?_⟩⟩
      · show (now.chats.lookup chatId).isSome = true
        rw [asks.found]
        rfl
      · rintro ⟨other, found, allowed⟩
        cases asks.found.symm.trans found
        exact fails (exact.1 allowed)
      · exact fun target same => blames target (blamed target same)

theorem check_chat_access_meets (text : String) (rights : AccessRights) (unknownUser : Bool) (chatId : Int) (chat : ChatInfo)
    (past : List Caches) (now : Caches) (asks : Asked resolves toInteger asked text rights chatId chat now) :
    Meets (tdlib resolves) (Judged (Granted resolves toInteger text rights unknownUser) (Refused resolves toInteger asked))
      past now (checkChatAccess chatId rights chat now) := by
  have known := (asks.consistent.chats chatId chat asks.found).2
  have judge := meets_verdict resolves toInteger asked text rights unknownUser chatId chat past now asks
  unfold checkChatAccess
  cases type : chat.type with
  | privateChat userId =>
      rw [type] at known judge
      refine meets_found resolves _ _ _ _ past now known fun user found => ?_
      have only : Allows now rights (.privateChat userId) ↔ PrivateAllows user rights := by simp [Allows, found]
      refine judge _ (fun _ => False) _ ?_ only (fun _ => False.elim)
      obtain ⟨userType, access⟩ := user
      cases userType <;> cases rights <;>
        first
          | exact .granted (by simp [PrivateAllows])
          | exact verdict_of_failed _ _ _ _ _ (by simp [PrivateAllows])
  | group groupId =>
      rw [type] at known judge
      refine meets_found resolves _ _ _ _ past now known fun group found => ?_
      have only : Allows now rights (.group groupId) ↔ GroupAllows group rights := by simp [Allows, found]
      refine judge _ _ _ (group_verdict chatId rights group) only ?_
      rintro target ⟨inactive, moved, same⟩
      exact ⟨chat, groupId, group, asks.found, type, found, inactive, moved, same⟩
  | supergroup supergroupId =>
      rw [type] at known judge
      refine meets_found resolves _ _ _ _ past now known fun supergroup found => ?_
      have only : Allows now rights (.supergroup supergroupId) ↔ SupergroupAllows supergroup rights := by simp [Allows, found]
      exact judge _ _ _ (supergroup_verdict chatId rights supergroup) only (fun _ => False.elim)
  | unknown =>
      rw [type] at known
      exact known.elim

def ChatAnswered (text : String) (now : Caches) (answer : Answer) : Prop :=
  (∃ code message, answer = .error code message) ∨ ∃ chatId title chat, answer = .chat chatId title ∧
    Named resolves toInteger text chatId ∧ now.chats.lookup chatId = some chat ∧ chat.title = title

theorem on_check_chat_meets (text : String) (rights : AccessRights) (unknownUser byUsername : Bool) (past : List Caches)
    (now : Caches) (answer : Answer) (member : (text, rights) ∈ asked) (consistent : Consistent now)
    (answered : ChatAnswered resolves toInteger text now answer) :
    Meets (tdlib resolves) (Judged (Granted resolves toInteger text rights unknownUser) (Refused resolves toInteger asked))
      past now (onCheckChat byUsername rights now answer) := by
  rcases answered with ⟨code, message, rfl⟩ | ⟨chatId, title, chat, rfl, named, found, sameTitle⟩
  · exact trivial
  · have present : (now.chats.lookup chatId).isSome = true := by rw [found]; rfl
    refine meets_found resolves _ _ _ _ past now present fun other sameChat => ?_
    cases found.symm.trans sameChat
    refine meets_require resolves _ _ _ _ past now (decide_eq_true sameTitle) ?_
    have accessible := check_chat_access_meets resolves toInteger asked text rights unknownUser chatId chat past now
      ⟨member, named, found, consistent⟩
    split
    · unfold allowedByUsername
      have known := (consistent.chats chatId chat found).2
      cases type : chat.type with
      | privateChat userId =>
          rw [type] at known
          refine meets_found resolves _ _ _ _ past now known fun user _ => ?_
          split
          · exact accessible
          · exact refused_bad_request resolves toInteger asked _ past now _
      | supergroup supergroupId => exact accessible
      | group groupId => exact refused_bad_request resolves toInteger asked _ past now _
      | unknown => exact refused_bad_request resolves toInteger asked _ past now _
    · exact accessible

theorem ask_chat_meets (text : String) (rights : AccessRights) (unknownUser byUsername : Bool) (request : Request)
    (past : List Caches) (now : Caches) (member : (text, rights) ∈ asked)
    (recognised : ∀ later answer, answers resolves later request answer → ChatAnswered resolves toInteger text later answer) :
    Meets (tdlib resolves) (Judged (Granted resolves toInteger text rights unknownUser) (Refused resolves toInteger asked))
      past now (.ask request (fun now _ => now) (onCheckChat byUsername rights)) := by
  intro later answer kept waited answered
  exact ⟨kept, fun _ => id, on_check_chat_meets resolves toInteger asked text rights unknownUser byUsername _ later answer
    member kept (recognised later answer answered)⟩

theorem username_answered (username : String) (text : String) (later : Caches) (answer : Answer)
    (names : ∀ chatId, resolves username chatId → Named resolves toInteger text chatId)
    (answered : answers resolves later (.searchPublicChat username) answer) :
    ChatAnswered resolves toInteger text later answer := by
  cases answer with
  | error code message => exact .inl ⟨code, message, rfl⟩
  | chat chatId title =>
      obtain ⟨resolved, chat, found, sameTitle⟩ := answered
      exact .inr ⟨chatId, title, chat, rfl, names chatId resolved, found, sameTitle⟩
  | user | message | messages | forumTopic | businessConnection => exact answered.elim

theorem chat_answered (chatId : Int) (text : String) (later : Caches) (answer : Answer)
    (named : Named resolves toInteger text chatId) (answered : answers resolves later (.getChat chatId) answer) :
    ChatAnswered resolves toInteger text later answer := by
  cases answer with
  | error code message => exact .inl ⟨code, message, rfl⟩
  | chat found title =>
      obtain ⟨rfl, chat, present, sameTitle⟩ := answered
      exact .inr ⟨_, title, chat, rfl, named, present, sameTitle⟩
  | user | message | messages | forumTopic | businessConnection => exact answered.elim

theorem check_chat_meets (text : String) (rights : AccessRights) (unknownUser : Bool) (past : List Caches) (now : Caches)
    (member : (text, rights) ∈ asked) (consistent : Consistent now) :
    Meets (tdlib resolves) (Judged (Granted resolves toInteger text rights unknownUser) (Refused resolves toInteger asked))
      past now (checkChat toInteger text rights unknownUser now) := by
  unfold checkChat
  split
  · exact refused_bad_request resolves toInteger asked _ past now _
  · split
    · rename_i username
      refine ask_chat_meets resolves toInteger asked text rights unknownUser true _ past now member fun later answer => ?_
      refine username_answered resolves toInteger text text later answer fun chatId resolved => ?_
      rw [Named, if_pos username]
      exact resolved
    · rename_i username
      have named : Named resolves toInteger text (toInteger text) := by rw [Named, if_neg username]
      dsimp only
      split
      · rename_i unknown
        simp only [Bool.and_eq_true, decide_eq_true_eq] at unknown
        exact ⟨named, .inr ⟨unknown.1.1, unknown.1.2, unknown.2⟩⟩
      · split
        · rename_i chat found
          exact check_chat_access_meets resolves toInteger asked text rights unknownUser _ chat past now
            ⟨member, named, (Option.filter_eq_some_iff.1 found).1, consistent⟩
        · exact ask_chat_meets resolves toInteger asked text rights unknownUser false _ past now member
            fun later answer => chat_answered resolves toInteger _ text later answer named

end Soundness

end TelegramBotApi.RequestChecks
