import TelegramBotApi.RequestChecksAccess

set_option autoImplicit false

-- What a request is carried out with was checked while it was processed, with
-- any updates and any other requests in between.
namespace TelegramBotApi.RequestChecks

open Checked Tables
open Suspended hiding step

section Soundness

-- The chats usernames have belonged to, td::to_integer and td::to_integer_safe
-- for int64, and the chats a request is checked against.
variable (resolves : String → Int → Prop)
variable (toInteger : String → Int) (toIntegerSafe : String → Option Int)
variable (asked : List (String × AccessRights))

-- The messages of a chat are readable, or it is one with an unknown user.
def Readable (chatId : Int) (now : Caches) : Prop :=
  0 < chatId ∨ ∃ chat, now.chats.lookup chatId = some chat ∧ ∀ supergroupId, chat.type = .supergroup supergroupId →
    ∃ supergroup, now.supergroups.lookup supergroupId = some supergroup ∧ isChatMember supergroup.status = true

theorem have_message_access_meets {β : Type} (post : List Caches → Caches → Except Refusal β → Prop) (chatId : Int)
    (past : List Caches) (now : Caches) (next : Bool → Checks β) (consistent : Consistent now)
    (known : ChatKnown now chatId ∨ 0 < chatId)
    (readable : Readable chatId now → Meets (tdlib resolves) post past now (next true))
    (unreadable : ¬ Readable chatId now → Meets (tdlib resolves) post past now (next false)) :
    Meets (tdlib resolves) post past now (haveMessageAccess chatId now next) := by
  unfold haveMessageAccess
  split
  · rename_i positive
    exact readable (.inl positive)
  · rename_i nonpositive
    refine meets_found resolves _ _ _ _ past now (known.resolve_right nonpositive) fun chat found => ?_
    have typeKnown := (consistent.chats chatId chat found).2
    cases type : chat.type with
    | privateChat userId => exact readable (.inr ⟨chat, found, fun _ other => nomatch type.symm.trans other⟩)
    | group groupId => exact readable (.inr ⟨chat, found, fun _ other => nomatch type.symm.trans other⟩)
    | unknown =>
        rw [type] at typeKnown
        exact typeKnown.elim
    | supergroup supergroupId =>
        rw [type] at typeKnown
        refine meets_found resolves _ _ _ _ past now typeKnown fun supergroup present => ?_
        cases member : isChatMember supergroup.status with
        | true =>
            refine readable (.inr ⟨chat, found, fun other same => ?_⟩)
            cases type.symm.trans same
            exact ⟨supergroup, present, member⟩
        | false =>
            refine unreadable ?_
            rintro (positive | ⟨other, sameChat, inside⟩)
            · exact nonpositive positive
            · cases found.symm.trans sameChat
              obtain ⟨again, samePresent, isMember⟩ := inside supergroupId type
              cases present.symm.trans samePresent
              cases member.symm.trans isMember

def Cached (chatId messageId : Int) (now : Caches) : Prop := (now.messages.lookup (chatId, messageId)).isSome = true

def FoundMessage (messageId : Int) (allowEmpty : Bool) (now : Caches) (found : Int × Int) : Prop :=
  found.2 = messageId ∧ Cached found.1 messageId now ∨ found.2 = 0 ∧ allowEmpty = true

theorem cached_added (now : Caches) (message : Message) : Cached message.chatId message.id (addMessage now message) := by
  show ((now.messages.insert (message.chatId, message.id) message.info).lookup _).isSome = true
  rw [lookup_insert, if_pos rfl]
  rfl

theorem ask_message_meets (chatId messageId : Int) (allowEmpty : Bool) (messageType : String) (past : List Caches)
    (now : Caches) :
    Meets (tdlib resolves)
      (Judged (fun _ now found => found.1 = chatId ∧ FoundMessage messageId allowEmpty now found)
        (Refused resolves toInteger asked)) past now
      (.ask (.getMessage chatId messageId) absorbMessage (onCheckMessage chatId messageId allowEmpty messageType)) := by
  intro later answer kept waited answered
  cases answer with
  | error code message =>
      refine ⟨kept, fun _ => id, ?_⟩
      rw [onCheckMessage]
      split
      · rename_i empty
        exact ⟨rfl, .inr ⟨rfl, empty⟩⟩
      · exact trivial
  | message message =>
      obtain ⟨sameChat, sameMessage, server⟩ := answered
      refine ⟨consistent_message later message kept server, fun _ => id, ?_⟩
      refine meets_require resolves _ _ _ _ _ _ (decide_eq_true sameChat) ?_
      refine meets_require resolves _ _ _ _ _ _ (decide_eq_true sameMessage) ?_
      have cached := cached_added later message
      rw [sameChat, sameMessage] at cached
      exact ⟨rfl, .inl ⟨rfl, cached⟩⟩
  | chat | user | messages | forumTopic | businessConnection => exact answered.elim

structure MessageChecked (text : String) (rights : AccessRights) (messageId : Int) (allowEmpty : Bool) (past : List Caches)
    (now : Caches) (found : Int × Int) : Prop where
  chat : Granted resolves toInteger text rights false past now found.1
  readable : Sometime (Readable found.1) past now
  message : FoundMessage messageId allowEmpty now found

theorem known_or_positive (text : String) (rights : AccessRights) (unknownUser : Bool) (past : List Caches) (now : Caches)
    (chatId : Int) (timeline : Timeline (tdlib resolves) past now)
    (granted : Granted resolves toInteger text rights unknownUser past now chatId) : ChatKnown now chatId ∨ 0 < chatId :=
  (known_of_granted resolves toInteger text rights unknownUser past now chatId timeline granted).imp_right And.right

theorem check_message_meets (text : String) (messageId : Int) (allowEmpty : Bool) (rights : AccessRights)
    (messageType : String) (now : Caches) (member : (text, rights) ∈ asked) (consistent : Consistent now) :
    Meets (tdlib resolves)
      (Judged (MessageChecked resolves toInteger text rights messageId allowEmpty) (Refused resolves toInteger asked)) [] now
      (checkMessage toInteger text messageId allowEmpty rights messageType now) := by
  refine meets_on_success resolves (Granted resolves toInteger text rights false) _ _ _ [] now _
    (timeline_start _ now consistent) (check_chat_meets resolves toInteger asked text rights false [] now member consistent) ?_
  intro more later chatId line _ granted
  dsimp only
  split
  · exact trivial
  · rename_i tolerated
    refine have_message_access_meets resolves _ chatId more later _ line.inv
      (known_or_positive resolves toInteger text rights false more later chatId line granted) (fun readable => ?_)
      (fun _ => trivial)
    rw [Bool.not_true, if_neg Bool.false_ne_true]
    split
    · rename_i missing
      have empty : allowEmpty = true := by
        cases allowEmpty with
        | false => exact absurd ⟨missing, rfl⟩ tolerated
        | true => rfl
      exact ⟨granted, sometime_now _ more later readable, .inr ⟨rfl, empty⟩⟩
    · refine meets_judged resolves _ _ _ more later _ line
        (ask_message_meets resolves toInteger asked chatId messageId allowEmpty messageType more later) ?_
      rintro rest last ⟨_, found⟩ longer ⟨rfl, isFound⟩
      exact ⟨granted_later resolves toInteger text rights false more rest later last _ longer granted,
        sometime_later _ more rest later last longer (sometime_now _ more later readable), isFound⟩

theorem add_messages_chats (allowEmpty : Bool) (messages : List (Option Message)) (now : Caches) :
    (addMessages allowEmpty now messages).chats = now.chats := by
  induction messages generalizing now with
  | nil => rfl
  | cons message rest ih =>
      cases message with
      | some message => exact ih (addMessage now message)
      | none =>
          rw [addMessages]
          split
          · exact ih now
          · rfl

theorem add_messages_consistent (allowEmpty : Bool) (messages : List (Option Message)) (now : Caches)
    (server : ∀ message, some message ∈ messages → ServerTopic message.info.topicId) (consistent : Consistent now) :
    Consistent (addMessages allowEmpty now messages) := by
  induction messages generalizing now with
  | nil => exact consistent
  | cons message rest ih =>
      have later (message : Message) (member : some message ∈ rest) := server message (List.mem_cons_of_mem _ member)
      cases message with
      | some message =>
          exact ih (addMessage now message) later (consistent_message now message consistent (server message List.mem_cons_self))
      | none =>
          rw [addMessages]
          split
          · exact ih now later consistent
          · exact consistent

theorem add_messages_cached (allowEmpty : Bool) (messages : List (Option Message)) (now : Caches) (chatId messageId : Int)
    (cached : Cached chatId messageId now) : Cached chatId messageId (addMessages allowEmpty now messages) := by
  induction messages generalizing now with
  | nil => exact cached
  | cons message rest ih =>
      cases message with
      | some message => exact ih (addMessage now message) (keeps_keys_insert now.messages _ message.info _ cached)
      | none =>
          rw [addMessages]
          split
          · exact ih now cached
          · exact cached

-- The messages found among those asked for, in order; all of them where none may
-- be missing.
structure FoundMessages (chatId : Int) (messageIds : List Int) (allowEmpty : Bool) (now : Caches) (found : List Int) :
    Prop where
  asked : found.Sublist messageIds
  complete : allowEmpty = false → found = messageIds
  cached : ∀ messageId ∈ found, Cached chatId messageId now

theorem server_of_answered (chatId : Int) (ids : List Int) (messages : List (Option Message))
    (matched : List.Forall₂ (AnsweredWith chatId) ids messages) (message : Message) (member : some message ∈ messages) :
    ServerTopic message.info.topicId := by
  induction matched with
  | nil => cases member
  | cons answered _ ih =>
      rcases List.mem_cons.1 member with same | inside
      · exact (answered message same.symm).2.2
      · exact ih inside

theorem message_ids_found (chatId : Int) (allowEmpty : Bool) (messageType : String) (ids : List Int)
    (messages : List (Option Message)) (matched : List.Forall₂ (AnsweredWith chatId) ids messages) (now : Caches)
    (before : List Int) :
    (∃ code message default, messageIds chatId allowEmpty messageType messages before = failQueryWithError code message default) ∨
      ∃ rest, messageIds chatId allowEmpty messageType messages before = succeed (chatId, before ++ rest) ∧
        FoundMessages chatId ids allowEmpty (addMessages allowEmpty now messages) rest := by
  induction matched generalizing now before with
  | nil =>
      refine .inr ⟨[], by rw [List.append_nil]; rfl, List.Sublist.refl _, fun _ => rfl, fun _ member => nomatch member⟩
  | @cons messageId message ids messages answered matched ih =>
      cases message with
      | none =>
          cases allowEmpty with
          | false => exact .inl ⟨_, _, _, rfl⟩
          | true =>
              refine (ih now before).imp_right ?_
              rintro ⟨rest, same, found⟩
              exact ⟨rest, same, found.asked.cons messageId, fun other => (nomatch other), found.cached⟩
      | some message =>
          obtain ⟨sameChat, sameMessage, _⟩ := answered message rfl
          have here : messageIds chatId allowEmpty messageType (some message :: messages) before =
              messageIds chatId allowEmpty messageType messages (before ++ [messageId]) := by
            rw [messageIds, sameMessage, RequestChecks.require, if_pos (decide_eq_true sameChat)]
          rw [here]
          refine (ih (addMessage now message) (before ++ [messageId])).imp_right ?_
          rintro ⟨rest, same, found⟩
          refine ⟨messageId :: rest, ?_, found.asked.cons_cons messageId, fun all => by rw [found.complete all], ?_⟩
          · rw [same, List.append_assoc]
            rfl
          · intro other member
            rcases List.mem_cons.1 member with rfl | inside
            · have cached := cached_added now message
              rw [sameChat, sameMessage] at cached
              exact add_messages_cached allowEmpty messages _ chatId other cached
            · exact found.cached other inside

structure MessagesChecked (text : String) (rights : AccessRights) (messageIds : List Int) (allowEmpty : Bool)
    (past : List Caches) (now : Caches) (found : Int × List Int) : Prop where
  chat : Granted resolves toInteger text rights false past now found.1
  readable : Sometime (Readable found.1) past now
  messages : FoundMessages found.1 messageIds allowEmpty now found.2 ∨ allowEmpty = true ∧ found.2 = []

theorem check_messages_meets (text : String) (ids : List Int) (allowEmpty : Bool) (rights : AccessRights)
    (messageType : String) (now : Caches) (member : (text, rights) ∈ asked) (consistent : Consistent now) :
    Meets (tdlib resolves)
      (Judged (MessagesChecked resolves toInteger text rights ids allowEmpty) (Refused resolves toInteger asked)) [] now
      (checkMessages toInteger text ids allowEmpty rights messageType now) := by
  refine meets_on_success resolves (Granted resolves toInteger text rights false) _ _ _ [] now _
    (timeline_start _ now consistent) (check_chat_meets resolves toInteger asked text rights false [] now member consistent) ?_
  intro more later chatId line _ granted
  refine have_message_access_meets resolves _ chatId more later _ line.inv
    (known_or_positive resolves toInteger text rights false more later chatId line granted) (fun readable => ?_)
    (fun _ => trivial)
  rw [Bool.not_true, if_neg Bool.false_ne_true]
  intro last answer kept waited answered
  have still (after : Caches) : Granted resolves toInteger text rights false (later :: more) after chatId ∧
      Sometime (Readable chatId) (later :: more) after := by
    have longer : (later :: more) <:+ (after :: later :: more) := List.suffix_cons _ _
    exact ⟨granted_later resolves toInteger text rights false more _ later after _ longer granted,
      sometime_later _ more _ later after longer (sometime_now _ more later readable)⟩
  cases answer with
  | error code message =>
      refine ⟨kept, fun _ => id, ?_⟩
      rw [onCheckMessages]
      split
      · rename_i empty
        exact ⟨(still _).1, (still _).2, .inr ⟨empty, rfl⟩⟩
      · exact trivial
  | messages messages =>
      have server := server_of_answered chatId ids messages answered
      refine ⟨add_messages_consistent allowEmpty messages last server kept, ?_, ?_⟩
      · intro other known
        show ((addMessages allowEmpty last messages).chats.lookup other).isSome = true
        rw [add_messages_chats]
        exact known
      · rw [onCheckMessages]
        rcases message_ids_found chatId allowEmpty messageType ids messages answered last [] with
          ⟨code, message, default, same⟩ | ⟨found, same, isFound⟩
        · rw [same]
          exact trivial
        · rw [same]
          exact ⟨(still _).1, (still _).2, .inl isFound⟩
  | chat | user | message | forumTopic | businessConnection => exact answered.elim

def CommandScope.inChat (chatId userId : Int) : CommandScope → CommandScope
  | .chat _ => .chat chatId
  | .chatAdministrators _ => .chatAdministrators chatId
  | .chatMember _ _ => .chatMember chatId userId
  | scope => scope

inductive Division where
  | undivided | forumTopics | directMessages
deriving DecidableEq

def division (chatId : Int) (now : Caches) : Division :=
  match (now.chats.lookup chatId).map ChatInfo.type with
  | some (.privateChat _) => .forumTopics
  | some (.supergroup supergroupId) =>
      match now.supergroups.lookup supergroupId with
      | some supergroup =>
          if supergroup.isDirectMessages then .directMessages else if supergroup.isForum then .forumTopics else .undivided
      | none => .undivided
  | _ => .undivided

-- The topic a message is sent to is one that was asked for, in a chat that has
-- such topics; it is left out only where there are none.
def TopicChosen (forumTopicId directMessagesTopicId chatId : Int) (past : List Caches) (now : Caches) :
    Option MessageTopic → Prop
  | none =>
      (forumTopicId = 0 ∨ Sometime (fun moment => division chatId moment ≠ .forumTopics) past now) ∧
        (directMessagesTopicId = 0 ∨ Sometime (fun moment => division chatId moment ≠ .directMessages) past now)
  | some (.forum topicId) =>
      topicId = forumTopicId ∧ forumTopicId ≠ 0 ∧ Sometime (fun moment => division chatId moment = .forumTopics) past now
  | some (.directMessages topicId) =>
      topicId = directMessagesTopicId ∧ Sometime (fun moment => division chatId moment = .directMessages) past now
  | some _ => False

theorem topic_chosen_later (forumTopicId directMessagesTopicId chatId : Int) (past more : List Caches) (now later : Caches)
    (topicId : Option MessageTopic) (longer : (now :: past) <:+ (later :: more))
    (chosen : TopicChosen forumTopicId directMessagesTopicId chatId past now topicId) :
    TopicChosen forumTopicId directMessagesTopicId chatId more later topicId := by
  match topicId, chosen with
  | none, chosen =>
      exact ⟨chosen.1.imp_right (sometime_later _ past more now later longer),
        chosen.2.imp_right (sometime_later _ past more now later longer)⟩
  | some (.forum _), chosen => exact ⟨chosen.1, chosen.2.1, sometime_later _ past more now later longer chosen.2.2⟩
  | some (.directMessages _), chosen => exact ⟨chosen.1, sometime_later _ past more now later longer chosen.2⟩

structure TopicChecked (text : String) (forumTopicId directMessagesTopicId : Int) (allowUnknownUser : Bool)
    (past : List Caches) (now : Caches) (inTopic : InTopic) : Prop where
  chat : Granted resolves toInteger text .write (allowUnknownUser && decide (forumTopicId = 0)) past now inTopic.1
  topic : TopicChosen forumTopicId directMessagesTopicId inTopic.1 past now inTopic.2

theorem topic_checked_later (text : String) (forumTopicId directMessagesTopicId : Int) (allowUnknownUser : Bool)
    (past more : List Caches) (now later : Caches) (inTopic : InTopic) (longer : (now :: past) <:+ (later :: more))
    (checked : TopicChecked resolves toInteger text forumTopicId directMessagesTopicId allowUnknownUser past now inTopic) :
    TopicChecked resolves toInteger text forumTopicId directMessagesTopicId allowUnknownUser more later inTopic :=
  ⟨granted_later resolves toInteger text .write _ past more now later _ longer checked.chat,
    topic_chosen_later forumTopicId directMessagesTopicId _ past more now later _ longer checked.topic⟩

theorem ask_forum_topic_meets (text : String) (forumTopicId directMessagesTopicId : Int) (allowUnknownUser : Bool)
    (past : List Caches) (now : Caches) (chatId : Int) (timeline : Timeline (tdlib resolves) past now)
    (checked : TopicChecked resolves toInteger text forumTopicId directMessagesTopicId allowUnknownUser past now
      (chatId, some (.forum forumTopicId))) :
    Meets (tdlib resolves)
      (Judged (TopicChecked resolves toInteger text forumTopicId directMessagesTopicId allowUnknownUser)
        (Refused resolves toInteger asked)) past now
      (.ask (.getForumTopic chatId forumTopicId) (fun now _ => now) (onCheckForumTopic chatId forumTopicId)) := by
  intro later answer kept waited answered
  refine ⟨kept, fun _ => id, ?_⟩
  have line := timeline_absorbed (tdlib resolves) past now later later timeline waited kept (fun _ => id)
  cases answer with
  | error code message => exact trivial
  | forumTopic inChat topic =>
      obtain ⟨sameChat, sameTopic⟩ := answered
      refine meets_require resolves _ _ _ _ _ _ (decide_eq_true sameChat) ?_
      refine meets_require resolves _ _ _ _ _ _ (decide_eq_true sameTopic) ?_
      dsimp only
      split
      · refine meets_on_success resolves (fun _ _ found => found.1 = chatId) _ _ _ _ later
          (.ask (.getMessage chatId (asTdlibMessageId forumTopicId)) absorbMessage _) line ?_ ?_
        · refine meets_judged resolves _ _ _ _ later _ line
            (ask_message_meets resolves toInteger asked chatId _ true "top forum topic message" _ later) ?_
          exact fun _ _ _ _ found => found.1
        · rintro more last ⟨_, found⟩ _ longer rfl
          exact topic_checked_later resolves toInteger text _ _ _ past more now last _
            ((List.suffix_cons _ _).trans longer) checked
      · exact topic_checked_later resolves toInteger text _ _ _ past _ now later _ (List.suffix_cons _ _) checked
  | chat | user | message | messages | businessConnection => exact answered.elim

theorem choose_topic_meets (text : String) (forumTopicId directMessagesTopicId : Int) (allowUnknownUser : Bool)
    (past : List Caches) (now : Caches) (chatId : Int) (timeline : Timeline (tdlib resolves) past now)
    (granted : Granted resolves toInteger text .write (allowUnknownUser && decide (forumTopicId = 0)) past now chatId) :
    Meets (tdlib resolves)
      (Judged (TopicChecked resolves toInteger text forumTopicId directMessagesTopicId allowUnknownUser)
        (Refused resolves toInteger asked)) past now
      (chooseTopic forumTopicId directMessagesTopicId allowUnknownUser now chatId) := by
  have without (threads : division chatId now ≠ .forumTopics ∨ forumTopicId = 0)
    (direct : division chatId now ≠ .directMessages) :
      Meets (tdlib resolves)
        (Judged (TopicChecked resolves toInteger text forumTopicId directMessagesTopicId allowUnknownUser)
          (Refused resolves toInteger asked)) past now (succeed (chatId, none)) :=
    ⟨granted, threads.symm.imp_right (sometime_now _ past now), .inr (sometime_now _ past now direct)⟩
  have ask (threads : division chatId now = .forumTopics) :
      Meets (tdlib resolves)
        (Judged (TopicChecked resolves toInteger text forumTopicId directMessagesTopicId allowUnknownUser)
          (Refused resolves toInteger asked)) past now
        (if forumTopicId ≠ 0 then
          .ask (.getForumTopic chatId forumTopicId) (fun now _ => now) (onCheckForumTopic chatId forumTopicId)
        else succeed (chatId, none)) := by
    split
    · rename_i wanted
      exact ask_forum_topic_meets resolves toInteger asked text forumTopicId directMessagesTopicId allowUnknownUser past now
        chatId timeline ⟨granted, rfl, wanted, sometime_now _ past now threads⟩
    · rename_i unwanted
      exact without (.inr (not_not.1 unwanted)) (by rw [threads]; decide)
  unfold chooseTopic
  dsimp only
  split
  · rename_i plain
    exact ⟨granted, .inl plain.1, .inl plain.2⟩
  · cases found : now.chats.lookup chatId with
    | none =>
        rcases known_of_granted resolves toInteger text .write _ past now chatId timeline granted with known | ⟨unknown, _⟩
        · rw [ChatKnown, found] at known
          cases known
        · rw [Bool.and_eq_true, decide_eq_true_eq] at unknown
          refine meets_require resolves _ _ _ _ past now unknown.1 (without (.inr unknown.2) ?_)
          simp [division, found]
    | some chat =>
        have known := (timeline.inv.chats chatId chat found).2
        rw [Option.map_some]
        cases type : chat.type with
        | privateChat userId => exact ask (by simp [division, found, type])
        | group groupId => exact without (.inl (by simp [division, found, type])) (by simp [division, found, type])
        | unknown => exact without (.inl (by simp [division, found, type])) (by simp [division, found, type])
        | supergroup supergroupId =>
            rw [type] at known
            refine meets_found resolves _ _ _ _ past now known fun supergroup present => ?_
            split
            · rename_i direct
              refine ⟨granted, rfl, sometime_now _ past now ?_⟩
              simp [division, found, type, present, direct]
            · rename_i plain
              split
              · rename_i forum
                split
                · exact refused_bad_request resolves toInteger asked _ past now _
                · exact ask (by simp [division, found, type, present, plain, forum])
              · rename_i undivided
                exact without (.inl (by simp [division, found, type, present, plain, undivided]))
                  (by simp [division, found, type, present, plain, undivided])

theorem check_message_topic_meets (text : String) (forumTopicId directMessagesTopicId : Int) (allowUnknownUser : Bool)
    (now : Caches) (member : (text, .write) ∈ asked) (consistent : Consistent now) :
    Meets (tdlib resolves)
      (Judged (TopicChecked resolves toInteger text forumTopicId directMessagesTopicId allowUnknownUser)
        (Refused resolves toInteger asked)) [] now
      (checkMessageTopic toInteger text forumTopicId directMessagesTopicId allowUnknownUser now) := by
  refine meets_on_success resolves _ _ _ _ [] now _ (timeline_start _ now consistent)
    (check_chat_meets resolves toInteger asked text .write _ [] now member consistent) ?_
  intro more later chatId line _ granted
  exact choose_topic_meets resolves toInteger asked text forumTopicId directMessagesTopicId allowUnknownUser more later chatId
    line granted

def SameTopic (replyTopicId topicId : Option MessageTopic) : Prop :=
  match topicId with
  | some (.forum forumTopicId) =>
      (∃ messageThreadId, replyTopicId = some (.thread messageThreadId) ∧ asClientMessageId messageThreadId = forumTopicId) ∨
        replyTopicId = some (.forum forumTopicId) ∧ forumTopicId ≠ generalForumTopicId
  | _ => True

theorem reply_topic_meets {β : Type} (post : List Caches → Caches → Except Refusal β → Prop) (past : List Caches)
    (now : Caches) (next : Bool → Checks β) (replyTopicId topicId : Option MessageTopic)
    (forumTopicId directMessagesTopicId chatId : Int) (server : ServerTopic replyTopicId)
    (chosen : TopicChosen forumTopicId directMessagesTopicId chatId past now topicId)
    (same : SameTopic replyTopicId topicId → Meets (tdlib resolves) post past now (next true))
    (different : ¬ SameTopic replyTopicId topicId → Meets (tdlib resolves) post past now (next false)) :
    Meets (tdlib resolves) post past now (isReplyInSameTopic replyTopicId topicId next) := by
  have judged (holds : Bool) (exact : holds = true ↔ SameTopic replyTopicId topicId) :
      Meets (tdlib resolves) post past now (next holds) := by
    cases holds with
    | true => exact same (exact.1 rfl)
    | false => exact different (fun held => nomatch exact.2 held)
  match topicId, chosen with
  | none, _ => exact same trivial
  | some (.directMessages _), _ => exact same trivial
  | some (.forum wanted), chosen =>
      have nonzero : wanted ≠ 0 := chosen.1 ▸ chosen.2.1
      cases replyTopicId with
      | none => exact judged _ (by simp [SameTopic, Ne.symm nonzero])
      | some replyTopic =>
          cases replyTopic with
          | thread messageThreadId =>
              refine meets_require resolves _ _ _ _ past now (decide_eq_true server) (judged _ ?_)
              simp [SameTopic]
          | forum forumTopic =>
              refine judged _ ?_
              by_cases general : forumTopic = generalForumTopicId
              · simp [SameTopic, general, Ne.symm nonzero]
                exact fun same => same.symm
              · simp [SameTopic, general]
                exact fun same => same ▸ general
          | directMessages directMessagesTopic => exact judged _ (by simp [SameTopic, Ne.symm nonzero])
          | savedMessages => exact judged _ (by simp [SameTopic, Ne.symm nonzero])

-- The chat a reply is in: the one the message goes to, or another one that is
-- named and may be read.
def ReplyChat (text : String) (reply : InputReplyParameters) (chatId : Int) (past : List Caches) (now : Caches)
    (replyInChatId : Int) : Prop :=
  if otherChat text reply = "" then replyInChatId = chatId
  else Granted resolves toInteger (otherChat text reply) .read false past now replyInChatId

structure ReplyMessage (text : String) (reply : InputReplyParameters) (chatId : Int) (past : List Caches) (now : Caches)
    (replyInChatId messageId : Int) (details : ReplyDetails) : Prop where
  chat : ReplyChat resolves toInteger text reply chatId past now replyInChatId
  readable : Sometime (Readable replyInChatId) past now
  asked : messageId = reply.replyToMessageId ∧ 0 < messageId ∧ details = reply.details

def ReplyChosen (text : String) (reply : InputReplyParameters) (chatId : Int) (topicId : Option MessageTopic)
    (past : List Caches) (now : Caches) : Option InputMessageReplyTo → Prop
  | none => reply.replyToEphemeralMessageId ≤ 0 ∧ (reply.replyToMessageId ≤ 0 ∨ reply.allowSendingWithoutReply = true)
  | some (.ephemeralMessage id) => id = reply.replyToEphemeralMessageId ∧ 0 < id
  | some (.message messageId details) => ReplyMessage resolves toInteger text reply chatId past now chatId messageId details ∧
      ∃ message, now.messages.lookup (chatId, messageId) = some message ∧ SameTopic message.topicId topicId
  | some (.externalMessage replyInChatId messageId details) =>
      ReplyMessage resolves toInteger text reply chatId past now replyInChatId messageId details ∧
        ∃ message, now.messages.lookup (replyInChatId, messageId) = some message ∧
          (replyInChatId = chatId → ¬ SameTopic message.topicId topicId)

structure SendChecked (text : String) (reply : InputReplyParameters) (forumTopicId directMessagesTopicId : Int)
    (allowUnknownUser : Bool) (past : List Caches) (now : Caches) (destination : Destination) : Prop where
  place : TopicChecked resolves toInteger text forumTopicId directMessagesTopicId allowUnknownUser past now
    (destination.chatId, destination.topicId)
  reply : ReplyChosen resolves toInteger text reply destination.chatId destination.topicId past now destination.replyTo

theorem nonzero_of_known (now : Caches) (chatId : Int) (consistent : Consistent now) (known : ChatKnown now chatId) :
    chatId ≠ 0 := by
  obtain ⟨chat, found⟩ := Option.isSome_iff_exists.1 known
  exact (consistent.chats chatId chat found).1

theorem nonzero_of_readable (past : List Caches) (now : Caches) (chatId : Int) (timeline : Timeline (tdlib resolves) past now)
    (readable : Sometime (Readable chatId) past now) : chatId ≠ 0 := by
  obtain ⟨moment, member, positive | ⟨chat, found, _⟩⟩ := readable
  · omega
  · refine nonzero_of_known moment chatId (timeline_mem (tdlib resolves) past now timeline moment member).1 ?_
    rw [ChatKnown, found]
    rfl

theorem reply_message_meets (text : String) (reply : InputReplyParameters) (forumTopicId directMessagesTopicId : Int)
    (allowUnknownUser : Bool) (past : List Caches) (now : Caches) (inTopic : InTopic) (replyInChatId : Int)
    (found : Int × Int) (timeline : Timeline (tdlib resolves) past now) (positive : 0 < reply.replyToMessageId)
    (noEphemeral : reply.replyToEphemeralMessageId ≤ 0)
    (checked : TopicChecked resolves toInteger text forumTopicId directMessagesTopicId allowUnknownUser past now inTopic)
    (chat : ReplyChat resolves toInteger text reply inTopic.1 past now replyInChatId)
    (readable : Sometime (Readable replyInChatId) past now) (sameChat : found.1 = replyInChatId)
    (isFound : FoundMessage reply.replyToMessageId reply.allowSendingWithoutReply now found) :
    Meets (tdlib resolves)
      (Judged (SendChecked resolves toInteger text reply forumTopicId directMessagesTopicId allowUnknownUser)
        (Refused resolves toInteger asked)) past now (onReplyMessageResolved inTopic reply.details now found) := by
  obtain ⟨foundChat, foundMessage⟩ := found
  obtain rfl : replyInChatId = foundChat := sameChat.symm
  rcases isFound with ⟨rfl, cached⟩ | ⟨rfl, tolerated⟩
  · obtain ⟨message, present⟩ := Option.isSome_iff_exists.1 cached
    have replied : ReplyMessage resolves toInteger text reply inTopic.1 past now replyInChatId reply.replyToMessageId
        reply.details := ⟨chat, readable, rfl, positive, rfl⟩
    have nonzero := nonzero_of_readable resolves past now replyInChatId timeline readable
    have external (different : replyInChatId = inTopic.1 → ¬ SameTopic message.topicId inTopic.2) :
        Meets (tdlib resolves)
          (Judged (SendChecked resolves toInteger text reply forumTopicId directMessagesTopicId allowUnknownUser)
            (Refused resolves toInteger asked)) past now
          (sendTo inTopic { replyInChatId, replyToMessageId := reply.replyToMessageId, details := reply.details }) := by
      refine ⟨checked, ?_⟩
      rw [getInputMessageReplyTo, if_neg (lt_irrefl 0), if_pos positive, if_pos nonzero]
      exact ⟨replied, message, present, different⟩
    unfold onReplyMessageResolved
    dsimp only
    rw [if_neg (not_le.2 positive)]
    split
    · rename_i sameChat
      have gotten : getMessage replyInChatId reply.replyToMessageId true now = some message := by
        rw [getMessage, if_neg positive.ne', present]
        rfl
      refine meets_found resolves _ _ _ _ past now (by rw [gotten]; rfl) fun other again => ?_
      cases gotten.symm.trans again
      refine reply_topic_meets resolves _ past now _ _ _ forumTopicId directMessagesTopicId inTopic.1
        (timeline.inv.topics _ message present) checked.topic (fun sameTopic => ?_) (fun different => external fun _ => different)
      refine ⟨checked, ?_⟩
      rw [getInputMessageReplyTo, if_neg (lt_irrefl 0), if_pos positive, if_neg (not_not.2 rfl)]
      cases sameChat
      exact ⟨replied, message, present, sameTopic⟩
    · rename_i otherChat
      exact external fun same => absurd same otherChat
  · refine ⟨checked, ?_⟩
    exact ⟨noEphemeral, .inr tolerated⟩

theorem reply_chat_meets (text : String) (reply : InputReplyParameters) (forumTopicId directMessagesTopicId : Int)
    (allowUnknownUser : Bool) (past : List Caches) (now : Caches) (inTopic : InTopic) (replyInChatId : Int)
    (timeline : Timeline (tdlib resolves) past now) (positive : 0 < reply.replyToMessageId)
    (noEphemeral : reply.replyToEphemeralMessageId ≤ 0)
    (checked : TopicChecked resolves toInteger text forumTopicId directMessagesTopicId allowUnknownUser past now inTopic)
    (chat : ReplyChat resolves toInteger text reply inTopic.1 past now replyInChatId)
    (known : ChatKnown now replyInChatId ∨ 0 < replyInChatId) :
    Meets (tdlib resolves)
      (Judged (SendChecked resolves toInteger text reply forumTopicId directMessagesTopicId allowUnknownUser)
        (Refused resolves toInteger asked)) past now (onReplyChatResolved inTopic reply now replyInChatId) := by
  refine have_message_access_meets resolves _ replyInChatId past now _ timeline.inv known (fun readable => ?_) (fun _ => trivial)
  refine meets_on_success resolves _ _ _ _ past now
    (.ask (.getMessage replyInChatId reply.replyToMessageId) absorbMessage _) timeline
    (ask_message_meets resolves toInteger asked replyInChatId reply.replyToMessageId reply.allowSendingWithoutReply
      "message to be replied" past now) ?_
  rintro more later found line longer ⟨sameChat, isFound⟩
  refine reply_message_meets resolves toInteger asked text reply forumTopicId directMessagesTopicId allowUnknownUser more later
    inTopic replyInChatId found line positive noEphemeral
    (topic_checked_later resolves toInteger text _ _ _ past more now later _ longer checked) ?_
    (sometime_later _ past more now later longer (sometime_now _ past now readable)) sameChat isFound
  unfold ReplyChat at chat ⊢
  split
  · rename_i here
    rwa [if_pos here] at chat
  · rename_i other
    rw [if_neg other] at chat
    exact granted_later resolves toInteger _ .read false past more now later _ longer chat

def askedToSend (text : String) (reply : InputReplyParameters) : List (String × AccessRights) :=
  [(text, .write), (otherChat text reply, .read)]

theorem check_reply_parameters_meets (text : String) (reply : InputReplyParameters) (forumTopicId directMessagesTopicId : Int)
    (allowUnknownUser : Bool) (now : Caches) (consistent : Consistent now) :
    Meets (tdlib resolves)
      (Judged (SendChecked resolves toInteger text reply forumTopicId directMessagesTopicId allowUnknownUser)
        (Refused resolves toInteger (askedToSend text reply))) [] now
      (checkReplyParameters toInteger text reply forumTopicId directMessagesTopicId allowUnknownUser now) := by
  refine meets_on_success resolves _ _ _ _ [] now _ (timeline_start _ now consistent)
    (check_message_topic_meets resolves toInteger (askedToSend text reply) text forumTopicId directMessagesTopicId
      allowUnknownUser now List.mem_cons_self consistent) ?_
  intro more later inTopic line _ checked
  unfold resolveReply
  split
  · rename_i ephemeral
    refine ⟨checked, ?_⟩
    rw [getInputMessageReplyTo, if_pos ephemeral]
    exact ⟨rfl, ephemeral⟩
  · rename_i noEphemeral
    split
    · rename_i missing
      exact ⟨checked, not_lt.1 noEphemeral, .inl missing⟩
    · rename_i asked
      have resolve := reply_chat_meets resolves toInteger (askedToSend text reply) text reply forumTopicId
        directMessagesTopicId allowUnknownUser
      split
      · rename_i here
        refine resolve more later inTopic inTopic.1 line (not_le.1 asked) (not_lt.1 noEphemeral) checked ?_
          (known_or_positive resolves toInteger text .write _ more later _ line checked.chat)
        rw [ReplyChat, if_pos here]
      · rename_i other
        refine meets_on_success resolves _ _ _ _ more later _ line
          (check_chat_meets resolves toInteger (askedToSend text reply) (otherChat text reply) .read false more later
            (by simp [askedToSend]) line.inv) ?_
        intro rest last replyInChatId next longer granted
        refine resolve rest last inTopic replyInChatId next (not_le.1 asked) (not_lt.1 noEphemeral)
          (topic_checked_later resolves toInteger text _ _ _ more rest later last _ longer checked) ?_
          (known_or_positive resolves toInteger _ .read _ rest last _ next granted)
        rwa [ReplyChat, if_neg other]

theorem bot_command_scope_named (getRequiredLongField : JsonObject → String → Result Int) (value : JsonValue) :
    Checked.Meets (fun _ => True) (fun scope : BotCommandScope => scope.scope.namesChat = true → scope.chatId ≠ "")
      (getBotCommandScope getRequiredLongField value) := by
  cases value with
  | object object =>
      rw [getBotCommandScope]
      refine meets_read _ _ _ fun type => ?_
      by_cases inChat : type = "chat" ∨ type = "chat_administrators" ∨ type = "chat_member"
      · have named : ¬ (type ≠ "chat" ∧ type ≠ "chat_administrators" ∧ type ≠ "chat_member") := by tauto
        have others : type ≠ "default" ∧ type ≠ "all_private_chats" ∧ type ≠ "all_group_chats" ∧
            type ≠ "all_chat_administrators" := by
          rcases inChat with rfl | rfl | rfl <;> decide
        rw [if_neg others.1, if_neg others.2.1, if_neg others.2.2.1, if_neg others.2.2.2, if_neg named]
        refine meets_read _ _ _ fun chatId => ?_
        split
        · exact trivial
        · rename_i nonempty
          split
          · exact fun _ => nonempty
          · split
            · exact fun _ => nonempty
            · refine meets_read _ _ _ fun userId => ?_
              split
              · exact trivial
              · exact fun _ => nonempty
      · have unnamed : type ≠ "chat" ∧ type ≠ "chat_administrators" ∧ type ≠ "chat_member" := by tauto
        rw [if_pos unnamed]
        split
        · exact fun named => nomatch named
        · split
          · exact fun named => nomatch named
          · split
            · exact fun named => nomatch named
            · split
              · exact fun named => nomatch named
              · exact trivial
  | _ => exact trivial

def ScopeChecked (scope : BotCommandScope) (past : List Caches) (now : Caches) (passed : CommandScope) : Prop :=
  if scope.chatId = "" then passed = scope.scope
  else ∃ chatId, Granted resolves toInteger scope.chatId .readMembers false past now chatId ∧
    passed = CommandScope.inChat chatId scope.userId scope.scope

theorem check_bot_command_scope_meets (scope : BotCommandScope) (now : Caches) (consistent : Consistent now) :
    Meets (tdlib resolves)
      (Judged (ScopeChecked resolves toInteger scope) (Refused resolves toInteger [(scope.chatId, .readMembers)])) [] now
      (checkBotCommandScope toInteger scope now) := by
  by_cases empty : scope.chatId = ""
  · rw [checkBotCommandScope, if_pos empty]
    show ScopeChecked resolves toInteger scope [] now scope.scope
    rw [ScopeChecked, if_pos empty]
  · rw [checkBotCommandScope, if_neg empty]
    refine meets_on_success resolves _ _ _ _ [] now _ (timeline_start _ now consistent)
      (check_chat_meets resolves toInteger _ scope.chatId .readMembers false [] now List.mem_cons_self consistent) ?_
    intro more later chatId line _ granted
    have passes (rest : List Caches) (last : Caches) (longer : (later :: more) <:+ (last :: rest)) :
        ScopeChecked resolves toInteger scope rest last (CommandScope.inChat chatId scope.userId scope.scope) := by
      rw [ScopeChecked, if_neg empty]
      exact ⟨chatId, granted_later resolves toInteger _ _ false more rest later last chatId longer granted, rfl⟩
    have namesChat := scope.named empty
    unfold scopeInChat
    cases kind : scope.scope with
    | chat other =>
        rw [kind] at passes
        exact passes more later List.suffix_rfl
    | chatAdministrators other =>
        rw [kind] at passes
        exact passes more later List.suffix_rfl
    | chatMember other userId =>
        rw [kind] at passes
        dsimp only
        unfold checkUserNoFail
        split
        · exact passes more later List.suffix_rfl
        · intro last answer kept waited answered
          exact ⟨kept, fun _ => id, passes _ last (List.suffix_cons _ _)⟩
    | default | allPrivateChats | allGroupChats | allChatAdministrators =>
        rw [kind] at namesChat
        cases namesChat

def BusinessChecked (connectionId chatIdText : String) (now : Caches) (checked : String × Int) : Prop :=
  checked.1 = connectionId ∧ toIntegerSafe chatIdText = some checked.2 ∧
    (now.businessConnections.lookup connectionId).isSome = true

theorem check_business_connection_meets (connectionId chatIdText : String) (now : Caches) (consistent : Consistent now) :
    Meets (tdlib resolves)
      (Judged (fun _ now checked => BusinessChecked toIntegerSafe connectionId chatIdText now checked)
        (Refused resolves toInteger [])) [] now
      (checkBusinessConnectionChatId toIntegerSafe connectionId chatIdText now) := by
  unfold checkBusinessConnectionChatId getBusinessConnectionChatId
  by_cases empty : chatIdText = ""
  · rw [if_pos empty]
    exact trivial
  · rw [if_neg empty]
    cases number : toIntegerSafe chatIdText with
    | none => exact trivial
    | some chatId =>
        dsimp only
        cases found : now.businessConnections.lookup connectionId with
        | some connection =>
            exact ⟨consistent.connections connectionId connection found, number, by rw [found]; rfl⟩
        | none =>
            intro later answer kept waited answered
            cases answer with
            | error code message => exact ⟨kept, fun _ => id, trivial⟩
            | businessConnection connection =>
                have same : connection.id = connectionId := answered
                show Consistent (addBusinessConnection later connection) ∧ _
                have added : Consistent (addBusinessConnection later connection) ∧
                    KeepsChats later (addBusinessConnection later connection) ∧
                    ((addBusinessConnection later connection).businessConnections.lookup connectionId).isSome = true := by
                  unfold addBusinessConnection
                  split
                  · rename_i present
                    rw [same] at present
                    exact ⟨kept, fun _ => id, present⟩
                  · refine ⟨consistent_connection later connection kept, fun _ => id, ?_⟩
                    rw [lookup_insert, if_pos same.symm]
                    rfl
                exact ⟨added.1, added.2.1, same, number, added.2.2⟩
            | chat | user | message | messages | forumTopic => exact answered.elim

def Established : Command → List Caches → Caches → Passed → Prop
  | .chat text rights, past, now, .chat chatId => Granted resolves toInteger text rights false past now chatId
  | .message text messageId allowEmpty rights _, past, now, .message found =>
      MessageChecked resolves toInteger text rights messageId allowEmpty past now found
  | .messages text messageIds allowEmpty rights _, past, now, .messages found =>
      MessagesChecked resolves toInteger text rights messageIds allowEmpty past now found
  | .send text reply forumTopicId directMessagesTopicId allowUnknownUser, past, now, .send destination =>
      SendChecked resolves toInteger text reply forumTopicId directMessagesTopicId allowUnknownUser past now destination
  | .botCommands scope, past, now, .botCommands passed => ScopeChecked resolves toInteger scope past now passed
  | .business connectionId chatIdText, _, now, .business checked =>
      BusinessChecked toIntegerSafe connectionId chatIdText now checked
  | _, _, _, _ => False

def asks : Command → List (String × AccessRights)
  | .chat text rights | .message text _ _ rights _ | .messages text _ _ rights _ => [(text, rights)]
  | .send text reply _ _ _ => askedToSend text reply
  | .botCommands scope => [(scope.chatId, .readMembers)]
  | .business _ _ => []

def Justified (command : Command) : List Caches → Caches → Except Refusal Passed → Prop :=
  Judged (Established resolves toInteger toIntegerSafe command) (Refused resolves toInteger (asks command))

theorem begin_meets (command : Command) (now : Caches) (consistent : Consistent now) :
    Meets (tdlib resolves) (Justified resolves toInteger toIntegerSafe command) [] now
      (begin toInteger toIntegerSafe command now) := by
  have line := timeline_start (tdlib resolves) now consistent
  cases command with
  | chat text rights =>
      exact meets_on_success resolves _ _ _ _ [] now _ line
        (check_chat_meets resolves toInteger _ text rights false [] now List.mem_cons_self consistent)
        (fun _ _ _ _ _ held => held)
  | message text messageId allowEmpty rights messageType =>
      exact meets_on_success resolves _ _ _ _ [] now _ line
        (check_message_meets resolves toInteger _ text messageId allowEmpty rights messageType now List.mem_cons_self consistent)
        (fun _ _ _ _ _ held => held)
  | messages text ids allowEmpty rights messageType =>
      exact meets_on_success resolves _ _ _ _ [] now _ line
        (check_messages_meets resolves toInteger _ text ids allowEmpty rights messageType now List.mem_cons_self consistent)
        (fun _ _ _ _ _ held => held)
  | send text reply forumTopicId directMessagesTopicId allowUnknownUser =>
      exact meets_on_success resolves _ _ _ _ [] now _ line
        (check_reply_parameters_meets resolves toInteger text reply forumTopicId directMessagesTopicId allowUnknownUser now
          consistent)
        (fun _ _ _ _ _ held => held)
  | botCommands scope =>
      exact meets_on_success resolves _ _ _ _ [] now _ line
        (check_bot_command_scope_meets resolves toInteger scope now consistent) (fun _ _ _ _ _ held => held)
  | business connectionId chatIdText =>
      exact meets_on_success resolves _ _ _ _ [] now _ line
        (check_business_connection_meets resolves toInteger toIntegerSafe connectionId chatIdText now consistent)
        (fun _ _ _ _ _ held => held)

abbrev Requests := Pool Caches Request Answer Check Command (Except Refusal Passed)

def requests : Transition.Machine Requests (Event Update Answer Command) Check :=
  machine (tdlib resolves) (begin toInteger toIntegerSafe)

theorem requests_checked_concurrently :
    Transition.Safe (requests resolves toInteger toIntegerSafe) Transition.unrestricted ∧
      ∀ pool, Transition.Reach (requests resolves toInteger toIntegerSafe) Transition.unrestricted pool →
        (pool.jobs.map Job.start ++ pool.finished.map Finished.start).Perm pool.started ∧
          ∀ job ∈ pool.finished,
            Justified resolves toInteger toIntegerSafe job.start job.past job.last job.result := by
  have begins := begin_meets resolves toInteger toIntegerSafe
  refine ⟨pool_safe (tdlib resolves) _ _ begins, fun pool reached => ?_⟩
  have sound := pool_sound (tdlib resolves) _ _ begins pool reached
  exact ⟨sound.kept, fun job member => (sound.finished job member).2⟩

end Soundness

-- The bot is removed from a supergroup while the message that it answers is
-- asked for: that request is still carried out, and the next one is refused.
section Removed

def supergroupChat : Int := -1000000000005

def supergroupOf (status : ChatMemberStatus) : SupergroupInfo := ⟨[], status, true, false, false, false⟩

def joinedCaches : Caches where
  supergroups := (∅ : Table Int SupergroupInfo).insert 5 (supergroupOf .member)
  chats := (∅ : Table Int ChatInfo).insert supergroupChat ⟨.supergroup 5, "Readers"⟩

def readChat (text : String) : Int := if text = "-1000000000005" then supergroupChat else 0

def answering : Command :=
  .send "-1000000000005" { replyToMessageId := asTdlibMessageId 7 } 0 0 false

def answeredMessage : Message := ⟨supergroupChat, asTdlibMessageId 7, ⟨none, false⟩⟩

def removedEvents : List (Event Update Answer Command) :=
  [.start answering, .update (.supergroup 5 (supergroupOf .banned)), .start (.chat "-1000000000005" .write),
    .answer 0 (.message answeredMessage)]

def removedPool : Requests :=
  match removedEvents.foldlM (Suspended.step (tdlib fun _ _ => False) (begin readChat fun _ => none))
      ⟨joinedCaches, [], [], []⟩ with
  | .ok pool => pool
  | .error _ => ⟨joinedCaches, [], [], []⟩

theorem joined_consistent : Consistent joinedCaches := by
  refine ⟨fun chatId chat found => ?_, fun key message found => (nomatch found), fun id connection found => (nomatch found)⟩
  exact of_lookup_insert (∅ : Table Int ChatInfo) supergroupChat chatId ⟨.supergroup 5, "Readers"⟩ chat
    (fun chatId chat => chatId ≠ 0 ∧ TypeKnown joinedCaches chat.type) ⟨by decide, rfl⟩ (fun _ absent => (nomatch absent)) found

theorem removed_reached :
    Transition.Reach (requests (fun _ _ => False) readChat fun _ => none) Transition.unrestricted removedPool := by
  have initial : (requests (fun _ _ => False) readChat fun _ => none).start ⟨joinedCaches, [], [], []⟩ :=
    ⟨joined_consistent, rfl, rfl, rfl⟩
  refine Transition.reach_follows _ _ removedEvents ⟨joinedCaches, [], [], []⟩ _ (.start _ initial) ?_
  refine ⟨trivial, trivial, _, rfl, trivial, trivial, _, rfl, trivial, trivial, _, rfl, ?_, trivial, _, rfl, rfl⟩
  rintro job request absorb resume ⟨⟩ ⟨⟩
  exact ⟨rfl, rfl, trivial⟩

theorem removed_bot_checked : ∃ refused sent, removedPool.finished = [refused, sent] ∧
    refused.result = .error (.failQuery 403 "Forbidden: bot was kicked from the supergroup chat" none) ∧
    sent.result = .ok (.send ⟨supergroupChat, none, some (.message (asTdlibMessageId 7) {})⟩) ∧
    Justified (fun _ _ => False) readChat (fun _ => none) answering sent.past sent.last sent.result := by
  have checked := (requests_checked_concurrently (fun _ _ => False) readChat fun _ => none).2 removedPool removed_reached
  refine ⟨_, _, rfl, rfl, rfl, ?_⟩
  exact checked.2 _ (List.mem_cons_of_mem _ List.mem_cons_self)

end Removed

end TelegramBotApi.RequestChecks
