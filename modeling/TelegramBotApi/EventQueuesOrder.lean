import TelegramBotApi.EventQueues

set_option autoImplicit false

namespace TelegramBotApi.EventQueues

open Checked Tables
open BotUsernames (TargetChat)
open Messages (ChatInfo MessageContent MessageFullId MessageInfo MessageTable)

variable (read : MessageContent → Content) (printTargetChat : TargetChat → String)

structure Sound (world : World) : Prop where
  inline : Messages.AllInline world.messages
  chats : ∀ chatId, world.chats.lookup chatId ≠ some (.supergroup none)

structure Grows (before after : World) : Prop where
  chats : ∀ chatId, chatId ∈ before.chats → chatId ∈ after.chats
  supergroups : ∀ chatId, (before.chats.lookup chatId).any isSupergroup = true →
    (after.chats.lookup chatId).any isSupergroup = true
  running : after.stopped = false → before.stopped = false

structure GoodMessage (world : World) (chatId : Int) (item : NewMessage) : Prop where
  chat : item.message.info.chatId = chatId
  known : chatId ∈ world.chats
  inline : item.message.info.HasInlineMarkup

def Good (world : World) : (key : Key) → key.Item → Prop
  | .newMessage chatId, item => GoodMessage world chatId item
  | .newCallbackQuery userId, query => query.senderUserId = userId ∧ userId ≠ 0
  | .newBusinessCallbackQuery userId, query => query.senderUserId = userId
  | .newBusinessMessage _, _ | .newGuestQuery _, _ => True

def Waits (world : World) : (key : Key) → key.Item → Request → Prop
  | .newMessage _, item, .repliedMessage => 0 < getSameChatReplyToMessageId read world (some item.message)
  | .newCallbackQuery _, _, .callbackQueryMessage state => state ≤ 1
  | _, _, .stickerSetNames missing _ => ∀ setId ∈ missing, setId ≠ 0
  | _, _, _ => False

def last : Key → Nat
  | .newMessage _ => 2
  | .newCallbackQuery _ => 3
  | .newBusinessMessage _ | .newGuestQuery _ | .newBusinessCallbackQuery _ => 1

def Request.resumesAt : Request → Nat
  | .repliedMessage => 1
  | .callbackQueryMessage state => state + 1
  | .stickerSetNames _ state => state

def contract : StagedQueues.Contract Key World Request Key.Item where
  Sound := Sound
  Grows := Grows
  Good := Good
  Waits := Waits read
  stopped := World.stopped
  last := last
  resumesAt := Request.resumesAt

theorem lookup_supergroup (world : World) (chatId : Int) :
    (world.chats.lookup chatId).any isSupergroup = true ↔ ∃ info, world.chats.lookup chatId = some (.supergroup info) := by
  cases world.chats.lookup chatId with
  | none => simp
  | some chat => cases chat <;> simp [isSupergroup]

theorem implicit_reply_grows (before after : World) (chatId messageId : Int) (topicId : Option MessageTopic)
    (grows : Grows before after) (positive : 0 < getImplicitReplyToMessageId before chatId messageId topicId) :
    getImplicitReplyToMessageId after chatId messageId topicId = getImplicitReplyToMessageId before chatId messageId topicId := by
  cases topicId with
  | none => rfl
  | some topicId =>
      cases topicId with
      | thread messageThreadId => rfl
      | directMessages => rfl
      | savedMessages => rfl
      | forum forumTopicId =>
          by_cases known : (before.chats.lookup chatId).any isSupergroup = true
          · obtain ⟨info, found⟩ := (lookup_supergroup before chatId).1 known
            obtain ⟨later, foundLater⟩ := (lookup_supergroup after chatId).1 (grows.supergroups chatId known)
            simp only [getImplicitReplyToMessageId, found, foundLater]
          · have none : getImplicitReplyToMessageId before chatId messageId (some (.forum forumTopicId)) ≤ 0 := by
              rw [lookup_supergroup] at known
              cases found : before.chats.lookup chatId with
              | none => simp [getImplicitReplyToMessageId, found]
              | some chat =>
                  cases chat with
                  | supergroup info => exact absurd ⟨info, found⟩ known
                  | privateChat => simp [getImplicitReplyToMessageId, found]
                  | group => simp [getImplicitReplyToMessageId, found]
                  | unknown => simp [getImplicitReplyToMessageId, found]
            omega

theorem same_chat_reply_grows (before after : World) (message : Option LinkedMessageInfo) (grows : Grows before after)
    (positive : 0 < getSameChatReplyToMessageId read before message) :
    0 < getSameChatReplyToMessageId read after message := by
  cases message with
  | none => exact positive
  | some message =>
      obtain ⟨info, links⟩ := message
      simp only [getSameChatReplyToMessageId] at positive ⊢
      split
      · rename_i explicit
        rwa [if_pos explicit] at positive
      · rename_i implicit
        rw [if_neg implicit] at positive
        cases found : links.replyToMessage with
        | none =>
            rw [found] at positive
            exact (implicit_reply_grows before after _ _ _ grows positive) ▸ positive
        | some reply =>
            rw [found] at positive
            dsimp only at positive ⊢
            split
            · rename_i origin
              rw [if_pos origin] at positive
              exact (implicit_reply_grows before after _ _ _ grows positive) ▸ positive
            · rename_i origin
              rwa [if_neg origin] at positive

theorem contract_lawful : (contract read).Lawful where
  refl _ := ⟨fun _ known => known, fun _ known => known, fun running => running⟩
  trans _ _ _ begins ends := ⟨fun chatId known => ends.chats chatId (begins.chats chatId known),
    fun chatId known => ends.supergroups chatId (begins.supergroups chatId known),
    fun running => begins.running (ends.running running)⟩
  good world after key item grows good := by
    cases key with
    | newMessage chatId => exact ⟨good.chat, grows.chats chatId good.known, good.inline⟩
    | newBusinessMessage connectionId => trivial
    | newGuestQuery chatId => trivial
    | newCallbackQuery userId => exact good
    | newBusinessCallbackQuery userId => exact good
  waits world after key item request grows waits := by
    cases key with
    | newMessage chatId =>
        cases request with
        | repliedMessage => exact same_chat_reply_grows read world after (some item.message) grows waits
        | callbackQueryMessage state => exact waits
        | stickerSetNames missing state => exact waits
    | newBusinessMessage connectionId => cases request <;> exact waits
    | newGuestQuery chatId => cases request <;> exact waits
    | newCallbackQuery userId => cases request <;> exact waits
    | newBusinessCallbackQuery userId => cases request <;> exact waits
  running _ _ grows running := grows.running running

theorem grows_of_same (before after : World) (chats : after.chats = before.chats)
    (stopped : after.stopped = before.stopped) : Grows before after :=
  ⟨fun _ known => chats ▸ known, fun _ known => chats ▸ known, fun running => stopped ▸ running⟩

theorem create_message_creates (message : TdMessage) :
    ∃ links, createMessage printTargetChat message = .ok ⟨Messages.created message.message, links⟩ := by
  unfold createMessage
  rw [Messages.create_message_created]
  exact ⟨_, rfl⟩

theorem create_business_message_creates (message : TdMessage) (replyToMessage : Option TdMessage) :
    ∃ created, createBusinessMessage printTargetChat message replyToMessage = .ok created := by
  obtain ⟨links, done⟩ := create_message_creates printTargetChat message
  unfold createBusinessMessage
  rw [done, ok_bind]
  cases replyToMessage with
  | none => exact ⟨_, rfl⟩
  | some replyToMessage =>
      obtain ⟨replyLinks, replyDone⟩ := create_message_creates printTargetChat replyToMessage
      dsimp only
      rw [replyDone]
      exact ⟨_, rfl⟩

theorem create_messages_creates (messages : List TdMessage) :
    ∃ created, messages.mapM (createMessage printTargetChat) = .ok created := by
  induction messages with
  | nil => exact ⟨[], rfl⟩
  | cons message rest ih =>
      obtain ⟨links, done⟩ := create_message_creates printTargetChat message
      obtain ⟨created, doneRest⟩ := ih
      rw [List.mapM_cons, done, ok_bind, doneRest]
      exact ⟨_, rfl⟩

theorem add_message_stored (world : World) (message : LinkedMessageInfo) (forceUpdateContent : Bool) (sound : Sound world)
    (own : message.info.HasInlineMarkup) :
    ∃ after stored, addMessage printTargetChat world message forceUpdateContent = .ok after ∧ Sound after ∧
      Grows world after ∧ after.chats = world.chats ∧ after.messages.lookup message.info.fullId = some stored := by
  have stores (stored : MessageInfo) (inline : stored.HasInlineMarkup)
      (added : Messages.addMessage printTargetChat world.messages message.info forceUpdateContent =
        .ok (world.messages.insert message.info.fullId stored)) :
      ∃ after stored, addMessage printTargetChat world message forceUpdateContent = .ok after ∧ Sound after ∧
        Grows world after ∧ after.chats = world.chats ∧ after.messages.lookup message.info.fullId = some stored := by
    unfold addMessage
    rw [added]
    refine ⟨_, stored, rfl, ⟨?_, sound.chats⟩, grows_of_same _ _ rfl rfl, rfl, AList.lookup_insert _⟩
    exact Messages.all_inline_insert _ _ _ sound.inline inline
  cases found : world.messages.lookup message.info.fullId with
  | none => exact stores message.info own (by rw [Messages.addMessage, found])
  | some old =>
      obtain ⟨merged, done, merges⟩ :=
        Messages.merge_message_merged printTargetChat old message.info forceUpdateContent (sound.inline _ _ found)
      refine stores merged merges.inline ?_
      rw [Messages.addMessage, found]
      dsimp only
      rw [done]
      rfl

theorem add_received_message_grows (world : World) (message : TdMessage) (forceUpdateContent : Bool) (sound : Sound world) :
    ∃ after, addReceivedMessage printTargetChat world message forceUpdateContent = .ok after ∧ Sound after ∧
      Grows world after := by
  obtain ⟨links, done⟩ := create_message_creates printTargetChat message
  obtain ⟨after, _, added, soundAfter, grows, _⟩ := add_message_stored printTargetChat world
    ⟨Messages.created message.message, links⟩ forceUpdateContent sound (Messages.created_inline message.message)
  unfold addReceivedMessage
  rw [done, ok_bind, added]
  exact ⟨after, rfl, soundAfter, grows⟩

theorem change_message_grows (world : World) (event : Messages.Event) (sound : Sound world) :
    ∃ after, changeMessage printTargetChat world event = .ok after ∧ Sound after ∧ Grows world after := by
  obtain ⟨messages, done, effect⟩ := Messages.step_effect printTargetChat world.messages event sound.inline
  unfold changeMessage
  rw [done]
  cases event <;> exact ⟨_, rfl, ⟨effect.inline, sound.chats⟩, grows_of_same _ _ rfl rfl⟩

theorem on_get_sticker_set_name_grows (world : World) (setId : Int) (name : String) (nonzero : setId ≠ 0) (sound : Sound world) :
    ∃ after, onGetStickerSetName world setId name = .ok after ∧ Sound after ∧ Grows world after := by
  unfold onGetStickerSetName
  rw [require_true _ _ nonzero, ok_bind]
  by_cases other : setId ≠ greatMindsSetId
  · rw [if_pos other]
    exact ⟨_, rfl, ⟨sound.inline, sound.chats⟩, grows_of_same _ _ rfl rfl⟩
  · rw [if_neg other]
    exact ⟨world, rfl, sound, grows_of_same _ _ rfl rfl⟩

theorem decides_to_skip_decides (surroundings : Messages.Surroundings) (chatId : Int) (messageInfo : MessageInfo)
    (known : chatId ≠ 0 → surroundings.chat ≠ none) (complete : surroundings.chat ≠ some (.supergroup none)) :
    ∃ decided, Messages.decidesToSkip surroundings chatId messageInfo = .ok decided := by
  by_cases none : chatId = 0
  · simp only [Messages.decidesToSkip, if_pos none, pure_bind]
    split_ifs <;> exact ⟨_, rfl⟩
  · obtain ⟨chat, found⟩ := Option.ne_none_iff_exists'.1 (known none)
    simp only [Messages.decidesToSkip, if_neg none, found, Option.elim_some, pure_bind]
    cases chat with
    | supergroup info =>
        cases info with
        | none => exact absurd found complete
        | some info =>
            simp only [Option.elim_some, pure_bind]
            split_ifs <;> exact ⟨_, rfl⟩
    | privateChat => split_ifs <;> exact ⟨_, rfl⟩
    | group => split_ifs <;> exact ⟨_, rfl⟩
    | unknown => split_ifs <;> exact ⟨_, rfl⟩

theorem need_skip_update_message_returns (world : World) (chatId : Int) (messageInfo : MessageInfo) (isEdited : Bool)
    (known : chatId ≠ 0 → chatId ∈ world.chats) (sound : Sound world) :
    ∃ skip, needSkipUpdateMessage world chatId messageInfo isEdited = .ok skip := by
  have present (named : chatId ≠ 0) : (surroundings world chatId).chat ≠ none := by
    obtain ⟨chat, found⟩ := lookup_of_mem world.chats chatId (known named)
    change world.chats.lookup chatId ≠ none
    rw [found]
    exact Option.some_ne_none chat
  obtain ⟨decided, done⟩ := decides_to_skip_decides (surroundings world chatId) chatId messageInfo present (sound.chats chatId)
  unfold needSkipUpdateMessage Messages.needSkipUpdateMessage
  rw [done, ok_bind]
  cases decided with
  | some skip => exact ⟨skip, rfl⟩
  | none =>
      dsimp only
      split
      · split
        · exact ⟨_, rfl⟩
        · exact ⟨_, rfl⟩
      · exact ⟨_, rfl⟩

theorem sticker_set_names_nonzero (world : World) (stickerSetIds missing : List Int) (state resume : Nat)
    (same : getStickerSetNames world stickerSetIds state = .stickerSetNames missing resume) : ∀ setId ∈ missing, setId ≠ 0 := by
  unfold getStickerSetNames at same
  cases same
  intro setId member
  have kept := (List.mem_filter.1 (List.mem_dedup.1 member)).2
  exact (of_decide_eq_true kept).1

theorem reset_content_changed_returns (messages : MessageTable) (fullId : MessageFullId) (inline : Messages.AllInline messages) :
    ∃ after, Messages.resetContentChanged messages fullId = .ok after ∧ Messages.AllInline after := by
  obtain ⟨after, done, effect⟩ := Messages.step_effect (fun _ => "") messages (.emitted fullId) inline
  exact ⟨after, done, effect.inline⟩

theorem new_message_update_type_returns (isEdited : Bool) (chat : ChatInfo) (complete : chat ≠ .supergroup none) :
    ∃ updateType, newMessageUpdateType isEdited chat = .ok updateType := by
  cases chat with
  | supergroup info =>
      cases info with
      | none => exact absurd rfl complete
      | some info =>
          rw [newMessageUpdateType]
          split
          · exact ⟨_, rfl⟩
          · exact ⟨_, rfl⟩
  | privateChat => exact ⟨_, rfl⟩
  | group => exact ⟨_, rfl⟩
  | unknown => exact ⟨_, rfl⟩

theorem new_message_finishes (chatId : Int) (world : World) (item : NewMessage) (state : Nat) (sound : Sound world)
    (good : GoodMessage world chatId item) (small : state ≤ 2) :
    ∃ after, (newMessageStages read printTargetChat chatId).finish world item state = .ok after ∧ Sound after ∧
      Grows world after := by
  obtain ⟨added, stored, adds, soundAdded, grows, chats, found⟩ :=
    add_message_stored printTargetChat world item.message false sound good.inline
  have known : chatId ∈ added.chats := grows.chats chatId good.known
  obtain ⟨skip, skips⟩ := need_skip_update_message_returns added chatId stored item.isEdited (fun _ => known) soundAdded
  obtain ⟨chat, foundChat⟩ := lookup_of_mem added.chats chatId known
  obtain ⟨updateType, typed⟩ := new_message_update_type_returns item.isEdited chat
    (fun same => soundAdded.chats chatId (foundChat.trans (congrArg some same)))
  obtain ⟨messages, reset, inline⟩ := reset_content_changed_returns added.messages item.message.info.fullId soundAdded.inline
  simp only [newMessageStages, require_true _ _ small, ok_bind, adds, found, Option.elim_some, pure_bind, skips]
  cases skip with
  | true => exact ⟨added, rfl, soundAdded, grows⟩
  | false =>
      simp only [Bool.false_eq_true, if_false, foundChat, Option.elim_some, pure_bind, typed, ok_bind, reset]
      refine ⟨_, rfl, ⟨inline, soundAdded.chats⟩, (contract_lawful read).trans _ _ _ grows (grows_of_same _ _ rfl rfl)⟩

theorem new_message_advances (chatId : Int) (world : World) (item : NewMessage) (state : Nat)
    (good : GoodMessage world chatId item) :
    ∃ result, (newMessageStages read printTargetChat chatId).advance world item state = .ok result ∧
      ∀ request, result = some request → Waits read world (.newMessage chatId) item request ∧ state < request.resumesAt ∧
        request.resumesAt ≤ 2 := by
  simp only [newMessageStages, require_true _ _ good.chat.symm, ok_bind]
  split
  · rename_i first
    refine ⟨_, rfl, fun request same => ?_⟩
    cases same
    exact ⟨first.2.1, by rw [first.1]; exact Nat.zero_lt_one, Nat.le_succ 1⟩
  · split
    · rename_i second
      refine ⟨_, rfl, fun request same => ?_⟩
      cases same
      exact ⟨sticker_set_names_nonzero world _ _ 2 2 rfl, Nat.lt_succ_of_le second.1, Nat.le_refl 2⟩
    · exact ⟨none, rfl, fun request same => by cases same⟩

theorem new_message_meets (chatId : Int) :
    (contract read).Meets (.newMessage chatId) (newMessageStages read printTargetChat chatId) where
  advances world item state _ good _ := new_message_advances read printTargetChat chatId world item state good
  finishes world item state sound good small := new_message_finishes read printTargetChat chatId world item state sound good small

theorem sticker_advances {Item : Type} (message : Item → LinkedMessageInfo) (finish : World → Item → Except Check World)
    (world : World) (item : Item) (state : Nat) :
    ∃ result, (stickerStages read message finish).advance world item state = .ok result ∧
      ∀ request, result = some request → ∃ missing, request = .stickerSetNames missing 1 ∧ (∀ setId ∈ missing, setId ≠ 0) ∧
        state = 0 := by
  simp only [stickerStages]
  split
  · rename_i first
    refine ⟨_, rfl, fun request same => ?_⟩
    cases same
    exact ⟨_, rfl, sticker_set_names_nonzero world _ _ 1 1 rfl, first.1⟩
  · exact ⟨none, rfl, fun request same => by cases same⟩

theorem sticker_meets (key : Key) (message : key.Item → LinkedMessageInfo) (finish : World → key.Item → Except Check World)
    (one : last key = 1) (waits : ∀ world item missing state, (∀ setId ∈ missing, setId ≠ 0) →
      Waits read world key item (.stickerSetNames missing state))
    (finishes : ∀ world item, Sound world → Good world key item →
      ∃ after, finish world item = .ok after ∧ Sound after ∧ Grows world after) :
    (contract read).Meets key (stickerStages read message finish) where
  advances world item state _ _ _ := by
    obtain ⟨result, done, promises⟩ := sticker_advances read message finish world item state
    refine ⟨result, done, fun request same => ?_⟩
    obtain ⟨missing, rfl, nonzero, rfl⟩ := promises request same
    exact ⟨waits world item missing 1 nonzero, Nat.zero_lt_one, Nat.le_of_eq one.symm⟩
  finishes world item state sound good small := by
    obtain ⟨after, done, soundAfter, grows⟩ := finishes world item sound good
    have bounded : state ≤ 1 := one ▸ small
    refine ⟨after, ?_, soundAfter, grows⟩
    simp only [stickerStages, require_true _ _ bounded, ok_bind, done]

theorem new_business_message_meets (connectionId : String) :
    (contract read).Meets (.newBusinessMessage connectionId) (newBusinessMessageStages read) := by
  refine sticker_meets read (.newBusinessMessage connectionId) NewMessage.message _ rfl (fun _ _ _ _ nonzero => nonzero)
    (fun world item sound _ => ?_)
  obtain ⟨skip, skips⟩ := need_skip_update_message_returns world 0 item.message.info item.isEdited
    (fun named => absurd rfl named) sound
  dsimp only
  rw [skips, ok_bind]
  cases skip with
  | true => exact ⟨world, rfl, sound, grows_of_same _ _ rfl rfl⟩
  | false => exact ⟨_, rfl, ⟨sound.inline, sound.chats⟩, grows_of_same _ _ rfl rfl⟩

theorem new_guest_query_meets (chatId : Int) :
    (contract read).Meets (.newGuestQuery chatId) (newGuestQueryStages read) := by
  refine sticker_meets read (.newGuestQuery chatId) id _ rfl (fun _ _ _ _ nonzero => nonzero) (fun world message sound _ => ?_)
  obtain ⟨skip, skips⟩ := need_skip_update_message_returns world 0 message.info false (fun named => absurd rfl named) sound
  rw [skips, ok_bind]
  cases skip with
  | true => exact ⟨world, rfl, sound, grows_of_same _ _ rfl rfl⟩
  | false => exact ⟨_, rfl, ⟨sound.inline, sound.chats⟩, grows_of_same _ _ rfl rfl⟩

theorem new_business_callback_query_meets (userId : Int) :
    (contract read).Meets (.newBusinessCallbackQuery userId) (newBusinessCallbackQueryStages read userId) := by
  refine sticker_meets read (.newBusinessCallbackQuery userId) BusinessCallbackQuery.message _ rfl
    (fun _ _ _ _ nonzero => nonzero) (fun world query sound good => ?_)
  rw [require_true _ _ (Eq.symm good), ok_bind]
  exact ⟨_, rfl, ⟨sound.inline, sound.chats⟩, grows_of_same _ _ rfl rfl⟩

theorem new_callback_query_advances (userId : Int) (world : World) (query : CallbackQuery) (state : Nat) :
    ∃ result, (newCallbackQueryStages read userId).advance world query state = .ok result ∧
      ∀ request, result = some request → Waits read world (.newCallbackQuery userId) query request ∧ state < request.resumesAt ∧
        request.resumesAt ≤ 3 := by
  simp only [newCallbackQueryStages]
  split
  · rename_i first
    refine ⟨_, rfl, fun request same => ?_⟩
    cases same
    exact ⟨Nat.zero_le 1, by rw [first.1]; exact Nat.zero_lt_one, by decide⟩
  · split
    · rename_i second
      refine ⟨_, rfl, fun request same => ?_⟩
      cases same
      exact ⟨Nat.le_refl 1, Nat.lt_succ_of_le second.1, by decide⟩
    · split
      · rename_i third
        refine ⟨_, rfl, fun request same => ?_⟩
        cases same
        exact ⟨sticker_set_names_nonzero world _ _ 3 3 rfl, Nat.lt_succ_of_le third.1, Nat.le_refl 3⟩
      · exact ⟨none, rfl, fun request same => by cases same⟩

theorem new_callback_query_meets (userId : Int) :
    (contract read).Meets (.newCallbackQuery userId) (newCallbackQueryStages read userId) where
  advances world query state _ _ _ := new_callback_query_advances read userId world query state
  finishes world query state sound good small := by
    have bounded : state ≤ 3 := small
    simp only [newCallbackQueryStages, require_true _ _ bounded, require_true _ _ (Eq.symm good.1), ok_bind]
    split
    · exact ⟨_, rfl, ⟨sound.inline, sound.chats⟩, grows_of_same _ _ rfl rfl⟩
    · exact ⟨world, rfl, sound, grows_of_same _ _ rfl rfl⟩

theorem stages_meets (key : Key) : (contract read).Meets key (stages read printTargetChat key) := by
  cases key with
  | newMessage chatId => exact new_message_meets read printTargetChat chatId
  | newBusinessMessage connectionId => exact new_business_message_meets read connectionId
  | newGuestQuery chatId => exact new_guest_query_meets read chatId
  | newCallbackQuery userId => exact new_callback_query_meets read userId
  | newBusinessCallbackQuery userId => exact new_business_callback_query_meets read userId

abbrev Inv (state : State) : Prop := StagedQueues.Inv (contract read) state

theorem arrive_returns (state : State) (key : Key) (item : key.Item) (inv : Inv read state) (good : Good state.world key item) :
    ∃ after, processQueue read printTargetChat (state.push key item) key 0 = .ok after ∧ Inv read after :=
  StagedQueues.arrive_inv (contract read) (contract_lawful read) state key _ (stages_meets read printTargetChat key)
    .unexpectedState key.emptyQueue item inv good

theorem resume_returns (state : State) (key : Key) (request : Request) (world : World) (stage : Nat) (inv : Inv read state)
    (member : (key, request) ∈ state.outstanding) (grows : Grows state.world world) (sound : Sound world) (positive : stage ≠ 0)
    (small : stage ≤ last key) (moved : request.resumesAt ≤ stage ∨
      ∀ item rest, state.items key = item :: rest → (stages read printTargetChat key).advance world item stage = .ok none) :
    ∃ after, processQueue read printTargetChat ((state.take key request).evolve world) key stage = .ok after ∧ Inv read after :=
  StagedQueues.resume_inv (contract read) (contract_lawful read) state key _ (stages_meets read printTargetChat key)
    .unexpectedState key.emptyQueue request world stage inv member grows sound positive small moved

theorem evolve_returns (state : State) (computation : Except Check World) (inv : Inv read state)
    (returns : ∃ after, computation = .ok after ∧ Sound after ∧ Grows state.world after) :
    ∃ after, (computation >>= fun world => pure (state.evolve world)) = .ok after ∧ Inv read after := by
  obtain ⟨after, done, sound, grows⟩ := returns
  rw [done]
  exact ⟨_, rfl, StagedQueues.evolve_inv (contract read) (contract_lawful read) state after inv grows sound⟩

theorem held_request (state : State) (key : Key) (request : Request) (inv : Inv read state)
    (member : (key, request) ∈ state.outstanding) : ∃ item rest, state.items key = item :: rest ∧
      Waits read state.world key item request ∧ 1 ≤ request.resumesAt ∧ request.resumesAt ≤ last key := by
  obtain ⟨item, rest, queue, _, waits, bounds⟩ := StagedQueues.held_request (contract read) state key request inv member
  exact ⟨item, rest, congrArg (fun queue => queue.elim [] StagedQueues.Queue.items) queue, waits, bounds⟩

-- The asserted reply is there because nothing it depends on was taken back.
theorem on_get_reply_message_returns (state : State) (chatId : Int) (message : Option TdMessage) (inv : Inv read state)
    (member : (.newMessage chatId, .repliedMessage) ∈ state.outstanding) :
    ∃ after, onGetReplyMessage read printTargetChat (state.take (.newMessage chatId) .repliedMessage) chatId message = .ok after ∧
      Inv read after := by
  obtain ⟨item, rest, items, waits, _⟩ := held_request read state (.newMessage chatId) .repliedMessage inv member
  have good : GoodMessage state.world chatId item := (inv.held (.newMessage chatId)).good item (items ▸ List.mem_cons_self)
  have resumes (world : World) (grows : Grows state.world world) (sound : Sound world) :=
    resume_returns read printTargetChat state (.newMessage chatId) .repliedMessage world 1 inv member grows sound one_ne_zero
      (show 1 ≤ 2 by decide) (.inl (Nat.le_refl 1))
  have positive : 0 < getSameChatReplyToMessageId read (state.take (.newMessage chatId) .repliedMessage).world
    (some item.message) := waits
  have front : (state.take (.newMessage chatId) .repliedMessage).items (.newMessage chatId) = item :: rest := items
  unfold onGetReplyMessage
  rw [front]
  dsimp only
  rw [require_true _ _ good.chat.symm, ok_bind, require_true _ _ positive, ok_bind]
  cases message with
  | none => exact resumes state.world ((contract_lawful read).refl _) inv.sound
  | some message =>
      obtain ⟨after, done, sound, grows⟩ := add_received_message_grows printTargetChat state.world message false inv.sound
      have added : addReceivedMessage printTargetChat (state.take (.newMessage chatId) .repliedMessage).world message false =
        .ok after := done
      dsimp only
      rw [added]
      exact resumes after grows sound

theorem missing_message_advances (userId : Int) (world : World) (query : CallbackQuery)
    (missing : getMessage world query.chatId query.messageId true = none) :
    (newCallbackQueryStages read userId).advance world query 1 = .ok none := by
  have nothing : getMessage world query.chatId 0 true = none := by simp [getMessage, Messages.getMessage]
  simp [newCallbackQueryStages, missing, getSameChatReplyToMessageId, getMessageStickerSetIds, nothing]

theorem on_get_callback_query_message_returns (state : State) (userId : Int) (requestState : Nat) (message : Option TdMessage)
    (inv : Inv read state) (member : (.newCallbackQuery userId, .callbackQueryMessage requestState) ∈ state.outstanding) :
    ∃ after, onGetCallbackQueryMessage read printTargetChat
        (state.take (.newCallbackQuery userId) (.callbackQueryMessage requestState)) message userId requestState = .ok after ∧
      Inv read after := by
  obtain ⟨query, rest, items, waits, _⟩ :=
    held_request read state (.newCallbackQuery userId) (.callbackQueryMessage requestState) inv member
  have early : requestState ≤ 1 := waits
  have named : userId ≠ 0 := ((inv.held (.newCallbackQuery userId)).good query (items ▸ List.mem_cons_self)).2
  have refl := (contract_lawful read).refl state.world
  have resumes (world : World) (grows : Grows state.world world) (sound : Sound world) :=
    resume_returns read printTargetChat state (.newCallbackQuery userId) (.callbackQueryMessage requestState) world
      (requestState + 1) inv member grows sound (Nat.succ_ne_zero _) (show requestState + 1 ≤ 3 by omega) (.inl (Nat.le_refl _))
  have front : (state.take (.newCallbackQuery userId) (.callbackQueryMessage requestState)).items (.newCallbackQuery userId) =
    query :: rest := items
  unfold onGetCallbackQueryMessage
  rw [require_true _ _ named, ok_bind, front]
  cases message with
  | some message =>
      obtain ⟨after, done, sound, grows⟩ := add_received_message_grows printTargetChat state.world message false inv.sound
      have added : addReceivedMessage printTargetChat
        (state.take (.newCallbackQuery userId) (.callbackQueryMessage requestState)).world message false = .ok after := done
      dsimp only
      rw [added]
      exact resumes after grows sound
  | none =>
      dsimp only
      by_cases first : requestState = 0
      · rw [if_pos first]
        exact resumes state.world refl inv.sound
      · have second : requestState = 1 := by omega
        rw [if_neg first, require_true _ _ second, ok_bind]
        by_cases missing : getMessage state.world query.chatId query.messageId true = none
        · refine (if_pos missing).symm ▸ ?_
          rw [second] at member ⊢
          refine resume_returns read printTargetChat state (.newCallbackQuery userId) (.callbackQueryMessage 1) state.world 1 inv
            member refl inv.sound one_ne_zero (show 1 ≤ 3 by decide) (.inr fun item others same => ?_)
          rw [items] at same
          cases same
          exact missing_message_advances read userId state.world query missing
        · refine (if_neg missing).symm ▸ ?_
          exact resumes state.world refl inv.sound

theorem waits_sticker_set_names (world : World) (key : Key) (item : key.Item) (missing : List Int) (stage : Nat) :
    Waits read world key item (.stickerSetNames missing stage) ↔ ∀ setId ∈ missing, setId ≠ 0 := by
  cases key <;> exact Iff.rfl

theorem on_sticker_set_name_answer_grows (world : World) (setId : Int) (answer : StickerSetNameAnswer) (nonzero : setId ≠ 0)
    (sound : Sound world) : ∃ after, onStickerSetNameAnswer world setId answer = .ok after ∧ Sound after ∧ Grows world after := by
  cases answer with
  | text name => exact on_get_sticker_set_name_grows world setId name nonzero sound
  | stickerSetInvalid => exact on_get_sticker_set_name_grows world setId "" nonzero sound
  | error => exact ⟨world, rfl, sound, grows_of_same _ _ rfl rfl⟩

theorem sticker_set_name_returns (state : State) (key : Key) (missing : List Int) (stage : Nat) (setId : Int)
    (answer : StickerSetNameAnswer) (inv : Inv read state) (member : (key, .stickerSetNames missing stage) ∈ state.outstanding)
    (asked : setId ∈ missing) :
    ∃ after, step read printTargetChat state (.stickerSetName key missing stage setId answer) = .ok after ∧ Inv read after := by
  obtain ⟨item, rest, _, waits, _⟩ := held_request read state key _ inv member
  have nonzero := (waits_sticker_set_names read _ key item missing stage).1 waits
  obtain ⟨after, done, sound, grows⟩ :=
    on_sticker_set_name_answer_grows state.world setId answer (nonzero setId asked) inv.sound
  have evolved := StagedQueues.evolve_inv (contract read) (contract_lawful read) state after inv grows sound
  rw [step, done]
  refine ⟨_, rfl, StagedQueues.replace_inv (contract read) (contract_lawful read) (state.evolve after) key _ _ evolved member
    (fun other _ => ?_) rfl⟩
  refine (waits_sticker_set_names read _ key other (missing.erase setId) stage).2 (fun left remains => ?_)
  exact nonzero left (List.mem_of_mem_erase remains)

theorem add_new_message_returns (state : State) (message : TdMessage) (isEdited : Bool) (inv : Inv read state)
    (offered : enabled state (.newMessage message isEdited)) :
    ∃ after, addNewMessage read printTargetChat state message isEdited = .ok after ∧ Inv read after := by
  unfold addNewMessage
  split
  · exact ⟨state, rfl, inv⟩
  · obtain ⟨links, done⟩ := create_message_creates printTargetChat message
    dsimp only
    rw [require_true _ _ offered.1, ok_bind, done, ok_bind]
    exact arrive_returns read printTargetChat state (.newMessage message.message.chatId) _ inv
      ⟨rfl, offered.2, Messages.created_inline message.message⟩

theorem add_new_business_message_returns (state : State) (connectionId : String) (message : TdMessage)
    (replyToMessage : Option TdMessage) (isEdited : Bool) (inv : Inv read state) (named : connectionId ≠ "") :
    ∃ after, addNewBusinessMessage read printTargetChat state connectionId message replyToMessage isEdited = .ok after ∧
      Inv read after := by
  obtain ⟨created, done⟩ := create_business_message_creates printTargetChat message replyToMessage
  unfold addNewBusinessMessage
  rw [require_true _ _ named, ok_bind, done, ok_bind]
  exact arrive_returns read printTargetChat state (.newBusinessMessage connectionId) ⟨created, isEdited⟩ inv trivial

theorem add_new_guest_query_returns (state : State) (id : Int) (message : TdMessage) (referenceMessages : List TdMessage)
    (inv : Inv read state) (named : id ≠ 0) :
    ∃ after, addNewGuestQuery read printTargetChat state id message referenceMessages = .ok after ∧ Inv read after := by
  obtain ⟨links, done⟩ := create_message_creates printTargetChat message
  obtain ⟨references, doneReferences⟩ := create_messages_creates printTargetChat referenceMessages
  unfold addNewGuestQuery
  rw [require_true _ _ named, ok_bind, done, ok_bind, doneReferences, ok_bind]
  exact arrive_returns read printTargetChat state (.newGuestQuery message.message.chatId) _ inv trivial

theorem add_new_callback_query_returns (state : State) (query : CallbackQuery) (inv : Inv read state)
    (named : query.senderUserId ≠ 0) :
    ∃ after, addNewCallbackQuery read printTargetChat state query = .ok after ∧ Inv read after := by
  unfold addNewCallbackQuery
  dsimp only
  rw [require_true _ _ named, ok_bind]
  exact arrive_returns read printTargetChat state (.newCallbackQuery query.senderUserId) query inv ⟨rfl, named⟩

theorem add_new_business_callback_query_returns (state : State) (id senderUserId : Int) (message : TdMessage)
    (replyToMessage : Option TdMessage) (inv : Inv read state) (named : senderUserId ≠ 0) :
    ∃ after, addNewBusinessCallbackQuery read printTargetChat state id senderUserId message replyToMessage = .ok after ∧
      Inv read after := by
  obtain ⟨created, done⟩ := create_business_message_creates printTargetChat message replyToMessage
  unfold addNewBusinessCallbackQuery
  dsimp only
  rw [require_true _ _ named, ok_bind, done, ok_bind]
  exact arrive_returns read printTargetChat state (.newBusinessCallbackQuery senderUserId) ⟨id, senderUserId, created⟩ inv rfl

theorem sticker_set_names_returns (state : State) (key : Key) (stage : Nat) (inv : Inv read state)
    (member : (key, .stickerSetNames [] stage) ∈ state.outstanding) :
    ∃ after, processQueue read printTargetChat (state.take key (.stickerSetNames [] stage)) key stage = .ok after ∧
      Inv read after := by
  obtain ⟨_, _, _, _, positive, small⟩ := held_request read state key _ inv member
  exact resume_returns read printTargetChat state key (.stickerSetNames [] stage) state.world stage inv member
    ((contract_lawful read).refl _) inv.sound (Nat.one_le_iff_ne_zero.1 positive) small (.inl (Nat.le_refl stage))

theorem chat_updated_grows (world : World) (chatId : Int) (chat : ChatInfo) (complete : chat ≠ .supergroup none)
    (stays : (world.chats.lookup chatId).any isSupergroup = true → isSupergroup chat = true) (sound : Sound world) :
    Sound { world with chats := world.chats.insert chatId chat } ∧
      Grows world { world with chats := world.chats.insert chatId chat } := by
  refine ⟨⟨sound.inline, fun other found => ?_⟩, fun other known => AList.mem_insert _ |>.2 (.inr known), fun other known => ?_,
    fun running => running⟩
  · rw [lookup_insert] at found
    split at found
    · exact complete (Option.some.inj found)
    · exact sound.chats other found
  · dsimp only
    rw [lookup_insert]
    split
    · rename_i same
      exact stays (same ▸ known)
    · exact known

theorem step_returns (state : State) (event : Event) (inv : Inv read state) (offered : enabled state event) :
    ∃ after, step read printTargetChat state event = .ok after ∧ Inv read after := by
  have evolves (world : World) (sound : Sound world) (grows : Grows state.world world) :
      ∃ after, (.ok (state.evolve world) : Except Check State) = .ok after ∧ Inv read after :=
    evolve_returns read state (.ok world) inv ⟨world, rfl, sound, grows⟩
  cases event with
  | newMessage message isEdited => exact add_new_message_returns read printTargetChat state message isEdited inv offered
  | newBusinessMessage connectionId message replyToMessage isEdited =>
      exact add_new_business_message_returns read printTargetChat state connectionId message replyToMessage isEdited inv offered
  | newGuestQuery id message referenceMessages =>
      exact add_new_guest_query_returns read printTargetChat state id message referenceMessages inv offered
  | newCallbackQuery query => exact add_new_callback_query_returns read printTargetChat state query inv offered
  | newBusinessCallbackQuery id senderUserId message replyToMessage =>
      exact add_new_business_callback_query_returns read printTargetChat state id senderUserId message replyToMessage inv offered
  | replyMessage chatId message => exact on_get_reply_message_returns read printTargetChat state chatId message inv offered
  | callbackQueryMessage userId requestState message =>
      exact on_get_callback_query_message_returns read printTargetChat state userId requestState message inv offered
  | stickerSetName key missing stage setId answer =>
      exact sticker_set_name_returns read printTargetChat state key missing stage setId answer inv offered.1 offered.2
  | stickerSetNames key stage => exact sticker_set_names_returns read printTargetChat state key stage inv offered
  | stickerSetNameReceived setId name =>
      exact evolve_returns read state _ inv (on_get_sticker_set_name_grows state.world setId name offered inv.sound)
  | messageReceived message forceUpdateContent =>
      exact evolve_returns read state _ inv
        (add_received_message_grows printTargetChat state.world message forceUpdateContent inv.sound)
  | messageChanged event =>
      exact evolve_returns read state _ inv (change_message_grows printTargetChat state.world event inv.sound)
  | chatUpdated chatId chat =>
      obtain ⟨sound, grows⟩ := chat_updated_grows state.world chatId chat offered.1 offered.2 inv.sound
      exact evolves _ sound grows
  | clockRead unixTime => exact evolves _ ⟨inv.sound.inline, inv.sound.chats⟩ (grows_of_same _ _ rfl rfl)
  | loggingOut =>
      exact evolves _ ⟨inv.sound.inline, inv.sound.chats⟩ ⟨fun _ known => known, fun _ known => known,
        fun running => by cases running⟩
  | closing =>
      refine evolves _ ⟨inv.sound.inline, inv.sound.chats⟩ ⟨fun _ known => known, fun _ known => known, fun running => ?_⟩
      rw [World.stopped, Bool.or_true] at running
      cases running

theorem inv_start (state : State) (initial : (machine read printTargetChat).start state) : Inv read state := by
  obtain ⟨unixTime, authorizationDate, myId, rfl⟩ := initial
  refine ⟨⟨fun fullId messageInfo found => (by cases found), fun chatId found => (by cases found)⟩, fun key => ?_⟩
  exact ⟨.inl ⟨rfl, rfl⟩, fun item member => (by cases member), List.nil_prefix, fun _ => rfl, fun _ => Nat.zero_le _⟩

theorem step_passes (before : State) (event : Event) (inv : Inv read before) (offered : enabled before event) :
    Passes (Inv read) (step read printTargetChat before event) := by
  obtain ⟨after, done, invAfter⟩ := step_returns read printTargetChat before event inv offered
  rw [done]
  exact invAfter

theorem inv_of_reach (state : State) (reached : Transition.Reach (machine read printTargetChat) Transition.unrestricted state) :
    Inv read state :=
  Transition.reach_meets (machine read printTargetChat) Transition.unrestricted _ (Inv read) (inv_start read printTargetChat)
    (fun before event inv offered _ => step_passes read printTargetChat before event inv offered) state reached

section Examples

def readSticker (content : MessageContent) : Content := if content.body = "sticker" then .messageSticker 5 else .other

def inChat (id : Int) (body : String) (replyTo : Option ReplyToMessage) : TdMessage where
  message := { chatId := 7, id := id, date := 1000, content := ⟨.other body, body⟩ }
  replyTo := replyTo

end Examples

end TelegramBotApi.EventQueues
